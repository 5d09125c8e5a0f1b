import ApiToken.Media.Attempt

/-!
# Creating a Tripo3D task

The verdicts of the Tripo3D plane, how an answer to the create call is read,
and the loop of `handle_create` from its first attempt on.
-/

namespace ApiToken.Media.Tripo3d

open Meter (Value)

/-! ## Verdicts -/

inductive UpstreamVerdict where
  | ok
  | rateLimitedHard
  | insufficientBalance
  | authRefused
  | transport
  | clientError
  | protocol
deriving DecidableEq

def errorBusinessCode (payload : Value) : Option Nat :=
  match payload.get "code" with
  | some (.number (.posInt n)) => if n.toNat < 2 ^ 32 then some n.toNat else none
  | some (.string text) => parseU32 text
  | _ => none

def classifyHttpStatus (status : Nat) : UpstreamVerdict :=
  if 200 ≤ status ∧ status ≤ 299 then .protocol
  else if status = 401 then .authRefused
  else if status = 403 then .authRefused
  else if status = 408 ∨ status = 409 ∨ status = 425 ∨ status = 429 then .transport
  else if 500 ≤ status ∧ status ≤ 599 then .transport
  else .clientError

def classifyStatus (status : Nat) (businessCode : Option Nat) : UpstreamVerdict :=
  match businessCode with
  | some 0 => if 200 ≤ status ∧ status < 300 then .ok else classifyHttpStatus status
  | some 2000 => .rateLimitedHard
  | some 1007 => .transport
  | some 2010 => .insufficientBalance
  | some _ => classifyHttpStatus status
  | none => classifyHttpStatus status

def mayRotate : UpstreamVerdict → Bool
  | .rateLimitedHard | .insufficientBalance | .authRefused | .transport => true
  | _ => false

def spendsTransportBudget (verdict : UpstreamVerdict) : Bool := verdict = .transport

inductive ProfileEffect where
  | none
  | coolRateLimited
  | restForBalance
  | softAuthFault
  | transportFault

def effectFor : UpstreamVerdict → ProfileEffect
  | .rateLimitedHard => .coolRateLimited
  | .insufficientBalance => .restForBalance
  | .authRefused => .softAuthFault
  | .transport => .transportFault
  | .ok | .clientError | .protocol => .none

def axes : Axes UpstreamVerdict ProfileEffect where
  ok := .ok
  clientError := .clientError
  protocol := .protocol
  mayRotate := mayRotate
  spendsTransportBudget := spendsTransportBudget
  noEffect := .none
  effectFor := effectFor

def decide (verdict : UpstreamVerdict) (phase : Phase) (policy : AttemptPolicy)
    (eligibleProfilesLeft : Nat) : Decision ProfileEffect :=
  axes.decide verdict phase policy eligibleProfilesLeft

/-- The id of the created task, or what the answer means for the profile.
`decode` is the JSON library. -/
def parseCreateTask (decode : List UInt8 → Option Value) (status : Nat) (body : List UInt8) :
    Except UpstreamVerdict String :=
  let parsed := decode body
  let verdict := classifyStatus status (parsed.bind errorBusinessCode)
  if verdict ≠ .ok then .error verdict
  else
    match (((parsed.bind (Value.get "data")).bind (Value.get "task_id")).bind
        Value.asStr).filter (· ≠ "") with
    | some taskId => .ok taskId
    | none => .error .protocol

/-! ## The loop -/

inductive Hard where
  | rateLimited
  | balanceWall
  | balanceShortfall

inductive Soft where
  | authCooling
  | transportWedged

def selectProfile (fleet : List (Candidate Hard Soft)) (excluded : List String)
    (sticky : Option String) (cursor : Nat) : Option String :=
  let candidates := fleet.filter fun c => c.profileId ∉ excluded
  match sticky with
  | some pinnedId =>
    (candidates.find? fun c => c.profileId = pinnedId && c.hard.isNone).map Candidate.profileId
  | none => (selectEither candidates cursor).map Candidate.profileId

def responseBodyLimit : Nat := 1024 * 1024

structure Round where
  fleet : List (Candidate Hard Soft)
  cursor : Nat
  exchange : Exchange
  now : Int
  fleetAfter : List (Candidate Hard Soft)
  delivering : Bool
  tracked : Bool

structure Attempt where
  profile : String
  before : Loop
  round : Round
  effect : ProfileEffect
  retryAfter : Option Int

def Attempt.left (a : Attempt) : Nat :=
  remainingCount a.round.fleetAfter a.before.excluded a.profile

/-- One round of the loop of `handle_create`. -/
def createTurn (decode : List UInt8 → Option Value) (sticky : Option String) (loop : Loop)
    (round : Round) : Turn Loop Attempt Reply :=
  match selectProfile round.fleet loop.excluded sticky round.cursor with
  | none => .giveUp (.error .capacity)
  | some profile =>
    let left := remainingCount round.fleetAfter loop.excluded profile
    match send round.exchange with
    | .error failure =>
      -- every failure to send is decided as a transport fault before creation
      let decision := decide .transport .beforeCreate loop.policy left
      afterDecision loop profile decision ⟨profile, loop, round, decision.effect, none⟩
        fun _ => .error failure
    | .ok response =>
      match readBounded responseBodyLimit response with
      | .error failure => .stop ⟨profile, loop, round, .none, none⟩ (.error failure)
      | .ok body =>
        match parseCreateTask decode response.status body with
        | .ok _ =>
          .stop ⟨profile, loop, round, .none, none⟩
            (createdReply "tripo3d" round.delivering round.tracked)
        | .error verdict =>
          let decision := decide verdict .beforeCreate loop.policy left
          afterDecision loop profile decision
            ⟨profile, loop, round, decision.effect, response.retryUntil round.now⟩
            (refusedReply response.status)

def createLoop (decode : List UInt8 → Option Value) (sticky : Option String)
    (rounds : List Round) : Attempts Attempt Reply :=
  attempts (createTurn decode sticky) {} rounds

/-! ## What the provider may have done -/

def Attempt.taskId (decode : List UInt8 → Option Value) (a : Attempt) : Option String :=
  match send a.round.exchange with
  | .error _ => none
  | .ok response =>
    match readBounded responseBodyLimit response with
    | .error _ => none
    | .ok body => (parseCreateTask decode response.status body).toOption

def Attempt.mayHaveCreated (decode : List UInt8 → Option Value) (a : Attempt) : Bool :=
  match a.round.exchange with
  | .unsent => false
  | .lost => true
  | .answered status retryAfter stream =>
    match readBounded responseBodyLimit ⟨status, retryAfter, stream⟩ with
    | .error _ => true
    | .ok body =>
      match parseCreateTask decode status body with
      | .ok _ => true
      | .error verdict => verdict = .protocol

/-- The call left and no answer came back. -/
def Attempt.lost (a : Attempt) : Prop := a.round.exchange = .lost

def Attempt.Blind (a : Attempt) : Prop :=
  a.lost ∧ 2 ≤ a.before.policy.transportBudget ∧ a.left ≠ 0

end ApiToken.Media.Tripo3d
