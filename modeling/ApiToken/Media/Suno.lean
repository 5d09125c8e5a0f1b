import ApiToken.Media.Attempt

/-!
# Creating a Suno generation

The verdicts of the Suno plane, the calls an attempt makes before and at the
create call, and the loop of `handle_create` from its first attempt on.
-/

namespace ApiToken.Media.Suno

open Meter (Value)

/-! ## Verdicts -/

inductive UpstreamVerdict where
  | ok
  | rateLimitedHard
  | quotaExhausted
  | authRefused
  | captchaRequired
  | transport
  | clientError
  | protocol
deriving DecidableEq

def classifyStatus (status : Nat) : UpstreamVerdict :=
  if 200 ≤ status ∧ status ≤ 299 then .ok
  else if status = 401 ∨ status = 403 then .authRefused
  else if status = 429 then .rateLimitedHard
  else if status = 408 ∨ (500 ≤ status ∧ status ≤ 599) then .transport
  else .clientError

def mayRotate : UpstreamVerdict → Bool
  | .rateLimitedHard | .quotaExhausted | .authRefused | .captchaRequired | .transport => true
  | _ => false

def spendsTransportBudget (verdict : UpstreamVerdict) : Bool := verdict = .transport

inductive ProfileEffect where
  | none
  | coolRateLimited
  | restForQuota
  | softAuthFault
  | softCaptchaGate
  | transportFault

def effectFor : UpstreamVerdict → ProfileEffect
  | .rateLimitedHard => .coolRateLimited
  | .quotaExhausted => .restForQuota
  | .authRefused => .softAuthFault
  | .captchaRequired => .softCaptchaGate
  | .transport => .transportFault
  | .ok | .clientError | .protocol => .none

def axes : Axes UpstreamVerdict ProfileEffect where
  ok := .ok
  clientError := .clientError
  protocol := .protocol
  mayRotate := mayRotate
  spendsTransportBudget := spendsTransportBudget
  noEffect := .none
  effectFor := effectFor

def decide (verdict : UpstreamVerdict) (phase : Phase) (policy : AttemptPolicy)
    (eligibleProfilesLeft : Nat) : Decision ProfileEffect :=
  axes.decide verdict phase policy eligibleProfilesLeft

/-! ## Reading the answers -/

def maxProviderTokenLen : Nat := 8192

def providerId (entry : Value) : Option String :=
  ((entry.get "id").bind Value.asStr).filter
    fun id => id ≠ "" ∧ id.utf8ByteSize ≤ maxProviderTokenLen

def parseCreatedIds (decode : List UInt8 → Option Value) (status : Nat) (body : List UInt8) :
    Except UpstreamVerdict (List String) :=
  let verdict := classifyStatus status
  if verdict ≠ .ok then .error verdict
  else
    match decode body with
    | none => .error .protocol
    | some (.array entries) =>
      match entries.mapM providerId with
      | none | some [] => .error .protocol
      | some ids => .ok ids
    | some parsed =>
      match providerId parsed with
      | none => .error .protocol
      | some id => .ok [id]

/-- Whether the hCaptcha gate is up. -/
def parseCaptchaCheck (decode : List UInt8 → Option Value) (status : Nat) (body : List UInt8) :
    Except UpstreamVerdict Bool :=
  let verdict := classifyStatus status
  if verdict ≠ .ok then .error verdict
  else
    match (decode body).bind (Value.get "required") with
    | some (.bool required) => .ok required
    | _ => .error .protocol

/-! ## One attempt -/

/-- Why no token could be minted. -/
inductive SessionError where
  | invalid
  | transport
  | protocol

def SessionError.verdict : SessionError → UpstreamVerdict
  | .invalid => .authRefused
  | .transport => .transport
  | .protocol => .protocol

def errorBodyLimit : Nat := 64 * 1024
def responseBodyLimit : Nat := 1024 * 1024

/-- The free call before a creation; `observed` is whether the rotated
cookies of the answer could be kept. -/
def captchaRequired (decode : List UInt8 → Option Value) (exchange : Exchange)
    (observed : Bool) : Except UpstreamVerdict Bool :=
  match send exchange with
  | .error _ => .error .transport
  | .ok response =>
    match readBounded errorBodyLimit response with
    | .error _ => .error .transport
    | .ok body =>
      if observed then parseCaptchaCheck decode response.status body
      else .error .transport

/-- An attempt refused: the verdict, when the profile may be tried again, and
the status that is surfaced. -/
structure Refusal where
  verdict : UpstreamVerdict
  retryAfter : Option Int
  status : Nat

def sendCreate (decode : List UInt8 → Option Value) (exchange : Exchange) (now : Int) :
    Except Refusal (List String) :=
  match send exchange with
  | .error _ => .error ⟨.transport, none, 502⟩
  | .ok response =>
    match readBounded responseBodyLimit response with
    -- an answer whose body fails is decided like a call that never left
    | .error _ => .error ⟨.transport, none, response.status⟩
    | .ok body =>
      match parseCreatedIds decode response.status body with
      | .ok ids => .ok ids
      | .error verdict => .error ⟨verdict, response.retryUntil now, response.status⟩

inductive Hard where
  | rateLimited
  | quotaExhausted
  | quotaShortfall

inductive Soft where
  | authCooling
  | captchaRequired
  | transportWedged

structure Round where
  fleet : List (Candidate Hard Soft)
  cursor : Nat
  jwt : Except SessionError Unit
  captcha : Exchange
  observed : Bool
  exchange : Exchange
  now : Int
  fleetAfter : List (Candidate Hard Soft)
  delivering : Bool
  tracked : Bool

/-- What stands before the create call: a token, and no gate. -/
def precheck (decode : List UInt8 → Option Value) (round : Round) : Except Refusal Unit :=
  match round.jwt with
  | .error error => .error ⟨error.verdict, none, 502⟩
  | .ok _ =>
    match captchaRequired decode round.captcha round.observed with
    | .error verdict => .error ⟨verdict, none, 502⟩
    | .ok true => .error ⟨.captchaRequired, none, 200⟩
    | .ok false => .ok ()

def precheckAndCreate (decode : List UInt8 → Option Value) (round : Round) :
    Except Refusal (List String) :=
  match precheck decode round with
  | .error refusal => .error refusal
  | .ok _ => sendCreate decode round.exchange round.now

/-! ## The loop -/

def selectProfile (fleet : List (Candidate Hard Soft)) (excluded : List String)
    (cursor : Nat) : Option String :=
  (selectEither (fleet.filter fun c => c.profileId ∉ excluded) cursor).map Candidate.profileId

structure Attempt where
  profile : String
  before : Loop
  round : Round
  effect : ProfileEffect
  retryAfter : Option Int

def Attempt.left (a : Attempt) : Nat :=
  remainingCount a.round.fleetAfter a.before.excluded a.profile

/-- One round of the loop of `handle_create`. -/
def createTurn (decode : List UInt8 → Option Value) (loop : Loop) (round : Round) :
    Turn Loop Attempt Reply :=
  match selectProfile round.fleet loop.excluded round.cursor with
  | none => .giveUp (.error .capacity)
  | some profile =>
    match precheckAndCreate decode round with
    | .ok _ =>
      .stop ⟨profile, loop, round, .none, none⟩
        (createdReply "suno" round.delivering round.tracked)
    | .error refusal =>
      let left := remainingCount round.fleetAfter loop.excluded profile
      let decision := decide refusal.verdict .beforeCreate loop.policy left
      afterDecision loop profile decision
        ⟨profile, loop, round, decision.effect, refusal.retryAfter⟩
        (refusedReply refusal.status)

def createLoop (decode : List UInt8 → Option Value) (rounds : List Round) :
    Attempts Attempt Reply :=
  attempts (createTurn decode) {} rounds

/-! ## What the provider may have done -/

def Attempt.called (decode : List UInt8 → Option Value) (a : Attempt) : Bool :=
  (precheck decode a.round).isOk

def Attempt.ids (decode : List UInt8 → Option Value) (a : Attempt) : Option (List String) :=
  (precheckAndCreate decode a.round).toOption

def Attempt.mayHaveCreated (decode : List UInt8 → Option Value) (a : Attempt) : Bool :=
  a.called decode &&
    match a.round.exchange with
    | .unsent => false
    | .lost => true
    | .answered status retryAfter stream =>
      match readBounded responseBodyLimit ⟨status, retryAfter, stream⟩ with
      | .error _ => true
      | .ok body =>
        match parseCreatedIds decode status body with
        | .ok _ => true
        | .error verdict => verdict = .protocol

/-- The call left, and no answer came back or its body could not be read. -/
def Attempt.lost (decode : List UInt8 → Option Value) (a : Attempt) : Prop :=
  a.called decode = true ∧
    match a.round.exchange with
    | .unsent => False
    | .lost => True
    | .answered status retryAfter stream =>
      (readBounded responseBodyLimit ⟨status, retryAfter, stream⟩).isOk = false

def Attempt.Blind (decode : List UInt8 → Option Value) (a : Attempt) : Prop :=
  a.lost decode ∧ 2 ≤ a.before.policy.transportBudget ∧ a.left ≠ 0

end ApiToken.Media.Suno
