import Mathlib.Data.List.Sort
import ApiToken.Lib.Decimal
import ApiToken.Lib.Retry
import ApiToken.Meter.Usage

/-!
# The attempt loop of the media planes

Tripo3D and Suno create a paid task upstream and try it on one profile after
another. What the two planes share is here: what a call over the network can
come to, how much of it the gateway sees, the choice of a profile, and the
decision after an attempt, which is one function of what the verdicts of a
plane mean.
-/

namespace ApiToken.Media

open Meter (Value)

/-! ## Calls -/

/-- What one call over the network comes to. -/
inductive Exchange where
  /-- It failed before the request left. -/
  | unsent
  /-- The request left, and no answer came back. -/
  | lost
  /-- An answer began: its status, its `Retry-After` when that is text, and
  the pieces of its body; a piece that is `none` is where reading failed. -/
  | answered (status : Nat) (retryAfter : Option String) (stream : List (Option (List UInt8)))

inductive GatewayFailure where
  | transport
  | protocol
  | capacity
  | unavailable (what : String)
  | upstream (status : Nat)

/-- An answer that began. -/
structure Response where
  status : Nat
  retryAfter : Option String
  stream : List (Option (List UInt8))

def send : Exchange → Except GatewayFailure Response
  | .unsent | .lost => .error .transport
  | .answered status retryAfter stream => .ok ⟨status, retryAfter, stream⟩

/-- The loop of `read_bounded` with the bytes read so far. -/
def readFrom (limit : Nat) (body : List UInt8) :
    List (Option (List UInt8)) → Except GatewayFailure (List UInt8)
  | [] => .ok body
  | none :: _ => .error .transport
  | some chunk :: rest =>
    if body.length + chunk.length > limit then .error .protocol
    else readFrom limit (body ++ chunk) rest

def readBounded (limit : Nat) (response : Response) : Except GatewayFailure (List UInt8) :=
  readFrom limit [] response.stream

/-- `str::trim` and `str::parse` at `u32`. -/
def parseU32 (text : String) : Option Nat :=
  (match trim text.toList with
    | '+' :: ds => parseDigits ds
    | ds => parseDigits ds).filter (· < 2 ^ 32)

/-- Delta-seconds only. -/
def parseRetryAfter (value : String) : Option Int :=
  ((parseInteger (String.ofList (trim value.toList))).filter
    (fun seconds => -2 ^ 63 ≤ seconds ∧ seconds < 2 ^ 63)).filter (0 < ·)

/-- When the profile may be tried again, by the answer's own word. -/
def Response.retryUntil (response : Response) (now : Int) : Option Int :=
  (response.retryAfter.bind parseRetryAfter).map fun seconds => min (now + seconds) (2 ^ 63 - 1)

/-! ## The choice of a profile -/

/-- A profile as the selector sees it; `η` and `ς` are the plane's hard and
soft grounds of ineligibility. -/
structure Candidate (η ς : Type) where
  profileId : String
  hard : Option η
  soft : Option ς
  inflight : Nat

section Select

variable {η ς : Type}

def Candidate.isEligible (c : Candidate η ς) : Bool := c.hard.isNone && c.soft.isNone

def Candidate.isHardEligible (c : Candidate η ς) : Bool := c.hard.isNone

def pick (eligible : List (Candidate η ς)) (cursor : Nat) : Option (Candidate η ς) :=
  match (eligible.map Candidate.inflight).min? with
  | none => none
  | some best =>
    let tied := (eligible.filter (·.inflight = best)).insertionSort
      (fun left right => left.profileId ≤ right.profileId)
    tied[cursor % tied.length]?

def select (candidates : List (Candidate η ς)) (cursor : Nat) : Option (Candidate η ς) :=
  pick (candidates.filter Candidate.isEligible) cursor

def selectIgnoringSoft (candidates : List (Candidate η ς)) (cursor : Nat) :
    Option (Candidate η ς) :=
  pick (candidates.filter Candidate.isHardEligible) cursor

/-- The strict pass, then the pass that honours the hard axis only. -/
def selectEither (candidates : List (Candidate η ς)) (cursor : Nat) :
    Option (Candidate η ς) :=
  (select candidates cursor).orElse fun _ => selectIgnoringSoft candidates cursor

/-- The profiles still to be tried after `current`. -/
def remainingCount (fleet : List (Candidate η ς)) (excluded : List String)
    (current : String) : Nat :=
  let candidates := fleet.filter fun c => c.profileId ≠ current ∧ c.profileId ∉ excluded
  let strict := candidates.countP Candidate.isEligible
  if strict > 0 then strict else candidates.countP Candidate.isHardEligible

end Select

/-! ## The decision after an attempt -/

inductive Phase where
  | beforeCreate
  | created
deriving DecidableEq

/-- How many transport faults may still be spent. -/
structure AttemptPolicy where
  transportBudget : Nat := 3

inductive NextStep where
  | rotateToAnotherProfile
  | surfaceUpstreamError
  | surfaceCapacityExhausted
  | created
deriving DecidableEq

structure Decision (ε : Type) where
  next : NextStep
  effect : ε
  policy : AttemptPolicy

/-- What the verdicts of a plane mean. -/
structure Axes (υ ε : Type) where
  ok : υ
  clientError : υ
  protocol : υ
  mayRotate : υ → Bool
  spendsTransportBudget : υ → Bool
  noEffect : ε
  effectFor : υ → ε

section Decide

variable {υ ε : Type} [DecidableEq υ] (A : Axes υ ε)

/-- The decision engine of a plane. -/
def Axes.decide (verdict : υ) (phase : Phase) (policy : AttemptPolicy)
    (eligibleProfilesLeft : Nat) : Decision ε :=
  if verdict = A.ok then ⟨.created, A.noEffect, policy⟩
  else if phase = .created then ⟨.surfaceUpstreamError, A.effectFor verdict, policy⟩
  else if verdict = A.clientError ∨ verdict = A.protocol then
    ⟨.surfaceUpstreamError, A.noEffect, policy⟩
  else if ¬ A.mayRotate verdict then ⟨.surfaceUpstreamError, A.effectFor verdict, policy⟩
  else
    let spends := A.spendsTransportBudget verdict
    let remaining := if spends then policy.transportBudget - 1 else policy.transportBudget
    if spends ∧ remaining = 0 then ⟨.surfaceUpstreamError, A.effectFor verdict, ⟨0⟩⟩
    else if eligibleProfilesLeft = 0 then
      ⟨.surfaceCapacityExhausted, A.effectFor verdict, ⟨remaining⟩⟩
    else ⟨.rotateToAnotherProfile, A.effectFor verdict, ⟨remaining⟩⟩

variable {A}

theorem Axes.rotates_iff {verdict : υ} {policy : AttemptPolicy} {left : Nat} :
    (A.decide verdict .beforeCreate policy left).next = .rotateToAnotherProfile ↔
      verdict ≠ A.ok ∧ verdict ≠ A.clientError ∧ verdict ≠ A.protocol ∧
        A.mayRotate verdict = true ∧
        (A.spendsTransportBudget verdict = true → 2 ≤ policy.transportBudget) ∧ left ≠ 0 := by
  unfold Axes.decide
  by_cases hok : verdict = A.ok
  · simp [hok]
  rw [if_neg hok, if_neg (by decide : ¬ Phase.beforeCreate = Phase.created)]
  by_cases hfinal : verdict = A.clientError ∨ verdict = A.protocol
  · rw [if_pos hfinal]
    rcases hfinal with h | h <;> simp [h]
  rw [if_neg hfinal]
  obtain ⟨hclient, hprotocol⟩ := not_or.mp hfinal
  by_cases hmay : A.mayRotate verdict = true
  · simp only [hmay, not_true_eq_false, ↓reduceIte]
    by_cases hspends : A.spendsTransportBudget verdict = true
    · simp only [hspends, ↓reduceIte, true_and, forall_const]
      by_cases hbudget : policy.transportBudget - 1 = 0
      · rw [if_pos hbudget]
        simp only [reduceCtorEq, false_iff]
        intro h
        omega
      · rw [if_neg hbudget]
        by_cases hleft : left = 0
        · simp [hleft]
        · rw [if_neg hleft]
          have htwo : 2 ≤ policy.transportBudget := by omega
          simp [hok, hclient, hprotocol, hleft, htwo]
    · by_cases hleft : left = 0 <;> simp [hspends, hok, hclient, hprotocol, hleft]
  · simp [hmay]

end Decide

structure Loop where
  excluded : List String := []
  policy : AttemptPolicy := {}

/-- What the customer is told. -/
inductive Reply where
  | created
  | error (failure : GatewayFailure)

def refusedReply (status : Nat) : NextStep → Reply
  | .surfaceCapacityExhausted => .error .capacity
  | .surfaceUpstreamError => .error (.upstream status)
  | _ => .error .protocol

def afterDecision {α ε : Type} (loop : Loop) (profile : String) (decision : Decision ε)
    (attempt : α) (reply : NextStep → Reply) : Turn Loop α Reply :=
  if decision.next = .rotateToAnotherProfile then
    .goOn attempt ⟨profile :: loop.excluded, decision.policy⟩
  else .stop attempt (reply decision.next)

theorem afterDecision_goOn {α ε : Type} {loop next : Loop} {profile : String}
    {decision : Decision ε} {attempt a : α} {reply : NextStep → Reply}
    (h : afterDecision loop profile decision attempt reply = .goOn a next) :
    decision.next = .rotateToAnotherProfile ∧ a = attempt := by
  unfold afterDecision at h
  split at h
  · rename_i hnext
    injection h with ha _
    exact ⟨hnext, ha.symm⟩
  · cases h

theorem afterDecision_stop {α ε : Type} {loop : Loop} {profile : String}
    {decision : Decision ε} {attempt a : α} {reply : NextStep → Reply} {w : Reply}
    (h : afterDecision loop profile decision attempt reply = .stop a w) :
    decision.next ≠ .rotateToAnotherProfile ∧ a = attempt := by
  unfold afterDecision at h
  split at h
  · cases h
  · rename_i hnext
    injection h with ha _
    exact ⟨hnext, ha.symm⟩

def createdReply (plane : String) (delivering tracked : Bool) : Reply :=
  if ¬ delivering then .error (.unavailable (plane ++ "_delivery_marker_unavailable"))
  else if ¬ tracked then .error (.unavailable (plane ++ "_shutdown"))
  else .created

end ApiToken.Media
