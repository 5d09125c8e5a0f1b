import Mathlib.Algebra.Ring.Nat
import Mathlib.Tactic.Common

/-!
# The bounded FIFO of metered turns

`forward/src/{kimi,glm,tripo3d}/queue.rs`: a pure state machine between the
end of a turn and the durable calibration authority. The caller makes the
write and reports its outcome back. A refused push drops the newest event,
so the head stays and keeps blocking the polls.
-/

namespace ApiToken.Turns

inductive WriteOutcome where
  | durable
  | transient
  | conflict
  deriving DecidableEq

/-- `TurnQueue`: no more events than its capacity. -/
structure TurnQueue (α : Type) where
  queue : List α
  capacity : Nat
  dropped : Nat
  healthy : Bool
  bounded : queue.length ≤ capacity

namespace TurnQueue

variable {α : Type}

/-- `saturating_add(1)` of the `u64` counter of dropped events. -/
def oneMoreDropped (dropped : Nat) : Nat := min (dropped + 1) (2 ^ 64 - 1)

def new (capacity : Nat) : TurnQueue α :=
  ⟨[], max capacity 1, 0, true, Nat.zero_le _⟩

/-- `push`: the queue, and whether the event was accepted. -/
def push (q : TurnQueue α) (event : α) : TurnQueue α × Bool :=
  if h : q.queue.length < q.capacity then
    (⟨q.queue ++ [event], q.capacity, q.dropped, q.healthy,
      by rw [List.length_append]; exact h⟩, true)
  else
    (⟨q.queue, q.capacity, oneMoreDropped q.dropped, false, q.bounded⟩, false)

def head (q : TurnQueue α) : Option α := q.queue.head?

def popFront (q : TurnQueue α) (dropped : Nat) : TurnQueue α :=
  ⟨q.queue.tail, q.capacity, dropped, q.queue.tail.isEmpty,
    by have := q.bounded; rw [List.length_tail]; omega⟩

/-- `resolve_head`: only a transient failure keeps the head. -/
def resolveHead (q : TurnQueue α) : WriteOutcome → TurnQueue α
  | .durable => q.popFront q.dropped
  | .transient => ⟨q.queue, q.capacity, q.dropped, false, q.bounded⟩
  | .conflict => q.popFront (oneMoreDropped q.dropped)

/-- `may_poll_quota`, `may_poll_balance`. -/
def mayPoll (q : TurnQueue α) : Bool := q.queue.isEmpty

/-- `health`: the pending events, the dropped ones, and whether every write
so far went through. -/
def health (q : TurnQueue α) : Nat × Nat × Bool :=
  (q.queue.length, q.dropped, q.healthy && q.queue.isEmpty)

@[simp] theorem new_queue (capacity : Nat) : (new capacity : TurnQueue α).queue = [] := rfl

variable {q : TurnQueue α}

theorem push_accepted {q' : TurnQueue α} {event : α} (h : q.push event = (q', true)) :
    q'.queue = q.queue ++ [event] := by
  unfold push at h
  split at h
  · cases h; rfl
  · cases h

theorem push_refused {q' : TurnQueue α} {event : α} (h : q.push event = (q', false)) :
    q'.queue = q.queue := by
  unfold push at h
  split at h
  · cases h
  · cases h; rfl

theorem head_some {event : α} (h : q.head = some event) : q.queue = event :: q.queue.tail := by
  unfold head at h
  cases hq : q.queue with
  | nil => rw [hq] at h; cases h
  | cons =>
    rw [hq] at h
    cases h
    rfl

theorem resolveHead_queue (q : TurnQueue α) (outcome : WriteOutcome) :
    (q.resolveHead outcome).queue = if outcome = .transient then q.queue else q.queue.tail := by
  cases outcome <;> rfl

theorem mayPoll_iff : q.mayPoll = true ↔ q.queue = [] :=
  List.isEmpty_iff

end TurnQueue

end ApiToken.Turns
