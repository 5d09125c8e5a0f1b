import ApiToken.Lib.Run
import ApiToken.Lib.Table

/-!
# Calls in flight

Calls that take their steps one at a time over a shared state, in any order. A
call starts in its first phase; each of its steps waits, or changes the shared
state and moves on, until one answers. A call can be dropped at any point, and
the surroundings change the shared state in between.
-/

namespace ApiToken.Calls

universe u v w x y

/-- How far a call is. -/
inductive Stage (φ : Type u) (α : Type v) where
  | running (phase : φ)
  | answered (answer : α)
deriving DecidableEq

/-- The shared state and the calls. -/
structure World (σ : Type w) (κ : Type x) (φ : Type u) (α : Type v) where
  shared : σ
  calls : Table Nat (κ × Stage φ α)

inductive Event (κ : Type x) (ω : Type y) where
  | start (sid : Nat) (call : κ)
  | step (sid : Nat)
  /-- An error or a crash at any point. -/
  | abort (sid : Nat)
  | other (change : ω)

/-- How the calls work. -/
structure Code (σ : Type w) (κ : Type x) (φ : Type u) (α : Type v) (ω : Type y) where
  first : φ
  /-- What a step makes of the shared state and of the call, if it does not
  have to wait. -/
  step : World σ κ φ α → Nat → κ → φ → Option (σ × Stage φ α)
  /-- What the surroundings make of the shared state. -/
  other : World σ κ φ α → ω → σ

variable {σ : Type w} {κ : Type x} {φ : Type u} {α : Type v} {ω : Type y}

def exec (C : Code σ κ φ α ω) (w : World σ κ φ α) : Event κ ω → World σ κ φ α
  | .start sid call =>
    match w.calls.find? sid with
    | some _ => w
    | none => { w with calls := w.calls.put sid (call, .running C.first) }
  | .step sid =>
    match w.calls.find? sid with
    | some (call, .running phase) =>
      match C.step w sid call phase with
      | none => w
      | some (shared, stage) => { shared, calls := w.calls.put sid (call, stage) }
    | _ => w
  | .abort sid => { w with calls := w.calls.delete (fun sid' _ => sid' == sid) }
  | .other change => { w with shared := C.other w change }

/-- The event is a step that a call takes: it was in `phase`, and the step makes
`shared` of the state and `stage` of the call. -/
def Takes (C : Code σ κ φ α ω) (w : World σ κ φ α) (e : Event κ ω) (call : κ) (phase : φ)
    (shared : σ) (stage : Stage φ α) : Prop :=
  ∃ sid, e = .step sid ∧ w.calls.find? sid = some (call, .running phase) ∧
    C.step w sid call phase = some (shared, stage)

/-- What an event has to keep for `I` to hold of every run. -/
structure Keeps (C : Code σ κ φ α ω) (I : World σ κ φ α → Prop) : Prop where
  start : ∀ w sid call, I w → w.calls.find? sid = none →
    I { w with calls := w.calls.put sid (call, .running C.first) }
  step : ∀ w sid call phase shared stage, I w →
    w.calls.find? sid = some (call, .running phase) →
    C.step w sid call phase = some (shared, stage) →
    I { shared, calls := w.calls.put sid (call, stage) }
  abort : ∀ w sid, I w → I { w with calls := w.calls.delete (fun sid' _ => sid' == sid) }
  other : ∀ w change, I w → I { w with shared := C.other w change }

theorem Keeps.exec {C : Code σ κ φ α ω} {I : World σ κ φ α → Prop} (h : Keeps C I)
    (w : World σ κ φ α) (e : Event κ ω) (hw : I w) : I (exec C w e) := by
  cases e with
  | start sid call =>
    cases hfree : w.calls.find? sid with
    | some =>
      simp only [Calls.exec, hfree]
      exact hw
    | none =>
      simp only [Calls.exec, hfree]
      exact h.start w sid call hw hfree
  | step sid =>
    rcases hrunning : w.calls.find? sid with _ | ⟨call, phase | answer⟩
    · simp only [Calls.exec, hrunning]
      exact hw
    · rcases hstep : C.step w sid call phase with _ | ⟨shared, stage⟩
      · simp only [Calls.exec, hrunning, hstep]
        exact hw
      · simp only [Calls.exec, hrunning, hstep]
        exact h.step w sid call phase shared stage hw hrunning hstep
    · simp only [Calls.exec, hrunning]
      exact hw
  | abort sid => exact h.abort w sid hw
  | other change => exact h.other w change hw

theorem exec_of_takes {C : Code σ κ φ α ω} {w : World σ κ φ α} {e : Event κ ω} {call : κ}
    {phase : φ} {shared : σ} {stage : Stage φ α} (h : Takes C w e call phase shared stage) :
    (exec C w e).shared = shared := by
  obtain ⟨sid, rfl, hrunning, hstep⟩ := h
  simp only [exec, hrunning, hstep]

/-! ## One call -/

def solo (shared : σ) (call : κ) (stage : Stage φ α) : World σ κ φ α :=
  ⟨shared, Table.empty.put 0 (call, stage)⟩

def alone (C : Code σ κ φ α ω) (shared : σ) (call : κ) (stage : Stage φ α) (steps : Nat) :
    World σ κ φ α :=
  run (exec C) (solo shared call stage) (List.replicate steps (.step 0))

variable {C : Code σ κ φ α ω} {shared shared' : σ} {call : κ} {phase : φ} {stage : Stage φ α}

theorem alone_running (steps : Nat)
    (h : C.step (solo shared call (.running phase)) 0 call phase = some (shared', stage)) :
    alone C shared call (.running phase) (steps + 1) = alone C shared' call stage steps := by
  have hrunning : (solo (α := α) shared call (.running phase)).calls.find? 0 =
      some (call, .running phase) := find?_put_self ..
  unfold alone
  rw [List.replicate_succ, run_cons]
  simp only [exec, hrunning, h]
  rfl

theorem alone_answered (answer : α) (steps : Nat) :
    alone C shared call (.answered answer) steps = solo shared call (.answered answer) := by
  induction steps with
  | zero => rfl
  | succ _ ih => exact ih

end ApiToken.Calls
