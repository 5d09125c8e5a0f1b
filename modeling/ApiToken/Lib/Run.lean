import Mathlib.Logic.Relation
import Mathlib.Tactic.Tauto
import ApiToken.Lib.Basic

/-!
# Runs

A deterministic machine `exec : σ → ι → σ` driven by a list of operations,
and the two rules that turn a fact about one step into a fact about a
run. `Along C s ops` says that every operation of the run meets `C` in the
state it is issued in, so a rule can ask for a condition on the steps that
depends on the states the run goes through.
-/

namespace ApiToken

universe u v

variable {σ : Type u} {ι : Type v} (exec : σ → ι → σ)

/-- The state after the operations, in order. -/
def run (s : σ) (ops : List ι) : σ := ops.foldl exec s

/-- Every operation meets `C` in the state it is issued in. -/
def Along (C : σ → ι → Prop) : σ → List ι → Prop
  | _, [] => True
  | s, op :: ops => C s op ∧ Along C (exec s op) ops

instance Along.decidable (C : σ → ι → Prop) [∀ s op, Decidable (C s op)] :
    (s : σ) → (ops : List ι) → Decidable (Along exec C s ops)
  | _, [] => inferInstanceAs (Decidable True)
  | s, op :: ops =>
    have := Along.decidable C (exec s op) ops
    inferInstanceAs (Decidable (C s op ∧ Along exec C (exec s op) ops))

@[simp] theorem run_nil (s : σ) : run exec s [] = s := rfl

@[simp] theorem run_cons (s : σ) (op : ι) (ops : List ι) :
    run exec s (op :: ops) = run exec (exec s op) ops := rfl

theorem run_append (s : σ) (ops1 ops2 : List ι) :
    run exec s (ops1 ++ ops2) = run exec (run exec s ops1) ops2 :=
  foldl_append

variable {exec}

variable {I : σ → Prop} {C D : σ → ι → Prop} {s : σ} {ops : List ι}

theorem run_invariant_along (hstep : ∀ s op, I s → C s op → I (exec s op)) (h0 : I s)
    (hops : Along exec C s ops) : I (run exec s ops) := by
  induction ops generalizing s with
  | nil => exact h0
  | cons op _ ih => exact ih (hstep s op h0 hops.1) hops.2

theorem run_invariant (hstep : ∀ s op, I s → I (exec s op)) (h0 : I s) (ops : List ι) :
    I (run exec s ops) := by
  induction ops generalizing s with
  | nil => exact h0
  | cons op _ ih => exact ih (hstep s op h0)

theorem along_append {ops1 ops2 : List ι} :
    Along exec C s (ops1 ++ ops2) ↔
      Along exec C s ops1 ∧ Along exec C (run exec s ops1) ops2 := by
  induction ops1 generalizing s with
  | nil => simp [Along]
  | cons _ _ ih => simp [Along, ih, and_assoc]

theorem along_and :
    Along exec (fun s op => C s op ∧ D s op) s ops ↔ Along exec C s ops ∧ Along exec D s ops := by
  induction ops generalizing s with
  | nil => simp [Along]
  | cons _ _ ih =>
    simp only [Along, ih]
    tauto

theorem along_forall {Q : ι → Prop} : Along exec (fun _ op => Q op) s ops ↔ ∀ op ∈ ops, Q op := by
  induction ops generalizing s with
  | nil => simp [Along]
  | cons _ _ ih => simp [Along, ih]

theorem along_congr {P : ι → Prop} (hstep : ∀ s op, I s → P op → I (exec s op))
    (hiff : ∀ s op, I s → P op → (C s op ↔ D s op)) (h0 : I s) (hops : ∀ op ∈ ops, P op) :
    Along exec C s ops ↔ Along exec D s ops := by
  induction ops generalizing s with
  | nil => exact Iff.rfl
  | cons op _ ih =>
    have hop := hops op (mem_cons_self ..)
    have hrest := ih (hstep s op h0 hop) (fun op' hmem => hops op' (mem_cons_of_mem _ hmem))
    simp only [Along]
    rw [hiff s op h0 hop, hrest]

theorem along_iff_along {P : σ → ι → Prop} (hiff : ∀ s op, I s → P s op → (C s op ↔ D s op))
    (hstep : ∀ s op, I s → P s op → C s op → I (exec s op)) (h0 : I s)
    (hops : Along exec P s ops) : Along exec C s ops ↔ Along exec D s ops := by
  induction ops generalizing s with
  | nil => exact Iff.rfl
  | cons op _ ih =>
    obtain ⟨hop, hrest⟩ := hops
    have hhead := hiff s op h0 hop
    constructor
    · rintro ⟨hc, htail⟩
      exact ⟨hhead.mp hc, (ih (hstep s op h0 hop hc) hrest).mp htail⟩
    · rintro ⟨hd, htail⟩
      have hc := hhead.mpr hd
      exact ⟨hc, (ih (hstep s op h0 hop hc) hrest).mpr htail⟩

variable (exec) in
/-- Of all operations of the run, at most one meets `C` in the state it is
issued in. -/
def AtMostOnce (C : σ → ι → Prop) : σ → List ι → Prop
  | _, [] => True
  | s, op :: ops =>
    (C s op → Along exec (fun s op => ¬ C s op) (exec s op) ops) ∧
      AtMostOnce C (exec s op) ops

theorem atMostOnce_of_mark {M : σ → Prop} (hinv : ∀ s op, I s → I (exec s op))
    (hkeep : ∀ s op, I s → M s → M (exec s op))
    (hmark : ∀ s op, I s → C s op → ¬ M s ∧ M (exec s op)) (h0 : I s) (ops : List ι) :
    AtMostOnce exec C s ops := by
  have hnever : ∀ (ops : List ι) (s : σ), I s → M s →
      Along exec (fun s op => ¬ C s op) s ops := by
    intro ops
    induction ops with
    | nil => exact fun _ _ _ => trivial
    | cons op _ ih =>
      intro s hs hm
      exact ⟨fun hc => (hmark s op hs hc).1 hm, ih _ (hinv s op hs) (hkeep s op hs hm)⟩
  induction ops generalizing s with
  | nil => trivial
  | cons op ops ih =>
    exact ⟨fun hc => hnever ops _ (hinv s op h0) (hmark s op h0 hc).2, ih (hinv s op h0)⟩

/-- The state after operations that are all accepted; `none` as soon as one
is not. -/
def runAccepted (step : σ → ι → Option σ) : σ → List ι → Option σ
  | s, [] => some s
  | s, op :: ops => (step s op).bind (fun s' => runAccepted step s' ops)

theorem runAccepted_lockstep {τ : Type u} {f : σ → ι → Option σ} {g : τ → ι → Option τ}
    {R : σ → τ → Prop}
    (hstep : ∀ s q op s' q', R s q → f s op = some s' → g q op = some q' →
      R s' q') {s' : σ} {q q' : τ} (h : R s q) (hf : runAccepted f s ops = some s')
    (hg : runAccepted g q ops = some q') :
    R s' q' := by
  induction ops generalizing s q with
  | nil =>
    simp only [runAccepted, some.injEq] at hf hg
    rw [← hf, ← hg]
    exact h
  | cons op _ ih =>
    simp only [runAccepted, bind_eq_some_iff] at hf hg
    obtain ⟨s1, hs1, hf⟩ := hf
    obtain ⟨q1, hq1, hg⟩ := hg
    exact ih (hstep s q op s1 q1 h hs1 hq1) hf hg

theorem reflTransGen_invariant {R : σ → σ → Prop} (hstep : ∀ s s', I s → R s s' → I s') {s' : σ}
    (h0 : I s) (h : Relation.ReflTransGen R s s') : I s' := by
  induction h with
  | refl => exact h0
  | tail _ hlast ih => exact hstep _ _ ih hlast

end ApiToken
