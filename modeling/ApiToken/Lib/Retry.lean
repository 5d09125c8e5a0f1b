import Mathlib.Data.List.Basic

/-!
# Attempts made one after another

A loop that tries again until it has an answer, with every attempt kept. Each
round of the surroundings is one turn of the loop: it is gone on from with a
new state, or it ends the loop, with or without an attempt of its own.

What the loop went on from and where it stopped are kept apart, so that "only
a harmless attempt is gone on from" bounds how many attempts did harm.
-/

namespace ApiToken

universe u v w x

variable {σ : Type u} {ι : Type v} {α : Type w} {ω : Type x}

inductive Turn (σ : Type u) (α : Type w) (ω : Type x) where
  /-- The attempt came to nothing and the next turn starts from `s`. -/
  | goOn (a : α) (s : σ)
  /-- The attempt is the last one. -/
  | stop (a : α) (answer : ω)
  /-- There is nothing left to try. -/
  | giveUp (answer : ω)

structure Attempts (α : Type w) (ω : Type x) where
  passed : List α
  last : Option α
  answer : Option ω

def Attempts.all (h : Attempts α ω) : List α := h.passed ++ h.last.toList

/-- The loop over the rounds of its surroundings. -/
def attempts (turn : σ → ι → Turn σ α ω) : σ → List ι → Attempts α ω
  | _, [] => ⟨[], none, none⟩
  | s, i :: is =>
    match turn s i with
    | .goOn a s' =>
      let rest := attempts turn s' is
      { rest with passed := a :: rest.passed }
    | .stop a answer => ⟨[], some a, some answer⟩
    | .giveUp answer => ⟨[], none, some answer⟩

variable {turn : σ → ι → Turn σ α ω}

theorem mem_passed {s : σ} {is : List ι} {a : α} (h : a ∈ (attempts turn s is).passed) :
    ∃ t i t', turn t i = .goOn a t' := by
  induction is generalizing s with
  | nil => cases h
  | cons i is ih =>
    rw [attempts] at h
    split at h
    · rename_i b s' hturn
      rcases List.mem_cons.mp h with rfl | hrest
      · exact ⟨s, i, s', hturn⟩
      · exact ih hrest
    · cases h
    · cases h

theorem mem_last {s : σ} {is : List ι} {a : α} (h : (attempts turn s is).last = some a) :
    ∃ t i w, turn t i = .stop a w := by
  induction is generalizing s with
  | nil => cases h
  | cons i is ih =>
    rw [attempts] at h
    split at h
    · exact ih h
    · rename_i b w hturn
      rw [Option.some.injEq] at h
      exact ⟨s, i, w, h ▸ hturn⟩
    · cases h

theorem harmful_le_one {h : Attempts α ω} (harm : α → Bool)
    (hpassed : ∀ a ∈ h.passed, harm a = false) : (h.all.filter harm).length ≤ 1 := by
  have hnone : h.passed.filter harm = [] := by
    rw [List.filter_eq_nil_iff]
    intro a ha
    simp [hpassed a ha]
  rw [Attempts.all, List.filter_append, hnone, List.nil_append]
  calc (h.last.toList.filter harm).length
      ≤ h.last.toList.length := List.length_filter_le _ _
    _ ≤ 1 := by cases h.last <;> simp

end ApiToken
