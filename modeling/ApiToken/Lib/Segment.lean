import Mathlib.Data.List.Basic

/-!
# Initial segments of a sorted list

A log is a list whose elements have increasing keys, and a reader that never
skips holds an initial segment of it: with an element it holds all smaller
ones. The lemmas say that a page cut from the log is closed in this sense
once what precedes it is held, and that a sorted list that is closed is a
prefix of the log.
-/

namespace ApiToken

universe u

variable {α : Type u} {key : α → Nat} {log l : List α} {n : Nat}

def Increasing (key : α → Nat) (l : List α) : Prop :=
  l.Pairwise (fun a b => key a < key b)

def Closed (key : α → Nat) (log l : List α) : Prop :=
  ∀ b ∈ l, ∀ a ∈ log, key a < key b → a ∈ l

theorem Increasing.eq_of_key (h : Increasing key log) {a b : α} (ha : a ∈ log)
    (hb : b ∈ log) (hkey : key a = key b) : a = b := by
  induction log with
  | nil => cases ha
  | cons _ _ ih =>
    obtain ⟨hx, hrest⟩ := List.pairwise_cons.mp h
    rcases List.mem_cons.mp ha with hax | hax <;>
      rcases List.mem_cons.mp hb with hbx | hbx
    · rw [hax, hbx]
    · have := hx b hbx
      rw [hax] at hkey
      omega
    · have := hx a hax
      rw [hbx] at hkey
      omega
    · exact ih hrest hax hbx

theorem Increasing.filter (h : Increasing key log) (p : α → Bool) :
    Increasing key (log.filter p) :=
  List.Pairwise.sublist List.filter_sublist h

theorem Increasing.take (h : Increasing key log) (n : Nat) : Increasing key (log.take n) :=
  List.Pairwise.sublist (List.take_sublist ..) h

theorem Increasing.closed_take (h : Increasing key log) (n : Nat) :
    Closed key log (log.take n) := by
  intro b hb a ha hlt
  rw [← List.take_append_drop n log, List.mem_append] at ha
  rcases ha with ha | ha
  · exact ha
  · have hsplit : (log.take n ++ log.drop n).Pairwise (fun a b => key a < key b) := by
      rw [List.take_append_drop]
      exact h
    have := (List.pairwise_append.mp hsplit).2.2 b hb a ha
    omega

theorem Increasing.initial_of_closed (hlog : Increasing key log)
    (hl : Increasing key l) (hsub : l ⊆ log) (hclosed : Closed key log l) : l <+: log := by
  induction log generalizing l with
  | nil =>
    obtain rfl := List.subset_nil.mp hsub
    exact List.nil_prefix
  | cons x _ ih =>
    cases l with
    | nil => exact List.nil_prefix
    | cons y =>
      obtain ⟨hx, hrest⟩ := List.pairwise_cons.mp hlog
      obtain ⟨hy, htail⟩ := List.pairwise_cons.mp hl
      -- the smallest of the log is there, so it comes first
      have heq : y = x := by
        rcases List.mem_cons.mp (hsub (List.mem_cons_self ..)) with heq | hmem
        · exact heq
        · have hlt := hx y hmem
          rcases List.mem_cons.mp (hclosed y (List.mem_cons_self ..) x
            (List.mem_cons_self ..) hlt) with heq | hmem'
          · exact heq.symm
          · have := hy x hmem'
            omega
      subst heq
      refine List.cons_prefix_cons.mpr ⟨rfl, ih hrest htail ?_ ?_⟩
      · intro a ha
        rcases List.mem_cons.mp (hsub (List.mem_cons_of_mem _ ha)) with rfl | hmem
        · exact absurd (hy a ha) (Nat.lt_irrefl _)
        · exact hmem
      · intro b hb a ha hlt
        rcases List.mem_cons.mp (hclosed b (List.mem_cons_of_mem _ hb) a
          (List.mem_cons_of_mem _ ha) hlt) with rfl | hmem
        · exact absurd (hx a ha) (Nat.lt_irrefl _)
        · exact hmem

end ApiToken
