import Mathlib.Data.List.Basic
import Mathlib.Order.Lattice

/-!
# Choosing an element of a list by a comparison

`minBy` keeps the first of the smallest elements and `maxBy` the last of the
largest, as an iterator's `min_by` and `max_by` do. The comparison need not
be a linear order: what a caller learns is which class of elements the choice
prefers.
-/

namespace ApiToken

universe u

variable {α : Type u} (cmp : α → α → Ordering)

/-- The running minimum `m` against the next element. -/
def keepMin (m y : α) : α :=
  match cmp m y with
  | .gt => y
  | _ => m

/-- The running maximum `m` against the next element. -/
def keepMax (m y : α) : α :=
  match cmp m y with
  | .gt => m
  | _ => y

/-- The first smallest element. -/
def minBy : List α → Option α
  | [] => none
  | x :: xs => some (xs.foldl (keepMin cmp) x)

/-- The last largest element. -/
def maxBy : List α → Option α
  | [] => none
  | x :: xs => some (xs.foldl (keepMax cmp) x)

variable {cmp}

theorem keepMin_mem (m y : α) : keepMin cmp m y = m ∨ keepMin cmp m y = y := by
  unfold keepMin
  split
  · exact Or.inr rfl
  · exact Or.inl rfl

theorem keepMax_mem (m y : α) : keepMax cmp m y = m ∨ keepMax cmp m y = y := by
  unfold keepMax
  split
  · exact Or.inl rfl
  · exact Or.inr rfl

/-- A fold that always keeps one of its two arguments ends in one of the
elements it saw. -/
theorem foldl_mem {f : α → α → α} (hf : ∀ m y, f m y = m ∨ f m y = y)
    (xs : List α) (x : α) : xs.foldl f x ∈ x :: xs := by
  induction xs generalizing x with
  | nil => exact List.mem_singleton.mpr rfl
  | cons y _ ih =>
    have hmem := ih (f x y)
    rcases List.mem_cons.mp hmem with heq | hin
    · rw [List.foldl_cons, heq]
      rcases hf x y with h | h
      · rw [h]
        exact List.mem_cons_self ..
      · rw [h]
        exact List.mem_cons_of_mem _ (List.mem_cons_self ..)
    · exact List.mem_cons_of_mem _ (List.mem_cons_of_mem _ hin)

variable {l : List α} {x : α} {p : α → Prop}

theorem minBy_mem (h : minBy cmp l = some x) : x ∈ l := by
  cases l with
  | nil => simp [minBy] at h
  | cons y ys =>
    rw [minBy, Option.some.injEq] at h
    rw [← h]
    exact foldl_mem keepMin_mem ys y

theorem maxBy_mem (h : maxBy cmp l = some x) : x ∈ l := by
  cases l with
  | nil => simp [maxBy] at h
  | cons y ys =>
    rw [maxBy, Option.some.injEq] at h
    rw [← h]
    exact foldl_mem keepMax_mem ys y

@[simp] theorem minBy_eq_none : minBy cmp l = none ↔ l = [] := by
  cases l <;> simp [minBy]

@[simp] theorem maxBy_eq_none : maxBy cmp l = none ↔ l = [] := by
  cases l <;> simp [maxBy]

theorem minBy_isSome (h : x ∈ l) : ∃ y, minBy cmp l = some y := by
  cases hmin : minBy cmp l with
  | none => rw [minBy_eq_none.mp hmin] at h; cases h
  | some y => exact ⟨y, rfl⟩

section Key

variable {β : Type u} [LinearOrder β] (key : α → β)

theorem le_keepMax (m y : α) :
    key m ≤ key (keepMax (fun x y => compare (key x) (key y)) m y) ∧
      key y ≤ key (keepMax (fun x y => compare (key x) (key y)) m y) := by
  unfold keepMax
  dsimp only
  cases hcmp : compare (key m) (key y) with
  | gt => exact ⟨le_refl _, le_of_lt (compare_gt_iff_gt.mp hcmp)⟩
  | eq => exact ⟨le_of_eq (compare_eq_iff_eq.mp hcmp), le_refl _⟩
  | lt => exact ⟨le_of_lt (compare_lt_iff_lt.mp hcmp), le_refl _⟩

theorem le_foldl_keepMax (xs : List α) (x : α) :
    ∀ y ∈ x :: xs, key y ≤ key (xs.foldl (keepMax (fun x y => compare (key x) (key y))) x) := by
  induction xs generalizing x with
  | nil =>
    intro y hy
    rw [List.mem_singleton.mp hy]
    exact le_refl _
  | cons z _ ih =>
    intro y hy
    rw [List.foldl_cons]
    have hkept := ih (keepMax (fun x y => compare (key x) (key y)) x z)
    have hhead := hkept _ (List.mem_cons_self ..)
    rcases List.mem_cons.mp hy with rfl | hy
    · exact (le_keepMax key y z).1.trans hhead
    rcases List.mem_cons.mp hy with rfl | hy
    · exact (le_keepMax key x y).2.trans hhead
    · exact hkept y (List.mem_cons_of_mem _ hy)

theorem le_of_maxBy {m : α} (h : maxBy (fun x y => compare (key x) (key y)) l = some m)
    (hx : x ∈ l) :
    key x ≤ key m := by
  cases l with
  | nil => cases hx
  | cons y ys =>
    rw [maxBy, Option.some.injEq] at h
    rw [← h]
    exact le_foldl_keepMax key ys y x hx

end Key

/-- The comparison puts every element of the class before every other. -/
structure Prefers (cmp : α → α → Ordering) (p : α → Prop) : Prop where
  inside : ∀ a b, p a → ¬ p b → cmp a b ≠ .gt
  outside : ∀ a b, ¬ p a → p b → cmp a b = .gt

theorem Prefers.keepMin (h : Prefers cmp p) {m y : α} (hp : p m ∨ p y) : p (keepMin cmp m y) := by
  unfold ApiToken.keepMin
  by_cases hm : p m
  · by_cases hy : p y
    · split
      · exact hy
      · exact hm
    · split
      · exact absurd ‹_› (h.inside m y hm hy)
      · exact hm
  · have hy : p y := hp.resolve_left hm
    rw [h.outside m y hm hy]
    exact hy

/-- Once the running minimum or an element still to come is in the class, the
fold ends in the class. -/
theorem Prefers.foldl (h : Prefers cmp p) (xs : List α) (x : α) (hp : ∃ z ∈ x :: xs, p z) :
    p (xs.foldl (ApiToken.keepMin cmp) x) := by
  induction xs generalizing x with
  | nil =>
    obtain ⟨z, hz, hpz⟩ := hp
    rw [List.mem_singleton.mp hz] at hpz
    exact hpz
  | cons _ _ ih =>
    obtain ⟨z, hz, hpz⟩ := hp
    apply ih
    rcases List.mem_cons.mp hz with rfl | hz
    · exact ⟨_, List.mem_cons_self .., h.keepMin (Or.inl hpz)⟩
    rcases List.mem_cons.mp hz with rfl | hz
    · exact ⟨_, List.mem_cons_self .., h.keepMin (Or.inr hpz)⟩
    · exact ⟨z, List.mem_cons_of_mem _ hz, hpz⟩

/-- The choice is in the preferred class as soon as an element is. -/
theorem Prefers.minBy (h : Prefers cmp p) {y : α} (hx : x ∈ l) (hp : p x)
    (hy : ApiToken.minBy cmp l = some y) : p y := by
  cases l with
  | nil => cases hx
  | cons z zs =>
    rw [ApiToken.minBy, Option.some.injEq] at hy
    rw [← hy]
    exact h.foldl zs z ⟨x, hx, hp⟩

end ApiToken
