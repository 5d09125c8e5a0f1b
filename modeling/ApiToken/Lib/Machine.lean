import Mathlib.Algebra.Ring.Int.Defs
import Mathlib.Algebra.Order.BigOperators.Group.List
import Mathlib.Algebra.Order.Group.Int

/-!
# Fixed-width integers as exact ones

A value of a fixed-width type is an exact integer between the two ends of
the type's range. A checked operation is the exact one, when its result is
in the range; a saturating one is the exact one, clamped to the range. The
lemmas say when a chain of such operations is one exact sum.
-/

namespace ApiToken

variable {x sum : Int} {xs : List Int}

/-- The values of a fixed-width type: its two ends. -/
structure Range where
  lo : Int
  hi : Int
  neg : lo ≤ 0
  pos : 0 ≤ hi

namespace Range

def i64 : Range := ⟨-9223372036854775808, 9223372036854775807, by decide, by decide⟩

def i128 : Range :=
  ⟨-170141183460469231731687303715884105728,
    170141183460469231731687303715884105727, by decide, by decide⟩

def u64 : Range := ⟨0, 18446744073709551615, by decide, by decide⟩

variable (w : Range)

/-- `try_from`, and the end of every checked operation. -/
def checked (x : Int) : Option Int := if w.lo ≤ x ∧ x ≤ w.hi then some x else none

def saturated (x : Int) : Int := max w.lo (min x w.hi)

/-- `try_fold(0, checked_add)`. -/
def checkedSum (xs : List Int) : Option Int :=
  xs.foldlM (fun sum x => w.checked (sum + x)) 0

/-- A sum of saturated terms by `saturating_add`, from the left. -/
def saturatedSum (xs : List Int) : Int :=
  xs.foldl (fun sum x => w.saturated (sum + w.saturated x)) 0

variable {w}

theorem checked_eq_some {y : Int} : w.checked x = some y ↔ w.lo ≤ x ∧ x ≤ w.hi ∧ y = x := by
  unfold checked
  split
  · rename_i h
    simp only [Option.some.injEq, h.1, h.2, true_and]
    exact eq_comm
  · rename_i h
    simp only [reduceCtorEq, false_iff]
    exact fun hin => h ⟨hin.1, hin.2.1⟩

theorem mapM_checked {ys : List Int} :
    xs.mapM w.checked = some ys ↔ (∀ x ∈ xs, w.lo ≤ x ∧ x ≤ w.hi) ∧ ys = xs := by
  induction xs generalizing ys with
  | nil => simp [eq_comm]
  | cons _ _ ih =>
    rw [List.mapM_cons, List.forall_mem_cons]
    constructor
    · intro h
      obtain ⟨y, hy, h⟩ := Option.bind_eq_some_iff.mp h
      obtain ⟨ys', hys', hlast⟩ := Option.bind_eq_some_iff.mp h
      obtain ⟨hlo, hhi, rfl⟩ := checked_eq_some.mp hy
      obtain ⟨hrest, rfl⟩ := ih.mp hys'
      exact ⟨⟨⟨hlo, hhi⟩, hrest⟩, (Option.some.inj hlast).symm⟩
    · rintro ⟨⟨hin, hrest⟩, rfl⟩
      rw [checked_eq_some.mpr ⟨hin.1, hin.2, rfl⟩, ih.mpr ⟨hrest, rfl⟩]
      rfl

theorem checked_nonneg (h : 0 ≤ x) : w.checked x = if x ≤ w.hi then some x else none := by
  have := w.neg
  unfold checked
  by_cases hhi : x ≤ w.hi
  · rw [if_pos ⟨by omega, hhi⟩, if_pos hhi]
  · rw [if_neg (fun hin => hhi hin.2), if_neg hhi]

theorem foldlM_checked (h0 : 0 ≤ sum) (hsum : sum ≤ w.hi) (h : ∀ x ∈ xs, 0 ≤ x) :
    xs.foldlM (fun sum x => w.checked (sum + x)) sum = w.checked (sum + xs.sum) := by
  induction xs generalizing sum with
  | nil =>
    rw [List.sum_nil, Int.add_zero, checked_nonneg h0, if_pos hsum]
    rfl
  | cons x xs ih =>
    have hx : 0 ≤ x := h x (List.mem_cons_self ..)
    have hxs : ∀ y ∈ xs, 0 ≤ y := fun y hy => h y (List.mem_cons_of_mem _ hy)
    have hrest : 0 ≤ xs.sum := List.sum_nonneg hxs
    rw [List.foldlM_cons, List.sum_cons, ← Int.add_assoc]
    by_cases hfits : sum + x ≤ w.hi
    · rw [checked_nonneg (by omega), if_pos hfits]
      exact ih (by omega) hfits hxs
    · rw [checked_nonneg (by omega), if_neg hfits, checked_nonneg (by omega),
        if_neg (by omega)]
      rfl

theorem checkedSum_nonneg (h : ∀ x ∈ xs, 0 ≤ x) :
    w.checkedSum xs = if xs.sum ≤ w.hi then some xs.sum else none := by
  rw [checkedSum, foldlM_checked (Int.le_refl 0) w.pos h, Int.zero_add,
    checked_nonneg (List.sum_nonneg h)]

theorem saturated_nonneg (h : 0 ≤ x) : w.saturated x = min x w.hi := by
  have hneg := w.neg
  have hpos := w.pos
  rw [saturated]
  omega

theorem foldl_saturated (h0 : 0 ≤ sum) (h : ∀ x ∈ xs, 0 ≤ x) :
    xs.foldl (fun sum x => w.saturated (sum + w.saturated x)) (min sum w.hi) =
      min (sum + xs.sum) w.hi := by
  have hpos := w.pos
  induction xs generalizing sum with
  | nil => rw [List.sum_nil, Int.add_zero]; rfl
  | cons x _ ih =>
    have hx : 0 ≤ x := h x (List.mem_cons_self ..)
    have hstep : w.saturated (min sum w.hi + w.saturated x) = min (sum + x) w.hi := by
      rw [saturated_nonneg hx, saturated_nonneg (by omega)]
      omega
    rw [List.foldl_cons, hstep, ih (by omega)
      (fun y hy => h y (List.mem_cons_of_mem _ hy)), List.sum_cons, Int.add_assoc]

theorem saturatedSum_nonneg (h : ∀ x ∈ xs, 0 ≤ x) : w.saturatedSum xs = min xs.sum w.hi := by
  have hzero : min 0 w.hi = 0 := Int.min_eq_left w.pos
  have hfold := foldl_saturated (w := w) (Int.le_refl 0) h
  rw [hzero, Int.zero_add] at hfold
  exact hfold

end Range

end ApiToken
