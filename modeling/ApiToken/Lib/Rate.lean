import Mathlib.Algebra.Order.Field.Basic
import Mathlib.Tactic.Linarith
import ApiToken.Lib.Ratio

/-!
# Bounds on a rate

A rate `c` is not measured itself: a numerator `n` is known exactly, and the
denominator `t` with `c * t = n` only up to a width, by an integer `d` near it.
What integers then bound `c`, and how the bounds of several measurements join.
Either bound may be missing.
-/

namespace ApiToken.Rate

variable {K : Type*} [Field K] [LinearOrder K] [IsStrictOrderedRing K]

structure Within (c : K) (low high : Option Int) : Prop where
  low : ∀ l ∈ low, (l : K) ≤ c
  high : ∀ h ∈ high, c ≤ (h : K)

theorem within_widened {c t : K} {n d w : Int} (hc : 0 < c) (hd : 0 < d) (hw : 0 ≤ w)
    (hrate : c * t = n) (hnear : |(d : K) - t| ≤ w) :
    Within c (some (n / (d + w))) (if w < d then some (Ratio.ceil n (d - w)) else none) := by
  obtain ⟨hbelow, habove⟩ := abs_le.mp hnear
  constructor
  · rintro l ⟨⟩
    have hpos : (0 : K) < ((d + w : Int) : K) := Int.cast_pos.mpr (by omega)
    have hfloor : ((n / (d + w) : Int) : K) * ((d + w : Int) : K) ≤ n := by
      exact_mod_cast Int.ediv_mul_le n (show d + w ≠ 0 by omega)
    refine le_of_mul_le_mul_right ?_ hpos
    calc ((n / (d + w) : Int) : K) * ((d + w : Int) : K) ≤ n := hfloor
      _ = c * t := hrate.symm
      _ ≤ c * ((d + w : Int) : K) := by
        refine mul_le_mul_of_nonneg_left ?_ hc.le
        push_cast
        linarith
  · intro h hmem
    split at hmem
    · next hlt =>
      cases hmem
      have hpos : (0 : K) < ((d - w : Int) : K) := Int.cast_pos.mpr (by omega)
      have hceil : (n : K) ≤ ((Ratio.ceil n (d - w) : Int) : K) * ((d - w : Int) : K) := by
        exact_mod_cast Ratio.le_ceil_mul (show 0 < d - w by omega)
      refine le_of_mul_le_mul_right ?_ hpos
      calc c * ((d - w : Int) : K) ≤ c * t := by
            refine mul_le_mul_of_nonneg_left ?_ hc.le
            push_cast
            linarith
        _ = n := hrate
        _ ≤ ((Ratio.ceil n (d - w) : Int) : K) * ((d - w : Int) : K) := hceil
    · cases hmem

theorem Within.join {c : K} {low high high' : Option Int} {l : Int}
    (h : Within c low high) (h' : Within c (some l) high') :
    Within c (some (low.elim l (min · l))) (Ratio.upper high high') := by
  constructor
  · rintro _ ⟨⟩
    have hl : (l : K) ≤ c := h'.low l rfl
    cases low with
    | none => exact hl
    | some =>
      rw [Option.elim_some, Int.cast_min]
      exact (min_le_right _ _).trans hl
  · intro b hb
    match high, high', hb with
    | some a, some a', rfl =>
      rw [Int.cast_max]
      exact (h.high a rfl).trans (le_max_left _ _)

omit [IsStrictOrderedRing K] in
theorem within_none {c : K} : Within c none none where
  low := nofun
  high := nofun

end ApiToken.Rate
