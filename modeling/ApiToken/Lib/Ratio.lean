import Mathlib.Algebra.Order.Ring.Int
import Mathlib.Tactic.Ring

/-!
# Bounds on a ratio of sums

A ratio of two sums lies between the bounds of its parts: what encloses
every `nᵢ / dᵢ` encloses `Σ nᵢ / Σ dᵢ`. Bounds here are integers, the upper
one may be missing, and a bound is stated by multiplying out, so that no
rounding is lost on the way; the rounded ratio is then within them.
-/

namespace ApiToken

namespace Ratio

/-- `n / d` to the nearest integer. -/
def nearest (n d : Int) : Int := (n + d / 2) / d

/-- `n / d` upwards. -/
def ceil (n d : Int) : Int := (n + (d - 1)) / d

def upper : Option Int → Option Int → Option Int
  | some a, some b => some (max a b)
  | _, _ => none

/-- `low` and, where there is one, `high` enclose `n / d`. -/
structure Encloses (low : Int) (high : Option Int) (n d : Int) : Prop where
  below : low * d ≤ n
  above : ∀ h ∈ high, n ≤ h * d

variable {n d : Int}

theorem le_ceil_mul (hd : 0 < d) : n ≤ ceil n d * d := by
  have hlt : n + (d - 1) < (ceil n d + 1) * d := Int.lt_ediv_add_one_mul_self _ hd
  rw [Int.add_mul, Int.one_mul] at hlt
  omega

theorem ceil_pos (hn : 0 < n) (hd : 0 < d) : 0 < ceil n d := by
  have := (Int.le_ediv_iff_mul_le hd).mpr (show 1 * d ≤ n + (d - 1) by omega)
  exact this

theorem encloses_widened {w : Int} (hn : 0 ≤ n) (hd : 0 < d) (hw : 0 ≤ w) :
    Encloses (n / (d + w)) (if w < d then some (ceil n (d - w)) else none) n d := by
  constructor
  · have hq : 0 ≤ n / (d + w) := Int.ediv_nonneg hn (by omega)
    calc n / (d + w) * d ≤ n / (d + w) * (d + w) :=
          Int.mul_le_mul_of_nonneg_left (by omega) hq
      _ ≤ n := Int.ediv_mul_le n (by omega)
  · intro h hmem
    split at hmem
    · rename_i hlt
      cases hmem
      have hq : 0 ≤ ceil n (d - w) := Int.ediv_nonneg (by omega) (by omega)
      calc n ≤ ceil n (d - w) * (d - w) := le_ceil_mul (by omega)
        _ ≤ ceil n (d - w) * d := Int.mul_le_mul_of_nonneg_left (by omega) hq
    · cases hmem

theorem Encloses.add {l1 l2 n1 n2 d1 d2 : Int} {h1 h2 : Option Int} (hd1 : 0 ≤ d1)
    (hd2 : 0 ≤ d2) (e1 : Encloses l1 h1 n1 d1) (e2 : Encloses l2 h2 n2 d2) :
    Encloses (min l1 l2) (upper h1 h2) (n1 + n2) (d1 + d2) := by
  constructor
  · have hfst := Int.mul_le_mul_of_nonneg_right (Int.min_le_left l1 l2) hd1
    have hsnd := Int.mul_le_mul_of_nonneg_right (Int.min_le_right l1 l2) hd2
    have := e1.below
    have := e2.below
    rw [Int.mul_add]
    omega
  · intro h hmem
    cases h1 with
    | none => cases hmem
    | some a =>
      cases h2 with
      | none => cases hmem
      | some b =>
        cases hmem
        have hfst := Int.mul_le_mul_of_nonneg_right (Int.le_max_left a b) hd1
        have hsnd := Int.mul_le_mul_of_nonneg_right (Int.le_max_right a b) hd2
        have := e1.above a rfl
        have := e2.above b rfl
        rw [Int.mul_add]
        omega

section

variable {l n d : Int} {h : Option Int}

theorem Encloses.low_le_nearest (hd : 0 < d) (e : Encloses l h n d) : l ≤ nearest n d := by
  have hhalf : 0 ≤ d / 2 := Int.ediv_nonneg (by omega) (by omega)
  have := e.below
  exact (Int.le_ediv_iff_mul_le hd).mpr (by omega)

theorem Encloses.nearest_le_high (hd : 0 < d) (e : Encloses l h n d) :
    ∀ b ∈ h, nearest n d ≤ b := by
  intro b hmem
  have hhalf : d / 2 < d := by omega
  have hle := e.above b hmem
  have hlt : n + d / 2 < (b + 1) * d := by
    rw [Int.add_mul, Int.one_mul]
    omega
  exact Int.lt_add_one_iff.mp (Int.ediv_lt_of_lt_mul hd hlt)

end

theorem nearest_nonneg (hn : 0 ≤ n) (hd : 0 < d) : 0 ≤ nearest n d :=
  Int.ediv_nonneg (by omega) (by omega)

end Ratio

end ApiToken
