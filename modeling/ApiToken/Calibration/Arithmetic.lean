import ApiToken.Lib.Machine
import ApiToken.Lib.Outcome
import ApiToken.Lib.Ratio

/-!
# The arithmetic of the window estimators

What `forward/src/anthropic_calibration.rs`, `gemini/calibration.rs`,
`codex/calibration.rs` and `kimi_calibration.rs` compute with: fixed-point
fractions, money in `i64` nanos, ratios in `i128`. The first three files have
the same helpers, up to the provider's name in the error texts; the KIMI ones
differ where they check their arguments.
-/

namespace ApiToken.Calibration

def fractionScale : Int := 100000000

/-- An `anyhow` error of an estimator: a checked operation that left its
type's range, or a refusal. -/
inductive Failure
  | overflow (text : String)
  | refused (text : String)
deriving DecidableEq

def Failure.IsOverflow : Failure → Prop
  | .overflow _ => True
  | .refused _ => False

/-- `i128::checked_div`: towards zero. -/
def checkedDiv (a b : Int) : Option Int :=
  if b = 0 then none else Range.i128.checked (a.tdiv b)

/-- A checked operation in `i128`. -/
def wide (x : Int) (text : String) : Except Failure Int :=
  orFail (Range.i128.checked x) (.overflow text)

/-- A checked operation in `i64`. -/
def narrow (x : Int) (text : String) : Except Failure Int :=
  orFail (Range.i64.checked x) (.overflow text)

def clamp (x lo hi : Int) : Int := max lo (min x hi)

section Helpers

variable (name : String)

def checkedI64 (value : Int) : Except Failure Int :=
  narrow value (name ++ " calibration result exceeds bigint")

def roundNonnegative (numerator denominator : Int) : Except Failure Int :=
  if numerator ≤ 0 ∨ denominator ≤ 0 then .ok 0
  else orFail
    ((Range.i128.checked (numerator + denominator.tdiv 2)).bind (checkedDiv · denominator))
    (.overflow (name ++ " capacity rounding overflow"))

def ceilNonnegative (numerator denominator : Int) : Except Failure Int :=
  if numerator ≤ 0 ∨ denominator ≤ 0 then .ok 0
  else orFail
    ((Range.i128.checked (numerator + (denominator - 1))).bind (checkedDiv · denominator))
    (.overflow (name ++ " capacity ceiling overflow"))

def ratioBp (numerator denominator : Int) : Except Failure Int :=
  if numerator ≤ 0 ∨ denominator ≤ 0 then .ok 0
  else orFail
    (((Range.i128.checked (10000 * numerator)).bind (checkedDiv · denominator)).map
      (clamp · 0 10000))
    (.overflow (name ++ " confidence ratio overflow"))

/-- `interval_fraction_uncertainty`, from the resolutions of the two ends of
an interval. -/
def intervalFractionUncertainty (anchorResolution observedResolution : Int) : Int :=
  max ((Range.i64.saturated
    (Range.i64.saturated (anchorResolution + observedResolution) + 1)).tdiv 2) 1

/-- The bounds an interval gives: `SCALE · Δspend / Δused`, with the movement
known up to the uncertainty. -/
def sampleBounds (ledger : String) (deltaUsed uncertainty deltaSpend : Int) :
    Except Failure (Int × Option Int) := do
  let numerator ← wide (fractionScale * deltaSpend)
    (name ++ " " ++ ledger ++ " envelope numerator overflow")
  let quotient ← orFail (checkedDiv numerator (deltaUsed + uncertainty))
    (.overflow (name ++ " " ++ ledger ++ " low bound overflow"))
  let low ← checkedI64 name quotient
  if uncertainty < deltaUsed then do
    let ceiling ← ceilNonnegative name numerator (deltaUsed - uncertainty)
    let high ← checkedI64 name ceiling
    .ok (low, some high)
  else .ok (low, none)

/-- `update_workload_envelope`: the low and high bound of a row with
`samples` intervals, after one more. -/
def updateEnvelope (ledger : String) (samples : Int) (low high : Option Int)
    (deltaUsed uncertainty deltaSpend : Int) :
    Except Failure (Option Int × Option Int) := do
  let bounds ← sampleBounds name ledger deltaUsed uncertainty deltaSpend
  .ok
    (some (low.elim bounds.1 (min · bounds.1)),
      if samples = 0 then bounds.2 else Ratio.upper high bounds.2)

/-- The score of `recompute`, before it is narrowed: maturity, stability of
the bounds and fineness of the movement, in basis points. -/
def confidence (maturityBp stabilityBp quantisationBp : Int) : Except Failure Int :=
  orFail
    ((((Range.i128.checked (maturityBp * stabilityBp)).bind (checkedDiv · 10000)).bind
        (fun value => Range.i128.checked (value * quantisationBp))).bind
      (checkedDiv · 10000))
    (.overflow (name ++ " confidence overflow"))

end Helpers

/-- The stability of `recompute`: the share of the low bound in the high. -/
def stability (ratio : Int → Int → Except Failure Int) (low high : Option Int)
    (otherwise : Int) : Except Failure Int :=
  match low, high with
  | some l, some h => if 0 < h then ratio l h else .ok otherwise
  | _, _ => .ok otherwise

/-! ## What they compute, or else an overflow -/

theorem fractionScale_pos : 0 < fractionScale := by decide

theorem wide_ends (x : Int) (text : String) :
    EndsIn Failure.IsOverflow (fun y => y = x) (wide x text) := by
  refine .orFail_of trivial fun y hy => ?_
  exact (Range.checked_eq_some.mp hy).2.2

theorem narrow_ends (x : Int) (text : String) :
    EndsIn Failure.IsOverflow (fun y => y = x ∧ x ≤ Range.i64.hi) (narrow x text) := by
  refine .orFail_of trivial fun y hy => ?_
  obtain ⟨-, hhi, rfl⟩ := Range.checked_eq_some.mp hy
  exact ⟨rfl, hhi⟩

theorem narrow_bind {β : Type} {R : β → Prop} {f : Int → Except Failure β} {x : Int}
    {text : String} (hf : x ≤ Range.i64.hi → EndsIn Failure.IsOverflow R (f x)) :
    EndsIn Failure.IsOverflow R (narrow x text >>= f) :=
  (narrow_ends x text).bind fun _ ⟨h, hx⟩ => h ▸ hf hx

theorem uncertainty_nonneg (a b : Int) : 0 ≤ intervalFractionUncertainty a b := by
  have : 1 ≤ intervalFractionUncertainty a b := Int.le_max_right _ _
  omega

theorem checkedDiv_nonneg {a b q : Int} (ha : 0 ≤ a) (h : checkedDiv a b = some q) :
    q = a / b := by
  unfold checkedDiv at h
  split at h
  · cases h
  · rw [(Range.checked_eq_some.mp h).2.2, Int.tdiv_eq_ediv_of_nonneg ha]

theorem checked_bind_div {x b q : Int} (hx : 0 ≤ x)
    (h : (Range.i128.checked x).bind (checkedDiv · b) = some q) : q = x / b := by
  obtain ⟨y, hy, hq⟩ := bind_eq_some_iff.mp h
  obtain ⟨-, -, rfl⟩ := Range.checked_eq_some.mp hy
  exact checkedDiv_nonneg hx hq

section EndsIn

variable (name : String)

theorem roundNonnegative_ends {n d : Int} (hn : 0 < n) (hd : 0 < d) :
    EndsIn Failure.IsOverflow (fun r => r = Ratio.nearest n d) (roundNonnegative name n d) := by
  rw [roundNonnegative, if_neg (by omega)]
  refine .orFail_of trivial fun r hr => ?_
  rw [Int.tdiv_eq_ediv_of_nonneg (by omega)] at hr
  exact checked_bind_div (by omega) hr

theorem ceilNonnegative_ends {n d : Int} (hn : 0 < n) (hd : 0 < d) :
    EndsIn Failure.IsOverflow (fun r => r = Ratio.ceil n d) (ceilNonnegative name n d) := by
  rw [ceilNonnegative, if_neg (by omega)]
  refine .orFail_of trivial fun r hr => ?_
  exact checked_bind_div (by omega) hr

theorem clamp_range {x lo hi : Int} (h : lo ≤ hi) : lo ≤ clamp x lo hi ∧ clamp x lo hi ≤ hi := by
  unfold clamp
  omega

theorem ratioBp_ends (n d : Int) :
    EndsIn Failure.IsOverflow (fun r => 0 ≤ r ∧ r ≤ 10000) (ratioBp name n d) := by
  unfold ratioBp
  split
  · exact ⟨Int.le_refl 0, by decide⟩
  · refine .orFail_of trivial fun r hr => ?_
    obtain ⟨q, -, rfl⟩ := map_eq_some_iff.mp hr
    exact clamp_range (by decide)

theorem confidence_ends {maturity stability quantisation : Int} (hm : 0 ≤ maturity)
    (hs : 0 ≤ stability) :
    EndsIn Failure.IsOverflow (fun c => stability = 0 → c = 0)
      (confidence name maturity stability quantisation) := by
  refine .orFail_of trivial fun score hscore hzero => ?_
  obtain ⟨product, hproduct, hscore⟩ := bind_eq_some_iff.mp hscore
  obtain ⟨value, hvalue, hproduct⟩ := bind_eq_some_iff.mp hproduct
  have hv := checked_bind_div (Int.mul_nonneg hm hs) hvalue
  rw [hzero, Int.mul_zero, Int.zero_ediv] at hv
  rw [hv, Int.zero_mul] at hproduct
  obtain ⟨-, -, rfl⟩ := Range.checked_eq_some.mp hproduct
  rw [checkedDiv_nonneg (Int.le_refl 0) hscore, Int.zero_ediv]

end EndsIn

theorem stability_ends {ratio : Int → Int → Except Failure Int}
    (hratio : ∀ n d, EndsIn Failure.IsOverflow (fun r => 0 ≤ r ∧ r ≤ 10000) (ratio n d))
    (low high : Option Int) {otherwise : Int} (h0 : 0 ≤ otherwise) :
    EndsIn Failure.IsOverflow (fun r => 0 ≤ r ∧ (high = none → r = otherwise))
      (stability ratio low high otherwise) := by
  unfold stability
  split
  · rename_i l h
    split
    · exact (hratio l h).mono (fun _ h => h) (fun r hr => ⟨hr.1, nofun⟩)
    · exact ⟨h0, fun _ => rfl⟩
  · exact ⟨h0, fun _ => rfl⟩

/-! ## The bounds of a ledger -/

/-- The bounds are those that `spend` for `fraction` proves. -/
structure Bounded (spend fraction : Int) (low high : Option Int) : Prop where
  low : ∃ l, low = some l ∧ 0 ≤ l ∧
    Ratio.Encloses l high (fractionScale * spend) fraction

section Bounds

variable {spend fraction deltaUsed uncertainty deltaSpend samples : Int}
  {low high : Option Int} (name ledger : String)

theorem sampleBounds_eq (hs : 0 < deltaSpend) :
    EndsIn Failure.IsOverflow
      (fun b => b = (fractionScale * deltaSpend / (deltaUsed + uncertainty),
        if uncertainty < deltaUsed then
          some (Ratio.ceil (fractionScale * deltaSpend) (deltaUsed - uncertainty))
        else none))
      (sampleBounds name ledger deltaUsed uncertainty deltaSpend) := by
  have hn : 0 < fractionScale * deltaSpend := Int.mul_pos fractionScale_pos hs
  unfold sampleBounds
  refine .bind_eq (wide_ends _ _) (.bind (.orFail fun _ => trivial) fun quotient hquotient => ?_)
  refine narrow_bind fun _ => ?_
  rw [checkedDiv_nonneg (Int.le_of_lt hn) hquotient]
  split
  · exact .bind_eq (ceilNonnegative_ends name hn (by omega)) (narrow_bind fun _ => rfl)
  · rfl

theorem sampleBounds_ends (hs : 0 < deltaSpend) (hu : 0 < deltaUsed)
    (hw : 0 ≤ uncertainty) :
    EndsIn Failure.IsOverflow
      (fun b => 0 ≤ b.1 ∧ Ratio.Encloses b.1 b.2 (fractionScale * deltaSpend) deltaUsed)
      (sampleBounds name ledger deltaUsed uncertainty deltaSpend) := by
  have hn : 0 < fractionScale * deltaSpend := Int.mul_pos fractionScale_pos hs
  refine (sampleBounds_eq name ledger hs).mono (fun _ he => he) ?_
  rintro _ rfl
  exact ⟨Int.ediv_nonneg (Int.le_of_lt hn) (by omega),
    Ratio.encloses_widened (Int.le_of_lt hn) hu hw⟩

/-- One more interval: the bounds of a ledger without intervals are those of
the first, later ones widen them. -/
theorem updateEnvelope_ends (hs : 0 < deltaSpend) (hu : 0 < deltaUsed)
    (hw : 0 ≤ uncertainty) (h : samples = 0 ∧ spend = 0 ∧ fraction = 0 ∧ low = none ∨
      0 < samples ∧ 0 ≤ fraction ∧ Bounded spend fraction low high) :
    EndsIn Failure.IsOverflow
      (fun b => Bounded (spend + deltaSpend) (fraction + deltaUsed) b.1 b.2)
      (updateEnvelope name ledger samples low high deltaUsed uncertainty deltaSpend) := by
  unfold updateEnvelope
  refine .bind (sampleBounds_ends name ledger hs hu hw) (fun b hb => ?_)
  rcases h with ⟨rfl, rfl, rfl, rfl⟩ | ⟨hsamples, hfraction, ⟨l, rfl, hl, hencloses⟩⟩
  · refine ⟨b.1, rfl, hb.1, ?_⟩
    simpa using hb.2
  · refine ⟨min l b.1, rfl, Int.le_min.mpr ⟨hl, hb.1⟩, ?_⟩
    rw [if_neg (by omega), Int.mul_add]
    exact hencloses.add hfraction (Int.le_of_lt hu) hb.2

theorem Bounded.ordered (hs : 0 < spend) (hf : 0 < fraction)
    (h : Bounded spend fraction low high) {capacity : Int}
    (hcapacity : capacity = Ratio.nearest (fractionScale * spend) fraction) :
    0 ≤ capacity ∧ (∃ l, low = some l ∧ 0 ≤ l ∧ l ≤ capacity) ∧ ∀ b ∈ high, capacity ≤ b := by
  obtain ⟨l, rfl, hl, hencloses⟩ := h.low
  have hn : 0 < fractionScale * spend := Int.mul_pos fractionScale_pos hs
  subst hcapacity
  exact ⟨Ratio.nearest_nonneg (Int.le_of_lt hn) hf,
    ⟨l, rfl, hl, hencloses.low_le_nearest hf⟩, hencloses.nearest_le_high hf⟩

end Bounds

end ApiToken.Calibration
