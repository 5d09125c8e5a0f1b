import ApiToken.Calibration.Lawful

/-!
# When an interval fits

The other side of `Lawful`: an interval whose bounds, sums and capacity fit
`bigint` is measured. The inequalities are stated on the row and the
observation, multiplied out; everything else `measureInterval` checks fits
`i128` by itself.
-/

namespace ApiToken.Calibration

variable {x b n d : Int}

variable {κ ν μ : Type}

/-! ## Helpers that succeed -/

theorem wide_ok (h0 : 0 ≤ x) (h : x ≤ Range.i128.hi) (text : String) : wide x text = .ok x := by
  rw [wide, Range.checked_nonneg h0, if_pos h]
  rfl

theorem narrow_ok (h0 : 0 ≤ x) (h : x ≤ Range.i64.hi) (text : String) :
    narrow x text = .ok x := by
  rw [narrow, Range.checked_nonneg h0, if_pos h]
  rfl

theorem checked_bind_div_ok (h0 : 0 ≤ x) (h : x ≤ Range.i128.hi) (hb : 0 < b) :
    (Range.i128.checked x).bind (checkedDiv · b) = some (x / b) := by
  have hq : 0 ≤ x / b := Int.ediv_nonneg h0 (by omega)
  have hle : x / b ≤ x := Int.ediv_le_self b h0
  rw [Range.checked_nonneg h0, if_pos h]
  show checkedDiv x b = _
  rw [checkedDiv, if_neg (by omega), Int.tdiv_eq_ediv_of_nonneg h0, Range.checked_nonneg hq,
    if_pos (by omega)]

theorem roundNonnegative_ok (name : String) (hn : 0 < n) (hd : 0 < d)
    (h : n + d ≤ Range.i128.hi) : roundNonnegative name n d = .ok (Ratio.nearest n d) := by
  rw [roundNonnegative, if_neg (by omega), Int.tdiv_eq_ediv_of_nonneg (by omega),
    checked_bind_div_ok (by omega) (by omega) hd]
  rfl

theorem ceilNonnegative_ok (name : String) (hn : 0 < n) (hd : 0 < d)
    (h : n + d ≤ Range.i128.hi) : ceilNonnegative name n d = .ok (Ratio.ceil n d) := by
  rw [ceilNonnegative, if_neg (by omega), checked_bind_div_ok (by omega) (by omega) hd]
  rfl

theorem ratioBp_ok (name : String) (d : Int) (h : 10000 * n ≤ Range.i128.hi) :
    ∃ r, ratioBp name n d = .ok r ∧ 0 ≤ r ∧ r ≤ 10000 := by
  rw [ratioBp]
  split
  · exact ⟨0, rfl, by omega, by omega⟩
  · rw [checked_bind_div_ok (by omega) h (by omega)]
    exact ⟨_, rfl, (clamp_range (by decide)).1, (clamp_range (by decide)).2⟩

theorem stability_ok (name : String) {low high : Option Int}
    (h : ∀ l ∈ low, 10000 * l ≤ Range.i128.hi) :
    ∃ r, stability (ratioBp name) low high 0 = .ok r ∧ 0 ≤ r ∧ r ≤ 10000 := by
  unfold stability
  split
  · rename_i l b
    split
    · exact ratioBp_ok name b (h l rfl)
    · exact ⟨0, rfl, by omega, by omega⟩
  · exact ⟨0, rfl, by omega, by omega⟩

theorem confidence_ok (name : String) {a c : Int} (ha : 0 ≤ a ∧ a ≤ 10000)
    (hb : 0 ≤ b ∧ b ≤ 10000) (hc : 0 ≤ c ∧ c ≤ 10000) :
    ∃ score, confidence name a b c = .ok score ∧ 0 ≤ score ∧ score ≤ Range.i64.hi := by
  have hi128 : (10000 * 10000 : Int) ≤ Range.i128.hi := by decide
  have hi64 : (10000 * 10000 : Int) ≤ Range.i64.hi := by decide
  have hab : a * b ≤ 10000 * 10000 := Int.mul_le_mul ha.2 hb.2 hb.1 (by decide)
  have hab0 : 0 ≤ a * b := Int.mul_nonneg ha.1 hb.1
  have hq : a * b / 10000 ≤ 10000 := by omega
  have hq0 : 0 ≤ a * b / 10000 := by omega
  have hqc : a * b / 10000 * c ≤ 10000 * 10000 := Int.mul_le_mul hq hc.2 hc.1 (by decide)
  have hqc0 : 0 ≤ a * b / 10000 * c := Int.mul_nonneg hq0 hc.1
  refine ⟨a * b / 10000 * c / 10000, ?_, by omega, by omega⟩
  rw [confidence, checked_bind_div_ok hab0 (by omega) (by decide), bind_some,
    checked_bind_div_ok hqc0 (by omega) (by decide)]
  rfl

/-! ## An interval that fits -/

/-- The bounds of an interval, multiplied out, are at most `i64::MAX`. -/
structure SampleFits (deltaUsed uncertainty deltaSpend : Int) : Prop where
  low : fractionScale * deltaSpend < (Range.i64.hi + 1) * (deltaUsed + uncertainty)
  high : uncertainty < deltaUsed →
    fractionScale * deltaSpend ≤ Range.i64.hi * (deltaUsed - uncertainty)

instance SampleFits.decidable (deltaUsed uncertainty deltaSpend : Int) :
    Decidable (SampleFits deltaUsed uncertainty deltaSpend) :=
  decidable_of_iff (_ ∧ _) ⟨fun h => ⟨h.1, h.2⟩, fun h => ⟨h.low, h.high⟩⟩

/-- The interval a row and an observation close fits `bigint`: its bounds, the
sums it goes into, and the capacity they give. -/
structure IntervalFits (row : Row κ μ) (o : Observation κ ν) (deltaUsed deltaSpend : Int) :
    Prop where
  sample : SampleFits deltaUsed
    (intervalFractionUncertainty row.anchorResolutionFractionUnits
      o.measurementResolutionFractionUnits) deltaSpend
  fraction : row.observedFractionUnits + deltaUsed ≤ Range.i64.hi
  spend : row.observedSpendNano + deltaSpend ≤ Range.i64.hi
  samples : row.samples + 1 ≤ Range.i64.hi
  capacity : fractionScale * (row.observedSpendNano + deltaSpend) +
      (row.observedFractionUnits + deltaUsed) / 2 <
    (Range.i64.hi + 1) * (row.observedFractionUnits + deltaUsed)

instance IntervalFits.decidable (row : Row κ μ) (o : Observation κ ν)
    (deltaUsed deltaSpend : Int) : Decidable (IntervalFits row o deltaUsed deltaSpend) :=
  decidable_of_iff (_ ∧ _ ∧ _ ∧ _ ∧ _)
    ⟨fun h => ⟨h.1, h.2.1, h.2.2.1, h.2.2.2.1, h.2.2.2.2⟩,
      fun h => ⟨h.sample, h.fraction, h.spend, h.samples, h.capacity⟩⟩

theorem ediv_le_hi (hd : 0 < d) (h : n < (Range.i64.hi + 1) * d) : n / d ≤ Range.i64.hi :=
  Int.lt_add_one_iff.mp (Int.ediv_lt_of_lt_mul hd h)

theorem ceil_le_hi (hd : 0 < d) (h : n ≤ Range.i64.hi * d) : Ratio.ceil n d ≤ Range.i64.hi := by
  refine ediv_le_hi hd ?_
  rw [Int.add_mul, Int.one_mul]
  omega

section Interval

variable {deltaUsed uncertainty deltaSpend samples : Int} {low high : Option Int}

theorem numerator_le (h : deltaSpend ≤ Range.i64.hi) :
    fractionScale * deltaSpend ≤ 922337203685477580700000000 := by
  unfold fractionScale
  change deltaSpend ≤ 9223372036854775807 at h
  omega

theorem sampleBounds_ok (name ledger : String) (hs : 0 < deltaSpend)
    (hshi : deltaSpend ≤ Range.i64.hi) (hu : 0 < deltaUsed)
    (huhi : deltaUsed ≤ fractionScale) (hw : 0 ≤ uncertainty)
    (hfits : SampleFits deltaUsed uncertainty deltaSpend) :
    ∃ b, sampleBounds name ledger deltaUsed uncertainty deltaSpend = .ok b ∧
      0 ≤ b.1 ∧ b.1 ≤ Range.i64.hi := by
  have hn : 0 < fractionScale * deltaSpend := Int.mul_pos fractionScale_pos hs
  have hnhi := numerator_le hshi
  have hi128 : 922337203685477580700000000 + fractionScale ≤ Range.i128.hi := by decide
  have hscale : 0 < fractionScale := fractionScale_pos
  have hlow : 0 ≤ fractionScale * deltaSpend / (deltaUsed + uncertainty) :=
    Int.ediv_nonneg (by omega) (by omega)
  have hlowhi := ediv_le_hi (by omega) hfits.low
  have hdiv : checkedDiv (fractionScale * deltaSpend) (deltaUsed + uncertainty) =
      some (fractionScale * deltaSpend / (deltaUsed + uncertainty)) := by
    have h := checked_bind_div_ok (x := fractionScale * deltaSpend)
      (b := deltaUsed + uncertainty) (by omega) (by omega) (by omega)
    rw [Range.checked_nonneg (by omega), if_pos (by omega)] at h
    exact h
  unfold sampleBounds checkedI64
  rw [wide_ok (by omega) (by omega)]
  simp only [bind, Except.bind, hdiv, orFail]
  rw [narrow_ok hlow hlowhi]
  simp only []
  by_cases hlt : uncertainty < deltaUsed
  · have hceil := ceil_le_hi (by omega) (hfits.high hlt)
    have hceil0 : 0 ≤ Ratio.ceil (fractionScale * deltaSpend) (deltaUsed - uncertainty) :=
      Int.le_of_lt (Ratio.ceil_pos hn (by omega))
    rw [if_pos hlt, ceilNonnegative_ok name hn (by omega) (by omega)]
    simp only []
    rw [narrow_ok hceil0 hceil]
    exact ⟨_, rfl, hlow, hlowhi⟩
  · rw [if_neg hlt]
    exact ⟨_, rfl, hlow, hlowhi⟩

theorem updateEnvelope_ok (name ledger : String) (hs : 0 < deltaSpend)
    (hshi : deltaSpend ≤ Range.i64.hi) (hu : 0 < deltaUsed)
    (huhi : deltaUsed ≤ fractionScale) (hw : 0 ≤ uncertainty)
    (hfits : SampleFits deltaUsed uncertainty deltaSpend) :
    ∃ b, updateEnvelope name ledger samples low high deltaUsed uncertainty deltaSpend =
      .ok b ∧ ∀ l ∈ b.1, l ≤ Range.i64.hi := by
  obtain ⟨b, hb, hlow, hhi⟩ := sampleBounds_ok name ledger hs hshi hu huhi hw hfits
  unfold updateEnvelope
  rw [hb]
  refine ⟨_, rfl, ?_⟩
  rintro l ⟨⟩
  cases low with
  | none => exact hhi
  | some => exact Int.le_trans (Int.min_le_right _ _) hhi

end Interval

theorem recompute_ok (name : String) {row : Row κ μ} (hf : 0 < row.observedFractionUnits)
    (hfhi : row.observedFractionUnits ≤ Range.i64.hi) (hs : 0 < row.observedSpendNano)
    (hshi : row.observedSpendNano ≤ Range.i64.hi)
    (hsamples : 0 ≤ row.samples ∧ row.samples ≤ Range.i64.hi)
    (hresolution : 0 ≤ row.measurementResolutionFractionUnits ∧
      row.measurementResolutionFractionUnits ≤ fractionScale)
    (hanchor : 0 ≤ row.anchorResolutionFractionUnits ∧
      row.anchorResolutionFractionUnits ≤ fractionScale)
    (hlow : ∀ l ∈ row.currentLowNano, l ≤ Range.i64.hi)
    (hcapacity : fractionScale * row.observedSpendNano + row.observedFractionUnits / 2 <
      (Range.i64.hi + 1) * row.observedFractionUnits) :
    ∃ row', recompute name row = .ok row' := by
  have hn : 0 < fractionScale * row.observedSpendNano := Int.mul_pos fractionScale_pos hs
  have hnhi := numerator_le hshi
  have hi64 : Range.i64.hi = 9223372036854775807 := rfl
  have hi128 : Range.i128.hi = 170141183460469231731687303715884105727 := rfl
  have hscale : fractionScale = 100000000 := rfl
  have hnearest : Ratio.nearest (fractionScale * row.observedSpendNano)
      row.observedFractionUnits ≤ Range.i64.hi := ediv_le_hi hf hcapacity
  obtain ⟨maturity, hmaturity, hm⟩ := ratioBp_ok name (n := row.samples) (row.samples + 2)
    (by omega)
  have hlow128 : ∀ l ∈ row.currentLowNano, 10000 * l ≤ Range.i128.hi := by
    intro l hl
    have := hlow l hl
    omega
  obtain ⟨stable, hstable, hst⟩ :=
    @stability_ok name row.currentLowNano row.currentHighNano hlow128
  have hres : 0 ≤ max row.measurementResolutionFractionUnits
      row.anchorResolutionFractionUnits ∧ max row.measurementResolutionFractionUnits
      row.anchorResolutionFractionUnits ≤ 100000000 := by omega
  have hwide : max row.measurementResolutionFractionUnits
      row.anchorResolutionFractionUnits * 2 * row.samples ≤
      100000000 * 2 * 9223372036854775807 :=
    Int.mul_le_mul (by omega) (by omega) hsamples.1 (by decide)
  have hwide0 : 0 ≤ max row.measurementResolutionFractionUnits
      row.anchorResolutionFractionUnits * 2 * row.samples :=
    Int.mul_nonneg (by omega) hsamples.1
  obtain ⟨quantisation, hquantisation, hq⟩ := ratioBp_ok name (n := row.observedFractionUnits)
    (row.observedFractionUnits + max row.measurementResolutionFractionUnits
      row.anchorResolutionFractionUnits * 2 * row.samples) (by omega)
  obtain ⟨score, hscore, hscore0, hscorehi⟩ := confidence_ok name hm hst hq
  unfold recompute checkedI64
  simp only []
  rw [if_neg (by omega), wide_ok (by omega) (by omega)]
  simp only [bind, Except.bind]
  rw [roundNonnegative_ok name hn hf (by omega)]
  simp only []
  rw [narrow_ok (Ratio.nearest_nonneg (by omega) hf) hnearest]
  simp only [hmaturity, hstable]
  rw [Range.checked_nonneg (by omega), if_pos (by omega)]
  simp only [bind_some]
  rw [Range.checked_nonneg hwide0, if_pos (by omega)]
  simp only [orFail]
  rw [wide_ok (by omega) (by omega)]
  simp only [hquantisation, hscore]
  rw [narrow_ok hscore0 hscorehi]
  exact ⟨_, rfl⟩

theorem measureInterval_ok (name : String) {row : Row κ μ} {o : Observation κ ν}
    {deltaUsed deltaSpend : Int} (hrow : row.Sound) (ho : o.Reads) (hu : 0 < deltaUsed)
    (huhi : deltaUsed ≤ fractionScale) (hs : 0 < deltaSpend)
    (hshi : deltaSpend ≤ Range.i64.hi) (hfits : IntervalFits row o deltaUsed deltaSpend) :
    ∃ row', measureInterval name row o deltaUsed deltaSpend = .ok row' := by
  have hnonneg := hrow.sums_nonneg
  have hwidth : 1 ≤ intervalFractionUncertainty row.anchorResolutionFractionUnits
      o.measurementResolutionFractionUnits := Int.le_max_right _ _
  have hresolution := hrow.resolution
  have hanchor := ho.resolution
  obtain ⟨bounds, hbounds, hlow⟩ : ∃ b, updateEnvelope name "workload" row.samples
      row.currentLowNano row.currentHighNano deltaUsed _ deltaSpend = .ok b ∧ _ :=
    updateEnvelope_ok name "workload" hs hshi hu huhi (by omega) hfits.sample
  unfold measureInterval
  simp only [hbounds, bind, Except.bind]
  rw [narrow_ok (by omega) hfits.fraction]
  simp only []
  rw [narrow_ok (by omega) hfits.spend]
  simp only []
  rw [narrow_ok (by omega) hfits.samples]
  refine recompute_ok name ?_ hfits.fraction ?_ hfits.spend ⟨?_, hfits.samples⟩
    ⟨?_, hresolution.2⟩ ⟨?_, hanchor.2⟩ hlow hfits.capacity
  · show 0 < row.observedFractionUnits + deltaUsed
    omega
  · show 0 < row.observedSpendNano + deltaSpend
    omega
  · show 0 ≤ row.samples + 1
    omega
  · show 0 ≤ row.measurementResolutionFractionUnits
    omega
  · show 0 ≤ o.measurementResolutionFractionUnits
    omega

end ApiToken.Calibration
