import ApiToken.Calibration.Sound

/-!
# The three estimators keep the invariant

Measuring an interval keeps the published estimate between its bounds: for
the Anthropic and the Gemini estimator because the bounds of the parts
enclose the ratio of the sums, for the KIMI estimator because the bounds are
those of the whole movement. What then passes through `observe` passes the
estimator's own row validator.
-/

namespace ApiToken.Calibration

variable {κ ν μ : Type} {row : Row κ μ} {o : Observation κ ν} {deltaUsed deltaSpend : Int}

theorem sound_measured (hrow : row.Sound) (ho : o.Reads) (hu : 0 < deltaUsed)
    (hs : 0 < deltaSpend) (hsamples : row.samples + 1 ≤ Range.i64.hi)
    (hfraction : row.observedFractionUnits + deltaUsed ≤ Range.i64.hi)
    (hspend : row.observedSpendNano + deltaSpend ≤ Range.i64.hi)
    {low high : Option Int} {confidence : Int}
    (hbounds : Bounded (row.observedSpendNano + deltaSpend)
      (row.observedFractionUnits + deltaUsed) low high) (hshare : Share high confidence) :
    Row.Sound { row.advanceAnchor o with
      observedFractionUnits := row.observedFractionUnits + deltaUsed
      observedSpendNano := row.observedSpendNano + deltaSpend
      samples := row.samples + 1
      lastMeasuredAt := some o.observedAt
      currentCapacityNano := some (Ratio.nearest
        (fractionScale * (row.observedSpendNano + deltaSpend))
        (row.observedFractionUnits + deltaUsed))
      currentLowNano := low
      currentHighNano := high
      currentConfidenceBp := confidence } where
  resetsAt := hrow.resetsAt
  anchorUsed := ho.used
  anchorResolution := ho.resolution
  anchorSpend := ho.spend
  used := hrow.used
  resolution := hrow.resolution
  observedAt := hrow.observedAt
  updatedTs := hrow.updatedTs
  unattributed := hrow.unattributed
  narrow := ⟨hsamples, hfraction, hspend⟩
  evidence := hrow.evidence.add hu hs hbounds hshare ho.observedAt

/-! ## Intervals measured one by one -/

theorem recompute_ends (name : String) (hf : 0 < row.observedFractionUnits)
    (hs : 0 < row.observedSpendNano) :
    EndsIn Failure.IsOverflow
      (fun row' => ∃ confidence, Share row.currentHighNano confidence ∧
        row' = { row with
          currentCapacityNano := some (Ratio.nearest
            (fractionScale * row.observedSpendNano) row.observedFractionUnits)
          currentConfidenceBp := confidence })
      (recompute name row) := by
  have hn : 0 < fractionScale * row.observedSpendNano := Int.mul_pos fractionScale_pos hs
  unfold recompute
  simp only []
  rw [if_neg (by omega)]
  refine .bind_eq (wide_ends _ _) ?_
  refine .bind_eq (roundNonnegative_ends name hn hf) (narrow_bind fun _ => ?_)
  refine .bind (ratioBp_ends name _ _) (fun maturity hmaturity => ?_)
  refine .bind (stability_ends (ratioBp_ends name) _ _ (Int.le_refl 0))
    (fun stable hstable => ?_)
  refine .bind (.orFail fun _ => trivial) (fun widening _ => ?_)
  refine .bind_eq (wide_ends _ _) ?_
  refine .bind (ratioBp_ends name _ _) (fun quantisation _ => ?_)
  refine .bind (confidence_ends name hmaturity.1 hstable.1) (fun score hscore => ?_)
  refine narrow_bind fun _ => ?_
  exact ⟨_, share_clamp (fun hnone => hscore (hstable.2 hnone)), rfl⟩

theorem measureInterval_ends (name : String) (hrow : row.Sound) (ho : o.Reads)
    (hu : 0 < deltaUsed) (hs : 0 < deltaSpend) :
    EndsIn Failure.IsOverflow
      (fun row' => row.MeasuredTo o deltaUsed deltaSpend row' ∧ row'.Sound)
      (measureInterval name row o deltaUsed deltaSpend) := by
  have hnonneg := hrow.sums_nonneg
  unfold measureInterval
  refine .bind (updateEnvelope_ends name "workload" hs hu (uncertainty_nonneg _ _)
    hrow.evidence.before)
    (fun bounds hbounds => ?_)
  refine narrow_bind fun hfraction => narrow_bind fun hspend => narrow_bind fun hsamples => ?_
  refine (recompute_ends name (by simp only []; omega) (by simp only []; omega)).mono
    (fun _ he => he) ?_
  rintro row' ⟨confidence, hshare, rfl⟩
  exact ⟨⟨_, _, _, _, rfl⟩, sound_measured hrow ho hu hs hsamples hfraction hspend hbounds hshare⟩

/-! ## The shared validators -/

theorem contains_eq_true {lo hi x : Int} : contains lo hi x = true ↔ lo ≤ x ∧ x ≤ hi := by
  simp [contains]

theorem reads_of_valid (h : invalidReading o = false) : o.Reads := by
  simp only [invalidReading, guard_iffs, contains_eq_true] at h
  obtain ⟨⟨⟨⟨hresets, hobserved⟩, hused⟩, hresolution⟩, hspend⟩ := h
  exact ⟨by omega, by omega, hused, hresolution, by omega⟩

theorem above_eq_false {low high : Option Int} :
    above low high = false ↔ ∀ l ∈ low, ∀ h ∈ high, l ≤ h := by
  cases low <;> cases high <;> simp [above]

theorem any_eq_false {o : Option Int} {p : Int → Prop} [DecidablePred p] :
    o.any (fun value => decide (p value)) = false ↔ ∀ value ∈ o, ¬ p value := by
  cases o <;> simp

theorem evidence_eq_true (h : row.estimate.Sound) :
    (row.emptyEvidence || row.measuredEvidence) = true := by
  rcases h.consistent.evidence with he | ⟨hsamples, hfraction, hspend, hcapacity, hlow, ht⟩
  · have h1 : row.samples = 0 := he.samples
    have h2 : row.observedFractionUnits = 0 := he.fraction
    have h3 : row.observedSpendNano = 0 := he.spend
    have h4 : row.currentCapacityNano = none := he.capacity
    have h5 : row.currentLowNano = none := he.low
    have h6 : row.currentHighNano = none := he.high
    have h7 : row.currentConfidenceBp = 0 := he.confidence
    have h8 : row.lastMeasuredAt = none := he.lastMeasured
    simp [Row.emptyEvidence, h1, h2, h3, h4, h5, h6, h7, h8]
  · have hsums : 0 < row.samples ∧ 0 < row.observedFractionUnits ∧
        0 < row.observedSpendNano := ⟨hsamples, hfraction, hspend⟩
    have h4 : row.currentCapacityNano.isSome = true := hcapacity
    have h5 : row.currentLowNano.isSome = true := hlow
    have h8 : row.lastMeasuredAt.isSome = true := ht
    simp [Row.measuredEvidence, hsums, h4, h5, h8]

theorem invalidRow_eq_false (h : row.Sound) (hestimator : 0 < row.estimatorVersion)
    (hversion : 0 ≤ row.version) : invalidRow row = false := by
  have hconsistent := h.evidence.consistent
  obtain ⟨hcapacity, hlow, hhigh⟩ := h.evidence.amounts
  have hunproved : (row.currentHighNano.isNone && decide (row.currentConfidenceBp ≠ 0)) =
      false := by
    cases hh : row.currentHighNano with
    | some => rfl
    | none =>
      have : row.currentConfidenceBp = 0 := hconsistent.unproved hh
      simp [this]
  have hmeasured := h.evidence.lastMeasured_pos
  simp only [Row.estimate] at hconsistent hcapacity hlow hhigh hmeasured
  simp only [invalidRow, guard_iffs, contains_eq_true, above_eq_false, any_eq_false, Int.not_lt,
    Int.not_le, evidence_eq_true h.evidence, hunproved, and_true]
  have hnonneg := h.sums_nonneg
  have hshare : Share row.currentHighNano row.currentConfidenceBp := h.evidence.share
  exact ⟨⟨⟨⟨⟨⟨⟨⟨⟨⟨⟨⟨⟨⟨⟨⟨⟨⟨⟨⟨⟨h.resetsAt, h.anchorUsed⟩, h.anchorResolution⟩, h.anchorSpend⟩,
    h.used⟩, h.resolution⟩, h.observedAt⟩, hnonneg.2.1⟩, hnonneg.2.2⟩, hnonneg.1⟩,
    h.unattributed⟩, hcapacity⟩, hlow⟩, hhigh⟩, hconsistent.low_le_capacity⟩,
    hconsistent.capacity_le_high⟩, hconsistent.low_le_high⟩, ⟨hshare.nonneg, hshare.le⟩⟩,
    hmeasured⟩, hestimator⟩, hversion⟩, h.updatedTs⟩

/-! ## Anthropic -/

namespace Anthropic

def Described (i : Identity) (_ : Unit) : Prop := i.valid = true

theorem lawful : estimator.Lawful Described where
  version_pos := by decide
  reads := fun {o} h => by
    have h := failIf_eq_ok.mp h
    simp only [guard_iffs] at h
    exact reads_of_valid h.1.2
  starts := fun {o} h => by
    have h := failIf_eq_ok.mp h
    simp only [guard_iffs] at h
    exact h.1.1
  restarts := fun _ => rfl
  refreshes := fun _ h => h
  accepts := fun {row} hrow hd hcurrent hversion => by
    have hpos : 0 < row.estimatorVersion := by rw [hcurrent]; decide
    show validateRow row = .ok ()
    simp only [validateRow, validateAnthropicCalibrationRow, ok_steps, guard_iffs, not_not]
    exact ⟨⟨hd, invalidRow_eq_false hrow hpos hversion⟩, hcurrent⟩
  measures := fun hrow ho hu hs => measureInterval_ends "Anthropic" hrow ho hu hs

end Anthropic

/-! ## Exact Gemini -/

namespace ExactGemini

def Described (i : Identity) (_ : Unit) : Prop := i.valid = true

theorem validWindow_of_contract {i : Identity} {contract : String × Int}
    (h : bucketContract i.bucketId = some contract) (hkind : i.windowKind = contract.1)
    (hmins : i.windowDurationMins = contract.2) :
    validGeminiExactWindow i.bucketId i.windowKind i.windowDurationMins = true := by
  unfold bucketContract at h
  split at h
  · rename_i hid
    cases h
    simp [validGeminiExactWindow, hid, hkind, hmins]
  · split at h
    · rename_i hid
      cases h
      simp [validGeminiExactWindow, hid, hkind, hmins]
    · cases h

theorem validateObservation_eq_ok {o : Observation Identity Source}
    (h : validateObservation o = .ok ()) : o.identity.valid = true ∧ o.Reads := by
  simp only [validateObservation, ok_steps, guard_iffs, not_not] at h
  obtain ⟨contract, hcontract, ⟨⟨⟨⟨hid, hplan⟩, hkind⟩, hmins⟩, hreading⟩, -⟩ := h
  have hwindow := validWindow_of_contract hcontract hkind hmins
  exact ⟨by simp [Identity.valid, hid, hplan, hwindow], reads_of_valid hreading⟩

theorem lawful : estimator.Lawful Described where
  version_pos := by decide
  reads := fun h => (validateObservation_eq_ok h).2
  starts := fun h => (validateObservation_eq_ok h).1
  restarts := fun _ => rfl
  refreshes := fun _ h => h
  accepts := fun {row} hrow hd hcurrent hversion => by
    have hpos : 0 < row.estimatorVersion := by rw [hcurrent]; decide
    show validateRow row = .ok ()
    simp only [validateRow, validateGeminiExactCalibrationRow, ok_steps, guard_iffs, not_not]
    exact ⟨⟨hd, invalidRow_eq_false hrow hpos hversion⟩, hcurrent⟩
  measures := fun hrow ho hu hs => measureInterval_ends "Gemini" hrow ho hu hs

end ExactGemini

/-! ## KIMI -/

namespace Kimi

structure Described (i : Identity) (native : Native) : Prop where
  subject : i.subjectId.isEmpty = false
  plan : i.plan.isEmpty = false
  duration : 0 < i.windowDurationSecs
  limit : 0 < native.nativeLimitUnits
  used : native.nativeUsedUnits ≤ native.nativeLimitUnits

theorem roundNonnegative_ends {n d : Int} (hn : 0 < n) (hd : 0 < d) :
    EndsIn Failure.IsOverflow (fun r => r = Ratio.nearest n d) (roundNonnegative n d) := by
  unfold roundNonnegative
  refine .bind (.failIf (fun h => absurd (of_decide_eq_true h) (by omega)))
    (fun _ _ => ?_)
  refine .orFail_of trivial fun r hr => ?_
  rw [Int.tdiv_eq_ediv_of_nonneg (by omega)] at hr
  exact checked_bind_div (by omega) hr

theorem ceilNonnegative_ends {n d : Int} (hn : 0 < n) (hd : 0 < d) :
    EndsIn Failure.IsOverflow (fun r => r = Ratio.ceil n d) (ceilNonnegative n d) := by
  unfold ceilNonnegative
  refine .bind (.failIf (fun h => absurd (of_decide_eq_true h) (by omega)))
    (fun _ _ => ?_)
  refine .orFail_of trivial fun r hr => ?_
  exact checked_bind_div (by omega) hr

theorem ratioBp_ends (n d : Int) :
    EndsIn Failure.IsOverflow (fun r => 0 ≤ r ∧ r ≤ 10000) (ratioBp n d) := by
  unfold ratioBp
  split
  · exact ⟨Int.le_refl 0, by decide⟩
  · refine .orFail_of trivial fun r hr => ?_
    obtain ⟨q, -, rfl⟩ := map_eq_some_iff.mp hr
    exact clamp_range (by decide)

theorem highBound_ends {n d w : Int} (hn : 0 < n) :
    EndsIn Failure.IsOverflow
      (fun high => high = if w < d then some (Ratio.ceil n (d - w)) else none)
      (highBound n d w) := by
  unfold highBound
  split
  · exact .bind_eq (ceilNonnegative_ends hn (by omega)) (narrow_bind fun _ => rfl)
  · rfl

/-- The width of the whole movement: one resolution for each interval. -/
def uncertainty (row : Row Identity Native) : Int :=
  row.samples * max row.measurementResolutionFractionUnits row.anchorResolutionFractionUnits

theorem recompute_ends {row : Row Identity Native} (hf : 0 < row.observedFractionUnits)
    (hs : 0 < row.observedSpendNano) :
    EndsIn Failure.IsOverflow
      (fun row' => ∃ high confidence, Share high confidence ∧
        high = (if uncertainty row < row.observedFractionUnits then
            some (Ratio.ceil (fractionScale * row.observedSpendNano)
              (row.observedFractionUnits - uncertainty row))
          else none) ∧
        row' = { row with
          currentCapacityNano := some (Ratio.nearest
            (fractionScale * row.observedSpendNano) row.observedFractionUnits)
          currentLowNano := some (fractionScale * row.observedSpendNano /
            (row.observedFractionUnits + uncertainty row))
          currentHighNano := high
          currentConfidenceBp := confidence })
      (recompute row) := by
  have hn : 0 < fractionScale * row.observedSpendNano := Int.mul_pos fractionScale_pos hs
  unfold recompute
  simp only []
  rw [if_neg (show ¬ row.observedFractionUnits ≤ 0 by omega)]
  refine .bind_eq (wide_ends _ _) ?_
  refine .bind_eq (roundNonnegative_ends hn hf) (narrow_bind fun _ => ?_)
  refine .bind_eq (wide_ends _ _) (.bind (.orFail fun _ => trivial) fun quotient hquotient => ?_)
  refine narrow_bind fun _ => ?_
  rw [checkedDiv_nonneg (Int.le_of_lt hn) hquotient]
  refine .bind (highBound_ends hn) (fun high hhigh => ?_)
  refine .bind (ratioBp_ends _ _) (fun maturity hmaturity => ?_)
  refine .bind (stability_ends ratioBp_ends _ _ (Int.le_refl 0)) (fun stable hstable => ?_)
  refine .bind_eq (wide_ends _ _) (.bind_eq (wide_ends _ _) ?_)
  refine .bind (ratioBp_ends _ _) (fun quantisation _ => ?_)
  refine .bind (confidence_ends "KIMI" hmaturity.1 hstable.1) (fun score hscore => ?_)
  refine narrow_bind fun _ => ?_
  exact ⟨_, _, share_clamp (fun hnone => hscore (hstable.2 hnone)), hhigh, rfl⟩

theorem measure_eq {row : Row Identity Native} {o : Observation Identity Native}
    {deltaUsed deltaSpend : Int} (hrow : row.Sound) (hu : 0 < deltaUsed)
    (hs : 0 < deltaSpend) :
    EndsIn Failure.IsOverflow
      (fun row' => ∃ width confidence high, Share high confidence ∧
        width = (row.samples + 1) *
          max row.measurementResolutionFractionUnits o.measurementResolutionFractionUnits ∧
        high = (if width < row.observedFractionUnits + deltaUsed then
            some (Ratio.ceil (fractionScale * (row.observedSpendNano + deltaSpend))
              (row.observedFractionUnits + deltaUsed - width))
          else none) ∧
        row.samples + 1 ≤ Range.i64.hi ∧
        row.observedFractionUnits + deltaUsed ≤ Range.i64.hi ∧
        row.observedSpendNano + deltaSpend ≤ Range.i64.hi ∧
        row' = { row.advanceAnchor o with
          observedFractionUnits := row.observedFractionUnits + deltaUsed
          observedSpendNano := row.observedSpendNano + deltaSpend
          samples := row.samples + 1
          lastMeasuredAt := some o.observedAt
          currentCapacityNano := some (Ratio.nearest
            (fractionScale * (row.observedSpendNano + deltaSpend))
            (row.observedFractionUnits + deltaUsed))
          currentLowNano := some (fractionScale * (row.observedSpendNano + deltaSpend) /
            (row.observedFractionUnits + deltaUsed + width))
          currentHighNano := high
          currentConfidenceBp := confidence })
      (measure row o deltaUsed deltaSpend) := by
  have hnonneg := hrow.sums_nonneg
  unfold measure
  refine narrow_bind fun hfraction => narrow_bind fun hspend => narrow_bind fun hsamples => ?_
  refine (recompute_ends (by simp only []; omega) (by simp only []; omega)).mono
    (fun _ he => he) ?_
  rintro row' ⟨high, confidence, hshare, hhigh, rfl⟩
  exact ⟨_, confidence, high, hshare, rfl, hhigh, hsamples, hfraction, hspend, rfl⟩

theorem measure_ends {row : Row Identity Native} {o : Observation Identity Native}
    {deltaUsed deltaSpend : Int} (hrow : row.Sound) (ho : o.Reads) (hu : 0 < deltaUsed)
    (hs : 0 < deltaSpend) :
    EndsIn Failure.IsOverflow
      (fun row' => row.MeasuredTo o deltaUsed deltaSpend row' ∧ row'.Sound)
      (measure row o deltaUsed deltaSpend) := by
  have hnonneg := hrow.sums_nonneg
  have hresolution := hrow.resolution.1
  refine (measure_eq hrow hu hs).mono (fun _ he => he) ?_
  rintro row' ⟨width, confidence, high, hshare, hwidth, hhigh, hsamples, hfraction, hspend, rfl⟩
  have hwide : 0 ≤ width := by
    rw [hwidth]
    exact Int.mul_nonneg (by omega) (by omega)
  have hn : 0 ≤ fractionScale * (row.observedSpendNano + deltaSpend) :=
    Int.mul_nonneg (Int.le_of_lt fractionScale_pos) (by omega)
  have hencloses := Ratio.encloses_widened hn
    (show 0 < row.observedFractionUnits + deltaUsed by omega) hwide
  rw [← hhigh] at hencloses
  exact ⟨⟨_, _, _, _, rfl⟩, sound_measured hrow ho hu hs hsamples hfraction hspend
    ⟨_, rfl, Int.ediv_nonneg hn (by omega), hencloses⟩ hshare⟩

theorem validateObservation_eq_ok {o : Observation Identity Native}
    (h : validateObservation o = .ok ()) :
    Described o.identity o.detail ∧ 0 ≤ o.detail.nativeUsedUnits ∧ o.Reads := by
  simp only [validateObservation, ok_steps, guard_iffs, contains_eq_true] at h
  obtain ⟨hsubject, hplan, hduration, htimes, hlimit, husage, hused, hresolution, hspend⟩ := h
  exact ⟨⟨hsubject, hplan, by omega, by omega, by omega⟩, by omega,
    ⟨by omega, by omega, hused, hresolution, by omega⟩⟩

theorem lawful : estimator.Lawful Described where
  version_pos := by decide
  reads := fun h => (validateObservation_eq_ok h).2.2
  starts := fun h => (validateObservation_eq_ok h).1
  restarts := fun _ => rfl
  refreshes := fun h _ =>
    have hd := (validateObservation_eq_ok h).1
    ⟨hd.subject, hd.plan, hd.duration, hd.limit, hd.used⟩
  accepts := fun {row} hrow hd hcurrent hversion => by
    show validateRow row = .ok ()
    simp only [validateRow, ok_steps, guard_iffs, contains_eq_true]
    have := hd.duration
    have := hd.limit
    have := hd.used
    exact ⟨⟨hd.subject, hd.plan⟩, by omega, by omega, hrow.used,
      above_eq_false.mpr hrow.evidence.consistent.low_le_high⟩
  measures := measure_ends

theorem validateKimiCalibrationRow_stored {row : Row Identity Native}
    (h : estimator.Stored Described row) : validateKimiCalibrationRow row = .ok () := by
  simp only [validateKimiCalibrationRow, ok_steps, guard_iffs, contains_eq_true]
  have := h.described.duration
  have := h.described.limit
  have := h.described.used
  have hconsistent := h.sound.evidence.consistent
  have hpublished : ((row.currentLowNano.isSome || row.currentHighNano.isSome) &&
      row.currentCapacityNano.isNone) = false := by
    cases hcapacity : row.currentCapacityNano with
    | some => simp
    | none =>
      have hnone : row.currentLowNano = none ∧ row.currentHighNano = none :=
        hconsistent.published hcapacity
      simp [hnone.1, hnone.2]
  exact ⟨⟨h.described.subject, h.described.plan⟩, by omega, by omega, h.sound.used,
    h.sound.resolution, hpublished, above_eq_false.mpr hconsistent.low_le_high⟩

end Kimi

end ApiToken.Calibration
