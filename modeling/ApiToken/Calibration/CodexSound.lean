import ApiToken.Calibration.Codex
import ApiToken.Calibration.Lawful

/-!
# What every Codex row satisfies

Each of the two ledgers of a row keeps the invariant of `Estimate`; the
credit columns are either all empty or all present. Besides overflows, the
estimator has three refusals of its own, each about the two ledgers of two
observations: `Conflict`.
-/

namespace ApiToken.Calibration.Codex

/-! ## The invariant -/

def Row.api (row : Row) : Estimate where
  samples := row.samples
  fraction := row.observedFractionUnits
  spend := row.observedSpendNano
  capacity := row.currentCapacityNano
  low := row.currentLowNano
  high := row.currentHighNano
  confidence := row.currentConfidenceBp
  lastMeasuredAt := row.lastMeasuredAt

def Row.credits (row : Row) : Estimate where
  samples := row.creditSamples.getD 0
  fraction := row.observedFractionUnits
  spend := row.observedSpendNanocredits.getD 0
  capacity := row.currentCapacityNanocredits
  low := row.currentLowNanocredits
  high := row.currentHighNanocredits
  confidence := row.currentConfidenceBp
  lastMeasuredAt := row.lastMeasuredAt

/-- Before the cutover there are no credit columns. -/
structure Row.Untracked (row : Row) : Prop where
  anchor : row.anchorSpendNanocredits = none
  observed : row.observedSpendNanocredits = none
  capacity : row.currentCapacityNanocredits = none
  low : row.currentLowNanocredits = none
  high : row.currentHighNanocredits = none
  samples : row.creditSamples = none
  estimator : row.creditEstimatorVersion = none
  unattributed : row.unattributedFractionUnits = none

/-- From the cutover on there are all of them. -/
structure Row.Tracked (row : Row) : Prop where
  anchor : ∃ a, row.anchorSpendNanocredits = some a ∧ 0 ≤ a
  observed : ∃ c, row.observedSpendNanocredits = some c
  samples : row.creditSamples = some row.samples
  estimator : row.creditEstimatorVersion = some Codex.creditEstimatorVersion
  unattributed : ∃ u, row.unattributedFractionUnits = some u ∧ 0 ≤ u
  credits : row.credits.Sound

/-- What a stored row has in its columns. -/
structure Row.Sound (row : Row) : Prop where
  home : row.homeId.isEmpty = false
  duration : 0 < row.windowDurationMins
  resetsAt : 0 < row.resetsAt
  observedAt : 0 < row.observedAt
  anchorUsed : 0 ≤ row.anchorUsedFractionUnits ∧
    row.anchorUsedFractionUnits ≤ fractionScale
  used : 0 ≤ row.usedFractionUnits ∧ row.usedFractionUnits ≤ fractionScale
  anchorPercent : row.anchorUsedPercent = roundedPercent row.anchorUsedFractionUnits
  usedPercent : row.usedPercent = roundedPercent row.usedFractionUnits
  anchorSpend : 0 ≤ row.anchorSpendNano
  legacy : row.sumUsedSq = 0 ∧ row.sumUsedSpendNano = 0
  lastCredits : row.lastCapacityNanocredits = none ∧ row.lastLowNanocredits = none ∧
    row.lastHighNanocredits = none
  ready : row.anchorReady = true
  current : row.estimatorVersion = Codex.estimatorVersion
  version : 0 ≤ row.version
  api : row.api.Sound
  tracking : row.Untracked ∨ row.Tracked

structure Observation.Reads (o : Observation) : Prop where
  home : o.homeId.isEmpty = false
  duration : 0 < o.windowDurationMins
  resetsAt : 0 < o.resetsAt
  observedAt : 0 < o.observedAt
  used : 0 ≤ o.usedFractionUnits ∧ o.usedFractionUnits ≤ fractionScale
  percent : o.usedPercent = roundedPercent o.usedFractionUnits
  spend : 0 ≤ o.gatewaySpendNano
  credits : ∀ y ∈ o.gatewaySpendNanocredits, 0 ≤ y

theorem reads_of_valid {o : Observation} (h : validateObservation o = .ok ()) : o.Reads := by
  simp only [validateObservation, failIf_eq_ok, guard_iffs, contains_eq_true, any_eq_false,
    not_not, Int.not_lt, Int.not_le] at h
  obtain ⟨⟨⟨⟨⟨⟨⟨hhome, hduration⟩, hresets⟩, hobserved⟩, hused⟩, hpercent⟩, hspend⟩, hcredits⟩ := h
  exact ⟨hhome, hduration, hresets, hobserved, hused, hpercent, hspend, hcredits⟩

variable {row row' : Row} {o : Observation}

theorem Row.Sound.sums_nonneg (h : row.Sound) : 0 ≤ row.samples ∧
    0 ≤ row.observedFractionUnits ∧ 0 ≤ row.observedSpendNano :=
  h.api.sums_nonneg

theorem Row.Sound.credits_consistent (h : row.Sound) : row.Untracked ∨
    row.creditSamples = some row.samples ∧ row.credits.Consistent :=
  h.tracking.imp_right (fun t => ⟨t.samples, t.credits.consistent⟩)

/-! ## The row validator accepts it -/

theorem invalidColumns_eq_false (h : row.Sound) : row.invalidColumns = false := by
  obtain ⟨hcapacity, hlow, hhigh⟩ := h.api.amounts
  have hsums := h.sums_nonneg
  have hshare : Share row.currentHighNano row.currentConfidenceBp := h.api.share
  have hmeasured := h.api.lastMeasured_pos
  simp only [Row.api] at hcapacity hlow hhigh hmeasured
  simp only [Row.invalidColumns, h.lastCredits, h.ready, h.home, Option.any_none, Bool.not_true,
    Bool.or_false, guard_iffs, contains_eq_true, any_eq_false, not_not, Int.not_lt, Int.not_le,
    true_and]
  have hcredits : (∀ v ∈ row.anchorSpendNanocredits, 0 ≤ v) ∧
      (∀ v ∈ row.observedSpendNanocredits, 0 ≤ v) ∧
      (∀ v ∈ row.currentCapacityNanocredits, 0 ≤ v) ∧
      (∀ v ∈ row.currentLowNanocredits, 0 ≤ v) ∧
      (∀ v ∈ row.currentHighNanocredits, 0 ≤ v) ∧
      (∀ v ∈ row.creditSamples, 0 ≤ v) ∧ (∀ v ∈ row.creditEstimatorVersion, 0 < v) ∧
      ∀ v ∈ row.unattributedFractionUnits, 0 ≤ v := by
    rcases h.tracking with hu | ht
    · simp [hu.anchor, hu.observed, hu.capacity, hu.low, hu.high, hu.samples, hu.estimator,
        hu.unattributed]
    · obtain ⟨a, ha, hanonneg⟩ := ht.anchor
      obtain ⟨c, hc⟩ := ht.observed
      obtain ⟨u, hu, hunonneg⟩ := ht.unattributed
      obtain ⟨hccapacity, hclow, hchigh⟩ := ht.credits.amounts
      have hspend := ht.credits.sums_nonneg.2.2
      simp only [Row.credits, hc, getD_some] at hccapacity hclow hchigh hspend
      refine ⟨by simpa [ha], by simpa [hc], hccapacity, hclow, hchigh, ?_, ?_, by simpa [hu]⟩
      · simpa [ht.samples] using hsums.1
      · simp [ht.estimator, Codex.creditEstimatorVersion]
  obtain ⟨hanchor, hobserved, hccapacity, hclow, hchigh, hcsamples, hcversion,
    hcunattributed⟩ := hcredits
  have hduration := h.duration
  have hresets := h.resetsAt
  have hat := h.observedAt
  refine ⟨⟨⟨⟨⟨⟨⟨⟨⟨⟨⟨⟨⟨⟨⟨⟨⟨⟨⟨⟨⟨⟨⟨⟨⟨⟨⟨hduration, hresets⟩, hat⟩, h.anchorUsed⟩, h.used⟩,
    h.anchorPercent⟩, h.usedPercent⟩, h.anchorSpend⟩, hsums.2.1⟩, hsums.2.2⟩, hsums.1⟩,
    h.legacy.1⟩, h.legacy.2⟩, hcapacity⟩, hlow⟩, hhigh⟩, hanchor⟩, hobserved⟩, hccapacity⟩,
    hclow⟩, hchigh⟩, hcsamples⟩, hcversion⟩, hcunattributed⟩, ⟨hshare.nonneg, hshare.le⟩⟩,
    hmeasured⟩, h.current⟩, h.version⟩

theorem invalidOrder_eq_false (h : row.Sound) : row.invalidOrder = false := by
  have hapi := h.api.consistent
  simp only [Row.invalidOrder, guard_iffs, above_eq_false]
  rcases h.tracking with hu | ht
  · refine ⟨⟨⟨⟨⟨hapi.low_le_capacity, hapi.capacity_le_high⟩, hapi.low_le_high⟩, ?_⟩, ?_⟩, ?_⟩
    · simp [hu.low]
    · simp [hu.capacity]
    · simp [hu.low]
  · have hcredits := ht.credits.consistent
    exact ⟨⟨⟨⟨⟨hapi.low_le_capacity, hapi.capacity_le_high⟩, hapi.low_le_high⟩,
      hcredits.low_le_capacity⟩, hcredits.capacity_le_high⟩, hcredits.low_le_high⟩

theorem invalidTracking_eq_false (h : row.Sound) : row.invalidTracking = false := by
  rcases h.tracking with hu | ht
  · simp [Row.invalidTracking, hu.anchor, hu.observed, hu.capacity, hu.low, hu.high,
      hu.samples, hu.estimator, hu.unattributed, h.lastCredits]
  · obtain ⟨a, ha, -⟩ := ht.anchor
    obtain ⟨c, hc⟩ := ht.observed
    obtain ⟨u, hu, -⟩ := ht.unattributed
    simp [Row.invalidTracking, ha, hc, hu, ht.samples, ht.estimator]

theorem evidence_checks {e : Estimate} (h : e.Sound) :
    (e.samples = 0 → e.fraction = 0 ∧ e.spend = 0 ∧ e.capacity = none ∧ e.low = none ∧
      e.high = none ∧ e.confidence = 0 ∧ e.lastMeasuredAt = none) ∧
    (0 < e.samples → 0 < e.fraction ∧ 0 < e.spend ∧ e.capacity.isSome ∧ e.low.isSome ∧
      e.lastMeasuredAt.isSome ∧ (e.high = none → e.confidence = 0)) := by
  have hunproved := h.consistent.unproved
  rcases h.consistent.evidence with he | ⟨hsamples, hfraction, hspend, hcapacity, hlow, hlast⟩
  · exact ⟨fun _ => ⟨he.fraction, he.spend, he.capacity, he.low, he.high, he.confidence,
      he.lastMeasured⟩, fun hpos => absurd he.samples (by omega)⟩
  · exact ⟨fun hzero => absurd hzero (by omega),
      fun _ => ⟨hfraction, hspend, hcapacity, hlow, hlast, hunproved⟩⟩

theorem invalidEvidence_eq_false (h : row.Sound) : row.invalidEvidence = false := by
  obtain ⟨hempty, hmeasured⟩ := evidence_checks h.api
  simp only [Row.api] at hempty hmeasured
  have happly : ∀ a b : Bool, (a = true → b = false) → (a && b) = false := by
    intro a b hab
    cases a with
    | false => rfl
    | true => exact hab rfl
  simp only [Row.invalidEvidence, guard_iffs]
  refine ⟨⟨⟨happly _ _ (fun hzero => ?_), happly _ _ (fun hpos => ?_)⟩,
    happly _ _ (fun hzero => ?_)⟩, happly _ _ (fun hpos => ?_)⟩
  · have hzero := of_decide_eq_true hzero
    rcases h.tracking with hu | ht
    · rw [hu.samples] at hzero
      cases hzero
    · obtain ⟨c, hc⟩ := ht.observed
      have hcheck := (evidence_checks ht.credits).1
      simp only [Row.credits, hc, hzero, getD_some, true_implies] at hcheck
      simp [hc, hcheck]
  · rcases h.tracking with hu | ht
    · rw [hu.samples] at hpos
      cases hpos
    · obtain ⟨c, hc⟩ := ht.observed
      have hcheck := (evidence_checks ht.credits).2
      rw [ht.samples, any_some, decide_eq_true_eq] at hpos
      simp only [Row.credits, hc, ht.samples, hpos, getD_some, true_implies] at hcheck
      obtain ⟨-, hspend, hcapacity, hlow, -, hunproved⟩ := hcheck
      cases hhigh : row.currentHighNanocredits with
      | none => simp [hc, hspend, hcapacity, hlow, hunproved hhigh]
      | some => simp [hc, hspend, hcapacity, hlow]
  · simp [hempty (of_decide_eq_true hzero)]
  · obtain ⟨hfraction, hspend, hcapacity, hlow, hlast, hunproved⟩ :=
      hmeasured (of_decide_eq_true hpos)
    cases hhigh : row.currentHighNano with
    | none => simp [hfraction, hspend, hcapacity, hlow, hlast, hunproved hhigh]
    | some => simp [hfraction, hspend, hcapacity, hlow, hlast]

theorem validateRow_sound (h : row.Sound) : validateRow row = .ok () := by
  simp only [validateRow, failIf_eq_ok, guard_iffs]
  exact ⟨⟨⟨invalidColumns_eq_false h, invalidOrder_eq_false h⟩, invalidTracking_eq_false h⟩,
    invalidEvidence_eq_false h⟩

/-! ## The steps of `observe` -/

/-- The two spends disagree on what moved. -/
inductive Conflict (spend : Int) (credits : Option Int) (o : Observation) : Prop
  | untracked (h : credits.isSome = true) (ho : o.gatewaySpendNanocredits = none)
  | backwards {x y : Int} (h : credits = some x) (ho : o.gatewaySpendNanocredits = some y)
      (hlt : y < x)
  | diverged {x y : Int} (h : credits = some x) (ho : o.gatewaySpendNanocredits = some y)
      (hone : ¬ (o.gatewaySpendNano = spend ↔ y = x))

def Agree (row : Row) (o : Observation) : Prop :=
  row.anchorSpendNanocredits.isSome = o.gatewaySpendNanocredits.isSome

/-- What an observation keeps of a row. -/
structure Kept (row row' : Row) (o : Observation) : Prop where
  home : row'.homeId = row.homeId
  duration : row'.windowDurationMins = row.windowDurationMins
  anchor : row'.anchorSpendNano = row.anchorSpendNano ∧
      row'.anchorSpendNanocredits = row.anchorSpendNanocredits ∨
    row'.anchorSpendNano = o.gatewaySpendNano ∧
      row'.anchorSpendNanocredits = o.gatewaySpendNanocredits

theorem advanced_credits (h : Agree row o) :
    o.gatewaySpendNanocredits.elim row.anchorSpendNanocredits some =
      o.gatewaySpendNanocredits := by
  unfold Agree at h
  cases ho : o.gatewaySpendNanocredits with
  | some => rfl
  | none =>
    rw [ho, isSome_none] at h
    exact not_isSome_iff_eq_none.mp (by simp [h])

theorem sound_anchorRow (h : o.Reads) : (anchorRow o).Sound where
  home := h.home
  duration := h.duration
  resetsAt := h.resetsAt
  observedAt := h.observedAt
  anchorUsed := h.used
  used := h.used
  anchorPercent := h.percent
  usedPercent := h.percent
  anchorSpend := h.spend
  legacy := ⟨rfl, rfl⟩
  lastCredits := ⟨rfl, rfl, rfl⟩
  ready := rfl
  current := rfl
  version := Int.le_refl 0
  api := .inl ⟨rfl, rfl, rfl, rfl, rfl, rfl, rfl, rfl⟩
  tracking := by
    cases ho : o.gatewaySpendNanocredits with
    | none => exact .inl (by constructor <;> simp [anchorRow, ho])
    | some y =>
      refine .inr ⟨⟨y, ho, h.credits y ho⟩, ⟨0, by simp [anchorRow, ho]⟩,
        by simp [anchorRow, ho], by simp [anchorRow, ho],
        ⟨0, by simp [anchorRow, ho], Int.le_refl 0⟩, .inl ?_⟩
      constructor <;> simp [Row.credits, anchorRow, ho]

theorem sound_seen (hrow : row.Sound) (ho : o.Reads) : (row.seen o).Sound where
  home := hrow.home
  duration := hrow.duration
  resetsAt := hrow.resetsAt
  observedAt := ho.observedAt
  anchorUsed := hrow.anchorUsed
  used := ho.used
  anchorPercent := hrow.anchorPercent
  usedPercent := ho.percent
  anchorSpend := hrow.anchorSpend
  legacy := hrow.legacy
  lastCredits := hrow.lastCredits
  ready := hrow.ready
  current := hrow.current
  version := hrow.version
  api := hrow.api
  tracking := hrow.tracking.imp
    (fun h => ⟨h.anchor, h.observed, h.capacity, h.low, h.high, h.samples, h.estimator,
      h.unattributed⟩)
    (fun h => ⟨h.anchor, h.observed, h.samples, h.estimator, h.unattributed, h.credits⟩)

theorem sound_advanceAnchor (hrow : row.Sound) (ho : o.Reads) (hagree : Agree row o) :
    (row.advanceAnchor o).Sound where
  home := hrow.home
  duration := hrow.duration
  resetsAt := hrow.resetsAt
  observedAt := hrow.observedAt
  anchorUsed := ho.used
  used := hrow.used
  anchorPercent := ho.percent
  usedPercent := hrow.usedPercent
  anchorSpend := ho.spend
  legacy := hrow.legacy
  lastCredits := hrow.lastCredits
  ready := hrow.ready
  current := hrow.current
  version := hrow.version
  api := hrow.api
  tracking := by
    have hadvanced : (row.advanceAnchor o).anchorSpendNanocredits =
        o.gatewaySpendNanocredits := advanced_credits hagree
    unfold Agree at hagree
    rcases hrow.tracking with h | h
    · left
      rw [h.anchor, isSome_none] at hagree
      refine ⟨?_, h.observed, h.capacity, h.low, h.high, h.samples, h.estimator, h.unattributed⟩
      rw [hadvanced]
      exact not_isSome_iff_eq_none.mp (by simp [← hagree])
    · right
      obtain ⟨a, ha, -⟩ := h.anchor
      rw [ha, isSome_some] at hagree
      obtain ⟨y, hy⟩ := isSome_iff_exists.mp hagree.symm
      exact ⟨⟨y, hadvanced.trans hy, ho.credits y hy⟩, h.observed, h.samples, h.estimator,
        h.unattributed, h.credits⟩

theorem sound_resetsAt (hrow : row.Sound) {resetsAt : Int} (h : 0 < resetsAt) :
    Row.Sound { row with resetsAt := resetsAt, anchorReady := true } :=
  { hrow with
    resetsAt := h
    ready := rfl
    tracking := hrow.tracking.imp
      (fun h => ⟨h.anchor, h.observed, h.capacity, h.low, h.high, h.samples, h.estimator,
        h.unattributed⟩)
      (fun h => ⟨h.anchor, h.observed, h.samples, h.estimator, h.unattributed, h.credits⟩) }

theorem sound_beginWindow (hrow : row.Sound) (ho : o.Reads) (hagree : Agree row o) :
    (row.beginWindow o).Sound :=
  sound_seen (sound_advanceAnchor (sound_resetsAt hrow ho.resetsAt) ho hagree) ho

theorem sound_startCreditTracking (hrow : row.Sound) (ho : o.Reads) {y : Int}
    (hy : o.gatewaySpendNanocredits = some y) : (row.startCreditTracking o).Sound where
  home := hrow.home
  duration := hrow.duration
  resetsAt := ho.resetsAt
  observedAt := ho.observedAt
  anchorUsed := ho.used
  used := ho.used
  anchorPercent := ho.percent
  usedPercent := ho.percent
  anchorSpend := ho.spend
  legacy := hrow.legacy
  lastCredits := hrow.lastCredits
  ready := hrow.ready
  current := hrow.current
  version := hrow.version
  api := .inl ⟨rfl, rfl, rfl, rfl, rfl, rfl, rfl, rfl⟩
  tracking := .inr {
    anchor := ⟨y, by simp [Row.startCreditTracking, Row.advanceAnchor, Row.seen, hy],
      ho.credits y hy⟩
    observed := ⟨0, rfl⟩
    samples := rfl
    estimator := rfl
    unattributed := ⟨0, rfl, Int.le_refl 0⟩
    credits := .inl ⟨rfl, rfl, rfl, rfl, rfl, rfl, rfl, rfl⟩ }

/-! ## Measuring -/

theorem creditCapacity_ends (hf : 0 < row.observedFractionUnits)
    (hc : ∀ c ∈ row.observedSpendNanocredits, 0 < c) :
    EndsIn Failure.IsOverflow
      (fun capacity => capacity = row.observedSpendNanocredits.elim
        row.currentCapacityNanocredits
        (fun c => some (Ratio.nearest (fractionScale * c) row.observedFractionUnits)))
      (creditCapacity row) := by
  unfold creditCapacity
  cases hobserved : row.observedSpendNanocredits with
  | none => exact rfl
  | some c =>
    have hn : 0 < fractionScale * c := Int.mul_pos fractionScale_pos (hc c hobserved)
    refine .bind_eq (wide_ends _ _) ?_
    exact .bind_eq (roundNonnegative_ends "Codex" hn hf) (narrow_bind fun _ => rfl)

theorem recompute_ends (hf : 0 < row.observedFractionUnits)
    (hs : 0 < row.observedSpendNano) (hc : ∀ c ∈ row.observedSpendNanocredits, 0 < c) :
    EndsIn Failure.IsOverflow
      (fun row' => ∃ confidence, Share row.currentHighNano confidence ∧
        (row.anchorSpendNanocredits.isSome = true → Share row.currentHighNanocredits confidence) ∧
        row' = { row with
          currentCapacityNano := some (Ratio.nearest
            (fractionScale * row.observedSpendNano) row.observedFractionUnits)
          currentCapacityNanocredits := row.observedSpendNanocredits.elim
            row.currentCapacityNanocredits
            (fun c => some (Ratio.nearest (fractionScale * c) row.observedFractionUnits))
          currentConfidenceBp := confidence })
      (recompute row) := by
  have hn : 0 < fractionScale * row.observedSpendNano := Int.mul_pos fractionScale_pos hs
  unfold recompute
  simp only []
  rw [if_neg (by omega)]
  refine .bind_eq (wide_ends _ _) ?_
  refine .bind_eq (roundNonnegative_ends "Codex" hn hf) (narrow_bind fun _ => ?_)
  refine .bind_eq (creditCapacity_ends hf hc) ?_
  refine .bind (ratioBp_ends "Codex" _ _) (fun maturity hmaturity => ?_)
  refine .bind (stability_ends (ratioBp_ends "Codex") _ _ (Int.le_refl 0))
    (fun api hapi => ?_)
  have hotherwise : 0 ≤ if row.anchorSpendNanocredits.isNone then api else 0 := by
    split
    · exact hapi.1
    · exact Int.le_refl 0
  refine .bind (stability_ends (ratioBp_ends "Codex") _ _ hotherwise)
    (fun credit hcredit => ?_)
  refine .bind (ratioBp_ends "Codex" _ _) (fun quantisation _ => ?_)
  have hmin : 0 ≤ min api credit := Int.le_min.mpr ⟨hapi.1, hcredit.1⟩
  refine .bind (confidence_ends "Codex" hmaturity.1 hmin) (fun score hscore => ?_)
  refine narrow_bind fun _ => ?_
  refine ⟨_, share_clamp (fun hnone => hscore ?_),
    fun htracked => share_clamp (fun hnone => hscore ?_), rfl⟩
  · have := hapi.2 hnone
    have := hcredit.1
    omega
  · have hzero := hcredit.2 hnone
    rw [← Option.not_isSome, htracked] at hzero
    have : credit = 0 := by simpa using hzero
    have := hapi.1
    omega

theorem measureApi_ends {deltaUsed deltaSpend : Int} (hrow : row.Sound) (ho : o.Reads)
    (hcredits : row.anchorSpendNanocredits = none)
    (hcredits' : o.gatewaySpendNanocredits = none) (hu : 0 < deltaUsed)
    (hs : 0 < deltaSpend) :
    EndsIn Failure.IsOverflow (fun row' => row'.Sound ∧ Kept row row' o)
      (measureApi row o deltaUsed deltaSpend) := by
  have hnonneg := hrow.sums_nonneg
  have huntracked : row.Untracked := hrow.tracking.resolve_right (fun ht => by
    obtain ⟨a, ha, -⟩ := ht.anchor
    rw [hcredits] at ha
    cases ha)
  have hadvanced : o.gatewaySpendNanocredits.elim row.anchorSpendNanocredits some = none := by
    rw [hcredits', hcredits]
    rfl
  unfold measureApi
  refine .bind (updateEnvelope_ends "Codex" "workload" hs hu
    (uncertainty_nonneg _ _) hrow.api.before) (fun bounds hbounds => ?_)
  refine narrow_bind fun _ => narrow_bind fun _ => narrow_bind fun _ => ?_
  refine (recompute_ends (by simp only []; omega) (by simp only []; omega) ?_).mono
    (fun _ he => he) ?_
  · intro c hc
    simp only [Row.advanceAnchor, huntracked.observed] at hc
    cases hc
  rintro row' ⟨confidence, hshare, -, rfl⟩
  have hsound := sound_advanceAnchor hrow ho (by rw [Agree, hcredits, hcredits'])
  refine ⟨{ hsound with
      api := hrow.api.add hu hs hbounds hshare ho.observedAt
      tracking := .inl ⟨hadvanced, huntracked.observed, ?_, huntracked.low, huntracked.high,
        huntracked.samples, huntracked.estimator, huntracked.unattributed⟩ },
    ⟨rfl, rfl, .inr ⟨rfl, hadvanced.trans hcredits'.symm⟩⟩⟩
  simp only [Row.advanceAnchor, huntracked.observed, elim_none, huntracked.capacity]

theorem measureBoth_ends {deltaUsed deltaSpend deltaNanocredits : Int}
    (hrow : row.Sound) (ho : o.Reads) (htracked : row.Tracked) {y : Int}
    (hy : o.gatewaySpendNanocredits = some y) (hu : 0 < deltaUsed) (hs : 0 < deltaSpend)
    (hc : 0 < deltaNanocredits) :
    EndsIn Failure.IsOverflow (fun row' => row'.Sound ∧ Kept row row' o)
      (measureBoth row o deltaUsed deltaSpend deltaNanocredits) := by
  have hnonneg := hrow.sums_nonneg
  obtain ⟨credits, hcredits⟩ := htracked.observed
  have hcnonneg : 0 ≤ row.credits.spend := htracked.credits.sums_nonneg.2.2
  have hadvanced : o.gatewaySpendNanocredits.elim row.anchorSpendNanocredits some = some y := by
    rw [hy]
    rfl
  unfold measureBoth
  refine .bind (updateEnvelope_ends "Codex" "workload" hs hu
    (uncertainty_nonneg _ _) hrow.api.before) (fun bounds hbounds => ?_)
  refine .bind (updateEnvelope_ends "Codex" "credit" hc hu
    (uncertainty_nonneg _ _) htracked.credits.before) (fun creditBounds hcreditBounds => ?_)
  refine narrow_bind fun _ => narrow_bind fun _ => narrow_bind fun _ => ?_
  refine narrow_bind fun _ => narrow_bind fun _ => ?_
  have hcpos : 0 < row.observedSpendNanocredits.getD 0 + deltaNanocredits := by
    change 0 ≤ row.observedSpendNanocredits.getD 0 at hcnonneg
    omega
  refine (recompute_ends (by simp only []; omega) (by simp only []; omega) ?_).mono
    (fun _ he => he) ?_
  · intro c hmem
    cases hmem
    exact hcpos
  rintro row' ⟨confidence, hshare, hcreditShare, rfl⟩
  have hcreditShare := hcreditShare (by
    simp only [Row.advanceAnchor]
    rw [hadvanced]
    rfl)
  have hsound := sound_advanceAnchor hrow ho (by
    obtain ⟨a, ha, -⟩ := htracked.anchor
    rw [Agree, ha, hy]
    rfl)
  refine ⟨{ hsound with
      api := hrow.api.add hu hs hbounds hshare ho.observedAt
      tracking := .inr {
        anchor := ⟨y, hadvanced, ho.credits y hy⟩
        observed := ⟨_, rfl⟩
        samples := by simp [htracked.samples]
        estimator := htracked.estimator
        unattributed := htracked.unattributed
        credits := htracked.credits.add hu hc hcreditBounds hcreditShare ho.observedAt } },
    ⟨rfl, rfl, .inr ⟨rfl, hadvanced.trans hy.symm⟩⟩⟩

/-! ## Observing -/

/-- The errors of `observe` on a valid observation of the row's window. -/
def Refuses (row : Row) (o : Observation) (e : Failure) : Prop :=
  e.IsOverflow ∨ Conflict row.anchorSpendNano row.anchorSpendNanocredits o

theorem kept_seen : Kept row (row.seen o) o := ⟨rfl, rfl, .inl ⟨rfl, rfl⟩⟩

theorem sound_unattributed (hrow : row.Sound) (htracked : row.Tracked) {units : Int}
    (h : 0 ≤ units) : Row.Sound { row with unattributedFractionUnits := some units } :=
  { hrow with
    tracking := .inr ⟨htracked.anchor, htracked.observed, htracked.samples,
      htracked.estimator, ⟨units, rfl, h⟩, htracked.credits⟩ }

theorem weigh_ends (hrow : row.Sound) (ho : o.Reads) (hagree : Agree row o) :
    EndsIn (Refuses row o) (fun row' => row'.Sound ∧ Kept row row' o) (weigh row o) := by
  have hseen := sound_seen hrow ho
  unfold weigh
  simp only []
  split
  · exact ⟨hseen, kept_seen⟩
  · rename_i hmoved
    rw [not_or] at hmoved
    split
    · rename_i huntracked
      split
      · exact ⟨hseen, kept_seen⟩
      · have hnone : o.gatewaySpendNanocredits = none := by
          rw [Agree, huntracked, isSome_none] at hagree
          exact not_isSome_iff_eq_none.mp (by simp [← hagree])
        refine (measureApi_ends hseen ho huntracked hnone (by omega) (by omega)).mono
          (fun _ he => .inl he) ?_
        exact fun row' h => ⟨h.1, h.2.home, h.2.duration, h.2.anchor⟩
    · rename_i x hx
      have htracked : (row.seen o).Tracked := hseen.tracking.resolve_left (fun hu => by
        have : row.anchorSpendNanocredits = none := hu.anchor
        rw [hx] at this
        cases this)
      refine .bind (EndsIn.orFail (fun hnone => .inr ?_)) (fun y hy => ?_)
      · exact .untracked (by rw [hx]; rfl) hnone
      refine .bind (.failIf (fun hlt => .inr ?_)) (fun _ hge => ?_)
      · exact .backwards hx hy (of_decide_eq_true hlt)
      have hge := of_decide_eq_false hge
      have hadvanced : Agree (row.seen o) o := hagree
      split
      · split
        · refine .bind ((narrow_ends _ _).mono (fun _ he => .inl he) (fun _ h => h))
            (fun units hunits => ?_)
          obtain ⟨u, hu, hunonneg⟩ := htracked.unattributed
          have hu : row.unattributedFractionUnits = some u := hu
          rw [hu, getD_some] at hunits
          refine ⟨sound_advanceAnchor (sound_unattributed hseen htracked (by omega)) ho hadvanced,
            rfl, rfl, .inr ⟨rfl, advanced_credits hagree⟩⟩
        · exact ⟨hseen, kept_seen⟩
      · rename_i hsome
        refine .bind (.failIf (fun hone => .inr ?_)) (fun _ hboth => ?_)
        · refine .diverged hx hy (fun hiff => hsome ?_)
          simp only [guard_iffs] at hone
          omega
        simp only [guard_iffs] at hboth
        refine (measureBoth_ends hseen ho htracked hy (by omega) (by omega) (by omega)).mono
          (fun _ he => .inl he) ?_
        exact fun row' h => ⟨h.1, h.2.home, h.2.duration, h.2.anchor⟩

theorem observe_ends (hrow : row.Sound) (hhome : o.homeId = row.homeId)
    (hduration : o.windowDurationMins = row.windowDurationMins)
    (hv : validateObservation o = .ok ()) :
    EndsIn (Refuses row o) (fun row' => row'.Sound ∧ Kept row row' o) (observe row o) := by
  have ho := reads_of_valid hv
  have hrefl : Kept row row o := ⟨rfl, rfl, .inl ⟨rfl, rfl⟩⟩
  unfold observe
  rw [hv]
  refine .bind (Q := fun _ => True) trivial (fun _ _ => ?_)
  refine .bind (.failIf (fun hne => ?_)) (fun _ _ => ?_)
  · simp [hhome, hduration] at hne
  split
  · exact ⟨hrow, hrefl⟩
  refine .bind (.failIf (fun hne => absurd hrow.current (of_decide_eq_true hne)))
    (fun _ _ => ?_)
  split
  · rename_i hstart
    rw [Bool.and_eq_true] at hstart
    obtain ⟨y, hy⟩ := isSome_iff_exists.mp hstart.2
    refine ⟨sound_startCreditTracking hrow ho hy, rfl, rfl, .inr ⟨rfl, ?_⟩⟩
    simp [Row.startCreditTracking, Row.advanceAnchor, Row.seen, hy]
  · rename_i hstarted
    refine .bind (.failIf (fun hlost => .inr ?_)) (fun _ hkept => ?_)
    · rw [Bool.and_eq_true] at hlost
      exact .untracked hlost.1 (isNone_iff_eq_none.mp hlost.2)
    have hagree : Agree row o := by
      unfold Agree
      cases hx : row.anchorSpendNanocredits <;> cases hy : o.gatewaySpendNanocredits <;>
        simp [hx, hy] at hstarted hkept ⊢
    split
    · exact ⟨sound_beginWindow hrow ho hagree, rfl, rfl, .inr ⟨rfl, advanced_credits hagree⟩⟩
    · split
      · exact ⟨hrow, hrefl⟩
      · exact weigh_ends hrow ho hagree

/-! ## Runs -/

theorem resume_sound (hrow : row.Sound) (o : Observation) : resume (some row) o = .ok row := by
  simp only [resume, if_pos hrow.current, fromRow, validateRow_sound hrow]
  rfl

theorem applyObservation_first (hv : validateObservation o = .ok ()) :
    applyObservation none o = .ok (anchorRow o) := by
  have hirrefl : ¬ (anchorRow o).observedAt < o.observedAt := Int.lt_irrefl _
  simp only [applyObservation, resume, anchor, hv]
  show (if (anchorRow o).observedAt < o.observedAt then observe (anchorRow o) o
    else .ok (anchorRow o)) = _
  rw [if_neg hirrefl]

theorem applyObservation_next (hrow : row.Sound) (o : Observation) :
    applyObservation (some row) o =
      if row.observedAt < o.observedAt then observe row o else .ok row := by
  simp only [applyObservation, resume_sound hrow]
  rfl

def ConflictIn (observations : List Observation) : Prop :=
  ∃ a b, List.Sublist [a, b] observations ∧
    Conflict a.gatewaySpendNano a.gatewaySpendNanocredits b

/-- What a live estimator has after the observations `done`. -/
def Holds (homeId : String) (mins : Int) (done : List Observation) :
    Option Row → Prop
  | none => done = []
  | some row => row.Sound ∧ row.homeId = homeId ∧ row.windowDurationMins = mins ∧
      ∃ a ∈ done, row.anchorSpendNano = a.gatewaySpendNano ∧
        row.anchorSpendNanocredits = a.gatewaySpendNanocredits

theorem live_ends {homeId : String} {mins : Int} {observations : List Observation}
    (hid : ∀ o ∈ observations, o.homeId = homeId ∧ o.windowDurationMins = mins)
    (hv : ∀ o ∈ observations, validateObservation o = .ok ()) :
    EndsIn (fun e => e.IsOverflow ∨ ConflictIn observations)
      (Holds homeId mins observations) (live applyObservation observations) := by
  refine endsIn_foldlM (I := Holds homeId mins) rfl ?_
  intro done o rest existing hsplit hholds
  have hmem : o ∈ observations := by simp [hsplit]
  have hlast : o ∈ done ++ [o] := by simp
  obtain ⟨hhome, hduration⟩ := hid o hmem
  cases existing with
  | none =>
    rw [applyObservation_first (hv o hmem)]
    exact ⟨sound_anchorRow (reads_of_valid (hv o hmem)), hhome, hduration, o, hlast, rfl, rfl⟩
  | some row =>
    obtain ⟨hrow, hrowHome, hrowDuration, a, ha, hspend, hcredits⟩ := hholds
    rw [applyObservation_next hrow]
    split
    · have hends := observe_ends hrow (hhome.trans hrowHome.symm)
        (hduration.trans hrowDuration.symm) (hv o hmem)
      cases hobserved : observe row o with
      | error =>
        rcases hends.of_eq_error hobserved with he | hconflict
        · exact .inl he
        · rw [hspend, hcredits] at hconflict
          refine .inr ⟨a, o, ?_, hconflict⟩
          rw [hsplit]
          exact (List.singleton_sublist.mpr ha).append
            (List.singleton_sublist.mpr (mem_cons_self ..))
      | ok =>
        obtain ⟨hsound, hkept⟩ := hends.of_eq_ok hobserved
        refine ⟨hsound, hkept.home.trans hrowHome, hkept.duration.trans hrowDuration, ?_⟩
        rcases hkept.anchor with h | h
        · exact ⟨a, mem_append_left _ ha, h.1.trans hspend, h.2.trans hcredits⟩
        · exact ⟨o, hlast, h⟩
    · exact ⟨hrow, hrowHome, hrowDuration, a, mem_append_left _ ha, hspend, hcredits⟩

end ApiToken.Calibration.Codex
