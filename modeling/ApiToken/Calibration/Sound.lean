import ApiToken.Calibration.Estimate
import ApiToken.Calibration.Providers

/-!
# What every row of an estimator satisfies

A row's numbers are in range, and its evidence is either none at all or the
sums of complete intervals with a rounded ratio between bounds that enclose
it. The steps of `observe` are listed once, in `Estimator.Step`; each keeps
the invariant.
-/

namespace ApiToken.Calibration

variable {κ ν μ : Type}

/-! ## The invariant -/

/-- What the validation of an observation asks. -/
structure Observation.Reads (o : Observation κ ν) : Prop where
  resetsAt : 0 < o.resetsAt
  observedAt : 0 < o.observedAt
  used : 0 ≤ o.usedFractionUnits ∧ o.usedFractionUnits ≤ fractionScale
  resolution : 1 ≤ o.measurementResolutionFractionUnits ∧
    o.measurementResolutionFractionUnits ≤ fractionScale
  spend : 0 ≤ o.gatewaySpendNano

def Row.estimate (row : Row κ μ) : Estimate where
  samples := row.samples
  fraction := row.observedFractionUnits
  spend := row.observedSpendNano
  capacity := row.currentCapacityNano
  low := row.currentLowNano
  high := row.currentHighNano
  confidence := row.currentConfidenceBp
  lastMeasuredAt := row.lastMeasuredAt

/-- What a stored row has in its columns. -/
structure Row.Sound (row : Row κ μ) : Prop where
  resetsAt : 0 < row.resetsAt
  anchorUsed : 0 ≤ row.anchorUsedFractionUnits ∧
    row.anchorUsedFractionUnits ≤ fractionScale
  anchorResolution : 1 ≤ row.anchorResolutionFractionUnits ∧
    row.anchorResolutionFractionUnits ≤ fractionScale
  anchorSpend : 0 ≤ row.anchorSpendNano
  used : 0 ≤ row.usedFractionUnits ∧ row.usedFractionUnits ≤ fractionScale
  resolution : 1 ≤ row.measurementResolutionFractionUnits ∧
    row.measurementResolutionFractionUnits ≤ fractionScale
  observedAt : 0 < row.observedAt
  updatedTs : 0 < row.updatedTs
  unattributed : 0 ≤ row.unattributedFractionUnits
  evidence : row.estimate.Sound
  /-- The sums fit the columns they are stored in. -/
  narrow : row.samples ≤ Range.i64.hi ∧ row.observedFractionUnits ≤ Range.i64.hi ∧
    row.observedSpendNano ≤ Range.i64.hi

theorem Row.Sound.sums_nonneg {row : Row κ μ} (h : row.Sound) : 0 ≤ row.samples ∧
    0 ≤ row.observedFractionUnits ∧ 0 ≤ row.observedSpendNano :=
  h.evidence.sums_nonneg

/-! ## The steps of `observe` -/

def Row.MeasuredTo (row : Row κ μ) (o : Observation κ ν) (deltaUsed deltaSpend : Int)
    (row' : Row κ μ) : Prop :=
  ∃ capacity low high confidence,
    row' = { row.advanceAnchor o with
      observedFractionUnits := row.observedFractionUnits + deltaUsed
      observedSpendNano := row.observedSpendNano + deltaSpend
      samples := row.samples + 1
      lastMeasuredAt := some o.observedAt
      currentCapacityNano := capacity
      currentLowNano := low
      currentHighNano := high
      currentConfidenceBp := confidence }

namespace Estimator

variable (E : Estimator κ ν μ)

/-- The snapshot of a window that goes on: its fields are written, and the
reset only moves forward. -/
def current (row : Row κ μ) (o : Observation κ ν) : Row κ μ :=
  E.seen row o (max row.resetsAt o.resetsAt)

inductive Step (row : Row κ μ) (o : Observation κ ν) : Row κ μ → Prop
  | stale (h : o.observedAt < row.observedAt) : Step row o row
  | began (h : row.observedAt ≤ o.observedAt) (hb : E.BeginsWindow row o) :
      Step row o (E.beginWindow row o)
  | farBehind (h : row.observedAt ≤ o.observedAt) (hb : ¬ E.BeginsWindow row o)
      (hf : E.FarBehind row o) : Step row o row
  | seen (h : row.observedAt ≤ o.observedAt) (hb : ¬ E.BeginsWindow row o)
      (hf : ¬ E.FarBehind row o) : Step row o (E.current row o)
  | unattributed (h : row.observedAt ≤ o.observedAt) (hb : ¬ E.BeginsWindow row o)
      (hf : ¬ E.FarBehind row o)
      (hu : 0 < o.usedFractionUnits - row.anchorUsedFractionUnits)
      (hs : o.gatewaySpendNano = row.anchorSpendNano) :
      Step row o
        ({ E.current row o with
          unattributedFractionUnits := row.unattributedFractionUnits +
            (o.usedFractionUnits - row.anchorUsedFractionUnits) }.advanceAnchor o)
  | measured {row' : Row κ μ} (h : row.observedAt ≤ o.observedAt)
      (hb : ¬ E.BeginsWindow row o) (hf : ¬ E.FarBehind row o)
      (hu : 0 < o.usedFractionUnits - row.anchorUsedFractionUnits)
      (hs : 0 < o.gatewaySpendNano - row.anchorSpendNano)
      (hm : (E.current row o).MeasuredTo o
        (o.usedFractionUnits - row.anchorUsedFractionUnits)
        (o.gatewaySpendNano - row.anchorSpendNano) row')
      (hsound : row'.Sound) : Step row o row'

/-- What an estimator's parameters have to satisfy. `D` is what its
validators ask of an identity and of the provider's own fields. -/
structure Lawful (D : κ → μ → Prop) : Prop where
  version_pos : 0 < E.version
  reads : ∀ {o : Observation κ ν}, E.validateObservation o = .ok () → o.Reads
  starts : ∀ {o : Observation κ ν}, E.validateObservation o = .ok () →
    D o.identity (E.start o.detail)
  restarts : ∀ n : ν, E.refresh (E.start n) n = E.start n
  refreshes : ∀ {o : Observation κ ν} {m : μ}, E.validateObservation o = .ok () →
    D o.identity m → D o.identity (E.refresh m o.detail)
  accepts : ∀ {row : Row κ μ}, row.Sound → D row.identity row.detail →
    row.estimatorVersion = E.version → 0 ≤ row.version → E.validateRow row = .ok ()
  measures : ∀ {row : Row κ μ} {o : Observation κ ν} {deltaUsed deltaSpend : Int},
    row.Sound → o.Reads → 0 < deltaUsed → 0 < deltaSpend →
    EndsIn Failure.IsOverflow
      (fun row' => row.MeasuredTo o deltaUsed deltaSpend row' ∧ row'.Sound)
      (E.measure row o deltaUsed deltaSpend)

structure Stored (D : κ → μ → Prop) (row : Row κ μ) : Prop where
  sound : row.Sound
  described : D row.identity row.detail
  current : row.estimatorVersion = E.version
  version : 0 ≤ row.version

variable {E} {D : κ → μ → Prop} {row row' : Row κ μ} {o : Observation κ ν}

theorem sound_anchorRow (h : o.Reads) : (E.anchorRow o).Sound where
  resetsAt := h.resetsAt
  anchorUsed := h.used
  anchorResolution := h.resolution
  anchorSpend := h.spend
  used := h.used
  resolution := h.resolution
  observedAt := h.observedAt
  updatedTs := h.observedAt
  unattributed := Int.le_refl 0
  evidence := .inl ⟨rfl, rfl, rfl, rfl, rfl, rfl, rfl, rfl⟩
  narrow := ⟨Range.i64.pos, Range.i64.pos, Range.i64.pos⟩

theorem stored_anchorRow (L : E.Lawful D) (h : E.validateObservation o = .ok ()) :
    E.Stored D (E.anchorRow o) :=
  ⟨sound_anchorRow (L.reads h), L.starts h, rfl, Int.le_refl 0⟩

theorem sound_seen (hrow : row.Sound) (ho : o.Reads) {resetsAt : Int}
    (hr : 0 < resetsAt) : (E.seen row o resetsAt).Sound where
  resetsAt := hr
  anchorUsed := hrow.anchorUsed
  anchorResolution := hrow.anchorResolution
  anchorSpend := hrow.anchorSpend
  used := ho.used
  resolution := ho.resolution
  observedAt := ho.observedAt
  updatedTs := ho.observedAt
  unattributed := hrow.unattributed
  evidence := hrow.evidence
  narrow := hrow.narrow

theorem sound_current (hrow : row.Sound) (ho : o.Reads) : (E.current row o).Sound :=
  sound_seen hrow ho (by have := hrow.resetsAt; omega)

theorem sound_advanceAnchor (hrow : row.Sound) (ho : o.Reads) :
    (row.advanceAnchor o).Sound where
  resetsAt := hrow.resetsAt
  anchorUsed := ho.used
  anchorResolution := ho.resolution
  anchorSpend := ho.spend
  used := hrow.used
  resolution := hrow.resolution
  observedAt := hrow.observedAt
  updatedTs := hrow.updatedTs
  unattributed := hrow.unattributed
  evidence := hrow.evidence
  narrow := hrow.narrow

theorem sound_unattributed (hrow : row.Sound) {units : Int} (h : 0 ≤ units) :
    Row.Sound { row with unattributedFractionUnits := units } where
  resetsAt := hrow.resetsAt
  anchorUsed := hrow.anchorUsed
  anchorResolution := hrow.anchorResolution
  anchorSpend := hrow.anchorSpend
  used := hrow.used
  resolution := hrow.resolution
  observedAt := hrow.observedAt
  updatedTs := hrow.updatedTs
  unattributed := h
  evidence := hrow.evidence
  narrow := hrow.narrow

theorem Step.sound (hrow : row.Sound) (ho : o.Reads) (h : E.Step row o row') : row'.Sound := by
  cases h with
  | stale h | farBehind h hb hf => exact hrow
  | began => exact sound_advanceAnchor (sound_seen hrow ho ho.resetsAt) ho
  | seen => exact sound_current hrow ho
  | unattributed =>
    refine sound_advanceAnchor (sound_unattributed (sound_current hrow ho) ?_) ho
    have := hrow.unattributed
    omega
  | measured _ _ _ _ _ _ hsound => exact hsound

theorem Step.frame (h : E.Step row o row') :
    row'.identity = row.identity ∧ row'.estimatorVersion = row.estimatorVersion ∧
      row'.version = row.version ∧
      (row'.detail = row.detail ∨ row'.detail = E.refresh row.detail o.detail) := by
  cases h with
  | stale h | farBehind h hb hf => exact ⟨rfl, rfl, rfl, .inl rfl⟩
  | began h hb | seen h hb hf | unattributed h hb hf hu hs => exact ⟨rfl, rfl, rfl, .inr rfl⟩
  | measured _ _ _ _ _ hm =>
    obtain ⟨_, _, _, _, rfl⟩ := hm
    exact ⟨rfl, rfl, rfl, .inr rfl⟩

theorem Step.stored (L : E.Lawful D) (hrow : E.Stored D row)
    (hid : o.identity = row.identity) (hv : E.validateObservation o = .ok ())
    (h : E.Step row o row') : E.Stored D row' := by
  obtain ⟨hidentity, hcurrent, hversion, hdetail⟩ := h.frame
  refine ⟨h.sound hrow.sound (L.reads hv), ?_, hcurrent.trans hrow.current, ?_⟩
  · rw [hidentity]
    rcases hdetail with hdetail | hdetail
    · rw [hdetail]
      exact hrow.described
    · rw [hdetail, ← hid]
      exact L.refreshes hv (hid ▸ hrow.described)
  · rw [hversion]
    exact hrow.version

theorem weigh_ends (L : E.Lawful D) (hrow : row.Sound) (ho : o.Reads)
    (h : row.observedAt ≤ o.observedAt) (hb : ¬ E.BeginsWindow row o)
    (hf : ¬ E.FarBehind row o)
    (hs : E.regression = .refused → row.anchorSpendNano ≤ o.gatewaySpendNano) :
    EndsIn Failure.IsOverflow (E.Step row o) (E.weigh row o) := by
  have hcurrent := sound_current (E := E) hrow ho
  unfold weigh
  simp only []
  split
  · exact Step.seen h hb hf
  · rename_i hmoved
    rw [not_or] at hmoved
    -- a spend below the anchor's has been held or refused by now
    have hspend : row.anchorSpendNano ≤ o.gatewaySpendNano := by
      cases hr : E.regression with
      | held =>
        have : ¬ o.gatewaySpendNano < row.anchorSpendNano := fun hlt => hmoved.2 ⟨hr, hlt⟩
        omega
      | refused => exact hs hr
    split
    · split
      · exact narrow_bind fun _ => Step.unattributed h hb hf (by omega) (by omega)
      · exact Step.seen h hb hf
    · refine (L.measures hcurrent ho (by omega) (by omega)).mono (fun _ he => he) ?_
      intro row' hrow'
      exact Step.measured h hb hf (by omega) (by omega) hrow'.1 hrow'.2

variable [DecidableEq κ]

/-- Why `observe` refuses a valid observation of its window. -/
def Regresses (E : Estimator κ ν μ) (row : Row κ μ) (o : Observation κ ν) : Prop :=
  E.regression = .refused ∧ o.gatewaySpendNano < row.anchorSpendNano

theorem observe_ends (L : E.Lawful D) (hrow : E.Stored D row)
    (hid : o.identity = row.identity) (hv : E.validateObservation o = .ok ()) :
    EndsIn (fun e => e.IsOverflow ∨ E.Regresses row o) (E.Step row o) (E.observe row o) := by
  unfold observe
  rw [hv]
  refine .bind (Q := fun _ => True) trivial (fun _ _ => ?_)
  refine .bind (.failIf (fun hne => absurd hid (of_decide_eq_true hne)))
    (fun _ _ => ?_)
  split
  · rename_i hstale
    exact Step.stale hstale
  · rename_i hfresh
    rw [Int.not_lt] at hfresh
    refine .bind (.failIf (fun hne => absurd hrow.current (of_decide_eq_true hne)))
      (fun _ _ => ?_)
    refine .bind (.failIf (fun hlow => ?_)) (fun _ hnot => ?_)
    · simp only [guard_iffs] at hlow
      exact .inr hlow
    have hspend := of_decide_eq_false hnot
    split
    · rename_i hb
      exact Step.began hfresh hb
    · rename_i hb
      split
      · rename_i hf
        exact Step.farBehind hfresh hb hf
      · rename_i hf
        refine (weigh_ends L hrow.sound (L.reads hv) hfresh hb hf ?_).mono
          (fun _ he => .inl he) (fun _ hstep => hstep)
        intro hr
        have : ¬ o.gatewaySpendNano < row.anchorSpendNano := fun hlt => hspend ⟨hr, hlt⟩
        omega

theorem observe_accepted (h : E.observe row o = .ok row') :
    E.validateObservation o = .ok () ∧ o.identity = row.identity := by
  unfold observe at h
  obtain ⟨_, hv, h⟩ := bind_eq_ok.mp h
  obtain ⟨_, hid, -⟩ := bind_eq_ok.mp h
  exact ⟨hv, not_not.mp (of_decide_eq_false (failIf_eq_ok.mp hid))⟩

theorem observe_step (L : E.Lawful D) (hrow : E.Stored D row)
    (h : E.observe row o = .ok row') : E.Step row o row' := by
  obtain ⟨hv, hid⟩ := observe_accepted h
  exact (observe_ends L hrow hid hv).of_eq_ok h

theorem observe_anchorRow (L : E.Lawful D) (hv : E.validateObservation o = .ok ()) :
    E.observe (E.anchorRow o) o = .ok (E.anchorRow o) := by
  have hboundary : 1 ≤ E.resetBoundary (E.anchorRow o) := Int.le_max_right _ _
  have hsame : (E.anchorRow o).resetsAt = o.resetsAt := rfl
  have hb : ¬ E.BeginsWindow (E.anchorRow o) o := by
    intro hb
    rcases hb with hb | hb
    · omega
    · exact Int.lt_irrefl _ hb.1
  have hf : ¬ E.FarBehind (E.anchorRow o) o := by
    unfold FarBehind
    omega
  have hlow : ¬ (E.regression = .refused ∧
      o.gatewaySpendNano < (E.anchorRow o).anchorSpendNano) :=
    fun hlow => Int.lt_irrefl _ hlow.2
  have hweigh : E.weigh (E.anchorRow o) o = .ok (E.anchorRow o) := by
    rw [weigh, if_pos (.inl (by simp [anchorRow]))]
    simp only [seen, anchorRow, L.restarts, Int.max_self]
  unfold observe
  rw [hv]
  simp only [hb, hf, hlow, if_false, hweigh]
  simp [anchorRow, failIf, bind, Except.bind]

end Estimator

end ApiToken.Calibration
