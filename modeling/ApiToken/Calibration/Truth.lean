import Mathlib.Data.Real.Basic
import ApiToken.Lib.Rate
import ApiToken.Lib.Run
import ApiToken.Calibration.Live

/-!
# The true capacity lies in the envelope

A window's true used fraction grows in line with the spend, the whole scale for
one capacity, from the spend at which the window began. Readings report it
rounded, within half of the resolution they report with it. However the anchor
is held, moved or started afresh, an interval has both ends in one window, and
its bounds leave room for the rounding at either end.
-/

namespace ApiToken.Calibration

open Rate (Within)

variable {κ ν μ : Type}

/-! ## Rounded readings of a line -/

/-- The used fraction of a window of capacity `C` that began at `start`. -/
noncomputable def trueFraction (C start : ℝ) (spend : Int) : ℝ :=
  fractionScale * (spend - start) / C

def Rounds (C start : ℝ) (used resolution spend : Int) : Prop :=
  |(used : ℝ) - trueFraction C start spend| ≤ resolution / 2

variable {C start : ℝ}

theorem trueFraction_line (hC : 0 < C) (a b : Int) :
    C * (trueFraction C start b - trueFraction C start a) =
      ((fractionScale * (b - a) : Int) : ℝ) := by
  unfold trueFraction
  rw [← sub_div, mul_div_cancel₀ _ hC.ne']
  push_cast
  ring

theorem Rounds.movement {used used' resolution resolution' spend spend' : Int}
    (h : Rounds C start used resolution spend)
    (h' : Rounds C start used' resolution' spend') :
    |((used' - used : Int) : ℝ) -
        (trueFraction C start spend' - trueFraction C start spend)| ≤
      ((resolution + resolution' : Int) : ℝ) / 2 := by
  obtain ⟨hlow, hhigh⟩ := abs_le.mp h
  obtain ⟨hlow', hhigh'⟩ := abs_le.mp h'
  rw [abs_le]
  push_cast
  constructor <;> linarith

theorem half_le_uncertainty {a b : Int} (ha : 1 ≤ a ∧ a ≤ fractionScale)
    (hb : 1 ≤ b ∧ b ≤ fractionScale) :
    ((a + b : Int) : ℝ) / 2 ≤ (intervalFractionUncertainty a b : ℝ) := by
  have hdouble : a + b ≤ 2 * intervalFractionUncertainty a b := by
    have hsum : Range.i64.saturated (Range.i64.saturated (a + b) + 1) = a + b + 1 := by
      unfold Range.saturated Range.i64
      unfold fractionScale at ha hb
      simp only
      omega
    unfold intervalFractionUncertainty
    rw [hsum, Int.tdiv_eq_ediv_of_nonneg (by omega)]
    omega
  have hcast : ((a + b : Int) : ℝ) ≤ ((2 * intervalFractionUncertainty a b : Int) : ℝ) :=
    Int.cast_le.mpr hdouble
  push_cast at hcast ⊢
  linarith

/-! ## One interval -/

section Interval

variable {row row' : Row κ μ} {o : Observation κ ν} {deltaUsed deltaSpend : Int} {t : ℝ}

theorem sampleBounds_within (name ledger : String) {uncertainty : Int} (hC : 0 < C)
    (hu : 0 < deltaUsed) (hs : 0 < deltaSpend) (hw : 0 ≤ uncertainty)
    (hline : C * t = ((fractionScale * deltaSpend : Int) : ℝ))
    (hnear : |(deltaUsed : ℝ) - t| ≤ uncertainty) :
    EndsIn Failure.IsOverflow (fun b => Within C (some b.1) b.2)
      (sampleBounds name ledger deltaUsed uncertainty deltaSpend) := by
  refine (sampleBounds_eq name ledger hs).mono (fun _ he => he) ?_
  rintro _ rfl
  exact Rate.within_widened hC hu hw hline hnear

theorem updateEnvelope_within (name ledger : String) {uncertainty samples : Int}
    {low high : Option Int} (hC : 0 < C) (hu : 0 < deltaUsed) (hs : 0 < deltaSpend)
    (hw : 0 ≤ uncertainty) (hline : C * t = ((fractionScale * deltaSpend : Int) : ℝ))
    (hnear : |(deltaUsed : ℝ) - t| ≤ uncertainty) (h : Within C low high) :
    EndsIn Failure.IsOverflow (fun b => Within C b.1 b.2)
      (updateEnvelope name ledger samples low high deltaUsed uncertainty deltaSpend) := by
  unfold updateEnvelope
  refine .bind (sampleBounds_within name ledger hC hu hs hw hline hnear) (fun b hb => ?_)
  have hjoin := h.join hb
  refine ⟨hjoin.low, fun bound hbound => ?_⟩
  by_cases hfirst : samples = 0
  · rw [if_pos hfirst] at hbound
    exact hb.high bound hbound
  · rw [if_neg hfirst] at hbound
    exact hjoin.high bound hbound

theorem measureInterval_within (name : String) (hrow : row.Sound) (ho : o.Reads)
    (hC : 0 < C) (hu : 0 < deltaUsed) (hs : 0 < deltaSpend)
    (hline : C * t = ((fractionScale * deltaSpend : Int) : ℝ))
    (hnear : |(deltaUsed : ℝ) - t| ≤ ((row.anchorResolutionFractionUnits +
      o.measurementResolutionFractionUnits : Int) : ℝ) / 2)
    (h : Within C row.currentLowNano row.currentHighNano) :
    EndsIn Failure.IsOverflow (fun row' => Within C row'.currentLowNano row'.currentHighNano)
      (measureInterval name row o deltaUsed deltaSpend) := by
  have hnonneg := hrow.sums_nonneg
  have hcovered := hnear.trans (half_le_uncertainty hrow.anchorResolution ho.resolution)
  unfold measureInterval
  refine .bind (updateEnvelope_within name "workload" hC hu hs (uncertainty_nonneg _ _) hline
    hcovered h) (fun bounds hbounds => ?_)
  refine narrow_bind fun _ => narrow_bind fun _ => narrow_bind fun _ => ?_
  refine (recompute_ends name (by simp only []; omega) (by simp only []; omega)).mono
    (fun _ he => he) ?_
  rintro row' ⟨confidence, -, rfl⟩
  exact hbounds

end Interval

/-! ## Runs -/

/-- An observation, and the spend at which its window began. -/
structure Reading (κ ν : Type) where
  observation : Observation κ ν
  start : ℝ

/-- A reading of a window of capacity `C`. -/
def Reading.Rounds (C : ℝ) (r : Reading κ ν) : Prop :=
  Calibration.Rounds C r.start r.observation.usedFractionUnits
    r.observation.measurementResolutionFractionUnits r.observation.gatewaySpendNano

namespace Estimator

variable (E : Estimator κ ν μ)

def Continues (row : Row κ μ) (o : Observation κ ν) : Prop :=
  row.observedAt ≤ o.observedAt ∧ ¬ E.BeginsWindow row o ∧ ¬ E.FarBehind row o

instance (row : Row κ μ) (o : Observation κ ν) : Decidable (E.Continues row o) :=
  inferInstanceAs (Decidable (_ ∧ _))

def startAfter (row : Row κ μ) (start : ℝ) (r : Reading κ ν) : ℝ :=
  if row.observedAt ≤ r.observation.observedAt ∧ E.BeginsWindow row r.observation then r.start
  else start

def track (apply : Option (Row κ μ) → Observation κ ν → Except Failure (Row κ μ))
    (state : Option (Row κ μ × ℝ)) (r : Reading κ ν) : Option (Row κ μ × ℝ) :=
  match apply (state.map Prod.fst) r.observation with
  | .error _ => state
  | .ok row =>
    match state with
    | none => some (row, r.start)
    | some (old, start) => some (row, E.startAfter old start r)

def InWindow (state : Option (Row κ μ × ℝ)) (r : Reading κ ν) : Prop :=
  ∀ row start, state = some (row, start) → E.Continues row r.observation → r.start = start

/-- What a measurement owes the capacity. -/
def Encloses : Prop :=
  ∀ {C t : ℝ} {row : Row κ μ} {o : Observation κ ν} {deltaUsed deltaSpend : Int},
    0 < C → row.Sound → o.Reads → 0 < deltaUsed → 0 < deltaSpend →
    C * t = ((fractionScale * deltaSpend : Int) : ℝ) →
    |(deltaUsed : ℝ) - t| ≤ ((row.anchorResolutionFractionUnits +
      o.measurementResolutionFractionUnits : Int) : ℝ) / 2 →
    Within C row.currentLowNano row.currentHighNano →
    EndsIn Failure.IsOverflow (fun row' => Within C row'.currentLowNano row'.currentHighNano)
      (E.measure row o deltaUsed deltaSpend)

/-- The anchor is a reading of its window, and the envelope holds the capacity. -/
structure Enclosed (D : κ → μ → Prop) (C : ℝ) (row : Row κ μ) (start : ℝ) : Prop where
  stored : E.Stored D row
  anchor : Calibration.Rounds C start row.anchorUsedFractionUnits
    row.anchorResolutionFractionUnits row.anchorSpendNano
  envelope : Within C row.currentLowNano row.currentHighNano

variable {E} {D : κ → μ → Prop} {row row' : Row κ μ} {o : Observation κ ν}

section

variable [DecidableEq κ]

theorem measure_of_samples (h : E.observe row o = .ok row') (hs : row'.samples ≠ row.samples) :
    E.measure (E.current row o) o (o.usedFractionUnits - row.anchorUsedFractionUnits)
      (o.gatewaySpendNano - row.anchorSpendNano) = .ok row' := by
  unfold observe at h
  obtain ⟨_, -, h⟩ := bind_eq_ok.mp h
  obtain ⟨_, -, h⟩ := bind_eq_ok.mp h
  split at h
  · cases h
    exact absurd rfl hs
  obtain ⟨_, -, h⟩ := bind_eq_ok.mp h
  obtain ⟨_, -, h⟩ := bind_eq_ok.mp h
  split at h
  · cases h
    exact absurd rfl hs
  split at h
  · cases h
    exact absurd rfl hs
  unfold weigh at h
  simp only [] at h
  split at h
  · cases h
    exact absurd rfl hs
  split at h
  · split at h
    · obtain ⟨units, -, h⟩ := bind_eq_ok.mp h
      cases h
      exact absurd rfl hs
    · cases h
      exact absurd rfl hs
  · exact h

end

theorem Enclosed.step {C start : ℝ} (hC : 0 < C) (L : E.Lawful D) (hE : E.Encloses)
    [DecidableEq κ] (h : E.Enclosed D C row start) {r : Reading κ ν} (hr : r.Rounds C)
    (hwindow : E.Continues row r.observation → r.start = start)
    (hobs : E.observe row r.observation = .ok row') (hstored : E.Stored D row') :
    E.Enclosed D C row' (E.startAfter row start r) := by
  have hreads := L.reads (observe_accepted hobs).1
  refine ⟨hstored, ?_, ?_⟩
  all_goals have hstep := observe_step L h.stored hobs
  · -- the anchor stays, or is this reading
    cases hstep with
    | stale =>
      rw [startAfter, if_neg (fun hle => by omega)]
      exact h.anchor
    | began hle hb =>
      rw [startAfter, if_pos ⟨hle, hb⟩]
      exact hr
    | farBehind hle hb hf | seen hle hb hf =>
      rw [startAfter, if_neg (fun hbegan => hb hbegan.2)]
      exact h.anchor
    | unattributed hle hb hf =>
      rw [startAfter, if_neg (fun hbegan => hb hbegan.2), ← hwindow ⟨hle, hb, hf⟩]
      exact hr
    | measured hle hb hf _ _ hm =>
      rw [startAfter, if_neg (fun hbegan => hb hbegan.2), ← hwindow ⟨hle, hb, hf⟩]
      obtain ⟨_, _, _, _, rfl⟩ := hm
      exact hr
  · cases hstep with
    | stale | began | farBehind | seen | unattributed => exact h.envelope
    | measured hle hb hf hu hs hm =>
      have hsamples : row'.samples ≠ row.samples := by
        obtain ⟨_, _, _, _, rfl⟩ := hm
        show row.samples + 1 ≠ row.samples
        omega
      have hmeasure := measure_of_samples hobs hsamples
      have hanchor := h.anchor
      rw [← hwindow ⟨hle, hb, hf⟩] at hanchor
      exact (hE hC (sound_current h.stored.sound hreads) hreads hu hs
        (trueFraction_line hC _ _) (hanchor.movement hr) h.envelope).of_eq_ok hmeasure

variable [DecidableEq κ]
  {apply : Option (Row κ μ) → Observation κ ν → Except Failure (Row κ μ)}

/-- What a run keeps of the row it has, if any. -/
def EnclosedState (E : Estimator κ ν μ) (D : κ → μ → Prop) (C : ℝ)
    (state : Option (Row κ μ × ℝ)) : Prop :=
  ∀ row start, state = some (row, start) → E.Enclosed D C row start

theorem EnclosedState.track {C : ℝ} (hC : 0 < C) (L : E.Lawful D) (hE : E.Encloses)
    (A : Applies E D apply) {state : Option (Row κ μ × ℝ)} (h : EnclosedState E D C state)
    {r : Reading κ ν} (hr : r.Rounds C) (hwindow : E.InWindow state r) :
    EnclosedState E D C (E.track apply state r) := by
  unfold Estimator.track
  cases happly : apply (state.map Prod.fst) r.observation with
  | error => exact h
  | ok row' =>
    cases state with
    | none =>
      rw [map_none, A.first, anchor_eq_ok] at happly
      obtain ⟨hv, rfl⟩ := happly
      rintro _ _ ⟨⟩
      exact ⟨stored_anchorRow L hv, hr, Rate.within_none⟩
    | some old =>
      obtain ⟨row, start⟩ := old
      have hold := h row start rfl
      have hstep := A.step L hold.stored happly
      rintro _ _ ⟨⟩
      by_cases hle : row.observedAt ≤ r.observation.observedAt
      · have hobs : E.observe row r.observation = .ok row' :=
          (A.next hold.stored (.inr hle)).symm.trans happly
        exact hold.step hC L hE hr (hwindow row start rfl) hobs hstep.2
      · rw [A.stale hold.stored (by omega) happly, startAfter,
          if_neg (fun hbegan => hle hbegan.1)]
        exact hold

omit [DecidableEq κ] in
theorem enclosedState_none (C : ℝ) : EnclosedState E D C none :=
  fun _ _ h => nomatch h

/-- In every run of readings of windows of capacity `C`, none of them taken for
one of another window, the bounds published at the end are bounds on `C`. -/
def PublishesTruth (E : Estimator κ ν μ)
    (apply : Option (Row κ μ) → Observation κ ν → Except Failure (Row κ μ)) (C : ℝ) : Prop :=
  ∀ readings : List (Reading κ ν), (∀ r ∈ readings, r.Rounds C) →
    Along (E.track apply) E.InWindow none readings →
    ∀ row start, run (E.track apply) none readings = some (row, start) →
      (∀ low ∈ row.currentLowNano, (low : ℝ) ≤ C) ∧ ∀ high ∈ row.currentHighNano, C ≤ (high : ℝ)

theorem publishesTruth {C : ℝ} (hC : 0 < C) (L : E.Lawful D) (hE : E.Encloses)
    (A : Applies E D apply) : E.PublishesTruth apply C := by
  intro readings hrounds hwindow row start hrun
  have hinv : EnclosedState E D C (run (E.track apply) none readings) := by
    refine run_invariant_along (I := EnclosedState E D C)
      (C := fun state r => r.Rounds C ∧ E.InWindow state r)
      (fun state r h hr => h.track hC L hE A hr.1 hr.2) (enclosedState_none C) ?_
    exact along_and.mpr ⟨along_forall.mpr hrounds, hwindow⟩
  have henvelope := (hinv row start hrun).envelope
  exact ⟨henvelope.low, henvelope.high⟩

omit [DecidableEq κ] in
theorem inWindow_of_const {start : ℝ} {readings : List (Reading κ ν)}
    (h : ∀ r ∈ readings, r.start = start) : Along (E.track apply) E.InWindow none readings := by
  suffices hall : ∀ state : Option (Row κ μ × ℝ), (∀ p ∈ state, p.2 = start) →
      Along (E.track apply) E.InWindow state readings from
    hall none (fun p h => absurd h (Option.not_mem_none p))
  induction readings with
  | nil => exact fun _ _ => trivial
  | cons r _ ih =>
    intro state hstate
    have hr : r.start = start := h r (mem_cons_self ..)
    refine ⟨fun row old hsome _ => hr.trans (hstate _ hsome).symm, ?_⟩
    refine ih (fun r' hmem => h r' (mem_cons_of_mem _ hmem)) _ (fun p hp => ?_)
    unfold Estimator.track at hp
    cases happly : apply (state.map Prod.fst) r.observation with
    | error =>
      rw [happly] at hp
      exact hstate p hp
    | ok =>
      rw [happly] at hp
      cases state with
      | none =>
        cases hp
        exact hr
      | some old =>
        cases hp
        show E.startAfter old.1 old.2 r = start
        unfold startAfter
        split
        · exact hr
        · exact hstate old rfl

end Estimator

/-! ## The Anthropic and the exact Gemini estimator -/

theorem Anthropic.encloses : Anthropic.estimator.Encloses :=
  fun hC hrow ho hu hs hline hnear h =>
    measureInterval_within "Anthropic" hrow ho hC hu hs hline hnear h

theorem ExactGemini.encloses : ExactGemini.estimator.Encloses :=
  fun hC hrow ho hu hs hline hnear h =>
    measureInterval_within "Gemini" hrow ho hC hu hs hline hnear h

/-- The envelope either estimator publishes contains the true capacity. -/
theorem published_envelope_contains {C : ℝ} (hC : 0 < C) :
    Anthropic.estimator.PublishesTruth Anthropic.applyObservation C ∧
      ExactGemini.estimator.PublishesTruth ExactGemini.applyObservation C :=
  ⟨Estimator.publishesTruth hC Anthropic.lawful Anthropic.encloses
      (applies_applyObservation Anthropic.lawful),
    Estimator.publishesTruth hC ExactGemini.lawful ExactGemini.encloses
      (applies_applyObservation ExactGemini.lawful)⟩

def sampleReading (used spend observedAt : Int) : Reading Anthropic.Identity Source where
  observation :=
    { identity := ⟨"account", "max", "5h", 300⟩
      resetsAt := 18000
      observedAt := observedAt
      usedFractionUnits := used
      measurementResolutionFractionUnits := 1000000
      gatewaySpendNano := spend
      detail := ⟨"poll", none⟩ }
  start := 0

def sampleReadings : List (Reading Anthropic.Identity Source) :=
  [sampleReading 0 0 1000, sampleReading 2000000 25 1060]

/-- Two percent used after spending 25: the capacity of 1000 lies within. -/
theorem sample_envelope_contains :
    ∃ row start,
      run (Anthropic.estimator.track Anthropic.applyObservation) none sampleReadings =
        some (row, start) ∧
      row.currentLowNano = some 833 ∧ row.currentHighNano = some 2500 ∧
      (∀ low ∈ row.currentLowNano, (low : ℝ) ≤ 1000) ∧
        ∀ high ∈ row.currentHighNano, (1000 : ℝ) ≤ (high : ℝ) := by
  have hrounds : ∀ r ∈ sampleReadings, r.Rounds 1000 := by
    simp only [sampleReadings, sampleReading, forall_mem_cons, not_mem_nil,
      false_implies, implies_true, and_true, Reading.Rounds, Rounds, trueFraction,
      fractionScale]
    constructor <;> norm_num [abs_le]
  obtain ⟨row, start, hrun, hlow, hhigh⟩ : ∃ row start,
      run (Anthropic.estimator.track Anthropic.applyObservation) none sampleReadings =
        some (row, start) ∧ row.currentLowNano = some 833 ∧ row.currentHighNano = some 2500 :=
    ⟨_, _, rfl, rfl, rfl⟩
  refine ⟨row, start, hrun, hlow, hhigh, ?_⟩
  have hwindow : ∀ r ∈ sampleReadings, r.start = 0 := by simp [sampleReadings, sampleReading]
  exact (published_envelope_contains (C := 1000) (by norm_num)).1 sampleReadings hrounds
    (Estimator.inWindow_of_const hwindow) row start hrun

end ApiToken.Calibration
