import ApiToken.Calibration.Truth

/-!
# The KIMI envelope and the true capacity

KIMI's bounds are those of the whole movement, widened by the samples times the
resolution of the last reading. The movement is off by what its ends are off by:
half a resolution at either end of every run of adjoining intervals, as what two
neighbours have in common cancels out. The envelope holds the capacity while the
widening covers that much.
-/

namespace ApiToken.Calibration

open Rate (Within)

variable {κ ν μ : Type}

/-! ## Steps, with what decides them -/

namespace Estimator

variable (E : Estimator κ ν μ)

def Completes (row : Row κ μ) (o : Observation κ ν) : Prop :=
  E.Continues row o ∧ row.anchorUsedFractionUnits < o.usedFractionUnits ∧
    row.anchorSpendNano < o.gatewaySpendNano

instance (row : Row κ μ) (o : Observation κ ν) : Decidable (E.Completes row o) :=
  inferInstanceAs (Decidable (_ ∧ _))

def Abandons (row : Row κ μ) (o : Observation κ ν) : Prop :=
  E.Continues row o ∧ row.anchorUsedFractionUnits < o.usedFractionUnits ∧
    o.gatewaySpendNano = row.anchorSpendNano ∧
    row.usedFractionUnits = o.usedFractionUnits ∧ row.observedAt < o.observedAt

instance (row : Row κ μ) (o : Observation κ ν) : Decidable (E.Abandons row o) :=
  inferInstanceAs (Decidable (_ ∧ _))

inductive Outcome (row : Row κ μ) (o : Observation κ ν) : Row κ μ → Prop
  | kept (h : ¬ E.Continues row o)
      (hb : ¬ (row.observedAt ≤ o.observedAt ∧ E.BeginsWindow row o)) : Outcome row o row
  | began (h : row.observedAt ≤ o.observedAt) (hb : E.BeginsWindow row o) :
      Outcome row o (E.beginWindow row o)
  | seen (h : E.Continues row o) (hc : ¬ E.Completes row o) (ha : ¬ E.Abandons row o) :
      Outcome row o (E.current row o)
  | abandoned (h : E.Abandons row o) :
      Outcome row o
        ({ E.current row o with
          unattributedFractionUnits := row.unattributedFractionUnits +
            (o.usedFractionUnits - row.anchorUsedFractionUnits) }.advanceAnchor o)
  | completed {row' : Row κ μ} (h : E.Completes row o)
      (hm : E.measure (E.current row o) o (o.usedFractionUnits - row.anchorUsedFractionUnits)
        (o.gatewaySpendNano - row.anchorSpendNano) = .ok row') :
      Outcome row o row'

variable {E} {row row' : Row κ μ} {o : Observation κ ν}

theorem weigh_outcome (hheld : E.regression = .held) (hc : E.Continues row o)
    (h : E.weigh row o = .ok row') : E.Outcome row o row' := by
  unfold weigh at h
  simp only [hheld, true_and] at h
  split at h
  · next hno =>
    cases h
    refine .seen hc (fun hcompletes => ?_) (fun habandons => ?_)
    · have := hcompletes.2.1
      have := hcompletes.2.2
      omega
    · have := habandons.2.1
      have := habandons.2.2.1
      omega
  · next hmoved =>
    rw [not_or] at hmoved
    split at h
    · next hsame =>
      split at h
      · next hagain =>
        obtain ⟨units, hunits, h⟩ := bind_eq_ok.mp h
        obtain ⟨rfl, -⟩ := (narrow_ends _ _).of_eq_ok hunits
        cases h
        exact .abandoned ⟨hc, by omega, by omega, hagain⟩
      · next hnot =>
        cases h
        refine .seen hc (fun hcompletes => ?_) (fun habandons => hnot habandons.2.2.2)
        have := hcompletes.2.2
        omega
    · exact .completed ⟨hc, by omega, by omega⟩ h

theorem observe_outcome [DecidableEq κ] (hheld : E.regression = .held)
    (h : E.observe row o = .ok row') : E.Outcome row o row' := by
  unfold observe at h
  obtain ⟨_, -, h⟩ := bind_eq_ok.mp h
  obtain ⟨_, -, h⟩ := bind_eq_ok.mp h
  split at h
  · next hstale =>
    cases h
    exact .kept (fun hc => by have := hc.1; omega) (fun hb => by have := hb.1; omega)
  · next hfresh =>
    obtain ⟨_, -, h⟩ := bind_eq_ok.mp h
    obtain ⟨_, -, h⟩ := bind_eq_ok.mp h
    split at h
    · next hb =>
      cases h
      exact .began (by omega) hb
    · next hb =>
      split at h
      · next hf =>
        cases h
        exact .kept (fun hc => hc.2.2 hf) (fun hbegan => hb hbegan.2)
      · next hf => exact weigh_outcome hheld ⟨by omega, hb, hf⟩ h

end Estimator

namespace Kimi

/-! ## The error of the movement -/

/-- The stored row, where its window began, and the quantisation of the runs
of adjoining intervals: the first and the last resolution of each. `joined`
says that the anchor ends the last of them. -/
structure Track where
  row : Row Identity Native
  start : ℝ
  width : Int
  joined : Bool

/-- The quantisation once an interval up to `o` is complete. -/
def Track.widthAfter (s : Track) (o : Observation Identity Native) : Int :=
  if s.joined then
    s.width - s.row.anchorResolutionFractionUnits + o.measurementResolutionFractionUnits
  else s.width + s.row.anchorResolutionFractionUnits + o.measurementResolutionFractionUnits

def Track.after (s : Track) (r : Reading Identity Native) (row : Row Identity Native) : Track :=
  let start := estimator.startAfter s.row s.start r
  if estimator.Completes s.row r.observation then
    ⟨row, start, s.widthAfter r.observation, true⟩
  else if estimator.Abandons s.row r.observation ∨
      s.row.observedAt ≤ r.observation.observedAt ∧ estimator.BeginsWindow s.row r.observation then
    ⟨row, start, s.width, false⟩
  else ⟨row, start, s.width, s.joined⟩

def track (state : Option Track) (r : Reading Identity Native) : Option Track :=
  match applyObservation (state.map Track.row) r.observation with
  | .error _ => state
  | .ok row =>
    match state with
    | none => some ⟨row, r.start, 0, false⟩
    | some s => some (s.after r row)

def InWindow (state : Option Track) (r : Reading Identity Native) : Prop :=
  ∀ s, state = some s → estimator.Continues s.row r.observation → r.start = s.start

def Covers (state : Option Track) (r : Reading Identity Native) : Prop :=
  ∀ s, state = some s → estimator.Completes s.row r.observation →
    s.widthAfter r.observation ≤
      2 * ((s.row.samples + 1) * r.observation.measurementResolutionFractionUnits)

/-- What the measured movement is off by. -/
noncomputable def excess (C : ℝ) (row : Row Identity Native) : ℝ :=
  row.observedFractionUnits - fractionScale * row.observedSpendNano / C

noncomputable def anchorError (C start : ℝ) (row : Row Identity Native) : ℝ :=
  row.anchorUsedFractionUnits - trueFraction C start row.anchorSpendNano

/-- The errors of both ends, and the envelope around `C`. -/
structure Track.Enclosed (C : ℝ) (s : Track) : Prop where
  stored : estimator.Stored Described s.row
  anchor : |anchorError C s.start s.row| ≤ s.row.anchorResolutionFractionUnits / 2
  excess : |excess C s.row| ≤ s.width / 2
  /-- The last end's own error is half of its resolution. -/
  joined : s.joined = true →
    |Kimi.excess C s.row - anchorError C s.start s.row| ≤
      (s.width - s.row.anchorResolutionFractionUnits) / 2
  envelope : Within C s.row.currentLowNano s.row.currentHighNano

variable {C : ℝ} {s : Track} {r : Reading Identity Native} {row' : Row Identity Native}

theorem Track.Enclosed.widened (h : s.Enclosed C) (hr : r.Rounds C) {error : ℝ}
    (herror : error = Kimi.excess C s.row - anchorError C s.start s.row +
      (r.observation.usedFractionUnits - trueFraction C r.start r.observation.gatewaySpendNano)) :
    |error| ≤ s.widthAfter r.observation / 2 ∧
      |error - (r.observation.usedFractionUnits -
          trueFraction C r.start r.observation.gatewaySpendNano)| ≤
        (s.widthAfter r.observation - r.observation.measurementResolutionFractionUnits) / 2 := by
  obtain ⟨hend, hend'⟩ := abs_le.mp hr
  obtain ⟨hanchor, hanchor'⟩ := abs_le.mp h.anchor
  obtain ⟨hexcess, hexcess'⟩ := abs_le.mp h.excess
  subst herror
  have hrest : |Kimi.excess C s.row - anchorError C s.start s.row| ≤
      (s.widthAfter r.observation - r.observation.measurementResolutionFractionUnits) / 2 := by
    unfold Track.widthAfter
    by_cases hjoined : s.joined = true
    · rw [if_pos hjoined]
      refine (h.joined hjoined).trans (le_of_eq ?_)
      push_cast
      ring
    · rw [if_neg hjoined, abs_le]
      push_cast
      constructor <;> linarith
  obtain ⟨hlow, hhigh⟩ := abs_le.mp hrest
  refine ⟨abs_le.mpr ⟨?_, ?_⟩, ?_⟩
  · linarith
  · linarith
  · rwa [add_sub_cancel_right]

theorem Track.Enclosed.completed (hC : 0 < C) (h : s.Enclosed C) (hr : r.Rounds C)
    (hstart : r.start = s.start) (hcompletes : estimator.Completes s.row r.observation)
    (hcovers : s.widthAfter r.observation ≤
      2 * ((s.row.samples + 1) * r.observation.measurementResolutionFractionUnits))
    (hreads : r.observation.Reads)
    (hm : measure (estimator.current s.row r.observation) r.observation
      (r.observation.usedFractionUnits - s.row.anchorUsedFractionUnits)
      (r.observation.gatewaySpendNano - s.row.anchorSpendNano) = .ok row')
    (hstored : estimator.Stored Described row') :
    Track.Enclosed C ⟨row', r.start, s.widthAfter r.observation, true⟩ := by
  have hused : 0 < r.observation.usedFractionUnits - s.row.anchorUsedFractionUnits := by
    have := hcompletes.2.1
    omega
  have hspend : 0 < r.observation.gatewaySpendNano - s.row.anchorSpendNano := by
    have := hcompletes.2.2
    omega
  have hsound := Estimator.sound_current (E := estimator) h.stored.sound hreads
  have hsums : 0 ≤ s.row.samples ∧ 0 ≤ s.row.observedFractionUnits ∧
      0 ≤ s.row.observedSpendNano := h.stored.sound.evidence.sums_nonneg
  obtain ⟨width, _, high, -, hwidth, hhigh, -, -, -, rfl⟩ :=
    (measure_eq hsound hused hspend).of_eq_ok hm
  replace hwidth : width =
      (s.row.samples + 1) * r.observation.measurementResolutionFractionUnits :=
    hwidth.trans (congrArg _ (Int.max_self _))
  have hres := hreads.resolution.1
  have hwide : 0 ≤ width := hwidth ▸ Int.mul_nonneg (by omega) (by omega)
  -- the error of the movement, by way of the errors of the ends
  have herror : ((s.row.observedFractionUnits + (r.observation.usedFractionUnits -
        s.row.anchorUsedFractionUnits) : Int) : ℝ) -
      fractionScale * ((s.row.observedSpendNano + (r.observation.gatewaySpendNano -
        s.row.anchorSpendNano) : Int) : ℝ) / C =
      Kimi.excess C s.row - anchorError C s.start s.row +
        (r.observation.usedFractionUnits -
          trueFraction C r.start r.observation.gatewaySpendNano) := by
    unfold Kimi.excess anchorError trueFraction
    rw [hstart]
    push_cast
    ring
  obtain ⟨hexcess, hjoined⟩ := h.widened hr herror
  refine ⟨hstored, hr, hexcess, fun _ => hjoined, ?_⟩
  have hnear : |((s.row.observedFractionUnits + (r.observation.usedFractionUnits -
        s.row.anchorUsedFractionUnits) : Int) : ℝ) -
      fractionScale * ((s.row.observedSpendNano + (r.observation.gatewaySpendNano -
        s.row.anchorSpendNano) : Int) : ℝ) / C| ≤ width := by
    have hcast : (s.widthAfter r.observation : ℝ) ≤ ((2 * width : Int) : ℝ) :=
      Int.cast_le.mpr (hwidth ▸ hcovers)
    push_cast at hcast
    linarith
  have hline : C * (fractionScale * ((s.row.observedSpendNano +
      (r.observation.gatewaySpendNano - s.row.anchorSpendNano) : Int) : ℝ) / C) =
      ((fractionScale * (s.row.observedSpendNano +
        (r.observation.gatewaySpendNano - s.row.anchorSpendNano)) : Int) : ℝ) := by
    rw [mul_div_cancel₀ _ hC.ne', Int.cast_mul]
  have hwithin := Rate.within_widened hC
    (show 0 < s.row.observedFractionUnits + (r.observation.usedFractionUnits -
      s.row.anchorUsedFractionUnits) by omega) hwide hline hnear
  show Within C (some _) high
  rw [hhigh]
  exact hwithin

theorem Track.Enclosed.anchored (h : s.Enclosed C) (hr : r.Rounds C)
    (hstored : estimator.Stored Described row')
    (hfraction : row'.observedFractionUnits = s.row.observedFractionUnits)
    (hspend : row'.observedSpendNano = s.row.observedSpendNano)
    (hlow : row'.currentLowNano = s.row.currentLowNano)
    (hhigh : row'.currentHighNano = s.row.currentHighNano)
    (hused : row'.anchorUsedFractionUnits = r.observation.usedFractionUnits)
    (hresolution : row'.anchorResolutionFractionUnits =
      r.observation.measurementResolutionFractionUnits)
    (hanchor : row'.anchorSpendNano = r.observation.gatewaySpendNano) :
    Track.Enclosed C ⟨row', r.start, s.width, false⟩ where
  stored := hstored
  anchor := by
    unfold anchorError
    simp only [hused, hresolution, hanchor]
    exact hr
  excess := by
    unfold Kimi.excess
    simp only [hfraction, hspend]
    exact h.excess
  joined := nofun
  envelope := by
    simp only [hlow, hhigh]
    exact h.envelope

theorem Track.Enclosed.step (hC : 0 < C) (h : s.Enclosed C) (hr : r.Rounds C)
    (hwindow : estimator.Continues s.row r.observation → r.start = s.start)
    (hcovers : estimator.Completes s.row r.observation → s.widthAfter r.observation ≤
      2 * ((s.row.samples + 1) * r.observation.measurementResolutionFractionUnits))
    (hobs : estimator.observe s.row r.observation = .ok row')
    (hstored : estimator.Stored Described row') : (s.after r row').Enclosed C := by
  have hreads := lawful.reads (Estimator.observe_accepted hobs).1
  have hstart : estimator.Continues s.row r.observation →
      estimator.startAfter s.row s.start r = s.start := fun hc => by
    rw [Estimator.startAfter, if_neg (fun hbegan => hc.2.1 hbegan.2)]
  unfold Track.after
  cases Estimator.observe_outcome rfl hobs with
  | kept hno hnot =>
    have hsame : estimator.startAfter s.row s.start r = s.start := by
      rw [Estimator.startAfter, if_neg hnot]
    simp only [if_neg (fun hcompletes : estimator.Completes _ _ => hno hcompletes.1), hsame]
    rw [if_neg (not_or.mpr ⟨fun habandons => hno habandons.1, hnot⟩)]
    exact h
  | began hle hb =>
    simp only [if_neg (fun hcompletes : estimator.Completes _ _ => hcompletes.1.2.1 hb)]
    rw [if_pos (.inr ⟨hle, hb⟩), Estimator.startAfter, if_pos ⟨hle, hb⟩]
    exact h.anchored hr hstored rfl rfl rfl rfl rfl rfl rfl
  | seen hc hno hnot =>
    simp only [if_neg hno, hstart hc]
    rw [if_neg (not_or.mpr ⟨hnot, fun hbegan => hc.2.1 hbegan.2⟩)]
    exact ⟨hstored, h.anchor, h.excess, h.joined, h.envelope⟩
  | abandoned habandons =>
    have hno : ¬ estimator.Completes s.row r.observation := fun hcompletes => by
      have := hcompletes.2.2
      have := habandons.2.2.1
      omega
    simp only [if_neg hno, hstart habandons.1]
    rw [if_pos (.inl habandons), ← hwindow habandons.1]
    exact h.anchored hr hstored rfl rfl rfl rfl rfl rfl rfl
  | completed hcompletes hm =>
    simp only [if_pos hcompletes, hstart hcompletes.1]
    rw [← hwindow hcompletes.1]
    exact h.completed hC hr (hwindow hcompletes.1) hcompletes (hcovers hcompletes) hreads hm
      hstored

/-- What a run keeps of the row it has, if any. -/
def EnclosedState (C : ℝ) (state : Option Track) : Prop :=
  ∀ s, state = some s → s.Enclosed C

theorem EnclosedState.track (hC : 0 < C) {state : Option Track} (h : EnclosedState C state)
    (hr : r.Rounds C) (hwindow : InWindow state r) (hcovers : Covers state r) :
    EnclosedState C (track state r) := by
  unfold Kimi.track
  cases happly : applyObservation (state.map Track.row) r.observation with
  | error => exact h
  | ok row' =>
    cases state with
    | none =>
      rw [map_none, applies_applyObservation.first, Estimator.anchor_eq_ok] at happly
      obtain ⟨hv, rfl⟩ := happly
      rintro _ ⟨⟩
      refine ⟨Estimator.stored_anchorRow lawful hv, hr, ?_, nofun, Rate.within_none⟩
      simp [Kimi.excess, Estimator.anchorRow]
    | some s =>
      have hold := h s rfl
      have hstep := applies_applyObservation.step lawful hold.stored happly
      rintro _ ⟨⟩
      by_cases hle : s.row.observedAt ≤ r.observation.observedAt
      · have hobs : estimator.observe s.row r.observation = .ok row' :=
          (applies_applyObservation.next hold.stored (.inr hle)).symm.trans happly
        exact hold.step hC hr (hwindow s rfl) (hcovers s rfl) hobs hstep.2
      · rw [applies_applyObservation.stale hold.stored (by omega) happly]
        have hno : ¬ estimator.Continues s.row r.observation := fun hc => hle hc.1
        unfold Track.after
        simp only [if_neg (fun hcompletes : estimator.Completes _ _ => hno hcompletes.1)]
        rw [if_neg (not_or.mpr ⟨fun habandons => hno habandons.1, fun hbegan => hle hbegan.1⟩),
          Estimator.startAfter, if_neg (fun hbegan => hle hbegan.1)]
        exact hold

theorem enclosedState_none (C : ℝ) : EnclosedState C none := fun _ h => nomatch h

theorem covered_envelope_contains (hC : 0 < C) {readings : List (Reading Identity Native)}
    (hrounds : ∀ r ∈ readings, r.Rounds C) (hwindow : Along track InWindow none readings)
    (hcovers : Along track Covers none readings) (hrun : run track none readings = some s) :
    Within C s.row.currentLowNano s.row.currentHighNano := by
  have hinv : EnclosedState C (run track none readings) := by
    refine run_invariant_along (I := EnclosedState C)
      (C := fun state r => (r.Rounds C ∧ InWindow state r) ∧ Covers state r)
      (fun state r h hr => h.track hC hr.1.1 hr.1.2 hr.2) (enclosedState_none C) ?_
    exact along_and.mpr ⟨along_and.mpr ⟨along_forall.mpr hrounds, hwindow⟩, hcovers⟩
  exact (hinv s hrun).envelope

/-- In every run of readings of windows of capacity `C` whose steps meet `Q`,
none of them taken for one of another window, the bounds published at the end
are bounds on `C`. -/
def PublishesTruth (Q : Option Track → Reading Identity Native → Prop) (C : ℝ) : Prop :=
  ∀ readings : List (Reading Identity Native), (∀ r ∈ readings, r.Rounds C) →
    Along track InWindow none readings → Along track Q none readings →
    ∀ s, run track none readings = some s →
      (∀ low ∈ s.row.currentLowNano, (low : ℝ) ≤ C) ∧
        ∀ high ∈ s.row.currentHighNano, C ≤ (high : ℝ)

end Kimi

end ApiToken.Calibration
