import Mathlib.Algebra.Order.Archimedean.Real.Basic
import ApiToken.Calibration.Baseline
import ApiToken.Calibration.KimiTruth

/-!
# The GLM envelope and the true capacity

The bounds of an interval leave half a resolution at either end, rounded down.
That covers a quota reading whose resolution is even. It covers nothing at
either end of an interval on the native ledger, as a resolution of one unit has
no half: there the rounding has to be the same at both ends.
-/

namespace ApiToken.Calibration

open Rate (Within)

variable {n deltaUsed uncertainty : Int} {t : ℝ} {current : ResolvedFraction}
  {baseline : Option Int} {resolved : Option ResolvedFraction}

namespace DualLedger

/-! ## Ends of intervals -/

/-- A fraction of what a window of capacity `C` has used after `api`: a quota
reading within half of its resolution, or the floor of the exact ratio. -/
def ResolvedFraction.Reports (C start : ℝ) (api : Int) (f : ResolvedFraction) : Prop :=
  match f.source with
  | .quotaEndpoint => Rounds C start f.usedFractionUnits f.resolutionFractionUnits api
  | .nativeLedger => f.usedFractionUnits = ⌊trueFraction C start api⌋

/-- An end that needs no more than half of its resolution, rounded down. -/
def ResolvedFraction.Fits (C start : ℝ) (api : Int) (f : ResolvedFraction) : Prop :=
  match f.source with
  | .quotaEndpoint => 2 ∣ f.resolutionFractionUnits
  | .nativeLedger => ∃ n : Int, trueFraction C start api = n

def SameFloor (C : ℝ) (deltaApi : Int) (anchor current : ResolvedFraction) : Prop :=
  anchor.source = .nativeLedger ∧ current.source = .nativeLedger ∧
    ∃ n : Int, (fractionScale * deltaApi : ℝ) = C * n

section Ends

variable {C start : ℝ} {api api' : Int} {f g : ResolvedFraction}

theorem ResolvedFraction.Reports.near (h : f.Reports C start api) (hfits : f.Fits C start api)
    (hres : 0 ≤ f.resolutionFractionUnits) :
    |(f.usedFractionUnits : ℝ) - trueFraction C start api| ≤
      (f.resolutionFractionUnits.tdiv 2 : Int) := by
  unfold Reports at h
  unfold Fits at hfits
  rw [Int.tdiv_eq_ediv_of_nonneg hres]
  cases hsource : f.source with
  | quotaEndpoint =>
    rw [hsource] at h hfits
    rw [Int.cast_div hfits (by norm_num)]
    exact h
  | nativeLedger =>
    rw [hsource] at h hfits
    obtain ⟨n, hn⟩ := hfits
    rw [show f.usedFractionUnits = n by rw [h, hn, Int.floor_intCast], hn, sub_self, abs_zero]
    exact Int.cast_nonneg (Int.ediv_nonneg hres (by decide))

theorem SameFloor.movement (hC : 0 < C) (h : SameFloor C (api' - api) f g)
    (hf : f.Reports C start api) (hg : g.Reports C start api') :
    ((g.usedFractionUnits - f.usedFractionUnits : Int) : ℝ) =
      trueFraction C start api' - trueFraction C start api := by
  obtain ⟨hfsource, hgsource, n, hn⟩ := h
  unfold ResolvedFraction.Reports at hf hg
  rw [hfsource] at hf
  rw [hgsource] at hg
  have hwhole : trueFraction C start api' = trueFraction C start api + n := by
    have hline : C * (trueFraction C start api' - trueFraction C start api) = _ :=
      trueFraction_line hC api api'
    have hscaled : C * (trueFraction C start api' - trueFraction C start api) = C * n := by
      rw [hline, ← hn]
      push_cast
      ring
    linarith [mul_left_cancel₀ hC.ne' hscaled]
  have hused : g.usedFractionUnits - f.usedFractionUnits = n := by
    simp only [] at hf hg
    rw [hf, hg, hwhole, Int.floor_add_intCast]
    omega
  rw [hused, hwhole]
  ring

theorem movement_near (hC : 0 < C) (hf : f.Reports C start api) (hg : g.Reports C start api')
    (hres : 0 ≤ f.resolutionFractionUnits ∧ 0 ≤ g.resolutionFractionUnits)
    (hcovered : SameFloor C (api' - api) f g ∨ f.Fits C start api ∧ g.Fits C start api') :
    |((g.usedFractionUnits - f.usedFractionUnits : Int) : ℝ) -
        (trueFraction C start api' - trueFraction C start api)| ≤
      (intervalFractionUncertainty f.resolutionFractionUnits g.resolutionFractionUnits : Int) := by
  rcases hcovered with hsame | ⟨hfits, hfits'⟩
  · rw [hsame.movement hC hf hg, sub_self, abs_zero]
    refine Int.cast_nonneg (Int.add_nonneg ?_ ?_)
    · exact Int.tdiv_nonneg hres.1 (by decide)
    · exact Int.tdiv_nonneg hres.2 (by decide)
  · obtain ⟨hlow, hhigh⟩ := abs_le.mp (hf.near hfits hres.1)
    obtain ⟨hlow', hhigh'⟩ := abs_le.mp (hg.near hfits' hres.2)
    unfold intervalFractionUncertainty
    rw [abs_le]
    push_cast
    constructor <;> linarith

end Ends

variable {P : DualLedger}

/-! ## One interval -/

theorem ceilNonnegative_eq {d c : Int} (hn : 0 ≤ n) (hd : 0 < d)
    (h : P.ceilNonnegative n d = .ok c) : c = Ratio.ceil n d := by
  unfold ceilNonnegative at h
  obtain ⟨_, -, h⟩ := bind_eq_ok.mp h
  exact checked_bind_div (by omega) (orFail_eq_ok.mp h)

theorem checkedI64_eq {x y : Int} (h : P.checkedI64 x = .ok y) : y = x :=
  ((narrow_ends _ _).of_eq_ok h).1

theorem sampleHigh_eq {high : Option Int} (hn : 0 ≤ n)
    (h : P.sampleHigh n deltaUsed uncertainty = .ok high) :
    high = if uncertainty < deltaUsed then some (Ratio.ceil n (deltaUsed - uncertainty))
      else none := by
  unfold sampleHigh at h
  split at h
  · next hlt =>
    obtain ⟨ceiling, hceiling, h⟩ := bind_eq_ok.mp h
    obtain ⟨bound, hbound, h⟩ := bind_eq_ok.mp h
    cases h
    rw [checkedI64_eq hbound, ceilNonnegative_eq hn (by omega) hceiling, if_pos hlt]
  · next hle =>
    cases h
    rw [if_neg hle]

variable {C : ℝ} {row : Row} {o : Observation}

theorem updateWorkloadEnvelope_within {row' : Row} {deltaApi : Int} (hC : 0 < C)
    (hu : 0 < deltaUsed) (hs : 0 < deltaApi) (hw : 0 ≤ uncertainty)
    (hline : C * t = ((fractionScale * deltaApi : Int) : ℝ))
    (hnear : |(deltaUsed : ℝ) - t| ≤ uncertainty)
    (hin : Within C row.currentLow row.currentHigh)
    (h : P.updateWorkloadEnvelope row deltaUsed uncertainty deltaApi = .ok row') :
    Within C row'.currentLow row'.currentHigh := by
  have hn : 0 ≤ fractionScale * deltaApi := Int.mul_nonneg (by decide) (by omega)
  unfold updateWorkloadEnvelope at h
  simp only [bind_eq_ok] at h
  obtain ⟨numerator, hnumerator, quotient, hquotient, low, hlow, high, hhigh, h⟩ := h
  cases h
  obtain rfl := (wide_ends _ _).of_eq_ok hnumerator
  have hsample : Within C (some low) high := by
    rw [checkedI64_eq hlow, checkedDiv_nonneg hn (orFail_eq_ok.mp hquotient),
      sampleHigh_eq hn hhigh]
    exact Rate.within_widened hC hu hw hline hnear
  have hjoin := hin.join hsample
  refine ⟨hjoin.low, fun bound hbound => ?_⟩
  by_cases hfirst : row.samples = 0
  · simp only [if_pos hfirst] at hbound
    exact hsample.high bound hbound
  · simp only [if_neg hfirst] at hbound
    exact hjoin.high bound hbound

theorem measure_within {row' : Row} {anchorResolution : Int} (hC : 0 < C) (hu : 0 < deltaUsed)
    (hs : row.anchorSpendApi < o.cumulativeApi)
    (hw : 0 ≤ intervalFractionUncertainty anchorResolution current.resolutionFractionUnits)
    (hline : C * t = ((fractionScale * (o.cumulativeApi - row.anchorSpendApi) : Int) : ℝ))
    (hnear : |(deltaUsed : ℝ) - t| ≤
      (intervalFractionUncertainty anchorResolution current.resolutionFractionUnits : Int))
    (hin : Within C row.currentLow row.currentHigh)
    (h : P.measure row o current anchorResolution deltaUsed = .ok row') :
    Within C row'.currentLow row'.currentHigh ∧ row'.anchorSpendApi = o.cumulativeApi := by
  unfold measure at h
  simp only [bind_eq_ok] at h
  obtain ⟨widened, henvelope, _, -, _, -, _, -, _, -, h⟩ := h
  have hwithin := updateWorkloadEnvelope_within hC hu (by omega) hw hline hnear hin henvelope
  obtain ⟨_, _, rfl⟩ := recompute_frame h
  exact ⟨hwithin, rfl⟩

/-! ## The fraction of an observation -/

def fraction (P : DualLedger) (o : Observation) (baseline : Option Int) :
    Option ResolvedFraction :=
  (P.resolveFraction o baseline).toOption.join

def taken (P : DualLedger) (existing : Option Row) (o : Observation) :
    Option ResolvedFraction :=
  match existing with
  | none => P.fraction o (some o.cumulativeNative)
  | some row =>
    if P.Begins row o then P.fraction o (some o.cumulativeNative)
    else if Takes row o then P.fraction o (nativeBaseline row)
    else none

theorem fraction_of_ok (h : P.resolveFraction o baseline = .ok resolved) :
    P.fraction o baseline = resolved := by
  rw [fraction, h]
  rfl

theorem taken_of_begins (hb : P.Begins row o) :
    P.taken (some row) o = P.fraction o (some o.cumulativeNative) :=
  if_pos hb

theorem taken_of_takes (ht : Takes row o) (hb : ¬ P.Begins row o)
    (hr : P.resolveFraction o (nativeBaseline row) = .ok resolved) :
    P.taken (some row) o = resolved := by
  rw [taken, if_neg hb, if_pos ht, fraction_of_ok hr]

theorem ledgerFraction_resolution {used limit : Int} {f : Int × Int}
    (h : P.ledgerFraction used limit = .ok f) : 1 ≤ f.2 := by
  unfold ledgerFraction at h
  simp only [bind_eq_ok] at h
  obtain ⟨_, -, _, -, _, -, resolution, -, h⟩ := h
  cases h
  exact Int.le_max_right resolution 1

theorem resolveFraction_resolution {f : ResolvedFraction}
    (hv : P.validateObservation o = .ok ()) (h : P.resolveFraction o baseline = .ok (some f)) :
    1 ≤ f.resolutionFractionUnits := by
  unfold resolveFraction at h
  split at h
  · simp only [bind_eq_ok] at h
    obtain ⟨resolution, hresolution, _, -, _, -, h⟩ := h
    cases h
    -- the range is the eleventh check
    unfold validateObservation at hv
    simp only [bind_eq_ok] at hv
    obtain ⟨_, -, _, -, _, -, _, -, _, -, _, -, _, -, _, -, _, -, _, -, _, hrange, -⟩ := hv
    have hin := failIf_eq_ok.mp hrange
    rw [orFail_eq_ok.mp hresolution, any_some] at hin
    simp only [contains, guard_iffs] at hin
    exact hin.1
  · split at h
    · obtain ⟨_, -, h⟩ := bind_eq_ok.mp h
      obtain ⟨pair, hpair, h⟩ := bind_eq_ok.mp h
      cases h
      exact ledgerFraction_resolution hpair
    · cases h

/-! ## Runs -/

/-- An observation, and the API spend at which its window began. -/
structure LedgerReading where
  observation : Observation
  start : ℝ

/-- A row, and where its window and its anchor stand. -/
structure LedgerTrack where
  row : Row
  start : ℝ
  anchor : Option ResolvedFraction

def LedgerTrack.after (P : DualLedger) (s : LedgerTrack) (r : LedgerReading) (row : Row) :
    LedgerTrack :=
  let taken := P.taken (some s.row) r.observation
  if P.Begins s.row r.observation then ⟨row, r.start, taken⟩
  else if Takes s.row r.observation ∧ P.MovesAnchor s.row r.observation then
    ⟨row, s.start, taken⟩
  else ⟨row, s.start, s.anchor⟩

def follow (P : DualLedger) (state : Option LedgerTrack) (r : LedgerReading) :
    Option LedgerTrack :=
  match P.applyObservation (state.map LedgerTrack.row) r.observation with
  | .error _ => state
  | .ok row =>
    match state with
    | none => some ⟨row, r.start, P.taken none r.observation⟩
    | some s => some (s.after P r row)

/-- The fraction taken of a reading is one of a window of capacity `C`. -/
def Reported (P : DualLedger) (C : ℝ) (state : Option LedgerTrack) (r : LedgerReading) : Prop :=
  ∀ f ∈ P.taken (state.map LedgerTrack.row) r.observation,
    f.Reports C r.start r.observation.cumulativeApi

def SameWindow (P : DualLedger) (state : Option LedgerTrack) (r : LedgerReading) : Prop :=
  ∀ s, state = some s → Takes s.row r.observation → ¬ P.Begins s.row r.observation →
    r.start = s.start

structure Completes (row : Row) (o : Observation) (anchor current : ResolvedFraction) : Prop where
  used : anchor.usedFractionUnits < current.usedFractionUnits
  api : row.anchorSpendApi < o.cumulativeApi
  native : row.anchorSpendNative < o.cumulativeNative

def EndsFit (P : DualLedger) (C : ℝ) (state : Option LedgerTrack) (r : LedgerReading) : Prop :=
  ∀ s, state = some s → ∀ anchor ∈ s.anchor, ∀ current ∈ P.taken (some s.row) r.observation,
    Completes s.row r.observation anchor current →
      SameFloor C (r.observation.cumulativeApi - s.row.anchorSpendApi) anchor current ∨
        anchor.Fits C s.start s.row.anchorSpendApi ∧
          current.Fits C s.start r.observation.cumulativeApi

/-- The anchor is a reading of its window, and the envelope holds the capacity. -/
structure LedgerTrack.Enclosed (P : DualLedger) (C : ℝ) (s : LedgerTrack) : Prop where
  estimatorVersion : s.row.estimatorVersion = P.version
  used : s.row.anchorUsedFractionUnits = s.anchor.map ResolvedFraction.usedFractionUnits
  resolution :
    s.row.anchorResolutionFractionUnits = s.anchor.map ResolvedFraction.resolutionFractionUnits
  anchor : ∀ f ∈ s.anchor, f.Reports C s.start s.row.anchorSpendApi ∧
    0 ≤ f.resolutionFractionUnits
  envelope : Within C s.row.currentLow s.row.currentHigh

section

variable {s : LedgerTrack} {r : LedgerReading} {row row' : Row} {o : Observation}

theorem after_begins (hb : P.Begins s.row r.observation) :
    s.after P r row' = ⟨row', r.start, P.taken (some s.row) r.observation⟩ :=
  if_pos hb

theorem after_moves (ht : Takes s.row r.observation) (hb : ¬ P.Begins s.row r.observation)
    (hm : P.MovesAnchor s.row r.observation) :
    s.after P r row' = ⟨row', s.start, P.taken (some s.row) r.observation⟩ := by
  unfold LedgerTrack.after
  simp only [if_neg hb]
  exact if_pos ⟨ht, hm⟩

theorem after_stays (hb : ¬ P.Begins s.row r.observation)
    (hm : ¬ (Takes s.row r.observation ∧ P.MovesAnchor s.row r.observation)) :
    s.after P r row' = ⟨row', s.start, s.anchor⟩ := by
  unfold LedgerTrack.after
  simp only [if_neg hb]
  exact if_neg hm

theorem after_eq (s : LedgerTrack) (r : LedgerReading) (row row' : Row) :
    s.after P r row = ⟨row, (s.after P r row').start, (s.after P r row').anchor⟩ := by
  by_cases hb : P.Begins s.row r.observation
  · rw [after_begins hb, after_begins hb]
  · by_cases hm : Takes s.row r.observation ∧ P.MovesAnchor s.row r.observation
    · rw [after_moves hm.1 hb hm.2, after_moves hm.1 hb hm.2]
    · rw [after_stays hb hm, after_stays hb hm]

structure Row.AnchoredAt (P : DualLedger) (row : Row) (o : Observation)
    (f : Option ResolvedFraction) : Prop where
  estimatorVersion : row.estimatorVersion = P.version
  used : row.anchorUsedFractionUnits = f.map ResolvedFraction.usedFractionUnits
  resolution : row.anchorResolutionFractionUnits = f.map ResolvedFraction.resolutionFractionUnits
  api : row.anchorSpendApi = o.cumulativeApi
  positive : ∀ g ∈ f, 1 ≤ g.resolutionFractionUnits

theorem Row.AnchoredAt.enclosed {start : ℝ} {f : Option ResolvedFraction}
    (h : row.AnchoredAt P o f) (hf : ∀ g ∈ f, g.Reports C start o.cumulativeApi)
    (hin : Within C row.currentLow row.currentHigh) :
    LedgerTrack.Enclosed P C ⟨row, start, f⟩ where
  estimatorVersion := h.estimatorVersion
  used := h.used
  resolution := h.resolution
  anchor := fun g hg => ⟨h.api.symm ▸ hf g hg, by have := h.positive g hg; omega⟩
  envelope := hin

theorem beginWindow_anchoredAt (hv : P.validateObservation o = .ok ())
    (hversion : row.estimatorVersion = P.version) (h : P.beginWindow row o = .ok row') :
    row'.AnchoredAt P o (P.fraction o (some o.cumulativeNative)) ∧
      row'.currentLow = row.currentLow ∧ row'.currentHigh = row.currentHigh := by
  unfold beginWindow at h
  obtain ⟨resolved, hresolved, h⟩ := bind_eq_ok.mp h
  rw [fraction_of_ok hresolved]
  cases resolved with
  | none =>
    cases h
    exact ⟨⟨hversion, rfl, rfl, rfl, fun g hg => absurd hg (Option.not_mem_none g)⟩, rfl, rfl⟩
  | some =>
    cases h
    refine ⟨⟨hversion, rfl, rfl, rfl, ?_⟩, rfl, rfl⟩
    rintro _ ⟨⟩
    exact resolveFraction_resolution hv hresolved

theorem observe_valid (h : P.observe row o = .ok row') : P.validateObservation o = .ok () := by
  unfold observe at h
  obtain ⟨⟨⟩, hv, -⟩ := bind_eq_ok.mp h
  exact hv

theorem LedgerTrack.Enclosed.completed (hC : 0 < C) (h : s.Enclosed P C)
    {anchor : ResolvedFraction} (hanchor : s.anchor = some anchor)
    (hpositive : 1 ≤ current.resolutionFractionUnits)
    (hreports : current.Reports C s.start o.cumulativeApi)
    (hcompletes : Completes s.row o anchor current)
    (hfits : SameFloor C (o.cumulativeApi - s.row.anchorSpendApi) anchor current ∨
      anchor.Fits C s.start s.row.anchorSpendApi ∧ current.Fits C s.start o.cumulativeApi)
    (hm : P.measure (refresh s.row o (some current)) o current anchor.resolutionFractionUnits
      (current.usedFractionUnits - anchor.usedFractionUnits) = .ok row') :
    row'.AnchoredAt P o (some current) ∧ Within C row'.currentLow row'.currentHigh := by
  obtain ⟨hold, hnonneg⟩ := h.anchor anchor hanchor
  have hnear := movement_near hC hold hreports ⟨hnonneg, by omega⟩ hfits
  have hwidth : 0 ≤ intervalFractionUncertainty anchor.resolutionFractionUnits
      current.resolutionFractionUnits :=
    Int.add_nonneg (Int.tdiv_nonneg hnonneg (by decide)) (Int.tdiv_nonneg (by omega) (by decide))
  have hused := hcompletes.used
  have hapi : (refresh s.row o (some current)).anchorSpendApi < o.cumulativeApi := hcompletes.api
  obtain ⟨hin, hapi⟩ := measure_within hC (by omega) hapi hwidth (trueFraction_line hC _ _) hnear
    h.envelope hm
  obtain ⟨hsame, -, hmovedUsed, hmovedResolution⟩ := measure_moves hm
  refine ⟨⟨hsame.estimatorVersion.trans h.estimatorVersion, hmovedUsed, hmovedResolution, hapi,
    ?_⟩, hin⟩
  rintro _ ⟨⟩
  exact hpositive

theorem LedgerTrack.Enclosed.step (hC : 0 < C) (h : s.Enclosed P C)
    (hreported : Reported P C (some s) r) (hwindow : SameWindow P (some s) r)
    (hfits : EndsFit P C (some s) r) (hobs : P.observe s.row r.observation = .ok row') :
    (s.after P r row').Enclosed P C := by
  have hv := observe_valid hobs
  cases observe_outcome hobs with
  | ignored hnot hb =>
    rw [after_stays hb (fun hboth => hnot hboth.1)]
    exact h
  | began hb hbegun =>
    obtain ⟨hat, hlow, hhigh⟩ := beginWindow_anchoredAt hv h.estimatorVersion hbegun
    rw [after_begins hb]
    refine Row.AnchoredAt.enclosed ?_ hreported (hlow ▸ hhigh ▸ h.envelope)
    rw [taken_of_begins hb]
    exact hat
  | unread _ hb hr =>
    rw [after_stays hb]
    · exact ⟨h.estimatorVersion, h.used, h.resolution, h.anchor, h.envelope⟩
    · rintro ⟨-, current, hsome, -⟩
      rw [hr] at hsome
      cases hsome
  | held _ hb hr hm =>
    rw [after_stays hb]
    · exact ⟨h.estimatorVersion, h.used, h.resolution, h.anchor, h.envelope⟩
    · rintro ⟨-, current, hsome, hmoves⟩
      rw [hr] at hsome
      cases hsome
      exact hm hmoves
  | anchored ht hb hr hm =>
    have htaken := taken_of_takes ht hb hr
    rw [after_moves ht hb ⟨_, hr, hm⟩, ← hwindow s rfl ht hb]
    refine Row.AnchoredAt.enclosed ?_ hreported h.envelope
    rw [htaken]
    refine ⟨h.estimatorVersion, rfl, rfl, rfl, ?_⟩
    rintro _ ⟨⟩
    exact resolveFraction_resolution hv hr
  | @completed ht hb current hr anchorUsed anchorResolution hused hresolution hlt hapi hnative
      _ hm =>
    have htaken := taken_of_takes ht hb hr
    have hsame := hwindow s rfl ht hb
    obtain ⟨anchor, hanchor, rfl⟩ := map_eq_some_iff.mp (h.used.symm.trans hused)
    obtain rfl : anchor.resolutionFractionUnits = anchorResolution := by
      have := h.resolution.symm.trans hresolution
      rw [hanchor] at this
      exact some.inj this
    have hcompletes : Completes s.row r.observation anchor current := ⟨hlt, hapi, hnative⟩
    have hreports := hreported current htaken
    obtain ⟨hat, hin⟩ := h.completed hC hanchor (resolveFraction_resolution hv hr)
      (hsame ▸ hreports) hcompletes (hfits s rfl anchor hanchor current htaken hcompletes) hm
    have hmoves : MovesAnchorTo s.row r.observation current := by
      refine .inr (.inr ⟨?_, .inl ⟨by omega, by omega⟩⟩)
      rw [hused, any_some]
      exact decide_eq_true hlt
    rw [after_moves ht hb ⟨_, hr, hmoves⟩, ← hsame]
    refine Row.AnchoredAt.enclosed ?_ hreported hin
    rw [htaken]
    exact hat

/-! ## The first reading -/

theorem anchor_anchoredAt (h : P.anchor o = .ok row) :
    row.AnchoredAt P o (P.fraction o (some o.cumulativeNative)) ∧
      row.currentLow = none ∧ row.currentHigh = none := by
  unfold anchor at h
  obtain ⟨⟨⟩, hv, h⟩ := bind_eq_ok.mp h
  obtain ⟨resolved, hresolved, h⟩ := bind_eq_ok.mp h
  rw [fraction_of_ok hresolved]
  cases h
  refine ⟨⟨rfl, rfl, rfl, rfl, ?_⟩, rfl, rfl⟩
  rintro g rfl
  exact resolveFraction_resolution hv hresolved

theorem anchor_fraction (h : P.anchor o = .ok row)
    (hr : P.resolveFraction o (nativeBaseline row) = .ok (some current)) :
    P.fraction o (some o.cumulativeNative) = some current := by
  unfold anchor at h
  obtain ⟨_, -, h⟩ := bind_eq_ok.mp h
  obtain ⟨resolved, hresolved, h⟩ := bind_eq_ok.mp h
  rw [fraction_of_ok hresolved]
  cases hquota : o.usedFractionUnits with
  | some =>
    unfold resolveFraction at hr hresolved
    simp only [hquota] at hr hresolved
    rw [hr] at hresolved
    exact (Except.ok.inj hresolved).symm
  | none =>
    cases hlimit : P.publishedLimit o.identity with
    | none =>
      unfold resolveFraction at hr
      simp only [hquota, hlimit] at hr
      cases hr
    | some =>
      cases hbaseline : nativeBaseline row with
      | none =>
        unfold resolveFraction at hr
        simp only [hquota, hlimit, hbaseline] at hr
        cases hr
      | some baseline =>
        -- the usage is nothing yet, so the baseline is the anchor's total
        obtain ⟨_, -, hsome⟩ := resolveFraction_native hquota hlimit hresolved
        cases h
        subst hsome
        obtain ⟨-, -, hvalue⟩ := Range.checked_eq_some.mp hbaseline
        rw [Int.sub_self, Int.sub_zero] at hvalue
        rw [hbaseline, hvalue, hresolved] at hr
        exact Except.ok.inj hr

theorem applyObservation_first (h : P.applyObservation none o = .ok row) :
    row.AnchoredAt P o (P.taken none o) ∧ row.currentLow = none ∧ row.currentHigh = none := by
  unfold applyObservation at h
  obtain ⟨anchored, hanchored, h⟩ := bind_eq_ok.mp h
  obtain ⟨observed, hobserved, h⟩ := bind_eq_ok.mp h
  cases h
  obtain ⟨hat, hlow, hhigh⟩ := anchor_anchoredAt hanchored
  suffices hsame : observed.AnchoredAt P o (P.taken none o) ∧ observed.currentLow = none ∧
      observed.currentHigh = none by
    obtain ⟨⟨hversion, hused, hresolution, hapi, hpositive⟩, hnone⟩ := hsame
    exact ⟨⟨hversion, hused, hresolution, hapi, hpositive⟩, hnone⟩
  cases observe_outcome hobserved with
  | ignored => exact ⟨hat, hlow, hhigh⟩
  | began _ hbegun =>
    obtain ⟨hbegan, hlow', hhigh'⟩ :=
      beginWindow_anchoredAt (observe_valid hobserved) hat.estimatorVersion hbegun
    exact ⟨hbegan, hlow'.trans hlow, hhigh'.trans hhigh⟩
  | unread | held => exact ⟨⟨hat.estimatorVersion, hat.used, hat.resolution, hat.api, hat.positive⟩,
      hlow, hhigh⟩
  | anchored _ _ hr hm =>
    have hsome := anchor_fraction hanchored hr
    have hused := hat.used
    have hresolution := hat.resolution
    rw [hsome, map_some] at hused hresolution
    rcases hm with hnone | hnone | ⟨hlt, -⟩
    · rw [hused] at hnone
      cases hnone
    · rw [hresolution] at hnone
      cases hnone
    · rw [hused, any_some, decide_eq_true_eq] at hlt
      omega
  | completed =>
    have := hat.api
    omega

/-! ## Whole runs -/

/-- What a run keeps of the row it has, if any. -/
def LedgerEnclosed (P : DualLedger) (C : ℝ) (state : Option LedgerTrack) : Prop :=
  ∀ s, state = some s → s.Enclosed P C

theorem LedgerEnclosed.follow (hC : 0 < C) {state : Option LedgerTrack}
    (h : LedgerEnclosed P C state) (hreported : Reported P C state r)
    (hwindow : SameWindow P state r) (hfits : EndsFit P C state r) :
    LedgerEnclosed P C (P.follow state r) := by
  unfold DualLedger.follow
  cases happly : P.applyObservation (state.map LedgerTrack.row) r.observation with
  | error => exact h
  | ok =>
    cases state with
    | none =>
      obtain ⟨hat, hlow, hhigh⟩ := applyObservation_first happly
      rintro _ ⟨⟩
      exact hat.enclosed hreported (by rw [hlow, hhigh]; exact Rate.within_none)
    | some s =>
      obtain ⟨observed, hobserved, rfl⟩ :=
        applyObservation_some (h s rfl).estimatorVersion happly
      have hstep := (h s rfl).step hC hreported hwindow hfits hobserved
      rintro _ ⟨⟩
      rw [after_eq s r observed observed] at hstep
      show (s.after P r { observed with version := s.row.version }).Enclosed P C
      rw [after_eq s r { observed with version := s.row.version } observed]
      exact ⟨hstep.estimatorVersion, hstep.used, hstep.resolution, hstep.anchor, hstep.envelope⟩

/-- In every run whose intervals have ends that fit, the bounds published at the
end are bounds on the capacity. -/
theorem fitting_envelope_contains (hC : 0 < C) {readings : List LedgerReading}
    (hreported : Along P.follow (P.Reported C) none readings)
    (hwindow : Along P.follow P.SameWindow none readings)
    (hfits : Along P.follow (P.EndsFit C) none readings)
    (hrun : run P.follow none readings = some s) :
    Within C s.row.currentLow s.row.currentHigh := by
  have hinv : LedgerEnclosed P C (run P.follow none readings) := by
    refine run_invariant_along (I := LedgerEnclosed P C)
      (C := fun state r => (P.Reported C state r ∧ P.SameWindow state r) ∧ P.EndsFit C state r)
      (fun state r h hr => h.follow hC hr.1.1 hr.1.2 hr.2) (fun _ h => nomatch h) ?_
    exact along_and.mpr ⟨along_and.mpr ⟨hreported, hwindow⟩, hfits⟩
  exact (hinv s hrun).envelope

end

/-- In every run of readings of windows of capacity `C` whose steps meet `Q`,
none of them taken for one of another window, the bounds published at the end
are bounds on `C`. -/
def PublishesTruth (P : DualLedger) (Q : Option LedgerTrack → LedgerReading → Prop)
    (C : ℝ) : Prop :=
  ∀ readings : List LedgerReading, Along P.follow (P.Reported C) none readings →
    Along P.follow P.SameWindow none readings → Along P.follow Q none readings →
    ∀ s, run P.follow none readings = some s →
      (∀ low ∈ s.row.currentLow, (low : ℝ) ≤ C) ∧ ∀ high ∈ s.row.currentHigh, C ≤ (high : ℝ)

end DualLedger

/-- The bounds KIMI and GLM publish contain the true capacity, of KIMI where the
last resolution covers the quantisation, of GLM where the ends of the intervals
fit. -/
theorem fitting_envelopes_contain {C : ℝ} (hC : 0 < C) :
    Kimi.PublishesTruth Kimi.Covers C ∧
      Glm.estimator.PublishesTruth (Glm.estimator.EndsFit C) C := by
  constructor
  · intro readings hrounds hwindow hcovers s hrun
    have henvelope := Kimi.covered_envelope_contains hC hrounds hwindow hcovers hrun
    exact ⟨henvelope.low, henvelope.high⟩
  · intro readings hreported hwindow hfits s hrun
    have henvelope := DualLedger.fitting_envelope_contains hC hreported hwindow hfits hrun
    exact ⟨henvelope.low, henvelope.high⟩

def kimiReading (limit nativeUsed used resolution spend observedAt : Int) (start : ℝ) :
    Reading Kimi.Identity Kimi.Native where
  observation :=
    { identity := ⟨"account", "plan", 18000⟩
      resetsAt := 20000
      observedAt := observedAt
      usedFractionUnits := used
      measurementResolutionFractionUnits := resolution
      gatewaySpendNano := spend
      detail := ⟨none, limit, nativeUsed⟩ }
  start := start

def coarseReadings : List (Reading Kimi.Identity Kimi.Native) :=
  [kimiReading 100 0 0 1000000 0 1000 0, kimiReading 100 2 2000000 1000000 25 1060 0]

def ledgerReading (observedAt api native : Int) : DualLedger.LedgerReading where
  observation := DualLedger.ledgerPoll "Pro" 18000 observedAt api native
  start := 0

def firstTrack : DualLedger.LedgerTrack where
  row := DualLedger.glmRow
  start := 0
  anchor := some ⟨0, 1, some 12000000000, some 0, .nativeLedger⟩

theorem follow_first : Glm.estimator.follow none (ledgerReading 1000 0 0) = some firstTrack := rfl

theorem along_second {Q : Option DualLedger.LedgerTrack → DualLedger.LedgerReading → Prop}
    {r : DualLedger.LedgerReading} (hfirst : Q none (ledgerReading 1000 0 0))
    (hsecond : Q (some firstTrack) r) :
    Along Glm.estimator.follow Q none [ledgerReading 1000 0 0, r] := by
  refine ⟨hfirst, ?_, trivial⟩
  rw [follow_first]
  exact hsecond

theorem reported_first {C : ℝ} : Glm.estimator.Reported C none (ledgerReading 1000 0 0) := by
  intro f hf
  rw [show Glm.estimator.taken _ _ =
    some ⟨0, 1, some 12000000000, some 0, .nativeLedger⟩ by decide +kernel] at hf
  cases hf
  simp [DualLedger.ResolvedFraction.Reports, trueFraction, ledgerReading, DualLedger.ledgerPoll]

/-- A capacity of 1000, read in whole percents and read from a ledger. -/
theorem envelopes_contain_thousand :
    (∃ s, run Kimi.track none coarseReadings = some s ∧
      s.row.currentLowNano = some 833 ∧ s.row.currentHighNano = some 2500 ∧
      (∀ low ∈ s.row.currentLowNano, (low : ℝ) ≤ 1000) ∧
        ∀ high ∈ s.row.currentHighNano, (1000 : ℝ) ≤ (high : ℝ)) ∧
    ∃ s, run Glm.estimator.follow none [ledgerReading 1000 0 0, ledgerReading 1060 5 60000000] =
        some s ∧
      s.row.currentLow = some 1000 ∧ s.row.currentHigh = some 1000 ∧
      (∀ low ∈ s.row.currentLow, (low : ℝ) ≤ 1000) ∧
        ∀ high ∈ s.row.currentHigh, (1000 : ℝ) ≤ (high : ℝ) := by
  have hpublishes := fitting_envelopes_contain (C := 1000) (by norm_num)
  constructor
  · have hrounds : ∀ r ∈ coarseReadings, r.Rounds 1000 := by
      simp only [coarseReadings, kimiReading, forall_mem_cons, not_mem_nil,
        false_implies, implies_true, and_true, Reading.Rounds, Rounds, trueFraction,
        fractionScale]
      constructor <;> norm_num [abs_le]
    obtain ⟨s, hrun, hlow, hhigh⟩ : ∃ s, run Kimi.track none coarseReadings = some s ∧
        s.row.currentLowNano = some 833 ∧ s.row.currentHighNano = some 2500 :=
      ⟨_, rfl, rfl, rfl⟩
    refine ⟨s, hrun, hlow, hhigh, ?_⟩
    refine hpublishes.1 coarseReadings hrounds ⟨?_, ?_, trivial⟩ ⟨?_, ?_, trivial⟩ s hrun
    · exact fun s h => by cases h
    · rintro _ ⟨⟩ _
      rfl
    · exact fun s h => by cases h
    · rintro _ ⟨⟩ _
      decide +kernel
  · obtain ⟨s, hrun, hlow, hhigh⟩ : ∃ s, run Glm.estimator.follow none
        [ledgerReading 1000 0 0, ledgerReading 1060 5 60000000] = some s ∧
        s.row.currentLow = some 1000 ∧ s.row.currentHigh = some 1000 :=
      ⟨_, rfl, rfl, rfl⟩
    have htaken : Glm.estimator.taken (some firstTrack.row)
        (ledgerReading 1060 5 60000000).observation =
          some ⟨500000, 1, some 12000000000, some 60000000, .nativeLedger⟩ := by
      decide +kernel
    refine ⟨s, hrun, hlow, hhigh, ?_⟩
    refine hpublishes.2 _ (along_second reported_first ?_) (along_second ?_ ?_)
      (along_second ?_ ?_) s hrun
    · intro f hf
      rw [map_some, htaken] at hf
      cases hf
      simp only [DualLedger.ResolvedFraction.Reports, trueFraction, ledgerReading,
        DualLedger.ledgerPoll, fractionScale]
      norm_num
    · exact fun s h => by cases h
    · rintro _ ⟨⟩ _ _
      rfl
    · exact fun s h => by cases h
    · rintro _ ⟨⟩ anchor hanchor current hcurrent _
      cases hanchor
      rw [htaken] at hcurrent
      cases hcurrent
      refine .inl ⟨rfl, rfl, 500000, ?_⟩
      norm_num [firstTrack, ledgerReading, DualLedger.ledgerPoll, DualLedger.glmRow,
        DualLedger.firstRow, fractionScale]

def refinedReadings : List (Reading Kimi.Identity Kimi.Native) :=
  [kimiReading 100 0 0 1000000 0 1000 (-5), kimiReading 10000 100 1000000 10000 5 1060 (-5)]

/-- Not every run publishes bounds on the capacity. The high bound of KIMI falls
below a capacity of 1000; the low one of GLM rises above one of twelve dollars,
after almost two units of the fraction of which the floor is one. -/
theorem envelopes_exclude_capacity :
    ((∃ s, run Kimi.track none refinedReadings = some s ∧ s.row.currentHighNano = some 506) ∧
      ¬ Kimi.PublishesTruth (fun _ _ => True) 1000) ∧
    (∃ s, run Glm.estimator.follow none [ledgerReading 1000 0 0, ledgerReading 1060 239 239] =
        some s ∧ s.row.currentLow = some 23900000000) ∧
      ¬ Glm.estimator.PublishesTruth (fun _ _ => True) 12000000000 := by
  obtain ⟨s, hrun, hhigh⟩ : ∃ s, run Kimi.track none refinedReadings = some s ∧
      s.row.currentHighNano = some 506 := ⟨_, rfl, rfl⟩
  obtain ⟨t, hrunLedger, hlow⟩ : ∃ s, run Glm.estimator.follow none
      [ledgerReading 1000 0 0, ledgerReading 1060 239 239] = some s ∧
      s.row.currentLow = some 23900000000 := ⟨_, rfl, rfl⟩
  refine ⟨⟨⟨s, hrun, hhigh⟩, fun hpublishes => ?_⟩, ⟨t, hrunLedger, hlow⟩, fun hpublishes => ?_⟩
  · have hrounds : ∀ r ∈ refinedReadings, r.Rounds 1000 := by
      simp only [refinedReadings, kimiReading, forall_mem_cons, not_mem_nil,
        false_implies, implies_true, and_true, Reading.Rounds, Rounds, trueFraction,
        fractionScale]
      constructor <;> norm_num [abs_le]
    have hwindow : Along Kimi.track Kimi.InWindow none refinedReadings := by
      refine ⟨fun s h => (by cases h), ?_, trivial⟩
      rintro _ ⟨⟩ _
      rfl
    have hbound := (hpublishes _ hrounds hwindow ⟨trivial, trivial, trivial⟩ s hrun).2 506 hhigh
    norm_num at hbound
  · have htaken : Glm.estimator.taken (some firstTrack.row)
        (ledgerReading 1060 239 239).observation =
          some ⟨1, 1, some 12000000000, some 239, .nativeLedger⟩ := by
      decide +kernel
    have hreported : Glm.estimator.Reported 12000000000 (some firstTrack)
        (ledgerReading 1060 239 239) := by
      intro f hf
      rw [map_some, htaken] at hf
      cases hf
      simp only [DualLedger.ResolvedFraction.Reports, trueFraction, ledgerReading,
        DualLedger.ledgerPoll, fractionScale]
      norm_num
    have hwindow : Along Glm.estimator.follow Glm.estimator.SameWindow none
        [ledgerReading 1000 0 0, ledgerReading 1060 239 239] := by
      refine along_second (fun s h => by cases h) ?_
      rintro _ ⟨⟩ _ _
      rfl
    have hbound := (hpublishes _ (along_second reported_first hreported) hwindow
      ⟨trivial, trivial, trivial⟩ t hrunLedger).1 23900000000 hlow
    norm_num at hbound

end ApiToken.Calibration
