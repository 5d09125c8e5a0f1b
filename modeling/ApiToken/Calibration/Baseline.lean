import ApiToken.Lib.Run
import ApiToken.Calibration.DualLedger

/-!
# The baseline of the native ledger

The native usage of a window is counted from a baseline that is not stored:
`native_baseline` is the anchor's native total less the stored usage. A poll
refreshes the usage; the anchor's total moves with the anchor only. So the
baseline stays where the window began as long as every poll either moves the
anchor or finds the native total where the anchor has it.
-/

namespace ApiToken.Calibration.DualLedger

variable {row row' : Row} {deltaUsed anchorResolution limit baseline start : Int}
  {o : Observation} {current : ResolvedFraction}

variable {P : DualLedger}

/-! ## What the steps leave alone -/

theorem updateWorkloadEnvelope_frame {uncertainty deltaApi : Int}
    (h : P.updateWorkloadEnvelope row deltaUsed uncertainty deltaApi = .ok row') :
    ∃ low high, row' = { row with currentLow := low, currentHigh := high } := by
  unfold updateWorkloadEnvelope at h
  simp only [bind_eq_ok] at h
  obtain ⟨_, -, _, -, _, -, _, -, h⟩ := h
  cases h
  exact ⟨_, _, rfl⟩

theorem recompute_frame (h : P.recompute row = .ok row') :
    ∃ capacity confidence,
      row' = { row with currentCapacity := capacity, currentConfidenceBp := confidence } := by
  unfold recompute at h
  simp only [] at h
  split at h
  · cases h
    exact ⟨_, _, rfl⟩
  · simp only [bind_eq_ok] at h
    obtain ⟨_, -, _, -, _, -, _, -, _, -, _, -, _, -, _, -, _, -, _, -, h⟩ := h
    cases h
    exact ⟨_, _, rfl⟩

structure Row.SameLedger (row row' : Row) : Prop where
  nativeUsed : row'.nativeUsed = row.nativeUsed
  estimatorVersion : row'.estimatorVersion = row.estimatorVersion
  identity : row'.identity = row.identity

theorem measure_moves (h : P.measure row o current anchorResolution deltaUsed = .ok row') :
    row.SameLedger row' ∧ row'.anchorSpendNative = o.cumulativeNative ∧
      row'.anchorUsedFractionUnits = some current.usedFractionUnits ∧
      row'.anchorResolutionFractionUnits = some current.resolutionFractionUnits := by
  unfold measure at h
  simp only [bind_eq_ok] at h
  obtain ⟨widened, henvelope, _, -, _, -, _, -, _, -, h⟩ := h
  obtain ⟨_, _, rfl⟩ := updateWorkloadEnvelope_frame henvelope
  obtain ⟨_, _, rfl⟩ := recompute_frame h
  exact ⟨⟨rfl, rfl, rfl⟩, rfl, rfl, rfl⟩

/-! ## What a snapshot does -/

theorem resolveFraction_native {resolved : Option ResolvedFraction}
    (hquota : o.usedFractionUnits = none)
    (hlimit : P.publishedLimit o.identity = some limit)
    (h : P.resolveFraction o (some baseline) = .ok resolved) :
    ∃ fraction, P.ledgerFraction (o.cumulativeNative - baseline) limit = .ok fraction ∧
      resolved = some ⟨fraction.1, fraction.2, some limit,
        some (o.cumulativeNative - baseline), .nativeLedger⟩ := by
  unfold resolveFraction at h
  simp only [hquota, hlimit] at h
  obtain ⟨used, hused, h⟩ := bind_eq_ok.mp h
  obtain ⟨fraction, hfraction, h⟩ := bind_eq_ok.mp h
  obtain ⟨rfl, -⟩ := (narrow_ends _ _).of_eq_ok hused
  cases h
  exact ⟨fraction, hfraction, rfl⟩

def Takes (row : Row) (o : Observation) : Prop :=
  row.observedAt ≤ o.observedAt ∧ farBehind row o = false

instance (row : Row) (o : Observation) : Decidable (Takes row o) :=
  inferInstanceAs (Decidable (_ ∧ _))

def Begins (P : DualLedger) (row : Row) (o : Observation) : Prop :=
  row.observedAt ≤ o.observedAt ∧
    ∃ resolved, P.resolveFraction o (nativeBaseline row) = .ok resolved ∧
      P.beginsWindow row o resolved = true

theorem begins_iff (row : Row) (o : Observation) :
    P.Begins row o ↔ row.observedAt ≤ o.observedAt ∧
      (P.resolveFraction o (nativeBaseline row)).toOption.any (P.beginsWindow row o) = true := by
  unfold Begins
  cases P.resolveFraction o (nativeBaseline row) <;> simp [Except.toOption]

instance (row : Row) (o : Observation) : Decidable (P.Begins row o) :=
  decidable_of_iff _ (begins_iff row o).symm

def MovesAnchorTo (row : Row) (o : Observation) (current : ResolvedFraction) : Prop :=
  row.anchorUsedFractionUnits = none ∨ row.anchorResolutionFractionUnits = none ∨
    row.anchorUsedFractionUnits.any (fun anchor => anchor < current.usedFractionUnits) = true ∧
      (o.cumulativeApi ≠ row.anchorSpendApi ∧ o.cumulativeNative ≠ row.anchorSpendNative ∨
        row.usedFractionUnits = some current.usedFractionUnits ∧ row.observedAt < o.observedAt)

instance (row : Row) (o : Observation) (current : ResolvedFraction) :
    Decidable (MovesAnchorTo row o current) :=
  inferInstanceAs (Decidable (_ ∨ _))

def MovesAnchor (P : DualLedger) (row : Row) (o : Observation) : Prop :=
  ∃ current, P.resolveFraction o (nativeBaseline row) = .ok (some current) ∧
    MovesAnchorTo row o current

theorem movesAnchor_iff (row : Row) (o : Observation) :
    P.MovesAnchor row o ↔
      (P.resolveFraction o (nativeBaseline row)).toOption.any
        (fun resolved => resolved.any (fun current => MovesAnchorTo row o current)) = true := by
  unfold MovesAnchor
  cases P.resolveFraction o (nativeBaseline row) with
  | error => simp [Except.toOption]
  | ok resolved => cases resolved <;> simp [Except.toOption]

instance (row : Row) (o : Observation) : Decidable (P.MovesAnchor row o) :=
  decidable_of_iff _ (movesAnchor_iff row o).symm

/-! ## Outcomes -/

inductive Outcome (P : DualLedger) (row : Row) (o : Observation) : Row → Prop
  | ignored (h : ¬ Takes row o) (hb : ¬ P.Begins row o) : Outcome P row o row
  | began {row' : Row} (hb : P.Begins row o) (h : P.beginWindow row o = .ok row') :
      Outcome P row o row'
  | unread (ht : Takes row o) (hb : ¬ P.Begins row o)
      (hr : P.resolveFraction o (nativeBaseline row) = .ok none) :
      Outcome P row o (refresh row o none)
  | held (ht : Takes row o) (hb : ¬ P.Begins row o) {current : ResolvedFraction}
      (hr : P.resolveFraction o (nativeBaseline row) = .ok (some current))
      (hm : ¬ MovesAnchorTo row o current) :
      Outcome P row o (refresh row o (some current))
  | anchored (ht : Takes row o) (hb : ¬ P.Begins row o) {current : ResolvedFraction}
      (hr : P.resolveFraction o (nativeBaseline row) = .ok (some current))
      (hm : MovesAnchorTo row o current) (units : Int) :
      Outcome P row o
        ({ refresh row o (some current) with
          unattributedFractionUnits := units }.advanceAnchor o current)
  | completed (ht : Takes row o) (hb : ¬ P.Begins row o) {current : ResolvedFraction}
      (hr : P.resolveFraction o (nativeBaseline row) = .ok (some current))
      {anchorUsed anchorResolution : Int}
      (hused : row.anchorUsedFractionUnits = some anchorUsed)
      (hresolution : row.anchorResolutionFractionUnits = some anchorResolution)
      (hlt : anchorUsed < current.usedFractionUnits)
      (hapi : row.anchorSpendApi < o.cumulativeApi)
      (hnative : row.anchorSpendNative < o.cumulativeNative) {row' : Row}
      (h : P.measure (refresh row o (some current)) o current anchorResolution
        (current.usedFractionUnits - anchorUsed) = .ok row') :
      Outcome P row o row'

theorem weigh_outcome {anchorUsed : Int} (ht : Takes row o) (hb : ¬ P.Begins row o)
    (hr : P.resolveFraction o (nativeBaseline row) = .ok (some current))
    (hledgers : row.anchorSpendApi ≤ o.cumulativeApi ∧ row.anchorSpendNative ≤ o.cumulativeNative)
    (hused : row.anchorUsedFractionUnits = some anchorUsed)
    (hresolution : row.anchorResolutionFractionUnits = some anchorResolution)
    (h : P.weigh row o current anchorUsed anchorResolution = .ok row') :
    P.Outcome row o row' := by
  have hmoves : MovesAnchorTo row o current ↔ anchorUsed < current.usedFractionUnits ∧
      (o.cumulativeApi ≠ row.anchorSpendApi ∧ o.cumulativeNative ≠ row.anchorSpendNative ∨
        row.usedFractionUnits = some current.usedFractionUnits ∧
          row.observedAt < o.observedAt) := by
    simp [MovesAnchorTo, hused, hresolution]
  unfold weigh at h
  simp only [] at h
  split at h
  · next hle =>
    cases h
    refine .held ht hb hr (fun hm => ?_)
    have := (hmoves.mp hm).1
    omega
  · next hgt =>
    split at h
    · next hstill =>
      split at h
      · next hagain =>
        obtain ⟨units, -, h⟩ := bind_eq_ok.mp h
        cases h
        exact .anchored ht hb hr (hmoves.mpr ⟨by omega, .inr hagain⟩) units
      · next hnot =>
        cases h
        refine .held ht hb hr (fun hm => ?_)
        rcases (hmoves.mp hm).2 with hboth | hagain
        · omega
        · exact hnot hagain
    · exact .completed ht hb hr hused hresolution (by omega) (by omega) (by omega) h

theorem observe_outcome (h : P.observe row o = .ok row') : P.Outcome row o row' := by
  unfold observe at h
  obtain ⟨_, -, h⟩ := bind_eq_ok.mp h
  obtain ⟨_, -, h⟩ := bind_eq_ok.mp h
  split at h
  · next hstale =>
    cases h
    exact .ignored (fun ht => by have := ht.1; omega) (fun hb => by have := hb.1; omega)
  obtain ⟨_, -, h⟩ := bind_eq_ok.mp h
  obtain ⟨_, hregressed, h⟩ := bind_eq_ok.mp h
  have hledgers := failIf_eq_ok.mp hregressed
  simp only [guard_iffs, Int.not_lt] at hledgers
  obtain ⟨resolved, hresolved, h⟩ := bind_eq_ok.mp h
  split at h
  · next hfresh hb => exact .began ⟨by omega, resolved, hresolved, hb⟩ h
  next hfresh hno =>
  have hb : ¬ P.Begins row o := by
    rintro ⟨-, resolved', hresolved', hbegins⟩
    rw [hresolved] at hresolved'
    cases hresolved'
    exact hno hbegins
  split at h
  · next hf =>
    cases h
    exact .ignored (fun ht => by simp [ht.2] at hf) hb
  next hf =>
  have ht : Takes row o := ⟨by omega, by simpa using hf⟩
  unfold continueWindow at h
  cases resolved with
  | none =>
    cases h
    exact .unread ht hb hresolved
  | some =>
    simp only [] at h
    split at h
    · next hused hresolution =>
      exact weigh_outcome ht hb hresolved hledgers hused hresolution h
    · next hnone =>
      cases h
      refine .anchored ht hb hresolved ?_ row.unattributedFractionUnits
      cases hused : row.anchorUsedFractionUnits with
      | none => exact .inl hused
      | some a =>
        cases hres : row.anchorResolutionFractionUnits with
        | none => exact .inr (.inl hres)
        | some r => exact (hnone a r hused hres).elim

/-! ## The native path -/

structure Row.Polled (P : DualLedger) (row : Row) (o : Observation) (used : Int)
    (row' : Row) : Prop where
  nativeUsed : row'.nativeUsed = some used
  moved : P.MovesAnchor row o → row'.anchorSpendNative = o.cumulativeNative
  held : ¬ P.MovesAnchor row o → row'.anchorSpendNative = row.anchorSpendNative
  estimatorVersion : row'.estimatorVersion = row.estimatorVersion
  identity : row'.identity = row.identity

theorem observe_native (hquota : o.usedFractionUnits = none)
    (hlimit : P.publishedLimit o.identity = some limit)
    (hbaseline : nativeBaseline row = some baseline) (hsame : ¬ P.Begins row o)
    (h : P.observe row o = .ok row') :
    ¬ Takes row o ∧ row' = row ∨
      Takes row o ∧ row.Polled P o (o.cumulativeNative - baseline) row' := by
  -- the usage of any fraction the outcome speaks of
  have hfraction : ∀ current,
      P.resolveFraction o (nativeBaseline row) = .ok (some current) →
        current.nativeUsed = some (o.cumulativeNative - baseline) ∧
          (P.MovesAnchor row o ↔ MovesAnchorTo row o current) := by
    intro current hr
    refine ⟨?_, fun ⟨other, hother, hm⟩ => ?_, fun hm => ⟨current, hr, hm⟩⟩
    · rw [hbaseline] at hr
      obtain ⟨fraction, -, hsome⟩ := resolveFraction_native hquota hlimit hr
      cases hsome
      rfl
    · rw [hr] at hother
      cases hother
      exact hm
  cases observe_outcome h with
  | ignored hnot => exact .inl ⟨hnot, rfl⟩
  | began hb => exact absurd hb hsame
  | unread _ _ hr =>
    rw [hbaseline] at hr
    obtain ⟨fraction, -, hsome⟩ := resolveFraction_native hquota hlimit hr
    cases hsome
  | held ht _ hr hm =>
    obtain ⟨hused, hmoves⟩ := hfraction _ hr
    exact .inr ⟨ht, hused, fun hmoved => absurd (hmoves.mp hmoved) hm, fun _ => rfl, rfl, rfl⟩
  | anchored ht _ hr hm =>
    obtain ⟨hused, hmoves⟩ := hfraction _ hr
    exact .inr ⟨ht, hused, fun _ => rfl, fun hnot => absurd (hmoves.mpr hm) hnot, rfl, rfl⟩
  | completed ht _ hr hanchor _ hlt _ _ hmeasure =>
    obtain ⟨hused, hmoves⟩ := hfraction _ hr
    obtain ⟨hsame, hmoved, -, -⟩ := measure_moves hmeasure
    refine .inr ⟨ht, hsame.nativeUsed.trans hused, fun _ => hmoved, fun hnot => ?_,
      hsame.estimatorVersion, hsame.identity⟩
    refine absurd (hmoves.mpr (.inr (.inr ⟨?_, .inl ⟨by omega, by omega⟩⟩))) hnot
    simp [hanchor, hlt]

/-! ## The start of a window -/

/-- A row that counts from `start`, on the native path. -/
structure Counts (P : DualLedger) (limit start : Int) (row : Row) : Prop where
  baseline : nativeBaseline row = some start
  estimatorVersion : row.estimatorVersion = P.version
  limit : P.publishedLimit row.identity = some limit

theorem Row.Polled.counts (h : P.Counts limit start row)
    (hpolled : row.Polled P o (o.cumulativeNative - start) row')
    (hkeeps : P.MovesAnchor row o ∨ o.cumulativeNative = row.anchorSpendNative) :
    P.Counts limit start row' := by
  refine ⟨?_, hpolled.estimatorVersion.trans h.estimatorVersion, hpolled.identity ▸ h.limit⟩
  have hanchor : row'.anchorSpendNative = o.cumulativeNative := by
    by_cases hm : P.MovesAnchor row o
    · exact hpolled.moved hm
    · rcases hkeeps with hkeeps | hkeeps
      · exact absurd hkeeps hm
      · rw [hpolled.held hm, hkeeps]
  have hstart : Range.i64.checked start = some start := by
    obtain ⟨used, -, hchecked⟩ := bind_eq_some_iff.mp h.baseline
    obtain ⟨hlo, hhi, rfl⟩ := Range.checked_eq_some.mp hchecked
    exact Range.checked_eq_some.mpr ⟨hlo, hhi, rfl⟩
  unfold nativeBaseline
  rw [hpolled.nativeUsed, hanchor, bind_some, Int.sub_sub_self]
  exact hstart

theorem beginWindow_counts (hquota : o.usedFractionUnits = none)
    (hlimit : P.publishedLimit o.identity = some limit) (hid : row.identity = o.identity)
    (hversion : row.estimatorVersion = P.version)
    (hfits : Range.i64.checked o.cumulativeNative = some o.cumulativeNative)
    (h : P.beginWindow row o = .ok row') : P.Counts limit o.cumulativeNative row' := by
  unfold beginWindow at h
  obtain ⟨resolved, hresolved, h⟩ := bind_eq_ok.mp h
  obtain ⟨fraction, -, rfl⟩ := resolveFraction_native hquota hlimit hresolved
  cases h
  refine ⟨?_, hversion, by rw [← hlimit, ← hid]; rfl⟩
  show Range.i64.checked (o.cumulativeNative - (o.cumulativeNative - o.cumulativeNative)) = _
  rw [Int.sub_self, Int.sub_zero, hfits]

theorem anchor_counts (hquota : o.usedFractionUnits = none)
    (hlimit : P.publishedLimit o.identity = some limit)
    (hfits : Range.i64.checked o.cumulativeNative = some o.cumulativeNative)
    (h : P.anchor o = .ok row) :
    P.Counts limit o.cumulativeNative row ∧ row.anchorSpendNative = o.cumulativeNative := by
  unfold anchor at h
  obtain ⟨_, -, h⟩ := bind_eq_ok.mp h
  obtain ⟨resolved, hresolved, h⟩ := bind_eq_ok.mp h
  obtain ⟨fraction, -, rfl⟩ := resolveFraction_native hquota hlimit hresolved
  cases h
  refine ⟨⟨?_, rfl, hlimit⟩, rfl⟩
  show Range.i64.checked (o.cumulativeNative - (o.cumulativeNative - o.cumulativeNative)) = _
  rw [Int.sub_self, Int.sub_zero, hfits]

theorem observe_identity (h : P.observe row o = .ok row') : o.identity = row.identity := by
  unfold observe at h
  obtain ⟨_, -, h⟩ := bind_eq_ok.mp h
  obtain ⟨_, hid, -⟩ := bind_eq_ok.mp h
  exact not_not.mp (of_decide_eq_false (failIf_eq_ok.mp hid))

theorem observe_begins (hbegins : P.Begins row o) (h : P.observe row o = .ok row') :
    P.beginWindow row o = .ok row' := by
  obtain ⟨hle, resolved, hresolved, hb⟩ := hbegins
  unfold observe at h
  obtain ⟨_, -, h⟩ := bind_eq_ok.mp h
  obtain ⟨_, -, h⟩ := bind_eq_ok.mp h
  rw [if_neg (by omega)] at h
  simp only [bind_eq_ok] at h
  obtain ⟨_, -, _, -, resolved', hresolved', h⟩ := h
  rw [hresolved] at hresolved'
  cases hresolved'
  rwa [if_pos hb] at h

def Opens (P : DualLedger) (first : Observation) (row : Row) : Prop :=
  ∃ existing, P.applyObservation existing first = .ok row ∧
    ∀ old ∈ existing, old.estimatorVersion = P.version → P.Begins old first

theorem applyObservation_some (hversion : row.estimatorVersion = P.version)
    (h : P.applyObservation (some row) o = .ok row') :
    ∃ observed, P.observe row o = .ok observed ∧
      row' = { observed with version := row.version } := by
  unfold applyObservation resume at h
  simp only [if_pos hversion] at h
  obtain ⟨_, hresume, h⟩ := bind_eq_ok.mp h
  obtain ⟨_, -, hrow⟩ := bind_eq_ok.mp hresume
  cases hrow
  obtain ⟨observed, hobserved, h⟩ := bind_eq_ok.mp h
  cases h
  exact ⟨observed, hobserved, rfl⟩

theorem Counts.withVersion (h : P.Counts limit start row) (version : Int) :
    P.Counts limit start { row with version := version } :=
  ⟨h.baseline, h.estimatorVersion, h.limit⟩

theorem Opens.counts {first : Observation} (hquota : first.usedFractionUnits = none)
    (hlimit : P.publishedLimit first.identity = some limit)
    (hfits : Range.i64.checked first.cumulativeNative = some first.cumulativeNative)
    (h : P.Opens first row) : P.Counts limit first.cumulativeNative row := by
  obtain ⟨existing, happly, hbegins⟩ := h
  by_cases hstored : ∃ old, existing = some old ∧ old.estimatorVersion = P.version
  · obtain ⟨old, rfl, hversion⟩ := hstored
    obtain ⟨observed, hobserved, rfl⟩ := applyObservation_some hversion happly
    exact (beginWindow_counts hquota hlimit (observe_identity hobserved).symm hversion hfits
      (observe_begins (hbegins old rfl hversion) hobserved)).withVersion _
  · -- anchored, and then observed on its own anchor
    have hresume : P.resume existing first = P.anchor first := by
      cases existing with
      | none => rfl
      | some old =>
        unfold resume
        exact if_neg (fun hversion => hstored ⟨old, rfl, hversion⟩)
    unfold applyObservation at happly
    rw [hresume] at happly
    obtain ⟨anchored, hanchored, happly⟩ := bind_eq_ok.mp happly
    obtain ⟨observed, hobserved, happly⟩ := bind_eq_ok.mp happly
    cases happly
    obtain ⟨hcounts, hanchor⟩ := anchor_counts hquota hlimit hfits hanchored
    refine Counts.withVersion ?_ _
    by_cases hb : P.Begins anchored first
    · exact beginWindow_counts hquota hlimit (observe_identity hobserved).symm
        hcounts.estimatorVersion hfits (observe_begins hb hobserved)
    · rcases observe_native hquota hlimit hcounts.baseline hb hobserved with
        ⟨-, rfl⟩ | ⟨-, hpolled⟩
      · exact hcounts
      · exact hpolled.counts hcounts (.inr hanchor.symm)

/-! ## Runs -/

def poll (P : DualLedger) (row : Row) (o : Observation) : Row :=
  match P.applyObservation (some row) o with
  | .ok row' => row'
  | .error _ => row

def Applied (P : DualLedger) (row : Row) (o : Observation) : Prop :=
  Takes row o ∧ ∃ row', P.applyObservation (some row) o = .ok row'

instance (row : Row) (o : Observation) : Decidable (P.Applied row o) :=
  decidable_of_iff (Takes row o ∧ (P.applyObservation (some row) o).toOption.isSome = true) <| by
    unfold Applied
    cases P.applyObservation (some row) o <;> simp [Except.toOption]

def NativeExact (P : DualLedger) (start : Int) (row : Row) (o : Observation) : Prop :=
  P.Applied row o →
    (P.poll row o).nativeUsed = some (o.cumulativeNative - start) ∧
      nativeBaseline (P.poll row o) = some start

instance (start : Int) (row : Row) (o : Observation) : Decidable (P.NativeExact start row o) :=
  inferInstanceAs (Decidable (_ → _))

def KeepsBaseline (P : DualLedger) (row : Row) (o : Observation) : Prop :=
  P.Applied row o → P.MovesAnchor row o ∨ o.cumulativeNative = row.anchorSpendNative

instance (row : Row) (o : Observation) : Decidable (P.KeepsBaseline row o) :=
  inferInstanceAs (Decidable (_ → _))

structure OnNativePath (P : DualLedger) (row : Row) (o : Observation) : Prop where
  quota : o.usedFractionUnits = none
  window : ¬ P.Begins row o

instance (row : Row) (o : Observation) : Decidable (P.OnNativePath row o) :=
  decidable_of_iff (o.usedFractionUnits = none ∧ ¬ P.Begins row o)
    ⟨fun h => ⟨h.1, h.2⟩, fun h => ⟨h.quota, h.window⟩⟩

section

variable (h : P.Counts limit start row) (ho : P.OnNativePath row o)
include h ho

theorem poll_counts :
    ¬ P.Applied row o ∧ P.poll row o = row ∨
      P.Applied row o ∧ row.Polled P o (o.cumulativeNative - start) (P.poll row o) := by
  cases happly : P.applyObservation (some row) o with
  | error =>
    refine .inl ⟨fun happlied => ?_, by rw [poll, happly]⟩
    obtain ⟨-, row', hrow'⟩ := happlied
    rw [happly] at hrow'
    cases hrow'
  | ok =>
    obtain ⟨observed, hobserved, rfl⟩ := applyObservation_some h.estimatorVersion happly
    have hlimit : P.publishedLimit o.identity = some limit :=
      observe_identity hobserved ▸ h.limit
    have hpoll : P.poll row o = { observed with version := row.version } := by
      rw [poll, happly]
    rw [hpoll]
    rcases observe_native ho.quota hlimit h.baseline ho.window hobserved with
      ⟨hnot, rfl⟩ | ⟨htakes, hpolled⟩
    · exact .inl ⟨fun happlied => hnot happlied.1, rfl⟩
    · exact .inr ⟨⟨htakes, _, happly⟩, hpolled.nativeUsed, hpolled.moved,
        hpolled.held, hpolled.estimatorVersion, hpolled.identity⟩

theorem nativeExact_iff : P.NativeExact start row o ↔ P.KeepsBaseline row o := by
  rcases poll_counts h ho with ⟨hnot, -⟩ | ⟨happlied, hpolled⟩
  · exact ⟨fun _ happlied => absurd happlied hnot, fun _ happlied => absurd happlied hnot⟩
  constructor
  · intro hexact _
    obtain ⟨hused, hbaseline⟩ := hexact happlied
    by_cases hm : P.MovesAnchor row o
    · exact .inl hm
    · unfold nativeBaseline at hbaseline
      rw [hused, hpolled.held hm, bind_some] at hbaseline
      obtain ⟨-, -, hstart⟩ := Range.checked_eq_some.mp hbaseline
      exact .inr (by omega)
  · intro hkeeps _
    exact ⟨hpolled.nativeUsed, (hpolled.counts h (hkeeps happlied)).baseline⟩

theorem nativeExact_step (hexact : P.NativeExact start row o) :
    P.Counts limit start (P.poll row o) := by
  rcases poll_counts h ho with ⟨-, hsame⟩ | ⟨happlied, hpolled⟩
  · rwa [hsame]
  · exact hpolled.counts h ((nativeExact_iff h ho).mp hexact happlied)

end

/-- For either provider, from the observation with which its window begins: the
native usage stays exact if and only if every poll moves the anchor or finds the
native total where it was. -/
theorem native_usage_exact_iff {first : Observation} {row : Row} {limit : Int}
    {observations : List Observation}
    (hopens : P.Opens first row) (hquota : first.usedFractionUnits = none)
    (hlimit : P.publishedLimit first.identity = some limit)
    (hfits : Range.i64.checked first.cumulativeNative = some first.cumulativeNative)
    (hpath : Along P.poll P.OnNativePath row observations) :
    Along P.poll (P.NativeExact first.cumulativeNative) row observations ↔
      Along P.poll P.KeepsBaseline row observations :=
  along_iff_along (I := P.Counts limit first.cumulativeNative)
    (fun _ _ h ho => nativeExact_iff h ho) (fun _ _ h ho hexact => nativeExact_step h ho hexact)
    (hopens.counts hquota hlimit hfits) hpath

def ledgerPoll (plan : String) (windowDurationSecs observedAt api native : Int) :
    Observation where
  identity := ⟨"account", plan, windowDurationSecs⟩
  resetAt := some 20000
  observedAt := observedAt
  nativeUsedUnits := none
  nativeLimitUnits := none
  nativeRemainingUnits := none
  usedFractionUnits := none
  measurementResolutionFractionUnits := none
  cumulativeApi := api
  cumulativeNative := native
  observationSource := "poll"
  sourceRequestId := none

def firstRow (plan : String) (windowDurationSecs limit resolution : Int) : Row where
  identity := ⟨"account", plan, windowDurationSecs⟩
  resetAt := some 20000
  anchorUsedFractionUnits := some 0
  anchorResolutionFractionUnits := some resolution
  anchorSpendApi := 0
  anchorSpendNative := 0
  usedFractionUnits := some 0
  measurementResolutionFractionUnits := some resolution
  observedAt := 1000
  nativeLimit := some limit
  nativeUsed := some 0
  observedFractionUnits := 0
  observedSpendApi := 0
  observedSpendNative := 0
  samples := 0
  unattributedFractionUnits := 0
  currentCapacity := none
  currentLow := none
  currentHigh := none
  currentConfidenceBp := 0
  lastMeasuredAt := none
  estimatorVersion := 1
  version := 0
  updatedTs := 1000

def glmRow : Row := firstRow "Pro" 18000 12000000000 1

def sunoRow : Row := firstRow "Pro" 2592000 2500000 40

/-- Two intervals are completed one after the other. -/
theorem completed_intervals_exact :
    Along (poll Glm.estimator) (NativeExact Glm.estimator 0) glmRow
      [ledgerPoll "Pro" 18000 1060 500 1200000, ledgerPoll "Pro" 18000 1120 900 2400000] := by
  have hopens : Opens Glm.estimator (ledgerPoll "Pro" 18000 1000 0 0) glmRow :=
    ⟨none, by decide +kernel, fun old h => absurd h (Option.not_mem_none old)⟩
  have hlimit : publishedLimit Glm.estimator (ledgerPoll "Pro" 18000 1000 0 0).identity =
      some 12000000000 := by decide +kernel
  exact (native_usage_exact_iff hopens rfl hlimit (by decide +kernel)
    (by decide +kernel)).mpr (by decide +kernel)

def pollsOnce (plan : String) (windowDurationSecs api native : Int) : List Observation :=
  [ledgerPoll plan windowDurationSecs 1060 api native,
    ledgerPoll plan windowDurationSecs 1120 api native]

/-- A hundred microcredits are less than one unit of the fraction, so the anchor
stays; seen twice they are counted twice. With Suno a movement of the credits
alone is held, and counted twice. -/
theorem held_anchor_drifts :
    (Glm.estimator.applyObservation none (ledgerPoll "Pro" 18000 1000 0 0) = .ok glmRow ∧
      Along Glm.estimator.poll Glm.estimator.OnNativePath glmRow (pollsOnce "Pro" 18000 500 100) ∧
      (run Glm.estimator.poll glmRow (pollsOnce "Pro" 18000 500 100)).nativeUsed = some 200 ∧
      ¬ Along Glm.estimator.poll (Glm.estimator.NativeExact 0) glmRow
        (pollsOnce "Pro" 18000 500 100)) ∧
    Suno.estimator.applyObservation none (ledgerPoll "Pro" 2592000 1000 0 0) = .ok sunoRow ∧
    Along Suno.estimator.poll Suno.estimator.OnNativePath sunoRow
      (pollsOnce "Pro" 2592000 0 1000) ∧
    (run Suno.estimator.poll sunoRow (pollsOnce "Pro" 2592000 0 1000)).nativeUsed = some 2000 ∧
    ¬ Along Suno.estimator.poll (Suno.estimator.NativeExact 0) sunoRow
      (pollsOnce "Pro" 2592000 0 1000) := by
  decide +kernel

end ApiToken.Calibration.DualLedger
