import ApiToken.Calibration.Delivery
import ApiToken.Calibration.Fits

/-!
# When the calibration queue moves on

A row's reset only moves forward while its window goes on, and a save demands
that the reset of the row is that of the observation: an observation whose
reset lies behind the stored one is never saved. Where no pending observation
is like that, and what each closes fits `bigint`, every command of the writer
empties the queue; a turn that contradicts a recorded one is dropped.
-/

namespace ApiToken.Calibration

open Gemini (ProviderTurnCalibrationEvent validateProviderTurnCalibrationEvent)

variable {κ ι ω : Type}

/-! ## One observation -/

/-- What the observation closes fits the columns. -/
structure Closes (row : Row κ Unit) (o : Observation κ Source) : Prop where
  given : row.anchorUsedFractionUnits < o.usedFractionUnits →
    o.gatewaySpendNano = row.anchorSpendNano → row.usedFractionUnits = o.usedFractionUnits →
    row.observedAt < o.observedAt →
    row.unattributedFractionUnits +
      (o.usedFractionUnits - row.anchorUsedFractionUnits) ≤ Range.i64.hi
  measured : row.anchorUsedFractionUnits < o.usedFractionUnits →
    row.anchorSpendNano < o.gatewaySpendNano →
    IntervalFits row o (o.usedFractionUnits - row.anchorUsedFractionUnits)
      (o.gatewaySpendNano - row.anchorSpendNano)

instance Closes.decidable (row : Row κ Unit) (o : Observation κ Source) :
    Decidable (Closes row o) :=
  decidable_of_iff (_ ∧ _) ⟨fun h => ⟨h.1, h.2⟩, fun h => ⟨h.given, h.measured⟩⟩

/-- The reset has not moved back, and what the observation closes fits. -/
structure Saves (E : Estimator κ Source Unit) (row : Row κ Unit)
    (o : Observation κ Source) : Prop where
  forward : row.resetsAt ≤ o.resetsAt
  version : row.version + 1 ≤ Range.i64.hi
  closes : ¬ E.BeginsWindow row o → Closes row o

instance Saves.decidable (E : Estimator κ Source Unit) (row : Row κ Unit)
    (o : Observation κ Source) : Decidable (Saves E row o) :=
  decidable_of_iff (_ ∧ _ ∧ _)
    ⟨fun h => ⟨h.1, h.2.1, h.2.2⟩, fun h => ⟨h.forward, h.version, h.closes⟩⟩

namespace Provider

variable (P : Provider κ ι ω)

def Admits (existing : Option (Row κ Unit)) (o : Observation κ Source) : Prop :=
  ∀ row ∈ existing, P.staleOrDuplicate row o = true ∨ Saves P.estimator row o

instance Admits.decidable (existing : Option (Row κ Unit)) (o : Observation κ Source) :
    Decidable (P.Admits existing o) :=
  inferInstanceAs (Decidable (∀ row ∈ existing, _))

/-- What a provider's half has to satisfy. -/
structure Lawful [DecidableEq κ] (D : κ → Unit → Prop) : Prop where
  estimator : P.estimator.Lawful D
  fits : ∀ {row : Row κ Unit} {o : Observation κ Source} {deltaUsed deltaSpend : Int},
    row.Sound → o.Reads → 0 < deltaUsed → deltaUsed ≤ fractionScale → 0 < deltaSpend →
    deltaSpend ≤ Range.i64.hi → IntervalFits row o deltaUsed deltaSpend →
    ∃ row', P.estimator.measure row o deltaUsed deltaSpend = .ok row'
  applies : ∀ {existing : Option (Row κ Unit)} {history : List (Observation κ Source)}
    {o : Observation κ Source}, P.estimator.currentOrNone existing = true →
    P.applyWithHistory existing history o = P.estimator.applyObservation existing o
  accepts : ∀ {row : Row κ Unit}, P.estimator.Stored D row → P.validateRow row = .ok ()
  observes : ∀ {o : Observation κ Source},
    P.estimator.validateObservation o = .ok () → P.validateObservation o = .ok ()
  identifies : ∀ {row : Row κ Unit} {o : Observation κ Source},
    P.estimator.Stored D row → P.estimator.validateObservation o = .ok () →
    P.key row.identity = P.key o.identity → o.identity = row.identity
  subject : ∀ subject plan window, P.subject (P.identify subject plan window) = subject
  fresh : ∀ {row : Row κ Unit} {o : Observation κ Source},
    P.staleOrDuplicate row o = false → row.observedAt ≤ o.observedAt
  spends : ∀ {o : Observation κ Source} {spend : Int},
    P.estimator.validateObservation o = .ok () → 0 ≤ spend →
    P.estimator.validateObservation { o with gatewaySpendNano := spend } = .ok ()

/-- The stored rows are the estimator's, under their keys; no row has seen
more spend than its subject has. -/
structure DbOk (D : κ → Unit → Prop) (db : Db κ ι) : Prop where
  rows : ∀ key row, db.rows key = some row →
    P.estimator.Stored D row ∧ P.key row.identity = key ∧ 0 < row.version ∧
      row.anchorSpendNano ≤ (db.spend (P.subject row.identity)).getD 0
  spend : ∀ subject, 0 ≤ (db.spend subject).getD 0 ∧
    (db.spend subject).getD 0 ≤ Range.i64.hi
  events : ∀ e ∈ db.events, (db.spend e.subjectId).isSome = true

variable {P} {D : κ → Unit → Prop}

theorem dbOk_empty : P.DbOk D Db.empty where
  rows := fun _ _ h => by cases h
  spend := fun _ => ⟨Int.le_refl 0, Range.i64.pos⟩
  events := fun _ h => by cases h

variable {o : Observation κ Source} {db : Db κ ι}

/-- A state that is no older than the observation has the observation's
fields, unless the reset moved back. -/
theorem paired_of_step {E : Estimator κ Source Unit} {row row' : Row κ Unit}
    (h : E.Step row o row') (hid : o.identity = row.identity)
    (hfresh : row.observedAt ≤ o.observedAt) (hforward : row.resetsAt ≤ o.resetsAt) :
    row'.identity = o.identity ∧ row'.resetsAt = o.resetsAt ∧
      row'.usedFractionUnits = o.usedFractionUnits ∧
      row'.measurementResolutionFractionUnits = o.measurementResolutionFractionUnits ∧
      row'.observedAt = o.observedAt ∧ row'.updatedTs = o.observedAt := by
  have hmax : max row.resetsAt o.resetsAt = o.resetsAt := Int.max_eq_right hforward
  cases h with
  | stale => omega
  | began => exact ⟨hid.symm, rfl, rfl, rfl, rfl, rfl⟩
  | farBehind _ _ hf =>
    have : 1 ≤ E.resetBoundary row := Int.le_max_right _ _
    unfold Estimator.FarBehind at hf
    omega
  | seen h hb hf | unattributed h hb hf hu hs => exact ⟨hid.symm, hmax, rfl, rfl, rfl, rfl⟩
  | measured _ _ _ _ _ hm =>
    obtain ⟨_, _, _, _, rfl⟩ := hm
    exact ⟨hid.symm, hmax, rfl, rfl, rfl, rfl⟩

section Observed

variable [DecidableEq κ]

theorem observe_admitted (L : P.Lawful D) {row : Row κ Unit} (hrow : P.estimator.Stored D row)
    (hid : o.identity = row.identity) (hv : P.estimator.validateObservation o = .ok ())
    (hfresh : row.observedAt ≤ o.observedAt) (hspend : row.anchorSpendNano ≤ o.gatewaySpendNano)
    (hhi : o.gatewaySpendNano ≤ Range.i64.hi) (hsaves : Saves P.estimator row o) :
    ∃ row', P.estimator.observe row o = .ok row' := by
  have ho := L.estimator.reads hv
  have hcurrent := Estimator.sound_current (E := P.estimator) hrow.sound ho
  have hanchor := hrow.sound.anchorSpend
  have hused := hrow.sound.anchorUsed
  have houses := ho.used
  have hweigh : ¬ P.estimator.BeginsWindow row o →
      ∃ row', P.estimator.weigh row o = .ok row' := by
    intro hb
    have hcloses := hsaves.closes hb
    unfold Estimator.weigh
    simp only []
    split
    · exact ⟨_, rfl⟩
    · rename_i hmoved
      rw [not_or] at hmoved
      split
      · split
        · rename_i hzero hagain
          have hgiven := hcloses.given (by omega) (by omega) hagain.1 hagain.2
          have hnonneg := hrow.sound.unattributed
          rw [narrow_ok (by omega) hgiven]
          exact ⟨_, rfl⟩
        · exact ⟨_, rfl⟩
      · have hfits := hcloses.measured (by omega) (by omega)
        exact L.fits hcurrent ho (by omega) (by omega) (by omega) (by omega)
          ⟨hfits.sample, hfits.fraction, hfits.spend, hfits.samples, hfits.capacity⟩
  have hnot : ¬ (P.estimator.regression = .refused ∧
      o.gatewaySpendNano < row.anchorSpendNano) := fun h => by omega
  have hstale : ¬ o.observedAt < row.observedAt := by omega
  have hguards : P.estimator.observe row o =
      if P.estimator.BeginsWindow row o then .ok (P.estimator.beginWindow row o)
      else if P.estimator.FarBehind row o then .ok row
      else P.estimator.weigh row o := by
    unfold Estimator.observe
    rw [hv]
    simp [hid, hrow.current, hnot, hstale, failIf, bind, Except.bind]
  rw [hguards]
  split
  · exact ⟨_, rfl⟩
  · rename_i hb
    split
    · exact ⟨_, rfl⟩
    · exact hweigh hb

theorem validatePair_ok (L : P.Lawful D) {state : Row κ Unit}
    (hstate : P.estimator.Stored D state) (hv : P.estimator.validateObservation o = .ok ())
    (hpaired : state.identity = o.identity ∧ state.resetsAt = o.resetsAt ∧
      state.usedFractionUnits = o.usedFractionUnits ∧
      state.measurementResolutionFractionUnits = o.measurementResolutionFractionUnits ∧
      state.observedAt = o.observedAt ∧ state.updatedTs = o.observedAt) :
    P.validatePair state o = .ok () := by
  obtain ⟨h1, h2, h3, h4, h5, h6⟩ := hpaired
  simp [validatePair, L.accepts hstate, L.observes hv, h1, h2, h3, h4, h5, h6]

theorem load_stored (L : P.Lawful D) (hdb : P.DbOk D db) (identity : κ) :
    P.load db identity = .ok (db.rows (P.key identity)) := by
  unfold load
  cases hrows : db.rows (P.key identity) with
  | none => rfl
  | some row =>
    simp only [L.accepts (hdb.rows _ row hrows).1]
    rfl

end Observed

variable [DecidableEq ι]

theorem dbOk_written (hdb : P.DbOk D db) {state : Row κ Unit} {version : Int}
    (o : Observation κ Source) (hstate : P.estimator.Stored D state) (hversion : 0 < version)
    (hspend : state.anchorSpendNano ≤ (db.spend (P.subject state.identity)).getD 0) :
    P.DbOk D (P.written db state version o) where
  rows := fun key row h => by
    simp only [written] at h
    split at h
    · rename_i hkey
      cases h
      exact ⟨⟨⟨hstate.sound.resetsAt, hstate.sound.anchorUsed, hstate.sound.anchorResolution,
        hstate.sound.anchorSpend, hstate.sound.used, hstate.sound.resolution,
        hstate.sound.observedAt, hstate.sound.updatedTs, hstate.sound.unattributed,
        hstate.sound.evidence, hstate.sound.narrow⟩, hstate.described, hstate.current,
        Int.le_of_lt hversion⟩, hkey.symm, hversion, hspend⟩
    · exact hdb.rows key row h
  spend := hdb.spend
  events := hdb.events

variable [DecidableEq κ]

theorem observeOnce_ok (L : P.Lawful D) (hdb : P.DbOk D db)
    (hv : P.estimator.validateObservation o = .ok ())
    (hspend : o.gatewaySpendNano = (db.spend (P.subject o.identity)).getD 0)
    (hadmits : P.Admits (db.rows (P.key o.identity)) o) :
    ∃ db' row, P.observeOnce db o = .ok (some (db', row)) ∧ P.DbOk D db' ∧
      db'.spend = db.spend ∧ db'.events = db.events := by
  unfold observeOnce
  rw [load_stored L hdb]
  cases hrows : db.rows (P.key o.identity) with
  | none =>
    have hanchored : P.applyWithHistory none [] o = .ok (P.estimator.anchorRow o) := by
      rw [L.applies rfl, (applies_applyObservation L.estimator).first, Estimator.anchor_eq_ok]
      exact ⟨hv, rfl⟩
    have hstored := Estimator.stored_anchorRow L.estimator hv
    have hpair := validatePair_ok L hstored hv ⟨rfl, rfl, rfl, rfl, rfl, rfl⟩
    have hkey : db.rows (P.key (P.estimator.anchorRow o).identity) = none := hrows
    refine ⟨P.written db (P.estimator.anchorRow o) 1 o,
      (P.estimator.anchorRow o).withVersion 1, ?_,
      dbOk_written hdb o hstored (by decide) (Int.le_of_eq hspend), rfl, rfl⟩
    simp only [bind, Except.bind, Option.filter_none, historyFor, Estimator.currentOrNone,
      Option.all_none, if_true, hanchored, save, hpair, hkey]
    rfl
  | some row =>
    obtain ⟨hrow, hkey, hversion, hanchor⟩ := hdb.rows _ row hrows
    have hid := L.identifies hrow hv hkey
    rw [hrows] at hadmits
    by_cases hstale : P.staleOrDuplicate row o = true
    · refine ⟨db, row, ?_, hdb, rfl, rfl⟩
      simp [bind, Except.bind, Option.filter, hrow.current, hstale]
    · have hsaves := (hadmits row rfl).resolve_left hstale
      rw [Bool.not_eq_true] at hstale
      have hfresh := L.fresh hstale
      rw [← hid, ← hspend] at hanchor
      have hhi := (hdb.spend (P.subject o.identity)).2
      rw [← hspend] at hhi
      obtain ⟨row', hobserved⟩ := observe_admitted L hrow hid hv hfresh hanchor hhi hsaves
      have hstep := Estimator.observe_step L.estimator hrow hobserved
      have hstored := hstep.stored L.estimator hrow hid hv
      have hpaired := paired_of_step hstep hid hfresh hsaves.forward
      have hpair := validatePair_ok L hstored hv hpaired
      have happlied : P.applyWithHistory (some row) [] o = .ok row' := by
        rw [L.applies (by simp [Estimator.currentOrNone, hrow.current]),
          (applies_applyObservation L.estimator).next hrow (.inr hfresh), hobserved]
      have hrows' : db.rows (P.key row'.identity) = some row := by rw [hpaired.1, hrows]
      have hsame : row'.version = row.version := hstep.frame.2.2.1
      have hspend' : row'.anchorSpendNano ≤
          (db.spend (P.subject row'.identity)).getD 0 := by
        rw [hpaired.1, ← hspend]
        rcases hstep.anchored with h | h
        · rw [h]
          exact hanchor
        · exact Int.le_of_eq h
      refine ⟨P.written db row' (row.version + 1) o, row'.withVersion (row.version + 1), ?_,
        dbOk_written hdb o hstored (by omega) hspend', rfl, rfl⟩
      have hzero : row.version ≠ 0 := by omega
      have hnext : narrow (row.version + 1) "bigint out of range" = .ok (row.version + 1) :=
        narrow_ok (by omega) hsaves.version _
      simp [bind, Except.bind, Option.filter, hrow.current, hstale, historyFor,
        Estimator.currentOrNone, happlied, save, hpair, hrows', hsame, hzero, hnext]

theorem observe_ok (L : P.Lawful D) (hdb : P.DbOk D db)
    (hv : P.estimator.validateObservation o = .ok ())
    (hspend : o.gatewaySpendNano = (db.spend (P.subject o.identity)).getD 0)
    (hadmits : P.Admits (db.rows (P.key o.identity)) o) {rounds : Nat} (hrounds : 0 < rounds) :
    ∃ db' row, P.observe db o rounds = .ok (db', row) ∧ P.DbOk D db' ∧ db'.spend = db.spend := by
  obtain ⟨db', row, hone, hdb', hsame, -⟩ := observeOnce_ok L hdb hv hspend hadmits
  cases rounds with
  | zero => exact absurd hrounds (Nat.lt_irrefl 0)
  | succ =>
    rw [observe, hone]
    exact ⟨db', row, rfl, hdb', hsame⟩

end Provider

end ApiToken.Calibration
