import ApiToken.Calibration.Replay
import ApiToken.Gemini.Data
import ApiToken.Lib.StableSort

/-!
# Delivering calibration turns

From a turn that ended to the stored rows: the FIFO of turns and the writer's
commands of `forward/src/billing.rs`, and the calibration tables of
`registry/src/pg.rs`. The Anthropic and the Gemini half are the same code, up
to the tables they use and the test for a duplicate snapshot: `Provider`.
The database answers, and nobody else writes the tables; a turn is several
transactions, so an error leaves what was committed before it.
-/

namespace ApiToken.Calibration

open Gemini (ProviderTurnCalibrationEvent validateProviderTurnCalibrationEvent)

variable {κ ι ω : Type}

/-- `AnthropicQuotaSnapshot`, `GeminiQuotaSnapshot`: `window` is what names
the quota window. -/
structure Snapshot (ω : Type) where
  window : ω
  resetsAt : Int
  usedFractionUnits : Int
  measurementResolutionFractionUnits : Int
  observedAt : Int
deriving DecidableEq

structure Provider (κ ι ω : Type) where
  estimator : Estimator κ Source Unit
  /-- The provider's name in the common event table. -/
  provider : String
  invalidCommand : String
  /-- The identity of a window, of a subject under a plan. -/
  identify : String → String → ω → κ
  subject : κ → String
  /-- The primary key of the table of rows. -/
  key : κ → ι
  validateRow : Row κ Unit → Except Failure Unit
  validateObservation : Observation κ Source → Except Failure Unit
  mismatch : String
  staleOrDuplicate : Row κ Unit → Observation κ Source → Bool
  applyWithHistory : Option (Row κ Unit) → List (Observation κ Source) →
    Observation κ Source → Except Failure (Row κ Unit)

/-- The tables, as far as one provider uses them. -/
structure Db (κ ι : Type) where
  /-- `provider_turn_calibration_events`. -/
  events : List ProviderTurnCalibrationEvent
  /-- `provider_calibration_subject_spend`. -/
  spend : String → Option Int
  rows : ι → Option (Row κ Unit)
  observations : List (Observation κ Source)

def Db.empty : Db κ ι := ⟨[], fun _ => none, fun _ => none, []⟩

/-- Why a command fails. -/
inductive Fault
  | failed (e : Failure)
  /-- `ProviderTurnCalibrationReplayConflict`. -/
  | replayConflict
  /-- The loop around a lost compare-and-set did not end. -/
  | spinning

namespace Provider

variable (P : Provider κ ι ω)

/-! ## Spends -/

/-- `record_provider_turn_calibration_event`: the cumulative spend of the
event's subject. -/
def recordEvent (db : Db κ ι) (event : ProviderTurnCalibrationEvent) :
    Except Fault (Db κ ι × Int) :=
  match validateProviderTurnCalibrationEvent event with
  | .error _ => .error (.failed (.refused "invalid provider turn calibration event"))
  | .ok () =>
    match db.events.find? (fun e => e.requestId == event.requestId) with
    | none => do
        let spent ← orFail
          (Range.i64.checked ((db.spend event.subjectId).getD 0 + event.apiTotalNanousd))
          (.failed (.overflow "bigint out of range"))
        .ok ({ db with
          events := db.events ++ [event]
          spend := fun subject =>
            if subject = event.subjectId then some spent else db.spend subject }, spent)
    | some stored =>
      if stored = event then do
        let spent ← orFail (db.spend event.subjectId)
          (.failed (.refused "query returned an unexpected number of rows"))
        .ok (db, spent)
      else .error .replayConflict

/-- `provider_calibration_subject_spend`. -/
def subjectSpend (db : Db κ ι) (subject : String) : Except Fault Int := do
  failIf subject.isEmpty (.failed (.refused "invalid provider calibration subject"))
  .ok ((db.spend subject).getD 0)

/-! ## Rows -/

variable [DecidableEq κ] [DecidableEq ι]

def sameObservation (a b : Observation κ Source) : Bool :=
  decide (P.key a.identity = P.key b.identity)
    && ((a.detail.sourceRequestId.isSome
        && decide (a.detail.sourceRequestId = b.detail.sourceRequestId))
      || (decide (a.resetsAt = b.resetsAt)
        && decide (a.observedAt = b.observedAt)
        && decide (a.usedFractionUnits = b.usedFractionUnits)
        && decide (a.measurementResolutionFractionUnits = b.measurementResolutionFractionUnits)
        && decide (a.gatewaySpendNano = b.gatewaySpendNano)
        && decide (a.detail.observationSource = b.detail.observationSource)))

/-- What a successful save writes. -/
def written (db : Db κ ι) (state : Row κ Unit) (version : Int)
    (o : Observation κ Source) : Db κ ι :=
  { db with
    rows := fun key =>
      if key = P.key state.identity then some (state.withVersion version) else db.rows key
    observations :=
      if db.observations.any (P.sameObservation · o) then db.observations
      else db.observations ++ [o] }

/-- `validate_anthropic_calibration_pair`,
`validate_gemini_exact_calibration_pair`. -/
def validatePair (state : Row κ Unit) (o : Observation κ Source) :
    Except Failure Unit := do
  P.validateRow state
  P.validateObservation o
  failIf
    (decide (state.identity ≠ o.identity)
      || decide (state.resetsAt ≠ o.resetsAt)
      || decide (state.usedFractionUnits ≠ o.usedFractionUnits)
      || decide (state.measurementResolutionFractionUnits ≠ o.measurementResolutionFractionUnits)
      || decide (state.observedAt ≠ o.observedAt)
      || decide (state.updatedTs ≠ o.observedAt))
    (.refused P.mismatch)

/-- `save_anthropic_calibration`, `save_gemini_exact_calibration`: the new
version, or nothing when the row is not the one the state was read from. -/
def save (db : Db κ ι) (state : Row κ Unit) (o : Observation κ Source) :
    Except Failure (Option (Db κ ι × Int)) := do
  P.validatePair state o
  match db.rows (P.key state.identity) with
  | none =>
    if state.version = 0 then .ok (some (P.written db state 1 o, 1))
    else .ok none
  | some stored =>
    if state.version ≠ 0 ∧ stored.version = state.version then do
      let version ← narrow (stored.version + 1) "bigint out of range"
      .ok (some (P.written db state version o, version))
    else .ok none

/-- `load_anthropic_calibration`, `load_gemini_exact_calibration`. -/
def load (db : Db κ ι) (identity : κ) : Except Failure (Option (Row κ Unit)) :=
  match db.rows (P.key identity) with
  | none => .ok none
  | some row => do
      P.validateRow row
      .ok (some row)

/-- `load_anthropic_window_observations`,
`load_gemini_exact_window_observations`. -/
def loadObservations (db : Db κ ι) (identity : κ) :
    Except Failure (List (Observation κ Source)) := do
  let rows := sortByKey (fun o => o.observedAt.toNat)
    (db.observations.filter (fun o => decide (P.key o.identity = P.key identity)))
  rows.forM P.validateObservation
  .ok rows

def historyFor (db : Db κ ι) (identity : κ) (existing : Option (Row κ Unit)) :
    Except Failure (List (Observation κ Source)) :=
  if P.estimator.currentOrNone existing then .ok []
  else P.loadObservations db identity

/-- One round of `observe_anthropic_postgres` and `observe_gemini_postgres`:
nothing when the save lost. -/
def observeOnce (db : Db κ ι) (o : Observation κ Source) :
    Except Failure (Option (Db κ ι × Row κ Unit)) := do
  let existing ← P.load db o.identity
  match existing.filter (fun row =>
      decide (row.estimatorVersion = P.estimator.version) && P.staleOrDuplicate row o) with
  | some row => .ok (some (db, row))
  | none => do
      let history ← P.historyFor db o.identity existing
      let state ← P.applyWithHistory existing history o
      let saved ← P.save db state o
      .ok (saved.map (fun (db', version) => (db', state.withVersion version)))

/-- Its loop, for a number of rounds. -/
def observe (db : Db κ ι) (o : Observation κ Source) :
    Nat → Except Fault (Db κ ι × Row κ Unit)
  | 0 => .error .spinning
  | rounds + 1 =>
    match P.observeOnce db o with
    | .error e => .error (.failed e)
    | .ok (some done) => .ok done
    | .ok none => observe db o rounds

/-! ## Turns -/

/-- `anthropic_observation`, `gemini_observation`. -/
def observation (subject plan : String) (spend : Int) (source : Source)
    (snapshot : Snapshot ω) : Observation κ Source where
  identity := P.identify subject plan snapshot.window
  resetsAt := snapshot.resetsAt
  observedAt := snapshot.observedAt
  usedFractionUnits := snapshot.usedFractionUnits
  measurementResolutionFractionUnits := snapshot.measurementResolutionFractionUnits
  gatewaySpendNano := spend
  detail := source

/-- `PendingAnthropicCalibrationTurn`, `PendingGeminiCalibrationTurn`. -/
structure Turn (ω : Type) where
  deliveryId : Nat
  event : ProviderTurnCalibrationEvent
  plan : String
  snapshots : List (Snapshot ω)
deriving DecidableEq

/-- The snapshots of a turn, one after the other. -/
def observeAll (rounds : Nat) (db : Db κ ι) :
    List (Observation κ Source) → Db κ ι × Except Fault (List (Row κ Unit))
  | [] => (db, .ok [])
  | o :: rest =>
    match P.observe db o rounds with
    | .error e => (db, .error e)
    | .ok (db', row) =>
      let (db'', states) := observeAll rounds db' rest
      (db'', states.map (row :: ·))

def Turn.observations (turn : Turn ω) (spend : Int) : List (Observation κ Source) :=
  turn.snapshots.map (P.observation turn.event.subjectId turn.plan spend
    ⟨"response", some turn.event.requestId⟩)

/-- `persist_anthropic_turn_postgres`, `persist_gemini_turn_postgres`. -/
def persist (rounds : Nat) (db : Db κ ι) (turn : Turn ω) :
    Db κ ι × Except Fault (Int × List (Row κ Unit)) :=
  if turn.event.provider ≠ P.provider ∨ turn.plan.isEmpty then
    (db, .error (.failed (.refused P.invalidCommand)))
  else
    match recordEvent db turn.event with
    | .error e => (db, .error e)
    | .ok (db', spend) =>
      let (db'', states) := P.observeAll rounds db' (Turn.observations P turn spend)
      (db'', states.map (fun states => (spend, states)))

/-! ## The queue -/

/-- `AnthropicCalibrationDeliveryState`, `GeminiCalibrationDeliveryState`. -/
structure Delivery (ω : Type) where
  nextDeliveryId : Nat
  pending : List (Turn ω)
  droppedEvents : Nat
  persistenceOk : Bool

def maxPending : Nat := 4096

/-- `enqueue_anthropic_calibration_turn`, `enqueue_gemini_calibration_turn`;
delivery ids are `u64` and never zero. -/
def enqueue (d : Delivery ω) (event : ProviderTurnCalibrationEvent) (plan : String)
    (snapshots : List (Snapshot ω)) : Delivery ω :=
  if maxPending ≤ d.pending.length then
    { d with droppedEvents := d.droppedEvents + 1, persistenceOk := false }
  else
    let id := max ((d.nextDeliveryId + 1) % 18446744073709551616) 1
    { d with nextDeliveryId := id, pending := d.pending ++ [⟨id, event, plan, snapshots⟩] }

structure Flushed (κ ι ω : Type) where
  db : Db κ ι
  delivery : Delivery ω
  targetResult : Option (Int × List (Row κ Unit))
  targetConflict : Bool
  blocked : Option Fault

/-- The loop of `flush_pending_anthropic_calibration_turns` and
`flush_pending_gemini_calibration_turns`, over the turns in the queue. -/
def flushLoop (rounds : Nat) (target : Option Nat) (s : Flushed κ ι ω) :
    List (Turn ω) → Flushed κ ι ω
  | [] => { s with delivery := { s.delivery with pending := [] } }
  | front :: rest =>
    match P.persist rounds s.db front with
    | (db, .ok value) =>
      flushLoop rounds target
        { s with
          db := db
          targetResult :=
            if target = some front.deliveryId then some value else s.targetResult } rest
    | (db, .error .replayConflict) =>
      flushLoop rounds target
        { s with
          db := db
          delivery := { s.delivery with
            droppedEvents := s.delivery.droppedEvents + 1
            persistenceOk := false }
          targetConflict := s.targetConflict || decide (target = some front.deliveryId) } rest
    | (db, .error e) =>
      { s with
        db := db
        delivery := { s.delivery with
          pending := front :: rest
          persistenceOk := false }
        blocked := some e }

/-- The whole of it: once the queue is empty persistence is fine again, unless
turns were dropped. -/
def flush (rounds : Nat) (target : Option Nat) (db : Db κ ι) (d : Delivery ω) :
    Flushed κ ι ω :=
  let s := P.flushLoop rounds target ⟨db, d, none, false, none⟩ d.pending
  if s.blocked.isNone ∧ s.delivery.droppedEvents = 0 then
    { s with delivery := { s.delivery with persistenceOk := true } }
  else s

/-! ## The writer -/

structure World (κ ι ω : Type) where
  db : Db κ ι
  delivery : Delivery ω

def World.start : World κ ι ω := ⟨.empty, ⟨0, [], 0, true⟩⟩

/-- What happens to the queue: a turn ends, the writer takes one of its
commands up. -/
inductive Op (ω : Type)
  | enqueue (event : ProviderTurnCalibrationEvent) (plan : String)
      (snapshots : List (Snapshot ω))
  /-- `WriteCmd::AnthropicRecordTurn`, `WriteCmd::GeminiRecordTurn`. -/
  | recordTurn (target : Option Nat)
  /-- `WriteCmd::AnthropicObserveWindow`, `WriteCmd::GeminiObserveWindow`. -/
  | observeWindow (subject plan : String) (snapshot : Snapshot ω)

/-- What a command of the writer ends in. -/
inductive Reply (κ : Type)
  | queued
  | recorded (result : Option (Int × List (Row κ Unit)))
  | observed (spend : Int) (state : Row κ Unit)
  /-- The turn asked for is in conflict with a recorded one. -/
  | conflict
  | failed (e : Fault)

def pollWindow (rounds : Nat) (db : Db κ ι) (subject plan : String)
    (snapshot : Snapshot ω) : Except Fault (Db κ ι × Int × Row κ Unit) := do
  let spend ← subjectSpend db subject
  let (db', state) ←
    P.observe db (P.observation subject plan spend ⟨"poll", none⟩ snapshot) rounds
  .ok (db', spend, state)

def step (rounds : Nat) (w : World κ ι ω) : Op ω → World κ ι ω × Reply κ
  | .enqueue event plan snapshots =>
    ({ w with delivery := enqueue w.delivery event plan snapshots }, .queued)
  | .recordTurn target =>
    let s := P.flush rounds target w.db w.delivery
    (⟨s.db, s.delivery⟩,
      match s.blocked with
      | some e => .failed e
      | none => if s.targetConflict then .conflict else .recorded s.targetResult)
  | .observeWindow subject plan snapshot =>
    let s := P.flush rounds none w.db w.delivery
    match s.blocked with
    | some e => (⟨s.db, s.delivery⟩, .failed e)
    | none =>
      match P.pollWindow rounds s.db subject plan snapshot with
      | .error e => (⟨s.db, s.delivery⟩, .failed e)
      | .ok (db, spend, state) => (⟨db, s.delivery⟩, .observed spend state)

end Provider

/-! ## The two providers -/

namespace Anthropic

structure Window where
  windowKind : String
  windowDurationMins : Int
deriving DecidableEq

def staleOrDuplicate (row : Row Identity Unit) (o : Observation Identity Source) : Bool :=
  decide (o.observedAt < row.observedAt)
    || (decide (o.observedAt = row.observedAt)
      && decide (o.resetsAt = row.resetsAt)
      && decide (o.usedFractionUnits = row.usedFractionUnits)
      && decide (o.measurementResolutionFractionUnits = row.measurementResolutionFractionUnits))

def provider : Provider Identity (String × String × String) Window where
  estimator := estimator
  provider := "anthropic"
  invalidCommand := "invalid Anthropic turn calibration command"
  identify := fun subject plan w => ⟨subject, plan, w.windowKind, w.windowDurationMins⟩
  subject := (·.subjectId)
  key := fun i => (i.subjectId, i.plan, i.windowKind)
  validateRow := validateAnthropicCalibrationRow
  validateObservation := validateObservation
  mismatch := "Anthropic calibration state/observation mismatch"
  staleOrDuplicate := staleOrDuplicate
  applyWithHistory := applyObservationWithHistory

end Anthropic

namespace ExactGemini

structure Window where
  bucketId : String
  windowKind : String
  windowDurationMins : Int

def staleOrDuplicate (row : Row Identity Unit) (o : Observation Identity Source) : Bool :=
  decide (o.observedAt < row.observedAt)
    || (decide (o.observedAt = row.observedAt)
      && decide (o.resetsAt = row.resetsAt)
      && decide (o.usedFractionUnits = row.usedFractionUnits)
      && decide (o.measurementResolutionFractionUnits = row.measurementResolutionFractionUnits)
      && !(decide (row.anchorUsedFractionUnits < row.usedFractionUnits)
        && decide (row.anchorSpendNano < o.gatewaySpendNano)))

def validateGeminiExactWindowObservation (o : Observation Identity Source) :
    Except Failure Unit :=
  failIf (!o.identity.valid || invalidReading o || !o.detail.valid)
    (.refused "invalid exact Gemini calibration observation")

def provider : Provider Identity (String × String × String) Window where
  estimator := estimator
  provider := "google"
  invalidCommand := "invalid Gemini turn calibration command"
  identify := fun profile plan w =>
    ⟨profile, plan, w.bucketId, w.windowKind, w.windowDurationMins⟩
  subject := (·.profileId)
  key := fun i => (i.profileId, i.plan, i.bucketId)
  validateRow := validateGeminiExactCalibrationRow
  validateObservation := validateGeminiExactWindowObservation
  mismatch := "exact Gemini calibration state/observation mismatch"
  staleOrDuplicate := staleOrDuplicate
  applyWithHistory := applyObservationWithHistory

end ExactGemini

end ApiToken.Calibration
