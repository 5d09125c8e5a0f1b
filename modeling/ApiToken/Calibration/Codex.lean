import ApiToken.Calibration.Estimate
import ApiToken.Calibration.Providers

/-!
# The Codex estimator

`WindowCalibration` of `forward/src/codex/calibration.rs`: one estimator for
two ledgers, API money and native credits, over one quota movement. It starts
with the first ledger only; the first observation that carries credits is a
cutover, from which both run. The resolution of a snapshot is that of its
decimal digits, and the reset of a window that goes on is not touched.
-/

namespace ApiToken.Calibration.Codex

def percentScale : Int := 1000000

def estimatorVersion : Int := 10

def creditEstimatorVersion : Int := 1

/-- `CodexWindowObservation`. -/
structure Observation where
  homeId : String
  windowDurationMins : Int
  resetsAt : Int
  observedAt : Int
  usedPercent : Int
  usedFractionUnits : Int
  gatewaySpendNano : Int
  gatewaySpendNanocredits : Option Int

/-- `CodexCalibrationRow`. -/
structure Row where
  homeId : String
  windowDurationMins : Int
  resetsAt : Int
  anchorUsedPercent : Int
  anchorSpendNano : Int
  usedPercent : Int
  observedAt : Int
  sumUsedSq : Int
  sumUsedSpendNano : Int
  observedPoints : Int
  samples : Int
  currentCapacityNano : Option Int
  currentLowNano : Option Int
  currentHighNano : Option Int
  currentConfidenceBp : Int
  lastCapacityNano : Option Int
  lastLowNano : Option Int
  lastHighNano : Option Int
  lastConfidenceBp : Int
  lastMeasuredAt : Option Int
  anchorReady : Bool
  anchorUsedFractionUnits : Int
  usedFractionUnits : Int
  observedFractionUnits : Int
  observedSpendNano : Int
  anchorSpendNanocredits : Option Int
  observedSpendNanocredits : Option Int
  currentCapacityNanocredits : Option Int
  currentLowNanocredits : Option Int
  currentHighNanocredits : Option Int
  lastCapacityNanocredits : Option Int
  lastLowNanocredits : Option Int
  lastHighNanocredits : Option Int
  creditSamples : Option Int
  creditEstimatorVersion : Option Int
  unattributedFractionUnits : Option Int
  estimatorVersion : Int
  version : Int
  updatedTs : Int

/-! ## Resolution -/

/-- The loop of `fraction_resolution_units`: six rounds reach
`PERCENT_SCALE`. -/
def resolutionRounds : Nat → Int → Int → Int
  | 0, _, resolution => resolution
  | rounds + 1, value, resolution =>
    if resolution < percentScale ∧ value.tmod 10 = 0 then
      resolutionRounds rounds (value.tdiv 10) (resolution * 10)
    else resolution

def fractionResolutionUnits (units : Int) : Int :=
  let value := Range.i64.saturated |units|
  if value = 0 then percentScale
  else min (resolutionRounds 6 value 1) percentScale

def intervalFractionUncertainty (anchorUnits observedUnits : Int) : Int :=
  Calibration.intervalFractionUncertainty (fractionResolutionUnits anchorUnits)
    (fractionResolutionUnits observedUnits)

def roundedPercent (units : Int) : Int :=
  (Range.i64.saturated (units + percentScale.tdiv 2)).tdiv percentScale

/-! ## Validators -/

def validateObservation (o : Observation) : Except Failure Unit :=
  failIf
    (o.homeId.isEmpty
      || decide (o.windowDurationMins ≤ 0)
      || decide (o.resetsAt ≤ 0)
      || decide (o.observedAt ≤ 0)
      || !contains 0 fractionScale o.usedFractionUnits
      || decide (o.usedPercent ≠ roundedPercent o.usedFractionUnits)
      || decide (o.gatewaySpendNano < 0)
      || o.gatewaySpendNanocredits.any (fun value => decide (value < 0)))
    (.refused "invalid Codex calibration observation")

/-- The checks of `validate_row` on single columns. -/
def Row.invalidColumns (row : Row) : Bool :=
  row.homeId.isEmpty
    || decide (row.windowDurationMins ≤ 0)
    || decide (row.resetsAt ≤ 0)
    || decide (row.observedAt ≤ 0)
    || !contains 0 fractionScale row.anchorUsedFractionUnits
    || !contains 0 fractionScale row.usedFractionUnits
    || decide (row.anchorUsedPercent ≠ roundedPercent row.anchorUsedFractionUnits)
    || decide (row.usedPercent ≠ roundedPercent row.usedFractionUnits)
    || decide (row.anchorSpendNano < 0)
    || decide (row.observedFractionUnits < 0)
    || decide (row.observedSpendNano < 0)
    || decide (row.samples < 0)
    || decide (row.sumUsedSq ≠ 0)
    || decide (row.sumUsedSpendNano ≠ 0)
    || row.currentCapacityNano.any (fun value => decide (value < 0))
    || row.currentLowNano.any (fun value => decide (value < 0))
    || row.currentHighNano.any (fun value => decide (value < 0))
    || row.anchorSpendNanocredits.any (fun value => decide (value < 0))
    || row.observedSpendNanocredits.any (fun value => decide (value < 0))
    || row.currentCapacityNanocredits.any (fun value => decide (value < 0))
    || row.currentLowNanocredits.any (fun value => decide (value < 0))
    || row.currentHighNanocredits.any (fun value => decide (value < 0))
    || row.lastCapacityNanocredits.any (fun value => decide (value < 0))
    || row.lastLowNanocredits.any (fun value => decide (value < 0))
    || row.lastHighNanocredits.any (fun value => decide (value < 0))
    || row.creditSamples.any (fun value => decide (value < 0))
    || row.creditEstimatorVersion.any (fun value => decide (value ≤ 0))
    || row.unattributedFractionUnits.any (fun value => decide (value < 0))
    || !contains 0 10000 row.currentConfidenceBp
    || row.lastMeasuredAt.any (fun value => decide (value ≤ 0))
    || decide (row.estimatorVersion ≠ Codex.estimatorVersion)
    || !row.anchorReady
    || decide (row.version < 0)

def Row.invalidOrder (row : Row) : Bool :=
  above row.currentLowNano row.currentCapacityNano
    || above row.currentCapacityNano row.currentHighNano
    || above row.currentLowNano row.currentHighNano
    || above row.currentLowNanocredits row.currentCapacityNanocredits
    || above row.currentCapacityNanocredits row.currentHighNanocredits
    || above row.currentLowNanocredits row.currentHighNanocredits

/-- Its checks on the credit columns going together. -/
def Row.invalidTracking (row : Row) : Bool :=
  (row.anchorSpendNanocredits.isNone
      && (row.observedSpendNanocredits.isSome
        || row.currentCapacityNanocredits.isSome
        || row.currentLowNanocredits.isSome
        || row.currentHighNanocredits.isSome
        || row.lastCapacityNanocredits.isSome
        || row.lastLowNanocredits.isSome
        || row.lastHighNanocredits.isSome
        || row.creditSamples.isSome
        || row.creditEstimatorVersion.isSome
        || row.unattributedFractionUnits.isSome))
    || (row.anchorSpendNanocredits.isSome
      && (row.observedSpendNanocredits.isNone
        || row.creditSamples.isNone
        || decide (row.creditEstimatorVersion ≠ some Codex.creditEstimatorVersion)
        || row.unattributedFractionUnits.isNone))
    || row.creditSamples.any (fun creditSamples => decide (creditSamples ≠ row.samples))

def Row.invalidEvidence (row : Row) : Bool :=
  (decide (row.creditSamples = some 0)
      && (decide (row.observedSpendNanocredits ≠ some 0)
        || row.currentCapacityNanocredits.isSome
        || row.currentLowNanocredits.isSome
        || row.currentHighNanocredits.isSome))
    || (row.creditSamples.any (fun samples => decide (0 < samples))
      && (row.observedSpendNanocredits.all (fun value => decide (value ≤ 0))
        || row.currentCapacityNanocredits.isNone
        || row.currentLowNanocredits.isNone
        || (row.currentHighNanocredits.isNone && decide (row.currentConfidenceBp ≠ 0))))
    || (decide (row.samples = 0)
      && (decide (row.observedFractionUnits ≠ 0)
        || decide (row.observedSpendNano ≠ 0)
        || row.currentCapacityNano.isSome
        || row.currentLowNano.isSome
        || row.currentHighNano.isSome
        || decide (row.currentConfidenceBp ≠ 0)
        || row.lastMeasuredAt.isSome))
    || (decide (0 < row.samples)
      && (decide (row.observedFractionUnits ≤ 0)
        || decide (row.observedSpendNano ≤ 0)
        || row.currentCapacityNano.isNone
        || row.currentLowNano.isNone
        || row.lastMeasuredAt.isNone
        || (row.currentHighNano.isNone && decide (row.currentConfidenceBp ≠ 0))))

def validateRow (row : Row) : Except Failure Unit :=
  failIf (row.invalidColumns || row.invalidOrder || row.invalidTracking
      || row.invalidEvidence)
    (.refused "invalid Codex calibration row")

/-! ## Observing -/

def anchorRow (o : Observation) : Row where
  homeId := o.homeId
  windowDurationMins := o.windowDurationMins
  resetsAt := o.resetsAt
  anchorUsedPercent := o.usedPercent
  anchorSpendNano := o.gatewaySpendNano
  usedPercent := o.usedPercent
  observedAt := o.observedAt
  sumUsedSq := 0
  sumUsedSpendNano := 0
  observedPoints := 0
  samples := 0
  currentCapacityNano := none
  currentLowNano := none
  currentHighNano := none
  currentConfidenceBp := 0
  lastCapacityNano := none
  lastLowNano := none
  lastHighNano := none
  lastConfidenceBp := 0
  lastMeasuredAt := none
  anchorReady := true
  anchorUsedFractionUnits := o.usedFractionUnits
  usedFractionUnits := o.usedFractionUnits
  observedFractionUnits := 0
  observedSpendNano := 0
  anchorSpendNanocredits := o.gatewaySpendNanocredits
  observedSpendNanocredits := o.gatewaySpendNanocredits.map (fun _ => 0)
  currentCapacityNanocredits := none
  currentLowNanocredits := none
  currentHighNanocredits := none
  lastCapacityNanocredits := none
  lastLowNanocredits := none
  lastHighNanocredits := none
  creditSamples := o.gatewaySpendNanocredits.map (fun _ => 0)
  creditEstimatorVersion := o.gatewaySpendNanocredits.map (fun _ => creditEstimatorVersion)
  unattributedFractionUnits := o.gatewaySpendNanocredits.map (fun _ => 0)
  estimatorVersion := estimatorVersion
  version := 0
  updatedTs := o.observedAt

def anchor (o : Observation) : Except Failure Row := do
  validateObservation o
  .ok (anchorRow o)

def fromRow (row : Row) : Except Failure Row := do
  validateRow row
  .ok row

def Row.advanceAnchor (row : Row) (o : Observation) : Row :=
  { row with
    anchorUsedFractionUnits := o.usedFractionUnits
    anchorUsedPercent := o.usedPercent
    anchorSpendNano := o.gatewaySpendNano
    anchorSpendNanocredits := o.gatewaySpendNanocredits.elim row.anchorSpendNanocredits some }

/-- The fields every snapshot of the window writes. -/
def Row.seen (row : Row) (o : Observation) : Row :=
  { row with
    usedFractionUnits := o.usedFractionUnits
    usedPercent := o.usedPercent
    observedAt := o.observedAt
    updatedTs := o.observedAt }

def Row.startCreditTracking (row : Row) (o : Observation) : Row :=
  ({ row with
    lastCapacityNano := row.currentCapacityNano
    lastLowNano := row.currentLowNano
    lastHighNano := row.currentHighNano
    lastConfidenceBp := row.currentConfidenceBp
    currentCapacityNano := none
    currentLowNano := none
    currentHighNano := none
    currentConfidenceBp := 0
    observedFractionUnits := 0
    observedSpendNano := 0
    observedPoints := 0
    samples := 0
    lastMeasuredAt := none
    anchorSpendNanocredits := o.gatewaySpendNanocredits
    observedSpendNanocredits := some 0
    currentCapacityNanocredits := none
    currentLowNanocredits := none
    currentHighNanocredits := none
    creditSamples := some 0
    creditEstimatorVersion := some Codex.creditEstimatorVersion
    unattributedFractionUnits := some 0
    resetsAt := o.resetsAt }.advanceAnchor o).seen o

def Row.beginWindow (row : Row) (o : Observation) : Row :=
  ({ row with
    resetsAt := o.resetsAt
    anchorReady := true }.advanceAnchor o).seen o

def Row.resetBoundary (row : Row) : Int :=
  max ((row.windowDurationMins * 60).tdiv 2) 1

def Row.jitterTolerance (row : Row) : Int :=
  clamp ((row.windowDurationMins * 60).tdiv 200) 1 3600

def Row.BeginsWindow (row : Row) (o : Observation) : Prop :=
  row.resetBoundary ≤ o.resetsAt - row.resetsAt ∨
    o.usedFractionUnits < row.anchorUsedFractionUnits ∧
      row.jitterTolerance ≤ o.resetsAt - row.resetsAt

instance (row : Row) (o : Observation) : Decidable (row.BeginsWindow o) :=
  inferInstanceAs (Decidable (_ ∨ _))

/-- The credit capacity of `recompute`, where credits are tracked. -/
def creditCapacity (row : Row) : Except Failure (Option Int) :=
  match row.observedSpendNanocredits with
  | none => .ok row.currentCapacityNanocredits
  | some observedNanocredits => do
      let creditNumerator ← wide (fractionScale * observedNanocredits)
        "Codex credit capacity numerator overflow"
      let rounded ← roundNonnegative "Codex" creditNumerator row.observedFractionUnits
      let capacity ← checkedI64 "Codex" rounded
      .ok (some capacity)

def recompute (row : Row) : Except Failure Row :=
  let denominator := row.observedFractionUnits
  if denominator ≤ 0 then .ok row
  else do
    let numerator ← wide (fractionScale * row.observedSpendNano)
      "Codex capacity numerator overflow"
    let rounded ← roundNonnegative "Codex" numerator denominator
    let capacity ← checkedI64 "Codex" rounded
    let capacityNanocredits ← creditCapacity row
    let maturityBp ← ratioBp "Codex" row.samples (row.samples + 2)
    let apiStabilityBp ← stability (ratioBp "Codex") row.currentLowNano row.currentHighNano 0
    let creditStabilityBp ←
      stability (ratioBp "Codex") row.currentLowNanocredits row.currentHighNanocredits
        (if row.anchorSpendNanocredits.isNone then apiStabilityBp else 0)
    let quantisationBp ← ratioBp "Codex" denominator (denominator + 2 * row.samples)
    let confidenceBp ← confidence "Codex" maturityBp
      (min apiStabilityBp creditStabilityBp) quantisationBp
    let narrowed ← checkedI64 "Codex" confidenceBp
    .ok { row with
      currentCapacityNano := some capacity
      currentCapacityNanocredits := capacityNanocredits
      currentConfidenceBp := clamp narrowed 0 10000 }

def measureApi (row : Row) (o : Observation) (deltaUsed deltaSpend : Int) :
    Except Failure Row := do
  let uncertainty := intervalFractionUncertainty row.anchorUsedFractionUnits o.usedFractionUnits
  let bounds ← updateEnvelope "Codex" "workload" row.samples row.currentLowNano
    row.currentHighNano deltaUsed uncertainty deltaSpend
  let observedFractionUnits ← narrow (row.observedFractionUnits + deltaUsed)
    "Codex observed fraction overflow"
  let observedSpendNano ← narrow (row.observedSpendNano + deltaSpend)
    "Codex observed spend overflow"
  let samples ← narrow (row.samples + 1) "Codex calibration sample overflow"
  recompute
    { row.advanceAnchor o with
      currentLowNano := bounds.1
      currentHighNano := bounds.2
      observedFractionUnits := observedFractionUnits
      observedSpendNano := observedSpendNano
      observedPoints := observedFractionUnits.tdiv percentScale
      samples := samples
      lastMeasuredAt := some o.observedAt }

def measureBoth (row : Row) (o : Observation)
    (deltaUsed deltaSpend deltaNanocredits : Int) : Except Failure Row := do
  let uncertainty := intervalFractionUncertainty row.anchorUsedFractionUnits o.usedFractionUnits
  let bounds ← updateEnvelope "Codex" "workload" row.samples row.currentLowNano
    row.currentHighNano deltaUsed uncertainty deltaSpend
  let creditBounds ← updateEnvelope "Codex" "credit" (row.creditSamples.getD 0)
    row.currentLowNanocredits row.currentHighNanocredits deltaUsed uncertainty
    deltaNanocredits
  let observedFractionUnits ← narrow (row.observedFractionUnits + deltaUsed)
    "Codex observed fraction overflow"
  let observedSpendNano ← narrow (row.observedSpendNano + deltaSpend)
    "Codex observed spend overflow"
  let observedSpendNanocredits ←
    narrow (row.observedSpendNanocredits.getD 0 + deltaNanocredits)
      "Codex observed credit spend overflow"
  let samples ← narrow (row.samples + 1) "Codex calibration sample overflow"
  let creditSamples ← narrow (row.creditSamples.getD 0 + 1)
    "Codex credit calibration sample overflow"
  recompute
    { row.advanceAnchor o with
      currentLowNano := bounds.1
      currentHighNano := bounds.2
      currentLowNanocredits := creditBounds.1
      currentHighNanocredits := creditBounds.2
      observedFractionUnits := observedFractionUnits
      observedSpendNano := observedSpendNano
      observedSpendNanocredits := some observedSpendNanocredits
      observedPoints := observedFractionUnits.tdiv percentScale
      samples := samples
      creditSamples := some creditSamples
      lastMeasuredAt := some o.observedAt }

/-- `observe`, from the snapshot's fields being written on. -/
def weigh (row : Row) (o : Observation) : Except Failure Row :=
  let deltaUsed := o.usedFractionUnits - row.anchorUsedFractionUnits
  let deltaSpend := o.gatewaySpendNano - row.anchorSpendNano
  if deltaUsed ≤ 0 ∨ o.gatewaySpendNano < row.anchorSpendNano then .ok (row.seen o)
  else match row.anchorSpendNanocredits with
    | none =>
      if deltaSpend = 0 then .ok (row.seen o)
      else measureApi (row.seen o) o deltaUsed deltaSpend
    | some anchorNanocredits => do
        let gatewayNanocredits ← orFail o.gatewaySpendNanocredits
          (.refused "tracked Codex observation is missing credits")
        failIf (decide (gatewayNanocredits < anchorNanocredits))
          (.refused "Codex cumulative credits moved backwards")
        let deltaNanocredits := gatewayNanocredits - anchorNanocredits
        if deltaSpend = 0 ∧ deltaNanocredits = 0 then
          if row.usedFractionUnits = o.usedFractionUnits ∧ row.observedAt < o.observedAt then do
            let unattributed ← narrow (row.unattributedFractionUnits.getD 0 + deltaUsed)
              "Codex unattributed fraction overflow"
            .ok ({ row.seen o with
              unattributedFractionUnits := some unattributed }.advanceAnchor o)
          else .ok (row.seen o)
        else do
          failIf (decide (deltaSpend = 0) || decide (deltaNanocredits = 0))
            (.refused "Codex atomic API/credit ledgers diverged")
          measureBoth (row.seen o) o deltaUsed deltaSpend deltaNanocredits

def observe (row : Row) (o : Observation) : Except Failure Row := do
  validateObservation o
  failIf (decide (o.homeId ≠ row.homeId)
      || decide (o.windowDurationMins ≠ row.windowDurationMins))
    (.refused "Codex calibration observation identity mismatch")
  if o.observedAt ≤ row.observedAt then .ok row
  else do
    failIf (decide (row.estimatorVersion ≠ Codex.estimatorVersion))
      (.refused "Codex calibration estimator version mismatch")
    if row.anchorSpendNanocredits.isNone && o.gatewaySpendNanocredits.isSome then
      .ok (row.startCreditTracking o)
    else do
      failIf (row.anchorSpendNanocredits.isSome && o.gatewaySpendNanocredits.isNone)
        (.refused "Codex credit tracking regressed to an untracked observation")
      if row.BeginsWindow o then .ok (row.beginWindow o)
      else if o.resetsAt - row.resetsAt ≤ -row.resetBoundary then .ok row
      else weigh row o

/-- The state `apply_observation` starts from. -/
def resume (existing : Option Row) (o : Observation) : Except Failure Row :=
  match existing with
  | some row => if row.estimatorVersion = estimatorVersion then fromRow row else anchor o
  | none => anchor o

def applyObservation (existing : Option Row) (o : Observation) : Except Failure Row := do
  let calibration ← resume existing o
  let row := { calibration with version := existing.elim 0 (·.version) }
  if row.observedAt < o.observedAt then observe row o else .ok row

end ApiToken.Calibration.Codex
