import ApiToken.Calibration.Providers

/-!
# The GLM and Suno estimators

`GlmWindowCalibration` of `forward/src/glm_calibration.rs` and `SunoCalibration`
of `forward/src/suno_calibration.rs`: two cumulative ledgers, of API money and
of native credits, and a used fraction that comes from the quota endpoint or
else from the native ledger against the published limit of the plan. The two are
the same code up to the name, the published limits, the parts of a credit they
count in and one check of the plan: the parameters of `DualLedger`.
-/

namespace ApiToken.Calibration

namespace DualLedger

structure Identity where
  subjectId : String
  plan : String
  windowDurationSecs : Int
deriving DecidableEq

/-- `GlmWindowObservation` and `SunoWindowObservation`. -/
structure Observation where
  identity : Identity
  resetAt : Option Int
  observedAt : Int
  nativeUsedUnits : Option Int
  nativeLimitUnits : Option Int
  nativeRemainingUnits : Option Int
  usedFractionUnits : Option Int
  measurementResolutionFractionUnits : Option Int
  cumulativeApi : Int
  cumulativeNative : Int
  observationSource : String
  sourceRequestId : Option String

/-- `GlmCalibrationRow` and `SunoCalibrationRow`. -/
structure Row where
  identity : Identity
  resetAt : Option Int
  anchorUsedFractionUnits : Option Int
  anchorResolutionFractionUnits : Option Int
  anchorSpendApi : Int
  anchorSpendNative : Int
  usedFractionUnits : Option Int
  measurementResolutionFractionUnits : Option Int
  observedAt : Int
  nativeLimit : Option Int
  nativeUsed : Option Int
  observedFractionUnits : Int
  observedSpendApi : Int
  observedSpendNative : Int
  samples : Int
  unattributedFractionUnits : Int
  currentCapacity : Option Int
  currentLow : Option Int
  currentHigh : Option Int
  currentConfidenceBp : Int
  lastMeasuredAt : Option Int
  estimatorVersion : Int
  version : Int
  updatedTs : Int
deriving DecidableEq

inductive FractionSource where
  | quotaEndpoint
  | nativeLedger
deriving DecidableEq

/-- The fraction that an observation is taken for. -/
structure ResolvedFraction where
  usedFractionUnits : Int
  resolutionFractionUnits : Int
  nativeLimit : Option Int
  nativeUsed : Option Int
  source : FractionSource
deriving DecidableEq

/-- `native_baseline`: the cumulative native total at the window's anchor. -/
def nativeBaseline (row : Row) : Option Int :=
  row.nativeUsed.bind fun used => Range.i64.checked (row.anchorSpendNative - used)

/-- `interval_fraction_uncertainty`: half the resolution at each end. -/
def intervalFractionUncertainty (anchorResolution currentResolution : Int) : Int :=
  anchorResolution.tdiv 2 + currentResolution.tdiv 2

def Row.advanceAnchor (row : Row) (o : Observation) (current : ResolvedFraction) : Row :=
  { row with
    anchorUsedFractionUnits := some current.usedFractionUnits
    anchorResolutionFractionUnits := some current.resolutionFractionUnits
    anchorSpendApi := o.cumulativeApi
    anchorSpendNative := o.cumulativeNative }

def Row.read (row : Row) (current : ResolvedFraction) : Row :=
  { row with
    usedFractionUnits := some current.usedFractionUnits
    measurementResolutionFractionUnits := some current.resolutionFractionUnits
    nativeLimit := current.nativeLimit
    nativeUsed := current.nativeUsed }

end DualLedger

/-- What differs between the two estimators. -/
structure DualLedger where
  /-- The provider's name in error texts. -/
  name : String
  /-- `ESTIMATOR_VERSION`. -/
  version : Int
  /-- `MICROCREDITS_PER_CREDIT` or `MILLICREDITS_PER_CREDIT`. -/
  unitsPerCredit : Int
  /-- `published_window_limit_credits`. -/
  publishedCredits : String → Int → Option Int
  /-- The check of an observation's plan. -/
  validatePlan : String → Except Failure Unit
  validateRow : DualLedger.Row → Except Failure Unit

namespace DualLedger

variable (P : DualLedger)

/-! ## Arithmetic -/

def checkedI64 (value : Int) : Except Failure Int :=
  narrow value (P.name ++ " calibration value overflow")

def roundNonnegative (numerator denominator : Int) : Except Failure Int := do
  failIf (decide (denominator ≤ 0))
    (.refused (P.name ++ " calibration divides by a non-positive denominator"))
  orFail
    ((Range.i128.checked (numerator + denominator.tdiv 2)).bind (checkedDiv · denominator))
    (.overflow (P.name ++ " calibration rounding overflow"))

def ceilNonnegative (numerator denominator : Int) : Except Failure Int := do
  failIf (decide (denominator ≤ 0))
    (.refused (P.name ++ " calibration divides by a non-positive denominator"))
  orFail
    ((Range.i128.checked (numerator + (denominator - 1))).bind (checkedDiv · denominator))
    (.overflow (P.name ++ " calibration ceiling overflow"))

def ratioBp (numerator denominator : Int) : Except Failure Int :=
  if denominator ≤ 0 then .ok 0
  else orFail
    (((Range.i128.checked (numerator * 10000)).bind (checkedDiv · denominator)).map
      (clamp · 0 10000))
    (.overflow (P.name ++ " calibration ratio overflow"))

/-- `published_window_limit_microcredits` and `…_millicredits`. -/
def publishedLimit (identity : Identity) : Option Int :=
  (P.publishedCredits identity.plan identity.windowDurationSecs).bind fun credits =>
    Range.i64.checked (credits * P.unitsPerCredit)

/-! ## The fraction of an observation -/

/-- A raw counter in parts of a credit. -/
def scaled (units : Option Int) (text : String) : Except Failure (Option Int) :=
  match units with
  | some units => do
      let value ← narrow (units * P.unitsPerCredit) text
      .ok (some value)
  | none => .ok none

def ledgerFraction (used limit : Int) : Except Failure (Int × Int) := do
  let quotient ← orFail
    ((Range.i128.checked (used * fractionScale)).bind (checkedDiv · limit))
    (.overflow (P.name ++ " native fraction overflow"))
  let fraction ← P.checkedI64 quotient
  let ceiling ← P.ceilNonnegative fractionScale limit
  let resolution ← P.checkedI64 ceiling
  .ok (fraction, max resolution 1)

def resolveFraction (o : Observation) (baseline : Option Int) :
    Except Failure (Option ResolvedFraction) :=
  match o.usedFractionUnits with
  | some quotaFraction => do
      let resolution ← orFail o.measurementResolutionFractionUnits
        (.refused (P.name ++ " quota fraction without its measurement resolution"))
      let nativeLimit ← P.scaled o.nativeLimitUnits (P.name ++ " native limit overflow")
      let nativeUsed ← P.scaled o.nativeUsedUnits (P.name ++ " native usage overflow")
      .ok (some ⟨quotaFraction, resolution, nativeLimit, nativeUsed, .quotaEndpoint⟩)
  | none =>
    match P.publishedLimit o.identity, baseline with
    | some limit, some baseline => do
        let used ← narrow (o.cumulativeNative - baseline)
          (P.name ++ " native ledger regressed below the window baseline")
        let fraction ← P.ledgerFraction used limit
        .ok (some ⟨fraction.1, fraction.2, some limit, some used, .nativeLedger⟩)
    | _, _ => .ok none

/-- `resolve_native_fraction`, of which only the success is looked at. -/
def resolveNativeFraction (used limit : Int) : Option (Int × Int) :=
  if limit ≤ 0 ∨ used < 0 ∨ limit < used then none else (P.ledgerFraction used limit).toOption

/-- `stored_fraction_source`: the source that explains the stored fraction. -/
def storedFractionSource (row : Row) : Option FractionSource :=
  row.usedFractionUnits.map fun usedFraction =>
    match row.nativeUsed, row.nativeLimit with
    | some used, some limit =>
      match P.resolveNativeFraction used limit with
      | some native =>
        if native.1 = usedFraction ∧
            some native.2 = row.measurementResolutionFractionUnits then .nativeLedger
        else .quotaEndpoint
      | none => .quotaEndpoint
    | _, _ => .quotaEndpoint

/-! ## Observations -/

def outside (counter limit : Option Int) : Bool :=
  counter.any fun value =>
    decide (value < 0) || limit.any fun limit => decide (limit < value)

def validSource (o : Observation) : Bool :=
  if o.observationSource = "poll" then o.sourceRequestId.isNone
  else if o.observationSource = "response" then o.sourceRequestId.isSome
  else false

def validateObservation (o : Observation) : Except Failure Unit := do
  failIf o.identity.subjectId.isEmpty
    (.refused (P.name ++ " calibration observation has no subject"))
  P.validatePlan o.identity.plan
  failIf (decide (o.identity.windowDurationSecs ≤ 0))
    (.refused (P.name ++ " calibration observation has an invalid window duration"))
  failIf (decide (o.observedAt ≤ 0) || o.resetAt.any (fun reset => decide (reset ≤ 0)))
    (.refused (P.name ++ " calibration observation has an invalid timestamp"))
  failIf (decide (o.cumulativeApi < 0) || decide (o.cumulativeNative < 0))
    (.refused (P.name ++ " calibration observation has a negative cumulative ledger"))
  failIf (o.nativeLimitUnits.any fun limit => decide (limit ≤ 0))
    (.refused (P.name ++ " calibration observation has an invalid quota limit"))
  failIf (outside o.nativeUsedUnits o.nativeLimitUnits)
    (.refused (P.name ++ " calibration observation has an invalid quota usage"))
  failIf (outside o.nativeRemainingUnits o.nativeLimitUnits)
    (.refused (P.name ++ " calibration observation has an invalid quota remaining"))
  failIf (o.usedFractionUnits.isSome != o.measurementResolutionFractionUnits.isSome)
    (.refused (P.name ++ " calibration observation fraction and resolution must move together"))
  failIf (o.usedFractionUnits.any fun fraction => !contains 0 fractionScale fraction)
    (.refused (P.name ++ " calibration observation fraction is out of range"))
  failIf (o.measurementResolutionFractionUnits.any fun resolution =>
      !contains 1 fractionScale resolution)
    (.refused (P.name ++ " calibration observation resolution is out of range"))
  failIf (!validSource o) (.refused (P.name ++ " calibration observation has an invalid source"))

def anchor (o : Observation) : Except Failure Row := do
  P.validateObservation o
  let resolved ← P.resolveFraction o (some o.cumulativeNative)
  .ok
    { identity := o.identity
      resetAt := o.resetAt
      anchorUsedFractionUnits := resolved.map (·.usedFractionUnits)
      anchorResolutionFractionUnits := resolved.map (·.resolutionFractionUnits)
      anchorSpendApi := o.cumulativeApi
      anchorSpendNative := o.cumulativeNative
      usedFractionUnits := resolved.map (·.usedFractionUnits)
      measurementResolutionFractionUnits := resolved.map (·.resolutionFractionUnits)
      observedAt := o.observedAt
      nativeLimit := resolved.bind (·.nativeLimit)
      nativeUsed := resolved.bind (·.nativeUsed)
      observedFractionUnits := 0
      observedSpendApi := 0
      observedSpendNative := 0
      samples := 0
      unattributedFractionUnits := 0
      currentCapacity := none
      currentLow := none
      currentHigh := none
      currentConfidenceBp := 0
      lastMeasuredAt := none
      estimatorVersion := P.version
      version := 0
      updatedTs := o.observedAt }

def beginWindow (row : Row) (o : Observation) : Except Failure Row := do
  let resolved ← P.resolveFraction o (some o.cumulativeNative)
  let row :=
    { row with
      resetAt := o.resetAt
      observedAt := o.observedAt
      updatedTs := o.observedAt }
  match resolved with
  | some value => .ok ((row.read value).advanceAnchor o value)
  | none =>
    .ok { row with
      usedFractionUnits := none
      measurementResolutionFractionUnits := none
      nativeLimit := none
      nativeUsed := none
      anchorUsedFractionUnits := none
      anchorResolutionFractionUnits := none
      anchorSpendApi := o.cumulativeApi
      anchorSpendNative := o.cumulativeNative }

/-! ## Intervals -/

def sampleHigh (numerator deltaUsed uncertainty : Int) : Except Failure (Option Int) :=
  if uncertainty < deltaUsed then do
    let ceiling ← P.ceilNonnegative numerator (deltaUsed - uncertainty)
    let high ← P.checkedI64 ceiling
    .ok (some high)
  else .ok none

/-- `update_workload_envelope`: the bounds of one interval beside the stored
ones. -/
def updateWorkloadEnvelope (row : Row) (deltaUsed uncertainty deltaApi : Int) :
    Except Failure Row := do
  let numerator ← wide (fractionScale * deltaApi)
    (P.name ++ " workload envelope numerator overflow")
  let quotient ← orFail (checkedDiv numerator (deltaUsed + uncertainty))
    (.overflow (P.name ++ " workload low bound overflow"))
  let low ← P.checkedI64 quotient
  let high ← P.sampleHigh numerator deltaUsed uncertainty
  .ok { row with
    currentLow := some (row.currentLow.elim low (min · low))
    currentHigh := if row.samples = 0 then high else Ratio.upper row.currentHigh high }

def recompute (row : Row) : Except Failure Row :=
  let denominator := row.observedFractionUnits
  if denominator ≤ 0 then .ok row
  else do
    let numerator ← wide (fractionScale * row.observedSpendApi)
      (P.name ++ " capacity numerator overflow")
    let rounded ← P.roundNonnegative numerator denominator
    let capacity ← P.checkedI64 rounded
    let maturityBp ← P.ratioBp row.samples (row.samples + 2)
    let stabilityBp ← stability P.ratioBp row.currentLow row.currentHigh 0
    let resolution := max (row.measurementResolutionFractionUnits.getD 0)
      (row.anchorResolutionFractionUnits.getD 0)
    let widening ← orFail
      ((Range.i128.checked (resolution * 2)).bind
        (fun value => Range.i128.checked (value * row.samples)))
      (.overflow (P.name ++ " confidence resolution overflow"))
    let quantisationDenominator ← wide (denominator + widening)
      (P.name ++ " confidence denominator overflow")
    let quantisationBp ← P.ratioBp denominator quantisationDenominator
    let confidenceBp ← confidence P.name maturityBp stabilityBp quantisationBp
    let narrowed ← P.checkedI64 confidenceBp
    .ok { row with
      currentCapacity := some capacity
      currentConfidenceBp := clamp narrowed 0 10000 }

/-- `observe`, once an interval is complete. -/
def measure (row : Row) (o : Observation) (current : ResolvedFraction)
    (anchorResolution deltaUsed : Int) : Except Failure Row := do
  let deltaApi := o.cumulativeApi - row.anchorSpendApi
  let deltaNative := o.cumulativeNative - row.anchorSpendNative
  let uncertainty :=
    intervalFractionUncertainty anchorResolution current.resolutionFractionUnits
  let row ← P.updateWorkloadEnvelope row deltaUsed uncertainty deltaApi
  let observedFractionUnits ← narrow (row.observedFractionUnits + deltaUsed)
    (P.name ++ " observed fraction overflow")
  let observedSpendApi ← narrow (row.observedSpendApi + deltaApi)
    (P.name ++ " observed API spend overflow")
  let observedSpendNative ← narrow (row.observedSpendNative + deltaNative)
    (P.name ++ " observed native spend overflow")
  let samples ← narrow (row.samples + 1) (P.name ++ " calibration sample overflow")
  P.recompute
    { row.advanceAnchor o current with
      observedFractionUnits := observedFractionUnits
      observedSpendApi := observedSpendApi
      observedSpendNative := observedSpendNative
      samples := samples
      lastMeasuredAt := some o.observedAt }

/-! ## Windows -/

def resetDelta (row : Row) (o : Observation) : Option Int :=
  match o.resetAt, row.resetAt with
  | some new, some old => some (new - old)
  | _, _ => none

def resetBoundary (row : Row) : Int := max (row.identity.windowDurationSecs.tdiv 2) 1

def jitterTolerance (row : Row) : Int :=
  clamp (row.identity.windowDurationSecs.tdiv 200) 1 3600

/-- `rolling_window_rollover`: the fraction fell back and the reset advanced. -/
def rolledOver (row : Row) (o : Observation) (resolved : Option ResolvedFraction) : Bool :=
  (match resolved, row.anchorUsedFractionUnits with
    | some current, some anchor => decide (current.usedFractionUnits < anchor)
    | _, _ => false) &&
    (resetDelta row o).any fun delta => decide (jitterTolerance row ≤ delta)

/-- `window_slid`: the ledger outgrew the published size. -/
def windowSlid (resolved : Option ResolvedFraction) : Bool :=
  resolved.any fun value =>
    decide (value.source = .nativeLedger) &&
      match value.nativeUsed, value.nativeLimit with
      | some used, some limit => decide (limit < used)
      | _, _ => false

/-- `cutover`: the fraction comes from the other source. -/
def cutover (row : Row) (resolved : Option ResolvedFraction) : Bool :=
  match P.storedFractionSource row, resolved with
  | some stored, some new => decide (stored ≠ new.source)
  | _, _ => false

/-- The test that leads to `begin_window`. -/
def beginsWindow (row : Row) (o : Observation) (resolved : Option ResolvedFraction) : Bool :=
  (resetDelta row o).any (fun delta => decide (resetBoundary row ≤ delta))
    || rolledOver row o resolved || windowSlid resolved || P.cutover row resolved

/-- The test that ignores a snapshot of an earlier window. -/
def farBehind (row : Row) (o : Observation) : Bool :=
  (resetDelta row o).any fun delta => decide (delta ≤ -resetBoundary row)

def laterReset (stored observed : Option Int) : Option Int :=
  match stored, observed with
  | some old, some new => some (max old new)
  | some old, none => some old
  | none, new => new

def refresh (row : Row) (o : Observation) (resolved : Option ResolvedFraction) : Row :=
  let row := { row with resetAt := laterReset row.resetAt o.resetAt }
  let row := resolved.elim row row.read
  { row with observedAt := o.observedAt, updatedTs := o.observedAt }

def weigh (row : Row) (o : Observation) (current : ResolvedFraction)
    (anchorUsed anchorResolution : Int) : Except Failure Row :=
  let refreshed := refresh row o (some current)
  let deltaUsed := current.usedFractionUnits - anchorUsed
  if deltaUsed ≤ 0 then .ok refreshed
  else if o.cumulativeApi - row.anchorSpendApi = 0
      ∨ o.cumulativeNative - row.anchorSpendNative = 0 then
    if row.usedFractionUnits = some current.usedFractionUnits
        ∧ row.observedAt < o.observedAt then do
      let unattributed ← narrow (row.unattributedFractionUnits + deltaUsed)
        (P.name ++ " unattributed fraction overflow")
      .ok ({ refreshed with unattributedFractionUnits := unattributed }.advanceAnchor o current)
    else .ok refreshed
  else P.measure refreshed o current anchorResolution deltaUsed

/-- `observe`, on a snapshot of the row's window. -/
def continueWindow (row : Row) (o : Observation) (resolved : Option ResolvedFraction) :
    Except Failure Row :=
  match resolved with
  | none => .ok (refresh row o none)
  | some current =>
    match row.anchorUsedFractionUnits, row.anchorResolutionFractionUnits with
    | some anchorUsed, some anchorResolution =>
      P.weigh row o current anchorUsed anchorResolution
    -- the window just became readable
    | _, _ => .ok ((refresh row o (some current)).advanceAnchor o current)

def observe (row : Row) (o : Observation) : Except Failure Row := do
  P.validateObservation o
  failIf (decide (o.identity ≠ row.identity))
    (.refused (P.name ++ " calibration observation identity mismatch"))
  if o.observedAt < row.observedAt then .ok row
  else do
    failIf (decide (row.estimatorVersion ≠ P.version))
      (.refused (P.name ++ " calibration estimator version mismatch"))
    failIf (decide (o.cumulativeApi < row.anchorSpendApi)
        || decide (o.cumulativeNative < row.anchorSpendNative))
      (.refused (P.name ++ " cumulative calibration ledger regressed"))
    let resolved ← P.resolveFraction o (nativeBaseline row)
    if P.beginsWindow row o resolved then P.beginWindow row o
    else if farBehind row o then .ok row
    else P.continueWindow row o resolved

/-- The state `apply_observation` starts from. -/
def resume (existing : Option Row) (o : Observation) : Except Failure Row :=
  match existing with
  | some row =>
    if row.estimatorVersion = P.version then do
      P.validateRow row
      .ok row
    else P.anchor o
  | none => P.anchor o

def applyObservation (existing : Option Row) (o : Observation) : Except Failure Row := do
  let calibration ← P.resume existing o
  let row ← P.observe calibration o
  .ok { row with version := existing.elim 0 (·.version) }

/-! ## The two providers -/

def validateWindowRow (name : String) (row : Row) : Except Failure Unit := do
  failIf (decide (row.identity.windowDurationSecs ≤ 0))
    (.refused (name ++ " calibration row has an invalid window duration"))
  failIf (row.nativeLimit.any (fun limit => decide (limit ≤ 0))
      || row.nativeUsed.any (fun used => decide (used < 0))
      || above row.nativeUsed row.nativeLimit)
    (.refused (name ++ " calibration row has an invalid quota window"))
  failIf (row.usedFractionUnits.any fun fraction => !contains 0 fractionScale fraction)
    (.refused (name ++ " calibration row fraction is out of range"))
  failIf (row.measurementResolutionFractionUnits.any fun resolution =>
      !contains 1 fractionScale resolution)
    (.refused (name ++ " calibration row resolution is out of range"))
  failIf (row.usedFractionUnits.isSome != row.measurementResolutionFractionUnits.isSome)
    (.refused (name ++ " calibration row fraction and resolution must move together"))
  failIf (row.anchorUsedFractionUnits.isSome != row.anchorResolutionFractionUnits.isSome)
    (.refused (name ++ " calibration row anchor fraction and resolution must move together"))
  failIf ((row.currentLow.isSome || row.currentHigh.isSome) && row.currentCapacity.isNone)
    (.refused (name ++ " calibration row has bounds without a capacity"))
  failIf (above row.currentLow row.currentHigh)
    (.refused (name ++ " calibration row bounds are inverted"))

end DualLedger

namespace Glm

/-- `GLM_5H_WINDOW_SECS`. -/
def windowSecs5h : Int := 18000

/-- `GLM_WEEKLY_WINDOW_SECS`. -/
def windowSecsWeekly : Int := 604800

def publishedWindowLimitCredits (plan : String) (windowDurationSecs : Int) : Option Int :=
  if windowDurationSecs = windowSecs5h then
    if plan = "Lite" then some 2000
    else if plan = "Pro" then some 12000
    else if plan = "Max" then some 28000
    else none
  else if windowDurationSecs = windowSecsWeekly then
    if plan = "Lite" then some 10000
    else if plan = "Pro" then some 60000
    else if plan = "Max" then some 140000
    else none
  else none

def validatePlan (plan : String) : Except Failure Unit :=
  failIf plan.isEmpty (.refused "GLM calibration observation has no declared paid plan")

def validateGlmCalibrationRow (row : DualLedger.Row) : Except Failure Unit := do
  failIf (row.identity.subjectId.isEmpty || row.identity.plan.isEmpty)
    (.refused "GLM calibration row has no identity")
  DualLedger.validateWindowRow "GLM" row

def estimator : DualLedger where
  name := "GLM"
  version := 1
  unitsPerCredit := 1000000
  publishedCredits := publishedWindowLimitCredits
  validatePlan := validatePlan
  validateRow := validateGlmCalibrationRow

end Glm

namespace Suno

/-- `published_window_limit_credits`, by `reviewed_plan_credits`. -/
def publishedWindowLimitCredits (plan : String) : Option Int :=
  if plan = "Pro" then some 2500 else if plan = "Premier" then some 10000 else none

def validatePlan (plan : String) : Except Failure Unit :=
  failIf (publishedWindowLimitCredits plan).isNone
    (.refused "Suno calibration observation has an unsupported plan")

def validateSunoCalibrationRow (row : DualLedger.Row) : Except Failure Unit := do
  failIf (row.identity.subjectId.isEmpty || row.identity.plan.isEmpty)
    (.refused "Suno calibration row has no identity")
  failIf (!decide (row.identity.plan = "Pro" ∨ row.identity.plan = "Premier"))
    (.refused "Suno calibration row has an unsupported plan")
  DualLedger.validateWindowRow "Suno" row

def estimator : DualLedger where
  name := "Suno"
  version := 1
  unitsPerCredit := 1000
  publishedCredits := fun plan _ => publishedWindowLimitCredits plan
  validatePlan := validatePlan
  validateRow := validateSunoCalibrationRow

end Suno

end ApiToken.Calibration
