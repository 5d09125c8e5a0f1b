import ApiToken.Calibration.Window

/-!
# The Anthropic, Gemini and KIMI estimators

Identities, validators and measurements of the three instances of
`Estimator`. The row validators of the Anthropic and the exact Gemini window
(`registry/src/provider_calibration.rs`) are one, up to the identity.
-/

namespace ApiToken.Calibration

variable {κ ν μ : Type}

/-! ## Shared validators -/

/-- `(lo..=hi).contains(&x)`. -/
def contains (lo hi x : Int) : Bool := decide (lo ≤ x) && decide (x ≤ hi)

/-- `observation_source` and `source_request_id`. -/
structure Source where
  observationSource : String
  sourceRequestId : Option String

def Source.valid (s : Source) : Bool :=
  if s.observationSource = "response" then s.sourceRequestId.any (fun id => !id.isEmpty)
  else if s.observationSource = "poll" then s.sourceRequestId.isNone
  else false

def invalidReading (o : Observation κ ν) : Bool :=
  decide (o.resetsAt ≤ 0)
    || decide (o.observedAt ≤ 0)
    || !contains 0 fractionScale o.usedFractionUnits
    || !contains 1 fractionScale o.measurementResolutionFractionUnits
    || decide (o.gatewaySpendNano < 0)

def Row.emptyEvidence (row : Row κ μ) : Bool :=
  decide (row.samples = 0)
    && decide (row.observedFractionUnits = 0)
    && decide (row.observedSpendNano = 0)
    && row.currentCapacityNano.isNone
    && row.currentLowNano.isNone
    && row.currentHighNano.isNone
    && decide (row.currentConfidenceBp = 0)
    && row.lastMeasuredAt.isNone

def Row.measuredEvidence (row : Row κ μ) : Bool :=
  decide (0 < row.samples)
    && decide (0 < row.observedFractionUnits)
    && decide (0 < row.observedSpendNano)
    && row.currentCapacityNano.isSome
    && row.currentLowNano.isSome
    && row.lastMeasuredAt.isSome

/-- Whether two of the published values are present and out of order. -/
def above (low high : Option Int) : Bool :=
  match low, high with
  | some l, some h => decide (h < l)
  | _, _ => false

/-- `validate_anthropic_calibration_row` and
`validate_gemini_exact_calibration_row`, less the identity. -/
def invalidRow (row : Row κ μ) : Bool :=
  decide (row.resetsAt ≤ 0)
    || !contains 0 100000000 row.anchorUsedFractionUnits
    || !contains 1 100000000 row.anchorResolutionFractionUnits
    || decide (row.anchorSpendNano < 0)
    || !contains 0 100000000 row.usedFractionUnits
    || !contains 1 100000000 row.measurementResolutionFractionUnits
    || decide (row.observedAt ≤ 0)
    || decide (row.observedFractionUnits < 0)
    || decide (row.observedSpendNano < 0)
    || decide (row.samples < 0)
    || decide (row.unattributedFractionUnits < 0)
    || row.currentCapacityNano.any (fun value => decide (value < 0))
    || row.currentLowNano.any (fun value => decide (value < 0))
    || row.currentHighNano.any (fun value => decide (value < 0))
    || above row.currentLowNano row.currentCapacityNano
    || above row.currentCapacityNano row.currentHighNano
    || above row.currentLowNano row.currentHighNano
    || !contains 0 10000 row.currentConfidenceBp
    || row.lastMeasuredAt.any (fun value => decide (value ≤ 0))
    || decide (row.estimatorVersion ≤ 0)
    || decide (row.version < 0)
    || decide (row.updatedTs ≤ 0)
    || !(row.emptyEvidence || row.measuredEvidence)
    || (row.currentHighNano.isNone && decide (row.currentConfidenceBp ≠ 0))

/-! ## Intervals measured one by one -/

/-- `recompute` of the Anthropic and the Gemini estimator. -/
def recompute (name : String) (row : Row κ μ) : Except Failure (Row κ μ) :=
  let denominator := row.observedFractionUnits
  if denominator ≤ 0 then .ok row
  else do
    let numerator ← wide (fractionScale * row.observedSpendNano)
      (name ++ " capacity numerator overflow")
    let rounded ← roundNonnegative name numerator denominator
    let capacity ← checkedI64 name rounded
    let maturityBp ← ratioBp name row.samples (row.samples + 2)
    let stabilityBp ← stability (ratioBp name) row.currentLowNano row.currentHighNano 0
    let resolution :=
      max row.measurementResolutionFractionUnits row.anchorResolutionFractionUnits
    let widening ← orFail
      ((Range.i128.checked (resolution * 2)).bind
        (fun value => Range.i128.checked (value * row.samples)))
      (.overflow (name ++ " confidence resolution overflow"))
    let quantisationDenominator ← wide (denominator + widening)
      (name ++ " confidence denominator overflow")
    let quantisationBp ← ratioBp name denominator quantisationDenominator
    let confidenceBp ← confidence name maturityBp stabilityBp quantisationBp
    let narrowed ← checkedI64 name confidenceBp
    .ok { row with
      currentCapacityNano := some capacity
      currentConfidenceBp := clamp narrowed 0 10000 }

def measureInterval (name : String) (row : Row κ μ) (o : Observation κ ν)
    (deltaUsed deltaSpend : Int) : Except Failure (Row κ μ) := do
  let uncertainty := intervalFractionUncertainty row.anchorResolutionFractionUnits
    o.measurementResolutionFractionUnits
  let bounds ← updateEnvelope name "workload" row.samples row.currentLowNano
    row.currentHighNano deltaUsed uncertainty deltaSpend
  let observedFractionUnits ← narrow (row.observedFractionUnits + deltaUsed)
    (name ++ " observed fraction overflow")
  let observedSpendNano ← narrow (row.observedSpendNano + deltaSpend)
    (name ++ " observed spend overflow")
  let samples ← narrow (row.samples + 1) (name ++ " calibration sample overflow")
  recompute name
    { row.advanceAnchor o with
      currentLowNano := bounds.1
      currentHighNano := bounds.2
      observedFractionUnits := observedFractionUnits
      observedSpendNano := observedSpendNano
      samples := samples
      lastMeasuredAt := some o.observedAt }

/-! ## Anthropic -/

namespace Anthropic

structure Identity where
  subjectId : String
  plan : String
  windowKind : String
  windowDurationMins : Int
deriving DecidableEq

def validAnthropicWindow (kind : String) (durationMins : Int) : Bool :=
  (kind == "5h" && durationMins == 300) || (kind == "7d" && durationMins == 10080)

def Identity.valid (i : Identity) : Bool :=
  !i.subjectId.isEmpty && !i.plan.isEmpty
    && validAnthropicWindow i.windowKind i.windowDurationMins

def validateObservation (o : Observation Identity Source) : Except Failure Unit :=
  failIf (!o.identity.valid || invalidReading o || !o.detail.valid)
    (.refused "invalid Anthropic calibration observation")

def validateAnthropicCalibrationRow (row : Row Identity Unit) : Except Failure Unit :=
  failIf (!row.identity.valid || invalidRow row) (.refused "invalid Anthropic calibration row")

def estimatorVersion : Int := 1

def validateRow (row : Row Identity Unit) : Except Failure Unit := do
  validateAnthropicCalibrationRow row
  failIf (decide (row.estimatorVersion ≠ estimatorVersion))
    (.refused "Anthropic calibration estimator version mismatch")

def estimator : Estimator Identity Source Unit where
  name := "Anthropic"
  version := estimatorVersion
  durationSecs := fun i => i.windowDurationMins * 60
  validateObservation := validateObservation
  validateRow := validateRow
  regression := .held
  start := fun _ => ()
  refresh := fun _ _ => ()
  measure := measureInterval "Anthropic"

def applyObservation := estimator.applyObservation

end Anthropic

/-! ## Exact Gemini -/

namespace ExactGemini

structure Identity where
  profileId : String
  plan : String
  bucketId : String
  windowKind : String
  windowDurationMins : Int
deriving DecidableEq

/-- `bucket_contract`: the kind and the minutes of a bucket. -/
def bucketContract (bucketId : String) : Option (String × Int) :=
  if bucketId = "gemini-5h" then some ("5h", 300)
  else if bucketId = "gemini-weekly" then some ("weekly", 10080)
  else none

def validGeminiExactWindow (bucketId kind : String) (durationMins : Int) : Bool :=
  (bucketId == "gemini-5h" && kind == "5h" && durationMins == 300)
    || (bucketId == "gemini-weekly" && kind == "weekly" && durationMins == 10080)

def Identity.valid (i : Identity) : Bool :=
  !i.profileId.isEmpty && !i.plan.isEmpty
    && validGeminiExactWindow i.bucketId i.windowKind i.windowDurationMins

def validateObservation (o : Observation Identity Source) : Except Failure Unit := do
  let contract ← orFail (bucketContract o.identity.bucketId)
    (.refused "unknown Gemini calibration bucket")
  failIf
    (o.identity.profileId.isEmpty
      || o.identity.plan.isEmpty
      || decide (o.identity.windowKind ≠ contract.1)
      || decide (o.identity.windowDurationMins ≠ contract.2)
      || invalidReading o || !o.detail.valid)
    (.refused "invalid Gemini calibration observation")

def validateGeminiExactCalibrationRow (row : Row Identity Unit) : Except Failure Unit :=
  failIf (!row.identity.valid || invalidRow row) (.refused "invalid exact Gemini calibration row")

def estimatorVersion : Int := 3

def validateRow (row : Row Identity Unit) : Except Failure Unit := do
  validateGeminiExactCalibrationRow row
  failIf (decide (row.estimatorVersion ≠ estimatorVersion))
    (.refused "Gemini calibration estimator version mismatch")

def estimator : Estimator Identity Source Unit where
  name := "Gemini"
  version := estimatorVersion
  durationSecs := fun i => i.windowDurationMins * 60
  validateObservation := validateObservation
  validateRow := validateRow
  regression := .refused
  start := fun _ => ()
  refresh := fun _ _ => ()
  measure := measureInterval "Gemini"

def applyObservation := estimator.applyObservation

end ExactGemini

/-! ## KIMI -/

namespace Kimi

structure Identity where
  subjectId : String
  plan : String
  windowDurationSecs : Int
deriving DecidableEq

/-- The provider's own counters, and its label for the window. -/
structure Native where
  windowName : Option String
  nativeLimitUnits : Int
  nativeUsedUnits : Int

def checkedI64 (value : Int) : Except Failure Int :=
  narrow value "KIMI calibration value overflow"

def roundNonnegative (numerator denominator : Int) : Except Failure Int := do
  failIf (decide (denominator ≤ 0))
    (.refused "KIMI calibration divides by a non-positive denominator")
  orFail
    ((Range.i128.checked (numerator + denominator.tdiv 2)).bind (checkedDiv · denominator))
    (.overflow "KIMI calibration rounding overflow")

def ceilNonnegative (numerator denominator : Int) : Except Failure Int := do
  failIf (decide (denominator ≤ 0))
    (.refused "KIMI calibration divides by a non-positive denominator")
  orFail
    ((Range.i128.checked (numerator + (denominator - 1))).bind (checkedDiv · denominator))
    (.overflow "KIMI calibration ceiling overflow")

def ratioBp (numerator denominator : Int) : Except Failure Int :=
  if denominator ≤ 0 then .ok 0
  else orFail
    (((Range.i128.checked (numerator * 10000)).bind (checkedDiv · denominator)).map
      (clamp · 0 10000))
    (.overflow "KIMI calibration ratio overflow")

/-- The high bound of `recompute`: none while the movement does not exceed
its uncertainty. -/
def highBound (numerator denominator uncertainty : Int) : Except Failure (Option Int) :=
  if uncertainty < denominator then do
    let ceiling ← ceilNonnegative numerator (denominator - uncertainty)
    let high ← checkedI64 ceiling
    .ok (some high)
  else .ok none

/-- `recompute`: the bounds are those of the whole movement, known up to one
resolution for each interval. -/
def recompute (row : Row Identity Native) : Except Failure (Row Identity Native) :=
  let denominator := row.observedFractionUnits
  if denominator ≤ 0 then .ok row
  else do
    let numerator ← wide (fractionScale * row.observedSpendNano)
      "KIMI capacity numerator overflow"
    let rounded ← roundNonnegative numerator denominator
    let capacity ← checkedI64 rounded
    let resolution :=
      max row.measurementResolutionFractionUnits row.anchorResolutionFractionUnits
    let uncertainty ← wide (row.samples * resolution) "KIMI envelope uncertainty overflow"
    let quotient ← orFail (checkedDiv numerator (denominator + uncertainty))
      (.overflow "KIMI low bound overflow")
    let low ← checkedI64 quotient
    let high ← highBound numerator denominator uncertainty
    let maturityBp ← ratioBp row.samples (row.samples + 2)
    let stabilityBp ← stability ratioBp (some low) high 0
    let widening ← wide (uncertainty * 2) "KIMI confidence resolution overflow"
    let quantisationDenominator ← wide (denominator + widening)
      "KIMI confidence denominator overflow"
    let quantisationBp ← ratioBp denominator quantisationDenominator
    let confidenceBp ← confidence "KIMI" maturityBp stabilityBp quantisationBp
    let narrowed ← checkedI64 confidenceBp
    .ok { row with
      currentCapacityNano := some capacity
      currentLowNano := some low
      currentHighNano := high
      currentConfidenceBp := clamp narrowed 0 10000 }

def measure (row : Row Identity Native) (o : Observation Identity Native)
    (deltaUsed deltaSpend : Int) : Except Failure (Row Identity Native) := do
  let observedFractionUnits ← narrow (row.observedFractionUnits + deltaUsed)
    "KIMI observed fraction overflow"
  let observedSpendNano ← narrow (row.observedSpendNano + deltaSpend)
    "KIMI observed spend overflow"
  let samples ← narrow (row.samples + 1) "KIMI calibration sample overflow"
  recompute
    { row.advanceAnchor o with
      observedFractionUnits := observedFractionUnits
      observedSpendNano := observedSpendNano
      samples := samples
      lastMeasuredAt := some o.observedAt }

def validateObservation (o : Observation Identity Native) : Except Failure Unit := do
  failIf o.identity.subjectId.isEmpty (.refused "KIMI calibration observation has no subject")
  failIf o.identity.plan.isEmpty (.refused "KIMI calibration observation has no paid plan")
  failIf (decide (o.identity.windowDurationSecs ≤ 0))
    (.refused "KIMI calibration observation has an invalid window duration")
  failIf (decide (o.resetsAt ≤ 0) || decide (o.observedAt ≤ 0))
    (.refused "KIMI calibration observation has an invalid timestamp")
  failIf (decide (o.detail.nativeLimitUnits ≤ 0))
    (.refused "KIMI calibration observation has an invalid quota limit")
  failIf (decide (o.detail.nativeUsedUnits < 0)
      || decide (o.detail.nativeLimitUnits < o.detail.nativeUsedUnits))
    (.refused "KIMI calibration observation has an invalid quota usage")
  failIf (!contains 0 fractionScale o.usedFractionUnits)
    (.refused "KIMI calibration observation fraction is out of range")
  failIf (!contains 1 fractionScale o.measurementResolutionFractionUnits)
    (.refused "KIMI calibration observation resolution is out of range")
  failIf (decide (o.gatewaySpendNano < 0))
    (.refused "KIMI calibration observation spend is negative")

def validateRow (row : Row Identity Native) : Except Failure Unit := do
  failIf (row.identity.subjectId.isEmpty || row.identity.plan.isEmpty)
    (.refused "KIMI calibration row has no identity")
  failIf (decide (row.identity.windowDurationSecs ≤ 0))
    (.refused "KIMI calibration row has an invalid window duration")
  failIf (decide (row.detail.nativeLimitUnits ≤ 0)
      || decide (row.detail.nativeLimitUnits < row.detail.nativeUsedUnits))
    (.refused "KIMI calibration row has an invalid quota window")
  failIf (!contains 0 fractionScale row.usedFractionUnits)
    (.refused "KIMI calibration row fraction is out of range")
  failIf (above row.currentLowNano row.currentHighNano)
    (.refused "KIMI calibration row bounds are inverted")

/-- `validate_kimi_calibration_row` of `registry/src/lib.rs`: what a row read
back from the store has to pass. -/
def validateKimiCalibrationRow (row : Row Identity Native) : Except Failure Unit := do
  failIf (row.identity.subjectId.isEmpty || row.identity.plan.isEmpty)
    (.refused "KIMI calibration row has no identity")
  failIf (decide (row.identity.windowDurationSecs ≤ 0))
    (.refused "KIMI calibration row has an invalid window duration")
  failIf (decide (row.detail.nativeLimitUnits ≤ 0)
      || decide (row.detail.nativeLimitUnits < row.detail.nativeUsedUnits))
    (.refused "KIMI calibration row has an invalid quota window")
  failIf (!contains 0 fractionScale row.usedFractionUnits)
    (.refused "KIMI calibration row fraction is out of range")
  failIf (!contains 1 fractionScale row.measurementResolutionFractionUnits)
    (.refused "KIMI calibration row resolution is out of range")
  failIf ((row.currentLowNano.isSome || row.currentHighNano.isSome)
      && row.currentCapacityNano.isNone)
    (.refused "KIMI calibration row has bounds without a capacity")
  failIf (above row.currentLowNano row.currentHighNano)
    (.refused "KIMI calibration row bounds are inverted")

def estimatorVersion : Int := 2

def estimator : Estimator Identity Native Native where
  name := "KIMI"
  version := estimatorVersion
  durationSecs := (·.windowDurationSecs)
  validateObservation := validateObservation
  validateRow := validateRow
  regression := .held
  start := id
  -- the label is that of the first observation
  refresh := fun stored native => { native with windowName := stored.windowName }
  measure := measure

/-- `apply_observation`: it leaves stale observations to `observe`. -/
def applyObservation (existing : Option (Row Identity Native))
    (o : Observation Identity Native) : Except Failure (Row Identity Native) := do
  let calibration ← estimator.resume existing o
  let row ← estimator.observe calibration o
  .ok { row with version := Estimator.storedVersion existing }

def rebuildFromHistory (observations : List (Observation Identity Native)) :
    Except Failure (Option (Row Identity Native)) :=
  live applyObservation observations

end Kimi

end ApiToken.Calibration
