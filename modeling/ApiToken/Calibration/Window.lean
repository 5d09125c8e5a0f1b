import ApiToken.Calibration.Arithmetic

/-!
# Window estimators

The estimator of one subscription window, as `WindowCalibration` of
`forward/src/anthropic_calibration.rs` and `gemini/calibration.rs` and
`KimiWindowCalibration` of `kimi_calibration.rs` have it. The three are the
same code up to the identity of a window, the fields of an observation only
one of them has, what a cumulative spend below the anchor's does, and how a
complete interval is measured: these are the parameters of `Estimator`.
-/

namespace ApiToken.Calibration

/-- A quota snapshot paired with the cumulative spend of its subject. -/
structure Observation (κ ν : Type) where
  identity : κ
  resetsAt : Int
  observedAt : Int
  usedFractionUnits : Int
  measurementResolutionFractionUnits : Int
  gatewaySpendNano : Int
  /-- What only this provider's observations carry. -/
  detail : ν

/-- The stored state of an estimator. -/
structure Row (κ μ : Type) where
  identity : κ
  resetsAt : Int
  anchorUsedFractionUnits : Int
  anchorResolutionFractionUnits : Int
  anchorSpendNano : Int
  usedFractionUnits : Int
  measurementResolutionFractionUnits : Int
  observedAt : Int
  observedFractionUnits : Int
  observedSpendNano : Int
  samples : Int
  unattributedFractionUnits : Int
  currentCapacityNano : Option Int
  currentLowNano : Option Int
  currentHighNano : Option Int
  currentConfidenceBp : Int
  lastMeasuredAt : Option Int
  estimatorVersion : Int
  version : Int
  updatedTs : Int
  /-- What only this provider's rows carry. -/
  detail : μ
deriving DecidableEq

/-- What a cumulative spend below the anchor's does. -/
inductive Regression
  /-- The snapshot is seen, and delimits no interval. -/
  | held
  /-- The snapshot is refused. -/
  | refused
deriving DecidableEq

structure Estimator (κ ν μ : Type) where
  /-- The provider's name in error texts. -/
  name : String
  /-- `ESTIMATOR_VERSION`. -/
  version : Int
  durationSecs : κ → Int
  validateObservation : Observation κ ν → Except Failure Unit
  validateRow : Row κ μ → Except Failure Unit
  regression : Regression
  start : ν → μ
  refresh : μ → ν → μ
  /-- A complete interval, of a movement and a spend that are positive. -/
  measure : Row κ μ → Observation κ ν → Int → Int → Except Failure (Row κ μ)

variable {κ ν μ : Type}

def Row.advanceAnchor (row : Row κ μ) (o : Observation κ ν) : Row κ μ :=
  { row with
    anchorUsedFractionUnits := o.usedFractionUnits
    anchorResolutionFractionUnits := o.measurementResolutionFractionUnits
    anchorSpendNano := o.gatewaySpendNano }

namespace Estimator

variable (E : Estimator κ ν μ)

/-- `anchor`: the row of a first observation. -/
def anchorRow (o : Observation κ ν) : Row κ μ where
  identity := o.identity
  resetsAt := o.resetsAt
  anchorUsedFractionUnits := o.usedFractionUnits
  anchorResolutionFractionUnits := o.measurementResolutionFractionUnits
  anchorSpendNano := o.gatewaySpendNano
  usedFractionUnits := o.usedFractionUnits
  measurementResolutionFractionUnits := o.measurementResolutionFractionUnits
  observedAt := o.observedAt
  observedFractionUnits := 0
  observedSpendNano := 0
  samples := 0
  unattributedFractionUnits := 0
  currentCapacityNano := none
  currentLowNano := none
  currentHighNano := none
  currentConfidenceBp := 0
  lastMeasuredAt := none
  estimatorVersion := E.version
  version := 0
  updatedTs := o.observedAt
  detail := E.start o.detail

def anchor (o : Observation κ ν) : Except Failure (Row κ μ) := do
  E.validateObservation o
  .ok (E.anchorRow o)

def fromRow (row : Row κ μ) : Except Failure (Row κ μ) := do
  E.validateRow row
  .ok row

/-- What `begin_window` and every other snapshot of the window write of the
snapshot itself. -/
def seen (row : Row κ μ) (o : Observation κ ν) (resetsAt : Int) : Row κ μ :=
  { row with
    resetsAt := resetsAt
    usedFractionUnits := o.usedFractionUnits
    measurementResolutionFractionUnits := o.measurementResolutionFractionUnits
    observedAt := o.observedAt
    updatedTs := o.observedAt
    detail := E.refresh row.detail o.detail }

def beginWindow (row : Row κ μ) (o : Observation κ ν) : Row κ μ :=
  (E.seen row o o.resetsAt).advanceAnchor o

def resetBoundary (row : Row κ μ) : Int := max ((E.durationSecs row.identity).tdiv 2) 1

def jitterTolerance (row : Row κ μ) : Int :=
  clamp ((E.durationSecs row.identity).tdiv 200) 1 3600

/-- The test that leads to `begin_window`. -/
def BeginsWindow (row : Row κ μ) (o : Observation κ ν) : Prop :=
  E.resetBoundary row ≤ o.resetsAt - row.resetsAt ∨
    o.usedFractionUnits < row.anchorUsedFractionUnits ∧
      E.jitterTolerance row ≤ o.resetsAt - row.resetsAt

instance (row : Row κ μ) (o : Observation κ ν) : Decidable (E.BeginsWindow row o) :=
  inferInstanceAs (Decidable (_ ∨ _))

/-- The test that ignores a snapshot of an earlier window. -/
def FarBehind (row : Row κ μ) (o : Observation κ ν) : Prop :=
  o.resetsAt - row.resetsAt ≤ -E.resetBoundary row

instance (row : Row κ μ) (o : Observation κ ν) : Decidable (E.FarBehind row o) :=
  inferInstanceAs (Decidable (_ ≤ _))

/-- `observe`, from the snapshot's fields being written on: what its movement
is evidence of. -/
def weigh (row : Row κ μ) (o : Observation κ ν) : Except Failure (Row κ μ) :=
  let current := E.seen row o (max row.resetsAt o.resetsAt)
  let deltaUsed := o.usedFractionUnits - row.anchorUsedFractionUnits
  let deltaSpend := o.gatewaySpendNano - row.anchorSpendNano
  if deltaUsed ≤ 0 ∨ E.regression = .held ∧ o.gatewaySpendNano < row.anchorSpendNano then
    .ok current
  else if deltaSpend = 0 then
    -- the same higher point, seen again without spend
    if row.usedFractionUnits = o.usedFractionUnits ∧ row.observedAt < o.observedAt then do
      let unattributed ← narrow (row.unattributedFractionUnits + deltaUsed)
        (E.name ++ " unattributed fraction overflow")
      .ok ({ current with unattributedFractionUnits := unattributed }.advanceAnchor o)
    else .ok current
  else E.measure current o deltaUsed deltaSpend

variable [DecidableEq κ]

def observe (row : Row κ μ) (o : Observation κ ν) : Except Failure (Row κ μ) := do
  E.validateObservation o
  failIf (decide (o.identity ≠ row.identity))
    (.refused (E.name ++ " calibration observation identity mismatch"))
  if o.observedAt < row.observedAt then .ok row
  else do
    failIf (decide (row.estimatorVersion ≠ E.version))
      (.refused (E.name ++ " calibration estimator version mismatch"))
    failIf (decide (E.regression = .refused ∧ o.gatewaySpendNano < row.anchorSpendNano))
      (.refused (E.name ++ " cumulative calibration spend regressed"))
    if E.BeginsWindow row o then .ok (E.beginWindow row o)
    else if E.FarBehind row o then .ok row
    else E.weigh row o

/-- The state `apply_observation` starts from: the stored row, unless it is
of another estimator version. -/
def resume (existing : Option (Row κ μ)) (o : Observation κ ν) :
    Except Failure (Row κ μ) :=
  match existing with
  | some row => if row.estimatorVersion = E.version then E.fromRow row else E.anchor o
  | none => E.anchor o

def storedVersion (existing : Option (Row κ μ)) : Int :=
  existing.elim 0 (·.version)

/-- `apply_observation` of the Anthropic and the Gemini estimator. -/
def applyObservation (existing : Option (Row κ μ)) (o : Observation κ ν) :
    Except Failure (Row κ μ) := do
  let calibration ← E.resume existing o
  let row := { calibration with version := storedVersion existing }
  if row.observedAt ≤ o.observedAt then E.observe row o else .ok row

end Estimator

def live {ρ ο : Type} (apply : Option ρ → ο → Except Failure ρ)
    (observations : List ο) : Except Failure (Option ρ) :=
  observations.foldlM (fun existing o => (apply existing o).map some) none

end ApiToken.Calibration
