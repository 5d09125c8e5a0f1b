import ApiToken.Gemini.Settlement
import ApiToken.Lib.Machine
import ApiToken.Meter.Usage

/-!
# From a usage report to a settlement

The usage parser of `metering/src/gemini.rs`, the calibration event of
`forward/src/gemini/billing.rs`, and the settlement intent the batch worker
of `forward/src/gemini/batch.rs` builds from them. Token counters are `u64`:
natural numbers, with `saturating_add` as the exact sum cut off at the end
of the range and `saturating_sub` as the subtraction of naturals.
-/

namespace ApiToken.Gemini

open Registry
open Meter (Value)

/-! ## The parser -/

def u64Max : Nat := 18446744073709551615

/-- `u64::saturating_add`. -/
def satAdd (a b : Nat) : Nat := min (a + b) u64Max

def eqIgnoreAsciiCase (a b : String) : Bool :=
  a.toList.map Char.toLower == b.toList.map Char.toLower

/-- `value[key]`: a missing member is null. -/
def index (v : Value) (key : String) : Value := (v.get key).getD .null

def elements : Value → List Value
  | .array items => items
  | _ => []

/-- `value.get(key).and_then(Value::as_u64)`. -/
def u64At (v : Value) (key : String) : Option Nat :=
  ((v.get key).bind Value.asU64).map (·.toNat)

def countModality (details : Value) (modality : String) : Nat :=
  (((elements details).filter (fun detail =>
      ((detail.get "modality").bind Value.asStr).any (eqIgnoreAsciiCase · modality))).filterMap
    (u64At · "tokenCount")).foldl satAdd 0

structure GeminiUsage where
  inputTokens : Nat := 0
  toolPromptTokens : Nat := 0
  audioInputTokens : Nat := 0
  cachedInputTokens : Nat := 0
  cachedAudioInputTokens : Nat := 0
  outputTokens : Nat := 0
  thinkingOutputTokens : Nat := 0
  imageOutputTokens : Nat := 0
  searchQueries : Nat := 0
  groundedSearchPrompts : Nat := 0
deriving DecidableEq

/-- The counters `usage_from_metadata` reads, each clamped as it clamps
them. -/
structure Counters where
  prompt : Nat
  cached : Nat
  toolPrompt : Nat
  audioPrompt : Nat
  cachedAudio : Nat
  candidates : Nat
  imageCandidates : Nat
  thoughts : Nat

def counters (metadata : Value) : Counters :=
  let prompt := (u64At metadata "promptTokenCount").getD 0
  let cached := min ((u64At metadata "cachedContentTokenCount").getD 0) prompt
  let audioPrompt := min (countModality (index metadata "promptTokensDetails") "AUDIO") prompt
  let candidates := (u64At metadata "candidatesTokenCount").getD 0
  { prompt
    cached
    toolPrompt := (u64At metadata "toolUsePromptTokenCount").getD 0
    audioPrompt
    cachedAudio :=
      min (min (countModality (index metadata "cacheTokensDetails") "AUDIO") cached) audioPrompt
    candidates
    imageCandidates :=
      min (countModality (index metadata "candidatesTokensDetails") "IMAGE") candidates
    thoughts := (u64At metadata "thoughtsTokenCount").getD 0 }

def usageFromMetadata (metadata : Value) : GeminiUsage :=
  let c := counters metadata
  let audioInput := c.audioPrompt - c.cachedAudio
  let cachedInput := c.cached - c.cachedAudio
  let input := satAdd (c.prompt - c.cached - audioInput) c.toolPrompt
  { inputTokens := input
    toolPromptTokens := min c.toolPrompt input
    audioInputTokens := audioInput
    cachedInputTokens := cachedInput
    cachedAudioInputTokens := c.cachedAudio
    outputTokens := satAdd (c.candidates - c.imageCandidates) c.thoughts
    thinkingOutputTokens := c.thoughts
    imageOutputTokens := c.imageCandidates }

/-- `merge_grounding_usage`, with what `grounding_usage` found. -/
def mergeGroundingUsage (usage : GeminiUsage) (queries : Nat) (grounded : Bool) :
    GeminiUsage :=
  { usage with
    searchQueries := max usage.searchQueries queries
    groundedSearchPrompts := max usage.groundedSearchPrompts grounded.toNat }

def GeminiUsage.promptTokens (u : GeminiUsage) : Nat :=
  satAdd (satAdd (satAdd u.inputTokens u.audioInputTokens) u.cachedInputTokens)
    u.cachedAudioInputTokens

def GeminiUsage.totalTokens (u : GeminiUsage) : Nat :=
  satAdd (satAdd u.promptTokens u.outputTokens) u.imageOutputTokens

def GeminiUsage.isZero (u : GeminiUsage) : Bool :=
  u.totalTokens == 0 && u.searchQueries == 0 && u.groundedSearchPrompts == 0

/-! ## The price -/

inductive GeminiSearchBilling where
  | perQuery (nano : Int)
  | perGroundedPrompt (nano : Int)

structure GeminiRates where
  input : Int
  audioInput : Int
  cachedInput : Int
  cachedAudioInput : Int
  output : Int

/-- `GeminiPrices`; `long` are the `long_*` rates. -/
structure GeminiPrices where
  short : GeminiRates
  imageOutput : Int
  longContextThreshold : Nat
  long : GeminiRates
  search : GeminiSearchBilling

def GeminiPrices.ratesFor (p : GeminiPrices) (u : GeminiUsage) : GeminiRates :=
  if p.longContextThreshold < u.promptTokens then p.long else p.short

def GeminiSearchBilling.cost (u : GeminiUsage) : GeminiSearchBilling → Int
  | .perQuery nano => u.searchQueries * nano
  | .perGroundedPrompt nano => u.groundedSearchPrompts * nano

structure CostLegs where
  input : Int
  audioInput : Int
  cacheRead : Int
  cachedAudioInput : Int
  output : Int
  imageOutput : Int
  search : Int

def GeminiPrices.legs (p : GeminiPrices) (u : GeminiUsage) : CostLegs :=
  let r := p.ratesFor u
  { input := u.inputTokens * r.input
    audioInput := u.audioInputTokens * r.audioInput
    cacheRead := u.cachedInputTokens * r.cachedInput
    cachedAudioInput := u.cachedAudioInputTokens * r.cachedAudioInput
    output := u.outputTokens * r.output
    imageOutput := u.imageOutputTokens * p.imageOutput
    search := p.search.cost u }

def CostLegs.all (c : CostLegs) : List Int :=
  [c.input, c.audioInput, c.cacheRead, c.cachedAudioInput, c.output, c.imageOutput, c.search]

def costNanodollars (u : GeminiUsage) (p : GeminiPrices) : Int :=
  Range.i128.saturatedSum (p.legs u).all

def applyMultiplier (nano multBp : Int) : Int :=
  if 0 ≤ nano then (nano * multBp + 5000).tdiv 10000
  else (nano * multBp - 5000).tdiv 10000

/-- `value.clamp(0, i64::MAX)`. -/
def clampI64 (x : Int) : Int := max 0 (min x Range.i64.hi)

/-- `settled_charge_with_prices`: the charge, and the price that the usage
event records as its charge basis and as its real cost. -/
def settledChargeWithPrices (u : GeminiUsage) (multBp : Int) (p : GeminiPrices) :
    Int × Option Int :=
  let real := costNanodollars u p
  let charge := clampI64 (applyMultiplier real multBp)
  if real ≤ 0 then (charge, none) else (charge, some (clampI64 real))

/-! ## The calibration event -/

def GeminiUsage.recorded (u : GeminiUsage) : List Int :=
  [u.inputTokens, u.audioInputTokens, u.cachedInputTokens + u.cachedAudioInputTokens,
    u.cachedAudioInputTokens, u.outputTokens, u.thinkingOutputTokens,
    u.imageOutputTokens, u.toolPromptTokens, u.searchQueries,
    u.groundedSearchPrompts]

def calibrationEvent (requestId profileId modelId : String) (u : GeminiUsage)
    (pricedTs completedAt : Int) (legs : CostLegs) (apiTotalNanousd : Int)
    (tariffScheduleId : String) : ProviderTurnCalibrationEvent :=
  { provider := "google", requestId, subjectId := profileId, modelId
    serviceTier := "standard", inferenceGeo := "global", tariffScheduleId
    pricedTs, completedAt
    inputTokens := u.inputTokens
    audioInputTokens := u.audioInputTokens
    cacheReadTokens := u.cachedInputTokens + u.cachedAudioInputTokens
    cachedAudioInputTokens := u.cachedAudioInputTokens
    cacheWrite5mTokens := 0
    cacheWrite1hTokens := 0
    outputTokens := u.outputTokens
    thinkingOutputTokens := u.thinkingOutputTokens
    imageOutputTokens := u.imageOutputTokens
    toolPromptTokens := u.toolPromptTokens
    searchQueries := u.searchQueries
    groundedSearchPrompts := u.groundedSearchPrompts
    apiInputNanousd := legs.input
    apiAudioInputNanousd := legs.audioInput
    apiCacheReadNanousd := legs.cacheRead
    apiCachedAudioInputNanousd := legs.cachedAudioInput
    apiCacheWrite5mNanousd := 0
    apiCacheWrite1hNanousd := 0
    apiOutputNanousd := legs.output
    apiImageOutputNanousd := legs.imageOutput
    apiSearchNanousd := legs.search
    apiTotalNanousd }

/-- `gemini_calibration_event_with_prices`: every cost and every counter is
converted to `i64`, and one that does not fit makes no event. The costs and
the sum of the cached counters go through a wider type; what leaves that
leaves `i64` too. -/
def geminiCalibrationEventWithPrices (requestId profileId modelId : String)
    (u : GeminiUsage) (pricedTs completedAt : Int) (p : GeminiPrices)
    (tariffScheduleId : String) : Option ProviderTurnCalibrationEvent :=
  if requestId = "" ∨ profileId = "" ∨ u.isZero then none
  else do
    let costs ← (p.legs u).all.mapM Range.i64.checked
    let total ← Range.i64.checkedSum costs
    if total ≤ 0 then none
    else do
      let _ ← u.recorded.mapM Range.i64.checked
      some (calibrationEvent requestId profileId modelId u pricedTs completedAt
        (p.legs u) total tariffScheduleId)

/-! ## The settlement intent -/

/-- `tokens as i64`. -/
def asI64 (n : Nat) : Int :=
  if n ≤ 9223372036854775807 then n else n - 18446744073709551616

def GeminiUsage.forBatch (u : GeminiUsage) : GeminiBatchUsage :=
  { inputTokens := asI64 u.inputTokens
    toolPromptTokens := asI64 u.toolPromptTokens
    audioInputTokens := asI64 u.audioInputTokens
    cachedInputTokens := asI64 u.cachedInputTokens
    cachedAudioInputTokens := asI64 u.cachedAudioInputTokens
    outputTokens := asI64 u.outputTokens
    thinkingOutputTokens := asI64 u.thinkingOutputTokens
    imageOutputTokens := asI64 u.imageOutputTokens
    searchQueries := asI64 u.searchQueries
    groundedSearchPrompts := asI64 u.groundedSearchPrompts }

structure AnsweredItem where
  jobId : String
  itemIndex : Int
  requestId : String
  claimGeneration : Int
  profileId : String
  modelId : String
  payableMultiplierBp : Int
  pricedTs : Int
  tariffScheduleId : String
  prices : GeminiPrices
  result : GeminiBatchEncryptedBlob
  completed : Int

def AnsweredItem.intent (item : AnsweredItem) (u : GeminiUsage)
    (calibration : ProviderTurnCalibrationEvent) : GeminiBatchSettlementIntent :=
  let (actual, event) := settledChargeWithPrices u item.payableMultiplierBp item.prices
  { jobId := item.jobId
    itemIndex := item.itemIndex
    requestId := item.requestId
    claimGeneration := item.claimGeneration
    disposition := .settle
    actualNano := actual
    chargeBasisNano := event.getD 0
    realNano := event.getD 0
    usage := some u.forBatch
    resultBlob := item.result
    terminalState := .succeeded
    terminalClass := .success
    calibration := some calibration
    completedTs := item.completed }

def AnsweredItem.settlementIntent (item : AnsweredItem) (u : GeminiUsage) :
    Except Error GeminiBatchSettlementIntent := do
  let calibration ← orFail
    (geminiCalibrationEventWithPrices item.requestId item.profileId item.modelId u
      item.pricedTs item.completed item.prices item.tariffScheduleId)
    (.bail "batch calibration event missing")
  return item.intent u calibration

end ApiToken.Gemini
