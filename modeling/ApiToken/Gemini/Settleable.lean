import ApiToken.Gemini.Metered

/-!
# Which reported turns can be settled

The parser splits the cached tokens into text and audio, and the calibration
event adds them up again. The validator of the settlement intent takes the
cached audio to be a part of the cached text instead, so a turn whose cached
tokens are mostly audio is refused.
-/

namespace ApiToken.Gemini

open Registry
open Meter (Value)

/-! ## What the parser guarantees -/

def i64Max : Nat := 9223372036854775807

/-- The reported counters fit `i64`; the others are clamped by these. -/
structure Counters.Fit (c : Counters) : Prop where
  prompt : c.prompt ≤ i64Max
  toolPrompt : c.toolPrompt ≤ i64Max
  candidates : c.candidates ≤ i64Max
  thoughts : c.thoughts ≤ i64Max

theorem counters_clamped (metadata : Value) :
    (counters metadata).cached ≤ (counters metadata).prompt ∧
    (counters metadata).audioPrompt ≤ (counters metadata).prompt ∧
    (counters metadata).cachedAudio ≤ (counters metadata).cached ∧
    (counters metadata).cachedAudio ≤ (counters metadata).audioPrompt ∧
    (counters metadata).imageCandidates ≤ (counters metadata).candidates := by
  simp only [counters]
  omega

def Counters.input (c : Counters) : Nat :=
  c.prompt - c.cached - (c.audioPrompt - c.cachedAudio) + c.toolPrompt

def Counters.output (c : Counters) : Nat :=
  c.candidates - c.imageCandidates + c.thoughts

theorem usageFromMetadata_eq (metadata : Value) (hfit : (counters metadata).Fit) :
    usageFromMetadata metadata =
      let c := counters metadata
      { inputTokens := c.input
        toolPromptTokens := c.toolPrompt
        audioInputTokens := c.audioPrompt - c.cachedAudio
        cachedInputTokens := c.cached - c.cachedAudio
        cachedAudioInputTokens := c.cachedAudio
        outputTokens := c.output
        thinkingOutputTokens := c.thoughts
        imageOutputTokens := c.imageCandidates } := by
  have hprompt := hfit.prompt
  have htool := hfit.toolPrompt
  have hcandidates := hfit.candidates
  have hthoughts := hfit.thoughts
  simp only [i64Max] at hprompt htool hcandidates hthoughts
  have hinput : satAdd ((counters metadata).prompt - (counters metadata).cached -
      ((counters metadata).audioPrompt - (counters metadata).cachedAudio))
      (counters metadata).toolPrompt = (counters metadata).input := by
    simp only [satAdd, u64Max, Counters.input]
    omega
  have houtput : satAdd ((counters metadata).candidates -
      (counters metadata).imageCandidates) (counters metadata).thoughts =
      (counters metadata).output := by
    simp only [satAdd, u64Max, Counters.output]
    omega
  have htoolle : min (counters metadata).toolPrompt (counters metadata).input =
      (counters metadata).toolPrompt := by
    simp only [Counters.input]
    omega
  simp only [usageFromMetadata, hinput, houtput, htoolle]

/-! ## The calibration event -/

structure GeminiRates.NonNegative (r : GeminiRates) : Prop where
  input : 0 ≤ r.input
  audioInput : 0 ≤ r.audioInput
  cachedInput : 0 ≤ r.cachedInput
  cachedAudioInput : 0 ≤ r.cachedAudioInput
  output : 0 ≤ r.output

def GeminiSearchBilling.nano : GeminiSearchBilling → Int
  | .perQuery nano => nano
  | .perGroundedPrompt nano => nano

structure GeminiPrices.NonNegative (p : GeminiPrices) : Prop where
  short : p.short.NonNegative
  long : p.long.NonNegative
  imageOutput : 0 ≤ p.imageOutput
  search : 0 ≤ p.search.nano

variable {p : GeminiPrices} {u : GeminiUsage}

theorem GeminiPrices.NonNegative.ratesFor (h : p.NonNegative) (u : GeminiUsage) :
    (p.ratesFor u).NonNegative := by
  unfold GeminiPrices.ratesFor
  split
  · exact h.long
  · exact h.short

theorem GeminiPrices.NonNegative.legs (h : p.NonNegative) (u : GeminiUsage) :
    ∀ leg ∈ (p.legs u).all, 0 ≤ leg := by
  have hr := h.ratesFor u
  have hsearch : 0 ≤ p.search.cost u := by
    have hnano := h.search
    cases hcase : p.search with
    | perQuery nano | perGroundedPrompt nano =>
      rw [hcase] at hnano
      exact Int.mul_nonneg (Int.natCast_nonneg _) hnano
  simp only [GeminiPrices.legs, CostLegs.all, forall_mem_cons, not_mem_nil,
    false_implies, implies_true, and_true]
  exact ⟨Int.mul_nonneg (Int.natCast_nonneg _) hr.input,
    Int.mul_nonneg (Int.natCast_nonneg _) hr.audioInput,
    Int.mul_nonneg (Int.natCast_nonneg _) hr.cachedInput,
    Int.mul_nonneg (Int.natCast_nonneg _) hr.cachedAudioInput,
    Int.mul_nonneg (Int.natCast_nonneg _) hr.output,
    Int.mul_nonneg (Int.natCast_nonneg _) h.imageOutput, hsearch⟩

def GeminiPrices.price (p : GeminiPrices) (u : GeminiUsage) : Int :=
  (p.legs u).all.sum

theorem costNanodollars_pos (h : p.NonNegative) (u : GeminiUsage) :
    0 < costNanodollars u p ↔ 0 < p.price u := by
  rw [costNanodollars, Range.saturatedSum_nonneg (h.legs u), GeminiPrices.price]
  have hpos : 0 < Range.i128.hi := by decide
  omega

theorem price_of_isZero (h : u.isZero = true) : p.price u = 0 := by
  simp only [GeminiUsage.isZero, GeminiUsage.totalTokens, GeminiUsage.promptTokens, satAdd,
    u64Max, guard_iffs] at h
  obtain ⟨⟨htokens, hqueries⟩, hgrounded⟩ := h
  have hzero : u.inputTokens = 0 ∧ u.audioInputTokens = 0 ∧ u.cachedInputTokens = 0 ∧
      u.cachedAudioInputTokens = 0 ∧ u.outputTokens = 0 ∧ u.imageOutputTokens = 0 := by
    omega
  obtain ⟨h1, h2, h3, h4, h5, h6⟩ := hzero
  cases hsearch : p.search <;>
    simp [GeminiPrices.price, GeminiPrices.legs, CostLegs.all, GeminiSearchBilling.cost,
      h1, h2, h3, h4, h5, h6, hqueries, hgrounded, hsearch]

theorem isZero_of_price (hpos : 0 < p.price u) : u.isZero = false := by
  rw [Bool.eq_false_iff]
  intro hzero
  rw [price_of_isZero hzero] at hpos
  exact Int.lt_irrefl 0 hpos

/-- The counters the event records fit `i64`. -/
def GeminiUsage.Fits (u : GeminiUsage) : Prop := ∀ n ∈ u.recorded, n ≤ Range.i64.hi

instance GeminiUsage.decidableFits (u : GeminiUsage) : Decidable u.Fits :=
  inferInstanceAs (Decidable (∀ n ∈ u.recorded, n ≤ Range.i64.hi))

theorem recorded_nonneg (u : GeminiUsage) : ∀ n ∈ u.recorded, 0 ≤ n := by
  simp only [GeminiUsage.recorded, forall_mem_cons, not_mem_nil,
    false_implies, implies_true, and_true]
  omega

section Event

variable {requestId profileId modelId tariffScheduleId : String} {u : GeminiUsage}
  {pricedTs completedAt : Int} {p : GeminiPrices}

theorem event_eq (hrequest : requestId ≠ "") (hprofile : profileId ≠ "")
    (hp : p.NonNegative) (hpos : 0 < p.price u) :
    geminiCalibrationEventWithPrices requestId profileId modelId u pricedTs
      completedAt p tariffScheduleId =
      if u.Fits ∧ p.price u ≤ Range.i64.hi then
        some (calibrationEvent requestId profileId modelId u pricedTs completedAt
          (p.legs u) (p.price u) tariffScheduleId)
      else none := by
  have hzero : u.isZero = false := isZero_of_price hpos
  have hlegs := hp.legs u
  have hneg : Range.i64.lo ≤ 0 := Range.i64.neg
  unfold geminiCalibrationEventWithPrices
  rw [if_neg (by simp [hrequest, hprofile, hzero])]
  by_cases hprice : p.price u ≤ Range.i64.hi
  · have hcosts : (p.legs u).all.mapM Range.i64.checked = some (p.legs u).all := by
      refine Range.mapM_checked.mpr ⟨fun leg hmem => ⟨?_, ?_⟩, rfl⟩
      · exact hneg.trans (hlegs leg hmem)
      · exact (List.single_le_sum hlegs leg hmem).trans hprice
    have htotal : Range.i64.checkedSum (p.legs u).all = some (p.price u) := by
      rw [Range.checkedSum_nonneg hlegs]
      exact if_pos hprice
    rw [hcosts, bind_eq_bind, bind_some, htotal, bind_eq_bind, bind_some, if_neg (by omega)]
    by_cases hfits : u.Fits
    · have hrecorded : u.recorded.mapM Range.i64.checked = some u.recorded :=
        Range.mapM_checked.mpr ⟨fun n hmem =>
          ⟨hneg.trans (recorded_nonneg u n hmem), hfits n hmem⟩, rfl⟩
      rw [hrecorded, if_pos ⟨hfits, hprice⟩]
      rfl
    · have hrecorded : u.recorded.mapM Range.i64.checked = none := by
        rw [Option.eq_none_iff_forall_ne_some]
        intro ys hsome
        exact hfits fun n hmem => ((Range.mapM_checked.mp hsome).1 n hmem).2
      rw [hrecorded, if_neg (fun h => hfits h.1)]
      rfl
  · rw [if_neg (fun h => hprice h.2)]
    cases hcosts : (p.legs u).all.mapM Range.i64.checked with
    | none => rfl
    | some =>
      obtain ⟨-, rfl⟩ := Range.mapM_checked.mp hcosts
      have htotal : Range.i64.checkedSum (p.legs u).all = none := by
        rw [Range.checkedSum_nonneg hlegs]
        exact if_neg hprice
      rw [bind_eq_bind, bind_some, htotal]
      rfl

theorem validate_calibrationEvent (hrequest : requestId ≠ "")
    (hprofile : profileId ≠ "") (hmodel : modelId ≠ "")
    (hschedule : tariffScheduleId ≠ "") (hpriced : 0 < pricedTs)
    (hcompleted : 0 < completedAt) (hp : p.NonNegative) (hpos : 0 < p.price u)
    (hthinking : u.thinkingOutputTokens ≤ u.outputTokens)
    (htool : u.toolPromptTokens ≤ u.inputTokens) :
    validateProviderTurnCalibrationEvent
      (calibrationEvent requestId profileId modelId u pricedTs completedAt
        (p.legs u) (p.price u) tariffScheduleId) = .ok () := by
  have hsome : ¬ (u.inputTokens = 0 ∧ u.audioInputTokens = 0 ∧
      u.cachedInputTokens = 0 ∧ u.cachedAudioInputTokens = 0 ∧ u.outputTokens = 0 ∧
      u.imageOutputTokens = 0 ∧ u.searchQueries = 0 ∧ u.groundedSearchPrompts = 0) := by
    have hzero := isZero_of_price hpos
    simp only [GeminiUsage.isZero, GeminiUsage.totalTokens, GeminiUsage.promptTokens,
      satAdd, u64Max, Bool.and_eq_false_iff, beq_eq_false_iff_ne] at hzero
    omega
  have hlegs := hp.legs u
  have hprice : p.price u = (p.legs u).all.sum := rfl
  simp only [CostLegs.all, forall_mem_cons, not_mem_nil, false_implies,
    implies_true, and_true] at hlegs
  simp only [CostLegs.all, sum_cons, sum_nil] at hprice
  simp only [validateProviderTurnCalibrationEvent, bailIf_eq_ok, guard_iffs, any_cons, any_nil,
    all_cons, List.all_nil]
  simp [calibrationEvent, hrequest, hprofile, hmodel, hschedule]
  and_intros <;> intros <;> omega

end Event

/-! ## The settlement intent -/

/-- The claim, the pinned prices and the encryption as the worker gets
them. -/
structure AnsweredItem.Ok (item : AnsweredItem) : Prop where
  jobId : item.jobId ≠ ""
  itemIndex : 0 ≤ item.itemIndex
  requestId : item.requestId ≠ ""
  claimGeneration : 0 < item.claimGeneration
  profileId : item.profileId ≠ ""
  modelId : item.modelId ≠ ""
  pricedTs : 0 < item.pricedTs
  tariffScheduleId : item.tariffScheduleId ≠ ""
  prices : item.prices.NonNegative
  resultKind : item.result.kind = .result
  result : item.result.validate item.completed = .ok ()
  completed : 0 < item.completed

def AnsweredItem.Settles (item : AnsweredItem) (u : GeminiUsage) : Prop :=
  ∃ intent event, item.settlementIntent u = .ok intent ∧
    intent.calibration = some event ∧ intent.validate = .ok () ∧
    validateProviderTurnCalibrationEvent event = .ok ()

theorem asI64_eq {n : Nat} (h : n ≤ i64Max) : asI64 n = n := by
  exact if_pos h

theorem forBatch_isValid (hfits : u.Fits) (hthinking : u.thinkingOutputTokens ≤ u.outputTokens)
    (htool : u.toolPromptTokens ≤ u.inputTokens) :
    u.forBatch.isValid = true ↔ u.cachedAudioInputTokens ≤ u.cachedInputTokens := by
  simp only [GeminiUsage.Fits, GeminiUsage.recorded, forall_mem_cons,
    not_mem_nil, false_implies, implies_true, and_true, Range.i64] at hfits
  obtain ⟨h₁, h₂, h₃, h₄, h₅, h₆, h7, h8, h9, h10⟩ := hfits
  have hcached : u.cachedInputTokens ≤ i64Max := by
    simp only [i64Max]
    omega
  simp only [GeminiBatchUsage.isValid, guard_iffs, all_cons, List.all_nil, and_true]
  simp only [GeminiUsage.forBatch, asI64_eq (Int.ofNat_le.mp h₁),
    asI64_eq (Int.ofNat_le.mp h₂), asI64_eq hcached, asI64_eq (Int.ofNat_le.mp h₄),
    asI64_eq (Int.ofNat_le.mp h₅), asI64_eq (Int.ofNat_le.mp h₆),
    asI64_eq (Int.ofNat_le.mp h7), asI64_eq (Int.ofNat_le.mp h8),
    asI64_eq (Int.ofNat_le.mp h9), asI64_eq (Int.ofNat_le.mp h10)]
  omega

theorem clampI64_nonneg (x : Int) : 0 ≤ clampI64 x := by
  rw [clampI64]
  omega

theorem settledCharge_nonneg (u : GeminiUsage) (multBp : Int) (p : GeminiPrices) :
    0 ≤ (settledChargeWithPrices u multBp p).1 ∧
      0 ≤ (settledChargeWithPrices u multBp p).2.getD 0 := by
  simp only [settledChargeWithPrices]
  split
  · exact ⟨clampI64_nonneg _, Int.le_refl 0⟩
  · exact ⟨clampI64_nonneg _, clampI64_nonneg _⟩

theorem validate_intent {item : AnsweredItem} (h : item.Ok)
    {calibration : ProviderTurnCalibrationEvent} (hprovider : calibration.provider = "google")
    (hrequest : calibration.requestId = item.requestId)
    (hcompleted : calibration.completedAt = item.completed)
    (hvalid : validateProviderTurnCalibrationEvent calibration = .ok ()) :
    (item.intent u calibration).validate = .ok () ↔ u.forBatch.isValid = true := by
  obtain ⟨hactual, hreal⟩ := settledCharge_nonneg u item.payableMultiplierBp item.prices
  have hgeneration := h.claimGeneration
  have hindex := h.itemIndex
  have hts := h.completed
  simp only [GeminiBatchSettlementIntent.validate, ok_steps, bailIf_eq_ok, guard_iffs]
  simp [AnsweredItem.intent, h.jobId, h.requestId, h.resultKind, h.result,
    ItemState.isTerminal, Disposition.shape, hprovider, hrequest, hcompleted, hvalid]
  omega

/-- A priced usage is settled exactly when it and its price fit `i64` and its
cached audio is at most its cached text. -/
theorem settles_iff {item : AnsweredItem} (h : item.Ok) (hpos : 0 < item.prices.price u)
    (hthinking : u.thinkingOutputTokens ≤ u.outputTokens)
    (htool : u.toolPromptTokens ≤ u.inputTokens) :
    item.Settles u ↔
      (u.Fits ∧ item.prices.price u ≤ Range.i64.hi) ∧
        u.cachedAudioInputTokens ≤ u.cachedInputTokens := by
  have hbuilt : ∀ intent, item.settlementIntent u = .ok intent ↔
      (u.Fits ∧ item.prices.price u ≤ Range.i64.hi) ∧
        item.intent u (calibrationEvent item.requestId item.profileId item.modelId u
          item.pricedTs item.completed (item.prices.legs u) (item.prices.price u)
          item.tariffScheduleId) = intent := by
    intro intent
    simp only [AnsweredItem.settlementIntent, ok_steps,
      event_eq h.requestId h.profileId h.prices hpos]
    by_cases hfits : u.Fits ∧ item.prices.price u ≤ Range.i64.hi
    · simp [hfits]
    · simp [hfits]
  have hvalid := validate_calibrationEvent h.requestId h.profileId h.modelId
    h.tariffScheduleId h.pricedTs h.completed h.prices hpos hthinking htool
  constructor
  · rintro ⟨intent, event, hintent, -, hok, -⟩
    obtain ⟨hfits, rfl⟩ := (hbuilt intent).mp hintent
    exact ⟨hfits, (forBatch_isValid hfits.1 hthinking htool).mp
      ((validate_intent h rfl rfl rfl hvalid).mp hok)⟩
  · rintro ⟨hfits, hcached⟩
    refine ⟨_, _, (hbuilt _).mpr ⟨hfits, rfl⟩, rfl, ?_, hvalid⟩
    exact (validate_intent h rfl rfl rfl hvalid).mpr
      ((forBatch_isValid hfits.1 hthinking htool).mpr hcached)

/-! ## A reported turn -/

/-- The usage of a turn that reports `metadata` and grounding. -/
def turnUsage (metadata : Value) (queries : Nat) (grounded : Bool) : GeminiUsage :=
  mergeGroundingUsage (usageFromMetadata metadata) queries grounded

/-- The counters of `turnUsage` fit when the two sums the parser makes do. -/
theorem turnUsage_fits {metadata : Value} {queries : Nat} {grounded : Bool}
    (hfit : (counters metadata).Fit) (hqueries : queries ≤ i64Max) :
    (turnUsage metadata queries grounded).Fits ↔
      (counters metadata).input ≤ i64Max ∧ (counters metadata).output ≤ i64Max := by
  have hclamped := counters_clamped metadata
  have hprompt := hfit.prompt
  have htool := hfit.toolPrompt
  have hcandidates := hfit.candidates
  have hthoughts := hfit.thoughts
  have hgrounded : grounded.toNat ≤ 1 := Bool.toNat_le grounded
  simp only [i64Max] at hprompt htool hcandidates hthoughts hqueries
  simp only [GeminiUsage.Fits, GeminiUsage.recorded, turnUsage, mergeGroundingUsage,
    usageFromMetadata_eq metadata hfit, forall_mem_cons, not_mem_nil,
    false_implies, implies_true, and_true, Range.i64, i64Max]
  constructor
  · rintro ⟨hinput, -, -, -, houtput, -⟩
    exact ⟨Int.ofNat_le.mp hinput, Int.ofNat_le.mp houtput⟩
  · rintro ⟨hinput, houtput⟩
    and_intros <;> omega

/-- A turn that reports counters that fit `i64`, at a price, passes the validators of its
settlement and of its calibration event exactly when at most half of its cached tokens
are audio, and the two sums and the price fit `i64` too. What processing refuses later
is not part of it. -/
theorem reported_turn_settles_iff (item : AnsweredItem) (h : item.Ok)
    (metadata : Value) (queries : Nat) (grounded : Bool)
    (hfit : (counters metadata).Fit) (hqueries : queries ≤ i64Max) (hpriced :
      0 < costNanodollars (turnUsage metadata queries grounded) item.prices) :
    item.Settles (turnUsage metadata queries grounded) ↔
      2 * (counters metadata).cachedAudio ≤ (counters metadata).cached ∧
      (counters metadata).input ≤ i64Max ∧ (counters metadata).output ≤ i64Max ∧
      item.prices.price (turnUsage metadata queries grounded) ≤ i64Max := by
  have hclamped := counters_clamped metadata
  have hpos := (costNanodollars_pos h.prices _).mp hpriced
  have hthinking : (turnUsage metadata queries grounded).thinkingOutputTokens ≤
      (turnUsage metadata queries grounded).outputTokens := by
    simp only [turnUsage, mergeGroundingUsage, usageFromMetadata_eq metadata hfit,
      Counters.output]
    omega
  have htool : (turnUsage metadata queries grounded).toolPromptTokens ≤
      (turnUsage metadata queries grounded).inputTokens := by
    simp only [turnUsage, mergeGroundingUsage, usageFromMetadata_eq metadata hfit, Counters.input]
    omega
  have hcached : (turnUsage metadata queries grounded).cachedAudioInputTokens ≤
      (turnUsage metadata queries grounded).cachedInputTokens ↔
      2 * (counters metadata).cachedAudio ≤ (counters metadata).cached := by
    simp only [turnUsage, mergeGroundingUsage, usageFromMetadata_eq metadata hfit]
    omega
  have hhi : Range.i64.hi = (i64Max : Int) := rfl
  rw [settles_iff h hpos hthinking htool, turnUsage_fits hfit hqueries, hcached, hhi]
  constructor
  · rintro ⟨⟨⟨hinput, houtput⟩, hprice⟩, haudio⟩
    exact ⟨haudio, hinput, houtput, hprice⟩
  · rintro ⟨haudio, hinput, houtput, hprice⟩
    exact ⟨⟨⟨hinput, houtput⟩, hprice⟩, haudio⟩

def cachedAudioReport (cachedAudio : UInt64) : Value :=
  .object
    [("promptTokenCount", .number (.posInt 100)),
     ("cachedContentTokenCount", .number (.posInt 80)),
     ("promptTokensDetails",
       .array [.object [("modality", .string "AUDIO"), ("tokenCount", .number (.posInt 80))]]),
     ("cacheTokensDetails",
       .array [.object [("modality", .string "AUDIO"),
         ("tokenCount", .number (.posInt cachedAudio))]]),
     ("candidatesTokenCount", .number (.posInt 20))]

/-- An item priced as `gemini-2.5-flash` is. -/
def flashItem : AnsweredItem :=
  { jobId := "batches/1", itemIndex := 0, requestId := "request-1"
    claimGeneration := 1, profileId := "profile-1", modelId := "gemini-2.5-flash"
    payableMultiplierBp := 10000, pricedTs := 1760000000
    tariffScheduleId := "google/gemini-developer-api/2026-08-14"
    prices :=
      { short :=
          { input := 300, audioInput := 1000, cachedInput := 30
            cachedAudioInput := 100, output := 2500 }
        imageOutput := 0
        longContextThreshold := 18446744073709551615
        long :=
          { input := 300, audioInput := 1000, cachedInput := 30
            cachedAudioInput := 100, output := 2500 }
        search := .perGroundedPrompt 35000000 }
    result :=
      { kind := .result, keyId := "key-1", nonce := List.replicate 24 0
        ciphertext := List.replicate 16 0, plaintextLen := 0
        plaintextDigest := List.replicate 32 0, retentionTs := 1763628810 }
    completed := 1760000010 }

theorem flashItem_ok : flashItem.Ok where
  jobId := by decide
  itemIndex := by decide
  requestId := by decide
  claimGeneration := by decide
  profileId := by decide
  modelId := by decide
  pricedTs := by decide
  tariffScheduleId := by decide
  prices := ⟨⟨by decide, by decide, by decide, by decide, by decide⟩,
    ⟨by decide, by decide, by decide, by decide, by decide⟩, by decide, by decide⟩
  resultKind := rfl
  result := by decide
  completed := by decide

/-- Eighty cached audio tokens of eighty cached ones: the parser leaves none
of them in the cached text, and the intent is refused. -/
theorem cached_audio_turn_unsettled :
    (counters (cachedAudioReport 80)).Fit ∧
      0 < costNanodollars (turnUsage (cachedAudioReport 80) 0 false) flashItem.prices ∧
      ¬ flashItem.Settles (turnUsage (cachedAudioReport 80) 0 false) := by
  have husage : turnUsage (cachedAudioReport 80) 0 false =
      { inputTokens := 20, cachedAudioInputTokens := 80, outputTokens := 20 } := by
    decide +kernel
  refine ⟨⟨by decide +kernel, by decide +kernel, by decide +kernel, by decide +kernel⟩,
    by decide +kernel, fun hsettles => ?_⟩
  rw [husage] at hsettles
  obtain ⟨-, hcached⟩ :=
    (settles_iff flashItem_ok (by decide +kernel) (by decide) (by decide)).mp hsettles
  exact absurd hcached (by decide)

/-- With forty of the eighty both validators pass it. -/
theorem half_cached_audio_turn_settles :
    flashItem.Settles (turnUsage (cachedAudioReport 40) 0 false) :=
  (reported_turn_settles_iff flashItem flashItem_ok (cachedAudioReport 40) 0 false
    ⟨by decide +kernel, by decide +kernel, by decide +kernel, by decide +kernel⟩
    (by decide) (by decide +kernel)).mpr
    ⟨by decide +kernel, by decide +kernel, by decide +kernel, by decide +kernel⟩

end ApiToken.Gemini
