import ApiToken.Gemini.Metered

/-!
# Usage reports

What `usage_from_metadata` makes of one usage report, against the tokens the
provider reports, and what `merge_stream_response_value` makes of the frames of
a stream.
-/

namespace ApiToken.Gemini

open Meter (Value Number)

/-! ## One report -/

def reported (metadata : Value) (key : String) : Nat := (u64At metadata key).getD 0

def reportedAudio (metadata : Value) : Nat :=
  countModality (index metadata "promptTokensDetails") "AUDIO"

def reportedCachedAudio (metadata : Value) : Nat :=
  countModality (index metadata "cacheTokensDetails") "AUDIO"

/-- Every token of a report is in one of the parts that have a price, and in
one only. -/
structure Partitioned (metadata : Value) (u : GeminiUsage) : Prop where
  prompt : u.inputTokens + u.audioInputTokens + u.cachedInputTokens + u.cachedAudioInputTokens
    = reported metadata "promptTokenCount" + reported metadata "toolUsePromptTokenCount"
  answer : u.outputTokens + u.imageOutputTokens
    = reported metadata "candidatesTokenCount" + reported metadata "thoughtsTokenCount"

/-- The two sums of the report do not saturate. -/
structure SumsFit (metadata : Value) : Prop where
  prompt : reported metadata "promptTokenCount"
    + reported metadata "toolUsePromptTokenCount" ≤ u64Max
  answer : reported metadata "candidatesTokenCount"
    + reported metadata "thoughtsTokenCount" ≤ u64Max

theorem satAdd_of_le {a b : Nat} (h : a + b ≤ u64Max) : satAdd a b = a + b :=
  Nat.min_eq_left h

theorem answer_partitioned {metadata : Value} (hfits : SumsFit metadata) :
    (usageFromMetadata metadata).outputTokens
        + (usageFromMetadata metadata).imageOutputTokens
      = reported metadata "candidatesTokenCount" + reported metadata "thoughtsTokenCount" := by
  have hfit := hfits.answer
  simp only [usageFromMetadata, counters]
  simp only [reported] at *
  rw [satAdd_of_le (by omega)]
  omega

theorem prompt_parts {metadata : Value} (hfits : SumsFit metadata) :
    let c := counters metadata
    let u := usageFromMetadata metadata
    u.inputTokens + u.audioInputTokens + u.cachedInputTokens + u.cachedAudioInputTokens
      = (c.prompt - c.cached - (c.audioPrompt - c.cachedAudio)) + c.toolPrompt
        + (c.audioPrompt - c.cachedAudio) + c.cached := by
  have hfit := hfits.prompt
  have hshared : (counters metadata).cachedAudio ≤ (counters metadata).cached := by
    simp only [counters]
    omega
  have hinput : (counters metadata).prompt + (counters metadata).toolPrompt ≤ u64Max := hfit
  simp only [usageFromMetadata]
  rw [satAdd_of_le (by omega)]
  omega

/-- A report is partitioned if and only if its cached tokens and its audio
tokens, at most the whole prompt, have no more in common than the cached audio
tokens it reports. -/
theorem usage_partitioned_iff (metadata : Value) (hfits : SumsFit metadata)
    (hcached : reported metadata "cachedContentTokenCount"
      ≤ reported metadata "promptTokenCount") :
    Partitioned metadata (usageFromMetadata metadata) ↔
      reported metadata "cachedContentTokenCount"
          + min (reportedAudio metadata) (reported metadata "promptTokenCount")
        ≤ reported metadata "promptTokenCount" + reportedCachedAudio metadata := by
  have hparts := prompt_parts hfits
  have hanswer := answer_partitioned hfits
  have hwhole : (counters metadata).cached = reported metadata "cachedContentTokenCount" :=
    Nat.min_eq_left hcached
  have hprompt : (counters metadata).prompt = reported metadata "promptTokenCount" := rfl
  have htool : (counters metadata).toolPrompt = reported metadata "toolUsePromptTokenCount" := rfl
  have haudio : (counters metadata).audioPrompt
      = min (reportedAudio metadata) (reported metadata "promptTokenCount") := rfl
  have hshared : (counters metadata).cachedAudio
      = min (min (reportedCachedAudio metadata) (counters metadata).cached)
        (counters metadata).audioPrompt := rfl
  simp only at hparts
  constructor
  · intro h
    have hsum := h.prompt
    omega
  · intro hle
    exact ⟨by omega, hanswer⟩

def posInt (n : UInt64) : Value := .number (.posInt n)

def modality (name : String) (count : UInt64) : Value :=
  .array [.object [("modality", .string name), ("tokenCount", posInt count)]]

/-- The report of `usage_separates_cache_audio_tool_and_thinking`. -/
def separateReport : Value := .object
  [("promptTokenCount", posInt 1000), ("cachedContentTokenCount", posInt 400),
    ("candidatesTokenCount", posInt 30), ("thoughtsTokenCount", posInt 20),
    ("toolUsePromptTokenCount", posInt 10), ("promptTokensDetails", modality "AUDIO" 300),
    ("cacheTokensDetails", modality "AUDIO" 150)]

/-- Each class of tokens is counted once. -/
theorem separateReport_partitioned :
    Partitioned separateReport (usageFromMetadata separateReport) :=
  (usage_partitioned_iff separateReport ⟨by decide +kernel, by decide +kernel⟩
    (by decide +kernel)).mpr (by decide +kernel)

/-- A cached prompt that is half audio, with no details of the cache. -/
def overlappingReport : Value := .object
  [("promptTokenCount", posInt 100), ("cachedContentTokenCount", posInt 80),
    ("candidatesTokenCount", posInt 5), ("promptTokensDetails", modality "AUDIO" 50)]

/-- A hundred tokens are priced as a hundred and thirty. -/
theorem overlappingReport_counted_twice :
    reported overlappingReport "cachedContentTokenCount"
        ≤ reported overlappingReport "promptTokenCount" ∧
      usageFromMetadata overlappingReport
        = { audioInputTokens := 50, cachedInputTokens := 80, outputTokens := 5 } ∧
      ¬ Partitioned overlappingReport (usageFromMetadata overlappingReport) := by
  refine ⟨by decide +kernel, by decide +kernel, fun h => ?_⟩
  exact absurd h.prompt (by decide +kernel)

/-! ## The frames of a stream -/

/-- `grounding_usage`: the search queries, and whether anything is grounded. -/
def groundingUsage (value : Value) : Nat × Bool :=
  (elements (index value "candidates")).foldl (fun (queries, grounded) candidate =>
    match candidate.get "groundingMetadata" with
    | none => (queries, grounded)
    | some grounding =>
      let found := (elements (index grounding "webSearchQueries")).length
      (satAdd queries found, grounded || 0 < found
        || !(elements (index grounding "groundingChunks")).isEmpty)) (0, false)

def mergeStreamResponseValue (usage : GeminiUsage) (value : Value) : GeminiUsage :=
  let (queries, grounded) := groundingUsage value
  mergeGroundingUsage
    (match value.get "usageMetadata" with
    | none => usage
    | some metadata =>
      let snapshot := usageFromMetadata metadata
      if 0 < snapshot.totalTokens || usage.totalTokens = 0 then
        { snapshot with
          searchQueries := usage.searchQueries
          groundedSearchPrompts := usage.groundedSearchPrompts }
      else usage)
    queries grounded

def streamUsage (frames : List Value) : GeminiUsage :=
  frames.foldl mergeStreamResponseValue {}

def counted (value : Value) : Option GeminiUsage :=
  ((value.get "usageMetadata").map usageFromMetadata).filter (0 < ·.totalTokens)

def lastCounted (frames : List Value) : GeminiUsage :=
  ((frames.filterMap counted).getLast?).getD {}

def maxQueries (frames : List Value) : Nat :=
  (frames.map (fun frame => (groundingUsage frame).1)).foldr max 0

def maxGrounded (frames : List Value) : Nat :=
  (frames.map (fun frame => (groundingUsage frame).2.toNat)).foldr max 0

def GeminiUsage.searching (u : GeminiUsage) (queries grounded : Nat) : GeminiUsage :=
  { u with searchQueries := queries, groundedSearchPrompts := grounded }

theorem satAdd_eq_zero {a b : Nat} : satAdd a b = 0 ↔ a = 0 ∧ b = 0 := by
  unfold satAdd u64Max
  omega

theorem usageFromMetadata_of_zero {metadata : Value}
    (h : (usageFromMetadata metadata).totalTokens = 0) : usageFromMetadata metadata = {} := by
  simp only [GeminiUsage.totalTokens, GeminiUsage.promptTokens, satAdd_eq_zero] at h
  obtain ⟨⟨⟨⟨⟨hinput, haudio⟩, hcached⟩, hboth⟩, hout⟩, himage⟩ := h
  have hthinking : (usageFromMetadata metadata).thinkingOutputTokens = 0 :=
    (satAdd_eq_zero.mp hout).2
  have htool : (usageFromMetadata metadata).toolPromptTokens = 0 := by
    change min _ (usageFromMetadata metadata).inputTokens = 0
    rw [hinput, Nat.min_zero]
  have hqueries : (usageFromMetadata metadata).searchQueries = 0 := rfl
  have hgrounded : (usageFromMetadata metadata).groundedSearchPrompts = 0 := rfl
  generalize usageFromMetadata metadata = u at *
  cases u
  simp only at *
  subst_vars
  rfl

theorem totalTokens_searching (u : GeminiUsage) (queries grounded : Nat) :
    (u.searching queries grounded).totalTokens = u.totalTokens := rfl

theorem totalTokens_counted {value : Value} {u : GeminiUsage} (h : counted value = some u) :
    0 < u.totalTokens := by
  simpa using (filter_eq_some_iff.mp h).2

theorem merge_searching (u : GeminiUsage) (queries grounded : Nat) (value : Value)
    (hu : 0 < u.totalTokens ∨ u = {}) :
    mergeStreamResponseValue (u.searching queries grounded) value =
      ((counted value).getD u).searching (max queries (groundingUsage value).1)
        (max grounded (groundingUsage value).2.toNat) := by
  unfold mergeStreamResponseValue counted
  rw [totalTokens_searching]
  cases hmeta : value.get "usageMetadata" with
  | none => rfl
  | some metadata =>
    by_cases hpos : 0 < (usageFromMetadata metadata).totalTokens
    · simp [hpos, Option.filter, mergeGroundingUsage, GeminiUsage.searching]
    · have hzero := usageFromMetadata_of_zero (Nat.eq_zero_of_not_pos hpos)
      rcases hu with hu | rfl
      · simp [hpos, Nat.ne_of_gt hu, Option.filter, mergeGroundingUsage, GeminiUsage.searching]
      · have hempty : ¬ 0 < (usageFromMetadata metadata).totalTokens := hpos
        simp only [map_some, Option.filter, hempty, decide_false]
        rw [hzero]
        rfl

theorem lastCounted_append (frames : List Value) (frame : Value) :
    lastCounted (frames ++ [frame]) = (counted frame).getD (lastCounted frames) := by
  unfold lastCounted
  rw [List.filterMap_append]
  cases h : counted frame <;> simp [h]

theorem lastCounted_total (frames : List Value) :
    0 < (lastCounted frames).totalTokens ∨ lastCounted frames = {} := by
  unfold lastCounted
  cases h : (frames.filterMap counted).getLast? with
  | none => exact .inr rfl
  | some =>
    obtain ⟨value, -, hvalue⟩ := mem_filterMap.mp (List.mem_of_getLast? h)
    exact .inl (totalTokens_counted hvalue)

theorem foldr_max_insert (before after : List Nat) (x : Nat) :
    (before ++ x :: after).foldr max 0 = max x ((before ++ after).foldr max 0) := by
  rw [List.perm_middle.foldr_eq, List.foldr_cons]

theorem maxQueries_insert (before after : List Value) (frame : Value) :
    maxQueries (before ++ frame :: after)
      = max (groundingUsage frame).1 (maxQueries (before ++ after)) := by
  simp only [maxQueries, map_append, map_cons, foldr_max_insert]

theorem maxGrounded_insert (before after : List Value) (frame : Value) :
    maxGrounded (before ++ frame :: after)
      = max (groundingUsage frame).2.toNat (maxGrounded (before ++ after)) := by
  simp only [maxGrounded, map_append, map_cons, foldr_max_insert]

theorem streamUsage_eq (frames : List Value) :
    streamUsage frames
      = (lastCounted frames).searching (maxQueries frames) (maxGrounded frames) := by
  induction frames using List.reverseRecOn with
  | nil => rfl
  | append_singleton frames frame ih =>
    have hstep := merge_searching (lastCounted frames) (maxQueries frames)
      (maxGrounded frames) frame (lastCounted_total frames)
    unfold streamUsage at ih ⊢
    rw [foldl_append, foldl_cons, foldl_nil, ih, hstep, lastCounted_append]
    rw [maxQueries_insert, maxGrounded_insert, append_nil, Nat.max_comm,
      Nat.max_comm (maxGrounded frames)]

/-- A stream has the tokens of its last frame that counts any and the largest
search counters of its frames; a frame that counts no tokens can be put in
anywhere, and then moves nothing but the search counters, up to its own. -/
theorem stream_keeps_last_counted :
    (∀ frames, streamUsage frames
      = (lastCounted frames).searching (maxQueries frames) (maxGrounded frames)) ∧
    ∀ before frame after, counted frame = none →
      streamUsage (before ++ frame :: after)
        = (streamUsage (before ++ after)).searching
            (max (groundingUsage frame).1 (streamUsage (before ++ after)).searchQueries)
            (max (groundingUsage frame).2.toNat
              (streamUsage (before ++ after)).groundedSearchPrompts) := by
  refine ⟨streamUsage_eq, fun before frame after hframe => ?_⟩
  have hlast : lastCounted (before ++ frame :: after) = lastCounted (before ++ after) := by
    simp only [lastCounted, List.filterMap_append, List.filterMap_cons, hframe]
  rw [streamUsage_eq, streamUsage_eq, hlast, maxQueries_insert, maxGrounded_insert]
  rfl

def groundingFrame : Value := .object
  [("candidates", .array [.object [("groundingMetadata", .object
    [("webSearchQueries", .array [.string "one", .string "two"])])]])]

/-- A frame without a usage report that changes the usage of a stream. -/
theorem groundingFrame_counts :
    groundingFrame.get "usageMetadata" = none ∧
      streamUsage [.object [("usageMetadata", separateReport)]]
        ≠ streamUsage [groundingFrame, .object [("usageMetadata", separateReport)]] := by
  exact ⟨rfl, by decide +kernel⟩

end ApiToken.Gemini
