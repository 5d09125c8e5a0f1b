import ApiToken.Forward.UsageRow
import ApiToken.Meter.Usage

/-!
# Accounting of streamed turns

`SseAccounting` of the KIMI and GLM gateways: the bytes of a stream arrive in
chunks, are cut into frames, and each event merges into the usage of the turn.
-/

namespace ApiToken.Forward.Sse

open Meter (Value saturatingAdd)
open UsageRow (Usage)

/-! ## Merging events -/

/-- The two gateways that read their streams this way. -/
inductive Provider where
  | kimi
  | glm

def Provider.name : Provider → String
  | kimi => "KIMI"
  | glm => "GLM"

def Provider.reasoningFields : Provider → List String
  | kimi => ["reasoning_output_tokens"]
  | glm => ["reasoning_tokens", "reasoning_output_tokens"]

variable (provider : Provider)

def usageFromValue (u : Value) : Usage :=
  let g := fun key => ((u.get key).bind Value.asU64).getD 0
  let splitTotal := match u.get "cache_creation" with
    | some (.object fields) => (fields.filterMap fun f => f.2.asU64).foldl saturatingAdd 0
    | _ => 0
  let cacheWrite := if splitTotal > 0 then splitTotal else g "cache_creation_input_tokens"
  ⟨(g "input_tokens").toNat, (g "cache_read_input_tokens").toNat, cacheWrite.toNat,
    (g "output_tokens").toNat,
    (provider.reasoningFields.map fun key => (g key).toNat).foldl max 0⟩

def eventUsage (value : Value) : Option Value :=
  ((value.get "message").bind (Value.get "usage")).or (value.get "usage")

def mergeStreamEvent (usage : Usage) (value : Value) : Usage :=
  match (eventUsage value).map (usageFromValue provider) with
  | none => usage
  | some parsed =>
    let keep := fun counter : Usage → Nat =>
      if counter parsed > 0 then counter parsed else counter usage
    ⟨keep Usage.inputTokens, keep Usage.cacheReadTokens, keep Usage.cacheWriteTokens,
      keep Usage.outputTokens, keep Usage.reasoningOutputTokens⟩

/-! ## Frames -/

/-- The first place where the bytes go on with `pattern`. -/
def position (pattern : List UInt8) : List UInt8 → Option Nat
  | [] => none
  | b :: rest =>
    if pattern <+: b :: rest then some 0 else (position pattern rest).map (· + 1)

def lfPair : List UInt8 := [10, 10]
def crlfPair : List UInt8 := [13, 10, 13, 10]

/-- Where the first frame ends, and how long the mark of its end is. -/
def eventBoundary (bytes : List UInt8) : Option (Nat × Nat) :=
  match position lfPair bytes, position crlfPair bytes with
  | some lf, some crlf => some (if lf ≤ crlf then (lf, 2) else (crlf, 4))
  | some lf, none => some (lf, 2)
  | none, some crlf => some (crlf, 4)
  | none, none => none

variable {pattern bytes text : List UInt8} {i : Nat}

theorem position_bounds {at' : Nat} (h : position pattern bytes = some at') :
    pattern <+: bytes.drop at' := by
  induction bytes generalizing at' with
  | nil => cases h
  | cons b rest ih =>
    rw [position] at h
    split at h
    · cases h
      assumption
    · obtain ⟨i, hi, rfl⟩ := map_eq_some_iff.mp h
      exact ih hi

theorem eventBoundary_bounds {found : Nat × Nat} (h : eventBoundary bytes = some found) :
    0 < found.2 ∧ found.1 + found.2 ≤ bytes.length := by
  have hlf {i : Nat} (hi : position lfPair bytes = some i) : i + 2 ≤ bytes.length := by
    have := (position_bounds hi).length_le
    simp only [lfPair, length_cons, length_nil, length_drop] at this
    omega
  have hcrlf {i : Nat} (hi : position crlfPair bytes = some i) : i + 4 ≤ bytes.length := by
    have := (position_bounds hi).length_le
    simp only [crlfPair, length_cons, length_nil, length_drop] at this
    omega
  rw [eventBoundary] at h
  split at h
  · rename_i i j hi hj
    have := hlf hi
    have := hcrlf hj
    cases h
    split <;> omega
  · rename_i i hi _
    cases h
    exact ⟨Nat.two_pos, hlf hi⟩
  · rename_i j _ hj
    cases h
    exact ⟨Nat.succ_pos 3, hcrlf hj⟩
  · cases h

def takeFrames (pending : List UInt8) : List (List UInt8) × List UInt8 :=
  match _h : eventBoundary pending with
  | none => ([], pending)
  | some (at', width) =>
    let (frames, rest) := takeFrames (pending.drop (at' + width))
    (pending.take at' :: frames, rest)
termination_by pending.length
decreasing_by
  have := eventBoundary_bounds _h
  rw [length_drop]
  omega

/-! ## The accounting -/

structure Read where
  usage : Usage := ⟨0, 0, 0, 0, 0⟩
  usageSeen : Bool := false
  servedModel : Option String := none
  terminal : Bool := false

variable (decode : List UInt8 → Option Value)

def isAsciiWhitespace (b : UInt8) : Bool := b == 32 || b == 9 || b == 10 || b == 12 || b == 13

def trimAscii (bytes : List UInt8) : List UInt8 :=
  ((bytes.dropWhile isAsciiWhitespace).reverse.dropWhile isAsciiWhitespace).reverse

/-- What stands behind `data:` in a line. -/
def lineData (line : List UInt8) : Option (List UInt8) :=
  let line := if line.getLast? = some 13 then line.dropLast else line
  if [100, 97, 116, 97, 58] <+: line then some (trimAscii (line.drop 5)) else none

def doneData : List UInt8 := [91, 68, 79, 78, 69, 93]

def Read.event (read : Read) (value : Value) : Read where
  usage := mergeStreamEvent provider read.usage value
  usageSeen := read.usageSeen || (eventUsage value).isSome
  servedModel := read.servedModel.or
    (((((value.get "message").bind (Value.get "model")).or (value.get "model")).bind
      Value.asStr).filter fun model => model ≠ "")
  terminal :=
    let type := (value.get "type").bind Value.asStr
    read.terminal || type == some "message_stop" || type == some "message_completed"

def Read.line (read : Read) (line : List UInt8) : Read :=
  match lineData line with
  | none => read
  | some data =>
    if data = doneData then { read with terminal := true }
    else
      match decode data with
      | none => read
      | some value => read.event provider value

def frameLines (frame : List UInt8) : List (List UInt8) := frame.splitOn 10

def Read.consumeFrame (read : Read) (frame : List UInt8) : Read :=
  (frameLines frame).foldl (Read.line provider decode) read

/-- The unfinished frame, and what was read before it. -/
structure SseAccounting where
  pending : List UInt8 := []
  read : Read := {}

def streamStartMaxBytes : Nat := 256 * 1024

def SseAccounting.push (s : SseAccounting) (bytes : List UInt8) :
    Except String SseAccounting :=
  let pending := s.pending ++ bytes
  if pending.length > streamStartMaxBytes then
    .error (provider.name ++ " SSE accounting frame exceeded bound")
  else
    let (frames, rest) := takeFrames pending
    .ok ⟨rest, frames.foldl (Read.consumeFrame provider decode) s.read⟩

def SseAccounting.finish (s : SseAccounting) : Read :=
  if s.pending = [] then s.read else s.read.consumeFrame provider decode s.pending

def account (chunks : List (List UInt8)) : Except String Read := do
  let s ← chunks.foldlM (SseAccounting.push provider decode) {}
  return s.finish provider decode

/-! ## The whole text -/

def frames (text : List UInt8) : List (List UInt8) :=
  let (frames, rest) := takeFrames text
  if rest = [] then frames else frames ++ [rest]

def lineEvent (line : List UInt8) : Option Value :=
  match lineData line with
  | none => none
  | some data => if data = doneData then none else decode data

def events (text : List UInt8) : List Value :=
  ((frames text).flatMap frameLines).filterMap (lineEvent decode)

/-- The unfinished frame and the chunk behind it fit, each time one arrives
behind `text`. -/
def Fits (text : List UInt8) : List (List UInt8) → Prop
  | [] => True
  | chunk :: chunks =>
    (takeFrames text).2.length + chunk.length ≤ streamStartMaxBytes ∧ Fits (text ++ chunk) chunks

/-! ## A boundary stays where it is -/

theorem position_append (more : List UInt8) (h : position pattern bytes = some i) :
    position pattern (bytes ++ more) = some i := by
  induction bytes generalizing i with
  | nil => cases h
  | cons b rest ih =>
    rw [position] at h
    rw [cons_append, position]
    split at h
    · rename_i hhead
      cases h
      exact if_pos (hhead.trans (prefix_append (b :: rest) more))
    · rename_i hhead
      obtain ⟨j, hj, rfl⟩ := map_eq_some_iff.mp h
      have hlong : pattern.length ≤ rest.length := by
        have := (position_bounds hj).length_le
        rw [length_drop] at this
        omega
      rw [if_neg, ih hj]
      · rfl
      · exact fun hp => hhead (List.prefix_of_prefix_length_le hp
          (prefix_append (b :: rest) more) (by rw [length_cons]; omega))

theorem position_ne_none (more : List UInt8) (hne : pattern ≠ [])
    (hi : i + pattern.length ≤ bytes.length) (h : pattern <+: (bytes ++ more).drop i) :
    position pattern bytes ≠ none := by
  induction bytes generalizing i with
  | nil =>
    have := List.length_pos_of_ne_nil hne
    rw [length_nil] at hi
    omega
  | cons b rest ih =>
    rw [length_cons] at hi
    rw [position]
    split
    · exact Option.some_ne_none _
    · rename_i hhead
      cases i with
      | zero =>
        exact absurd (List.prefix_of_prefix_length_le h (prefix_append (b :: rest) more)
          (by rw [length_cons]; omega)) hhead
      | succ i =>
        have := ih (by omega) h
        simpa using this

theorem getElem?_eq_pattern (h : pattern <+: bytes.drop i) {k : Nat} (hk : k < pattern.length) :
    bytes[i + k]? = pattern[k]? := by
  obtain ⟨rest, hrest⟩ := h
  rw [← List.getElem?_drop, ← hrest, List.getElem?_append_left hk]

theorem lf_le_crlf {more : List UInt8} {j : Nat} (hlf : position lfPair bytes = some i)
    (hnone : position crlfPair bytes = none)
    (hcrlf : position crlfPair (bytes ++ more) = some j) : i ≤ j := by
  by_contra hlt
  have hi := position_bounds (position_append more hlf)
  have hj := position_bounds hcrlf
  have hin := (position_bounds hlf).length_le
  simp only [lfPair, length_cons, length_nil, length_drop] at hin
  have h0 := getElem?_eq_pattern hi (k := 0) (by decide)
  have h1 := getElem?_eq_pattern hi (k := 1) (by decide)
  have h2 := getElem?_eq_pattern hj (k := 2) (by decide)
  have hsecond : i ≠ j + 1 := by
    rintro rfl
    exact absurd (h1.symm.trans h2) (by decide)
  have hthird : i ≠ j + 2 := by
    rintro rfl
    exact absurd (h0.symm.trans h2) (by decide)
  -- the longer mark is then within the bytes
  have hwithin : j + crlfPair.length ≤ bytes.length := by
    simp only [crlfPair, length_cons, length_nil]
    omega
  exact position_ne_none more (cons_ne_nil _ _) hwithin hj hnone

theorem eventBoundary_append {found : Nat × Nat} (more : List UInt8)
    (h : eventBoundary bytes = some found) : eventBoundary (bytes ++ more) = some found := by
  rw [eventBoundary] at h
  split at h
  · rename_i hlf hcrlf
    rw [eventBoundary, position_append more hlf, position_append more hcrlf]
    exact h
  · rename_i i hlf hcrlf
    rw [eventBoundary, position_append more hlf]
    cases hj : position crlfPair (bytes ++ more) with
    | none => exact h
    | some j =>
      dsimp only
      rw [if_pos (lf_le_crlf hlf hcrlf hj)]
      exact h
  · rename_i j hlf hcrlf
    rw [eventBoundary, position_append more hcrlf]
    cases hi : position lfPair (bytes ++ more) with
    | none => exact h
    | some i =>
      have hend : j + 4 ≤ bytes.length :=
        (eventBoundary_bounds (show eventBoundary bytes = some (j, 4) by
          rw [eventBoundary, hlf, hcrlf])).2
      have hlt : ¬ i ≤ j := by
        intro hle
        have hwithin : i + lfPair.length ≤ bytes.length := by
          simp only [lfPair, length_cons, length_nil]
          omega
        exact position_ne_none more (cons_ne_nil _ _) hwithin (position_bounds hi) hlf
      dsimp only
      rw [if_neg hlt]
      exact h
  · cases h

/-! ## Chunks -/

theorem takeFrames_append (a b : List UInt8) :
    takeFrames (a ++ b) =
      ((takeFrames a).1 ++ (takeFrames ((takeFrames a).2 ++ b)).1,
        (takeFrames ((takeFrames a).2 ++ b)).2) := by
  induction a using takeFrames.induct with
  | case1 pending h =>
    have hnone : takeFrames pending = ([], pending) := by
      rw [takeFrames]
      split
      · rfl
      · rename_i hsome
        rw [h] at hsome
        cases hsome
    rw [hnone]
    rfl
  | case2 pending at' width h _ _ _ ih =>
    have hsome {bytes : List UInt8} (hb : eventBoundary bytes = some (at', width)) :
        takeFrames bytes = (bytes.take at' :: (takeFrames (bytes.drop (at' + width))).1,
          (takeFrames (bytes.drop (at' + width))).2) := by
      rw [takeFrames]
      split
      · rename_i hn
        rw [hb] at hn
        cases hn
      · rename_i hs
        rw [hb] at hs
        cases hs
        rfl
    have hbounds := (eventBoundary_bounds h).2
    rw [hsome h, hsome (eventBoundary_append b h), List.drop_append_of_le_length hbounds, ih,
      List.take_append_of_le_length (by omega)]
    rfl

def behind (text : List UInt8) : SseAccounting :=
  ⟨(takeFrames text).2, (takeFrames text).1.foldl (Read.consumeFrame provider decode) {}⟩

variable {provider decode}

theorem push_behind {chunk : List UInt8} {s : SseAccounting} :
    (behind provider decode text).push provider decode chunk = .ok s ↔
      (takeFrames text).2.length + chunk.length ≤ streamStartMaxBytes ∧
        s = behind provider decode (text ++ chunk) := by
  have hnext : behind provider decode (text ++ chunk) =
      ⟨(takeFrames ((takeFrames text).2 ++ chunk)).2,
        (takeFrames ((takeFrames text).2 ++ chunk)).1.foldl (Read.consumeFrame provider decode)
          (behind provider decode text).read⟩ := by
    rw [behind, takeFrames_append, foldl_append]
    rfl
  rw [hnext, SseAccounting.push, length_append]
  dsimp only
  split
  · rename_i hlong
    change (takeFrames text).2.length + chunk.length > streamStartMaxBytes at hlong
    constructor
    · intro h
      cases h
    · intro h
      omega
  · rename_i hlong
    change ¬ (takeFrames text).2.length + chunk.length > streamStartMaxBytes at hlong
    constructor
    · intro h
      cases h
      exact ⟨by omega, rfl⟩
    · rintro ⟨-, rfl⟩
      rfl

theorem foldlM_behind {chunks : List (List UInt8)} {s : SseAccounting} :
    chunks.foldlM (SseAccounting.push provider decode) (behind provider decode text) = .ok s ↔
      Fits text chunks ∧ s = behind provider decode (text ++ chunks.flatten) := by
  induction chunks generalizing text with
  | nil => simp [Fits, pure, Except.pure, eq_comm]
  | cons chunk chunks ih =>
    rw [foldlM_cons, bind_eq_ok, Fits, flatten_cons, ← append_assoc]
    constructor
    · rintro ⟨next, hpush, hrest⟩
      obtain ⟨hfits, rfl⟩ := push_behind.mp hpush
      obtain ⟨hchunks, hs⟩ := ih.mp hrest
      exact ⟨⟨hfits, hchunks⟩, hs⟩
    · rintro ⟨⟨hfits, hchunks⟩, hs⟩
      exact ⟨_, push_behind.mpr ⟨hfits, rfl⟩, ih.mpr ⟨hchunks, hs⟩⟩

theorem finish_behind (text : List UInt8) :
    (behind provider decode text).finish provider decode =
      (frames text).foldl (Read.consumeFrame provider decode) {} := by
  by_cases h : (takeFrames text).2 = []
  · simp [SseAccounting.finish, behind, frames, h]
  · simp [SseAccounting.finish, behind, frames, h]

theorem Read.line_usage (read : Read) (line : List UInt8) :
    (read.line provider decode line).usage =
      (lineEvent decode line).elim read.usage (mergeStreamEvent provider read.usage) := by
  rw [Read.line, lineEvent]
  cases lineData line with
  | none => rfl
  | some data =>
    dsimp only
    split
    · rfl
    · cases decode data <;> rfl

theorem lines_usage (read : Read) (lines : List (List UInt8)) :
    (lines.foldl (Read.line provider decode) read).usage =
      (lines.filterMap (lineEvent decode)).foldl (mergeStreamEvent provider) read.usage := by
  induction lines generalizing read with
  | nil => rfl
  | cons line lines ih =>
    rw [foldl_cons, ih, Read.line_usage, List.filterMap_cons]
    cases lineEvent decode line <;> rfl

theorem frames_usage (text : List UInt8) :
    ((frames text).foldl (Read.consumeFrame provider decode) {}).usage =
      (events decode text).foldl (mergeStreamEvent provider) ⟨0, 0, 0, 0, 0⟩ := by
  rw [events, ← lines_usage ({} : Read), List.foldl_flatMap]
  rfl

/-- However a stream is cut, its accounting ends, with what the whole text
gives, exactly when no chunk overflows together with the frame it goes on. -/
theorem sse_chunking_iff (provider : Provider) (decode : List UInt8 → Option Value)
    (chunks : List (List UInt8)) :
    (∃ read, account provider decode chunks = .ok read ∧
        read = (frames chunks.flatten).foldl (Read.consumeFrame provider decode) {} ∧
        read.usage =
          (events decode chunks.flatten).foldl (mergeStreamEvent provider) ⟨0, 0, 0, 0, 0⟩) ↔
      Fits [] chunks := by
  have hstart : ({} : SseAccounting) = behind provider decode [] := by
    rw [behind, takeFrames]
    rfl
  simp only [account, hstart, ok_steps, foldlM_behind, nil_append]
  constructor
  · rintro ⟨_, ⟨_, ⟨hfits, -⟩, -⟩, -⟩
    exact hfits
  · intro hfits
    exact ⟨_, ⟨_, ⟨hfits, rfl⟩, rfl⟩, finish_behind _, by rw [finish_behind, frames_usage]⟩

theorem mem_frames {f : List UInt8} (hf : f ∈ frames text) :
    f ∈ (takeFrames text).1 ∨ f = (takeFrames text).2 := by
  by_cases h : (takeFrames text).2 = []
  · simp only [frames, h, if_true] at hf
    exact .inl hf
  · simp only [frames, h, if_false, mem_append, mem_singleton] at hf
    exact hf

theorem takeFrames_newlines (n : Nat) :
    (takeFrames (List.replicate n 10)).2.length ≤ 1 ∧
      ∀ f ∈ (takeFrames (List.replicate n 10)).1, f = [] := by
  induction n using Nat.twoStepInduction with
  | zero =>
    rw [List.replicate_zero, takeFrames]
    simp [eventBoundary, position]
  | one =>
    rw [takeFrames]
    simp [eventBoundary, position, lfPair, crlfPair]
  | more n ih _ =>
    have hcrlf (k : Nat) : position crlfPair (List.replicate k 10) = none := by
      induction k with
      | zero => rfl
      | succ k ihk => rw [List.replicate_succ, position, ihk]; simp [crlfPair]
    have hfound : eventBoundary (List.replicate (n + 2) 10) = some (0, 2) := by
      rw [eventBoundary, hcrlf]
      simp [List.replicate_succ, position, lfPair]
    rw [takeFrames]
    split
    · rename_i hnone
      rw [hfound] at hnone
      cases hnone
    · rename_i hsome
      rw [hfound] at hsome
      cases hsome
      simpa [List.replicate_succ] using ih

/-- Newlines alone: every frame is empty, and the chunk is too long. -/
theorem sse_chunk_overflows :
    ¬ ∀ (provider : Provider) (chunks : List (List UInt8)),
      (∀ f ∈ frames chunks.flatten, f.length ≤ streamStartMaxBytes) →
      ∃ read, account provider (fun _ => none) chunks = .ok read := by
  intro h
  obtain ⟨read, hread⟩ := h .kimi [List.replicate (streamStartMaxBytes + 1) 10] (by
    intro f hf
    obtain ⟨hrest, hempty⟩ := takeFrames_newlines (streamStartMaxBytes + 1)
    rw [flatten_cons, List.flatten_nil, append_nil] at hf
    rcases mem_frames hf with hf | rfl
    · rw [hempty f hf]
      exact Nat.zero_le _
    · exact hrest.trans (by decide))
  have hlong : ([] ++ List.replicate (streamStartMaxBytes + 1) (10 : UInt8)).length >
      streamStartMaxBytes := by
    rw [nil_append, List.length_replicate]
    exact Nat.lt_succ_self _
  rw [account, foldlM_cons, SseAccounting.push, if_pos hlong] at hread
  cases hread

end ApiToken.Forward.Sse
