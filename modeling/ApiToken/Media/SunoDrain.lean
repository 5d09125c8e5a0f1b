import ApiToken.Lib.Fallible
import ApiToken.Media.Suno

/-!
# Draining a Suno song

The feed polls of a created song or extension, from `parse_feed_clips` to the
loop of `drain_generation`, and what the generation is completed with.
-/

namespace ApiToken.Media.Suno

open Meter (Value)

/-! ## Reading the feed -/

inductive ClipLifecycle where
  | submitted | queued | streaming | complete | error
deriving DecidableEq

def ClipLifecycle.isFinal (l : ClipLifecycle) : Bool := l = .complete ∨ l = .error

def parseClipLifecycle : String → Option ClipLifecycle
  | "submitted" => some .submitted
  | "queued" => some .queued
  | "streaming" => some .streaming
  | "complete" => some .complete
  | "error" => some .error
  | _ => none

structure ClipState where
  id : String
  lifecycle : Option ClipLifecycle
  servedModel : Option String
  title : Option String
  artifacts : List (String × String)

def artifactFields : List String := ["audio_url", "video_url", "image_url"]

def parseClipObject (value : Value) : Except UpstreamVerdict ClipState := do
  let id ← orFail (providerId value) .protocol
  let lifecycle ←
    orFail (((value.get "status").bind Value.asStr).bind parseClipLifecycle) .protocol
  let text := fun field => (value.get field).bind Value.asStr
  return {
    id, lifecycle := some lifecycle
    servedModel := (text "model_name").filter fun m => m ≠ "" ∧ m.utf8ByteSize ≤ 256
    title := (text "title").filter fun t => t.utf8ByteSize ≤ 1024
    artifacts := artifactFields.filterMap fun field =>
      ((text field).filter fun url => url ≠ "" ∧ url.utf8ByteSize ≤ 4096).map (field, ·) }

variable (decode : List UInt8 → Option Value)

def parseFeedClips (status : Nat) (body : List UInt8) :
    Except UpstreamVerdict (List ClipState) :=
  let verdict := classifyStatus status
  if verdict ≠ .ok then .error verdict
  else
    match decode body with
    | some (.array entries) => entries.mapM parseClipObject
    | _ => .error .protocol

/-! ## Polling -/

inductive DrainPoll where
  | pending (status : ClipLifecycle)
  | final (clips : List ClipState) (succeeded : Bool)

/-- What a read of the feed came to: no answer, or a status and a body. -/
abbrev FeedAnswer := Except UpstreamVerdict (Nat × List UInt8)

def pollFeed (answer : FeedAnswer) : Except UpstreamVerdict (List ClipState) := do
  let (status, body) ← answer
  parseFeedClips decode status body

/-- `poll_upstream` of a song or an extension. -/
def pollUpstream (answer : FeedAnswer) : Except UpstreamVerdict DrainPoll := do
  let clips ← pollFeed decode answer
  if clips.any (·.lifecycle == some .error) then return .final clips false
  if !clips.isEmpty && clips.all (·.lifecycle.any ClipLifecycle.isFinal) then
    return .final clips true
  return .pending ((clips.filterMap (·.lifecycle)).head?.getD .queued)

/-- What a round of the drain meets. -/
inductive Tick where
  | aborted
  | deadline
  | polled (answer : FeedAnswer)

inductive Drained where
  | left
  | expired
  | lost
  | finalized (clips : List ClipState) (succeeded : Bool)

def drainRound : Tick → Option Drained
  | .aborted => some .left
  | .deadline => some .expired
  | .polled answer =>
    match pollUpstream decode answer with
    | .ok (.pending _) => none
    | .ok (.final clips succeeded) => some (.finalized clips succeeded)
    | .error .clientError | .error .protocol => some .lost
    | .error _ => none

/-- The loop of `drain_generation`. -/
def drainGeneration (ticks : List Tick) : Option Drained :=
  ticks.findSome? (drainRound decode)

/-! ## What a completed generation stores -/

def OneEach (ids : List String) (clips : List ClipState) : Prop :=
  ∀ id, (clips.map ClipState.id).count id = if id ∈ ids then 1 else 0

def CompletesFinal (ids : List String) (ticks : List Tick) : Prop :=
  ∀ clips, drainGeneration decode ticks = some (.finalized clips true) →
    (∀ id ∈ ids, ∃ answer found, .polled answer ∈ ticks ∧ pollFeed decode answer = .ok found ∧
      ∃ clip ∈ found, clip.id = id ∧ clip.lifecycle.any ClipLifecycle.isFinal) ∧
    OneEach ids clips

def AllComplete (clips : List ClipState) : Prop :=
  clips ≠ [] ∧ ∀ clip ∈ clips, clip.lifecycle = some .complete

/-- The drain goes on after an answer with no failed clip and not only
complete ones, and after an error that may pass. -/
def Tick.Passes : Tick → Prop
  | .polled answer =>
    match pollFeed decode answer with
    | .ok clips => (∀ clip ∈ clips, clip.lifecycle ≠ some .error) ∧ ¬ AllComplete clips
    | .error verdict => verdict ≠ .clientError ∧ verdict ≠ .protocol
  | _ => False

variable {decode}

theorem pollUpstream_ok {answer : FeedAnswer} {clips : List ClipState}
    (h : pollFeed decode answer = .ok clips) :
    (∃ clip ∈ clips, clip.lifecycle = some .error) ∧
        pollUpstream decode answer = .ok (.final clips false) ∨
      AllComplete clips ∧ pollUpstream decode answer = .ok (.final clips true) ∨
      ((∀ clip ∈ clips, clip.lifecycle ≠ some .error) ∧ ¬ AllComplete clips) ∧
        ∃ status, pollUpstream decode answer = .ok (.pending status) := by
  have hpoll : pollUpstream decode answer =
      if clips.any (·.lifecycle == some .error) then .ok (.final clips false)
      else if !clips.isEmpty && clips.all (·.lifecycle.any ClipLifecycle.isFinal) then
        .ok (.final clips true)
      else .ok (.pending ((clips.filterMap (·.lifecycle)).head?.getD .queued)) := by
    rw [pollUpstream, h]
    simp only [bind, Except.bind]
    split
    · rfl
    · split <;> rfl
  rw [hpoll]
  split
  · rename_i herror
    exact .inl ⟨by simpa using herror, rfl⟩
  · rename_i herror
    have hnone : ∀ clip ∈ clips, clip.lifecycle ≠ some .error := by simpa using herror
    have hall : (!clips.isEmpty && clips.all (·.lifecycle.any ClipLifecycle.isFinal)) = true ↔
        AllComplete clips := by
      simp only [guard_iffs, List.isEmpty_eq_false_iff, all_eq_true, AllComplete]
      refine and_congr_right fun _ => forall₂_congr fun clip hclip => ?_
      have := hnone clip hclip
      cases hl : clip.lifecycle with
      | none => simp
      | some l => cases l <;> simp_all [ClipLifecycle.isFinal]
    split
    · rename_i h
      exact .inr (.inl ⟨hall.mp h, rfl⟩)
    · rename_i h
      exact .inr (.inr ⟨⟨hnone, mt hall.mpr h⟩, _, rfl⟩)

theorem drainRound_none_iff {tick : Tick} : drainRound decode tick = none ↔ tick.Passes decode := by
  cases tick with
  | aborted | deadline => simp [drainRound, Tick.Passes]
  | polled answer =>
    cases h : pollFeed decode answer with
    | error verdict =>
      have hpoll : pollUpstream decode answer = .error verdict := by
        rw [pollUpstream, h]
        rfl
      cases verdict <;> simp [drainRound, hpoll, Tick.Passes, h]
    | ok clips =>
      simp only [Tick.Passes, h]
      rcases pollUpstream_ok h with ⟨⟨clip, hclip, herror⟩, hpoll⟩ | ⟨hall, hpoll⟩ |
        ⟨hpasses, status, hpoll⟩
      · simp only [drainRound, hpoll, reduceCtorEq, false_iff]
        exact fun hnone => hnone.1 clip hclip herror
      · simp only [drainRound, hpoll, reduceCtorEq, false_iff]
        exact fun hnone => hnone.2 hall
      · simp only [drainRound, hpoll, true_iff]
        exact hpasses

theorem drainRound_completed_iff {tick : Tick} {clips : List ClipState} :
    drainRound decode tick = some (.finalized clips true) ↔
      ∃ answer, tick = .polled answer ∧ pollFeed decode answer = .ok clips ∧
        AllComplete clips := by
  constructor
  · intro hround
    cases tick with
    | aborted | deadline => cases hround
    | polled answer =>
      refine ⟨answer, rfl, ?_⟩
      cases h : pollFeed decode answer with
      | error verdict =>
        have hpoll : pollUpstream decode answer = .error verdict := by
          rw [pollUpstream, h]
          rfl
        cases verdict <;> simp [drainRound, hpoll] at hround
      | ok found =>
        rcases pollUpstream_ok h with ⟨-, hpoll⟩ | ⟨hall, hpoll⟩ | ⟨-, _, hpoll⟩
        · simp [drainRound, hpoll] at hround
        · simp only [drainRound, hpoll, some.injEq, Drained.finalized.injEq,
            and_true] at hround
          subst hround
          exact ⟨rfl, hall⟩
        · simp [drainRound, hpoll] at hround
  · rintro ⟨answer, rfl, h, hall⟩
    rcases pollUpstream_ok h with ⟨⟨clip, hclip, herror⟩, -⟩ | ⟨-, hpoll⟩ | ⟨⟨-, hnot⟩, -⟩
    · exact absurd (herror.symm.trans (hall.2 clip hclip)) (by decide)
    · rw [drainRound, hpoll]
    · exact absurd hall hnot

/-- Over every run of polls, a generation completes as it should exactly when
the answer that completes it names each created id once. -/
theorem suno_completes_iff (ids : List String) (ticks : List Tick) :
    CompletesFinal decode ids ticks ↔
      ∀ before answer after clips, ticks = before ++ .polled answer :: after →
        (∀ tick ∈ before, tick.Passes decode) → pollFeed decode answer = .ok clips →
        AllComplete clips → OneEach ids clips := by
  have hfirst (clips : List ClipState) :
      drainGeneration decode ticks = some (.finalized clips true) ↔
        ∃ before answer after, ticks = before ++ .polled answer :: after ∧
          (∀ tick ∈ before, tick.Passes decode) ∧ pollFeed decode answer = .ok clips ∧
          AllComplete clips := by
    rw [drainGeneration, List.findSome?_eq_some_iff]
    simp only [drainRound_none_iff, drainRound_completed_iff]
    constructor
    · rintro ⟨before, _, after, hticks, ⟨answer, rfl, hfeed, hall⟩, hbefore⟩
      exact ⟨before, answer, after, hticks, hbefore, hfeed, hall⟩
    · rintro ⟨before, answer, after, hticks, hbefore, hfeed, hall⟩
      exact ⟨before, _, after, hticks, ⟨answer, rfl, hfeed, hall⟩, hbefore⟩
  constructor
  · intro h before answer after clips hticks hbefore hfeed hall
    exact (h clips ((hfirst clips).mpr ⟨before, answer, after, hticks, hbefore, hfeed, hall⟩)).2
  · intro h clips hdrain
    obtain ⟨before, answer, after, hticks, hbefore, hfeed, hall⟩ := (hfirst clips).mp hdrain
    have hone := h before answer after clips hticks hbefore hfeed hall
    refine ⟨fun id hid => ⟨answer, clips, by simp [hticks], hfeed, ?_⟩, hone⟩
    have hcount := hone id
    rw [if_pos hid] at hcount
    obtain ⟨clip, hclip, rfl⟩ := mem_map.mp
      (count_pos_iff.mp (by omega : 0 < (clips.map ClipState.id).count id))
    exact ⟨clip, hclip, rfl, by rw [hall.2 clip hclip]; rfl⟩

def partialFeed : Value :=
  .array [.object [("id", .string "clip-1"), ("status", .string "complete")]]

/-- Two clips were created; the first answer names one, and the generation
completes with it. -/
theorem suno_completes_early :
    ¬ CompletesFinal (fun _ => some partialFeed) ["clip-1", "clip-2"]
      [.polled (.ok (200, []))] := by
  intro h
  have hone := (h [⟨"clip-1", some .complete, none, none, []⟩] rfl).2 "clip-2"
  exact absurd hone (by decide)

end ApiToken.Media.Suno
