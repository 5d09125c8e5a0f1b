import ApiToken.Media.Suno
import ApiToken.Media.Tripo3d

/-!
# At most one paid create per request

A request should go on to another profile only when the attempt behind it
created nothing. The answers that are read all tell: a refusal created
nothing, and an answer that may have created something is the last one. What
does not tell is a call that left and was never answered; both planes take it
for a call that never left, and Suno takes an answer whose body fails for one
too. A request creates at most once exactly when it never goes on from such an
attempt.
-/

namespace ApiToken.Media

variable {policy : AttemptPolicy} {left : Nat} {verdict : UpstreamVerdict} {w : Reply}

/-- At most one attempt may have created a task, and the last one only. -/
structure SingleCreate {α ω : Type} (mayHaveCreated named : α → Bool)
    (h : Attempts α ω) : Prop where
  proven : ∀ a ∈ h.passed, mayHaveCreated a = false
  once : (h.all.filter mayHaveCreated).length ≤ 1
  pinned : ∀ a ∈ h.passed, named a = false

/-- When going on from a possible creation is going on blindly, and a blind
attempt is always gone on from. -/
theorem singleCreate_iff {α ω : Type} {mayHaveCreated named : α → Bool}
    {Blind : α → Prop} {h : Attempts α ω}
    (hpassed : ∀ a ∈ h.passed, mayHaveCreated a = true ↔ Blind a)
    (hnamed : ∀ a ∈ h.passed, named a = false) (hlast : ∀ a, h.last = some a → ¬ Blind a) :
    SingleCreate mayHaveCreated named h ↔ ∀ a ∈ h.all, ¬ Blind a := by
  constructor
  · intro hsingle a ha hblind
    rcases mem_append.mp ha with hp | hl
    · have hmay := (hpassed a hp).mpr hblind
      rw [hsingle.proven a hp] at hmay
      cases hmay
    · exact hlast a (mem_toList.mp hl) hblind
  · intro hnone
    have hproven : ∀ a ∈ h.passed, mayHaveCreated a = false := by
      intro a ha
      have hblind := hnone a (mem_append_left _ ha)
      rw [← hpassed a ha] at hblind
      simpa using hblind
    exact ⟨hproven, harmful_le_one _ hproven, hnamed⟩

/-! ## Tripo3D -/

namespace Tripo3d

open Meter (Value)

variable {decode : List UInt8 → Option Value} {sticky : Option String}
  {loop next : Loop} {round : Round} {a : Attempt}

theorem transport_rotates_iff :
    (decide .transport .beforeCreate policy left).next = .rotateToAnotherProfile ↔
      2 ≤ policy.transportBudget ∧ left ≠ 0 := by
  rw [decide, Axes.rotates_iff]
  simp [axes, mayRotate, spendsTransportBudget]

theorem rotates_refused
    (h : (decide verdict .beforeCreate policy left).next = .rotateToAnotherProfile) :
    verdict ≠ .protocol := by
  rw [decide, Axes.rotates_iff] at h
  exact h.2.2.1

/-- Gone on from: a call that was not answered and that the transport budget
pays for, or an answer that refuses. -/
theorem createTurn_goOn (h : createTurn decode sticky loop round = .goOn a next) :
    a.taskId decode = none ∧ (a.mayHaveCreated decode = true ↔ a.Blind) := by
  unfold createTurn at h
  split at h
  · cases h
  rename_i profile _
  split at h
  · -- the call was not answered
    rename_i failure hsend
    obtain ⟨hnext, rfl⟩ := afterDecision_goOn h
    have hroom := transport_rotates_iff.mp hnext
    refine ⟨by simp [Attempt.taskId, hsend], ?_⟩
    cases hexchange : round.exchange with
    | unsent => simp [Attempt.mayHaveCreated, Attempt.Blind, Attempt.lost, hexchange]
    | lost =>
      simp only [Attempt.mayHaveCreated, Attempt.Blind, Attempt.lost, hexchange, true_iff]
      exact ⟨trivial, hroom.1, hroom.2⟩
    | answered => simp [hexchange, send] at hsend
  · rename_i response hsend
    have hexchange : round.exchange =
        .answered response.status response.retryAfter response.stream := by
      cases hcase : round.exchange with
      | unsent | lost => simp [hcase, send] at hsend
      | answered =>
        rw [hcase, send] at hsend
        injection hsend with hsend
        rw [← hsend]
    split at h
    · cases h
    rename_i body hread
    split at h
    · cases h
    · -- the answer refuses
      rename_i verdict hparse
      obtain ⟨hnext, rfl⟩ := afterDecision_goOn h
      have hrefused := rotates_refused hnext
      refine ⟨by simp [Attempt.taskId, hsend, hread, hparse, Except.toOption], ?_⟩
      have hmay : (⟨profile, loop, round, (decide verdict .beforeCreate loop.policy
          (remainingCount round.fleetAfter loop.excluded profile)).effect,
          response.retryUntil round.now⟩ : Attempt).mayHaveCreated decode = false := by
        simp [Attempt.mayHaveCreated, hexchange, hread, hparse, hrefused]
      rw [hmay]
      simp [Attempt.Blind, Attempt.lost, hexchange]

theorem createTurn_stop (h : createTurn decode sticky loop round = .stop a w) : ¬ a.Blind := by
  rintro ⟨hlost, hbudget, hleft⟩
  unfold createTurn at h
  split at h
  · cases h
  rename_i profile _
  split at h
  · obtain ⟨hnext, rfl⟩ := afterDecision_stop h
    exact hnext (transport_rotates_iff.mpr ⟨hbudget, hleft⟩)
  · rename_i response hsend
    have hround : a.round = round := by
      split at h
      · injection h with h _
        rw [← h]
      · split at h
        · injection h with h _
          rw [← h]
        · rw [(afterDecision_stop h).2]
    rw [Attempt.lost, hround] at hlost
    simp [hlost, send] at hsend

/-- A sticky request whose pinned profile was excluded finds none in its next
round; the attempt before it counts as gone on from. -/
theorem single_create_iff (decode : List UInt8 → Option Value) (sticky : Option String)
    (rounds : List Round) :
    SingleCreate (Attempt.mayHaveCreated decode) (fun a => (a.taskId decode).isSome)
        (createLoop decode sticky rounds) ↔
      ∀ a ∈ (createLoop decode sticky rounds).all, ¬ a.Blind := by
  refine singleCreate_iff ?_ ?_ ?_
  · intro a ha
    obtain ⟨_, _, _, hturn⟩ := mem_passed ha
    exact (createTurn_goOn hturn).2
  · intro a ha
    obtain ⟨_, _, _, hturn⟩ := mem_passed ha
    simp [(createTurn_goOn hturn).1]
  · intro a ha
    obtain ⟨_, _, _, hturn⟩ := mem_last ha
    exact createTurn_stop hturn

end Tripo3d

/-! ## Suno -/

namespace Suno

open Meter (Value)

variable {decode : List UInt8 → Option Value} {loop next : Loop} {round : Round}
  {a : Attempt}

theorem transport_rotates_iff :
    (decide .transport .beforeCreate policy left).next = .rotateToAnotherProfile ↔
      2 ≤ policy.transportBudget ∧ left ≠ 0 := by
  rw [decide, Axes.rotates_iff]
  simp [axes, mayRotate, spendsTransportBudget]

theorem rotates_refused
    (h : (decide verdict .beforeCreate policy left).next = .rotateToAnotherProfile) :
    verdict ≠ .protocol := by
  rw [decide, Axes.rotates_iff] at h
  exact h.2.2.1

theorem called_eq : a.called decode = true ↔ precheck decode a.round = .ok () := by
  unfold Attempt.called
  cases precheck decode a.round with
  | error refusal | ok u => simp [Except.isOk, Except.toBool]

/-- A call that left without its answer being read is a transport fault to the
loop, whatever it did. -/
theorem lost_refused (h : a.lost decode) :
    ∃ refusal, precheckAndCreate decode a.round = .error refusal ∧
      refusal.verdict = .transport ∧ a.mayHaveCreated decode = true := by
  obtain ⟨hcalled, hlost⟩ := h
  rw [precheckAndCreate, called_eq.mp hcalled, Attempt.mayHaveCreated, hcalled]
  cases hexchange : a.round.exchange with
  | unsent => simp [hexchange] at hlost
  | lost => exact ⟨_, rfl, rfl, rfl⟩
  | answered status retryAfter stream =>
    simp only [hexchange] at hlost
    cases hread : readBounded responseBodyLimit ⟨status, retryAfter, stream⟩ with
    | ok => simp [hread, Except.isOk, Except.toBool] at hlost
    | error => exact ⟨⟨.transport, none, status⟩, by simp [sendCreate, send, hread], rfl,
        by simp [hread]⟩

theorem refused_of_not_lost {refusal : Refusal}
    (h : precheckAndCreate decode a.round = .error refusal) (hlost : ¬ a.lost decode)
    (hmay : a.mayHaveCreated decode = true) : refusal.verdict = .protocol := by
  rw [Attempt.mayHaveCreated, Bool.and_eq_true] at hmay
  obtain ⟨hcalled, hmay⟩ := hmay
  rw [precheckAndCreate, called_eq.mp hcalled] at h
  cases hexchange : a.round.exchange with
  | unsent => simp [hexchange] at hmay
  | lost => exact absurd ⟨hcalled, by simp [hexchange]⟩ hlost
  | answered status retryAfter stream =>
    simp only [hexchange] at h hmay
    cases hread : readBounded responseBodyLimit ⟨status, retryAfter, stream⟩ with
    | error =>
      exact absurd ⟨hcalled, by simp [hexchange, hread, Except.isOk, Except.toBool]⟩ hlost
    | ok body =>
      simp only [sendCreate, send, hread] at h hmay
      cases hparse : parseCreatedIds decode status body with
      | ok => simp [hparse] at h
      | error =>
        simp only [hparse, Except.error.injEq] at h hmay
        rw [← h]
        simpa using hmay

theorem createTurn_goOn (h : createTurn decode loop round = .goOn a next) :
    a.ids decode = none ∧ (a.mayHaveCreated decode = true ↔ a.Blind decode) := by
  unfold createTurn at h
  split at h
  · cases h
  split at h
  · cases h
  rename_i refusal hrefused
  obtain ⟨hnext, ha⟩ := afterDecision_goOn h
  have hround : a.round = round := by rw [ha]
  have hbefore : a.before = loop := by rw [ha]
  rw [← hround] at hrefused
  refine ⟨by simp [Attempt.ids, hrefused, Except.toOption], ?_⟩
  constructor
  · intro hmay
    by_contra hblind
    have hlost : ¬ a.lost decode := by
      intro hlost
      obtain ⟨_, hagain, hverdict, _⟩ := lost_refused hlost
      rw [hrefused, Except.error.injEq] at hagain
      rw [hagain, hverdict] at hnext
      have hroom := transport_rotates_iff.mp hnext
      exact hblind ⟨hlost, hbefore ▸ hroom.1, by rw [Attempt.left, ha]; exact hroom.2⟩
    exact rotates_refused hnext (refused_of_not_lost hrefused hlost hmay)
  · rintro ⟨hlost, _⟩
    obtain ⟨_, _, _, hmay⟩ := lost_refused hlost
    exact hmay

theorem createTurn_stop (h : createTurn decode loop round = .stop a w) : ¬ a.Blind decode := by
  rintro ⟨hlost, hbudget, hleft⟩
  obtain ⟨refusal, hrefused, hverdict, _⟩ := lost_refused hlost
  unfold createTurn at h
  split at h
  · cases h
  split at h
  · rename_i hcreated
    injection h with ha _
    rw [← ha, hcreated] at hrefused
    cases hrefused
  · rename_i refusal' hrefused'
    obtain ⟨hnext, ha⟩ := afterDecision_stop h
    have hround : a.round = round := by rw [ha]
    rw [hround, hrefused', Except.error.injEq] at hrefused
    rw [hrefused, hverdict, Ne, transport_rotates_iff] at hnext
    subst ha
    exact hnext ⟨hbudget, hleft⟩

theorem single_create_iff (decode : List UInt8 → Option Value) (rounds : List Round) :
    SingleCreate (Attempt.mayHaveCreated decode) (fun a => (a.ids decode).isSome)
        (createLoop decode rounds) ↔
      ∀ a ∈ (createLoop decode rounds).all, ¬ a.Blind decode := by
  refine singleCreate_iff ?_ ?_ ?_
  · intro a ha
    obtain ⟨_, _, _, hturn⟩ := mem_passed ha
    exact (createTurn_goOn hturn).2
  · intro a ha
    obtain ⟨_, _, _, hturn⟩ := mem_passed ha
    simp [(createTurn_goOn hturn).1]
  · intro a ha
    obtain ⟨_, _, _, hturn⟩ := mem_last ha
    exact createTurn_stop hturn

end Suno

/-! ## Both planes -/

/-- A request creates at most once, by attempts it has proof of, exactly when
it never goes on from a call that left without its answer being read. -/
theorem at_most_one_create_iff (decode : List UInt8 → Option Meter.Value) :
    (∀ (sticky : Option String) (rounds : List Tripo3d.Round),
      SingleCreate (Tripo3d.Attempt.mayHaveCreated decode)
          (fun a => (a.taskId decode).isSome) (Tripo3d.createLoop decode sticky rounds) ↔
        ∀ a ∈ (Tripo3d.createLoop decode sticky rounds).all, ¬ a.Blind) ∧
    ∀ rounds : List Suno.Round,
      SingleCreate (Suno.Attempt.mayHaveCreated decode) (fun a => (a.ids decode).isSome)
          (Suno.createLoop decode rounds) ↔
        ∀ a ∈ (Suno.createLoop decode rounds).all, ¬ a.Blind decode :=
  ⟨Tripo3d.single_create_iff decode, Suno.single_create_iff decode⟩

/-! The first call of a request times out after the upstream took it, and the
second profile creates too. On the Suno plane the first answer is a success
whose body breaks off. -/

def twoProfiles {η ς : Type} : List (Candidate η ς) :=
  [⟨"p1", none, none, 0⟩, ⟨"p2", none, none, 0⟩]

def oneCooling {η ς : Type} (soft : ς) : List (Candidate η ς) :=
  [⟨"p1", none, some soft, 0⟩, ⟨"p2", none, none, 0⟩]

def tripoAnswer : List UInt8 :=
  "\x7b\"code\":0,\"data\":\x7b\"task_id\":\"t-1\"\x7d\x7d".toUTF8.toList

def sunoAnswer : List UInt8 := "[\x7b\"id\":\"clip-1\"\x7d]".toUTF8.toList

def gateAnswer : List UInt8 := "\x7b\"required\":false\x7d".toUTF8.toList

def decodeAnswers (body : List UInt8) : Option Meter.Value :=
  if body = tripoAnswer then
    some (.object [("code", .number (.posInt 0)), ("data", .object [("task_id", .string "t-1")])])
  else if body = sunoAnswer then some (.array [.object [("id", .string "clip-1")]])
  else if body = gateAnswer then some (.object [("required", .bool false)])
  else none

def tripoRounds : List Tripo3d.Round :=
  [⟨twoProfiles, 0, .lost, 1000, twoProfiles, true, true⟩,
    ⟨oneCooling .transportWedged, 1, .answered 200 none [some tripoAnswer], 1060,
      oneCooling .transportWedged, true, true⟩]

def sunoRounds : List Suno.Round :=
  [⟨twoProfiles, 0, .ok (), .answered 200 none [some gateAnswer], true,
      .answered 200 none [none], 1000, twoProfiles, true, true⟩,
    ⟨oneCooling .transportWedged, 1, .ok (), .answered 200 none [some gateAnswer], true,
      .answered 200 none [some sunoAnswer], 1060, oneCooling .transportWedged, true, true⟩]

/-- A create that was sent and not answered is tried again on the other profile. -/
theorem two_creates :
    ¬ SingleCreate (Tripo3d.Attempt.mayHaveCreated decodeAnswers)
        (fun a => (a.taskId decodeAnswers).isSome)
        (Tripo3d.createLoop decodeAnswers none tripoRounds) ∧
      ¬ SingleCreate (Suno.Attempt.mayHaveCreated decodeAnswers)
          (fun a => (a.ids decodeAnswers).isSome) (Suno.createLoop decodeAnswers sunoRounds) := by
  constructor
  · intro h
    exact absurd h.once (by decide +kernel)
  · intro h
    exact absurd h.once (by decide +kernel)

end ApiToken.Media
