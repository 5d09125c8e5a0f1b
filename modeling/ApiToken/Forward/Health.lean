import ApiToken.Lib.Machine

/-!
# The health of a Codex home

The two axes of a home, its account and its transport, as a function of the
signals observed and of their times, and the admission that reads them. The
verdicts are related to the history: what was observed since the last success.
-/

namespace ApiToken.Forward.Codex

/-! ## Signals and state -/

def deadlineDegradeStreak : Int := 2
def deadlineWedgeStreak : Int := 4
def deadlineWedgeMinSecs : Int := 60
def authDeadStreak : Int := 2
def authDeadMinSecs : Int := 300
def snapshotStaleAfterProbes : Int := 3
def wedgedCoolSecs : Int := 10
def authQuarantineSecs : Int := 900
def authSoftCoolSecs : Int := 15

/-- What is known of the account behind a home. -/
inductive AccountState where
  | healthy | suspect | dead
deriving DecidableEq

/-- How the app server of a home answers. -/
inductive TransportState where
  | responsive | degraded | wedged
deriving DecidableEq

/-- What a probe or a turn tells of a home. -/
inductive HealthSignal where
  | probeOk
  | turnOk
  | deadline
  | transportClosed
  | authRejected (permanent : Bool)
  | usageLimited (retryAfterSecs : Option Int)
deriving DecidableEq

/-- The state of a home. The streaks are unbounded here: as `i64` they hold for
fewer than 2 ^ 63 signals since the last success. -/
structure HomeHealth where
  account : AccountState
  transport : TransportState
  deadlineStreak : Int
  firstDeadlineTs : Int
  authFailStreak : Int
  firstAuthFailTs : Int
  coolingUntil : Int
  softCoolingUntil : Int
  lastOkTs : Int
  probeRequested : Bool

namespace HomeHealth

def new : HomeHealth :=
  ⟨.healthy, .responsive, 0, 0, 0, 0, 0, 0, 0, false⟩

variable (h : HomeHealth) (now : Int)

def coolUntil (instant : Int) : HomeHealth :=
  { h with coolingUntil := max h.coolingUntil instant }

def softCoolUntil (instant : Int) : HomeHealth :=
  { h with softCoolingUntil := max h.softCoolingUntil instant }

/-- The start of a streak: zero stands for none. -/
def since (first now : Int) : Int := if first = 0 then now else first

/-- `now - first` in a release build, where it wraps. -/
def elapsed (first now : Int) : Int := (now - first).bmod (2 ^ 64)

def softDelay (streak : Int) : Int :=
  let shift := if streak - 1 < 0 then 30 else min (streak - 1).toNat 30
  max 1 (min (Range.i64.saturated (authSoftCoolSecs * 2 ^ shift)) authQuarantineSecs)

/-- Whether the deadlines, with the one at `now`, wedge the transport. -/
def Wedges : Prop :=
  deadlineWedgeStreak ≤ h.deadlineStreak + 1 ∧
    deadlineWedgeMinSecs ≤ elapsed (since h.firstDeadlineTs now) now

/-- Whether the rejections, with the one at `now`, are corroborated. -/
def Corroborated : Prop :=
  authDeadStreak ≤ h.authFailStreak + 1 ∧
    authDeadMinSecs ≤ elapsed (since h.firstAuthFailTs now) now

instance : Decidable (h.Wedges now) := inferInstanceAs (Decidable (_ ∧ _))

instance : Decidable (h.Corroborated now) := inferInstanceAs (Decidable (_ ∧ _))

def missDeadline : HomeHealth :=
  let counted := { h with
    deadlineStreak := h.deadlineStreak + 1
    firstDeadlineTs := since h.firstDeadlineTs now
    probeRequested := true }
  if h.Wedges now then
    { counted with transport := .wedged }.coolUntil (Range.i64.saturated (now + wedgedCoolSecs))
  else if deadlineDegradeStreak ≤ h.deadlineStreak + 1 then
    { counted with transport := .degraded }
  else counted

def rejectAuth (permanent : Bool) : HomeHealth :=
  let counted := { h with
    authFailStreak := h.authFailStreak + 1
    firstAuthFailTs := since h.firstAuthFailTs now
    account := if h.account = AccountState.healthy then .suspect else h.account
    probeRequested := true }
  if permanent ∨ h.Corroborated now then
    { counted with account := .dead }.coolUntil (Range.i64.saturated (now + authQuarantineSecs))
  else
    counted.softCoolUntil (Range.i64.saturated (now + softDelay (h.authFailStreak + 1)))

/-- Fold one observation into the state. -/
def apply (signal : HealthSignal) : HomeHealth :=
  match signal with
  | .probeOk | .turnOk => { new with lastOkTs := now }
  | .deadline => h.missDeadline now
  | .transportClosed =>
    { h with transport := .wedged, probeRequested := true }.coolUntil
      (Range.i64.saturated (now + wedgedCoolSecs))
  | .authRejected permanent => h.rejectAuth now permanent
  | .usageLimited retryAfterSecs =>
    h.coolUntil (Range.i64.saturated (now + max (retryAfterSecs.getD 0) 1))

def needsRecycle : Bool := decide (h.transport = .wedged)

end HomeHealth

/-! ## Admission -/

/-- The provider's limits as last read. -/
structure LimitView where
  reached : Bool
  observedAt : Int
  soonestResetAt : Option Int

/-- Whether the limits were read recently. -/
inductive Freshness where
  | fresh | stale | unknown
deriving DecidableEq

/-- What keeps a home from being used. -/
inductive RejectReason where
  | accountDead | transportWedged | transportDegraded | cooling | providerLimit

/-- The answer to a turn that asks for a home. -/
inductive Admission where
  | admits (snapshotStale : Bool)
  | reject (reason : RejectReason) (readyAt : Option Int)

def Admission.isAdmitted : Admission → Bool
  | .admits _ => true
  | .reject _ _ => false

def freshness (limits : Option LimitView) (now probeIntervalSecs : Int) : Freshness :=
  match limits with
  | none => .unknown
  | some limits =>
    let ttl := Range.i64.saturated (max probeIntervalSecs 1 * snapshotStaleAfterProbes)
    if ttl < Range.i64.saturated (now - limits.observedAt) then .stale else .fresh

section Admission

variable (h : HomeHealth) (limits : Option LimitView) (now probeIntervalSecs : Int)

def freshLimit : Option LimitView :=
  if freshness limits now probeIntervalSecs = .fresh then limits.filter LimitView.reached
  else none

namespace HomeHealth

def admissionInner (ignoreSoftCooling : Bool) : Admission :=
  let ready := if now < h.coolingUntil then some h.coolingUntil else none
  if h.account = .dead then .reject .accountDead ready
  else if h.transport = .wedged then .reject .transportWedged ready
  else if now < h.coolingUntil then .reject .cooling (some h.coolingUntil)
  else if ignoreSoftCooling = false ∧ now < h.softCoolingUntil then
    .reject .cooling (some h.softCoolingUntil)
  else match freshLimit limits now probeIntervalSecs with
    | some limit => .reject .providerLimit limit.soonestResetAt
    | none =>
      if h.transport = .degraded then .reject .transportDegraded none
      else .admits (freshness limits now probeIntervalSecs = .stale)

def admission : Admission := h.admissionInner limits now probeIntervalSecs false

def admissionIgnoringSoftCooling : Admission :=
  h.admissionInner limits now probeIntervalSecs true

/-- Nothing but soft cooling can hold the home back. -/
structure Clear : Prop where
  alive : h.account ≠ .dead
  responsive : h.transport = .responsive
  cooled : h.coolingUntil ≤ now
  quota : freshLimit limits now probeIntervalSecs = none

variable {h limits now probeIntervalSecs}

theorem Clear.admissionInner (hclear : h.Clear limits now probeIntervalSecs) (ignore : Bool) :
    (h.admissionInner limits now probeIntervalSecs ignore).isAdmitted = true ↔
      ignore = true ∨ h.softCoolingUntil ≤ now := by
  simp only [HomeHealth.admissionInner, hclear.alive, hclear.responsive, hclear.quota,
    if_neg (Int.not_lt.mpr hclear.cooled), reduceCtorEq, ↓reduceIte]
  split
  · next hsoft => simp [Admission.isAdmitted, hsoft]
  · next hsoft =>
    rw [not_and_or, Bool.not_eq_false, Int.not_lt] at hsoft
    simp only [Admission.isAdmitted, true_iff]
    exact hsoft

end HomeHealth

end Admission

/-! ## Histories -/

/-- A signal and the time of it. -/
structure Observation where
  signal : HealthSignal
  now : Int

namespace HealthSignal

def isSuccess : HealthSignal → Bool
  | .probeOk | .turnOk => true
  | _ => false

def isDeadline : HealthSignal → Bool
  | .deadline => true
  | _ => false

def isRejection : HealthSignal → Bool
  | .authRejected _ => true
  | _ => false

end HealthSignal

/-- The health of a home after a history, the latest observation first. -/
def after : List Observation → HomeHealth
  | [] => .new
  | e :: past => (after past).apply e.now e.signal

/-- The observations since the last success. -/
def sinceSuccess (history : List Observation) : List Observation :=
  history.takeWhile fun e => !e.signal.isSuccess

/-- Later observations have later times. -/
def Ordered (history : List Observation) : Prop :=
  history.Pairwise fun later earlier => earlier.now ≤ later.now

/-- The two numbers kept of a streak: how many there were, and when the first
of them was (a first one at time zero is not kept). -/
structure Streak (kind : HealthSignal → Bool) (recent : List Observation)
    (streak first : Int) : Prop where
  count : streak = recent.countP fun e => kind e.signal
  start : first ≠ 0 → ∃ e ∈ recent, kind e.signal = true ∧ e.now = first

namespace Streak

variable {kind : HealthSignal → Bool} {recent : List Observation} {streak first : Int}
  {e : Observation}

theorem nil : Streak kind [] 0 0 := ⟨rfl, fun h => absurd rfl h⟩

theorem push (h : Streak kind recent streak first) (he : kind e.signal = true) :
    Streak kind (e :: recent) (streak + 1) (HomeHealth.since first e.now) where
  count := by
    rw [h.count, List.countP_cons, if_pos he]
    rfl
  start hne := by
    unfold HomeHealth.since at hne ⊢
    by_cases hfirst : first = 0
    · exact ⟨e, .head _, he, (if_pos hfirst).symm⟩
    · rw [if_neg hfirst]
      obtain ⟨e', hmem, hkind, hnow⟩ := h.start hfirst
      exact ⟨e', .tail _ hmem, hkind, hnow⟩

theorem skip (h : Streak kind recent streak first) (he : kind e.signal = false) :
    Streak kind (e :: recent) streak first where
  count := by
    rw [h.count, List.countP_cons, if_neg (by simp [he])]
    rfl
  start hne := by
    obtain ⟨e', hmem, hkind, hnow⟩ := h.start hne
    exact ⟨e', .tail _ hmem, hkind, hnow⟩

theorem span (h : Streak kind recent streak first) {secs : Int} (hsecs : 0 < secs)
    (hordered : ∀ e' ∈ recent, e'.now ≤ e.now)
    (hspan : secs ≤ HomeHealth.elapsed (HomeHealth.since first e.now) e.now) :
    ∃ e' ∈ recent, kind e'.signal = true ∧ secs ≤ e.now - e'.now := by
  unfold HomeHealth.elapsed HomeHealth.since at hspan
  by_cases hfirst : first = 0
  · rw [if_pos hfirst, Int.sub_self, Int.zero_bmod] at hspan
    omega
  · rw [if_neg hfirst] at hspan
    obtain ⟨e', hmem, hkind, hnow⟩ := h.start hfirst
    have hle := hordered e' hmem
    refine ⟨e', hmem, hkind, hspan.trans ?_⟩
    rw [hnow] at hle ⊢
    rw [Int.bmod_def]
    split <;> omega

end Streak

/-- What a history leaves of its rejections. -/
def AccountBacked (recent : List Observation) (h : HomeHealth) : Prop :=
  Streak HealthSignal.isRejection recent h.authFailStreak h.firstAuthFailTs

/-- What a history leaves of its deadlines. -/
def TransportBacked (recent : List Observation) (h : HomeHealth) : Prop :=
  Streak HealthSignal.isDeadline recent h.deadlineStreak h.firstDeadlineTs

variable {past : List Observation}

section Steps

variable {h : HomeHealth} {recent : List Observation} {e : Observation}

theorem sinceSuccess_success (he : e.signal.isSuccess = true) :
    sinceSuccess (e :: past) = [] := by
  simp [sinceSuccess, he]

theorem sinceSuccess_failure (he : e.signal.isSuccess = false) :
    sinceSuccess (e :: past) = e :: sinceSuccess past := by
  simp [sinceSuccess, he]

section

variable (now : Int) (signal : HealthSignal)
include now signal

theorem apply_success (he : signal.isSuccess = true) :
    h.apply now signal = { HomeHealth.new with lastOkTs := now } := by
  cases signal with
  | probeOk | turnOk => rfl
  | _ => cases he

theorem apply_streaks (he : signal.isSuccess = false) :
    (if signal.isDeadline then
      (h.apply now signal).deadlineStreak = h.deadlineStreak + 1 ∧
        (h.apply now signal).firstDeadlineTs = HomeHealth.since h.firstDeadlineTs now
    else (h.apply now signal).deadlineStreak = h.deadlineStreak ∧
        (h.apply now signal).firstDeadlineTs = h.firstDeadlineTs) ∧
    (if signal.isRejection then
      (h.apply now signal).authFailStreak = h.authFailStreak + 1 ∧
        (h.apply now signal).firstAuthFailTs = HomeHealth.since h.firstAuthFailTs now
    else (h.apply now signal).authFailStreak = h.authFailStreak ∧
        (h.apply now signal).firstAuthFailTs = h.firstAuthFailTs) := by
  cases signal with
  | probeOk | turnOk => cases he
  | deadline =>
    simp only [HomeHealth.apply, HomeHealth.missDeadline, HealthSignal.isDeadline,
      HealthSignal.isRejection, ↓reduceIte, Bool.false_eq_true]
    split
    · exact ⟨⟨rfl, rfl⟩, rfl, rfl⟩
    · split
      · exact ⟨⟨rfl, rfl⟩, rfl, rfl⟩
      · exact ⟨⟨rfl, rfl⟩, rfl, rfl⟩
  | transportClosed | usageLimited retryAfterSecs => exact ⟨⟨rfl, rfl⟩, rfl, rfl⟩
  | authRejected =>
    simp only [HomeHealth.apply, HomeHealth.rejectAuth, HealthSignal.isDeadline,
      HealthSignal.isRejection, ↓reduceIte, Bool.false_eq_true]
    split
    · exact ⟨⟨rfl, rfl⟩, rfl, rfl⟩
    · exact ⟨⟨rfl, rfl⟩, rfl, rfl⟩

theorem apply_account (hdead : (h.apply now signal).account = .dead) :
    h.account = .dead ∨ signal = .authRejected true ∨
      signal = .authRejected false ∧ h.Corroborated now := by
  cases signal with
  | probeOk | turnOk => cases hdead
  | deadline =>
    refine .inl ?_
    simp only [HomeHealth.apply, HomeHealth.missDeadline] at hdead
    split at hdead
    · exact hdead
    · split at hdead
      · exact hdead
      · exact hdead
  | transportClosed | usageLimited retryAfterSecs => exact .inl hdead
  | authRejected permanent =>
    simp only [HomeHealth.apply, HomeHealth.rejectAuth] at hdead
    split at hdead
    · next hverdict =>
      cases permanent with
      | true => exact .inr (.inl rfl)
      | false => exact .inr (.inr ⟨rfl, hverdict.resolve_left Bool.false_ne_true⟩)
    · refine .inl ?_
      simp only [HomeHealth.softCoolUntil] at hdead
      split at hdead
      · cases hdead
      · exact hdead

theorem apply_transport (he : signal.isSuccess = false) :
    (h.apply now signal).transport =
      if signal = .transportClosed ∨ signal = .deadline ∧ h.Wedges now then .wedged
      else if signal = .deadline ∧ deadlineDegradeStreak ≤ h.deadlineStreak + 1 then .degraded
      else h.transport := by
  cases signal with
  | probeOk | turnOk => cases he
  | deadline =>
    simp only [HomeHealth.apply, HomeHealth.missDeadline, reduceCtorEq, false_or, true_and]
    split
    · rfl
    · split
      · rfl
      · rfl
  | transportClosed | usageLimited retryAfterSecs => rfl
  | authRejected =>
    simp only [HomeHealth.apply, HomeHealth.rejectAuth, reduceCtorEq, false_or, false_and,
      ↓reduceIte]
    split
    · rfl
    · rfl

theorem apply_cooling (he : signal.isSuccess = false) :
    h.coolingUntil ≤ (h.apply now signal).coolingUntil ∧
      h.softCoolingUntil ≤ (h.apply now signal).softCoolingUntil := by
  cases signal with
  | probeOk | turnOk => cases he
  | deadline =>
    simp only [HomeHealth.apply, HomeHealth.missDeadline]
    split
    · exact ⟨le_max_left _ _, le_rfl⟩
    · split
      · exact ⟨le_rfl, le_rfl⟩
      · exact ⟨le_rfl, le_rfl⟩
  | transportClosed | usageLimited retryAfterSecs => exact ⟨le_max_left _ _, le_rfl⟩
  | authRejected =>
    simp only [HomeHealth.apply, HomeHealth.rejectAuth]
    split
    · exact ⟨le_max_left _ _, le_rfl⟩
    · exact ⟨le_rfl, le_max_left _ _⟩

end

end Steps

theorem after_backed (history : List Observation) :
    AccountBacked (sinceSuccess history) (after history) ∧
      TransportBacked (sinceSuccess history) (after history) := by
  induction history with
  | nil => exact ⟨.nil, .nil⟩
  | cons e past ih =>
    by_cases he : e.signal.isSuccess = true
    · rw [sinceSuccess_success he, after, apply_success _ _ he]
      exact ⟨.nil, .nil⟩
    · rw [Bool.not_eq_true] at he
      obtain ⟨hdeadlines, hrejections⟩ := apply_streaks (h := after past) e.now e.signal he
      rw [sinceSuccess_failure he, after]
      constructor
      · unfold AccountBacked
        split at hrejections
        · next hkind =>
          rw [hrejections.1, hrejections.2]
          exact ih.1.push hkind
        · next hkind =>
          rw [hrejections.1, hrejections.2]
          exact ih.1.skip (by simpa using hkind)
      · unfold TransportBacked
        split at hdeadlines
        · next hkind =>
          rw [hdeadlines.1, hdeadlines.2]
          exact ih.2.push hkind
        · next hkind =>
          rw [hdeadlines.1, hdeadlines.2]
          exact ih.2.skip (by simpa using hkind)

/-! ## Verdicts -/

/-- The verdicts that one more observation may lead to. -/
structure Lawful (past : List Observation) (e : Observation) : Prop where
  dead : (after past).account ≠ .dead → (after (e :: past)).account = .dead →
    e.signal = .authRejected true ∨
      e.signal = .authRejected false ∧ ∃ first ∈ sinceSuccess past,
        first.signal.isRejection = true ∧ 300 ≤ e.now - first.now
  wedged : (after past).transport ≠ .wedged → (after (e :: past)).transport = .wedged →
    e.signal = .transportClosed ∨
      e.signal = .deadline ∧
        4 ≤ (sinceSuccess (e :: past)).countP (fun e => e.signal.isDeadline) ∧
        ∃ first ∈ sinceSuccess past, first.signal.isDeadline = true ∧ 60 ≤ e.now - first.now
  sticky : (after past).needsRecycle = true → e.signal.isSuccess = false →
    (after (e :: past)).needsRecycle = true
  cooling : e.signal.isSuccess = false →
    (after past).coolingUntil ≤ (after (e :: past)).coolingUntil ∧
      (after past).softCoolingUntil ≤ (after (e :: past)).softCoolingUntil
  lastResort : ∀ limits now probeIntervalSecs,
    (after (e :: past)).Clear limits now probeIntervalSecs →
      now < (after (e :: past)).softCoolingUntil →
      ((after (e :: past)).admission limits now probeIntervalSecs).isAdmitted = false ∧
        ((after (e :: past)).admissionIgnoringSoftCooling limits now
          probeIntervalSecs).isAdmitted = true

/-- A deadline that degrades a transport which is wedged already. -/
def HomeHealth.Unwedges (h : HomeHealth) (e : Observation) : Prop :=
  h.transport = .wedged ∧ e.signal = .deadline ∧
    deadlineDegradeStreak ≤ h.deadlineStreak + 1 ∧ ¬ h.Wedges e.now

instance (h : HomeHealth) (e : Observation) : Decidable (h.Unwedges e) :=
  inferInstanceAs (Decidable (_ ∧ _))

theorem sticky_iff {h : HomeHealth} {e : Observation} :
    (h.needsRecycle = true → e.signal.isSuccess = false →
      (h.apply e.now e.signal).needsRecycle = true) ↔ ¬ h.Unwedges e := by
  simp only [HomeHealth.needsRecycle, decide_eq_true_eq]
  constructor
  · rintro hsticky ⟨hwedged, he, hstreak, hnot⟩
    have hkept := hsticky hwedged (by rw [he]; rfl)
    rw [apply_transport _ _ (by rw [he]; rfl), he] at hkept
    simp [hnot, hstreak] at hkept
  · intro hnot hwedged he
    rw [apply_transport _ _ he, hwedged]
    split
    · rfl
    · next hsame =>
      rw [if_neg]
      rintro ⟨hdeadline, hstreak⟩
      exact hnot ⟨hwedged, hdeadline, hstreak, fun hwedges => hsame (.inr ⟨hdeadline, hwedges⟩)⟩

theorem lawful_iff {e : Observation} (hordered : Ordered (e :: past)) :
    Lawful past e ↔ ¬ (after past).Unwedges e := by
  have hearlier : ∀ e' ∈ sinceSuccess past, e'.now ≤ e.now := fun e' hmem =>
    (List.pairwise_cons.mp hordered).1 e' ((List.takeWhile_sublist _).mem hmem)
  obtain ⟨haccount, htransport⟩ := after_backed past
  refine ⟨fun hlawful => sticky_iff.mp hlawful.sticky, fun hnot => ?_⟩
  refine ⟨fun halive hdead => ?_, fun hopen hwedged => ?_, sticky_iff.mpr hnot,
    apply_cooling e.now e.signal, fun limits now interval hclear hsoft => ?_⟩
  · rcases apply_account e.now e.signal hdead with hbefore | hpermanent | ⟨he, -, hspan⟩
    · exact absurd hbefore halive
    · exact .inl hpermanent
    · exact .inr ⟨he, haccount.span (by decide) hearlier hspan⟩
  · have hfailure : e.signal.isSuccess = false := by
      by_contra hsuccess
      rw [after, apply_success _ _ (by simpa using hsuccess)] at hwedged
      cases hwedged
    rw [after, apply_transport _ _ hfailure] at hwedged
    split at hwedged
    · next hcause =>
      refine hcause.imp_right fun ⟨he, hstreak, hspan⟩ =>
        ⟨he, ?_, htransport.span (by decide) hearlier hspan⟩
      rw [sinceSuccess_failure hfailure, List.countP_cons, if_pos (by rw [he]; rfl)]
      have hcount := htransport.count
      unfold deadlineWedgeStreak at hstreak
      omega
    · split at hwedged
      · cases hwedged
      · exact absurd hwedged hopen
  · refine ⟨?_, (hclear.admissionInner true).mpr (.inl rfl)⟩
    rw [← Bool.not_eq_true]
    intro hadmit
    rcases (hclear.admissionInner false).mp hadmit with hfalse | hcooled
    · cases hfalse
    · omega

/-- The verdicts on a home are lawful through a history if and only if no
deadline of it unwedges the transport. -/
theorem home_verdicts_iff {history : List Observation} (hordered : Ordered history) :
    (∀ e past, e :: past <:+ history → Lawful past e) ↔
      ∀ e past, e :: past <:+ history → ¬ (after past).Unwedges e :=
  forall₃_congr fun _ _ hsuffix => lawful_iff (hordered.sublist hsuffix.sublist)

/-- Four deadlines, half a minute apart. -/
def missedHistory : List Observation :=
  [⟨.deadline, 190⟩, ⟨.deadline, 160⟩, ⟨.deadline, 130⟩, ⟨.deadline, 100⟩]

/-- The fourth deadline wedges the transport. -/
theorem home_verdicts_missed :
    Ordered missedHistory ∧ Lawful missedHistory.tail ⟨.deadline, 190⟩ := by
  have hordered : Ordered missedHistory := by simp [Ordered, missedHistory]
  refine ⟨hordered, (home_verdicts_iff hordered).mpr (fun e past hsuffix => ?_) _ _
    List.suffix_rfl⟩
  simp only [missedHistory, List.suffix_cons_iff, List.suffix_nil, List.cons.injEq,
    reduceCtorEq, or_false] at hsuffix
  rcases hsuffix with ⟨rfl, rfl⟩ | ⟨rfl, rfl⟩ | ⟨rfl, rfl⟩ | ⟨rfl, rfl⟩
  · decide
  · decide
  · decide
  · decide

/-- A closed transport, and two deadlines right after it. -/
theorem two_deadlines_unwedge :
    ¬ ∀ history, Ordered history → ∀ e past, e :: past <:+ history → Lawful past e := by
  intro hall
  have hordered : Ordered [⟨.deadline, 102⟩, ⟨.deadline, 101⟩, ⟨.transportClosed, 100⟩] := by
    simp [Ordered]
  have hsticky := (hall _ hordered _ _ List.suffix_rfl).sticky
  exact absurd (hsticky (by decide) (by decide)) (by decide)

end ApiToken.Forward.Codex
