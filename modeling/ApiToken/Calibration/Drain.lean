import ApiToken.Calibration.Unwedged

/-!
# The queue drains

From one observation to the commands of the writer: a turn whose observations
are all admitted is recorded, unless it contradicts a recorded one; a flush of
such turns leaves no turn behind; so does every command of a run that only
meets such turns. The last section has the run in which one reading whose
reset lies a second behind the stored one blocks everything after it.
-/

namespace ApiToken.Calibration

open Gemini (ProviderTurnCalibrationEvent validateProviderTurnCalibrationEvent)

variable {event : ProviderTurnCalibrationEvent} {spend : Int} {plan subject : String}
  {rounds : Nat} {e : Failure}

variable {κ ι ω : Type}

namespace Provider

section Conditions

variable [DecidableEq κ] [DecidableEq ι] (P : Provider κ ι ω)

/-! ## What the writer meets -/

def ValidSnapshot (subject plan : String) (source : Source) (snapshot : Snapshot ω) : Prop :=
  P.estimator.validateObservation (P.observation subject plan 0 source snapshot) = .ok ()

instance ValidSnapshot.decidable (subject plan : String) (source : Source)
    (snapshot : Snapshot ω) : Decidable (P.ValidSnapshot subject plan source snapshot) :=
  inferInstanceAs (Decidable (_ = _))

/-- The writer can store this turn. -/
structure ValidTurn (event : ProviderTurnCalibrationEvent) (plan : String)
    (snapshots : List (Snapshot ω)) : Prop where
  valid : validateProviderTurnCalibrationEvent event = .ok ()
  provider : event.provider = P.provider
  planned : plan.isEmpty = false
  snapshots : ∀ snapshot ∈ snapshots,
    P.ValidSnapshot event.subjectId plan ⟨"response", some event.requestId⟩ snapshot

instance ValidTurn.decidable (event : ProviderTurnCalibrationEvent) (plan : String)
    (snapshots : List (Snapshot ω)) : Decidable (P.ValidTurn event plan snapshots) :=
  decidable_of_iff (_ ∧ _ ∧ _ ∧ _)
    ⟨fun h => ⟨h.1, h.2.1, h.2.2.1, h.2.2.2⟩,
      fun h => ⟨h.valid, h.provider, h.planned, h.snapshots⟩⟩

def ValidOp : Op ω → Prop
  | .enqueue event plan snapshots => P.ValidTurn event plan snapshots
  | .recordTurn _ => True
  | .observeWindow subject plan snapshot =>
    subject.isEmpty = false ∧ P.ValidSnapshot subject plan ⟨"poll", none⟩ snapshot

instance ValidOp.decidable : (op : Op ω) → Decidable (P.ValidOp op)
  | .enqueue event plan snapshots => ValidTurn.decidable P event plan snapshots
  | .recordTurn _ => inferInstanceAs (Decidable True)
  | .observeWindow .. => inferInstanceAs (Decidable (_ ∧ P.ValidSnapshot _ _ _ _))

def SpendFits (db : Db κ ι) (event : ProviderTurnCalibrationEvent) : Prop :=
  db.events.find? (fun e => e.requestId == event.requestId) = none →
    (db.spend event.subjectId).getD 0 + event.apiTotalNanousd ≤ Range.i64.hi

instance SpendFits.decidable (db : Db κ ι) (event : ProviderTurnCalibrationEvent) :
    Decidable (SpendFits db event) :=
  inferInstanceAs (Decidable (_ = none → _))

def AdmitsAll (rounds : Nat) : Db κ ι → List (Observation κ Source) → Prop
  | _, [] => True
  | db, o :: rest =>
    P.Admits (db.rows (P.key o.identity)) o ∧
      ∀ done ∈ (P.observe db o rounds).toOption, AdmitsAll rounds done.1 rest

instance AdmitsAll.decidable (rounds : Nat) :
    (db : Db κ ι) → (observations : List (Observation κ Source)) →
      Decidable (P.AdmitsAll rounds db observations)
  | _, [] => inferInstanceAs (Decidable True)
  | _, _ :: rest =>
    have := fun db' => AdmitsAll.decidable rounds db' rest
    inferInstanceAs (Decidable (_ ∧ ∀ done ∈ Except.toOption _, _))

def AdmitsTurn (rounds : Nat) (db : Db κ ι) (turn : Turn ω) : Prop :=
  SpendFits db turn.event ∧
    ∀ done ∈ (recordEvent db turn.event).toOption,
      P.AdmitsAll rounds done.1 (Turn.observations P turn done.2)

def AdmitsQueue (rounds : Nat) : Db κ ι → List (Turn ω) → Prop
  | _, [] => True
  | db, turn :: rest =>
    P.AdmitsTurn rounds db turn ∧ AdmitsQueue rounds (P.persist rounds db turn).1 rest

instance AdmitsQueue.decidable (rounds : Nat) :
    (db : Db κ ι) → (turns : List (Turn ω)) → Decidable (P.AdmitsQueue rounds db turns)
  | _, [] => inferInstanceAs (Decidable True)
  | db, turn :: rest =>
    have := AdmitsQueue.decidable rounds (P.persist rounds db turn).1 rest
    inferInstanceAs (Decidable ((SpendFits _ _ ∧ ∀ done ∈ Except.toOption _, _) ∧ _))

/-- What an operation meets: the turns in the queue, and a poll's snapshot
after them. -/
def AdmitsOp (rounds : Nat) (w : World κ ι ω) : Op ω → Prop
  | .enqueue .. => True
  | .recordTurn _ => P.AdmitsQueue rounds w.db w.delivery.pending
  | .observeWindow subject plan snapshot =>
    P.AdmitsQueue rounds w.db w.delivery.pending ∧
      let db := (P.flush rounds none w.db w.delivery).db
      let o := P.observation subject plan ((db.spend subject).getD 0) ⟨"poll", none⟩ snapshot
      P.Admits (db.rows (P.key o.identity)) o

instance AdmitsOp.decidable (rounds : Nat) (w : World κ ι ω) :
    (op : Op ω) → Decidable (P.AdmitsOp rounds w op)
  | .enqueue .. => inferInstanceAs (Decidable True)
  | .recordTurn _ => inferInstanceAs (Decidable (P.AdmitsQueue rounds _ _))
  | .observeWindow .. => inferInstanceAs (Decidable (P.AdmitsQueue rounds _ _ ∧ P.Admits _ _))

/-- The queue is empty after a command, which has its result; a turn that
contradicts a recorded one has been dropped. -/
def Serves (op : Op ω) (done : World κ ι ω × Reply κ) : Prop :=
  match op, done.2 with
  | .enqueue .., .queued => True
  | .recordTurn _, .recorded _ => done.1.delivery.pending = []
  | .recordTurn _, .conflict => done.1.delivery.pending = []
  | .observeWindow .., .observed _ _ => done.1.delivery.pending = []
  | _, _ => False

/-- Whatever happened before, an operation is served. -/
def NeverWedges (rounds : Nat) : Prop :=
  ∀ (before : List (Op ω)) (op : Op ω), (∀ op' ∈ before ++ [op], P.ValidOp op') →
    Along (fun w op' => (P.step rounds w op').1) (P.AdmitsOp rounds) World.start
      (before ++ [op]) →
    Serves op (P.step rounds (run (fun w op' => (P.step rounds w op').1) World.start before) op)

end Conditions

variable {P : Provider κ ι ω} {D : κ → Unit → Prop}

/-! ## A turn -/

theorem event_total_pos (h : validateProviderTurnCalibrationEvent event = .ok ()) :
    0 < event.apiTotalNanousd := by
  simp only [validateProviderTurnCalibrationEvent, Registry.bailIf_eq_ok, guard_iffs,
    Int.not_le] at h
  exact h.1.1.1.1.2

variable {db : Db κ ι}

theorem dbOk_recorded (hdb : P.DbOk D db) (event : ProviderTurnCalibrationEvent) {spent : Int}
    (hlow : (db.spend event.subjectId).getD 0 ≤ spent) (hhigh : spent ≤ Range.i64.hi) :
    P.DbOk D { db with
      events := db.events ++ [event]
      spend := fun subject =>
        if subject = event.subjectId then some spent else db.spend subject } where
  rows := fun key row h => by
    obtain ⟨hrow, hkey, hversion, hanchor⟩ := hdb.rows key row h
    refine ⟨hrow, hkey, hversion, ?_⟩
    simp only []
    split
    · rename_i hsubject
      rw [hsubject] at hanchor
      exact Int.le_trans hanchor hlow
    · exact hanchor
  spend := fun subject => by
    simp only []
    split
    · exact ⟨Int.le_trans (hdb.spend event.subjectId).1 hlow, hhigh⟩
    · exact hdb.spend subject
  events := fun e he => by
    simp only []
    split
    · rfl
    · rcases mem_append.mp he with he | he
      · exact hdb.events e he
      · rename_i hsubject
        rw [mem_singleton] at he
        exact absurd (congrArg (·.subjectId) he) hsubject

theorem recordEvent_spend {db' : Db κ ι} (h : recordEvent db event = .ok (db', spend)) :
    db'.spend event.subjectId = some spend := by
  unfold recordEvent at h
  split at h
  · cases h
  · split at h
    · obtain ⟨spent, -, h⟩ := bind_eq_ok.mp h
      cases h
      exact if_pos rfl
    · split at h
      · obtain ⟨spent, hspent, h⟩ := bind_eq_ok.mp h
        cases h
        exact orFail_eq_ok.mp hspent
      · cases h

theorem recordEvent_recorded (hv : validateProviderTurnCalibrationEvent event = .ok ())
    (hstored : db.events.find? (fun e => e.requestId == event.requestId) = some event)
    (hspend : db.spend event.subjectId = some spend) :
    recordEvent db event = .ok (db, spend) := by
  unfold recordEvent
  rw [hv]
  simp only [hstored, if_true, hspend]
  rfl

theorem recordEvent_ends (hdb : P.DbOk D db)
    (hv : validateProviderTurnCalibrationEvent event = .ok ()) (hfits : SpendFits db event) :
    EndsIn (· = Fault.replayConflict) (fun done => P.DbOk D done.1) (recordEvent db event) := by
  have hpos := event_total_pos hv
  have hspend := hdb.spend event.subjectId
  cases hfind : db.events.find? (fun e => e.requestId == event.requestId) with
  | none =>
    have hhigh := hfits hfind
    unfold recordEvent
    rw [hv]
    simp only [hfind]
    rw [Range.checked_nonneg (by omega), if_pos hhigh]
    exact dbOk_recorded hdb event (by omega) hhigh
  | some stored =>
    by_cases hsame : stored = event
    · rw [hsame] at hfind
      have hmem := mem_of_find?_eq_some hfind
      obtain ⟨spent, hspent⟩ := isSome_iff_exists.mp (hdb.events event hmem)
      rw [recordEvent_recorded hv hfind hspent]
      exact hdb
    · unfold recordEvent
      rw [hv]
      simp only [hfind, if_neg hsame]
      rfl

/-! ## What every operation keeps -/

def QueueValid (P : Provider κ ι ω) (turns : List (Turn ω)) : Prop :=
  ∀ turn ∈ turns, P.ValidTurn turn.event turn.plan turn.snapshots

theorem queueValid_nil : QueueValid P ([] : List (Turn ω)) :=
  fun _ h => absurd h not_mem_nil

/-- The invariant of the tables and the queue. -/
structure Steady (P : Provider κ ι ω) (D : κ → Unit → Prop) (w : World κ ι ω) : Prop where
  db : P.DbOk D w.db
  queue : QueueValid P w.delivery.pending

theorem steady_start : Steady P D World.start := ⟨dbOk_empty, queueValid_nil⟩

theorem queueValid_enqueue {d : Delivery ω} (h : QueueValid P d.pending)
    {snapshots : List (Snapshot ω)} (hv : P.ValidTurn event plan snapshots) :
    QueueValid P (enqueue d event plan snapshots).pending := by
  unfold enqueue
  split
  · exact h
  · intro turn hturn
    rcases mem_append.mp hturn with hturn | hturn
    · exact h turn hturn
    · rw [mem_singleton.mp hturn]
      exact hv

section Laws

variable [DecidableEq κ]

theorem observation_valid (L : P.Lawful D) {source : Source} {snapshot : Snapshot ω}
    (h : P.ValidSnapshot subject plan source snapshot) (hspend : 0 ≤ spend) :
    P.estimator.validateObservation (P.observation subject plan spend source snapshot) = .ok () :=
  L.spends h hspend

theorem observation_subject (L : P.Lawful D) (subject plan : String) (spend : Int)
    (source : Source) (snapshot : Snapshot ω) :
    P.subject (P.observation subject plan spend source snapshot).identity = subject :=
  L.subject _ _ _

variable [DecidableEq ι]

variable {db : Db κ ι} {w : World κ ι ω}

theorem observeAll_ok (L : P.Lawful D) (hrounds : 0 < rounds)
    {observations : List (Observation κ Source)} (hdb : P.DbOk D db)
    (hspend : spend = (db.spend subject).getD 0)
    (hv : ∀ o ∈ observations, P.estimator.validateObservation o = .ok () ∧
      P.subject o.identity = subject ∧ o.gatewaySpendNano = spend)
    (hadmits : P.AdmitsAll rounds db observations) :
    ∃ db' states, P.observeAll rounds db observations = (db', .ok states) ∧ P.DbOk D db' := by
  induction observations generalizing db with
  | nil => exact ⟨db, [], rfl, hdb⟩
  | cons o _ ih =>
    obtain ⟨hvalid, hsubject, hnano⟩ := hv o (mem_cons_self ..)
    obtain ⟨hfirst, hrest⟩ := hadmits
    have hcumulative : o.gatewaySpendNano = (db.spend (P.subject o.identity)).getD 0 := by
      rw [hnano, hsubject, hspend]
    obtain ⟨db1, row, hone, hdb1, hsame⟩ := observe_ok L hdb hvalid hcumulative hfirst hrounds
    rw [hone] at hrest
    obtain ⟨db2, states, hall, hdb2⟩ := ih hdb1 (by rw [hsame, hspend])
      (fun o' ho' => hv o' (mem_cons_of_mem _ ho')) (hrest _ rfl)
    refine ⟨db2, row :: states, ?_, hdb2⟩
    rw [observeAll, hone]
    simp only [hall]
    rfl

theorem persist_ends (L : P.Lawful D) (hrounds : 0 < rounds) (hdb : P.DbOk D db) {turn : Turn ω}
    (hv : P.ValidTurn turn.event turn.plan turn.snapshots)
    (hadmits : P.AdmitsTurn rounds db turn) :
    P.DbOk D (P.persist rounds db turn).1 ∧
      EndsIn (· = Fault.replayConflict) (fun _ => True) (P.persist rounds db turn).2 := by
  obtain ⟨hfits, hall⟩ := hadmits
  have hends := recordEvent_ends hdb hv.valid hfits
  unfold persist
  rw [if_neg (by simp [hv.provider, hv.planned])]
  cases hrecord : recordEvent db turn.event with
  | error => exact ⟨hdb, hends.of_eq_error hrecord⟩
  | ok done =>
    obtain ⟨db', spend⟩ := done
    have hdb' : P.DbOk D db' := hends.of_eq_ok hrecord
    have hspend : spend = (db'.spend turn.event.subjectId).getD 0 := by
      rw [recordEvent_spend hrecord]
      rfl
    rw [hrecord] at hall
    have hobservations : ∀ o ∈ Turn.observations P turn spend,
        P.estimator.validateObservation o = .ok () ∧
          P.subject o.identity = turn.event.subjectId ∧ o.gatewaySpendNano = spend := by
      intro o ho
      obtain ⟨snapshot, hsnapshot, rfl⟩ := mem_map.mp ho
      have hnonneg : 0 ≤ spend := by
        have := (hdb'.spend turn.event.subjectId).1
        rwa [← hspend] at this
      exact ⟨observation_valid L (hv.snapshots snapshot hsnapshot) hnonneg,
        observation_subject L .., rfl⟩
    obtain ⟨db'', states, hstates, hdb''⟩ :=
      observeAll_ok L hrounds hdb' hspend hobservations (hall _ rfl)
    simp only [hstates]
    exact ⟨hdb'', trivial⟩

/-! ## The queue -/

theorem flushLoop_drains (L : P.Lawful D) (hrounds : 0 < rounds) {target : Option Nat}
    {turns : List (Turn ω)} {s : Flushed κ ι ω} (hdb : P.DbOk D s.db)
    (hv : QueueValid P turns) (hadmits : P.AdmitsQueue rounds s.db turns) :
    P.DbOk D (P.flushLoop rounds target s turns).db ∧
      (P.flushLoop rounds target s turns).delivery.pending = [] ∧
      (P.flushLoop rounds target s turns).blocked = s.blocked := by
  induction turns generalizing s with
  | nil => exact ⟨hdb, rfl, rfl⟩
  | cons turn rest ih =>
    obtain ⟨hdb', hends⟩ := persist_ends L hrounds hdb (hv turn (mem_cons_self ..)) hadmits.1
    have hrest := hadmits.2
    have hvrest : QueueValid P rest := fun t ht => hv t (mem_cons_of_mem _ ht)
    unfold flushLoop
    cases hpersist : P.persist rounds s.db turn with
    | mk _ result =>
      rw [hpersist] at hdb' hrest hends
      cases result with
      | ok => exact ih hdb' hvrest hrest
      | error e =>
        have he : e = .replayConflict := hends
        rw [he]
        exact ih hdb' hvrest hrest

theorem flush_drains (L : P.Lawful D) (hrounds : 0 < rounds) (target : Option Nat)
    {d : Delivery ω} (hdb : P.DbOk D db) (hv : QueueValid P d.pending)
    (hadmits : P.AdmitsQueue rounds db d.pending) :
    P.DbOk D (P.flush rounds target db d).db ∧
      (P.flush rounds target db d).delivery.pending = [] ∧
      (P.flush rounds target db d).blocked = none := by
  let s : Flushed κ ι ω := ⟨db, d, none, false, none⟩
  have hloop : P.DbOk D (P.flushLoop rounds target s d.pending).db ∧
      (P.flushLoop rounds target s d.pending).delivery.pending = [] ∧
      (P.flushLoop rounds target s d.pending).blocked = none :=
    flushLoop_drains L hrounds hdb hv hadmits
  unfold flush
  simp only []
  split
  · exact hloop
  · exact hloop

/-! ## Runs -/

theorem step_serves (L : P.Lawful D) (hrounds : 0 < rounds) (hw : Steady P D w) {op : Op ω}
    (hop : P.ValidOp op) (hadmits : P.AdmitsOp rounds w op) :
    Steady P D (P.step rounds w op).1 ∧ Serves op (P.step rounds w op) := by
  cases op with
  | enqueue => exact ⟨⟨hw.db, queueValid_enqueue hw.queue hop⟩, trivial⟩
  | recordTurn target =>
    obtain ⟨hdb, hempty, hfree⟩ := flush_drains L hrounds target hw.db hw.queue hadmits
    refine ⟨⟨hdb, ?_⟩, ?_⟩
    · show QueueValid P (P.flush rounds target w.db w.delivery).delivery.pending
      rw [hempty]
      exact queueValid_nil
    · simp only [step, hfree]
      cases (P.flush rounds target w.db w.delivery).targetConflict with
      | true | false => exact hempty
  | observeWindow subject plan snapshot =>
    obtain ⟨hqueue, hpoll⟩ := hadmits
    obtain ⟨hsubject, hsnapshot⟩ := hop
    obtain ⟨hdb, hempty, hfree⟩ := flush_drains L hrounds none hw.db hw.queue hqueue
    have hnonneg := (hdb.spend subject).1
    have hvalid := observation_valid L hsnapshot hnonneg
    obtain ⟨db', row, hobserved, hdb', hsame⟩ :=
      observe_ok L hdb hvalid (by rw [observation_subject L]; rfl) hpoll hrounds
    have hdone : P.pollWindow rounds (P.flush rounds none w.db w.delivery).db subject plan
        snapshot =
        .ok (db', ((P.flush rounds none w.db w.delivery).db.spend subject).getD 0, row) := by
      simp only [pollWindow, subjectSpend, hsubject, failIf, bind, Except.bind, if_bool,
        hobserved]
    simp only [step, hfree, hdone]
    refine ⟨⟨hdb', ?_⟩, hempty⟩
    show QueueValid P (P.flush rounds none w.db w.delivery).delivery.pending
    rw [hempty]
    exact queueValid_nil

theorem neverWedges (L : P.Lawful D) (hrounds : 0 < rounds) : P.NeverWedges rounds := by
  intro before op hvalid halong
  rw [along_append] at halong
  have hstep : ∀ w op', Steady P D w → P.ValidOp op' ∧ P.AdmitsOp rounds w op' →
      Steady P D (P.step rounds w op').1 :=
    fun w op' hw h => (step_serves L hrounds hw h.1 h.2).1
  have hbefore : ∀ op' ∈ before, P.ValidOp op' := fun op' h => hvalid op' (by simp [h])
  have hsteady := run_invariant_along hstep steady_start
    (along_and.mpr ⟨along_forall.mpr hbefore, halong.1⟩)
  exact (step_serves L hrounds hsteady (hvalid op (by simp)) halong.2.1).2

/-! ## A head that blocks -/

/-- The head of the queue fails with `e`, and leaves the tables as they are. -/
def Blocked (P : Provider κ ι ω) (rounds : Nat) (e : Failure) (w : World κ ι ω) : Prop :=
  ∃ turn rest, w.delivery.pending = turn :: rest ∧
    P.persist rounds w.db turn = (w.db, .error (.failed e))

theorem blocked_of_observe {turn : Turn ω} {rest : List (Turn ω)}
    (hpending : w.delivery.pending = turn :: rest)
    (hv : P.ValidTurn turn.event turn.plan turn.snapshots)
    (hrecorded : recordEvent w.db turn.event = .ok (w.db, spend)) {o : Observation κ Source}
    {observations : List (Observation κ Source)}
    (hobservations : Turn.observations P turn spend = o :: observations)
    (hfails : P.observe w.db o rounds = .error (.failed e)) : Blocked P rounds e w := by
  refine ⟨turn, rest, hpending, ?_⟩
  unfold persist
  rw [if_neg (by simp [hv.provider, hv.planned]), hrecorded]
  simp only [hobservations, observeAll, hfails]
  rfl

theorem step_blocked (h : Blocked P rounds e w) (op : Op ω) :
    Blocked P rounds e (P.step rounds w op).1 ∧
      ((∀ event plan snapshots, op ≠ .enqueue event plan snapshots) →
        (P.step rounds w op).2 = .failed (.failed e)) := by
  obtain ⟨turn, rest, hpending, hpersist⟩ := h
  have hflush : ∀ target, P.flush rounds target w.db w.delivery =
      ⟨w.db, { w.delivery with persistenceOk := false }, none, false, some (.failed e)⟩ := by
    intro target
    simp only [flush, hpending, flushLoop, hpersist]
    rfl
  cases op with
  | enqueue event plan snapshots =>
    refine ⟨?_, fun h => absurd rfl (h event plan snapshots)⟩
    simp only [step, enqueue]
    split
    · exact ⟨turn, rest, hpending, hpersist⟩
    · exact ⟨turn, _, by rw [hpending, cons_append], hpersist⟩
  | recordTurn target | observeWindow subject plan snapshot =>
    simp only [step, hflush]
    exact ⟨⟨turn, rest, hpending, hpersist⟩, fun _ => trivial⟩

theorem run_blocked (h : Blocked P rounds e w) (ops : List (Op ω)) :
    Blocked P rounds e (run (fun w op => (P.step rounds w op).1) w ops) :=
  run_invariant (I := Blocked P rounds e) (fun _ op hw => (step_blocked hw op).1) h ops

end Laws

end Provider

/-! ## The two halves -/

theorem invalidReading_spend {ν : Type} {o : Observation κ ν}
    (h : invalidReading o = false) (hspend : 0 ≤ spend) :
    invalidReading { o with gatewaySpendNano := spend } = false := by
  simp only [invalidReading, guard_iffs] at h ⊢
  exact ⟨h.1, by omega⟩

theorem Anthropic.identity_ext {i j : Anthropic.Identity} (hi : i.valid = true)
    (hj : j.valid = true)
    (hkey : (i.subjectId, i.plan, i.windowKind) = (j.subjectId, j.plan, j.windowKind)) :
    i = j := by
  obtain ⟨subject, plan, kind, mins⟩ := i
  obtain ⟨subject', plan', kind', mins'⟩ := j
  simp only [Prod.mk.injEq] at hkey
  obtain ⟨rfl, rfl, rfl⟩ := hkey
  have hmins : mins = mins' := by
    simp only [Anthropic.Identity.valid, Anthropic.validAnthropicWindow, guard_iffs] at hi hj
    rcases hi.2 with ⟨h5, h⟩ | ⟨h7, h⟩ <;> rcases hj.2 with ⟨h5', h'⟩ | ⟨h7', h'⟩
    · rw [h, h']
    · simp [h5] at h7'
    · simp [h7] at h5'
    · rw [h, h']
  rw [hmins]

theorem Anthropic.provider_lawful : Anthropic.provider.Lawful Anthropic.Described where
  estimator := Anthropic.lawful
  fits := fun hrow ho hu huhi hs hshi hfits =>
    measureInterval_ok "Anthropic" hrow ho hu huhi hs hshi hfits
  applies := fun hcurrent => if_pos hcurrent
  accepts := fun {row} hrow => by
    have hvalid := Anthropic.lawful.accepts hrow.sound hrow.described hrow.current hrow.version
    obtain ⟨_, hvalid, -⟩ := bind_eq_ok.mp hvalid
    exact hvalid
  observes := fun hv => hv
  identifies := fun hrow hv hkey =>
    Anthropic.identity_ext (Anthropic.lawful.starts hv) hrow.described hkey.symm
  subject := fun _ _ _ => rfl
  fresh := fun {row o} h => by
    simp only [Anthropic.provider, Anthropic.staleOrDuplicate, guard_iffs, Int.not_lt] at h
    exact h.1
  spends := fun {o spend} hv hspend => by
    have h := failIf_eq_ok.mp hv
    simp only [guard_iffs] at h
    refine failIf_eq_ok.mpr ?_
    simp only [guard_iffs]
    exact ⟨⟨h.1.1, invalidReading_spend h.1.2 hspend⟩, h.2⟩

theorem ExactGemini.identity_ext {i j : ExactGemini.Identity} (hi : i.valid = true)
    (hj : j.valid = true)
    (hkey : (i.profileId, i.plan, i.bucketId) = (j.profileId, j.plan, j.bucketId)) :
    i = j := by
  obtain ⟨profile, plan, bucket, kind, mins⟩ := i
  obtain ⟨profile', plan', bucket', kind', mins'⟩ := j
  simp only [Prod.mk.injEq] at hkey
  obtain ⟨rfl, rfl, rfl⟩ := hkey
  have hwindow : kind = kind' ∧ mins = mins' := by
    simp only [ExactGemini.Identity.valid, ExactGemini.validGeminiExactWindow,
      guard_iffs] at hi hj
    rcases hi.2 with ⟨⟨h5, hk⟩, hm⟩ | ⟨⟨h7, hk⟩, hm⟩ <;>
      rcases hj.2 with ⟨⟨h5', hk'⟩, hm'⟩ | ⟨⟨h7', hk'⟩, hm'⟩
    · exact ⟨hk.trans hk'.symm, hm.trans hm'.symm⟩
    · simp [h5] at h7'
    · simp [h7] at h5'
    · exact ⟨hk.trans hk'.symm, hm.trans hm'.symm⟩
  rw [hwindow.1, hwindow.2]

theorem ExactGemini.validateObservation_registry {o : Observation ExactGemini.Identity Source}
    (h : ExactGemini.validateObservation o = .ok ()) :
    ExactGemini.validateGeminiExactWindowObservation o = .ok () := by
  have hvalid := (ExactGemini.validateObservation_eq_ok h).1
  obtain ⟨_, -, h⟩ := bind_eq_ok.mp h
  have h := failIf_eq_ok.mp h
  simp only [guard_iffs] at h
  refine failIf_eq_ok.mpr ?_
  simp only [hvalid, h.1.2, h.2, Bool.not_true, Bool.or_false]

theorem ExactGemini.provider_lawful :
    ExactGemini.provider.Lawful ExactGemini.Described where
  estimator := ExactGemini.lawful
  fits := fun hrow ho hu huhi hs hshi hfits =>
    measureInterval_ok "Gemini" hrow ho hu huhi hs hshi hfits
  applies := fun hcurrent => if_pos hcurrent
  accepts := fun {row} hrow => by
    have hvalid :=
      ExactGemini.lawful.accepts hrow.sound hrow.described hrow.current hrow.version
    obtain ⟨_, hvalid, -⟩ := bind_eq_ok.mp hvalid
    exact hvalid
  observes := fun hv => ExactGemini.validateObservation_registry hv
  identifies := fun hrow hv hkey =>
    ExactGemini.identity_ext (ExactGemini.lawful.starts hv) hrow.described hkey.symm
  subject := fun _ _ _ => rfl
  fresh := fun {row o} h => by
    simp only [ExactGemini.provider, ExactGemini.staleOrDuplicate, guard_iffs, Int.not_lt] at h
    exact h.1
  spends := fun {o spend} hv hspend => by
    obtain ⟨contract, hcontract, h⟩ := bind_eq_ok.mp hv
    have h := failIf_eq_ok.mp h
    simp only [guard_iffs] at h
    refine bind_eq_ok.mpr ⟨contract, hcontract, failIf_eq_ok.mpr ?_⟩
    simp only [guard_iffs]
    exact ⟨⟨h.1.1, invalidReading_spend h.1.2 hspend⟩, h.2⟩

/-- A turn whose snapshots are not behind the stored resets, and close nothing
that does not fit, is never in the way of another. -/
theorem queue_never_wedges (rounds : Nat) (hrounds : 0 < rounds) :
    Anthropic.provider.NeverWedges rounds ∧ ExactGemini.provider.NeverWedges rounds :=
  ⟨Provider.neverWedges Anthropic.provider_lawful hrounds,
    Provider.neverWedges ExactGemini.provider_lawful hrounds⟩

/-! ## A reading a second behind -/

namespace Anthropic

def turnEvent (requestId : String) (completedAt : Int) : ProviderTurnCalibrationEvent where
  provider := "anthropic"
  requestId := requestId
  subjectId := "account"
  modelId := "model"
  serviceTier := "standard"
  inferenceGeo := "global"
  tariffScheduleId := "schedule"
  pricedTs := completedAt
  completedAt := completedAt
  inputTokens := 1
  audioInputTokens := 0
  cacheReadTokens := 0
  cachedAudioInputTokens := 0
  cacheWrite5mTokens := 0
  cacheWrite1hTokens := 0
  outputTokens := 0
  thinkingOutputTokens := 0
  imageOutputTokens := 0
  toolPromptTokens := 0
  searchQueries := 0
  groundedSearchPrompts := 0
  apiInputNanousd := 1
  apiAudioInputNanousd := 0
  apiCacheReadNanousd := 0
  apiCachedAudioInputNanousd := 0
  apiCacheWrite5mNanousd := 0
  apiCacheWrite1hNanousd := 0
  apiOutputNanousd := 0
  apiImageOutputNanousd := 0
  apiSearchNanousd := 0
  apiTotalNanousd := 1

def sessionSnapshot (resetsAt used observedAt : Int) : Snapshot Window :=
  ⟨⟨"5h", 300⟩, resetsAt, used, 1000000, observedAt⟩

def twoTurns (secondReset : Int) : List (Provider.Op Window) :=
  [.enqueue (turnEvent "first" 1000) "max" [sessionSnapshot 18000 1000000 1000],
    .recordTurn (some 1),
    .enqueue (turnEvent "second" 1060) "max" [sessionSnapshot secondReset 5000000 1060],
    .recordTurn (some 2)]

def afterTwoTurns (secondReset : Int) : Provider.World Identity (String × String × String) Window :=
  run (fun w op => (provider.step 1 w op).1) .start (twoTurns secondReset)

def laterPoll : Provider.Op Window :=
  .observeWindow "account" "max" (sessionSnapshot 18000 6000000 1120)

/-- A reset that stays where it is: the poll is observed. -/
theorem session_drains :
    Provider.Serves laterPoll (provider.step 1 (afterTwoTurns 18000) laterPoll) :=
  (queue_never_wedges 1 (by decide)).1 (twoTurns 18000) laterPoll (by decide +kernel)
    (by decide +kernel)

def mismatch : Failure := .refused "Anthropic calibration state/observation mismatch"

def secondTurn (resetsAt : Int) : Provider.Turn Window :=
  ⟨2, turnEvent "second" 1060, "max", [sessionSnapshot resetsAt 5000000 1060]⟩

theorem jitter_blocked : Provider.Blocked provider 1 mismatch (afterTwoTurns 17999) := by
  have hpending : (afterTwoTurns 17999).delivery.pending = [secondTurn 17999] := by
    decide +kernel
  have hvalid : provider.ValidTurn (turnEvent "second" 1060) "max"
      [sessionSnapshot 17999 5000000 1060] := by
    decide
  have hstored : (afterTwoTurns 17999).db.events.find? (fun e => e.requestId == "second") =
      some (turnEvent "second" 1060) := by
    decide +kernel
  have hspend : (afterTwoTurns 17999).db.spend "account" = some 2 := by decide +kernel
  exact Provider.blocked_of_observe hpending hvalid
    (Provider.recordEvent_recorded hvalid.valid hstored hspend) rfl rfl

/-- A reset a second behind: whatever happens afterwards, the poll, though
valid, fails with the error of the turn at the head of the queue. -/
theorem jitter_wedges :
    (∀ op ∈ twoTurns 17999 ++ [laterPoll], provider.ValidOp op) ∧
      ∀ later : List (Provider.Op Window),
        let w := run (fun w op => (provider.step 1 w op).1) (afterTwoTurns 17999) later
        w.delivery.pending ≠ [] ∧
          (provider.step 1 w laterPoll).2 = .failed (.failed mismatch) ∧
          ¬ Provider.Serves laterPoll (provider.step 1 w laterPoll) := by
  refine ⟨by decide +kernel, fun later => ?_⟩
  have hblocked := Provider.run_blocked jitter_blocked later
  have hfailed := (Provider.step_blocked hblocked laterPoll).2 (by simp [laterPoll])
  obtain ⟨turn, rest, hpending, -⟩ := hblocked
  refine ⟨by rw [hpending]; exact cons_ne_nil _ _, hfailed, ?_⟩
  unfold Provider.Serves
  rw [hfailed]
  exact id

end Anthropic

end ApiToken.Calibration
