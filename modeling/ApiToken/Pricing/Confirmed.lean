import ApiToken.Pricing.Queue

/-!
# A confirmed price is the wanted price

The invariant of the queue. A processing row is held by one attempt, the
latest of the worker that its lease names, so the fence of a verdict lets
exactly the holder through, and a call that lands in time lands for the row as
it is.

What carries the main result is that a verdict confirms its row only with
the wanted value of that moment. The lock on the account sees to it for a
default. For an override it holds only if no edit of that override commits
between the snapshot of the verdict's statement and its lock, which is one of
the two conditions on a run (`World.timely`).
-/

namespace ApiToken.PricingJobs

variable {t : Target} {row : PricingJob} {a b : Nat} {att att' attb new : Attempt}
  {db' db : Commerce} {now : Int} {w account : String} {v : Verdict}
  {jobs' : Table Target PricingJob} {r : Recovery} {job : ClaimedPricingJob}
  {d : Desired} {kind : VerdictKind} {l : List Attempt} {s' : World}
  {locked : List Target}

/-! ## The invariant -/

/-- The row is locked for this attempt. -/
structure Leased (row : PricingJob) (att : Attempt) : Prop where
  status : row.status = .processing
  lockedBy : row.lockedBy = some att.job.workerId
  lockedAt : row.lockedAt = some att.claimedAt
  account : row.engineAccountId = att.job.engineAccountId
  value : row.multiplierBp = att.job.multiplierBp

/-- The attempt that a processing row is locked for. -/
structure Holder (s : World) (t : Target) (row : PricingJob) (a : Nat)
    (att : Attempt) : Prop where
  attempt : s.attempts[a]? = some att
  target : att.job.target = t
  leased : Leased row att
  /-- A call that has landed is the last delivery for the target. -/
  landed : att.delivery = .landed →
    s.delivered.find? t = some (row.engineAccountId, row.multiplierBp)
  /-- Its worker is not at work on another attempt at the same target. -/
  latest : ∀ (c : Nat) (att' : Attempt), s.current.find? att.job.workerId = some c →
    s.attempts[c]? = some att' → att'.job.target = t → c = a

/-- Verdict open and lease not expired. -/
def World.Live (s : World) (att : Attempt) : Prop :=
  att.closed = false ∧ s.clock ≤ att.claimedAt + leaseInterval

/-- What an open verdict has read. -/
structure VerdictSound (s : World) (w : String) (v : Verdict) (att : Attempt) : Prop where
  current : s.current.find? w = some v.attempt
  attempt : s.attempts[v.attempt]? = some att
  landed : v.kind = .confirm → att.delivery = .landed
  desired : ∀ d, v.desired = some d →
    d.multiplierBp = s.db.wanted att.job.target ∧
      ∀ account, d.engineAccountId = some account →
        s.db.engineAccount att.job.target.userId = some account

def World.inSync (s : World) (t : Target) : Prop :=
  ∃ account, s.db.engineAccount t.userId = some account ∧
    s.delivered.find? t = some (account, s.db.wanted t)

structure RecoverySound (s : World) (r : Recovery) : Prop where
  began : r.began ≤ s.clock
  accounts : ∀ t wanted, r.stale.lookup t = some wanted →
    s.db.engineAccount t.userId = some wanted.1

/-- The invariant of rows, attempts and deliveries. -/
structure Sound (base : Target → Option Int) (s : World) : Prop where
  /-- A target without a row is still at its first value. -/
  untouched : ∀ t, s.db.jobs.find? t = none → s.db.wanted t = base t
  accounts : ∀ t row, s.db.jobs.find? t = some row →
    s.db.engineAccount t.userId = some row.engineAccountId
  held : ∀ t row, s.db.jobs.find? t = some row → row.status = .processing →
    ∃ a att, Holder s t row a att
  live : ∀ (a : Nat) (att : Attempt), s.attempts[a]? = some att → s.Live att →
    ∃ row, s.db.jobs.find? att.job.target = some row ∧
      Holder s att.job.target row a att
  confirmed : ∀ t row, s.db.jobs.find? t = some row → row.status = .confirmed →
    s.inSync t
  attempts : ∀ (a : Nat) (att : Attempt), s.attempts[a]? = some att →
    s.db.engineAccount att.job.target.userId = some att.job.engineAccountId
  current : ∀ w c, s.current.find? w = some c →
    ∃ att, s.attempts[c]? = some att ∧ att.job.workerId = w
  verdicts : ∀ w v, s.verdicts.find? w = some v → ∃ att, VerdictSound s w v att
  recoveries : ∀ sid r, s.recoveries.find? sid = some r → RecoverySound s r

variable {base : Target → Option Int} {s : World}

/-! ## Steps on the database -/

/-- What a step may do to the row of a target. -/
inductive RowStep (s : World) (db' : Commerce) (t : Target) : Prop where
  | same (jobs : db'.jobs.find? t = s.db.jobs.find? t)
      (wanted : db'.wanted t = s.db.wanted t)
  | busy (row : PricingJob) (before : s.db.jobs.find? t = some row)
      (after : db'.jobs.find? t = some row) (status : row.status = .processing)
  | released (row' : PricingJob) (after : db'.jobs.find? t = some row')
      (status : row'.status ≠ .processing)
      (account : s.db.engineAccount t.userId = some row'.engineAccountId)
      (confirmed : row'.status = .confirmed →
        db'.wanted t = s.db.wanted t ∧ s.inSync t)
      (free : ∀ (a : Nat) (att : Attempt), s.attempts[a]? = some att → att.job.target = t →
        ¬ s.Live att)

theorem Holder.withDb (h : Holder s t row a att) (db' : Commerce) :
    Holder { s with db := db' } t row a att :=
  ⟨h.attempt, h.target, h.leased, h.landed, h.latest⟩

theorem Sound.rewrite (h : Sound base s) (haccounts : db'.accounts = s.db.accounts)
    (hrows : ∀ t, RowStep s db' t) (hverdicts : ∀ w v att, s.verdicts.find? w = some v →
      s.attempts[v.attempt]? = some att → v.desired.isSome = true →
      db'.wanted att.job.target = s.db.wanted att.job.target) :
    Sound base { s with db := db' } := by
  have hengine : ∀ u, db'.engineAccount u = s.db.engineAccount u := by
    intro u
    simp only [Commerce.engineAccount, haccounts]
  constructor
  · intro t hnone
    cases hrows t with
    | same jobs wanted => exact wanted.trans (h.untouched t (jobs ▸ hnone))
    | busy row _ after _ | released row' after => rw [after] at hnone; cases hnone
  · intro t row hrow
    show db'.engineAccount t.userId = _
    rw [hengine]
    cases hrows t with
    | same jobs => exact h.accounts t row (jobs ▸ hrow)
    | busy row1 before after =>
      obtain rfl : row1 = row := some.inj (after.symm.trans hrow)
      exact h.accounts t row1 before
    | released row' after _ account =>
      obtain rfl : row' = row := some.inj (after.symm.trans hrow)
      exact account
  · intro t row hrow hstatus
    have hbefore : s.db.jobs.find? t = some row := by
      cases hrows t with
      | same jobs => exact jobs ▸ hrow
      | busy _ before after => exact (before.trans after.symm).trans hrow
      | released row' after status =>
        obtain rfl : row' = row := some.inj (after.symm.trans hrow)
        exact absurd hstatus status
    obtain ⟨a, att, hholder⟩ := h.held t row hbefore hstatus
    exact ⟨a, att, hholder.withDb db'⟩
  · intro a att hatt hlive
    obtain ⟨row, hrow, hholder⟩ := h.live a att hatt hlive
    refine ⟨row, ?_, hholder.withDb db'⟩
    cases hrows att.job.target with
    | same jobs => exact jobs.trans hrow
    | busy _ before after => exact (after.trans before.symm).trans hrow
    | released _ _ _ _ _ free => exact absurd hlive (free a att hatt rfl)
  · intro t row hrow hstatus
    have hsync : db'.wanted t = s.db.wanted t ∧ s.inSync t := by
      cases hrows t with
      | same jobs wanted => exact ⟨wanted, h.confirmed t row (jobs ▸ hrow) hstatus⟩
      | busy row1 _ after status =>
        obtain rfl : row1 = row := some.inj (after.symm.trans hrow)
        rw [hstatus] at status
        cases status
      | released row' after _ _ confirmed =>
        obtain rfl : row' = row := some.inj (after.symm.trans hrow)
        exact confirmed hstatus
    obtain ⟨hwanted, account, haccount, hdelivered⟩ := hsync
    refine ⟨account, (hengine _).trans haccount, ?_⟩
    show s.delivered.find? t = some (account, db'.wanted t)
    rw [hwanted]
    exact hdelivered
  · intro a att hatt
    exact (hengine _).trans (h.attempts a att hatt)
  · exact h.current
  · intro w v hv
    obtain ⟨att, hsound⟩ := h.verdicts w v hv
    refine ⟨att, hsound.current, hsound.attempt, hsound.landed, ?_⟩
    intro d hd
    obtain ⟨hvalue, haccount⟩ := hsound.desired d hd
    have hwanted := hverdicts w v att hv hsound.attempt (by rw [hd]; rfl)
    exact ⟨hvalue.trans hwanted.symm, fun account hd => (hengine _).trans (haccount account hd)⟩
  · intro sid r hr
    have hsound := h.recoveries sid r hr
    exact ⟨hsound.began, fun t wanted ht => (hengine _).trans (hsound.accounts t wanted ht)⟩

theorem Sound.free_of_idle (h : Sound base s)
    (hidle : ∀ row, s.db.jobs.find? t = some row → row.status ≠ .processing) (a : Nat)
    (att : Attempt) (hatt : s.attempts[a]? = some att) (ht : att.job.target = t) :
    ¬ s.Live att := by
  intro hlive
  obtain ⟨row, hrow, hholder⟩ := h.live a att hatt hlive
  exact hidle row (ht ▸ hrow) hholder.leased.status

theorem Sound.free_of_expired (h : Sound base s) (hnow : now ≤ s.clock)
    (hrow : s.db.jobs.find? t = some row) (hexpired : leaseExpired now row = true)
    (a : Nat) (att : Attempt) (hatt : s.attempts[a]? = some att) (ht : att.job.target = t) :
    ¬ s.Live att := by
  intro hlive
  obtain ⟨row', hrow', hholder⟩ := h.live a att hatt hlive
  rw [ht, hrow] at hrow'
  obtain rfl := some.inj hrow'
  have hlocked := hholder.leased.lockedAt
  simp only [leaseExpired, hlocked, all_some, guard_iffs] at hexpired
  have := hlive.2
  omega

theorem locked_eq_false {u : String} (h : s.locked u = false)
    (hv : s.verdicts.find? w = some v) (hatt : s.attempts[v.attempt]? = some att)
    (hd : v.desired.isSome = true) : att.job.target.userId ≠ u := by
  have hany := any_eq_false_iff.mp h w v hv
  simpa [hd, hatt] using hany

theorem Sound.applyEdit (h : Sound base s) (began : Int) (e : Edit) :
    Sound base (s.applyEdit began e) := by
  unfold World.applyEdit
  split
  · exact h
  rename_i hfree
  have hlock : s.locked e.userId = false := by simpa using hfree
  split
  · rename_i db' happly
    have hedit := Edit.apply_edited happly
    refine h.rewrite hedit.accounts (fun t => ?_) ?_
    · by_cases ht : t.userId = e.userId
      · cases hedit.targets t ht with
        | same jobs wanted => exact .same jobs wanted
        | busy row before after status => exact .busy row before after status
        | queued row' after status account idle =>
          refine .released row' after (by rw [status]; decide) account ?_ (h.free_of_idle idle)
          intro hconfirmed
          rw [status] at hconfirmed
          cases hconfirmed
      · exact .same (hedit.others t ht).1 (hedit.others t ht).2
    · intro w v att hv hatt hd
      exact (hedit.others _ (locked_eq_false hlock hv hatt hd)).2
  · exact h

theorem Sound.rewriteJobs (h : Sound base s)
    (hrows : ∀ t, RowStep s { s.db with jobs := jobs' } t) :
    Sound base { s with db := { s.db with jobs := jobs' } } :=
  h.rewrite rfl hrows (fun _ _ _ _ _ _ => rfl)

theorem recoverLease_rowStep (h : Sound base s) (hnow : now ≤ s.clock)
    (hrow : s.db.jobs.find? t = some row) (hexpired : leaseExpired now row = true)
    (hafter : jobs'.find? t = some (recoverLease now row)) :
    RowStep s { s.db with jobs := jobs' } t := by
  refine .released (recoverLease now row) hafter (by simp [recoverLease])
    (h.accounts t row hrow) ?_ (h.free_of_expired hnow hrow hexpired)
  intro hconfirmed
  cases hconfirmed

theorem Sound.recoverLeases (h : Sound base s) (hnow : now ≤ s.clock) :
    Sound base { s with db := { s.db with
      jobs := s.db.jobs.update (fun _ row => leaseExpired now row) (recoverLease now) } } := by
  apply h.rewriteJobs
  intro t
  have hfind := find?_update s.db.jobs (fun _ row => leaseExpired now row) (recoverLease now) t
  cases hrow : s.db.jobs.find? t with
  | none =>
    rw [hrow] at hfind
    exact .same (hfind.trans hrow.symm) rfl
  | some row =>
    rw [hrow, map_some] at hfind
    by_cases hexpired : leaseExpired now row = true
    · rw [if_pos hexpired] at hfind
      exact recoverLease_rowStep h hnow hrow hexpired hfind
    · rw [if_neg hexpired] at hfind
      exact .same (hfind.trans hrow.symm) rfl

/-! ## Stale recovery -/

theorem Sound.beginRecovery_sound (h : Sound base s) :
    RecoverySound s (beginRecovery s.db s.clock) := by
  refine ⟨le_refl _, ?_⟩
  rintro t wanted hlookup
  obtain ⟨l1, l2, hsplit, -⟩ := List.lookup_eq_some_iff.mp hlookup
  have hmem : (t, wanted) ∈ (beginRecovery s.db s.clock).stale := by
    rw [hsplit]
    simp
  obtain ⟨⟨t', row⟩, hrow, hstale⟩ := mem_filterMap.mp hmem
  obtain ⟨value, hvalue, heq⟩ := map_eq_some_iff.mp hstale
  cases heq
  have haccount := h.accounts t' row (find?_eq_some_iff.mpr hrow)
  simp only [staleValue, haccount, getD_some] at hvalue
  split at hvalue
  · cases hvalue
    exact haccount
  · cases hvalue

theorem recoverRow_rowStep (h : Sound base s) (hr : RecoverySound s r)
    (hrow : s.db.jobs.find? t = some row)
    (hafter : jobs'.find? t = some (recoverRow r t row)) :
    RowStep s { s.db with jobs := jobs' } t := by
  unfold recoverRow at hafter
  split at hafter
  · rename_i hexpired
    exact recoverLease_rowStep h hr.began hrow (Bool.and_eq_true_iff.mp hexpired).1 hafter
  · split at hafter
    · exact .same (hafter.trans hrow.symm) rfl
    · rename_i account value hlookup
      split at hafter
      · rename_i hstale
        have hconfirmed : row.status = .confirmed := by
          simpa using (Bool.and_eq_true_iff.mp hstale).1
        refine .released _ hafter (by simp [recoverConfirmed, releaseRow])
          (hr.accounts t _ hlookup) ?_ (h.free_of_idle ?_)
        · intro hc
          cases hc
        · intro row' hrow'
          rw [hrow] at hrow'
          cases hrow'
          rw [hconfirmed]
          decide
      · exact .same (hafter.trans hrow.symm) rfl

theorem Sound.recoverStale (h : Sound base s) (hr : RecoverySound s r) :
    Sound base { s with db := recoverStalePricingJobs s.db r } := by
  apply h.rewriteJobs
  intro t
  have hfind := find?_mapRows s.db.jobs (recoverRow r) t
  cases hrow : s.db.jobs.find? t with
  | none =>
    rw [hrow] at hfind
    exact .same (hfind.trans hrow.symm) rfl
  | some =>
    rw [hrow, map_some] at hfind
    exact recoverRow_rowStep h hr hrow hfind

/-! ## Verdicts -/

theorem Sound.holder_of_fence (h : Sound base s) (hcurrent : s.current.find? w = some a)
    (hatt : s.attempts[a]? = some att) (hrow : s.db.jobs.find? att.job.target = some row)
    (hfence : leaseFence att.job row = true) : Holder s att.job.target row a att := by
  obtain ⟨att', hatt', hworker⟩ := h.current w a hcurrent
  obtain rfl : att = att' := some.inj (hatt.symm.trans hatt')
  simp only [leaseFence, guard_iffs] at hfence
  obtain ⟨b, attb, hholder⟩ := h.held _ row hrow hfence.1.1
  have hby : attb.job.workerId = att.job.workerId := by
    have := hholder.leased.lockedBy.symm.trans hfence.1.2
    exact some.inj this
  have hab : a = b := hholder.latest a att (by rw [hby, hworker]; exact hcurrent) hatt rfl
  subst hab
  obtain rfl : att = attb := some.inj (hatt.symm.trans hholder.attempt)
  exact hholder

/-- No other attempt at the target is live beside a closed one that holds it. -/
theorem Holder.free (h : Sound base s) (hholder : Holder s t row a att)
    (hrow : s.db.jobs.find? t = some row)
    (hcurrent : s.current.find? att.job.workerId = some a) (hclosed : att.closed = true)
    (b : Nat) (attb : Attempt) (hattb : s.attempts[b]? = some attb)
    (hb : attb.job.target = t) : ¬ s.Live attb := by
  intro hlive
  obtain ⟨row', hrow', hholder'⟩ := h.live b attb hattb hlive
  rw [hb, hrow] at hrow'
  obtain rfl := some.inj hrow'
  have hby : attb.job.workerId = att.job.workerId := some.inj
    (hholder'.leased.lockedBy.symm.trans hholder.leased.lockedBy)
  have hab : a = b := hholder'.latest a att (by rw [hby]; exact hcurrent)
    hholder.attempt (hholder.target.trans hb.symm)
  subst hab
  obtain rfl : att = attb := some.inj (hholder.attempt.symm.trans hattb)
  rw [hlive.1] at hclosed
  cases hclosed

theorem verdictRow_confirmed (h : (verdictRow now job d row kind).status = .confirmed) :
    kind = .confirm ∧ pricingJobIsCurrent job d = true := by
  cases kind with
  | confirm =>
    by_cases hcur : pricingJobIsCurrent job d = true
    · exact ⟨rfl, hcur⟩
    · simp [verdictRow, hcur, supersededRow, releaseRow] at h
  | retry =>
    simp only [verdictRow] at h
    split at h <;> simp [supersededRow, releaseRow] at h

theorem verdictRow_status (now : Int) (job : ClaimedPricingJob) (d : Desired)
    (row : PricingJob) (kind : VerdictKind) :
    (verdictRow now job d row kind).status ≠ .processing := by
  cases kind <;> simp only [verdictRow] <;> split <;>
    simp [supersededRow, releaseRow]

theorem verdictRow_account (hrow : row.engineAccountId = account)
    (hd : d.engineAccountId.getD row.engineAccountId = account) :
    (verdictRow now job d row kind).engineAccountId = account := by
  cases kind <;> simp only [verdictRow] <;> split <;>
    simp [supersededRow, releaseRow, hrow, hrow ▸ hd]

theorem Sound.writeVerdict (h : Sound base s) (att : Attempt)
    (hcurrent : s.current.find? w = some a) (hatt : s.attempts[a]? = some att)
    (hclosed : att.closed = true) (hlanded : kind = .confirm → att.delivery = .landed)
    (hvalue : d.multiplierBp = s.db.wanted att.job.target)
    (haccount : ∀ account, d.engineAccountId = some account →
      s.db.engineAccount att.job.target.userId = some account) :
    Sound base { s with db := PricingJobs.writeVerdict s.db now att.job d kind } := by
  unfold PricingJobs.writeVerdict
  cases hrow : s.db.jobs.find? att.job.target with
  | none => exact h
  | some row =>
    dsimp only
    split
    · rename_i hpass
      have hholder := h.holder_of_fence hcurrent hatt hrow (Bool.and_eq_true_iff.mp hpass).1
      have hengine := h.attempts a att hatt
      have hworker : s.current.find? att.job.workerId = some a := by
        obtain ⟨att', hatt', hw⟩ := h.current w a hcurrent
        obtain rfl : att = att' := some.inj (hatt.symm.trans hatt')
        rw [hw]
        exact hcurrent
      apply h.rewriteJobs
      intro t
      by_cases ht : att.job.target = t
      · subst ht
        refine .released _ (find?_put_self _ _ _)
          (verdictRow_status _ _ _ _ _) ?_ ?_
          (hholder.free h hrow hworker hclosed)
        · rw [verdictRow_account hholder.leased.account]
          · exact hengine
          · cases hd : d.engineAccountId with
            | none => exact hholder.leased.account
            | some account => exact some.inj ((haccount account hd).symm.trans hengine)
        · intro hconfirmed
          obtain ⟨hkind, hcur⟩ := verdictRow_confirmed hconfirmed
          refine ⟨rfl, att.job.engineAccountId, hengine, ?_⟩
          have hsame : d.multiplierBp = att.job.multiplierBp := by
            simp only [pricingJobIsCurrent, guard_iffs] at hcur
            exact hcur.1
          rw [hholder.landed (hlanded hkind), hholder.leased.account,
            hholder.leased.value, ← hsame, hvalue]
      · exact .same (find?_put_ne _ _ ht) rfl
    · exact h

/-! ## Attempts -/

theorem getElem?_set_of (hatt : l[a]? = some att) (h : (l.set a att')[b]? = some attb) :
    (a = b ∧ attb = att') ∨ (a ≠ b ∧ l[b]? = some attb) := by
  by_cases hab : a = b
  · subst hab
    have hlt : a < l.length := (List.getElem?_eq_some_iff.mp hatt).1
    rw [List.getElem?_set_self hlt] at h
    exact .inl ⟨rfl, (some.inj h).symm⟩
  · rw [List.getElem?_set_ne hab] at h
    exact .inr ⟨hab, h⟩

theorem getElem?_set_self_of (hatt : l[a]? = some att) : (l.set a att')[a]? = some att' :=
  List.getElem?_set_self (List.getElem?_eq_some_iff.mp hatt).1

/-- What a step keeps of an attempt. -/
structure Advance (s : World) (att att' : Attempt) : Prop where
  job : att'.job = att.job
  claimedAt : att'.claimedAt = att.claimedAt
  closed : att'.closed = false → att.closed = false
  forward : att.delivery = .landed → att'.delivery = .landed
  landed : att'.delivery = .landed → att.delivery = .landed ∨
    s.delivered.find? att.job.target =
      some (att.job.engineAccountId, att.job.multiplierBp)

theorem attempt_before (hatt : s.attempts[a]? = some att) (hadv : Advance s att att')
    (h : (s.setAttempt a att').attempts[b]? = some attb) :
    ∃ old, s.attempts[b]? = some old ∧ attb.job = old.job ∧
      attb.claimedAt = old.claimedAt ∧ (attb.closed = false → old.closed = false) := by
  obtain ⟨rfl, rfl⟩ | ⟨-, h⟩ := getElem?_set_of hatt h
  · exact ⟨att, hatt, hadv.job, hadv.claimedAt, hadv.closed⟩
  · exact ⟨attb, h, rfl, rfl, id⟩

theorem attempt_after (hatt : s.attempts[a]? = some att) (hadv : Advance s att att')
    (h : s.attempts[b]? = some attb) :
    ∃ new, (s.setAttempt a att').attempts[b]? = some new ∧ new.job = attb.job ∧
      new.claimedAt = attb.claimedAt ∧
      (attb.delivery = .landed → new.delivery = .landed) ∧
      (new.delivery = .landed → attb.delivery = .landed ∨
        s.delivered.find? attb.job.target =
          some (attb.job.engineAccountId, attb.job.multiplierBp)) := by
  by_cases hab : a = b
  · subst hab
    obtain rfl : att = attb := some.inj (hatt.symm.trans h)
    exact ⟨att', getElem?_set_self_of hatt, hadv.job, hadv.claimedAt, hadv.forward, hadv.landed⟩
  · exact ⟨attb, (List.getElem?_set_ne hab).trans h, rfl, rfl, id, .inl⟩

theorem Leased.congr (h : Leased row att) (hjob : att'.job = att.job)
    (hclaimed : att'.claimedAt = att.claimedAt) : Leased row att' := by
  refine ⟨h.status, ?_, ?_, ?_, ?_⟩
  · rw [hjob]; exact h.lockedBy
  · rw [hclaimed]; exact h.lockedAt
  · rw [hjob]; exact h.account
  · rw [hjob]; exact h.value

theorem Holder.setAttempt (hholder : Holder s t row b attb)
    (hatt : s.attempts[a]? = some att) (hadv : Advance s att att')
    (hnew : (s.setAttempt a att').attempts[b]? = some new) :
    Holder (s.setAttempt a att') t row b new := by
  obtain ⟨new', hnew', hjob, hclaimed, -, hlanded⟩ := attempt_after hatt hadv hholder.attempt
  obtain rfl : new' = new := some.inj (hnew'.symm.trans hnew)
  refine ⟨hnew, hjob ▸ hholder.target, hholder.leased.congr hjob hclaimed, ?_, ?_⟩
  · intro hl
    rcases hlanded hl with hl | hl
    · exact hholder.landed hl
    · rw [hholder.leased.account, hholder.leased.value, ← hholder.target]
      exact hl
  · intro c attc hc hattc htc
    obtain ⟨old, hold, hjobc, -, -⟩ := attempt_before hatt hadv hattc
    exact hholder.latest c old (hjob ▸ hc) hold (hjobc ▸ htc)

theorem Sound.setAttempt (h : Sound base s) (att' : Attempt)
    (hatt : s.attempts[a]? = some att) (hadv : Advance s att att') :
    Sound base (s.setAttempt a att') := by
  constructor
  · exact h.untouched
  · exact h.accounts
  · intro t row hrow hstatus
    obtain ⟨b, attb, hholder⟩ := h.held t row hrow hstatus
    obtain ⟨new, hnew, -⟩ := attempt_after hatt hadv hholder.attempt
    exact ⟨b, new, hholder.setAttempt hatt hadv hnew⟩
  · intro b attb hattb hlive
    obtain ⟨old, hold, hjob, hclaimed, hclosed⟩ := attempt_before hatt hadv hattb
    have hlive' : s.Live old := ⟨hclosed hlive.1, hclaimed ▸ hlive.2⟩
    obtain ⟨row, hrow, hholder⟩ := h.live b old hold hlive'
    rw [hjob]
    exact ⟨row, hrow, hholder.setAttempt hatt hadv hattb⟩
  · exact h.confirmed
  · intro b attb hattb
    obtain ⟨old, hold, hjob, -⟩ := attempt_before hatt hadv hattb
    rw [hjob]
    exact h.attempts b old hold
  · intro w c hc
    obtain ⟨old, hold, hw⟩ := h.current w c hc
    obtain ⟨new, hnew, hjob, -⟩ := attempt_after hatt hadv hold
    exact ⟨new, hnew, hjob ▸ hw⟩
  · intro w v hv
    obtain ⟨old, hsound⟩ := h.verdicts w v hv
    obtain ⟨new, hnew, hjob, -, hforward, -⟩ := attempt_after hatt hadv hsound.attempt
    refine ⟨new, hsound.current, hnew, fun hk => hforward (hsound.landed hk), ?_⟩
    rw [hjob]
    exact hsound.desired
  · exact fun sid r hr => ⟨(h.recoveries sid r hr).began, (h.recoveries sid r hr).accounts⟩

/-! ## Steps on the open transactions -/

/-- A step that leaves the database, the attempts and the engine: time may
pass and workers may forget their jobs. -/
theorem Sound.control (h : Sound base s) (hdb : s'.db = s.db)
    (hattempts : s'.attempts = s.attempts) (hdelivered : s'.delivered = s.delivered)
    (hclock : s.clock ≤ s'.clock)
    (hcurrent : ∀ w c, s'.current.find? w = some c → s.current.find? w = some c)
    (hverdicts : ∀ w v, s'.verdicts.find? w = some v → ∃ att, VerdictSound s' w v att)
    (hrecoveries : ∀ sid r, s'.recoveries.find? sid = some r → RecoverySound s r) :
    Sound base s' := by
  have hholder : ∀ t row a att, Holder s t row a att → Holder s' t row a att := by
    intro t row a att ho
    refine ⟨hattempts ▸ ho.attempt, ho.target, ho.leased, hdelivered ▸ ho.landed, ?_⟩
    intro c att' hc hatt'
    exact ho.latest c att' (hcurrent _ _ hc) (hattempts ▸ hatt')
  constructor
  · rw [hdb]; exact h.untouched
  · rw [hdb]; exact h.accounts
  · intro t row hrow hstatus
    obtain ⟨a, att, ho⟩ := h.held t row (hdb ▸ hrow) hstatus
    exact ⟨a, att, hholder t row a att ho⟩
  · intro a att hatt hlive
    obtain ⟨row, hrow, ho⟩ := h.live a att (hattempts ▸ hatt) ⟨hlive.1, le_trans hclock hlive.2⟩
    exact ⟨row, hdb ▸ hrow, hholder _ row a att ho⟩
  · intro t row hrow hstatus
    have hsync := h.confirmed t row (hdb ▸ hrow) hstatus
    unfold World.inSync at hsync ⊢
    rw [hdb, hdelivered]
    exact hsync
  · rw [hattempts, hdb]; exact h.attempts
  · intro w c hc
    rw [hattempts]
    exact h.current w c (hcurrent w c hc)
  · exact hverdicts
  · intro sid r hr
    have hsound := hrecoveries sid r hr
    refine ⟨le_trans hsound.began hclock, ?_⟩
    rw [hdb]
    exact hsound.accounts

theorem VerdictSound.congr (h : VerdictSound s w v att) (hdb : s'.db = s.db)
    (hattempts : s'.attempts = s.attempts)
    (hcurrent : s'.current.find? w = s.current.find? w) : VerdictSound s' w v att :=
  ⟨hcurrent.trans h.current, hattempts ▸ h.attempt, h.landed, hdb ▸ h.desired⟩

section

variable (h : Sound base s)
include h

theorem Sound.tick (d : Nat) : Sound base { s with clock := s.clock + d } := by
  refine h.control rfl rfl rfl (by simp) (fun _ _ hc => hc) ?_ h.recoveries
  intro w v hv
  obtain ⟨att, hsound⟩ := h.verdicts w v hv
  exact ⟨att, hsound.congr rfl rfl rfl⟩

theorem Sound.dropVerdict (w : String) : Sound base (s.dropVerdict w) := by
  refine h.control rfl rfl rfl (le_refl _) (fun _ _ hc => hc) ?_ h.recoveries
  intro w' v hv
  obtain ⟨att, hsound⟩ := h.verdicts w' v (find?_delete.mp hv).1
  exact ⟨att, hsound.congr rfl rfl rfl⟩

theorem Sound.crash (w : String) : Sound base (s.crash w) := by
  refine h.control rfl rfl rfl (le_refl _) ?_ ?_ h.recoveries
  · intro w' c hc
    exact (find?_delete.mp hc).1
  · intro w' v hv
    obtain ⟨hv, hw⟩ := find?_delete.mp hv
    obtain ⟨att, hsound⟩ := h.verdicts w' v hv
    have hw' : decide (w' = w) = false := hw
    refine ⟨att, hsound.congr rfl rfl ?_⟩
    refine Option.ext (fun c => ?_)
    simp only [World.crash, find?_delete, hw', and_true]

theorem Sound.beginRecover (sid : Nat) :
    Sound base { s with
      recoveries := s.recoveries.put sid (beginRecovery s.db s.clock) } := by
  refine h.control rfl rfl rfl (le_refl _) (fun _ _ hc => hc) ?_ ?_
  · intro w v hv
    obtain ⟨att, hsound⟩ := h.verdicts w v hv
    exact ⟨att, hsound.congr rfl rfl rfl⟩
  · intro sid' r hr
    rw [find?_put] at hr
    split at hr
    · cases hr
      exact h.beginRecovery_sound
    · exact h.recoveries sid' r hr

theorem Sound.commitRecover (sid : Nat) : Sound base (s.commitRecover sid) := by
  unfold World.commitRecover
  split
  · exact h
  · rename_i r hr
    have h1 := h.recoverStale (h.recoveries sid r hr)
    refine h1.control rfl rfl rfl (le_refl _) (fun _ _ hc => hc) ?_ ?_
    · intro w v hv
      obtain ⟨att, hsound⟩ := h1.verdicts w v hv
      exact ⟨att, hsound.congr rfl rfl rfl⟩
    · intro sid' r' hr'
      exact h1.recoveries sid' r' (find?_delete.mp hr').1

theorem Sound.putVerdict (att : Attempt) (hv : VerdictSound s w v att) :
    Sound base { s with verdicts := s.verdicts.put w v } := by
  refine h.control rfl rfl rfl (le_refl _) (fun _ _ hc => hc) ?_ h.recoveries
  intro w' v' hv'
  rw [find?_put] at hv'
  split at hv'
  · rename_i hw
    cases hv'
    subst hw
    exact ⟨att, hv.congr rfl rfl rfl⟩
  · obtain ⟨att', hsound⟩ := h.verdicts w' v' hv'
    exact ⟨att', hsound.congr rfl rfl rfl⟩

end

theorem currentAttempt_eq (h : s.currentAttempt w = some (a, att)) :
    s.current.find? w = some a ∧ s.attempts[a]? = some att := by
  simp only [World.currentAttempt, bind_eq_some_iff, map_eq_some_iff, Prod.mk.injEq] at h
  obtain ⟨a', hc, att', hatt, rfl, rfl⟩ := h
  exact ⟨hc, hatt⟩

theorem Sound.beginVerdict (h : Sound base s) (w : String) (kind : VerdictKind) :
    Sound base (s.beginVerdict w kind) := by
  unfold World.beginVerdict
  split
  · exact h
  · rename_i a att hcur
    obtain ⟨hc, hatt⟩ := currentAttempt_eq hcur
    split
    · exact h
    · rename_i hok
      refine h.putVerdict att ⟨hc, hatt, ?_, fun d hd => by cases hd⟩
      intro hkind
      have hlanded : kind = .confirm → att.delivery = .landed := by
        simpa using (not_or.mp (Bool.or_eq_true_iff.not.mp hok)).2
      exact hlanded hkind

theorem desiredPricingJobValue_eq {snapshot : Option Int}
    (haccount : db.engineAccount t.userId = some account)
    (hsnapshot : ∀ providerId, t.providerId = some providerId →
      snapshot = db.discounts.find? (t.userId, providerId)) :
    (desiredPricingJobValue db snapshot t).multiplierBp = db.wanted t ∧
      ∀ account', (desiredPricingJobValue db snapshot t).engineAccountId =
        some account' → db.engineAccount t.userId = some account' := by
  obtain ⟨user, provider⟩ := t
  have hrow : db.accounts.find? user = some (some account) := by
    simpa only [Commerce.engineAccount, Option.join_eq_some_iff] using haccount
  rw [haccount]
  cases provider with
  | some providerId =>
    simp only [desiredPricingJobValue, Commerce.wanted, hrow, hsnapshot providerId rfl]
    exact ⟨trivial, fun _ h => h⟩
  | none =>
    cases hp : db.profiles.find? user with
    | none =>
      simp only [desiredPricingJobValue, Commerce.wanted, hrow, hp]
      exact ⟨rfl, by simp⟩
    | some =>
      simp only [desiredPricingJobValue, Commerce.wanted, hrow, hp]
      exact ⟨rfl, fun _ h => h⟩

theorem Sound.lockDesired (h : Sound base s) (htimely : s.timely (.lockDesired w) = true) :
    Sound base (s.lockDesired w) := by
  unfold World.lockDesired
  split
  · exact h
  · rename_i v hv
    obtain ⟨att, hsound⟩ := h.verdicts w v hv
    simp only [hsound.attempt]
    split
    · exact h
    · have hsnapshot : ∀ providerId, att.job.target.providerId = some providerId →
          v.snapshot = s.db.discounts.find? (att.job.target.userId, providerId) := by
        intro providerId hp
        simpa [World.timely, hv, hsound.attempt, hp] using htimely
      refine h.putVerdict att ⟨hsound.current, hsound.attempt, hsound.landed, ?_⟩
      rintro d hd
      cases hd
      exact desiredPricingJobValue_eq (h.attempts _ att hsound.attempt) hsnapshot

theorem Sound.commitVerdict (h : Sound base s) (w : String) : Sound base (s.commitVerdict w) := by
  unfold World.commitVerdict
  split
  · exact h
  · rename_i v hv
    obtain ⟨att, hsound⟩ := h.verdicts w v hv
    split
    · rename_i att' d hatt hd
      obtain rfl : att = att' := some.inj (hsound.attempt.symm.trans hatt)
      -- the attempt is closed first, so that the verdict may write its row
      have hclosed : Sound base
          ((s.setAttempt v.attempt { att with closed := true }).dropVerdict w) :=
        (h.setAttempt { att with closed := true } hatt
          ⟨rfl, rfl, fun hc => by simp at hc, id, .inl⟩).dropVerdict w
      obtain ⟨hvalue, haccount⟩ := hsound.desired d hd
      exact hclosed.writeVerdict { att with closed := true } hsound.current
        (getElem?_set_self_of hatt) rfl hsound.landed hvalue haccount
    · exact h

/-! ## Deliveries -/

theorem Sound.send (h : Sound base s) (w : String) : Sound base (s.send w) := by
  unfold World.send
  split
  · exact h
  · rename_i a att hcur
    obtain ⟨-, hatt⟩ := currentAttempt_eq hcur
    split
    · rename_i hok
      have hunsent : att.delivery = .unsent := by
        simp only [guard_iffs] at hok
        exact hok.1.1.1
      refine h.setAttempt _ hatt ⟨rfl, rfl, id, ?_, by simp⟩
      intro hl
      rw [hunsent] at hl
      cases hl
    · exact h

theorem Sound.deliver (h : Sound base s) (hatt : s.attempts[a]? = some att)
    (hlive : s.Live att) :
    Sound base { s with
      delivered := s.delivered.put att.job.target
        (att.job.engineAccountId, att.job.multiplierBp) } := by
  obtain ⟨row, hrow, hholder⟩ := h.live a att hatt hlive
  have hother : ∀ t row' b attb, s.db.jobs.find? t = some row' →
      Holder s t row' b attb → Holder { s with
        delivered := s.delivered.put att.job.target
          (att.job.engineAccountId, att.job.multiplierBp) } t row' b attb := by
    intro t row' b attb hrow' ho
    refine ⟨ho.attempt, ho.target, ho.leased, fun hl => ?_, ho.latest⟩
    by_cases ht : att.job.target = t
    · subst ht
      obtain rfl : row = row' := some.inj (hrow.symm.trans hrow')
      rw [hholder.leased.account, hholder.leased.value]
      exact find?_put_self _ _ _
    · exact (find?_put_ne _ _ ht).trans (ho.landed hl)
  constructor
  · exact h.untouched
  · exact h.accounts
  · intro t row' hrow' hstatus
    obtain ⟨b, attb, ho⟩ := h.held t row' hrow' hstatus
    exact ⟨b, attb, hother t row' b attb hrow' ho⟩
  · intro b attb hattb hlive'
    obtain ⟨row', hrow', ho⟩ := h.live b attb hattb hlive'
    exact ⟨row', hrow', hother _ row' b attb hrow' ho⟩
  · intro t row' hrow' hstatus
    have hne : att.job.target ≠ t := by
      rintro rfl
      rw [hrow] at hrow'
      cases hrow'
      rw [hholder.leased.status] at hstatus
      cases hstatus
    obtain ⟨account, haccount, hdelivered⟩ := h.confirmed t row' hrow' hstatus
    exact ⟨account, haccount, (find?_put_ne _ _ hne).trans hdelivered⟩
  · exact h.attempts
  · exact h.current
  · intro w v hv
    obtain ⟨attv, hsound⟩ := h.verdicts w v hv
    exact ⟨attv, hsound.congr rfl rfl rfl⟩
  · exact fun sid r hr => ⟨(h.recoveries sid r hr).began, (h.recoveries sid r hr).accounts⟩

theorem Sound.land (h : Sound base s) (htimely : s.timely (.land a) = true) :
    Sound base (s.land a) := by
  unfold World.land
  split
  · exact h
  · rename_i att hatt
    split
    · rename_i hok
      simp only [guard_iffs] at hok
      have hopen : att.closed = false := by simpa [World.timely, hatt] using htimely
      have h1 := h.deliver hatt ⟨hopen, hok.2⟩
      exact h1.setAttempt { att with delivery := .landed } hatt
        ⟨rfl, rfl, id, fun _ => rfl, fun _ => .inr (find?_put_self _ _ _)⟩
    · exact h

/-! ## Claims -/

theorem claimNextPricingJob_none (h : claimNextPricingJob db now locked w = (none, db')) :
    db' = { db with
      jobs := db.jobs.update (fun _ row => leaseExpired now row) (recoverLease now) } := by
  simp only [claimNextPricingJob] at h
  split at h <;> cases h
  rfl

theorem claimNextPricingJob_some
    (h : claimNextPricingJob db now locked w = (some job, db')) :
    ∃ row, (db.jobs.update (fun _ row => leaseExpired now row)
        (recoverLease now)).find? job.target = some row ∧
      row.status ≠ .processing ∧
      job = ⟨job.target, row.engineAccountId, row.multiplierBp, row.attempts + 1, w⟩ ∧
      db' = { db with
        jobs := (db.jobs.update (fun _ row => leaseExpired now row)
          (recoverLease now)).put job.target (leaseRow now w row) } := by
  simp only [claimNextPricingJob] at h
  split at h
  · cases h
  · rename_i t row rest hselect
    cases h
    obtain ⟨hrow, hclaimable⟩ := mem_select
      (show (t, row) ∈ Table.select _ _ _ 1 by rw [hselect]; simp)
    refine ⟨row, hrow, ?_, rfl, rfl⟩
    intro hstatus
    simp [claimable, hstatus] at hclaimable

theorem getElem?_append_of (h : l[a]? = some att) : (l ++ [new])[a]? = some att := by
  rw [List.getElem?_append_left (List.getElem?_eq_some_iff.mp h).1]
  exact h

theorem startAttempt_attempts (h : (s.startAttempt db' w new).attempts[a]? = some att) :
    (a = s.attempts.length ∧ att = new) ∨ s.attempts[a]? = some att := by
  have h : (s.attempts ++ [new])[a]? = some att := h
  rw [List.getElem?_append] at h
  split at h
  · exact .inr h
  · rename_i hlt
    obtain ⟨hlen, hget⟩ := List.getElem?_eq_some_iff.mp h
    have ha : a = s.attempts.length := by
      simp only [List.length_singleton] at hlen
      omega
    subst ha
    simp only [Nat.sub_self, List.getElem_cons_zero] at hget
    exact .inl ⟨rfl, hget.symm⟩

theorem Sound.startAttempt_current (h : Sound base s) {w' : String} {c : Nat}
    (hc : (s.startAttempt db' w new).current.find? w' = some c)
    (hatt : (s.startAttempt db' w new).attempts[c]? = some att) :
    (c = s.attempts.length ∧ att = new ∧ w' = w) ∨
      (s.current.find? w' = some c ∧ s.attempts[c]? = some att) := by
  have hc : (s.current.put w s.attempts.length).find? w' = some c := hc
  rw [find?_put] at hc
  split at hc
  · rename_i hw
    cases hc
    obtain ⟨-, rfl⟩ | hold := startAttempt_attempts hatt
    · exact .inl ⟨rfl, rfl, hw.symm⟩
    · have := (List.getElem?_eq_some_iff.mp hold).1
      exact absurd this (lt_irrefl _)
  · obtain ⟨old, hold, -⟩ := h.current w' c hc
    obtain rfl : old = att := some.inj ((getElem?_append_of hold).symm.trans hatt)
    exact .inr ⟨hc, hold⟩

theorem Holder.startAttempt (h : Sound base s) (ho : Holder s t row a att)
    (hne : new.job.target ≠ t) (db' : Commerce) :
    Holder (s.startAttempt db' w new) t row a att := by
  refine ⟨getElem?_append_of ho.attempt, ho.target, ho.leased, ho.landed, ?_⟩
  intro c att' hc hatt' ht'
  obtain ⟨-, rfl, -⟩ | ⟨hc, hatt'⟩ := h.startAttempt_current hc hatt'
  · exact absurd ht' hne
  · exact ho.latest c att' hc hatt' ht'

theorem holder_startAttempt (s : World) (db' : Commerce)
    (hnew : new = ⟨⟨t, row.engineAccountId, row.multiplierBp, row.attempts + 1, w⟩,
      now, .unsent, false⟩) :
    Holder (s.startAttempt db' w new) t (leaseRow now w row) s.attempts.length new := by
  subst hnew
  refine ⟨List.getElem?_concat_length, rfl, ⟨rfl, rfl, rfl, rfl, rfl⟩, ?_, ?_⟩
  · intro hl
    cases hl
  intro c att' hc _ _
  have hc : (s.current.put w s.attempts.length).find? w = some c := hc
  rw [find?_put_self] at hc
  exact (some.inj hc).symm

theorem Sound.lease (h : Sound base s) (hrow : s.db.jobs.find? t = some row)
    (hidle : row.status ≠ .processing) (hverdict : s.verdicts.find? w = none)
    (hnew : new = ⟨⟨t, row.engineAccountId, row.multiplierBp, row.attempts + 1, w⟩,
      now, .unsent, false⟩) :
    Sound base (s.startAttempt { s.db with jobs := s.db.jobs.put t (leaseRow now w row) }
      w new) := by
  have htarget : new.job.target = t := by rw [hnew]
  have hjobs : ∀ t', (s.db.jobs.put t (leaseRow now w row)).find? t' =
      if t = t' then some (leaseRow now w row) else s.db.jobs.find? t' :=
    fun t' => find?_put _ _ _ _
  have hfree : ∀ (a : Nat) (att : Attempt), s.attempts[a]? = some att →
      att.job.target = t → ¬ s.Live att := h.free_of_idle (fun row' hrow' => by
        rw [hrow] at hrow'
        cases hrow'
        exact hidle)
  constructor
  · intro t' hnone
    have hnone : (s.db.jobs.put t (leaseRow now w row)).find? t' = none := hnone
    rw [hjobs] at hnone
    split at hnone
    · cases hnone
    · exact h.untouched t' hnone
  · intro t' row' hrow'
    have hrow' : (s.db.jobs.put t (leaseRow now w row)).find? t' = some row' := hrow'
    rw [hjobs] at hrow'
    split at hrow'
    · rename_i ht
      cases hrow'
      exact ht ▸ h.accounts t row hrow
    · exact h.accounts t' row' hrow'
  · intro t' row' hrow' hstatus
    have hrow' : (s.db.jobs.put t (leaseRow now w row)).find? t' = some row' := hrow'
    rw [hjobs] at hrow'
    split at hrow'
    · rename_i ht
      cases hrow'
      exact ⟨s.attempts.length, new, ht ▸ holder_startAttempt s _ hnew⟩
    · rename_i ht
      obtain ⟨a, att, ho⟩ := h.held t' row' hrow' hstatus
      exact ⟨a, att, ho.startAttempt h (fun e => ht (htarget.symm.trans e)) _⟩
  · intro a att hatt hlive
    obtain ⟨rfl, rfl⟩ | hold := startAttempt_attempts hatt
    · rw [htarget]
      exact ⟨_, find?_put_self _ _ _, holder_startAttempt s _ hnew⟩
    · obtain ⟨row', hrow', ho⟩ := h.live a att hold hlive
      have hne : t ≠ att.job.target := fun e => hfree a att hold e.symm hlive
      exact ⟨row', (find?_put_ne _ _ hne).trans hrow', ho.startAttempt h (htarget ▸ hne) _⟩
  · intro t' row' hrow' hstatus
    have hrow' : (s.db.jobs.put t (leaseRow now w row)).find? t' = some row' := hrow'
    rw [hjobs] at hrow'
    split at hrow'
    · cases hrow'
      cases hstatus
    · exact h.confirmed t' row' hrow' hstatus
  · intro a att hatt
    obtain ⟨rfl, rfl⟩ | hold := startAttempt_attempts hatt
    · rw [hnew]
      exact h.accounts t row hrow
    · exact h.attempts a att hold
  · intro w' c hc
    have hc' : (s.current.put w s.attempts.length).find? w' = some c := hc
    rw [find?_put] at hc'
    split at hc'
    · rename_i hw
      cases hc'
      exact ⟨new, List.getElem?_concat_length, by rw [hnew]; exact hw⟩
    · obtain ⟨att, hatt, hw⟩ := h.current w' c hc'
      exact ⟨att, getElem?_append_of hatt, hw⟩
  · intro w' v hv
    obtain ⟨att, hsound⟩ := h.verdicts w' v hv
    have hne : w ≠ w' := by
      rintro rfl
      have := hverdict.symm.trans hv
      cases this
    exact ⟨att, (find?_put_ne _ _ hne).trans hsound.current,
      getElem?_append_of hsound.attempt, hsound.landed, hsound.desired⟩
  · exact fun sid r hr => ⟨(h.recoveries sid r hr).began, (h.recoveries sid r hr).accounts⟩

theorem Sound.claim (h : Sound base s) (w : String) (began : Int)
    (locked : List Target) : Sound base (s.claim w began locked) := by
  unfold World.claim
  split
  · exact h
  rename_i hok
  simp only [guard_iffs, not_or, Bool.not_eq_true, isSome_eq_false_iff, isNone_iff_eq_none] at hok
  have h1 := h.recoverLeases (Int.not_lt.mp hok.2)
  split
  · rename_i db' hclaim
    rw [claimNextPricingJob_none hclaim]
    refine h1.control rfl rfl rfl (le_refl _) ?_ ?_ h1.recoveries
    · intro w' c hc
      exact (find?_delete.mp hc).1
    · intro w' v hv
      obtain ⟨att, hsound⟩ := h1.verdicts w' v hv
      have hne : decide (w' = w) = false := by
        rw [decide_eq_false_iff_not]
        rintro rfl
        rw [hok.1] at hv
        cases hv
      refine ⟨att, hsound.congr rfl rfl ?_⟩
      refine Option.ext (fun c => ?_)
      simp only [find?_delete, hne, and_true]
  · rename_i job db' hclaim
    obtain ⟨row, hrow, hidle, hjob, rfl⟩ := claimNextPricingJob_some hclaim
    exact h1.lease hrow hidle hok.1 (by rw [← hjob])

/-! ## The main result -/

theorem Sound.exec (h : Sound base s) {op : WorldOp} (htimely : s.timely op = true) :
    Sound base (s.exec op) := by
  cases op with
  | tick d => exact h.tick d
  | edit began e => exact h.applyEdit began e
  | claim w began locked => exact h.claim w began locked
  | send w => exact h.send w
  | land => exact h.land htimely
  | beginVerdict w kind => exact h.beginVerdict w kind
  | lockDesired => exact h.lockDesired htimely
  | commitVerdict w => exact h.commitVerdict w
  | abortVerdict w => exact h.dropVerdict w
  | crash w => exact h.crash w
  | beginRecover sid => exact h.beginRecover sid
  | commitRecover sid => exact h.commitRecover sid

/-- Nobody is at work, and no row claims a delivery that was not made. -/
structure World.Fresh (s : World) : Prop where
  attempts : s.attempts = []
  current : s.current = .empty
  verdicts : s.verdicts = .empty
  recoveries : s.recoveries = .empty
  rows : ∀ t row, s.db.jobs.find? t = some row →
    s.db.engineAccount t.userId = some row.engineAccountId ∧
      row.status ≠ .processing ∧ (row.status = .confirmed → s.inSync t)

theorem World.Fresh.sound (h : s.Fresh) : Sound s.db.wanted s := by
  have hattempt : ∀ (a : Nat) (att : Attempt), s.attempts[a]? ≠ some att := by
    intro a att
    rw [h.attempts]
    simp
  constructor
  · exact fun _ _ => rfl
  · exact fun t row hrow => (h.rows t row hrow).1
  · exact fun t row hrow hstatus => absurd hstatus (h.rows t row hrow).2.1
  · exact fun a att hatt _ => absurd hatt (hattempt a att)
  · exact fun t row hrow => (h.rows t row hrow).2.2
  · exact fun a att hatt => absurd hatt (hattempt a att)
  · intro w c hc
    rw [h.current] at hc
    cases hc
  · intro w v hv
    rw [h.verdicts] at hv
    cases hv
  · intro sid r hr
    rw [h.recoveries] at hr
    cases hr

def World.Kept (base : Target → Option Int) (s : World) (t : Target) : Prop :=
  match s.db.jobs.find? t with
  | none => s.db.wanted t = base t
  | some row => (row.status = .confirmed ∧ s.inSync t) ∨ row.status = .pending ∨
      row.status = .retry ∨ row.status = .processing

theorem Sound.kept (h : Sound base s) (t : Target) : s.Kept base t := by
  unfold World.Kept
  cases hrow : s.db.jobs.find? t with
  | none => exact h.untouched t hrow
  | some row =>
    dsimp only
    cases hstatus : row.status with
    | pending => exact .inr (.inl rfl)
    | retry => exact .inr (.inr (.inl rfl))
    | processing => exact .inr (.inr (.inr rfl))
    | confirmed => exact .inl ⟨rfl, h.confirmed t row hrow hstatus⟩

/-- In every run in which no call lands after its worker's verdict and no
override changes between the snapshot and the lock of a verdict's statement,
no pricing edit is lost. -/
theorem pricing_edit_never_lost (s : World) (h : s.Fresh) (ops : List WorldOp)
    (hops : Along World.exec (fun s op => s.timely op = true) s ops) (t : Target) :
    (run World.exec s ops).Kept s.db.wanted t :=
  (run_invariant_along (fun _ _ hsound htimely => hsound.exec htimely) h.sound hops).kept t

/-! ## Runs -/

def oneCustomer : World where
  db := {
    profiles := Table.empty.put "u" ⟨.b2b, 5000⟩
    accounts := Table.empty.put "u" (some "acct")
    discounts := .empty
    attributions := .empty
    operations := .empty
    jobs := .empty }
  clock := 0
  attempts := []
  current := .empty
  verdicts := .empty
  recoveries := .empty
  delivered := .empty

theorem oneCustomer_fresh : oneCustomer.Fresh :=
  ⟨rfl, rfl, rfl, rfl, fun _ _ h => by cases h⟩

/-- The worker's claim, its call and the verdict on it. -/
def deliveredBy (attempt : Nat) : List WorldOp :=
  [.claim "w" 0 [], .send "w", .land attempt, .beginVerdict "w" .confirm, .lockDesired "w",
    .commitVerdict "w"]

def confirmedRun : List WorldOp :=
  .edit 0 (.setCustomerProviderDiscount "u" "openai" (some 4000)) :: deliveredBy 0 ++
    .edit 0 (.setCustomerProviderDiscount "u" "openai" (some 4500)) :: deliveredBy 1

/-- The second edit comes after the first is delivered, and is confirmed in its turn. -/
theorem pricing_edit_never_lost_confirmedRun :
    ((run World.exec oneCustomer confirmedRun).db.jobs.find? ⟨"u", some "openai"⟩).map
        (·.status) = some .confirmed ∧
      (run World.exec oneCustomer confirmedRun).Kept oneCustomer.db.wanted
        ⟨"u", some "openai"⟩ :=
  ⟨by decide +kernel, pricing_edit_never_lost oneCustomer oneCustomer_fresh confirmedRun
    (by decide +kernel) ⟨"u", some "openai"⟩⟩

theorem not_kept {last : String × Option Int} (hrow : s.db.jobs.find? t = some row)
    (hstatus : row.status = .confirmed) (hlast : s.delivered.find? t = some last)
    (hvalue : last.2 ≠ s.db.wanted t) : ¬ s.Kept base t := by
  unfold World.Kept
  rw [hrow]
  rintro (⟨-, account, -, hdelivered⟩ | h | h | h)
  · rw [hlast] at hdelivered
    cases hdelivered
    exact hvalue rfl
  · rw [hstatus] at h
    cases h
  · rw [hstatus] at h
    cases h
  · rw [hstatus] at h
    cases h

/-- The override is edited while the verdict waits for its lock. -/
def staleRun : List WorldOp :=
  [.edit 0 (.setCustomerProviderDiscount "u" "openai" (some 4000)),
    .claim "w" 0 [], .send "w", .land 0, .beginVerdict "w" .confirm,
    .edit 0 (.setCustomerProviderDiscount "u" "openai" (some 4500)),
    .lockDesired "w", .commitVerdict "w"]

/-- The row is confirmed with the old value, and no row is left for the new. -/
theorem stale_override_confirmed :
    oneCustomer.Fresh ∧
      ¬ (run World.exec oneCustomer staleRun).Kept oneCustomer.db.wanted
        ⟨"u", some "openai"⟩ := by
  refine ⟨oneCustomer_fresh, ?_⟩
  have hrow : ((run World.exec oneCustomer staleRun).db.jobs.find?
      ⟨"u", some "openai"⟩).map (·.status) = some .confirmed := by decide +kernel
  obtain ⟨row, hrow, hstatus⟩ := map_eq_some_iff.mp hrow
  have hlast : (run World.exec oneCustomer staleRun).delivered.find?
      ⟨"u", some "openai"⟩ = some ("acct", some 4000) := by decide +kernel
  exact not_kept hrow hstatus hlast (by decide +kernel)

end ApiToken.PricingJobs
