import ApiToken.Gemini.Output
import ApiToken.Gemini.Steps

/-!
# The life of a job

What the calls on the batch tables do to one job. A job is its row and one
bit: does it still have an item that is not terminal? Items end and no item
appears after the job; the three calls that end items close the job behind
the last one. `JobStep` has these steps, and every call is steps of every
job (`exec_lives`).
-/

namespace ApiToken.Gemini

open Registry

variable {item item' : BatchItem} {now : Nat → Int} {profileId id requestId : String}
  {leaseSecs : Int} {claimed : GeminiBatchClaimedItem} {locked : List (String × Int)}
  {done : Bool} {acc acc' : GeminiBatchReconcileReport × Batch}
  {rows : List ((String × Int) × BatchItem)} {limit : Nat} {b₁ : Batch}

def hasOpenItem (b : Batch) (jobId : String) : Bool :=
  b.items.any (fun key item => key.1 == jobId && !item.state.isTerminal)

def BatchJob.closedAt (job : BatchJob) (ts : Int) : BatchJob :=
  match job.inputKind with
  | .inline =>
    { job with
      terminalItemsTs := some (job.terminalItemsTs.getD ts)
      completedTs := some (job.completedTs.getD ts)
      resultExpirationTs := some (job.resultExpirationTs.getD (ts + batchResultRetentionSecs))
      updateTs := max job.updateTs ts }
  | .file =>
    if job.terminalItemsTs.isSome || job.completedTs.isSome then job
    else { job with terminalItemsTs := some ts, updateTs := max job.updateTs ts }

def BatchJob.canceledAt (job : BatchJob) (ts : Int) : BatchJob :=
  { job with
    cancelRequestedTs := some (job.cancelRequestedTs.getD ts), updateTs := ts }

/-- The row after `complete_job_if_terminal`. -/
def BatchJob.closedUnless (job : BatchJob) (hasOpen : Bool) (ts : Int) : BatchJob :=
  if hasOpen then job else job.closedAt ts

/-- One step of a job, with its bit. `named` says that the call names the job
for cancellation; only such a call cancels a completed job. -/
inductive JobStep (named : Bool) : BatchJob × Bool → BatchJob × Bool → Prop where
  | close (job : BatchJob) (o o' : Bool) (ts : Int) (fewer : o' = true → o = true) :
      JobStep named (job, o) (job.closedUnless o' ts, o')
  | cancel (job : BatchJob) (o o' : Bool) (ts : Int) (fewer : o' = true → o = true)
      (allowed : named = true ∨ job.completedTs = none) :
      JobStep named (job, o) ((job.canceledAt ts).closedUnless o' ts, o')
  | delete (job : BatchJob) (o : Bool) (ts : Int)
      (completed : job.completedTs.isSome = true) :
      JobStep named (job, o)
        ({ job with
           deleteTs := some (job.deleteTs.getD ts), updateTs := max job.updateTs ts }, o)

/-- Any number of steps. -/
abbrev JobSteps (named : Bool) := Relation.ReflTransGen (JobStep named)

/-- No item and no job appears or goes, and every job takes its steps. -/
structure Lives (named : String → Bool) (b b' : Batch) : Prop where
  items : b'.items.view (·.requestId) = b.items.view (·.requestId)
  absent : ∀ id, b.jobs.find? id = none → b'.jobs.find? id = none
  steps : ∀ id job, b.jobs.find? id = some job →
    ∃ job', b'.jobs.find? id = some job' ∧
      JobSteps (named id) (job, hasOpenItem b id) (job', hasOpenItem b' id)

section Lives

variable {named : String → Bool} {b b' b'' : Batch}

theorem Lives.refl (b : Batch) : Lives named b b where
  items := rfl
  absent := fun _ h => h
  steps := fun _ job h => ⟨job, h, .refl⟩

theorem Lives.trans (h : Lives named b b') (h' : Lives named b' b'') :
    Lives named b b'' where
  items := h'.items.trans h.items
  absent := fun id hnone => h'.absent id (h.absent id hnone)
  steps := by
    intro id job hjob
    obtain ⟨job', hjob', hsteps⟩ := h.steps id job hjob
    obtain ⟨job'', hjob'', hsteps'⟩ := h'.steps id job' hjob'
    exact ⟨job'', hjob'', hsteps.trans hsteps'⟩

/-! ## Calls that end no item -/

def BatchItem.mark (item : BatchItem) : String × Bool :=
  (item.requestId, item.state.isTerminal)

/-- The jobs stay, and so do the ids of the items and which are terminal. -/
structure Idle (b b' : Batch) : Prop where
  jobs : b'.jobs = b.jobs
  marks : b'.items.view BatchItem.mark = b.items.view BatchItem.mark

theorem Idle.refl (b : Batch) : Idle b b := ⟨rfl, rfl⟩

theorem view_requestId (h : b'.items.view BatchItem.mark = b.items.view BatchItem.mark) :
    b'.items.view (·.requestId) = b.items.view (·.requestId) := by
  have hids := congrArg (List.map (fun x : (String × Int) × String × Bool =>
    (x.1, x.2.1))) h
  simpa [Table.view, BatchItem.mark, Function.comp_def] using hids

theorem hasOpenItem_eq (b : Batch) (jobId : String) :
    hasOpenItem b jobId = (b.items.view BatchItem.mark).any
      (fun x => x.1.1 == jobId && !x.2.2) := by
  simp [hasOpenItem, Table.any, Table.view, BatchItem.mark, Function.comp_def]

theorem Idle.lives (h : Idle b b') : Lives named b b' where
  items := view_requestId h.marks
  absent := fun id hnone => by rw [h.jobs, hnone]
  steps := by
    intro id job hjob
    refine ⟨job, by rw [h.jobs, hjob], ?_⟩
    rw [hasOpenItem_eq b', h.marks, ← hasOpenItem_eq]

theorem idle_put {key : String × Int} (hfind : b.items.find? key = some item)
    (hjobs : b'.jobs = b.jobs) (hitems : b'.items = b.items.put key item')
    (hmark : item'.mark = item.mark) : Idle b b' :=
  ⟨hjobs, by rw [hitems]; exact Table.view_put hfind hmark⟩

/-- A worker's call writes items and leases, and ends no item. -/
structure Worked (b b' : Batch) : Prop where
  only : ∃ items leases, b' = { b with items, leases }
  marks : b'.items.view BatchItem.mark = b.items.view BatchItem.mark

theorem Worked.refl (b : Batch) : Worked b b := ⟨⟨_, _, rfl⟩, rfl⟩

theorem Worked.idle (h : Worked b b') : Idle b b' := by
  obtain ⟨_, _, rfl⟩ := h.only
  exact ⟨rfl, h.marks⟩

theorem Worked.outbox (h : Worked b b') : b'.outbox = b.outbox := by
  obtain ⟨_, _, rfl⟩ := h.only
  rfl

theorem Worked.trans (h : Worked b b') (h' : Worked b' b'') : Worked b b'' := by
  refine ⟨?_, h'.marks.trans h.marks⟩
  obtain ⟨_, _, rfl⟩ := h.only
  obtain ⟨_, _, rfl⟩ := h'.only
  exact ⟨_, _, rfl⟩

theorem worked_put {key : String × Int} (hfind : b.items.find? key = some item)
    (hmark : item'.mark = item.mark) (leases : LeaseTables) :
    Worked b { b with items := b.items.put key item', leases } :=
  ⟨⟨_, _, rfl⟩, Table.view_put hfind hmark⟩

end Lives

section Worker

variable {b b' : Batch} {ts : Int} {owner : Owner} {claim : GeminiBatchClaim}

theorem claimChosen_worked {slot : Int} {key : String × Int} {job : BatchJob}
    (hfind : b.items.find? key = some item) (hqueued : item.state = .queued)
    (h : claimChosen b now owner profileId leaseSecs slot key item job
      = .ok (some (claimed, b'))) : Worked b b' := by
  simp only [claimChosen, ok_steps] at h
  obtain ⟨-, h⟩ := h
  split at h
  · cases h
  simp only [ok_steps, some.injEq] at h
  obtain ⟨b₁, hset, leases, -, request, -, -, -, rfl⟩ := h
  obtain rfl := setItem_eq hset
  refine worked_put hfind ?_ leases
  simp [BatchItem.mark, BatchItem.claimedBy, hqueued, ItemState.isTerminal]

theorem claim_worked {modelId : String} {capacity : Nat}
    (h : claimGeminiBatchItem b now locked owner profileId modelId capacity
      leaseSecs = .ok (some (claimed, b'))) : Worked b b' := by
  simp only [claimGeminiBatchItem, ok_steps] at h
  obtain ⟨-, -, -, -, h⟩ := h
  split at h
  · cases h
  simp only [bind_eq_ok] at h
  obtain ⟨⟨n, t⟩, -, h⟩ := h
  split at h
  · cases h
  simp only [bind_eq_ok] at h
  obtain ⟨slot, -, h⟩ := h
  split at h
  · cases h
  rename_i key item hselect
  obtain ⟨hfind, hclaimable⟩ := mem_select (List.mem_of_mem_head? hselect)
  split at h
  · cases h
  simp only [claimable, guard_iffs] at hclaimable
  have hchosen : Worked { b with leases := t } b' := claimChosen_worked hfind hclaimable.1.1.1 h
  exact ⟨hchosen.only, hchosen.marks⟩

theorem writeAndRenew_worked {leaseUntil : Int}
    (hfind : b.items.find? claim.item = some item) (hmark : item'.mark = item.mark)
    (h : writeAndRenew b owner claim item' leaseUntil ts = .ok (done, b')) : Worked b b' := by
  simp only [writeAndRenew, bind_eq_ok] at h
  obtain ⟨b₁, hset, ⟨renewed, leases⟩, -, h⟩ := h
  obtain rfl := setItem_eq hset
  split at h
  · simp only [ok_steps] at h
    obtain ⟨-, rfl⟩ := h
    exact worked_put hfind hmark leases
  · simp only [ok_steps] at h
    obtain ⟨-, rfl⟩ := h
    exact .refl b

theorem markDispatching_worked
    (h : markGeminiBatchDispatching b ts owner claim leaseSecs = .ok (done, b')) :
    Worked b b' := by
  simp only [markGeminiBatchDispatching, ok_steps] at h
  obtain ⟨-, h⟩ := h
  split at h
  · cases h
    exact .refl b
  rename_i item hfind
  split at h
  · rename_i hguard
    simp only [guard_iffs] at hguard
    refine writeAndRenew_worked hfind ?_ h
    rcases hguard.1.1.2 with hstate | hstate <;>
      simp [BatchItem.mark, BatchItem.dispatched, BatchItem.leasedUntil, hstate,
        ItemState.isTerminal]
  · cases h
    exact .refl b

theorem markActualSend_worked
    (h : markGeminiBatchActualSend b ts owner claim leaseSecs = .ok (done, b')) :
    Worked b b' := by
  simp only [markGeminiBatchActualSend, ok_steps] at h
  obtain ⟨-, h⟩ := h
  split at h
  · cases h
    exact .refl b
  rename_i item hfind
  split at h
  · refine writeAndRenew_worked hfind ?_ h
    rfl
  · cases h
    exact .refl b

theorem renew_worked (h : renewGeminiBatchClaim b ts owner claim leaseSecs = .ok (done, b')) :
    Worked b b' := by
  simp only [renewGeminiBatchClaim, ok_steps] at h
  obtain ⟨-, ⟨renewed, leases⟩, -, h⟩ := h
  split at h
  · cases h
    exact .refl b
  split at h
  · cases h
    exact .refl b
  rename_i item hfind
  split at h
  · simp only [ok_steps] at h
    obtain ⟨b₁, hset, -, rfl⟩ := h
    obtain rfl := setItem_eq hset
    refine worked_put hfind ?_ leases
    rfl
  · cases h
    exact .refl b

theorem requeue_worked {nextAttemptTs : Int}
    (h : requeueGeminiBatchClaim b ts owner claim nextAttemptTs = .ok (done, b')) :
    Worked b b' := by
  simp only [requeueGeminiBatchClaim, ok_steps] at h
  obtain ⟨-, h⟩ := h
  split at h
  · cases h
    exact .refl b
  rename_i item hfind
  split at h
  · rename_i hguard
    simp only [guard_iffs] at hguard
    simp only [ok_steps] at h
    obtain ⟨b₁, hset, ⟨deleted, leases⟩, -, -, -, rfl⟩ := h
    obtain rfl := setItem_eq hset
    refine worked_put hfind ?_ leases
    simp [BatchItem.mark, BatchItem.unclaimed, hguard.1.2, ItemState.isTerminal]
  · cases h
    exact .refl b

theorem release_worked (h : releaseGeminiBatchProfile b ts owner claim = .ok (done, b')) :
    Worked b b' := by
  simp only [releaseGeminiBatchProfile, ok_steps] at h
  obtain ⟨-, h⟩ := h
  split at h
  · simp only [ok_steps] at h
    obtain ⟨⟨deleted, leases⟩, -, -, rfl⟩ := h
    exact ⟨⟨_, _, rfl⟩, rfl⟩
  · cases h
    exact .refl b

theorem reconcileOne_worked {x : (String × Int) × BatchItem}
    (hfind : (acc.2.items.find? x.1).map BatchItem.mark = some x.2.mark)
    (h : reconcileOne ts acc x = .ok acc') : Worked acc.2 acc'.2 := by
  obtain ⟨key, item⟩ := x
  obtain ⟨report, b⟩ := acc
  simp only [reconcileOne] at h
  split at h
  · split at h
    · cases h
      exact .refl b
    split at h
    · rename_i hguard
      simp only [guard_iffs] at hguard
      simp only [ok_steps] at h
      obtain ⟨b₁, hset, ⟨deleted, leases⟩, -, -, rfl⟩ := h
      obtain rfl := setItem_eq hset
      obtain ⟨item0, hfind0, hmark0⟩ := map_eq_some_iff.mp hfind
      refine worked_put hfind0 (Eq.trans ?_ hmark0.symm) leases
      simp [BatchItem.mark, BatchItem.unclaimed, hguard.1.1.1, ItemState.isTerminal]
    · cases h
      exact .refl b
  · cases h
    exact .refl b

theorem reconcileRows_worked
    (hrows : ∀ x ∈ rows, (acc.2.items.find? x.1).map BatchItem.mark = some x.2.mark)
    (h : rows.foldlM (reconcileOne ts) acc = .ok acc') : Worked acc.2 acc'.2 := by
  induction rows generalizing acc with
  | nil =>
    cases h
    exact .refl _
  | cons x _ ih =>
    simp only [foldlM_cons, bind_eq_ok] at h
    obtain ⟨acc1, hrow, hrest⟩ := h
    have hstep := reconcileOne_worked (hrows x (mem_cons_self ..)) hrow
    refine hstep.trans (ih (fun y hy => ?_) hrest)
    rw [find?_of_view hstep.marks]
    exact hrows y (mem_cons_of_mem _ hy)

theorem reconcile_worked {report : GeminiBatchReconcileReport}
    (h : reconcileExpiredGeminiBatchClaims b ts locked limit = .ok (report, b')) :
    Worked b b' :=
  reconcileRows_worked (fun x hx => by rw [(mem_select hx).1, map_some]) h

theorem enqueueInner_idle {now : Int} {owner : Option Owner}
    {intent : GeminiBatchSettlementIntent}
    (h : enqueueGeminiBatchSettlementInner b now owner claim intent = .ok b') :
    Idle b b' := by
  simp only [enqueueGeminiBatchSettlementInner, ok_steps, bailIf_eq_ok] at h
  obtain ⟨-, -, -, item, hitem, w, -, -, hfence, -, b₁, hblob, b2, hintent, hset⟩ := h
  simp only [guard_iffs] at hfence
  obtain ⟨-, blobs, rfl⟩ := storeBlob_spec hblob
  obtain ⟨-, outbox, rfl⟩ := storeIntent_spec hintent
  obtain rfl := setItem_eq hset
  refine idle_put (filter_eq_some_iff.mp hitem).1 rfl rfl ?_
  have hstate := hfence.2
  cases hs : item.state <;>
    simp_all [BatchItem.mark, ItemState.isTerminal, ItemState.settleable]

theorem recordFailure_idle (b : Batch) (ts : Int) (requestId : String)
    (err : Error) : Idle b (recordSettlementFailure b ts requestId err) := by
  unfold recordSettlementFailure
  split
  · exact .refl b
  split
  · exact .refl b
  · exact ⟨rfl, rfl⟩

end Worker

/-! ## Calls that end items -/

section Ending

variable {b b' b'' : Batch} {jobId : String}

structure Ends (jobId : String) (b b' : Batch) : Prop where
  jobs : b'.jobs = b.jobs
  items : b'.items.view (·.requestId) = b.items.view (·.requestId)
  other : ∀ id, id ≠ jobId → hasOpenItem b' id = hasOpenItem b id
  fewer : hasOpenItem b' jobId = true → hasOpenItem b jobId = true

theorem Ends.refl (jobId : String) (b : Batch) : Ends jobId b b :=
  ⟨rfl, rfl, fun _ _ => rfl, fun h => h⟩

theorem Ends.trans (h : Ends jobId b b') (h' : Ends jobId b' b'') :
    Ends jobId b b'' where
  jobs := h'.jobs.trans h.jobs
  items := h'.items.trans h.items
  other := fun id hne => (h'.other id hne).trans (h.other id hne)
  fewer := fun hopen => h.fewer (h'.fewer hopen)

theorem hasOpenItem_iff :
    hasOpenItem b id = true ↔ ∃ key item, b.items.find? key = some item ∧
      key.1 = id ∧ item.state.isTerminal = false := by
  simp [hasOpenItem, any_eq_true_iff]

theorem ends_put {key : String × Int} (hfind : b.items.find? key = some item)
    (hjob : key.1 = jobId) (hjobs : b'.jobs = b.jobs)
    (hitems : b'.items = b.items.put key item')
    (hrequest : item'.requestId = item.requestId)
    (hends : item.state.isTerminal = true → item'.state.isTerminal = true) :
    Ends jobId b b' where
  jobs := hjobs
  items := by
    rw [hitems]
    exact Table.view_put hfind hrequest
  other := by
    intro id hne
    rw [Bool.eq_iff_iff, hasOpenItem_iff, hasOpenItem_iff, hitems]
    constructor
    · rintro ⟨key', item1, hfind1, hid, hopen⟩
      have hkey : key ≠ key' := fun heq => hne (by rw [← hid, ← heq, hjob])
      rw [find?_put_ne _ _ hkey] at hfind1
      exact ⟨key', item1, hfind1, hid, hopen⟩
    · rintro ⟨key', item1, hfind1, hid, hopen⟩
      have hkey : key ≠ key' := fun heq => hne (by rw [← hid, ← heq, hjob])
      refine ⟨key', item1, ?_, hid, hopen⟩
      rw [find?_put_ne _ _ hkey]
      exact hfind1
  fewer := by
    rw [hasOpenItem_iff, hasOpenItem_iff, hitems]
    rintro ⟨key', item1, hfind1, hid, hopen⟩
    rcases find?_put_cases hfind1 with ⟨rfl, rfl⟩ | hold
    · refine ⟨key', item, hfind, hid, ?_⟩
      cases hstate : item.state.isTerminal with
      | false => rfl
      | true => rw [hends hstate] at hopen; cases hopen
    · exact ⟨key', item1, hold, hid, hopen⟩

theorem endRows {f : Batch → (String × Int) × BatchItem → Except Error Batch}
    (hf : ∀ b x b', f b x = .ok b' → b'.jobs = b.jobs ∧
      ∃ item', b'.items = b.items.put x.1 item' ∧
        item'.requestId = x.2.requestId ∧ item'.state.isTerminal = true)
    (hrows : ∀ x ∈ rows, x.1.1 = jobId ∧
      (b.items.find? x.1).map (·.requestId) = some x.2.requestId)
    (h : rows.foldlM f b = .ok b') : Ends jobId b b' := by
  induction rows generalizing b with
  | nil =>
    cases h
    exact .refl jobId _
  | cons x _ ih =>
    simp only [foldlM_cons, bind_eq_ok] at h
    obtain ⟨b₁, hrow, hrest⟩ := h
    obtain ⟨hjobs, item', hitems, hrequest, hterminal⟩ := hf b x b₁ hrow
    obtain ⟨hjob, hfind⟩ := hrows x (mem_cons_self ..)
    obtain ⟨item, hfind, hid⟩ := map_eq_some_iff.mp hfind
    have hstep : Ends jobId b b₁ :=
      ends_put hfind hjob hjobs hitems (hrequest.trans hid.symm) fun _ => hterminal
    refine hstep.trans (ih (fun y hy => ?_) hrest)
    rw [find?_of_view hstep.items]
    exact hrows y (mem_cons_of_mem _ hy)

theorem filter_rows (b : Batch) {p : String × Int → BatchItem → Bool}
    (hp : ∀ key item, p key item = true → key.1 = jobId) :
    ∀ x ∈ b.items.rows.filter (fun x => p x.1 x.2), x.1.1 = jobId ∧
      (b.items.find? x.1).map (·.requestId) = some x.2.requestId := by
  intro x hx
  obtain ⟨hmem, hselected⟩ := mem_filter.mp hx
  refine ⟨hp x.1 x.2 hselected, ?_⟩
  rw [find?_eq_some_iff.mpr hmem, map_some]

variable {ts : Int} {job : BatchJob}

theorem cancelRows_ends
    (h : (b.items.rows.filter (fun x => cancelable jobId x.1 x.2)).foldlM
      (cancelOne ts) b = .ok b') : Ends jobId b b' := by
  refine endRows (fun b x b' hstep => ?_) (filter_rows b fun key item hsel => ?_) h
  · simp only [cancelOne, ok_steps] at hstep
    obtain ⟨b₁, hset, ⟨deleted, leases⟩, -, -, rfl⟩ := hstep
    obtain rfl := setItem_eq hset
    exact ⟨rfl, _, rfl, rfl, rfl⟩
  · simp only [cancelable, guard_iffs] at hsel
    exact hsel.1.1

theorem expireRows_ends
    (h : (b.items.rows.filter (fun x => expirable jobId x.1 x.2)).foldlM
      (fun b x => b.setItem x.1 (x.2.expiredAt ts)) b = .ok b') : Ends jobId b b' := by
  refine endRows (fun b x b' hstep => ?_) (filter_rows b fun key item hsel => ?_) h
  · obtain rfl := setItem_eq hstep
    exact ⟨rfl, _, rfl, rfl, rfl⟩
  · simp only [expirable, guard_iffs] at hsel
    exact hsel.1.1

theorem completeJobIfTerminal_eq (hjob : b.jobs.find? jobId = some job)
    (h : completeJobIfTerminal b jobId ts = .ok b') :
    b'.items = b.items ∧ (∀ id, id ≠ jobId → b'.jobs.find? id = b.jobs.find? id) ∧
      b'.jobs.find? jobId = some (job.closedUnless (hasOpenItem b jobId) ts) := by
  have hput : ∀ {job' : BatchJob}, b.setJob jobId job' = .ok b' →
      b'.items = b.items ∧ b'.jobs.find? jobId = some job' := by
    intro job' hset
    obtain ⟨rfl, -⟩ := setJob_eq hset
    exact ⟨rfl, find?_put_self ..⟩
  have hmain : b'.items = b.items ∧
      b'.jobs.find? jobId = some (job.closedUnless (hasOpenItem b jobId) ts) := by
    simp only [completeJobIfTerminal, hjob] at h
    split at h
    · rename_i hopen
      have hopen : hasOpenItem b jobId = true := hopen
      cases h
      simp [BatchJob.closedUnless, hopen, hjob]
    · rename_i hopen
      have hopen : hasOpenItem b jobId = false := Bool.eq_false_iff.mpr hopen
      simp only [BatchJob.closedUnless, BatchJob.closedAt, hopen, if_bool]
      split at h
      · rename_i hkind
        obtain ⟨hitems, hfound⟩ := hput h
        exact ⟨hitems, by rw [hfound, hkind]⟩
      · rename_i hkind
        simp only [hkind]
        split at h
        · rename_i hdone
          cases h
          rw [if_pos hdone]
          exact ⟨rfl, hjob⟩
        · rename_i hdone
          obtain ⟨hitems, hfound⟩ := hput h
          exact ⟨hitems, by rw [hfound, if_neg hdone, hkind]⟩
  exact ⟨hmain.1, fun id hne => completeJobIfTerminal_other h hne, hmain.2⟩

variable {named : String → Bool}

theorem Ends.lives {job' : BatchJob} (h : Ends jobId b b₁)
    (hjob : b.jobs.find? jobId = some job) (hitems : b'.items = b₁.items)
    (hother : ∀ id, id ≠ jobId → b'.jobs.find? id = b₁.jobs.find? id)
    (hself : b'.jobs.find? jobId = some job')
    (hstep : JobStep (named jobId) (job, hasOpenItem b jobId)
      (job', hasOpenItem b₁ jobId)) : Lives named b b' where
  items := by rw [hitems, h.items]
  absent := by
    intro id hnone
    have hne : id ≠ jobId := by
      rintro rfl
      rw [hjob] at hnone
      cases hnone
    rw [hother id hne, h.jobs, hnone]
  steps := by
    intro id job0 hjob0
    have hopen : hasOpenItem b' id = hasOpenItem b₁ id := by simp only [hasOpenItem, hitems]
    rw [hopen]
    by_cases hid : id = jobId
    · subst hid
      cases hjob.symm.trans hjob0
      exact ⟨job', hself, .single hstep⟩
    · refine ⟨job0, by rw [hother id hid, h.jobs, hjob0], ?_⟩
      rw [h.other id hid]

theorem closeBehind_lives (hends : Ends jobId b b₁) (hjob : b.jobs.find? jobId = some job)
    (h : completeJobIfTerminal b₁ jobId ts = .ok b') : Lives named b b' := by
  obtain ⟨hitems, hother, hself⟩ := completeJobIfTerminal_eq (hends.jobs ▸ hjob) h
  exact hends.lives hjob hitems hother hself (.close job _ _ ts hends.fewer)

theorem cancelJob_lives {b2 b3 : Batch} (hends : Ends jobId b b₁)
    (hjob : b.jobs.find? jobId = some job)
    (hallowed : named jobId = true ∨ job.completedTs = none)
    (hmoney : ∃ store, b2 = { b₁ with store })
    (hset : b2.setJob jobId (job.canceledAt ts) = .ok b3)
    (h : completeJobIfTerminal b3 jobId ts = .ok b') : Lives named b b' := by
  obtain ⟨store, rfl⟩ := hmoney
  obtain ⟨rfl, -⟩ := setJob_eq hset
  obtain ⟨hitems, hother, hself⟩ := completeJobIfTerminal_eq (find?_put_self ..) h
  refine hends.lives hjob hitems (fun id hne => ?_) hself
    (.cancel job _ _ ts hends.fewer hallowed)
  rw [hother id hne]
  exact find?_put_ne _ _ (Ne.symm hne)

theorem cancel_lives {accountId : String} {answer : Option Nat}
    (hnamed : (b.jobs.find? jobId).any (·.accountId == accountId) = true →
      named jobId = true) (h : geminiBatchCancel b ts accountId jobId = .ok (answer, b')) :
    Lives named b b' := by
  unfold geminiBatchCancel at h
  split at h
  · cases h
    exact .refl b
  rename_i job hfound
  obtain ⟨hjob, hguard⟩ := filter_eq_some_iff.mp hfound
  rw [Bool.and_eq_true] at hguard
  simp only [ok_steps] at h
  obtain ⟨holds, -, b₁, hitems, b2, hmoney, b3, hset, b4, hcomplete, -, rfl⟩ := h
  refine cancelJob_lives (cancelRows_ends hitems) hjob (.inl (hnamed ?_))
    (releaseHolds_eq hmoney) hset hcomplete
  rw [hjob]
  exact hguard.1

theorem expireJob_lives {acc acc' : Nat × Batch} {row : String × BatchJob}
    (hfind : acc.2.jobs.find? row.1 = some row.2) (hopen : row.2.completedTs = none)
    (h : expireJob ts acc row = .ok acc') :
    Lives named acc.2 acc'.2 ∧ ∀ id, id ≠ row.1 → acc'.2.jobs.find? id = acc.2.jobs.find? id := by
  obtain ⟨jobId, job⟩ := row
  obtain ⟨count, b⟩ := acc
  simp only [expireJob, ok_steps] at h
  obtain ⟨_, -, b₁, hitems, hold, -, b2, hmoney, b3, hset, b4, hcomplete, rfl⟩ := h
  have hends := expireRows_ends hitems
  have hrelease := releaseHolds_eq hmoney
  refine ⟨cancelJob_lives hends hfind (.inr hopen) hrelease hset hcomplete, fun id hne => ?_⟩
  obtain ⟨store, rfl⟩ := hrelease
  obtain ⟨rfl, -⟩ := setJob_eq hset
  rw [completeJobIfTerminal_other hcomplete hne, ← hends.jobs]
  exact find?_put_ne _ _ (Ne.symm hne)

theorem expireJobs_lives {jobs : List (String × BatchJob)} {acc acc' : Nat × Batch}
    (hkeys : (jobs.map Prod.fst).Nodup)
    (hfind : ∀ row ∈ jobs, acc.2.jobs.find? row.1 = some row.2 ∧ row.2.completedTs = none)
    (h : jobs.foldlM (expireJob ts) acc = .ok acc') : Lives named acc.2 acc'.2 := by
  induction jobs generalizing acc with
  | nil =>
    cases h
    exact .refl _
  | cons row _ ih =>
    rw [map_cons, nodup_cons] at hkeys
    simp only [foldlM_cons, bind_eq_ok] at h
    obtain ⟨acc1, hrow, hrest⟩ := h
    obtain ⟨hrowfind, hrowopen⟩ := hfind row (mem_cons_self ..)
    obtain ⟨hstep, hother⟩ := expireJob_lives hrowfind hrowopen hrow
    refine hstep.trans (ih hkeys.2 (fun x hx => ?_) hrest)
    have hne : x.1 ≠ row.1 := fun heq => hkeys.1 (heq ▸ mem_map_of_mem hx)
    rw [hother x.1 hne]
    exact hfind x (mem_cons_of_mem _ hx)

theorem expireQueued_lives {locked : List String} {n : Nat}
    (h : expireQueuedGeminiBatch b ts locked limit = .ok (n, b')) : Lives named b b' := by
  refine expireJobs_lives (nodup_select ..) (fun row hrow => ?_) h
  obtain ⟨hfind, hselected⟩ := mem_select hrow
  simp only [guard_iffs, isNone_iff_eq_none] at hselected
  exact ⟨hfind, hselected.1.1.2⟩

theorem terminalize_lives {row : SettlementRow}
    (hfind : b.items.find? (row.jobId, row.itemIndex) = some item)
    (hjob : b.jobs.find? row.jobId = some job)
    (h : terminalize b ts requestId row item job = .ok b') : Lives named b b' := by
  simp only [terminalize, ok_steps, bailIf_eq_ok, guard_iffs] at h
  obtain ⟨⟨hpending, -⟩, b₁, hset, profileId, -, w, -, ⟨deleted, leases⟩, -, -, -, hcomplete⟩ := h
  obtain rfl := setItem_eq hset
  refine closeBehind_lives ?_ hjob hcomplete
  refine ends_put hfind rfl rfl rfl rfl fun hterminal => ?_
  rw [hpending] at hterminal
  cases hterminal

theorem process_lives {answer : Option Int}
    (h : processGeminiBatchSettlement b ts requestId = .ok (answer, b')) :
    Lives named b b' := by
  rcases process_cases h with
    rfl | ⟨row, item, job, store, usageEvents, calibrations, -, hfind, hjob, hterminal⟩
  · exact .refl _
  · have hworld : Idle b { b with store, usageEvents, calibrations } := ⟨rfl, rfl⟩
    exact hworld.lives.trans (terminalize_lives hfind hjob hterminal)

theorem delete_lives {accountId : String}
    (h : geminiBatchDelete b ts accountId jobId = .ok (done, b')) : Lives named b b' := by
  unfold geminiBatchDelete at h
  split at h
  · cases h
    exact .refl b
  rename_i job hfound
  obtain ⟨hjob, hguard⟩ := filter_eq_some_iff.mp hfound
  rw [Bool.and_eq_true] at hguard
  split at h
  · cases h
    exact .refl b
  · simp only [ok_steps] at h
    obtain ⟨b₁, hset, -, rfl⟩ := h
    obtain ⟨rfl, -⟩ := setJob_eq hset
    exact (Ends.refl jobId b).lives hjob rfl
      (fun id hne => find?_put_ne _ _ (Ne.symm hne)) (find?_put_self ..)
      (.delete job _ ts hguard.2)

end Ending

/-! ## What a job keeps -/

/-- The marks of a job agree with its items. -/
structure JobOk (job : BatchJob) (hasOpen : Bool) : Prop where
  terminal : job.terminalItemsTs.isSome = true ↔ hasOpen = false
  completed : job.completedTs.isSome = true → job.terminalItemsTs.isSome = true
  inline : job.inputKind = .inline → job.terminalItemsTs.isSome = true →
    job.completedTs.isSome = true
  deleted : job.deleteTs.isSome = true → job.completedTs.isSome = true

/-- What a call keeps of a job. -/
structure BatchJob.Keeps (named : Bool) (job job' : BatchJob) : Prop where
  accountId : job'.accountId = job.accountId
  inputKind : job'.inputKind = job.inputKind
  advances : job.Advances job'
  output : job.inputKind = .file → job'.completedTs = job.completedTs
  canceled : named = false → job.completedTs.isSome = true →
    job'.cancelRequestedTs = job.cancelRequestedTs

section Keeps

variable {named : Bool} {job job' job'' : BatchJob} {o o' : Bool}

theorem BatchJob.Keeps.refl (job : BatchJob) : job.Keeps named job :=
  ⟨rfl, rfl, .refl job, fun _ => rfl, fun _ _ => rfl⟩

theorem BatchJob.Keeps.trans (h : job.Keeps named job') (h' : job'.Keeps named job'') :
    job.Keeps named job'' where
  accountId := h'.accountId.trans h.accountId
  inputKind := h'.inputKind.trans h.inputKind
  advances := h.advances.trans h'.advances
  output := fun hfile => (h'.output (h.inputKind.trans hfile)).trans (h.output hfile)
  canceled := fun hnamed hset =>
    (h'.canceled hnamed (h.advances.completed hset)).trans (h.canceled hnamed hset)

theorem keeps_closedUnless (job : BatchJob) (o : Bool) (ts : Int) :
    job.Keeps named (job.closedUnless o ts) := by
  unfold BatchJob.closedUnless BatchJob.closedAt
  split
  · exact .refl job
  split
  · rename_i hkind
    refine ⟨rfl, rfl, ⟨fun h => h, fun _ => rfl, fun _ => rfl, fun h => h⟩,
      fun hfile => ?_, fun _ _ => rfl⟩
    rw [hkind] at hfile
    cases hfile
  · split
    · exact .refl job
    · exact ⟨rfl, rfl, ⟨fun h => h, fun _ => rfl, fun h => h, fun h => h⟩,
        fun _ => rfl, fun _ _ => rfl⟩

theorem JobStep.keeps (h : JobStep named (job, o) (job', o')) : job.Keeps named job' := by
  cases h with
  | close _ _ _ ts => exact keeps_closedUnless job o' ts
  | cancel _ _ _ ts _ allowed =>
    refine BatchJob.Keeps.trans ?_ (keeps_closedUnless (job.canceledAt ts) o' ts)
    refine ⟨rfl, rfl, advances_cancel job ts, fun _ => rfl, fun hnamed hset => ?_⟩
    rcases allowed with htrue | hnone
    · rw [hnamed] at htrue
      cases htrue
    · rw [hnone] at hset
      cases hset
  | delete =>
    exact ⟨rfl, rfl, ⟨fun h => h, fun h => h, fun h => h, fun _ => rfl⟩,
      fun _ => rfl, fun _ _ => rfl⟩

theorem JobSteps.keeps (h : JobSteps named (job, o) (job', o')) : job.Keeps named job' := by
  refine reflTransGen_invariant (I := fun s => job.Keeps named s.1)
    (fun s s' hkeeps hstep => ?_) (.refl job) h
  exact hkeeps.trans (JobStep.keeps hstep)

theorem jobOk_closedUnless (h : JobOk job o) (fewer : o' = true → o = true) (ts : Int) :
    JobOk (job.closedUnless o' ts) o' := by
  unfold BatchJob.closedUnless BatchJob.closedAt
  cases o' with
  | true =>
    rw [if_pos rfl]
    exact ⟨by rw [h.terminal, fewer rfl], h.completed, h.inline, h.deleted⟩
  | false =>
    rw [if_neg Bool.false_ne_true]
    split
    · exact ⟨by simp, fun _ => rfl, fun _ _ => rfl, fun _ => rfl⟩
    · rename_i hkind
      split
      · rename_i hdone
        have hterminal : job.terminalItemsTs.isSome = true := by
          rcases Bool.or_eq_true_iff.mp hdone with hset | hset
          · exact hset
          · exact h.completed hset
        exact ⟨by simp [hterminal], h.completed, h.inline, h.deleted⟩
      · refine ⟨by simp, fun _ => rfl, fun hinline _ => ?_, h.deleted⟩
        rw [hkind] at hinline
        cases hinline

theorem JobStep.ok (h : JobStep named (job, o) (job', o')) (hok : JobOk job o) :
    JobOk job' o' := by
  cases h with
  | close _ _ _ ts fewer => exact jobOk_closedUnless hok fewer ts
  | cancel _ _ _ ts fewer =>
    have hcanceled : JobOk (job.canceledAt ts) o :=
      ⟨hok.terminal, hok.completed, hok.inline, hok.deleted⟩
    exact jobOk_closedUnless hcanceled fewer ts
  | delete _ _ _ completed =>
    exact ⟨hok.terminal, hok.completed, hok.inline, fun _ => completed⟩

theorem JobSteps.ok (h : JobSteps named (job, o) (job', o')) (hok : JobOk job o) :
    JobOk job' o' :=
  reflTransGen_invariant (I := fun s : BatchJob × Bool => JobOk s.1 s.2)
    (fun _ _ hok hstep => JobStep.ok hstep hok) hok h

end Keeps

/-! ## Publishing -/

section Publish

variable {b b' : Batch} {create : BatchCreate}

theorem insertItem_rows {item : CreateItem} (h : insertItem create b item = .ok b') :
    b'.jobs = b.jobs ∧ ∃ row : BatchItem, row.requestId = item.requestId ∧
      row.state = .queued ∧
      b'.items.rows = b.items.rows ++ [((create.jobId, item.itemIndex), row)] := by
  simp only [insertItem, ok_steps, guard_iffs, isSome_eq_false_iff, isNone_iff_eq_none] at h
  obtain ⟨-, ⟨habsent, -⟩, rfl⟩ := h
  exact ⟨rfl, _, rfl, rfl, rows_put_new _ habsent⟩

theorem insertItems_rows {items : List CreateItem}
    (h : items.foldlM (insertItem create) b = .ok b') :
    b'.jobs = b.jobs ∧ ∃ rows, b'.items.rows = b.items.rows ++ rows ∧
      rows.map (fun x => (x.1, x.2.requestId))
        = items.map (fun item => ((create.jobId, item.itemIndex), item.requestId)) ∧
      ∀ x ∈ rows, x.2.state = .queued := by
  induction items generalizing b with
  | nil =>
    cases h
    exact ⟨rfl, [], by simp⟩
  | cons item _ ih =>
    simp only [foldlM_cons, bind_eq_ok] at h
    obtain ⟨b₁, hitem, hrest⟩ := h
    obtain ⟨hjobs1, row, hrequest, hqueued, hrow⟩ := insertItem_rows hitem
    obtain ⟨hjobs, rows, hrows, hids, hstates⟩ := ih hrest
    refine ⟨hjobs.trans hjobs1, ((create.jobId, item.itemIndex), row) :: rows, ?_, ?_, ?_⟩
    · rw [hrows, hrow, append_assoc, List.singleton_append]
    · rw [map_cons, map_cons, hids, hrequest]
    · rw [forall_mem_cons]
      exact ⟨hqueued, hstates⟩

/-- A new job and its queued items. -/
structure Published (b b' : Batch) (create : BatchCreate) : Prop where
  fresh : b.jobs.find? create.jobId = none
  job : ∃ job, b'.jobs = b.jobs.put create.jobId job ∧
    job.accountId = create.accountId ∧ job.inputKind = create.inputKind ∧
    job.cancelRequestedTs = none ∧ job.terminalItemsTs = none ∧
    job.completedTs = none ∧ job.deleteTs = none
  items : ∃ rows, b'.items.rows = b.items.rows ++ rows ∧
    rows.map (fun x => (x.1, x.2.requestId)) = create.items.map
      (fun item => ((create.jobId, item.itemIndex), item.requestId)) ∧
    ∀ x ∈ rows, x.2.state = .queued

theorem publish_published (h : publish b create = .ok b') : Published b b' create := by
  simp only [publish, ok_steps, isSome_eq_false_iff, isNone_iff_eq_none] at h
  obtain ⟨-, hfresh, hitems⟩ := h
  obtain ⟨hjobs, hrows⟩ := insertItems_rows hitems
  exact ⟨hfresh, ⟨_, hjobs, rfl, rfl, rfl, rfl, rfl, rfl⟩, hrows⟩

section

variable (h : Published b b' create)
include h

theorem Published.key {key : String × Int} (hfind : b'.items.find? key = some item) :
    b.items.find? key = some item ∨ (item.state = .queued ∧
      ∃ item' ∈ create.items, key = (create.jobId, item'.itemIndex) ∧
        item.requestId = item'.requestId) := by
  obtain ⟨rows, hrows, hids, hstates⟩ := h.items
  have hmem := mem_of_find? hfind
  rw [hrows, mem_append] at hmem
  rcases hmem with hold | hnew
  · exact .inl (find?_eq_some_iff.mpr hold)
  · have hid : (key, item.requestId) ∈ rows.map (fun x => (x.1, x.2.requestId)) :=
      mem_map.mpr ⟨(key, item), hnew, rfl⟩
    rw [hids] at hid
    obtain ⟨item', hitem', heq⟩ := mem_map.mp hid
    simp only [Prod.mk.injEq] at heq
    exact .inr ⟨hstates _ hnew, item', hitem', heq.1.symm, heq.2.symm⟩

theorem Published.kept {key : String × Int} (hfind : b.items.find? key = some item) :
    b'.items.find? key = some item := by
  obtain ⟨rows, hrows, -⟩ := h.items
  rw [find?_eq_some_iff, hrows]
  exact mem_append_left _ (mem_of_find? hfind)

theorem Published.other {key : String × Int} (hne : key.1 ≠ create.jobId) :
    b'.items.find? key = b.items.find? key := by
  cases hfind : b'.items.find? key with
  | some =>
    rcases h.key hfind with hold | ⟨-, item', -, rfl, -⟩
    · exact hold.symm
    · exact absurd rfl hne
  | none =>
    cases hold : b.items.find? key with
    | none => rfl
    | some =>
      rw [h.kept hold] at hfind
      cases hfind

theorem Published.hasOpenItem_other (hne : id ≠ create.jobId) :
    hasOpenItem b' id = hasOpenItem b id := by
  have hitems : ∀ key : String × Int, key.1 = id →
      b'.items.find? key = b.items.find? key :=
    fun key hkey => h.other (hkey ▸ hne)
  rw [Bool.eq_iff_iff, hasOpenItem_iff, hasOpenItem_iff]
  constructor
  · rintro ⟨key, item, hfind, hkey, hopen⟩
    exact ⟨key, item, hitems key hkey ▸ hfind, hkey, hopen⟩
  · rintro ⟨key, item, hfind, hkey, hopen⟩
    exact ⟨key, item, (hitems key hkey).trans hfind, hkey, hopen⟩

theorem Published.hasOpenItem_new (hitems : create.items ≠ []) :
    hasOpenItem b' create.jobId = true := by
  obtain ⟨rows, hrows, hids, hstates⟩ := h.items
  obtain ⟨item, hitem⟩ := List.exists_mem_of_ne_nil _ hitems
  have hid : ((create.jobId, item.itemIndex), item.requestId)
      ∈ rows.map (fun x => (x.1, x.2.requestId)) := by
    rw [hids]
    exact mem_map.mpr ⟨item, hitem, rfl⟩
  obtain ⟨x, hx, heq⟩ := mem_map.mp hid
  simp only [Prod.mk.injEq] at heq
  refine hasOpenItem_iff.mpr ⟨x.1, x.2, ?_, by rw [heq.1], by rw [hstates x hx]; rfl⟩
  rw [find?_eq_some_iff, hrows]
  exact mem_append_right _ hx

end

end Publish

/-! ## The calls -/

/-- The job that a call names for cancellation. -/
def cancels (b : Batch) (op : BatchOp) (id : String) : Bool :=
  match op with
  | .cancel _ accountId jobId =>
    id == jobId && (b.jobs.find? jobId).any (·.accountId == accountId)
  | _ => false

theorem lives_after {α : Type} {named : String → Bool} {b : Batch}
    {state : α → Batch} {x : Except Error α}
    (h : ∀ answer, x = .ok answer → Lives named b (state answer)) :
    Lives named b (b.after state x) := by
  cases x with
  | error => exact .refl b
  | ok answer => exact h answer rfl

theorem exec_lives (b : Batch) {op : BatchOp} (hwhole : op.whole = true) :
    Lives (cancels b op) b (b.exec op) := by
  cases op with
  | publish create | finalizeOutput completedTs jobId => cases hwhole
  | engine => exact Idle.lives ⟨rfl, rfl⟩
  | acquireLeader =>
    refine lives_after fun answer h => ?_
    simp only [acquireBatchLeader, ok_steps] at h
    obtain ⟨-, rfl⟩ := h
    exact Idle.lives ⟨rfl, rfl⟩
  | claim =>
    refine lives_after fun answer h => ?_
    cases answer with
    | none => exact .refl b
    | some => exact (claim_worked h).idle.lives
  | markDispatching => exact lives_after fun _ h => (markDispatching_worked h).idle.lives
  | markActualSend => exact lives_after fun _ h => (markActualSend_worked h).idle.lives
  | renew => exact lives_after fun _ h => (renew_worked h).idle.lives
  | requeue => exact lives_after fun _ h => (requeue_worked h).idle.lives
  | release => exact lives_after fun _ h => (release_worked h).idle.lives
  | reconcile => exact lives_after fun _ h => (reconcile_worked h).idle.lives
  | cancel =>
    refine lives_after fun _ h => cancel_lives (fun hnamed => ?_) h
    simpa [cancels] using hnamed
  | expireQueued => exact lives_after fun _ h => expireQueued_lives h
  | enqueue => exact lives_after fun _ h => (enqueueInner_idle h).lives
  | enqueueRecovery =>
    refine lives_after fun _ h => ?_
    simp only [enqueueGeminiBatchRecoverySettlement, ok_steps] at h
    exact (enqueueInner_idle h.2).lives
  | process => exact lives_after fun _ h => process_lives h
  | recordFailure ts requestId err => exact (recordFailure_idle b ts requestId err).lives
  | delete => exact lives_after fun _ h => delete_lives h

end ApiToken.Gemini
