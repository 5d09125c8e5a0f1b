import ApiToken.Gemini.Invariant

/-!
# Every call is a sequence of transitions

One lemma for each call of the machine, from the statements it runs to the
transitions of `Machine`. The lemmas assume `Sound`, which turns the deletes
on three tables into filters.
-/

namespace ApiToken.Gemini

open Registry

variable {key : String × Int} {item : BatchItem}
  {jobId profileId accountId keyId accountMismatch keyMismatch requestId : String}
  {job : BatchJob} {α : Type} {create : BatchCreate} {l : ProfileLease}
  {slot leaseSecs holds : Int} {now : Nat → Int} {claimed : GeminiBatchClaimedItem}
  {locked : List (String × Int)} {done : Bool} {op : BatchOp}
  {x : (String × Int) × BatchItem} {limit : Nat} {bad : Nat → Store → Bool}
  {acc acc' : Nat × Batch} {intent : GeminiBatchSettlementIntent} {row : SettlementRow}

/-! ## Writes -/

section Writes

variable {b b' : Batch}

theorem setItem_eq (h : b.setItem key item = .ok b') :
    b' = { b with items := b.items.put key item } := by
  simp only [Batch.setItem, ok_steps] at h
  exact h.2.symm

theorem setJob_eq (h : b.setJob jobId job = .ok b') :
    b' = { b with jobs := b.jobs.put jobId job } ∧ job.checked = true := by
  simp only [Batch.setJob, ok_steps, guard_iffs] at h
  exact ⟨h.2.symm, h.1⟩

theorem frame_of_eq (outbox : b'.outbox = b.outbox) (blobs : b'.blobs = b.blobs)
    (jobs : b'.jobs = b.jobs) : Frame b b' where
  outbox := fun _ row' h => ⟨row', outbox ▸ h, rfl, rfl, rfl⟩
  outputs := fun _ _ _ _ => by rw [blobs]
  jobs := fun _ _ h => .inr (jobs ▸ h)
  kept := fun _ job h => ⟨job, jobs ▸ h, .refl job⟩

theorem putJob_transition (b : Batch) (jobId : String) (hok : job.checked = true)
    (hkept : ∀ old, b.jobs.find? jobId = some old → old.Advances job) :
    Transition b { b with jobs := b.jobs.put jobId job } := by
  have hframe : Frame b { b with jobs := b.jobs.put jobId job } := by
    refine ⟨fun _ row' h => ⟨row', h, rfl, rfl, rfl⟩, fun _ _ _ _ => rfl,
      fun id job' hfind => ?_, fun id old hfind => ?_⟩
    · simp only [find?_put] at hfind
      split at hfind
      · cases hfind
        exact .inl hok
      · exact .inr hfind
    · simp only [find?_put]
      split
      · rename_i hid
        subst hid
        exact ⟨job, rfl, hkept old hfind⟩
      · exact ⟨old, hfind, .refl old⟩
  exact .world hframe rfl (.refl _)

theorem setJob_transition {old : BatchJob} (h : b.setJob jobId job = .ok b')
    (hfind : b.jobs.find? jobId = some old) (hkept : old.Advances job) :
    Transitions b b' := by
  obtain ⟨rfl, hok⟩ := setJob_eq h
  refine (putJob_transition b jobId hok fun old' hfind' => ?_).once
  rw [hfind] at hfind'
  cases hfind'
  exact hkept

theorem after_transitions {state : α → Batch} {x : Except Error α}
    (h : ∀ a, x = .ok a → Transitions b (state a)) : Transitions b (b.after state x) := by
  cases x with
  | error => exact .refl
  | ok a => exact h a rfl

theorem store_transition (b : Batch) (store : Store) : Transition b { b with store } :=
  .world (frame_of_eq rfl rfl rfl) rfl (.refl _)

end Writes

/-! ## Publishing -/

section Publish

variable {b b' : Batch}

theorem insertItem_transition {item : CreateItem}
    (hjob : (b.jobs.find? create.jobId).isSome = true)
    (h : insertItem create b item = .ok b') : Transition b b' := by
  simp only [insertItem, CreateItem.validate, ok_steps, bailIf_eq_ok, guard_iffs] at h
  obtain ⟨⟨-, hrequest, -, hmetadata⟩, ⟨habsent, hfresh⟩, rfl⟩ := h
  refine .publish (create.jobId, item.itemIndex) _
    ⟨fun _ row' h => ⟨row', h, rfl, rfl, rfl⟩, ?_, fun _ _ h => .inr h,
      fun _ job h => ⟨job, h, .refl job⟩⟩ hjob
    (by simpa using habsent) ?_ rfl rfl rfl rfl rfl rfl
  · intro jobId index kind hkind
    cases hblob : item.metadataBlob with
    | none =>
      simp only [foldl_cons, foldl_nil, Option.toList_none]
      refine find?_put_ne _ _ fun heq => ?_
      simp only [Prod.mk.injEq, hrequest] at heq
      rcases hkind with rfl | rfl <;> cases heq.2.2
    | some =>
      simp only [hblob, ok_steps, bailIf_eq_ok, guard_iffs] at hmetadata
      simp only [foldl_cons, foldl_nil, Option.toList_some]
      rw [find?_put_ne, find?_put_ne]
      · intro heq
        simp only [Prod.mk.injEq, hrequest] at heq
        rcases hkind with rfl | rfl <;> cases heq.2.2
      · intro heq
        simp only [Prod.mk.injEq, hmetadata.1] at heq
        rcases hkind with rfl | rfl <;> cases heq.2.2
  · intro key' item' hfind heq
    have hany := any_eq_false_iff.mp hfresh key' item' hfind
    simp only [beq_eq_false_iff_ne, ne_eq] at hany
    exact hany heq

theorem insertItem_jobs {item : CreateItem} (h : insertItem create b item = .ok b') :
    b'.jobs = b.jobs := by
  simp only [insertItem, ok_steps] at h
  obtain ⟨-, -, rfl⟩ := h
  rfl

theorem insertItems_transition {items : List CreateItem}
    (hjob : (b.jobs.find? create.jobId).isSome = true)
    (h : items.foldlM (insertItem create) b = .ok b') : Transitions b b' := by
  induction items generalizing b with
  | nil =>
    cases h
    exact .refl
  | cons _ _ ih =>
    simp only [foldlM_cons, bind_eq_ok] at h
    obtain ⟨b1, hitem, hrest⟩ := h
    exact (insertItem_transition hjob hitem).once.trans
      (ih (by rw [insertItem_jobs hitem, hjob]) hrest)

theorem publish_transition (h : publish b create = .ok b') : Transitions b b' := by
  simp only [publish, ok_steps] at h
  obtain ⟨-, habsent, hitems⟩ := h
  refine .head (putJob_transition b create.jobId (by simp [BatchJob.checked]) ?_)
    (insertItems_transition (by simp) hitems)
  intro old hfind
  rw [hfind] at habsent
  cases habsent

end Publish

/-! ## Claims -/

variable {owner : Owner} {b : Batch}

section Claim

variable {b b' : Batch}

theorem insertUnique_rows {κ : Type} [DecidableEq κ] {t t' : Table κ ProfileLease} {k : κ}
    (h : insertUnique t k l = .ok t') : t'.rows = t.rows ++ [(k, l)] := by
  simp only [insertUnique, ok_steps, guard_iffs] at h
  obtain ⟨⟨hnone, -⟩, rfl⟩ := h
  exact rows_put_new l (by simpa using hnone)

theorem insertLease_ids {t t' : LeaseTables} (h : insertLease t profileId slot l = .ok t') :
    t'.ids.Perm (l.id profileId :: t.ids) := by
  simp only [insertLease, ok_steps] at h
  obtain ⟨-, h⟩ := h
  rw [perm_iff_count]
  intro id
  split at h
  · simp only [ok_steps] at h
    obtain ⟨slot1, hinsert, rfl⟩ := h
    simp only [LeaseTables.ids, slotIds, extraIds, insertUnique_rows hinsert,
      map_append, map_cons, map_nil, count_append,
      count_cons, count_nil]
    omega
  · split at h
    · simp only [ok_steps] at h
      obtain ⟨slot2, hinsert, rfl⟩ := h
      simp only [LeaseTables.ids, slotIds, extraIds, insertUnique_rows hinsert,
        map_append, map_cons, map_nil, count_append,
        count_cons, count_nil]
      omega
    · simp only [ok_steps] at h
      obtain ⟨extra, hinsert, rfl⟩ := h
      simp only [LeaseTables.ids, slotIds, extraIds, insertUnique_rows hinsert,
        map_append, map_cons, map_nil, count_append,
        count_cons, count_nil]
      omega

theorem claimChosen_transition (find : b.items.find? key = some item)
    (queued : item.state = .queued) (named : profileId ≠ "")
    (h : claimChosen b now owner profileId leaseSecs slot key item job
      = .ok (some (claimed, b'))) : Transition b b' := by
  simp only [claimChosen, ok_steps] at h
  obtain ⟨-, h⟩ := h
  split at h
  · cases h
  simp only [ok_steps, some.injEq] at h
  obtain ⟨b1, hset, leases, hinsert, request, -, -, -, rfl⟩ := h
  obtain rfl := setItem_eq hset
  exact .claim key item owner profileId _ _ (frame_of_eq rfl rfl rfl) find queued
    named rfl (insertLease_ids hinsert)

theorem claim_transition (hsound : Sound b) {modelId : String} {capacity : Nat}
    (h : claimGeminiBatchItem b now locked owner profileId modelId capacity
      leaseSecs = .ok (some (claimed, b'))) :
    ∃ t : LeaseTables, t.ids.Perm (b.leases.ids.filter
        (fun id => !reclaimable b profileId (now 0) id)) ∧
      Transition { b with leases := t } b' := by
  simp only [claimGeminiBatchItem, ok_steps, bailIf_eq_ok, guard_iffs, beq_eq_false_iff_ne] at h
  obtain ⟨hnamed, -, -, -, h⟩ := h
  split at h
  · cases h
  simp only [bind_eq_ok] at h
  obtain ⟨⟨n, t⟩, hdelete, h⟩ := h
  have hperm := (deleteLeases_ok hsound.one hdelete).2
  split at h
  · cases h
  simp only [bind_eq_ok] at h
  obtain ⟨slot, -, h⟩ := h
  split at h
  · cases h
  rename_i key item hselect
  obtain ⟨hfind, hclaimable⟩ := mem_select (List.mem_of_mem_head? hselect)
  split at h
  · cases h
  simp only [claimable, guard_iffs] at hclaimable
  exact ⟨t, hperm, claimChosen_transition hfind hclaimable.1.1.1 hnamed.1 h⟩

end Claim

/-! ## The worker's calls -/

section Worker

variable {b b' : Batch} {ts : Int} {owner : Owner} {claim : GeminiBatchClaim}

theorem fencedBy_lease (h : item.fencedBy owner claim = true) :
    item.lease? claim.item = some (claim.lease owner) ∧
      item.claimGeneration = claim.claimGeneration := by
  simp only [BatchItem.fencedBy, guard_iffs] at h
  obtain ⟨⟨⟨-, hworker⟩, hgeneration⟩, hprofile⟩ := h
  obtain ⟨w, hw, howner⟩ := (Option.any_eq_true _ _).mp hworker
  simp only [beq_iff_eq] at howner
  refine ⟨?_, hgeneration⟩
  simp only [BatchItem.lease?, hprofile, hw, howner, hgeneration,
    GeminiBatchClaim.item, GeminiBatchClaim.lease]

theorem writeAndRenew_cases {leaseUntil : Int}
    (h : writeAndRenew b owner claim item leaseUntil ts = .ok (done, b')) :
    (done = true ∧ b'.items = b.items.put claim.item item ∧
      b'.leases.ids = b.leases.ids ∧ Frame b b') ∨ (done = false ∧ b' = b) := by
  simp only [writeAndRenew, bind_eq_ok] at h
  obtain ⟨b1, hset, ⟨renewed, leases⟩, hrenew, h⟩ := h
  obtain rfl := setItem_eq hset
  split at h
  · simp only [ok_steps] at h
    obtain ⟨rfl, rfl⟩ := h
    exact .inl ⟨rfl, rfl, renewGeminiBatchProfileLease_ids hrenew, frame_of_eq rfl rfl rfl⟩
  · simp only [ok_steps] at h
    exact .inr ⟨h.1.symm, h.2.symm⟩

theorem markDispatching_cases
    (h : markGeminiBatchDispatching b ts owner claim leaseSecs = .ok (done, b')) :
    (done = true ∧ ∃ item leaseUntil, b.items.find? claim.item = some item ∧
      item.fencedBy owner claim = true ∧
      (item.state = .claimed ∨ item.state = .dispatching) ∧
      b'.items = b.items.put claim.item (item.dispatched leaseUntil ts) ∧
      b'.leases.ids = b.leases.ids ∧ Frame b b') ∨ (done = false ∧ b' = b) := by
  simp only [markGeminiBatchDispatching, ok_steps] at h
  obtain ⟨-, h⟩ := h
  split at h
  · cases h
    exact .inr ⟨rfl, rfl⟩
  rename_i item hfind
  split at h
  · rename_i hguard
    simp only [guard_iffs] at hguard
    exact (writeAndRenew_cases h).imp_left fun hrest =>
      ⟨hrest.1, item, _, hfind, hguard.1.1.1, hguard.1.1.2, hrest.2⟩
  · cases h
    exact .inr ⟨rfl, rfl⟩

theorem markActualSend_cases
    (h : markGeminiBatchActualSend b ts owner claim leaseSecs = .ok (done, b')) :
    (done = true ∧ ∃ item leaseUntil, b.items.find? claim.item = some item ∧
      item.fencedBy owner claim = true ∧ item.state = .dispatching ∧
      item.dispatchIntentTs.isSome = true ∧
      (∃ job, b.jobs.find? claim.jobId = some job ∧ job.isOpen ts = true) ∧
      b'.items = b.items.put claim.item (item.sent leaseUntil ts) ∧
      b'.leases.ids = b.leases.ids ∧ Frame b b') ∨ (done = false ∧ b' = b) := by
  simp only [markGeminiBatchActualSend, ok_steps] at h
  obtain ⟨-, h⟩ := h
  split at h
  · cases h
    exact .inr ⟨rfl, rfl⟩
  rename_i item hfind
  split at h
  · rename_i hguard
    simp only [guard_iffs, Option.any_eq_true] at hguard
    obtain ⟨⟨⟨⟨⟨hfence, hstate⟩, hintent⟩, hjob⟩, -⟩, -⟩ := hguard
    exact (writeAndRenew_cases h).imp_left fun hrest =>
      ⟨hrest.1, item, _, hfind, hfence, hstate, hintent, hjob, hrest.2⟩
  · cases h
    exact .inr ⟨rfl, rfl⟩

theorem exec_dispatch {generation : Int} (h : dispatchMark b op = some (key, generation)) :
    Dispatch b (b.exec op) key generation := by
  unfold dispatchMark at h
  split at h
  · split at h
    · rename_i hmark
      cases h
      rcases markDispatching_cases hmark with
        ⟨-, item, leaseUntil, hfind, hfence, hstate, hrest⟩ | ⟨hfalse, -⟩
      swap
      · cases hfalse
      simp only [Batch.exec, hmark, Batch.after]
      exact ⟨item, leaseUntil, _, hfind, (fencedBy_lease hfence).2, hstate, hrest⟩
    · cases h
  · cases h

theorem markDispatching_unmarked
    (h : dispatchMark b (.markDispatching ts owner claim leaseSecs) = none) :
    b.exec (.markDispatching ts owner claim leaseSecs) = b := by
  simp only [dispatchMark] at h
  simp only [Batch.exec]
  cases hmark : markGeminiBatchDispatching b ts owner claim leaseSecs with
  | error => rfl
  | ok answer =>
    obtain ⟨done, b'⟩ := answer
    rcases markDispatching_cases hmark with ⟨rfl, -⟩ | ⟨-, hsame⟩
    · simp [hmark] at h
    · exact hsame

theorem markActualSend_transition (h : markGeminiBatchActualSend b ts owner claim leaseSecs
      = .ok (done, b')) : Transitions b b' := by
  rcases markActualSend_cases h with ⟨-, item, leaseUntil, hfind, -, hstate, hintent, -,
    hitems, hleases, hframe⟩ | ⟨-, rfl⟩
  · exact (Transition.rewrite _ _ _ hframe hfind
      (.send leaseUntil ts hstate hintent) hitems hleases).once
  · exact .refl

theorem renew_transition
    (h : renewGeminiBatchClaim b ts owner claim leaseSecs = .ok (done, b')) :
    Transitions b b' := by
  simp only [renewGeminiBatchClaim, ok_steps] at h
  obtain ⟨-, ⟨renewed, leases⟩, hrenew, h⟩ := h
  split at h
  · cases h
    exact .refl
  split at h
  · cases h
    exact .refl
  rename_i item hfind
  split at h
  · rename_i hguard
    rw [Bool.and_eq_true] at hguard
    simp only [ok_steps] at h
    obtain ⟨b1, hset, -, rfl⟩ := h
    obtain rfl := setItem_eq hset
    refine Transition.once (.rewrite claim.item item _ ?_ hfind
      (.renew _ ts hguard.2) rfl (renewGeminiBatchProfileLease_ids hrenew))
    exact frame_of_eq rfl rfl rfl
  · cases h
    exact .refl

theorem requeue_transition (hsound : Sound b) {nextAttemptTs : Int}
    (h : requeueGeminiBatchClaim b ts owner claim nextAttemptTs
      = .ok (done, b')) : Transitions b b' := by
  simp only [requeueGeminiBatchClaim, ok_steps] at h
  obtain ⟨-, h⟩ := h
  split at h
  · cases h
    exact .refl
  rename_i item hfind
  split at h
  · rename_i hguard
    simp only [guard_iffs] at hguard
    simp only [ok_steps] at h
    obtain ⟨b1, hset, ⟨deleted, leases⟩, hdelete, -, -, rfl⟩ := h
    obtain rfl := setItem_eq hset
    refine Transition.once (.requeue claim.item item _ (max nextAttemptTs 0) ts ?_
      hfind hguard.1.2 hguard.2 (fencedBy_lease hguard.1.1).1 rfl
      (deleteLeases_ok hsound.one hdelete).2)
    exact frame_of_eq rfl rfl rfl
  · cases h
    exact .refl

theorem release_cases (hsound : Sound b)
    (h : releaseGeminiBatchProfile b ts owner claim = .ok (done, b')) :
    b' = b ∨ (ownerLive b.store owner ts = true ∧
      (∃ item, b.items.find? claim.item = some item ∧
        item.fencedBy owner claim = true ∧ item.state.releasable = true) ∧
      ∃ t : LeaseTables, b' = { b with leases := t } ∧
        t.ids.Perm (b.leases.ids.filter (fun id => !(id == claim.lease owner)))) := by
  simp only [releaseGeminiBatchProfile, ok_steps, assertOwner, bailIf_eq_ok, guard_iffs] at h
  obtain ⟨hlive, h⟩ := h
  split at h
  · rename_i hguard
    obtain ⟨item, hfind, hfence⟩ := (Option.any_eq_true _ _).mp hguard
    rw [Bool.and_eq_true] at hfence
    simp only [ok_steps] at h
    obtain ⟨⟨deleted, leases⟩, hdelete, -, rfl⟩ := h
    exact .inr ⟨hlive, ⟨item, hfind, hfence⟩, leases, rfl, (deleteLeases_ok hsound.one hdelete).2⟩
  · simp only [ok_steps] at h
    exact .inl h.2.symm

end Worker

/-! ## Calls over many rows -/

section Rows

variable {b b' : Batch}

theorem foldRows_transitions (state : α → Batch) (P : (String × Int) × BatchItem → Prop)
    {f : α → (String × Int) × BatchItem → Except Error α}
    (hf : ∀ a x a', Sound (state a) → P x →
      (state a).items.find? x.1 = some x.2 → f a x = .ok a' →
      Transitions (state a) (state a') ∧ ∀ key, key ≠ x.1 →
        (state a').items.find? key = (state a).items.find? key)
    {rows : List ((String × Int) × BatchItem)} {a a' : α}
    (hkeys : (rows.map Prod.fst).Nodup) (hrows : ∀ x ∈ rows, P x)
    (hfind : ∀ x ∈ rows, (state a).items.find? x.1 = some x.2) (hsound : Sound (state a))
    (h : rows.foldlM f a = .ok a') : Transitions (state a) (state a') := by
  induction rows generalizing a with
  | nil =>
    cases h
    exact .refl
  | cons x _ ih =>
    rw [map_cons, nodup_cons] at hkeys
    simp only [foldlM_cons, bind_eq_ok] at h
    obtain ⟨a1, hstep, hrest⟩ := h
    obtain ⟨htrans, hother⟩ := hf a x a1 hsound
      (hrows x (mem_cons_self ..)) (hfind x (mem_cons_self ..)) hstep
    refine htrans.trans (ih hkeys.2
      (fun y hy => hrows y (mem_cons_of_mem _ hy)) (fun y hy => ?_)
      (sound_transitions hsound htrans) hrest)
    have hne : y.1 ≠ x.1 := fun heq => hkeys.1 (heq ▸ mem_map_of_mem hy)
    rw [hother y.1 hne]
    exact hfind y (mem_cons_of_mem _ hy)

variable {ts : Int}

theorem reconcileOne_transition {acc acc' : GeminiBatchReconcileReport × Batch}
    (hsound : Sound acc.2) (hfind : acc.2.items.find? x.1 = some x.2)
    (h : reconcileOne ts acc x = .ok acc') :
    Transitions acc.2 acc'.2 ∧ ∀ key, key ≠ x.1 →
      acc'.2.items.find? key = acc.2.items.find? key := by
  obtain ⟨key, item⟩ := x
  obtain ⟨report, b⟩ := acc
  simp only [reconcileOne] at h
  split at h
  · rename_i w profileId job hworker hprofile hjob
    split at h
    · cases h
      exact ⟨.refl, fun _ _ => rfl⟩
    split at h
    · rename_i hguard
      simp only [guard_iffs] at hguard
      simp only [ok_steps] at h
      obtain ⟨b1, hset, ⟨deleted, leases⟩, hdelete, -, rfl⟩ := h
      obtain rfl := setItem_eq hset
      refine ⟨Transition.once (.requeue key item _ item.nextAttemptTs ts ?_ hfind
        hguard.1.1.1 hguard.1.1.2 ?_ rfl
        (deleteLeases_ok hsound.one hdelete).2), fun key' hne => ?_⟩
      · exact frame_of_eq rfl rfl rfl
      · simp only [BatchItem.lease?, hworker, hprofile, GeminiBatchClaim.lease]
      · exact find?_put_ne _ _ (Ne.symm hne)
    · cases h
      exact ⟨.refl, fun _ _ => rfl⟩
  · cases h
    exact ⟨.refl, fun _ _ => rfl⟩

theorem reconcile_transition (hsound : Sound b) {report : GeminiBatchReconcileReport}
    (h : reconcileExpiredGeminiBatchClaims b ts locked limit
      = .ok (report, b')) : Transitions b b' := by
  have hfind : ∀ x ∈ b.items.select (expiredClaim b ts locked) reconcileOrder
      (max 1 (min limit 10000)), b.items.find? x.1 = some x.2 :=
    fun x hx => (mem_select hx).1
  exact foldRows_transitions Prod.snd (fun _ => True)
    (fun a x a' hs _ hfind hstep => reconcileOne_transition hs hfind hstep)
    (nodup_select ..) (fun _ _ => trivial) hfind hsound h

theorem cancelOne_transition (hsound : Sound b)
    (hstate : x.2.state = .queued ∨ x.2.state = .claimed) (hfind : b.items.find? x.1 = some x.2)
    (h : cancelOne ts b x = .ok b') :
    Transitions b b' ∧ ∀ key, key ≠ x.1 → b'.items.find? key = b.items.find? key := by
  simp only [cancelOne, ok_steps] at h
  obtain ⟨b1, hset, ⟨deleted, leases⟩, hdelete, -, rfl⟩ := h
  obtain rfl := setItem_eq hset
  refine ⟨Transition.once (.cancel x.1 x.2 ts ?_ hfind hstate rfl
    (deleteLeases_ok hsound.one hdelete).2), fun key hne => ?_⟩
  · exact frame_of_eq rfl rfl rfl
  · exact find?_put_ne _ _ (Ne.symm hne)

theorem expireOne_transition (hstate : x.2.state = .queued)
    (hfind : b.items.find? x.1 = some x.2) (h : b.setItem x.1 (x.2.expiredAt ts) = .ok b') :
    Transitions b b' ∧ ∀ key, key ≠ x.1 → b'.items.find? key = b.items.find? key := by
  obtain rfl := setItem_eq h
  refine ⟨Transition.once (.expire x.1 x.2 ts ?_ hfind hstate rfl rfl), fun key hne => ?_⟩
  · exact frame_of_eq rfl rfl rfl
  · exact find?_put_ne _ _ (Ne.symm hne)

theorem completeJobIfTerminal_cases (h : completeJobIfTerminal b jobId ts = .ok b') :
    b' = b ∨ ∃ job job' : BatchJob, b.jobs.find? jobId = some job ∧
      b.setJob jobId job' = .ok b' ∧ job.Advances job' := by
  unfold completeJobIfTerminal at h
  split at h
  · cases h
    exact .inl rfl
  split at h
  · cases h
    exact .inl rfl
  rename_i job hjob _
  split at h
  · exact .inr ⟨job, _, hjob, h, ⟨fun hset => hset, fun _ => rfl, fun _ => rfl, fun hset => hset⟩⟩
  · split at h
    · cases h
      exact .inl rfl
    · exact .inr ⟨job, _, hjob, h,
        ⟨fun hset => hset, fun _ => rfl, fun hset => hset, fun hset => hset⟩⟩

theorem completeJobIfTerminal_transition (h : completeJobIfTerminal b jobId ts = .ok b') :
    Transitions b b' := by
  rcases completeJobIfTerminal_cases h with rfl | ⟨job, job', hjob, hset, hadvances⟩
  · exact .refl
  · exact setJob_transition hset hjob hadvances

theorem completeJobIfTerminal_only (h : completeJobIfTerminal b jobId ts = .ok b') :
    ∃ jobs, b' = { b with jobs } := by
  rcases completeJobIfTerminal_cases h with rfl | ⟨job, job', -, hset, -⟩
  · exact ⟨_, rfl⟩
  · exact ⟨_, (setJob_eq hset).1⟩

theorem completeJobIfTerminal_other (h : completeJobIfTerminal b jobId ts = .ok b')
    {id : String} (hne : id ≠ jobId) :
    b'.jobs.find? id = b.jobs.find? id := by
  rcases completeJobIfTerminal_cases h with rfl | ⟨job, job', -, hset, -⟩
  · rfl
  · obtain ⟨rfl, -⟩ := setJob_eq hset
    exact find?_put_ne _ _ (Ne.symm hne)

theorem releaseHolds_eq
    (h : releaseHolds b accountId keyId holds accountMismatch keyMismatch bad
      = .ok b') : ∃ store, b' = { b with store } := by
  unfold releaseHolds at h
  split at h
  · simp only [ok_steps] at h
    obtain ⟨store, -, -, rfl⟩ := h
    exact ⟨_, rfl⟩
  · cases h
    exact ⟨_, rfl⟩

theorem cancelOne_jobs (h : cancelOne ts b x = .ok b') : b'.jobs = b.jobs := by
  simp only [cancelOne, ok_steps] at h
  obtain ⟨b1, hset, ⟨deleted, leases⟩, -, -, rfl⟩ := h
  obtain rfl := setItem_eq hset
  rfl

/-- `cancel_requested_ts = COALESCE(cancel_requested_ts, …)`. -/
theorem advances_cancel (job : BatchJob) (ts : Int) :
    job.Advances { job with
      cancelRequestedTs := some (job.cancelRequestedTs.getD ts), updateTs := ts } :=
  ⟨fun _ => rfl, fun hset => hset, fun hset => hset, fun hset => hset⟩

theorem cancel_transition (hsound : Sound b) {answer : Option Nat}
    (h : geminiBatchCancel b ts accountId jobId = .ok (answer, b')) : Transitions b b' := by
  unfold geminiBatchCancel at h
  split at h
  · cases h
    exact .refl
  rename_i job hjob
  simp only [ok_steps] at h
  obtain ⟨holds, -, b1, hitems, b2, hmoney, b3, hset, b4, hcomplete, -, rfl⟩ := h
  have hrows : ∀ x ∈ b.items.rows.filter (fun x => cancelable jobId x.1 x.2),
      (x.2.state = .queued ∨ x.2.state = .claimed) ∧ b.items.find? x.1 = some x.2 := by
    intro x hx
    obtain ⟨hmem, hcancel⟩ := mem_filter.mp hx
    simp only [cancelable, guard_iffs] at hcancel
    exact ⟨hcancel.1.2, find?_eq_some_iff.mpr hmem⟩
  have hcanceled : Transitions b b1 :=
    foldRows_transitions id
      (fun x => x.2.state = .queued ∨ x.2.state = .claimed)
      (fun a x a' hs hp hfind hstep => cancelOne_transition hs hp hfind hstep)
      (Table.nodup_filter _ b.items.nodup) (fun x hx => (hrows x hx).1)
      (fun x hx => (hrows x hx).2) hsound hitems
  have hjobs : b1.jobs.find? jobId = some job := by
    rw [foldlM_keeps Batch.jobs (fun _ _ _ hstep => cancelOne_jobs hstep) hitems]
    exact (filter_eq_some_iff.mp hjob).1
  obtain ⟨store, rfl⟩ := releaseHolds_eq hmoney
  exact hcanceled.trans ((store_transition b1 store).once.trans
    ((setJob_transition hset hjobs (advances_cancel job ts)).trans
      (completeJobIfTerminal_transition hcomplete)))

theorem expireJob_transition {row : String × BatchJob} (hsound : Sound acc.2)
    (hfind : acc.2.jobs.find? row.1 = some row.2) (h : expireJob ts acc row = .ok acc') :
    Transitions acc.2 acc'.2 ∧ ∀ id, id ≠ row.1 → acc'.2.jobs.find? id = acc.2.jobs.find? id := by
  obtain ⟨jobId, job⟩ := row
  obtain ⟨count, b⟩ := acc
  simp only [expireJob, ok_steps] at h
  obtain ⟨_, -, b1, hitems, hold, -, b2, hmoney, b3, hset, b4, hcomplete, rfl⟩ := h
  have hrows : ∀ x ∈ b.items.rows.filter (fun x => expirable jobId x.1 x.2),
      x.2.state = .queued ∧ b.items.find? x.1 = some x.2 := by
    intro x hx
    obtain ⟨hmem, hexpire⟩ := mem_filter.mp hx
    simp only [expirable, guard_iffs] at hexpire
    exact ⟨hexpire.1.2, find?_eq_some_iff.mpr hmem⟩
  have hexpired : Transitions b b1 :=
    foldRows_transitions id (fun x => x.2.state = .queued)
      (fun a x a' _ hp hfind hstep => expireOne_transition hp hfind hstep)
      (Table.nodup_filter _ b.items.nodup) (fun x hx => (hrows x hx).1)
      (fun x hx => (hrows x hx).2) hsound hitems
  have hjobs : b1.jobs = b.jobs := by
    refine foldlM_keeps Batch.jobs (fun a x a' hstep => ?_) hitems
    rw [setItem_eq hstep]
  obtain ⟨store, rfl⟩ := releaseHolds_eq hmoney
  refine ⟨hexpired.trans ((store_transition b1 store).once.trans
    ((setJob_transition hset (hjobs ▸ hfind) (advances_cancel job ts)).trans
      (completeJobIfTerminal_transition hcomplete))), fun id hne => ?_⟩
  obtain ⟨rfl, -⟩ := setJob_eq hset
  rw [completeJobIfTerminal_other hcomplete hne]
  exact (find?_put_ne _ _ (Ne.symm hne)).trans (by rw [hjobs])

theorem expireJobs_transition {jobs : List (String × BatchJob)}
    (hkeys : (jobs.map Prod.fst).Nodup)
    (hfind : ∀ row ∈ jobs, acc.2.jobs.find? row.1 = some row.2) (hsound : Sound acc.2)
    (h : jobs.foldlM (expireJob ts) acc = .ok acc') : Transitions acc.2 acc'.2 := by
  induction jobs generalizing acc with
  | nil =>
    cases h
    exact .refl
  | cons row _ ih =>
    rw [map_cons, nodup_cons] at hkeys
    simp only [foldlM_cons, bind_eq_ok] at h
    obtain ⟨acc1, hrow, hrest⟩ := h
    obtain ⟨hstep, hother⟩ := expireJob_transition hsound (hfind row (mem_cons_self ..)) hrow
    refine hstep.trans (ih hkeys.2 (fun x hx => ?_) (sound_transitions hsound hstep) hrest)
    have hne : x.1 ≠ row.1 := fun heq => hkeys.1 (heq ▸ mem_map_of_mem hx)
    rw [hother x.1 hne]
    exact hfind x (mem_cons_of_mem _ hx)

theorem expireQueued_transition (hsound : Sound b) {locked : List String} {n : Nat}
    (h : expireQueuedGeminiBatch b ts locked limit = .ok (n, b')) :
    Transitions b b' :=
  expireJobs_transition (nodup_select ..) (fun _ hx => (mem_select hx).1) hsound h

end Rows

/-! ## Settlement -/

section Settle

variable {b b' : Batch} {ts : Int}

theorem storeBlob_spec (h : storeBlob b intent = .ok b') :
    (∀ jobId index kind, (jobId, index) ≠ intent.item →
      b'.blobs.find? (jobId, index, kind) = b.blobs.find? (jobId, index, kind)) ∧
    ∃ blobs, b' = { b with blobs } := by
  unfold storeBlob at h
  split at h
  · cases h
    refine ⟨fun jobId index kind hne => find?_put_ne _ _ fun heq => hne ?_, _, rfl⟩
    simp only [Prod.mk.injEq] at heq
    rw [GeminiBatchSettlementIntent.item, heq.1, heq.2.1]
  · simp only [ok_steps] at h
    obtain ⟨-, rfl⟩ := h
    exact ⟨fun _ _ _ _ => rfl, _, rfl⟩

theorem storeIntent_spec (h : storeIntent b intent = .ok b') :
    (∀ id row, b'.outbox.find? id = some row → b.outbox.find? id = some row ∨
      (id = intent.requestId ∧ row = intent.row)) ∧
    ∃ outbox, b' = { b with outbox } := by
  unfold storeIntent at h
  split at h
  · simp only [ok_steps] at h
    obtain ⟨-, rfl⟩ := h
    refine ⟨fun id row hfind => ?_, _, rfl⟩
    simp only [find?_put] at hfind
    split at hfind
    · rename_i hid
      cases hfind
      exact .inr ⟨hid.symm, rfl⟩
    · exact .inl hfind
  · simp only [ok_steps] at h
    obtain ⟨-, rfl⟩ := h
    exact ⟨fun id row hfind => .inl hfind, _, rfl⟩

theorem validate_terminal (h : intent.validate = .ok ()) :
    intent.terminalState.isTerminal = true := by
  simp only [GeminiBatchSettlementIntent.validate, ok_steps, bailIf_eq_ok, guard_iffs] at h
  exact h.1.2

theorem enqueueInner_transition {now : Int} {owner : Option Owner}
    {claim : GeminiBatchClaim}
    (h : enqueueGeminiBatchSettlementInner b now owner claim intent = .ok b') :
    Transitions b b' := by
  simp only [enqueueGeminiBatchSettlementInner, ok_steps, bailIf_eq_ok] at h
  obtain ⟨hvalid, -, -, item, hitem, w, -, -, hfence, -, b1, hblob, b2, hintent, hset⟩ := h
  obtain ⟨hfind, hrequest⟩ := filter_eq_some_iff.mp hitem
  simp only [guard_iffs] at hfence hrequest
  obtain ⟨hblobs, blobs, rfl⟩ := storeBlob_spec hblob
  obtain ⟨hrows, outbox, rfl⟩ := storeIntent_spec hintent
  obtain rfl := setItem_eq hset
  refine Transition.once (.pend intent.item item intent.completedTs hfind hfence.2
    ?_ rfl rfl ?_ hblobs)
  · rw [hrequest]
  · intro id row' hrow'
    rcases hrows id row' hrow' with hold | ⟨rfl, rfl⟩
    · exact .inl hold
    · exact .inr ⟨hrequest.symm, rfl, validate_terminal hvalid⟩

theorem enqueueRecovery_transition {now : Int} {recovery : GeminiBatchRecoveryCandidate}
    (h : enqueueGeminiBatchRecoverySettlement b now recovery intent = .ok b') :
    Transitions b b' := by
  simp only [enqueueGeminiBatchRecoverySettlement, ok_steps] at h
  exact enqueueInner_transition h.2

theorem frame_putRow {row' : SettlementRow} (hrow : b.outbox.find? requestId = some row)
    (outbox : b'.outbox = b.outbox.put requestId row') (hjob : row'.jobId = row.jobId)
    (hindex : row'.itemIndex = row.itemIndex)
    (hterminal : row'.terminalState = row.terminalState) (blobs : b'.blobs = b.blobs)
    (jobs : b'.jobs = b.jobs) : Frame b b' where
  outbox := by
    intro id found hfind
    rw [outbox, find?_put] at hfind
    split at hfind
    · rename_i hid
      cases hfind
      exact ⟨row, hid ▸ hrow, hjob.symm, hindex.symm, hterminal.symm⟩
    · exact ⟨found, hfind, rfl, rfl, rfl⟩
  outputs := fun _ _ _ _ => by rw [blobs]
  jobs := fun _ _ h => .inr (jobs ▸ h)
  kept := fun _ job h => ⟨job, jobs ▸ h, .refl job⟩

theorem terminalize_transition (hsound : Sound b)
    (hrow : b.outbox.find? requestId = some row)
    (hfind : b.items.find? (row.jobId, row.itemIndex) = some item)
    (h : terminalize b ts requestId row item job = .ok b') : Transitions b b' := by
  simp only [terminalize, ok_steps, bailIf_eq_ok, guard_iffs] at h
  obtain ⟨⟨hpending, -⟩, b1, hset, profileId, hprofile, w, hworker,
    ⟨deleted, leases⟩, hdelete, -, -, hcomplete⟩ := h
  obtain rfl := setItem_eq hset
  refine .trans (Transition.once (.settle (row.jobId, row.itemIndex) item row _ ts
    ?_ hfind hpending (hsound.settling requestId row hrow).1 ?_ rfl
    (deleteLeases_ok hsound.one hdelete).2))
    (completeJobIfTerminal_transition hcomplete)
  · exact frame_putRow hrow rfl rfl rfl rfl rfl rfl
  · simp only [BatchItem.lease?, hprofile, hworker, GeminiBatchClaim.lease]

theorem recordEvidence_eq {collection : AccountCollection}
    (h : recordEvidence b ts requestId row item job collection = .ok b') :
    ∃ usageEvents calibrations, b' = { b with usageEvents, calibrations } := by
  unfold recordEvidence at h
  split at h
  · unfold recordMeasured at h
    split at h
    · simp only [ok_steps] at h
      obtain ⟨_, -, _, -, _, -, -, -, -, rfl⟩ := h
      exact ⟨_, _, rfl⟩
    · cases h
      exact ⟨_, _, rfl⟩
  · cases h
    exact ⟨_, _, rfl⟩

theorem process_cases {answer : Option Int}
    (h : processGeminiBatchSettlement b ts requestId = .ok (answer, b')) :
    b' = b ∨ ∃ row item job store usageEvents calibrations,
      b.outbox.find? requestId = some row ∧
      b.items.find? (row.jobId, row.itemIndex) = some item ∧
      b.jobs.find? row.jobId = some job ∧
      terminalize { b with store, usageEvents, calibrations } ts requestId row item job
        = .ok b' := by
  unfold processGeminiBatchSettlement at h
  split at h
  · cases h
    exact .inl rfl
  rename_i row hrow
  split at h
  · rename_i item job hitem hjob
    split at h
    · simp only [ok_steps] at h
      obtain ⟨_, -, -, rfl⟩ := h
      exact .inl rfl
    · simp only [ok_steps] at h
      obtain ⟨-, -, ⟨collection, store⟩, -, b1, hevidence, b2, hterminal, -, rfl⟩ := h
      obtain ⟨usageEvents, calibrations, rfl⟩ := recordEvidence_eq hevidence
      exact .inr ⟨row, item, job, store, usageEvents, calibrations, hrow,
        (filter_eq_some_iff.mp hitem).1, hjob, hterminal⟩
  · cases h
    exact .inl rfl

theorem process_transition (hsound : Sound b) {answer : Option Int}
    (h : processGeminiBatchSettlement b ts requestId = .ok (answer, b')) :
    Transitions b b' := by
  rcases process_cases h with
    rfl | ⟨row, item, job, store, usageEvents, calibrations, hrow, hfind, -, hterminal⟩
  · exact .refl
  · have hworld : Transition b { b with store, usageEvents, calibrations } :=
      .world (frame_of_eq rfl rfl rfl) rfl (.refl _)
    exact .head hworld (terminalize_transition (sound_transition hsound hworld)
      hrow hfind hterminal)

theorem recordFailure_transition (b : Batch) (ts : Int) (requestId : String)
    (err : Error) : Transitions b (recordSettlementFailure b ts requestId err) := by
  unfold recordSettlementFailure
  split
  · exact .refl
  rename_i row hrow
  split
  · exact .refl
  · refine Transition.once (.world ?_ rfl (.refl _))
    exact frame_putRow hrow rfl rfl rfl rfl rfl rfl

theorem delete_transition (h : geminiBatchDelete b ts accountId jobId = .ok (done, b')) :
    Transitions b b' := by
  unfold geminiBatchDelete at h
  split at h
  · cases h
    exact .refl
  rename_i job hjob
  split at h
  · cases h
    exact .refl
  · simp only [ok_steps] at h
    obtain ⟨b1, hset, -, rfl⟩ := h
    exact setJob_transition hset (filter_eq_some_iff.mp hjob).1
      ⟨fun hset => hset, fun hset => hset, fun hset => hset, fun _ => rfl⟩

theorem finalizeOutput_transition {completedTs : Int}
    (h : finalizeGeminiBatchOutput b completedTs jobId = .ok b') : Transitions b b' := by
  unfold finalizeGeminiBatchOutput at h
  split at h
  · cases h
    exact .refl
  · rename_i job hjob
    exact setJob_transition h (filter_eq_some_iff.mp hjob).1
      ⟨fun hset => hset, fun hset => hset, fun _ => rfl, fun hset => hset⟩

theorem acquireLeader_transition {name : String} {ttlSecs : Int}
    (h : acquireBatchLeader b ts owner name ttlSecs = .ok b') : Transitions b b' := by
  simp only [acquireBatchLeader, ok_steps] at h
  obtain ⟨-, rfl⟩ := h
  refine Transition.once (.world ?_ rfl (.refl _))
  exact frame_of_eq rfl rfl rfl

end Settle

/-! ## The machine -/

def BatchOp.mayDrop : BatchOp → Bool
  | .claim .. | .release .. => true
  | _ => false

/-- Any other call that marks nothing for dispatch is a sequence of
transitions. -/
theorem exec_plain (hsound : Sound b) (hdrop : op.mayDrop = false)
    (hmark : dispatchMark b op = none) : Transitions b (b.exec op) := by
  cases op with
  | claim now locked owner profileId modelId capacity leaseSecs | release ts owner claim => cases hdrop
  | engine => exact (store_transition b _).once
  | acquireLeader => exact after_transitions fun _ h => acquireLeader_transition h
  | publish => exact after_transitions fun _ h => publish_transition h
  | markDispatching => rw [markDispatching_unmarked hmark]
  | markActualSend => exact after_transitions fun _ h => markActualSend_transition h
  | renew => exact after_transitions fun _ h => renew_transition h
  | requeue => exact after_transitions fun _ h => requeue_transition hsound h
  | reconcile => exact after_transitions fun _ h => reconcile_transition hsound h
  | cancel => exact after_transitions fun _ h => cancel_transition hsound h
  | expireQueued => exact after_transitions fun _ h => expireQueued_transition hsound h
  | enqueue => exact after_transitions fun _ h => enqueueInner_transition h
  | enqueueRecovery => exact after_transitions fun _ h => enqueueRecovery_transition h
  | process => exact after_transitions fun _ h => process_transition hsound h
  | recordFailure ts requestId err => exact recordFailure_transition b ts requestId err
  | delete => exact after_transitions fun _ h => delete_transition h
  | finalizeOutput => exact after_transitions fun _ h => finalizeOutput_transition h

theorem exec_claim (hsound : Sound b) (now : Nat → Int) (locked : List (String × Int))
    (owner : Owner) (profileId modelId : String) (capacity : Nat) (leaseSecs : Int) :
    b.exec (.claim now locked owner profileId modelId capacity leaseSecs) = b ∨
    ∃ t : LeaseTables, t.ids.Perm (b.leases.ids.filter
        (fun id => !reclaimable b profileId (now 0) id)) ∧
      Transition { b with leases := t }
        (b.exec (.claim now locked owner profileId modelId capacity leaseSecs)) := by
  simp only [Batch.exec]
  cases h : claimGeminiBatchItem b now locked owner profileId modelId capacity
      leaseSecs with
  | error => exact .inl rfl
  | ok answer =>
    cases answer with
    | none => exact .inl rfl
    | some => exact .inr (claim_transition hsound h)

theorem exec_transitions (hsound : Sound b) (hmark : dispatchMark b op = none) :
    ∃ b1, (b1 = b ∨ Loss b b1) ∧ Transitions b1 (b.exec op) := by
  cases hdrop : op.mayDrop with
  | false => exact ⟨b, .inl rfl, exec_plain hsound hdrop hmark⟩
  | true =>
    cases op with
    | claim now locked owner profileId modelId capacity leaseSecs =>
      rcases exec_claim hsound now locked owner profileId modelId capacity
        leaseSecs with hsame | ⟨t, hperm, hstep⟩
      · refine ⟨b, .inl rfl, ?_⟩
        rw [hsame]
      · exact ⟨_, .inr ⟨t, _, rfl, hperm⟩, hstep.once⟩
    | release ts owner claim =>
      simp only [Batch.exec]
      cases h : releaseGeminiBatchProfile b ts owner claim with
      | error => exact ⟨b, .inl rfl, .refl⟩
      | ok =>
        rcases release_cases hsound h with hsame | ⟨-, -, t, hsame, hperm⟩
        · exact ⟨b, .inl rfl, hsame ▸ .refl⟩
        · exact ⟨_, .inr ⟨t, _, hsame, hperm⟩, .refl⟩
    | _ => cases hdrop

theorem sound_exec (hsound : Sound b) (op : BatchOp) : Sound (b.exec op) := by
  cases hmark : dispatchMark b op with
  | some => exact sound_dispatch hsound (exec_dispatch hmark)
  | none =>
    obtain ⟨b1, hloss, hsteps⟩ := exec_transitions hsound hmark
    rcases hloss with rfl | hloss
    · exact sound_transitions hsound hsteps
    · exact sound_transitions (sound_loss hsound hloss) hsteps

theorem sound_run (store : Store) (ops : List BatchOp) :
    Sound (run Batch.exec (.fresh store) ops) :=
  run_invariant (I := Sound) (fun _ op h => sound_exec h op) (sound_fresh store) ops

/-- An item that is queued, claimed or dispatching has no output and no settlement;
an item has at most one settlement, under its own request id, and a job. -/
theorem recorded_when_settled (store : Store) (ops : List BatchOp) :
    let b := run Batch.exec (.fresh store) ops
    (∀ key item, b.items.find? key = some item →
      (b.jobs.find? key.1).isSome = true ∧
      (item.state ≠ .settlementPending → item.state.isTerminal = false →
        (∀ kind, kind = .result ∨ kind = .error →
          (b.blobs.find? (key.1, key.2, kind)).isSome = false) ∧
        ∀ id row, b.outbox.find? id = some row → (row.jobId, row.itemIndex) ≠ key)) ∧
    (∀ id row, b.outbox.find? id = some row → ∃ item,
      b.items.find? (row.jobId, row.itemIndex) = some item ∧ item.requestId = id) ∧
    ∀ key item key' item', b.items.find? key = some item → b.items.find? key' = some item' →
      item.requestId = item'.requestId → key = key' := by
  have h := sound_run store ops
  refine ⟨fun key item hitem => ⟨h.jobOf key item hitem, fun hnot hopen => ⟨?_, ?_⟩⟩, ?_,
    h.unique⟩
  · intro kind hkind
    by_contra hblob
    obtain ⟨item', hitem', hstate⟩ := h.outputs _ _ kind hkind (Bool.not_eq_false _ ▸ hblob)
    cases hitem.symm.trans hitem'
    simp [hnot, hopen] at hstate
  · rintro id row hrow rfl
    obtain ⟨-, item', hitem', -, hstate⟩ := h.settling id row hrow
    cases hitem.symm.trans hitem'
    simp [hnot, hopen] at hstate
  · intro id row hrow
    obtain ⟨-, item, hitem, hid, -⟩ := h.settling id row hrow
    exact ⟨item, hitem, hid⟩

end ApiToken.Gemini
