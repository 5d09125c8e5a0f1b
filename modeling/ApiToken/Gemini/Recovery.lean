import ApiToken.Gemini.Steps

/-!
# Recovery candidates

The reconciler reports a candidate for every expired claim that it does not
requeue: claimed items whose deadline has passed or whose job is canceled,
and all dispatching items. A settlement may be enqueued only for a
dispatching or a settlement-pending item, so a candidate can be settled
exactly when its item is dispatching and the money of its settlement can be
booked; the candidate of a claimed item is refused, and it is reported again.
-/

namespace ApiToken.Gemini

open Registry

variable {key : String × Int} {acc acc' : GeminiBatchReconcileReport × Batch}
  {locked : List (String × Int)} {jobId : String}

/-! ## Two more facts about every batch -/

/-- Leases name a profile, and an item that has not ended has no end. -/
structure Clean (b : Batch) : Prop where
  named : ∀ id ∈ b.leases.ids, id.profileId ≠ ""
  unended : ∀ key item, b.items.find? key = some item →
    item.state.isTerminal = false → item.terminalTs = none

section Clean

variable {b b' : Batch}

theorem clean_put (h : Clean b) {item' : BatchItem}
    (items : b'.items = b.items.put key item')
    (hended : item'.state.isTerminal = false → item'.terminalTs = none)
    (hleases : ∀ id ∈ b'.leases.ids, id ∈ b.leases.ids ∨ id.profileId ≠ "") :
    Clean b' where
  named := fun id hid => (hleases id hid).elim (h.named id) (fun hne => hne)
  unended := by
    intro key1 item1 hfind1
    rw [items, find?_put] at hfind1
    split at hfind1
    · cases hfind1
      exact hended
    · exact h.unended key1 item1 hfind1

theorem mem_of_perm_filter {q : LeaseId → Bool}
    (leases : b'.leases.ids.Perm (b.leases.ids.filter q)) :
    ∀ id ∈ b'.leases.ids, id ∈ b.leases.ids ∨ id.profileId ≠ "" :=
  fun _ hid => .inl (mem_filter.mp (leases.subset hid)).1

theorem clean_transition (h : Clean b) (step : Transition b b') : Clean b' := by
  cases step with
  | world _ items leases =>
    exact ⟨fun id hid => h.named id (leases.subset hid), by rw [items]; exact h.unended⟩
  | publish _ _ _ _ _ _ _ _ _ unended items leases =>
    exact clean_put h items (fun _ => unended) (fun id hid => .inl (leases ▸ hid))
  | rewrite key item _ _ find step items leases =>
    refine clean_put h items ?_ (fun id hid => .inl (leases ▸ hid))
    cases step <;> exact h.unended key item find
  | claim key item _ _ _ _ _ find queued named items leases =>
    refine clean_put h items (fun _ => h.unended key item find ?_) (fun id hid => ?_)
    · simp [queued, ItemState.isTerminal]
    · rcases mem_cons.mp (leases.subset hid) with rfl | hold
      · exact .inr named
      · exact .inl hold
  | requeue key item _ _ _ _ find claimed _ _ items leases =>
    refine clean_put h items (fun _ => h.unended key item find ?_) (mem_of_perm_filter leases)
    simp [claimed, ItemState.isTerminal]
  | cancel _ _ _ _ _ _ items leases =>
    refine clean_put h items (fun hlive => ?_) (mem_of_perm_filter leases)
    simp [BatchItem.canceledAt, ItemState.isTerminal] at hlive
  | expire _ _ _ _ _ _ items leases =>
    refine clean_put h items (fun hlive => ?_) (fun id hid => .inl (leases ▸ hid))
    simp [BatchItem.expiredAt, ItemState.isTerminal] at hlive
  | pend key item _ find settleable items leases =>
    refine clean_put h items (fun _ => h.unended key item find ?_)
      (fun id hid => .inl (leases ▸ hid))
    simp only [ItemState.settleable, guard_iffs] at settleable
    rcases settleable with hstate | hstate <;> simp [hstate, ItemState.isTerminal]
  | settle _ _ _ _ _ _ _ _ terminal _ items leases =>
    refine clean_put h items (fun hlive => ?_) (mem_of_perm_filter leases)
    simp [BatchItem.settledAs, terminal] at hlive

theorem clean_dispatch (h : Clean b) {generation : Int}
    (hmark : Dispatch b b' key generation) : Clean b' := by
  obtain ⟨item, leaseUntil, ts, find, -, hstate, items, leases, -⟩ := hmark
  refine clean_put h items (fun _ => h.unended key item find ?_)
    (fun id hid => .inl (leases ▸ hid))
  rcases hstate with hstate | hstate <;> simp [hstate, ItemState.isTerminal]

theorem clean_exec (hsound : Sound b) (h : Clean b) (op : BatchOp) : Clean (b.exec op) := by
  have hsteps : ∀ {b1 b2 : Batch}, Clean b1 → Transitions b1 b2 → Clean b2 :=
    fun hclean steps => reflTransGen_invariant (I := Clean)
      (fun _ _ hc step => clean_transition hc step) hclean steps
  cases hmark : dispatchMark b op with
  | some => exact clean_dispatch h (exec_dispatch hmark)
  | none =>
    obtain ⟨b1, hloss, steps⟩ := exec_transitions hsound hmark
    rcases hloss with rfl | ⟨t, q, rfl, hperm⟩
    · exact hsteps h steps
    · have hlost : Clean { b with leases := t } :=
        ⟨fun id hid => h.named id (mem_filter.mp (hperm.subset hid)).1, h.unended⟩
      exact hsteps hlost steps

theorem clean_fresh (store : Store) : Clean (.fresh store) where
  named := fun _ hid => by cases hid
  unended := fun _ _ hfind => by cases hfind

theorem clean_run (store : Store) (ops : List BatchOp) :
    Clean (run Batch.exec (.fresh store) ops) := by
  have hinv : Sound (run Batch.exec (.fresh store) ops) ∧
      Clean (run Batch.exec (.fresh store) ops) :=
    run_invariant (I := fun b => Sound b ∧ Clean b)
      (fun b op hb => ⟨sound_exec hb.1 op, clean_exec hb.1 hb.2 op⟩)
      ⟨sound_fresh store, clean_fresh store⟩ ops
  exact hinv.2

end Clean

/-! ## Candidates -/

/-- The expired claim behind a candidate of the reconciliation of `b` at
`ts`: in `b'` it is as it was. -/
structure Stands (b b' : Batch) (ts : Int) (c : GeminiBatchRecoveryCandidate)
    (item : BatchItem) (job : BatchJob) (id : LeaseId) : Prop where
  find : b.items.find? c.item = some item
  stays : b'.items.find? c.item = some item
  state : item.state = .claimed ∨ item.state = .dispatching
  jobFind : b.jobs.find? c.jobId = some job
  dead : ownerLive b.store id.worker ts = false
  lease : item.lease? c.item = some id
  held : id ∈ b'.leases.ids
  candidate : c = recoveryCandidate ts c.item item job id.profileId

section Candidates

variable {b b' : Batch} {ts : Int}

theorem reconcileOne_cases {item : BatchItem} (hsound : Sound acc.2)
    (h : reconcileOne ts acc (key, item) = .ok acc') :
    acc' = acc ∨ (∃ w profileId job, item.worker = some w ∧
      item.selectedProfileId = some profileId ∧
      acc.2.jobs.find? key.1 = some job ∧ acc'.2 = acc.2 ∧
      ⟨profileId, key.1, key.2, w.owner, item.claimGeneration⟩ ∈ acc.2.leases.ids ∧
      acc'.1.recoveryCandidates = acc.1.recoveryCandidates
        ++ [recoveryCandidate ts key item job profileId]) ∨
    (acc'.1.recoveryCandidates = acc.1.recoveryCandidates ∧
      acc'.2.jobs = acc.2.jobs ∧ acc'.2.store = acc.2.store ∧
      (∀ key', key' ≠ key → acc'.2.items.find? key' = acc.2.items.find? key') ∧
      ∀ id ∈ acc.2.leases.ids, id.item ≠ key → id ∈ acc'.2.leases.ids) := by
  obtain ⟨report, b⟩ := acc
  simp only [reconcileOne] at h
  split at h
  · rename_i w profileId job hworker hprofile hjob
    split at h
    · cases h
      exact .inl rfl
    rename_i hlock
    rw [ne_eq, Decidable.not_not, lockGeminiBatchProfileLease_eq hsound.one] at hlock
    split at h
    · simp only [ok_steps] at h
      obtain ⟨b1, hset, ⟨deleted, leases⟩, hdelete, -, rfl⟩ := h
      obtain rfl := setItem_eq hset
      have hperm := (deleteLeases_ok hsound.one hdelete).2
      refine .inr (.inr ⟨rfl, rfl, rfl,
        fun key' hne => find?_put_ne _ _ (Ne.symm hne), fun id hid hne => ?_⟩)
      refine hperm.symm.subset (mem_filter.mpr ⟨hid, ?_⟩)
      simp only [guard_iffs, beq_eq_false_iff_ne]
      rintro rfl
      exact hne rfl
    · cases h
      refine .inr (.inl ⟨w, profileId, job, hworker, hprofile, hjob, rfl, ?_, rfl⟩)
      have hcount : 0 < b.leases.ids.count
          ⟨profileId, key.1, key.2, w.owner, item.claimGeneration⟩ :=
        hlock ▸ Nat.one_pos
      exact count_pos_iff.mp hcount
  · cases h
    exact .inl rfl

def Reported (b : Batch) (ts : Int) (rows : List ((String × Int) × BatchItem))
    (acc : GeminiBatchReconcileReport × Batch) : Prop :=
  acc.2.jobs = b.jobs ∧ acc.2.store = b.store ∧
    ∀ c ∈ acc.1.recoveryCandidates, (∀ x ∈ rows, c.item ≠ x.1) ∧
      ∃ item job id, Stands b acc.2 ts c item job id

theorem expiredClaim_facts {item : BatchItem}
    (h : expiredClaim b ts locked key item = true) :
    (item.state = .claimed ∨ item.state = .dispatching) ∧
      ∀ w, item.worker = some w → ownerLive b.store w.owner ts = false := by
  simp only [expiredClaim, guard_iffs] at h
  obtain ⟨⟨⟨⟨hstate, -⟩, -⟩, hworker⟩, -⟩ := h
  refine ⟨hstate, fun w hw => ?_⟩
  rw [hw] at hworker
  simp only [any_some, guard_iffs] at hworker
  exact hworker.2

theorem reported_step {item : BatchItem} {rest : List ((String × Int) × BatchItem)}
    (hsound : Sound acc.2) (hfind : b.items.find? key = some item)
    (hstays : acc.2.items.find? key = some item)
    (hexpired : expiredClaim b ts locked key item = true) (hkey : key ∉ rest.map Prod.fst)
    (h : Reported b ts ((key, item) :: rest) acc)
    (hstep : reconcileOne ts acc (key, item) = .ok acc') : Reported b ts rest acc' := by
  obtain ⟨hjobs, hstore, hall⟩ := h
  have hold : ∀ c ∈ acc.1.recoveryCandidates, (∀ x ∈ rest, c.item ≠ x.1) ∧
      c.item ≠ key ∧ ∃ item job id, Stands b acc.2 ts c item job id := by
    intro c hc
    obtain ⟨hrows, hstands⟩ := hall c hc
    exact ⟨fun x hx => hrows x (mem_cons_of_mem _ hx), hrows _ (mem_cons_self ..), hstands⟩
  rcases reconcileOne_cases hsound hstep with rfl |
    ⟨w, profileId, job, hworker, hprofile, hjob, hsame, hheld, hcandidates⟩ |
    ⟨hcandidates, hjobs', hstore', hitems, hleases⟩
  · exact ⟨hjobs, hstore, fun c hc => ⟨(hold c hc).1, (hold c hc).2.2⟩⟩
  · -- the new candidate
    refine ⟨by rw [hsame, hjobs], by rw [hsame, hstore], fun c hc => ?_⟩
    rw [hcandidates, mem_append, mem_singleton] at hc
    rcases hc with hc | rfl
    · rw [hsame]
      exact ⟨(hold c hc).1, (hold c hc).2.2⟩
    · obtain ⟨hstate, hdead⟩ := expiredClaim_facts hexpired
      refine ⟨fun x hx heq => hkey ?_, item, job,
        ⟨profileId, key.1, key.2, w.owner, item.claimGeneration⟩,
        hfind, by rw [hsame]; exact hstays, hstate, hjobs ▸ hjob, hdead w hworker, ?_,
        by rw [hsame]; exact hheld, rfl⟩
      · exact mem_map.mpr ⟨x, hx, heq.symm⟩
      · simp only [BatchItem.lease?, hprofile, hworker]
        rfl
  · -- another item is requeued
    refine ⟨hjobs'.trans hjobs, hstore'.trans hstore, fun c hc => ?_⟩
    rw [hcandidates] at hc
    obtain ⟨hrest, hne, found, job, id, hstands⟩ := hold c hc
    refine ⟨hrest, found, job, id, { hstands with stays := ?_, held := ?_ }⟩
    · rw [hitems _ hne]
      exact hstands.stays
    · exact hleases id hstands.held (lease?_item hstands.lease ▸ hne)

theorem reported_fold {rows : List ((String × Int) × BatchItem)}
    (hkeys : (rows.map Prod.fst).Nodup) (hrows : ∀ x ∈ rows, b.items.find? x.1 = some x.2 ∧
      expiredClaim b ts locked x.1 x.2 = true)
    (hfind : ∀ x ∈ rows, acc.2.items.find? x.1 = some x.2) (hsound : Sound acc.2)
    (h : Reported b ts rows acc) (hfold : rows.foldlM (reconcileOne ts) acc = .ok acc') :
    Reported b ts [] acc' := by
  induction rows generalizing acc with
  | nil =>
    cases hfold
    exact h
  | cons x _ ih =>
    obtain ⟨key, item⟩ := x
    rw [map_cons, nodup_cons] at hkeys
    simp only [foldlM_cons, bind_eq_ok] at hfold
    obtain ⟨acc1, hstep, hrest⟩ := hfold
    have hrow := hrows _ (mem_cons_self ..)
    have hhere := hfind _ (mem_cons_self ..)
    obtain ⟨hsteps, hother⟩ := reconcileOne_transition hsound hhere hstep
    refine ih hkeys.2 (fun y hy => hrows y (mem_cons_of_mem _ hy))
      (fun y hy => ?_) (sound_transitions hsound hsteps)
      (reported_step hsound hrow.1 hhere hrow.2 hkeys.1 h hstep) hrest
    have hne : y.1 ≠ key := fun heq => hkeys.1 (mem_map.mpr ⟨y, hy, heq⟩)
    rw [hother y.1 hne]
    exact hfind y (mem_cons_of_mem _ hy)

theorem reconcile_stands (hsound : Sound b) {limit : Nat}
    {report : GeminiBatchReconcileReport}
    (h : reconcileExpiredGeminiBatchClaims b ts locked limit = .ok (report, b')) :
    b'.jobs = b.jobs ∧ b'.store = b.store ∧ ∀ c ∈ report.recoveryCandidates,
      ∃ item job id, Stands b b' ts c item job id := by
  have hreported : Reported b ts [] (report, b') :=
    reported_fold (nodup_select ..) (fun x hx => mem_select hx)
      (fun x hx => (mem_select hx).1) hsound
      ⟨rfl, rfl, fun c hc => by cases hc⟩ h
  exact ⟨hreported.1, hreported.2.1, fun c hc => (hreported.2.2 c hc).2⟩

end Candidates

/-! ## The money of a settlement without a hold -/

/-- The range of a `bigint` column. -/
def Fits (x : Int) : Prop := -9223372036854775808 ≤ x ∧ x ≤ 9223372036854775807

instance (x : Int) : Decidable (Fits x) := inferInstanceAs (Decidable (_ ∧ _))

structure CanPay (a : Account) (actual : Int) : Prop where
  balance : Fits (a.balanceNano - actual)
  spent : Fits (a.spentNano + actual)
  floor : 0 < actual →
    min a.balanceNano (-accountOverdraftNano) ≤ a.balanceNano - actual

def spendableKeys (s : Store) (accountId keyId : String) : List (String × ApiKey) :=
  s.apiKeys.rows.filter (fun x =>
    ownKey accountId keyId x.1 x.2 && decide (0 ≤ x.2.reservedNano))

/-- Every row that the charge writes can be written. -/
structure Bookable (s : Store) (accountId keyId requestId : String)
    (actual : Int) : Prop where
  account : ∃ a, s.accounts.find? accountId = some a ∧ CanPay a actual
  spent : ∀ x ∈ spendableKeys s accountId keyId,
    x.2.spentNano + actual ≤ 9223372036854775807
  key : (spendableKeys s accountId keyId).length = 1 ∨
    s.apiKeys.any (fun _ k => k.keyId == keyId) = false
  uncharged : charged s requestId = false

section Money

variable {s : Store} {accountId keyId requestId : String} {actual : Int}

theorem bigint_iff {x : Int} : (∃ y, bigint x = .ok y) ↔ Fits x := by
  unfold bigint Fits
  split
  · rename_i hfits
    exact ⟨fun _ => hfits, fun _ => ⟨x, rfl⟩⟩
  · rename_i hfits
    constructor
    · rintro ⟨y, h⟩
      cases h
    · exact fun h => absurd h hfits

theorem settlementFloorFence_iff {a : Account} {balance spent : Int}
    (hbalance : balance = a.balanceNano - actual) (hspent : spent = a.spentNano + actual) :
    settlementFloorFence a { a with balanceNano := balance, spentNano := spent }
      = .ok () ↔ (0 < actual →
        min a.balanceNano (-accountOverdraftNano) ≤ a.balanceNano - actual) := by
  subst hbalance hspent
  simp only [settlementFloorFence, failIf_eq_ok, Bool.and_eq_false_iff, guard_iffs]
  constructor
  · rintro h hpos
    rcases h with h | h
    · omega
    · split at h <;> omega
  · intro h
    by_cases hpos : 0 < actual
    · have hfloor := h hpos
      right
      split <;> omega
    · left
      omega

theorem collectAccountSettlementTx_iff :
    (∃ r, collectAccountSettlementTx s accountId 0 actual = .ok r) ↔
      ∃ a, s.accounts.find? accountId = some a ∧ CanPay a actual := by
  simp only [collectAccountSettlementTx, collectAccount, ok_steps, if_true]
  constructor
  · rintro ⟨r, a, hfind, balance, hbalance, spent, hspent, hfence, -⟩
    have heq := bigint_eq_ok hbalance
    have heq' := bigint_eq_ok hspent
    exact ⟨a, hfind, bigint_iff.mp ⟨balance, hbalance⟩, bigint_iff.mp ⟨spent, hspent⟩,
      (settlementFloorFence_iff heq heq').mp hfence⟩
  · rintro ⟨a, hfind, hpay⟩
    obtain ⟨balance, hbalance⟩ := bigint_iff.mpr hpay.balance
    obtain ⟨spent, hspent⟩ := bigint_iff.mpr hpay.spent
    exact ⟨_, a, hfind, balance, hbalance, spent, hspent,
      (settlementFloorFence_iff (bigint_eq_ok hbalance) (bigint_eq_ok hspent)).mpr
        hpay.floor, rfl⟩

theorem settleBatchKey_iff :
    (∃ s', settleBatchKey s accountId keyId 0 actual = .ok s') ↔
      (∀ x ∈ spendableKeys s accountId keyId, x.2.spentNano + actual ≤ 9223372036854775807) ∧
      ((spendableKeys s accountId keyId).length = 1 ∨
        s.apiKeys.any (fun _ k => k.keyId == keyId) = false) := by
  simp only [settleBatchKey, ok_steps, bailIf_eq_ok, List.any_eq_false, guard_iffs, not_lt,
    Bool.and_eq_false_iff, spendableKeys]
  exact ⟨fun h => ⟨h.choose_spec.1, h.choose_spec.2.1⟩, fun h => ⟨_, h.1, h.2, rfl⟩⟩

theorem settleBatchKey_ledger {hold : Int} {s' : Store}
    (h : settleBatchKey s accountId keyId hold actual = .ok s') : s'.ledger = s.ledger := by
  simp only [settleBatchKey, ok_steps] at h
  obtain ⟨-, -, rfl⟩ := h
  rfl

theorem bookSettlement_iff {ts : Int} {row : SettlementRow} {item : BatchItem}
    {job : BatchJob} (hhold : item.holdNano = 0) :
    (∃ r, bookSettlement s ts requestId row item job = .ok r) ↔
      Bookable s job.accountId item.creatorKeyId requestId row.actualNano := by
  simp only [bookSettlement, bind_eq_ok, hhold]
  constructor
  · rintro ⟨r, collection, hcollect, s', hkey, hrest⟩
    have hcharged : charged s' requestId = false := by
      split at hrest <;> simp only [ok_steps, bailIf_eq_ok] at hrest <;> exact hrest.1
    rw [charged, settleBatchKey_ledger hkey] at hcharged
    obtain ⟨hspent, hready⟩ := settleBatchKey_iff.mp ⟨s', hkey⟩
    exact ⟨collectAccountSettlementTx_iff.mp ⟨collection, hcollect⟩, hspent, hready, hcharged⟩
  · intro h
    obtain ⟨collection, hcollect⟩ := collectAccountSettlementTx_iff.mpr h.account
    obtain ⟨s', hkey⟩ := (settleBatchKey_iff
      (s := { s with accounts := s.accounts.put job.accountId collection.account })).mpr
      ⟨h.spent, h.key⟩
    have hcharged : charged s' requestId = false := by
      rw [charged, settleBatchKey_ledger hkey]
      exact h.uncharged
    by_cases hpos : 0 < row.actualNano
    · exact ⟨_, collection, hcollect, s', hkey, by
        rw [if_pos hpos, hcharged]
        rfl⟩
    · exact ⟨_, collection, hcollect, s', hkey, by
        rw [if_neg hpos, hcharged]
        rfl⟩

end Money

/-! ## Enqueueing the settlement of a candidate -/

structure Answers (intent : GeminiBatchSettlementIntent)
    (c : GeminiBatchRecoveryCandidate) : Prop where
  jobId : intent.jobId = c.jobId
  itemIndex : intent.itemIndex = c.itemIndex
  requestId : intent.requestId = c.requestId
  claimGeneration : intent.claimGeneration = c.claimGeneration
  disposition : intent.disposition = c.disposition
  terminalState : intent.terminalState = c.terminalState
  terminalClass : intent.terminalClass = c.terminalClass
  valid : intent.validate = .ok ()

theorem Answers.item {intent : GeminiBatchSettlementIntent}
    {c : GeminiBatchRecoveryCandidate} (h : Answers intent c) : intent.item = c.item := by
  rw [GeminiBatchSettlementIntent.item, h.jobId, h.itemIndex]
  rfl

def Batch.pended (b : Batch) (intent : GeminiBatchSettlementIntent)
    (item : BatchItem) : Batch :=
  { b with
    blobs := b.blobs.put (intent.jobId, intent.itemIndex, intent.resultBlob.kind)
      { blob := intent.resultBlob, createdTs := intent.completedTs }
    outbox := b.outbox.put intent.requestId intent.row
    items := b.items.put intent.item
      { item with
        state := .settlementPending, settlementId := some intent.requestId
        updatedTs := intent.completedTs } }

section Enqueue

variable {b : Batch} {c : GeminiBatchRecoveryCandidate}
  {intent : GeminiBatchSettlementIntent} {item : BatchItem} {id : LeaseId} {now : Int}

theorem enqueueRecovery_settleable {b' : Batch} (hanswers : Answers intent c)
    (find : b.items.find? c.item = some item)
    (h : enqueueGeminiBatchRecoverySettlement b now c intent = .ok b') :
    item.state.settleable = true := by
  simp only [enqueueGeminiBatchRecoverySettlement, enqueueGeminiBatchSettlementInner, ok_steps,
    bailIf_eq_ok, hanswers.item] at h
  obtain ⟨-, -, -, -, found, hfound, w, -, -, hfence, -⟩ := h
  obtain ⟨hfind, -⟩ := filter_eq_some_iff.mp hfound
  rw [find] at hfind
  cases hfind
  simp only [guard_iffs] at hfence
  exact hfence.2

theorem storeBlob_dispatching (hsound : Sound b) (hanswers : Answers intent c)
    (find : b.items.find? c.item = some item) (hstate : item.state = .dispatching)
    (hkind : intent.resultBlob.kind = .result ∨ intent.resultBlob.kind = .error) :
    storeBlob b intent = .ok { b with
      blobs := b.blobs.put (intent.jobId, intent.itemIndex, intent.resultBlob.kind)
        { blob := intent.resultBlob, createdTs := intent.completedTs } } := by
  have hnone : b.blobs.find? (intent.jobId, intent.itemIndex, intent.resultBlob.kind)
      = none := by
    by_contra hsome
    obtain ⟨found, hfind, hsettles⟩ := hsound.outputs intent.jobId intent.itemIndex _
      hkind (isSome_iff_ne_none.mpr hsome)
    rw [show (intent.jobId, intent.itemIndex) = c.item from hanswers.item, find] at hfind
    cases hfind
    rcases hsettles with hs | hs <;> simp [hstate, ItemState.isTerminal] at hs
  simp only [storeBlob, hnone]

theorem no_settlement_dispatching (hsound : Sound b) (hanswers : Answers intent c)
    (find : b.items.find? c.item = some item)
    (hrequest : item.requestId = c.requestId) (hstate : item.state = .dispatching) :
    b.outbox.find? intent.requestId = none ∧
      b.outbox.any (fun _ row => row.jobId == intent.jobId
        && row.itemIndex == intent.itemIndex) = false := by
  -- a settlement of the request or of the item would be one of this item
  have hnot : ∀ key row, b.outbox.find? key = some row →
      key ≠ intent.requestId ∧ (row.jobId, row.itemIndex) ≠ intent.item := by
    intro key row hrow
    obtain ⟨-, found, hfind, rfl, hsettles⟩ := hsound.settling key row hrow
    have hne : (row.jobId, row.itemIndex) ≠ c.item := by
      intro heq
      rw [heq, find] at hfind
      cases hfind
      rcases hsettles with hs | hs <;> simp [hstate, ItemState.isTerminal] at hs
    refine ⟨fun heq => hne ?_, by rw [hanswers.item]; exact hne⟩
    exact hsound.unique _ found _ item hfind find (by rw [heq, hrequest, hanswers.requestId])
  constructor
  · cases hfind : b.outbox.find? intent.requestId with
    | none => rfl
    | some row => exact absurd rfl (hnot _ row hfind).1
  · rw [any_eq_false_iff]
    intro key row hrow
    have hne := (hnot key row hrow).2
    simpa [GeminiBatchSettlementIntent.item] using hne

theorem storeIntent_new (hnone : b.outbox.find? intent.requestId = none)
    (hany : b.outbox.any (fun _ row => row.jobId == intent.jobId
      && row.itemIndex == intent.itemIndex) = false) :
    storeIntent b intent = .ok { b with outbox := b.outbox.put intent.requestId intent.row } := by
  simp only [storeIntent, hnone, hany, failIf, bind, Except.bind, pure, Except.pure, if_bool]

theorem validate_blob_kind (h : intent.validate = .ok ()) :
    intent.resultBlob.kind = .result ∨ intent.resultBlob.kind = .error := by
  simp only [GeminiBatchSettlementIntent.validate, ok_steps, bailIf_eq_ok, guard_iffs] at h
  obtain ⟨-, -, ⟨⟨⟨⟨-, hkind⟩, -⟩, -⟩, -⟩, -⟩ := h
  rw [hkind]
  cases intent.disposition <;> simp [Disposition.shape]

theorem setItem_ok (hupdated : item.createdTs ≤ item.updatedTs)
    (hended : ∀ t, item.terminalTs = some t → item.createdTs ≤ t) :
    b.setItem key item = .ok { b with items := b.items.put key item } := by
  have hchecked : item.terminalTs.any (decide <| · < item.createdTs) = false := by
    cases hts : item.terminalTs with
    | none => rfl
    | some t =>
      have hle := hended t hts
      simpa using hle
  have hlate : ¬ item.updatedTs < item.createdTs := by omega
  simp only [Batch.setItem, hchecked, hlate, decide_false, Bool.or_self, failIf, bind,
    Except.bind, pure, Except.pure, if_bool]

theorem enqueueRecovery_ok (hsound : Sound b) (hclean : Clean b)
    (hanswers : Answers intent c) (find : b.items.find? c.item = some item)
    (hrequest : item.requestId = c.requestId)
    (hgeneration : item.claimGeneration = c.claimGeneration)
    (lease : item.lease? c.item = some id) (hprofile : id.profileId = c.profileId)
    (held : id ∈ b.leases.ids) (hdead : ownerLive b.store id.worker now = false)
    (hstate : item.state = .dispatching) (hcreated : item.createdTs ≤ intent.completedTs) :
    enqueueGeminiBatchRecoverySettlement b now c intent = .ok (b.pended intent item) := by
  obtain ⟨hselected, ⟨w, hworker, howner⟩, hleaseGen, hkey⟩ := lease?_fields lease
  have hnamed : c.profileId ≠ "" := hprofile ▸ hclean.named id held
  have hfound : (b.items.find? intent.item).filter (·.requestId == intent.requestId)
      = some item := by
    rw [hanswers.item, find]
    simp [hrequest, hanswers.requestId]
  have hlock : lockGeminiBatchProfileLease b.leases
      { jobId := c.jobId, accountId := c.accountId, itemIndex := c.itemIndex
        requestId := c.requestId, claimGeneration := c.claimGeneration
        leaseUntil := 0, profileId := c.profileId } w.owner = 1 := by
    have hid : GeminiBatchClaim.lease
        { jobId := c.jobId, accountId := c.accountId, itemIndex := c.itemIndex
          requestId := c.requestId, claimGeneration := c.claimGeneration
          leaseUntil := 0, profileId := c.profileId } w.owner = id := by
      have hitem : (id.jobId, id.itemIndex) = (c.jobId, c.itemIndex) := hkey
      rw [Prod.mk.injEq] at hitem
      rw [GeminiBatchClaim.lease, ← hprofile, ← hitem.1, ← hitem.2, howner,
        ← hgeneration, hleaseGen]
    rw [lockGeminiBatchProfileLease_eq hsound.one, hid]
    exact List.count_eq_one_of_mem (ids_nodup hsound.one) held
  simp only [enqueueGeminiBatchRecoverySettlement, enqueueGeminiBatchSettlementInner, ok_steps,
    bailIf_eq_ok]
  refine ⟨?_, hanswers.valid, ?_, rfl, item, hfound, w, hworker, ?_, ?_, ?_, _,
    storeBlob_dispatching hsound hanswers find hstate (validate_blob_kind hanswers.valid), ?_⟩
  · simp [hanswers.jobId, hanswers.itemIndex, hanswers.requestId,
      hanswers.claimGeneration, hanswers.disposition, hanswers.terminalState,
      hanswers.terminalClass, hnamed]
  · simp [hanswers.jobId, hanswers.itemIndex, hanswers.requestId, hanswers.claimGeneration]
  · simp [checkSettlementOwner, howner, hdead]
  · simp [hgeneration, hanswers.claimGeneration, hselected, hprofile, hstate,
      ItemState.settleable]
  · simp [hlock]
  · obtain ⟨hnone, hany⟩ :=
      no_settlement_dispatching hsound hanswers find hrequest hstate
    refine ⟨_, storeIntent_new hnone hany, ?_⟩
    have hended : item.terminalTs = none :=
      hclean.unended c.item item find (by simp [hstate, ItemState.isTerminal])
    exact setItem_ok hcreated (fun t ht => by rw [hended] at ht; cases ht)

end Enqueue

/-! ## Applying it -/

/-- An unmeasured settlement that waits to be applied at `ts`. -/
structure Waiting (b : Batch) (ts : Int) (requestId : String) (row : SettlementRow)
    (item : BatchItem) (job : BatchJob) (id : LeaseId) : Prop where
  rowFind : b.outbox.find? requestId = some row
  pending : row.state = .pending
  unmeasured : row.disposition ≠ .settle
  failed : row.terminalState ≠ .succeeded
  usage : row.usage = none
  calibration : row.calibration = none
  itemFind : b.items.find? (row.jobId, row.itemIndex) = some item
  request : item.requestId = requestId
  state : item.state = .settlementPending
  settlementId : item.settlementId = some requestId
  lease : item.lease? (row.jobId, row.itemIndex) = some id
  held : id ∈ b.leases.ids
  jobFind : b.jobs.find? row.jobId = some job
  itemCreated : item.createdTs ≤ ts
  rowCreated : row.createdTs ≤ ts
  jobCreated : job.createTs ≤ ts

section Process

variable {b : Batch} {ts : Int}

theorem setJob_ok {job : BatchJob} (hchecked : job.checked = true) :
    b.setJob jobId job = .ok { b with jobs := b.jobs.put jobId job } := by
  simp only [Batch.setJob, hchecked, Bool.not_true, failIf, bind, Except.bind, pure,
    Except.pure, if_bool]

theorem completeJobIfTerminal_ok {job : BatchJob} (hfind : b.jobs.find? jobId = some job)
    (hchecked : job.checked = true) (hcreated : job.createTs ≤ ts) :
    ∃ b', completeJobIfTerminal b jobId ts = .ok b' ∧ b'.items = b.items := by
  simp only [BatchJob.checked, guard_iffs] at hchecked
  obtain ⟨⟨⟨⟨hupdate, hcancel⟩, hterminal⟩, hcompleted⟩, hdelete⟩ := hchecked
  have hgetD : ∀ o : Option Int, o.all (decide <| job.createTs ≤ ·) = true →
      job.createTs ≤ o.getD ts := by
    intro o ho
    cases o with
    | none => exact hcreated
    | some => simpa using ho
  unfold completeJobIfTerminal
  rw [hfind]
  simp only
  split
  · exact ⟨b, rfl, rfl⟩
  split
  · rw [setJob_ok]
    · exact ⟨_, rfl, rfl⟩
    · have hmax : job.createTs ≤ max job.updateTs ts := by omega
      simp [BatchJob.checked, hmax, hcancel, hdelete, hgetD _ hterminal, hgetD _ hcompleted]
  · split
    · exact ⟨b, rfl, rfl⟩
    · rw [setJob_ok]
      · exact ⟨_, rfl, rfl⟩
      · have hmax : job.createTs ≤ max job.updateTs ts := by omega
        simp [BatchJob.checked, hmax, hcancel, hdelete, hcreated, hcompleted]

variable {requestId : String} {row : SettlementRow} {item : BatchItem}
  {job : BatchJob} {id : LeaseId}

theorem terminalize_ok (hsound : Sound b) (h : Waiting b ts requestId row item job id) :
    ∃ b', terminalize b ts requestId row item job = .ok b' ∧
      b'.items.find? (row.jobId, row.itemIndex) = some (item.settledAs row ts) := by
  obtain ⟨hprofile, ⟨w, hworker, howner⟩, hgeneration, hkey⟩ := lease?_fields h.lease
  have hset : b.setItem (row.jobId, row.itemIndex) (item.settledAs row ts)
      = .ok { b with
          items := b.items.put (row.jobId, row.itemIndex) (item.settledAs row ts) } :=
    setItem_ok h.itemCreated (fun t ht => by cases ht; exact h.itemCreated)
  have hid : GeminiBatchClaim.lease
      { jobId := row.jobId, accountId := job.accountId, itemIndex := row.itemIndex
        requestId, claimGeneration := item.claimGeneration, leaseUntil := 0
        profileId := id.profileId } w.owner = id := by
    have hitem : (id.jobId, id.itemIndex) = (row.jobId, row.itemIndex) := hkey
    rw [Prod.mk.injEq] at hitem
    rw [GeminiBatchClaim.lease, ← hitem.1, ← hitem.2, howner, hgeneration]
  obtain ⟨t, hdelete, -⟩ := deleteLeases_spec hsound.one (fun x => x == id)
  have hcount : b.leases.ids.countP (fun x => x == id) = 1 :=
    List.count_eq_one_of_mem (ids_nodup hsound.one) h.held
  obtain ⟨b', hcomplete, hitems⟩ := completeJobIfTerminal_ok (b := { b with
      items := b.items.put (row.jobId, row.itemIndex) (item.settledAs row ts)
      leases := t
      outbox := b.outbox.put requestId
        { row with state := .done, committedTs := some ts, updatedTs := ts } })
    h.jobFind (hsound.jobs _ job h.jobFind) h.jobCreated
  refine ⟨b', ?_, by rw [hitems, find?_put_self]⟩
  simp only [terminalize, ok_steps, bailIf_eq_ok]
  refine ⟨by simp [h.state, h.settlementId], _, hset, id.profileId, hprofile, w,
    hworker, (1, t), ?_, rfl, ?_, hcomplete⟩
  · rw [deleteGeminiBatchProfileLease, hid, hdelete, hcount]
  · have hlate := h.rowCreated
    simpa using hlate

theorem process_iff (hsound : Sound b) (h : Waiting b ts requestId row item job id) :
    (∃ balance b' item', processGeminiBatchSettlement b ts requestId
        = .ok (some balance, b') ∧
      b'.items.find? (row.jobId, row.itemIndex) = some item' ∧
      item'.state.isTerminal = true) ↔
    Bookable b.store job.accountId item.creatorKeyId requestId row.actualNano := by
  have hhold := hsound.holds _ item h.itemFind
  have hfound : (b.items.find? (row.jobId, row.itemIndex)).filter
      (·.requestId == requestId) = some item := by
    rw [h.itemFind]
    simp [h.request]
  have hmeasured : row.measured = false := by simp [SettlementRow.measured, h.unmeasured]
  have hevidence : checkEvidence row item job = .ok () := by
    simp [checkEvidence, SettlementRow.shapeOk, hmeasured, h.failed, h.usage, h.calibration]
  simp only [processGeminiBatchSettlement, h.rowFind, hfound, h.jobFind, h.pending,
    reduceCtorEq, if_false, ok_steps, bailIf_eq_ok, hevidence, recordEvidence, hmeasured,
    Bool.false_eq_true]
  constructor
  · rintro ⟨balance, b', item', ⟨-, -, booked, hbooked, -⟩, -⟩
    exact (bookSettlement_iff hhold).mp ⟨booked, hbooked⟩
  · intro hbookable
    obtain ⟨booked, hbooked⟩ := (bookSettlement_iff hhold).mpr hbookable
    have hworld : Sound { b with store := booked.2 } :=
      sound_transition hsound (store_transition b booked.2)
    obtain ⟨b', hterminal, hfind⟩ := terminalize_ok hworld
      (b := { b with store := booked.2 }) { h with }
    exact ⟨_, b', _, ⟨rfl, trivial, booked, hbooked, _, rfl, b', hterminal, rfl, rfl⟩,
      hfind, (hsound.settling requestId row h.rowFind).1⟩

end Process

/-! ## What becomes of a candidate -/

/-- The clock goes forward, from the rows' creation and the reconciliation at
`ts` over the enqueue at `now` to the settlement at `settled`. -/
structure InOrder (b : Batch) (c : GeminiBatchRecoveryCandidate)
    (intent : GeminiBatchSettlementIntent) (ts now settled : Int) : Prop where
  enqueued : ts ≤ now
  item : ∀ item, b.items.find? c.item = some item →
    item.createdTs ≤ intent.completedTs
  job : ∀ job, b.jobs.find? c.jobId = some job → job.createTs ≤ settled
  settled : intent.completedTs ≤ settled

def Consumed (b : Batch) (c : GeminiBatchRecoveryCandidate)
    (intent : GeminiBatchSettlementIntent) (now settled : Int) : Prop :=
  ∃ b₁, enqueueGeminiBatchRecoverySettlement b now c intent = .ok b₁ ∧
    ∃ balance b₂ item, processGeminiBatchSettlement b₁ settled c.requestId
        = .ok (some balance, b₂) ∧
      b₂.items.find? c.item = some item ∧ item.state.isTerminal = true

section Consumed

variable {b b' : Batch} {ts : Int} {c : GeminiBatchRecoveryCandidate}
  {intent : GeminiBatchSettlementIntent} {item : BatchItem} {job : BatchJob}
  {id : LeaseId}

theorem ownerLive_later {s : Store} {owner : Owner} {now : Int}
    (h : ownerLive s owner ts = false) (hle : ts ≤ now) :
    ownerLive s owner now = false := by
  unfold ownerLive at h ⊢
  cases hfind : s.engineInstances.find? owner.instanceId with
  | none => rfl
  | some =>
    rw [hfind] at h
    simp only [any_some, Bool.and_eq_false_iff, guard_iffs, not_le] at h ⊢
    rcases h with hepoch | hlate
    · exact .inl hepoch
    · exact .inr (by omega)

theorem recoveryDisposition_ne_settle (expired canceled : Bool) :
    (recoveryDisposition expired canceled).1 ≠ .settle := by
  unfold recoveryDisposition
  split
  · simp
  · split <;> simp

theorem Stands.facts (h : Stands b b' ts c item job id) :
    item.requestId = c.requestId ∧ item.claimGeneration = c.claimGeneration ∧
      id.profileId = c.profileId ∧ job.accountId = c.accountId ∧
      c.disposition ≠ .settle ∧ c.terminalState ≠ .succeeded := by
  have hc := h.candidate
  refine ⟨(congrArg (·.requestId) hc).symm, (congrArg (·.claimGeneration) hc).symm,
    (congrArg (·.profileId) hc).symm, (congrArg (·.accountId) hc).symm, ?_, ?_⟩
  · rw [hc]
    exact recoveryDisposition_ne_settle _ _
  · rw [hc]
    simp only [recoveryCandidate]
    split <;> simp

theorem validate_unmeasured (h : intent.validate = .ok ())
    (hne : intent.disposition ≠ .settle) :
    intent.usage = none ∧ intent.calibration = none := by
  simp only [GeminiBatchSettlementIntent.validate, ok_steps, bailIf_eq_ok, guard_iffs] at h
  obtain ⟨-, -, ⟨⟨⟨-, husage⟩, hcalibration⟩, -⟩, -⟩ := h
  have hshape : intent.disposition.shape.2.2.2 = false := by
    cases hd : intent.disposition with
    | settle => exact absurd hd hne
    | _ => rfl
  rw [hshape] at husage hcalibration
  exact ⟨by simpa using husage.symm, by simpa using hcalibration.symm⟩

theorem waiting_pended {now settled : Int} (hanswers : Answers intent c)
    (hstands : Stands b b' ts c item job id) (hjobs : b'.jobs = b.jobs)
    (horder : InOrder b c intent ts now settled) :
    Waiting (b'.pended intent item) settled c.requestId intent.row
      { item with
        state := .settlementPending, settlementId := some intent.requestId
        updatedTs := intent.completedTs } job id := by
  obtain ⟨hrequest, -, -, -, hdisposition, hfailed⟩ := hstands.facts
  have hne : intent.disposition ≠ .settle := hanswers.disposition ▸ hdisposition
  obtain ⟨husage, hcalibration⟩ := validate_unmeasured hanswers.valid hne
  have hkey : (intent.row.jobId, intent.row.itemIndex) = c.item := hanswers.item
  have hcreated := horder.item item hstands.find
  exact
    { rowFind := by
        rw [← hanswers.requestId]
        exact find?_put_self ..
      pending := rfl
      unmeasured := hne
      failed := by
        show intent.terminalState ≠ .succeeded
        rw [hanswers.terminalState]
        exact hfailed
      usage := husage
      calibration := hcalibration
      itemFind := by
        rw [hkey, ← hanswers.item]
        exact find?_put_self ..
      request := hrequest
      state := rfl
      settlementId := by rw [hanswers.requestId]
      lease := by
        rw [hkey]
        exact hstands.lease
      held := hstands.held
      jobFind := by
        show b'.jobs.find? intent.jobId = some job
        rw [hjobs, hanswers.jobId, hstands.jobFind]
      itemCreated := Int.le_trans hcreated horder.settled
      rowCreated := horder.settled
      jobCreated := horder.job job hstands.jobFind }

end Consumed

/-- After every run, a candidate of a reconciliation is consumed exactly when
its item is dispatching and the money of its settlement can be booked. -/
theorem candidate_consumed_iff (store : Store) (ops : List BatchOp) (ts : Int)
    (locked : List (String × Int)) (limit : Nat) (report : GeminiBatchReconcileReport)
    (b' : Batch) (c : GeminiBatchRecoveryCandidate)
    (intent : GeminiBatchSettlementIntent) (now settled : Int)
    (hreport : reconcileExpiredGeminiBatchClaims
      (run Batch.exec (.fresh store) ops) ts locked limit = .ok (report, b'))
    (hc : c ∈ report.recoveryCandidates) (hanswers : Answers intent c)
    (horder : InOrder (run Batch.exec (.fresh store) ops) c intent ts now settled) :
    ∃ item, (run Batch.exec (.fresh store) ops).items.find? c.item = some item ∧
      (Consumed b' c intent now settled ↔
        item.state = .dispatching ∧
          Bookable (run Batch.exec (.fresh store) ops).store c.accountId
            item.creatorKeyId c.requestId intent.actualNano) := by
  have hsound := sound_run store ops
  have hsteps := reconcile_transition hsound hreport
  have hsound' := sound_transitions hsound hsteps
  have hclean' : Clean b' := reflTransGen_invariant (I := Clean)
    (fun _ _ hclean step => clean_transition hclean step) (clean_run store ops) hsteps
  obtain ⟨hjobs, hstore, hall⟩ := reconcile_stands hsound hreport
  obtain ⟨item, job, id, hstands⟩ := hall c hc
  obtain ⟨hrequest, hgeneration, hprofile, haccount, -, -⟩ := hstands.facts
  refine ⟨item, hstands.find, ?_⟩
  have hkey : (intent.row.jobId, intent.row.itemIndex) = c.item := hanswers.item
  rcases hstands.state with hstate | hstate
  · -- a claimed item is refused
    refine ⟨fun ⟨b₁, henqueue, _⟩ => ?_, fun ⟨hdispatching, _⟩ => ?_⟩
    · have hsettleable := enqueueRecovery_settleable hanswers hstands.stays henqueue
      simp [hstate, ItemState.settleable] at hsettleable
    · rw [hstate] at hdispatching
      cases hdispatching
  · have hdead : ownerLive b'.store id.worker now = false := by
      rw [hstore]
      exact ownerLive_later hstands.dead horder.enqueued
    have henqueue := enqueueRecovery_ok hsound' hclean' hanswers hstands.stays
      hrequest hgeneration hstands.lease hprofile hstands.held hdead hstate
      (horder.item item hstands.find)
    have hprocess := process_iff
      (sound_transitions hsound' (enqueueRecovery_transition henqueue))
      (waiting_pended hanswers hstands hjobs horder)
    rw [hkey, haccount] at hprocess
    have hmoney : (b'.pended intent item).store
        = (run Batch.exec (.fresh store) ops).store := hstore
    rw [hmoney] at hprocess
    constructor
    · rintro ⟨b₁, hb₁, hsettled⟩
      rw [henqueue] at hb₁
      cases hb₁
      exact ⟨hstate, hprocess.mp hsettled⟩
    · rintro ⟨-, hbookable⟩
      exact ⟨_, henqueue, hprocess.mpr hbookable⟩

def lostDispatch : GeminiBatchRecoveryCandidate :=
  { jobId := "job", accountId := "acct", itemIndex := 0, requestId := "req"
    claimGeneration := 1, profileId := "profile", holdNano := 0
    disposition := .indeterminate, terminalState := .indeterminate
    terminalClass := .indeterminate, actualSendEvidence := some .ambiguous }

def lostClaim : GeminiBatchRecoveryCandidate :=
  { lostDispatch with
    disposition := .expire, terminalState := .canceled, terminalClass := .expired
    actualSendEvidence := none }

def GeminiBatchRecoveryCandidate.intent (c : GeminiBatchRecoveryCandidate)
    (completedTs : Int) : GeminiBatchSettlementIntent :=
  { jobId := c.jobId, itemIndex := c.itemIndex, requestId := c.requestId
    claimGeneration := c.claimGeneration, disposition := c.disposition
    actualNano := 0, chargeBasisNano := 0, realNano := 0, usage := none
    resultBlob := sampleBlob .error, terminalState := c.terminalState
    terminalClass := c.terminalClass, calibration := none, completedTs }

def diedDispatching : List BatchOp :=
  sampleStart ++ [.markDispatching 102 ⟨"east", 1⟩ sampleClaim 60]

/-- Its item is settled as indeterminate. -/
theorem candidate_consumed_iff_dispatching : ∃ report b',
    reconcileExpiredGeminiBatchClaims (run Batch.exec (.fresh soloStore)
      diedDispatching) 200 [] 10 = .ok (report, b') ∧
    Consumed b' lostDispatch (lostDispatch.intent 200) 200 201 := by
  have hmap : (reconcileExpiredGeminiBatchClaims (run Batch.exec (.fresh soloStore)
      diedDispatching) 200 [] 10).map (·.1.recoveryCandidates)
      = .ok [lostDispatch] := by
    decide +kernel
  cases hreport : reconcileExpiredGeminiBatchClaims (run Batch.exec
      (.fresh soloStore) diedDispatching) 200 [] 10 with
  | error =>
    rw [hreport] at hmap
    cases hmap
  | ok answer =>
    obtain ⟨report, b'⟩ := answer
    rw [hreport] at hmap
    simp only [Except.map, Except.ok.injEq] at hmap
    have hitem : ((run Batch.exec (.fresh soloStore) diedDispatching).items.find?
        ("job", 0)).map (fun item => (item.state, item.creatorKeyId, item.createdTs))
        = some (.dispatching, "key-id", 100) := by
      decide +kernel
    have hjob : ((run Batch.exec (.fresh soloStore) diedDispatching).jobs.find?
        "job").map (·.createTs) = some 100 := by
      decide +kernel
    have hstore : (run Batch.exec (.fresh soloStore) diedDispatching).store
        = Registry.exec soloStore (.claimInstance 100 "east" 60) := by
      decide +kernel
    obtain ⟨found, hfound, hfacts⟩ := map_eq_some_iff.mp hitem
    simp only [Prod.mk.injEq] at hfacts
    obtain ⟨job, hfindJob, hcreated⟩ := map_eq_some_iff.mp hjob
    obtain ⟨item, hfind, hiff⟩ := candidate_consumed_iff soloStore diedDispatching
      200 [] 10 report b' lostDispatch (lostDispatch.intent 200) 200 201 hreport
      (by rw [hmap]; simp)
      ⟨rfl, rfl, rfl, rfl, rfl, rfl, rfl, by decide +kernel⟩
      { enqueued := by decide
        item := fun item hfind => by
          rw [show lostDispatch.item = ("job", 0) from rfl, hfound] at hfind
          cases hfind
          rw [hfacts.2.2]
          decide
        job := fun job' hfind => by
          rw [show lostDispatch.jobId = "job" from rfl, hfindJob] at hfind
          cases hfind
          rw [hcreated]
          decide
        settled := by decide }
    refine ⟨report, b', rfl, hiff.mpr ?_⟩
    rw [show lostDispatch.item = ("job", 0) from rfl, hfound] at hfind
    cases hfind
    refine ⟨hfacts.1, ?_⟩
    rw [hfacts.2.1, hstore]
    exact
      { account := ⟨_, rfl, ⟨by decide, by decide, fun h => absurd h (by decide)⟩⟩
        spent := by decide +kernel
        key := .inl (by decide +kernel)
        uncharged := by decide +kernel }

/-- The worker dies with its item claimed, and the deadline passes: the
candidate is reported, and its settlement is refused. -/
theorem expired_claim_refused : ∃ report b',
    reconcileExpiredGeminiBatchClaims (run Batch.exec (.fresh soloStore) sampleStart)
      2000 [] 10 = .ok (report, b') ∧
    lostClaim ∈ report.recoveryCandidates ∧
    Answers (lostClaim.intent 2000) lostClaim ∧
    (enqueueGeminiBatchRecoverySettlement b' 2000 lostClaim
      (lostClaim.intent 2000)).map (fun _ => ())
      = .error (.bail "Gemini Batch settlement fence is stale") ∧
    ¬ Consumed b' lostClaim (lostClaim.intent 2000) 2000 2001 := by
  have hrun : ((reconcileExpiredGeminiBatchClaims (run Batch.exec (.fresh soloStore)
      sampleStart) 2000 [] 10).map (fun answer =>
        (answer.1.recoveryCandidates, (enqueueGeminiBatchRecoverySettlement answer.2
          2000 lostClaim (lostClaim.intent 2000)).map (fun _ => ()))))
      = .ok ([lostClaim], .error (.bail "Gemini Batch settlement fence is stale")) := by
    decide +kernel
  cases hreport : reconcileExpiredGeminiBatchClaims (run Batch.exec
      (.fresh soloStore) sampleStart) 2000 [] 10 with
  | error =>
    rw [hreport] at hrun
    cases hrun
  | ok answer =>
    obtain ⟨report, b'⟩ := answer
    rw [hreport] at hrun
    simp only [Except.map, Except.ok.injEq, Prod.mk.injEq] at hrun
    refine ⟨report, b', rfl, by rw [hrun.1]; simp,
      ⟨rfl, rfl, rfl, rfl, rfl, rfl, rfl, by decide +kernel⟩, hrun.2, ?_⟩
    rintro ⟨b₁, henqueue, -⟩
    rw [henqueue] at hrun
    cases hrun.2

end ApiToken.Gemini
