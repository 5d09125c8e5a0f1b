import ApiToken.Gemini.Machine

/-!
# What holds in every batch

`Sound` is the invariant that no loss of leases breaks: a lease belongs to
the owned item it names, request ids name items, and settlements and
outputs belong to items that are being settled or are done. It is kept by
every transition, so by every sequence of them.
-/

namespace ApiToken.Gemini

open Registry

variable {item item' : BatchItem} {key : String × Int} {id : LeaseId} {ts : Int}

theorem lease?_fields (h : item.lease? key = some id) :
    item.selectedProfileId = some id.profileId ∧
      (∃ w, item.worker = some w ∧ w.owner = id.worker) ∧
      item.claimGeneration = id.claimGeneration ∧ id.item = key := by
  unfold BatchItem.lease? at h
  split at h
  · rename_i profileId w hprofile hworker
    cases h
    exact ⟨hprofile, ⟨w, hworker, rfl⟩, rfl, rfl⟩
  · cases h

theorem lease?_item (h : item.lease? key = some id) : id.item = key :=
  (lease?_fields h).2.2.2

/-- What holds in every reachable state, whoever loses a lease. -/
structure Sound (b : Batch) : Prop where
  one : b.leases.OnePerItem
  /-- A lease belongs to the item it names, and that item is owned. -/
  leased : ∀ id ∈ b.leases.ids, ∃ item, b.items.find? id.item = some item ∧
    item.state.owned = true ∧ item.lease? id.item = some id
  unsent : ∀ key item, b.items.find? key = some item →
    item.state = .queued ∨ item.state = .claimed → item.unsent = true
  /-- Request ids name items. -/
  unique : ∀ key item key' item', b.items.find? key = some item →
    b.items.find? key' = some item' → item.requestId = item'.requestId → key = key'
  /-- A settlement names an item that has one to settle, under its request
  id. -/
  settling : ∀ id row, b.outbox.find? id = some row →
    row.terminalState.isTerminal = true ∧
    ∃ item, b.items.find? (row.jobId, row.itemIndex) = some item ∧
      item.requestId = id ∧
      (item.state = .settlementPending ∨ item.state.isTerminal = true)
  /-- So does an output. -/
  outputs : ∀ jobId index kind, kind = .result ∨ kind = .error →
    (b.blobs.find? (jobId, index, kind)).isSome = true →
    ∃ item, b.items.find? (jobId, index) = some item ∧
      (item.state = .settlementPending ∨ item.state.isTerminal = true)
  jobs : ∀ id job, b.jobs.find? id = some job → job.checked = true
  jobOf : ∀ key item, b.items.find? key = some item →
    (b.jobs.find? key.1).isSome = true
  holds : ∀ key item, b.items.find? key = some item → item.holdNano = 0

theorem sound_fresh (store : Store) : Sound (.fresh store) where
  one := nodup_nil
  leased := fun _ h => by cases h
  unsent := fun _ _ h => by cases h
  unique := fun _ _ _ _ h => by cases h
  settling := fun _ _ h => by cases h
  outputs := fun _ _ _ _ h => by cases h
  jobs := fun _ _ h => by cases h
  jobOf := fun _ _ h => by cases h
  holds := fun _ _ h => by cases h

theorem sound_loss {b b' : Batch} (h : Sound b) (hloss : Loss b b') : Sound b' := by
  obtain ⟨t, q, rfl, hperm⟩ := hloss
  have hsub : (b.leases.ids.filter (fun id => !q id)).Sublist b.leases.ids := filter_sublist
  refine { h with one := ?_, leased := ?_ }
  · exact (hperm.map LeaseId.item).nodup_iff.mpr (h.one.sublist (hsub.map _))
  · exact fun id hid => h.leased id (hsub.subset (hperm.subset hid))

section Keep

variable {b b' : Batch}

def BatchItem.settlesOrEnded (item : BatchItem) : Prop :=
  item.state = .settlementPending ∨ item.state.isTerminal = true

theorem frame_settling (h : Sound b) (frame : Frame b b')
    (hitems : ∀ key item, b.items.find? key = some item → item.settlesOrEnded →
      ∃ item', b'.items.find? key = some item' ∧
        item'.requestId = item.requestId ∧ item'.settlesOrEnded) :
    ∀ id row, b'.outbox.find? id = some row →
      row.terminalState.isTerminal = true ∧
      ∃ item, b'.items.find? (row.jobId, row.itemIndex) = some item ∧
        item.requestId = id ∧ item.settlesOrEnded := by
  intro id row' hrow'
  obtain ⟨row, hrow, hjob, hindex, hterminal⟩ := frame.outbox id row' hrow'
  obtain ⟨hended, item, hitem, rfl, hsettles⟩ := h.settling id row hrow
  obtain ⟨item', hitem', hrequest, hsettles'⟩ := hitems _ item hitem hsettles
  rw [hjob, hindex] at hitem'
  exact ⟨hterminal ▸ hended, item', hitem', hrequest, hsettles'⟩

theorem frame_outputs (h : Sound b) (frame : Frame b b')
    (hitems : ∀ key item, b.items.find? key = some item → item.settlesOrEnded →
      ∃ item', b'.items.find? key = some item' ∧
        item'.requestId = item.requestId ∧ item'.settlesOrEnded) :
    ∀ jobId index kind, kind = .result ∨ kind = .error →
      (b'.blobs.find? (jobId, index, kind)).isSome = true →
      ∃ item, b'.items.find? (jobId, index) = some item ∧ item.settlesOrEnded := by
  intro jobId index kind hkind hblob
  rw [frame.outputs jobId index kind hkind] at hblob
  obtain ⟨item, hitem, hsettles⟩ := h.outputs jobId index kind hkind hblob
  obtain ⟨item', hitem', -, hsettles'⟩ := hitems _ item hitem hsettles
  exact ⟨item', hitem', hsettles'⟩

theorem frame_jobs (h : Sound b) (frame : Frame b b') :
    ∀ id job, b'.jobs.find? id = some job → job.checked = true :=
  fun id job hjob => (frame.jobs id job hjob).elim (fun hok => hok) (h.jobs id job)

theorem frame_jobOf (frame : Frame b b') {id : String}
    (hjob : (b.jobs.find? id).isSome = true) : (b'.jobs.find? id).isSome = true := by
  obtain ⟨job, hfind⟩ := isSome_iff_exists.mp hjob
  obtain ⟨job', hfind', -⟩ := frame.kept id job hfind
  rw [hfind']
  rfl

theorem sound_world (h : Sound b) (frame : Frame b b')
    (items : b'.items = b.items) (leases : b'.leases.ids.Perm b.leases.ids) : Sound b' := by
  have hitems : ∀ key item, b.items.find? key = some item → item.settlesOrEnded →
      ∃ item', b'.items.find? key = some item' ∧
        item'.requestId = item.requestId ∧ item'.settlesOrEnded :=
    fun key item hfind hsettles => ⟨item, by rw [items, hfind], rfl, hsettles⟩
  refine
    { one := (leases.map LeaseId.item).nodup_iff.mpr h.one
      leased := fun id hid => ?_
      unsent := by rw [items]; exact h.unsent
      unique := by rw [items]; exact h.unique
      settling := frame_settling h frame hitems
      outputs := frame_outputs h frame hitems
      jobs := frame_jobs h frame
      jobOf := fun key item hfind => frame_jobOf frame (h.jobOf key item (items ▸ hfind))
      holds := by rw [items]; exact h.holds }
  rw [items]
  exact h.leased id (leases.subset hid)

/-- One item is rewritten under its request id; every lease that is left
belongs to another item or to what the item has become. -/
theorem sound_put (h : Sound b) (frame : Frame b b')
    (find : b.items.find? key = some item) (items : b'.items = b.items.put key item')
    (hrequest : item'.requestId = item.requestId) (hhold : item'.holdNano = item.holdNano)
    (hone : b'.leases.OnePerItem)
    (hleased : ∀ id ∈ b'.leases.ids, (id.item ≠ key ∧ id ∈ b.leases.ids) ∨
      (id.item = key ∧ item'.state.owned = true ∧ item'.lease? key = some id))
    (hunsent : item'.state = .queued ∨ item'.state = .claimed →
      item'.unsent = true) (hsettles : item.settlesOrEnded → item'.settlesOrEnded) :
    Sound b' := by
  have hput : ∀ key', b'.items.find? key' = if key = key' then some item'
      else b.items.find? key' := fun key' => by rw [items, find?_put]
  have hitems : ∀ key1 item1, b.items.find? key1 = some item1 →
      item1.settlesOrEnded → ∃ item2, b'.items.find? key1 = some item2 ∧
        item2.requestId = item1.requestId ∧ item2.settlesOrEnded := by
    intro key1 item1 hfind1 hsettles1
    rw [hput]
    by_cases hkey : key = key1
    · subst hkey
      rw [find] at hfind1
      cases hfind1
      exact ⟨item', if_pos rfl, hrequest, hsettles hsettles1⟩
    · exact ⟨item1, by rw [if_neg hkey, hfind1], rfl, hsettles1⟩
  refine
    { one := hone
      leased := fun id hid => ?_
      unsent := fun key1 item1 hfind1 => ?_
      unique := fun key1 item1 key2 item2 hfind1 hfind2 heq => ?_
      settling := frame_settling h frame hitems
      outputs := frame_outputs h frame hitems
      jobs := frame_jobs h frame
      jobOf := fun key1 item1 hfind1 => frame_jobOf frame ?_
      holds := fun key1 item1 hfind1 => ?_ }
  · rw [hput]
    rcases hleased id hid with ⟨hne, hold⟩ | ⟨heq, howned, hlease⟩
    · rw [if_neg (Ne.symm hne)]
      exact h.leased id hold
    · rw [heq, if_pos rfl]
      exact ⟨item', rfl, howned, hlease⟩
  · rw [hput] at hfind1
    split at hfind1
    · cases hfind1
      exact hunsent
    · exact h.unsent key1 item1 hfind1
  · -- the request id of the rewritten item is the one it had
    have hold : ∀ key1 item1, b'.items.find? key1 = some item1 →
        ∃ item0, b.items.find? key1 = some item0 ∧ item0.requestId = item1.requestId := by
      intro key1 item1 hfind1
      rw [hput] at hfind1
      split at hfind1
      · rename_i hkey
        cases hfind1
        exact ⟨item, hkey ▸ find, hrequest.symm⟩
      · exact ⟨item1, hfind1, rfl⟩
    obtain ⟨old1, hold1, hid1⟩ := hold key1 item1 hfind1
    obtain ⟨old2, hold2, hid2⟩ := hold key2 item2 hfind2
    exact h.unique key1 old1 key2 old2 hold1 hold2 (by rw [hid1, hid2, heq])
  · rw [hput] at hfind1
    split at hfind1
    · rename_i hkey
      exact hkey ▸ h.jobOf key item find
    · exact h.jobOf key1 item1 hfind1
  · rw [hput] at hfind1
    split at hfind1
    · cases hfind1
      exact hhold.trans (h.holds key item find)
    · exact h.holds key1 item1 hfind1

theorem Sound.lease_of_item (h : Sound b) (find : b.items.find? key = some item)
    (hid : id ∈ b.leases.ids) (hkey : id.item = key) :
    item.state.owned = true ∧ item.lease? key = some id := by
  obtain ⟨item', hfind', howned, hlease⟩ := h.leased id hid
  rw [hkey] at hfind' hlease
  rw [find] at hfind'
  cases hfind'
  exact ⟨howned, hlease⟩

theorem Sound.no_lease (h : Sound b) (find : b.items.find? key = some item)
    (howned : item.state.owned = false) (hid : id ∈ b.leases.ids) : id.item ≠ key := by
  intro hkey
  have htrue := (h.lease_of_item find hid hkey).1
  rw [howned] at htrue
  cases htrue

theorem onePerItem_of_filter (h : Sound b) {q : LeaseId → Bool}
    (leases : b'.leases.ids.Perm (b.leases.ids.filter q)) : b'.leases.OnePerItem :=
  (leases.map LeaseId.item).nodup_iff.mpr (h.one.sublist (filter_sublist.map _))

theorem Rewrite.facts (step : Rewrite item item') (key : String × Int) :
    item'.requestId = item.requestId ∧ item.state.owned = true ∧
      item'.state.owned = true ∧ item'.lease? key = item.lease? key ∧
      item'.claimGeneration = item.claimGeneration ∧
      item'.holdNano = item.holdNano := by
  cases step with
  | renew _ _ hstate =>
    refine ⟨rfl, hstate, hstate, ?_, rfl, rfl⟩
    simp only [BatchItem.lease?, BatchItem.leasedUntil]
    cases item.selectedProfileId <;> cases item.worker <;> rfl
  | send _ _ hstate =>
    refine ⟨rfl, by simp [hstate, ItemState.owned], ?_, ?_, rfl, rfl⟩
    · simp [BatchItem.sent, BatchItem.leasedUntil, hstate, ItemState.owned]
    · simp only [BatchItem.lease?, BatchItem.sent, BatchItem.leasedUntil]
      cases item.selectedProfileId <;> cases item.worker <;> rfl

theorem sound_rewrite (h : Sound b) (frame : Frame b b')
    (find : b.items.find? key = some item) (step : Rewrite item item')
    (items : b'.items = b.items.put key item') (leases : b'.leases.ids = b.leases.ids) :
    Sound b' := by
  obtain ⟨hrequest, -, howned', hlease', -, hhold⟩ := step.facts key
  refine sound_put h frame find items hrequest hhold ?_ ?_ ?_ ?_
  · unfold LeaseTables.OnePerItem
    rw [leases]
    exact h.one
  · intro id hid
    rw [leases] at hid
    by_cases hkey : id.item = key
    · refine .inr ⟨hkey, howned', ?_⟩
      rw [hlease']
      exact (h.lease_of_item find hid hkey).2
    · exact .inl ⟨hkey, hid⟩
  · intro hstate
    cases step with
    | renew => exact h.unsent key item find hstate
    | send _ _ hsending => simp [BatchItem.sent, BatchItem.leasedUntil, hsending] at hstate
  · intro hsettles
    cases step with
    | renew => exact hsettles
    | send _ _ hstate =>
      simp [BatchItem.settlesOrEnded, hstate, ItemState.isTerminal] at hsettles

theorem lease?_dispatched (item : BatchItem) (leaseUntil ts : Int) (key : String × Int) :
    (item.dispatched leaseUntil ts).lease? key = item.lease? key := by
  simp only [BatchItem.lease?, BatchItem.dispatched, BatchItem.leasedUntil]
  cases item.selectedProfileId <;> cases item.worker <;> rfl

theorem sound_dispatch (h : Sound b) {generation : Int}
    (hmark : Dispatch b b' key generation) : Sound b' := by
  obtain ⟨item, leaseUntil, ts, find, -, hstate, items, leases, frame⟩ := hmark
  refine sound_put h frame find items rfl rfl ?_ ?_ ?_ ?_
  · unfold LeaseTables.OnePerItem
    rw [leases]
    exact h.one
  · intro id hid
    rw [leases] at hid
    by_cases hkey : id.item = key
    · refine .inr ⟨hkey, rfl, ?_⟩
      rw [lease?_dispatched]
      exact (h.lease_of_item find hid hkey).2
    · exact .inl ⟨hkey, hid⟩
  · intro hsending
    simp [BatchItem.dispatched] at hsending
  · intro hsettles
    rcases hstate with hstate | hstate <;>
      simp [BatchItem.settlesOrEnded, hstate, ItemState.isTerminal] at hsettles

theorem sound_claim (h : Sound b) {owner : Owner} {profileId : String} {leaseUntil : Int}
    (frame : Frame b b') (find : b.items.find? key = some item)
    (queued : item.state = .queued) (items : b'.items
      = b.items.put key (item.claimedBy owner profileId leaseUntil ts))
    (leases : b'.leases.ids.Perm
      (⟨profileId, key.1, key.2, owner, item.claimGeneration + 1⟩
        :: b.leases.ids)) : Sound b' := by
  have hfree : ∀ id ∈ b.leases.ids, id.item ≠ key :=
    fun id hid => h.no_lease find (by simp [queued, ItemState.owned]) hid
  refine sound_put h frame find items rfl rfl ?_ ?_ ?_ ?_
  · refine (leases.map LeaseId.item).nodup_iff.mpr ?_
    rw [map_cons, nodup_cons]
    refine ⟨fun hmem => ?_, h.one⟩
    obtain ⟨id, hid, heq⟩ := mem_map.mp hmem
    exact hfree id hid heq
  · intro id hid
    rcases mem_cons.mp (leases.subset hid) with rfl | hold
    · exact .inr ⟨rfl, rfl, rfl⟩
    · exact .inl ⟨hfree id hold, hold⟩
  · intro _
    have hunsent := h.unsent key item find (.inl queued)
    simpa [BatchItem.unsent, BatchItem.claimedBy] using hunsent
  · intro hsettles
    simp [BatchItem.settlesOrEnded, queued, ItemState.isTerminal] at hsettles

theorem leased_after_drop (h : Sound b) (find : b.items.find? key = some item)
    (lease : item.lease? key = some id)
    (leases : b'.leases.ids.Perm (b.leases.ids.filter (fun x => !(x == id)))) :
    ∀ x ∈ b'.leases.ids, x.item ≠ key ∧ x ∈ b.leases.ids := by
  intro x hx
  obtain ⟨hold, hne⟩ := mem_filter.mp (leases.subset hx)
  refine ⟨fun hkey => ?_, hold⟩
  have hsame := (h.lease_of_item find hold hkey).2
  rw [lease, some.injEq] at hsame
  simp [hsame] at hne

section

variable (h : Sound b) (frame : Frame b b') (find : b.items.find? key = some item)
include h frame find

theorem sound_requeue {nextAttemptTs : Int} (claimed : item.state = .claimed)
    (unsent : item.unsent = true) (lease : item.lease? key = some id)
    (items : b'.items = b.items.put key { item.unclaimed ts with nextAttemptTs })
    (leases : b'.leases.ids.Perm (b.leases.ids.filter (fun x => !(x == id)))) :
    Sound b' := by
  refine sound_put h frame find items rfl rfl (onePerItem_of_filter h leases)
    (fun x hx => .inl (leased_after_drop h find lease leases x hx)) ?_ ?_
  · exact fun _ => by simpa [BatchItem.unsent, BatchItem.unclaimed] using unsent
  · intro hsettles
    simp [BatchItem.settlesOrEnded, claimed, ItemState.isTerminal] at hsettles

theorem sound_cancel (items : b'.items = b.items.put key (item.canceledAt ts))
    (leases : b'.leases.ids.Perm
      (b.leases.ids.filter (fun x => !(x.item == key)))) : Sound b' := by
  refine sound_put h frame find items rfl rfl (onePerItem_of_filter h leases) ?_ ?_ ?_
  · intro x hx
    obtain ⟨hold, hne⟩ := mem_filter.mp (leases.subset hx)
    exact .inl ⟨by simpa using hne, hold⟩
  · exact fun hstate => by simp [BatchItem.canceledAt] at hstate
  · exact fun _ => .inr rfl

theorem sound_expire (queued : item.state = .queued)
    (items : b'.items = b.items.put key (item.expiredAt ts))
    (leases : b'.leases.ids = b.leases.ids) : Sound b' := by
  refine sound_put h frame find items rfl rfl ?_ ?_ ?_ ?_
  · unfold LeaseTables.OnePerItem
    rw [leases]
    exact h.one
  · intro x hx
    rw [leases] at hx
    exact .inl ⟨h.no_lease find (by simp [queued, ItemState.owned]) hx, hx⟩
  · exact fun hstate => by simp [BatchItem.expiredAt] at hstate
  · exact fun _ => .inr rfl

theorem sound_settle {row : SettlementRow} (terminal : row.terminalState.isTerminal = true)
    (lease : item.lease? key = some id)
    (items : b'.items = b.items.put key (item.settledAs row ts))
    (leases : b'.leases.ids.Perm (b.leases.ids.filter (fun x => !(x == id)))) :
    Sound b' := by
  refine sound_put h frame find items rfl rfl (onePerItem_of_filter h leases)
    (fun x hx => .inl (leased_after_drop h find lease leases x hx)) ?_ ?_
  · intro hstate
    simp only [BatchItem.settledAs] at hstate
    rcases hstate with hstate | hstate <;>
      simp [hstate, ItemState.isTerminal] at terminal
  · exact fun _ => .inr terminal

end

theorem sound_publish (h : Sound b) (frame : Frame b b')
    (job : (b.jobs.find? key.1).isSome = true) (absent : b.items.find? key = none)
    (fresh : ∀ key' item', b.items.find? key' = some item' →
      item'.requestId ≠ item.requestId) (unsent : item.unsent = true)
    (hold : item.holdNano = 0) (items : b'.items = b.items.put key item)
    (leases : b'.leases.ids = b.leases.ids) : Sound b' := by
  have hput : ∀ key', b'.items.find? key' = if key = key' then some item
      else b.items.find? key' := fun key' => by rw [items, find?_put]
  have hkeep : ∀ key1 item1, b.items.find? key1 = some item1 →
      b'.items.find? key1 = some item1 := by
    intro key1 item1 hfind1
    rw [hput, if_neg, hfind1]
    rintro rfl
    rw [absent] at hfind1
    cases hfind1
  have hitems : ∀ key1 item1, b.items.find? key1 = some item1 →
      item1.settlesOrEnded → ∃ item2, b'.items.find? key1 = some item2 ∧
        item2.requestId = item1.requestId ∧ item2.settlesOrEnded :=
    fun key1 item1 hfind1 hsettles => ⟨item1, hkeep _ _ hfind1, rfl, hsettles⟩
  refine
    { one := ?_
      leased := fun id hid => ?_
      unsent := fun key1 item1 hfind1 => ?_
      unique := fun key1 item1 key2 item2 hfind1 hfind2 heq => ?_
      settling := frame_settling h frame hitems
      outputs := frame_outputs h frame hitems
      jobs := frame_jobs h frame
      jobOf := fun key1 item1 hfind1 => frame_jobOf frame ?_
      holds := fun key1 item1 hfind1 => ?_ }
  · unfold LeaseTables.OnePerItem
    rw [leases]
    exact h.one
  · rw [leases] at hid
    obtain ⟨item1, hfind1, hrest⟩ := h.leased id hid
    exact ⟨item1, hkeep _ _ hfind1, hrest⟩
  · rw [hput] at hfind1
    split at hfind1
    · cases hfind1
      exact fun _ => unsent
    · exact h.unsent key1 item1 hfind1
  · rw [hput] at hfind1 hfind2
    split at hfind1 <;> split at hfind2
    · rename_i hkey1 hkey2
      exact hkey1.symm.trans hkey2
    · cases hfind1
      exact absurd heq.symm (fresh key2 item2 hfind2)
    · cases hfind2
      exact absurd heq (fresh key1 item1 hfind1)
    · exact h.unique key1 item1 key2 item2 hfind1 hfind2 heq
  · rw [hput] at hfind1
    split at hfind1
    · rename_i hkey
      exact hkey ▸ job
    · exact h.jobOf key1 item1 hfind1
  · rw [hput] at hfind1
    split at hfind1
    · cases hfind1
      exact hold
    · exact h.holds key1 item1 hfind1

theorem sound_pend (h : Sound b) (find : b.items.find? key = some item)
    (items : b'.items = b.items.put key
      { item with
        state := .settlementPending, settlementId := some item.requestId
        updatedTs := ts }) (leases : b'.leases = b.leases) (jobs : b'.jobs = b.jobs)
    (outbox : ∀ id row', b'.outbox.find? id = some row' →
      b.outbox.find? id = some row' ∨
        (id = item.requestId ∧ (row'.jobId, row'.itemIndex) = key ∧
          row'.terminalState.isTerminal = true))
    (outputs : ∀ jobId index kind, (jobId, index) ≠ key →
      b'.blobs.find? (jobId, index, kind) = b.blobs.find? (jobId, index, kind)) :
    Sound b' := by
  -- items, leases and jobs change as in a rewrite that adds no settlement
  have hitems : Sound { b with items := b'.items } := by
    refine sound_put h ⟨fun _ row' hrow => ⟨row', hrow, rfl, rfl, rfl⟩,
      fun _ _ _ _ => rfl, fun _ _ hjob => .inr hjob,
      fun _ job hjob => ⟨job, hjob, .refl job⟩⟩ find items rfl rfl h.one ?_ ?_ ?_
    · intro id hid
      by_cases hkey : id.item = key
      · exact .inr ⟨hkey, rfl, (h.lease_of_item find hid hkey).2⟩
      · exact .inl ⟨hkey, hid⟩
    · exact fun hstate => by simp at hstate
    · exact fun _ => .inl rfl
  have hpending : b'.items.find? key = some
      { item with
        state := .settlementPending, settlementId := some item.requestId
        updatedTs := ts } := by
    rw [items, find?_put_self]
  refine
    { one := leases ▸ hitems.one
      leased := by rw [leases]; exact hitems.leased
      unsent := hitems.unsent
      unique := hitems.unique
      settling := fun id row' hrow' => ?_
      outputs := fun jobId index kind hkind hblob => ?_
      jobs := by rw [jobs]; exact h.jobs
      jobOf := by rw [jobs]; exact hitems.jobOf
      holds := hitems.holds }
  · rcases outbox id row' hrow' with hold | ⟨rfl, hkey, hterminal⟩
    · exact hitems.settling id row' hold
    · rw [hkey]
      exact ⟨hterminal, _, hpending, rfl, .inl rfl⟩
  · by_cases hkey : (jobId, index) = key
    · rw [hkey]
      exact ⟨_, hpending, .inl rfl⟩
    · rw [outputs jobId index kind hkey] at hblob
      exact hitems.outputs jobId index kind hkind hblob

theorem sound_transition (h : Sound b) (step : Transition b b') : Sound b' := by
  cases step with
  | world frame items leases => exact sound_world h frame items leases
  | publish _ _ frame job absent fresh _ unsent hold _ items leases =>
    exact sound_publish h frame job absent fresh unsent hold items leases
  | rewrite _ _ _ frame find step items leases =>
    exact sound_rewrite h frame find step items leases
  | claim _ _ _ _ _ _ frame find queued _ items leases =>
    exact sound_claim h frame find queued items leases
  | requeue _ _ _ _ _ frame find claimed unsent lease items leases =>
    exact sound_requeue h frame find claimed unsent lease items leases
  | cancel _ _ _ frame find _ items leases => exact sound_cancel h frame find items leases
  | expire _ _ _ frame find queued items leases =>
    exact sound_expire h frame find queued items leases
  | pend _ _ _ find _ items leases jobs outbox outputs =>
    exact sound_pend h find items leases jobs outbox outputs
  | settle _ _ _ _ _ frame find _ terminal lease items leases =>
    exact sound_settle h frame find terminal lease items leases

theorem sound_transitions (h : Sound b) (steps : Transitions b b') : Sound b' :=
  reflTransGen_invariant (I := Sound) (fun _ _ hs hstep => sound_transition hs hstep) h steps

end Keep

end ApiToken.Gemini
