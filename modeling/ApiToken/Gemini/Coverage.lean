import ApiToken.Gemini.Steps

/-!
# Owned items and their leases

Every transition keeps a lease for every owned item. Two calls do not: a
claim takes back the lease of an item that a dead worker still holds as
claimed, without touching the item, and a release takes the lease of an item
that waits for its settlement. In a run without such calls an item is owned
exactly when one row of the lease tables is its own, so reconciliation finds
it and settlement passes its lease check.
-/

namespace ApiToken.Gemini

open Registry

variable {key : String × Int} {id : LeaseId} {ts : Int} {t : LeaseTables}
  {item : BatchItem}

/-! ## The condition -/

def abandoned (b : Batch) (profileId : String) (ts : Int) : Bool :=
  b.items.any (fun _ item => item.state == .claimed
    && item.selectedProfileId == some profileId
    && item.worker.any (fun w => !ownerLive b.store w.owner ts))

/-- Does a live worker give back the lease of an item that waits for its
settlement? -/
def releasesPending (b : Batch) (ts : Int) (owner : Owner)
    (claim : GeminiBatchClaim) : Bool :=
  ownerLive b.store owner ts && (b.items.find? claim.item).any (fun item =>
    item.fencedBy owner claim && item.state == .settlementPending)

/-- No claim on a profile with an abandoned item, no release before the
settlement. -/
def keepsLeases (b : Batch) : BatchOp → Bool
  | .claim now _ _ profileId _ _ _ => !abandoned b profileId (now 0)
  | .release ts owner claim => !releasesPending b ts owner claim
  | _ => true

/-! ## Every owned item has a lease -/

def Leased (b : Batch) : Prop :=
  ∀ key item, b.items.find? key = some item → item.state.owned = true →
    ∃ id, item.lease? key = some id ∧ id ∈ b.leases.ids

section Leased

variable {b b' : Batch}

theorem leased_put (h : Leased b) {item' : BatchItem}
    (items : b'.items = b.items.put key item') (hown : item'.state.owned = true →
      ∃ id, item'.lease? key = some id ∧ id ∈ b'.leases.ids)
    (hothers : ∀ id ∈ b.leases.ids, id.item ≠ key → id ∈ b'.leases.ids) : Leased b' := by
  intro key1 item1 hfind1 howned1
  rw [items, find?_put] at hfind1
  split at hfind1
  · rename_i hkey
    cases hfind1
    exact hkey ▸ hown howned1
  · rename_i hkey
    obtain ⟨id, hlease, hmem⟩ := h key1 item1 hfind1 howned1
    refine ⟨id, hlease, hothers id hmem ?_⟩
    rw [lease?_item hlease]
    exact Ne.symm hkey

theorem mem_after_drop {dropped : LeaseId} (hdropped : dropped.item = key)
    (leases : b'.leases.ids.Perm (b.leases.ids.filter (fun x => !(x == dropped))))
    (hmem : id ∈ b.leases.ids) (hne : id.item ≠ key) : id ∈ b'.leases.ids := by
  refine leases.symm.subset (mem_filter.mpr ⟨hmem, ?_⟩)
  simp only [guard_iffs, beq_eq_false_iff_ne]
  rintro rfl
  exact hne hdropped

theorem leased_transition (h : Leased b) (step : Transition b b') : Leased b' := by
  cases step with
  | world _ items leases =>
    intro key item hfind howned
    obtain ⟨id, hlease, hmem⟩ := h key item (items ▸ hfind) howned
    exact ⟨id, hlease, leases.symm.subset hmem⟩
  | publish _ _ _ _ _ _ queued _ _ _ items leases =>
    refine leased_put h items (fun howned => ?_) (fun id hmem _ => leases ▸ hmem)
    simp [queued, ItemState.owned] at howned
  | rewrite key item _ _ find step items leases =>
    obtain ⟨-, howned, -, hlease, -, -⟩ := step.facts key
    refine leased_put h items (fun _ => ?_) (fun id hmem _ => leases ▸ hmem)
    rw [hlease, leases]
    exact h key item find howned
  | claim _ _ _ _ _ _ _ _ _ _ items leases =>
    refine leased_put h items (fun _ => ⟨_, rfl, ?_⟩) (fun id hmem _ => ?_)
    · exact leases.symm.subset (mem_cons_self ..)
    · exact leases.symm.subset (mem_cons_of_mem _ hmem)
  | requeue _ _ _ _ _ _ _ _ _ lease items leases =>
    refine leased_put h items (fun howned => ?_)
      (fun x hmem hne => mem_after_drop (lease?_item lease) leases hmem hne)
    simp [BatchItem.unclaimed, ItemState.owned] at howned
  | cancel _ _ _ _ _ _ items leases =>
    refine leased_put h items (fun howned => ?_) (fun id hmem hne => ?_)
    · simp [BatchItem.canceledAt, ItemState.owned] at howned
    · exact leases.symm.subset (mem_filter.mpr ⟨hmem, by simpa using hne⟩)
  | expire _ _ _ _ _ _ items leases =>
    refine leased_put h items (fun howned => ?_) (fun id hmem _ => leases ▸ hmem)
    simp [BatchItem.expiredAt, ItemState.owned] at howned
  | pend key item _ find settleable items leases =>
    refine leased_put h items (fun _ => ?_) (fun id hmem _ => leases ▸ hmem)
    have howned : item.state.owned = true := by
      simp only [ItemState.settleable, guard_iffs] at settleable
      rcases settleable with hstate | hstate <;> simp [hstate, ItemState.owned]
    rw [leases]
    exact h key item find howned
  | settle _ _ row _ _ _ _ _ terminal lease items leases =>
    refine leased_put h items (fun howned => ?_)
      (fun x hmem hne => mem_after_drop (lease?_item lease) leases hmem hne)
    simp only [BatchItem.settledAs] at howned
    cases hstate : row.terminalState <;>
      simp [hstate, ItemState.owned, ItemState.isTerminal] at howned terminal

theorem leased_transitions (h : Leased b) (steps : Transitions b b') : Leased b' :=
  reflTransGen_invariant (I := Leased) (fun _ _ hl step => leased_transition hl step) h steps

theorem leased_dispatch (h : Leased b) {generation : Int}
    (hmark : Dispatch b b' key generation) : Leased b' := by
  obtain ⟨item, leaseUntil, ts, find, -, hstate, items, leases, -⟩ := hmark
  refine leased_put h items (fun _ => ?_) (fun id hmem _ => leases ▸ hmem)
  have howned : item.state.owned = true := by
    rcases hstate with hstate | hstate <;> simp [hstate, ItemState.owned]
  rw [lease?_dispatched, leases]
  exact h key item find howned

theorem not_reclaimable (hsound : Sound b) {profileId : String}
    (h : abandoned b profileId ts = false) (hid : id ∈ b.leases.ids) :
    reclaimable b profileId ts id = false := by
  obtain ⟨item, hfind, howned, hlease⟩ := hsound.leased id hid
  obtain ⟨hprofile, ⟨w, hworker, howner⟩, hgeneration, -⟩ := lease?_fields hlease
  by_contra hreclaim
  simp only [reclaimable, hfind, hworker, howner, hgeneration, any_some, beq_self_eq_true,
    Bool.true_and, Bool.not_eq_false, guard_iffs, beq_eq_false_iff_ne] at hreclaim
  obtain ⟨⟨rfl, hdead⟩, hdispatching, hpending⟩ := hreclaim
  -- the lease is the item's own, so only a claimed item could lose it
  have hclaimed : item.state = .claimed := by
    cases hstate : item.state <;> simp_all [ItemState.owned]
  have hitem := any_eq_false_iff.mp h id.item item hfind
  simp [hclaimed, hprofile, hworker, howner, hdead] at hitem

theorem leased_same (h : Leased b) {q : LeaseId → Bool}
    (hperm : t.ids.Perm (b.leases.ids.filter (fun id => !q id)))
    (hq : ∀ id ∈ b.leases.ids, q id = false) : Leased { b with leases := t } := by
  have hself : b.leases.ids.filter (fun id => !q id) = b.leases.ids := by
    rw [List.filter_eq_self]
    exact fun id hid => by simp [hq id hid]
  rw [hself] at hperm
  intro key item hfind howned
  obtain ⟨id, hlease, hmem⟩ := h key item hfind howned
  exact ⟨id, hlease, hperm.symm.subset hmem⟩

theorem leased_release (hsound : Sound b) (h : Leased b) {owner : Owner}
    {claim : GeminiBatchClaim} (hkeep : releasesPending b ts owner claim = false) :
    Leased (b.exec (.release ts owner claim)) := by
  simp only [Batch.exec]
  cases hrelease : releaseGeminiBatchProfile b ts owner claim with
  | error => exact h
  | ok =>
    rcases release_cases hsound hrelease with hsame |
      ⟨hlive, ⟨item, hfind, hfence, hstate⟩, t, hsame, hperm⟩
    · simp only [Batch.after, hsame]
      exact h
    · simp only [Batch.after, hsame]
      simp only [releasesPending, hlive, hfind, hfence, any_some,
        Bool.true_and, beq_eq_false_iff_ne, ne_eq] at hkeep
      have hnot : item.state.owned = false := by
        cases hs : item.state <;>
          simp [hs, ItemState.releasable, ItemState.isTerminal, ItemState.owned] at hstate hkeep ⊢
      refine leased_same h hperm fun id hid => ?_
      simp only [beq_eq_false_iff_ne, ne_eq]
      rintro rfl
      exact hsound.no_lease hfind hnot hid rfl

theorem leased_exec (hsound : Sound b) (h : Leased b) {op : BatchOp}
    (hkeep : keepsLeases b op = true) : Leased (b.exec op) := by
  cases hmark : dispatchMark b op with
  | some => exact leased_dispatch h (exec_dispatch hmark)
  | none =>
    cases hdrop : op.mayDrop with
    | false => exact leased_transitions h (exec_plain hsound hdrop hmark)
    | true =>
      cases op with
      | claim now locked owner profileId modelId capacity leaseSecs =>
        rcases exec_claim hsound now locked owner profileId modelId capacity
          leaseSecs with hsame | ⟨t, hperm, hstep⟩
        · rw [hsame]
          exact h
        · have hkept : abandoned b profileId (now 0) = false := by
            simpa [keepsLeases] using hkeep
          exact leased_transition (leased_same h hperm
            fun id hid => not_reclaimable hsound hkept hid) hstep
      | release => exact leased_release hsound h (by simpa [keepsLeases] using hkeep)
      | _ => cases hdrop

end Leased

/-! ## Coverage -/

/-- An item is owned exactly when one row of the three tables is its lease;
reconciliation then finds it once its times have run out and its worker is
dead, and settlement locks the one row it needs. -/
structure Covered (b : Batch) : Prop where
  leased : ∀ key item, b.items.find? key = some item →
    (item.state.owned = true ↔
      ∃ id, item.lease? key = some id ∧ b.leases.ids.count id = 1)
  visible : ∀ key item w, b.items.find? key = some item →
    item.state = .claimed ∨ item.state = .dispatching → item.worker = some w →
    ∃ late, ∀ ts, late < ts → ownerLive b.store w.owner ts = false →
      expiredClaim b ts [] key item = true
  settleable : ∀ key item, b.items.find? key = some item →
    item.state.owned = true → ∃ w claim, item.worker = some w ∧
      claim.item = key ∧ item.fencedBy w.owner claim = true ∧
      lockGeminiBatchProfileLease b.leases claim w.owner = 1

section Covered

variable {b : Batch}

theorem leaseExpired_of_mem (h : id ∈ t.ids) :
    ∃ late, ∀ ts, late < ts → leaseExpired t id ts = true := by
  simp only [LeaseTables.ids, slotIds, extraIds, mem_append, mem_map] at h
  rcases h with (⟨x, hmem, hid⟩ | ⟨x, hmem, hid⟩) | ⟨x, hmem, hid⟩
  all_goals
    refine ⟨x.2.leaseUntil, fun ts hlate => ?_⟩
    simp only [leaseExpired, Table.any, guard_iffs, List.any_eq_true]
  · exact .inl (.inl ⟨x, hmem, by simp [hid, hlate]⟩)
  · exact .inl (.inr ⟨x, hmem, by simp [hid, hlate]⟩)
  · exact .inr ⟨x, hmem, by simp [hid, hlate]⟩

theorem visible_of_leased (hsound : Sound b) (h : Leased b) {w : Worker}
    (hfind : b.items.find? key = some item)
    (hstate : item.state = .claimed ∨ item.state = .dispatching)
    (hworker : item.worker = some w) :
    ∃ late, ∀ ts, late < ts → ownerLive b.store w.owner ts = false →
      expiredClaim b ts [] key item = true := by
  have howned : item.state.owned = true := by
    rcases hstate with hstate | hstate <;> simp [hstate, ItemState.owned]
  obtain ⟨id, hlease, hmem⟩ := h key item hfind howned
  obtain ⟨late, hexpired⟩ := leaseExpired_of_mem hmem
  refine ⟨max late w.leaseUntil, fun ts hts hdead => ?_⟩
  have hrow := hexpired ts (by omega)
  have hrun : w.leaseUntil < ts := by omega
  simp only [expiredClaim, hsound.jobOf key item hfind, hworker, hlease, hrow, hrun, hdead,
    any_some, List.contains_nil, Bool.not_false, Bool.and_true, decide_true, guard_iffs]
  exact hstate

theorem settleable_of_leased (hsound : Sound b) (h : Leased b)
    (hfind : b.items.find? key = some item) (howned : item.state.owned = true) :
    ∃ w claim, item.worker = some w ∧ claim.item = key ∧
      item.fencedBy w.owner claim = true ∧
      lockGeminiBatchProfileLease b.leases claim w.owner = 1 := by
  obtain ⟨id, hlease, hmem⟩ := h key item hfind howned
  obtain ⟨hprofile, ⟨w, hworker, howner⟩, hgeneration, hkey⟩ := lease?_fields hlease
  refine ⟨w, ⟨key.1, "", key.2, item.requestId, item.claimGeneration, 0,
    id.profileId⟩, hworker, rfl, ?_, ?_⟩
  · simp [BatchItem.fencedBy, hworker, hprofile]
  · have hid : GeminiBatchClaim.lease ⟨key.1, "", key.2, item.requestId,
        item.claimGeneration, 0, id.profileId⟩ w.owner = id := by
      rw [GeminiBatchClaim.lease, howner, hgeneration, ← hkey]
      rfl
    rw [lockGeminiBatchProfileLease_eq hsound.one, hid]
    exact List.count_eq_one_of_mem (ids_nodup hsound.one) hmem

theorem covered_of_leased (hsound : Sound b) (h : Leased b) : Covered b where
  leased := by
    intro key item hfind
    constructor
    · intro howned
      obtain ⟨id, hlease, hmem⟩ := h key item hfind howned
      exact ⟨id, hlease, List.count_eq_one_of_mem (ids_nodup hsound.one) hmem⟩
    · rintro ⟨id, hlease, hcount⟩
      have hmem : id ∈ b.leases.ids := count_pos_iff.mp (by omega)
      exact (hsound.lease_of_item hfind hmem (lease?_item hlease)).1
  visible := fun _ _ _ hfind hstate hworker =>
    visible_of_leased hsound h hfind hstate hworker
  settleable := fun _ _ hfind howned => settleable_of_leased hsound h hfind howned

end Covered

/-- In a run without a claim on a profile that has an abandoned item and
without a release of an item that waits for its settlement, coverage holds in
every state. -/
theorem lease_coverage (store : Store) (ops : List BatchOp)
    (hops : Along Batch.exec (fun b op => keepsLeases b op = true) (.fresh store)
      ops) : Covered (run Batch.exec (.fresh store) ops) := by
  have hinv : Sound (run Batch.exec (.fresh store) ops) ∧
      Leased (run Batch.exec (.fresh store) ops) :=
    run_invariant_along (I := fun b => Sound b ∧ Leased b)
      (fun b op hb hkeep => ⟨sound_exec hb.1 op, leased_exec hb.1 hb.2 hkeep⟩)
      ⟨sound_fresh store, fun _ _ hfind => by cases hfind⟩ hops
  exact covered_of_leased hinv.1 hinv.2

/-- The sample run up to the dispatch mark. -/
theorem lease_coverage_sample :
    Covered (run Batch.exec (.fresh soloStore)
      (sampleStart ++ [.markDispatching 102 ⟨"east", 1⟩ sampleClaim 60])) :=
  lease_coverage soloStore _ (by decide +kernel)

/-- The worker dies with its item claimed; another one then claims an item
of a second job on the same profile. -/
def reclaimed : List BatchOp :=
  sampleStart ++
    [.publish { sampleCreate with
       jobId := "job2"
       items := [{ itemIndex := 0, requestId := "req2", payableMultiplierBp := 10000
                   requestBlob := sampleBlob .request, metadataBlob := none }] },
     .engine (.claimInstance 200 "west" 60),
     .acquireLeader 200 ⟨"west", 2⟩ dispatchLeader 60,
     .claim (fun _ => 201) [] ⟨"west", 2⟩ "profile" "model" 2 30]

/-- The first item is still claimed, and no lease is left for it. -/
theorem reclaimed_not_covered : ¬ Covered (run Batch.exec (.fresh soloStore) reclaimed) := by
  intro h
  have hstate : ((run Batch.exec (.fresh soloStore) reclaimed).items.find?
      ("job", 0)).map (fun item => (item.state, item.lease? ("job", 0)))
      = some (.claimed, some ⟨"profile", "job", 0, ⟨"east", 1⟩, 1⟩) := by
    decide +kernel
  have hcount : (run Batch.exec (.fresh soloStore) reclaimed).leases.ids.count
      ⟨"profile", "job", 0, ⟨"east", 1⟩, 1⟩ = 0 := by
    decide +kernel
  obtain ⟨item, hfind, hfacts⟩ := map_eq_some_iff.mp hstate
  simp only [Prod.mk.injEq] at hfacts
  obtain ⟨id, hlease, hone⟩ := (h.leased ("job", 0) item hfind).mp (by
    simp [hfacts.1, ItemState.owned])
  rw [hfacts.2, some.injEq] at hlease
  rw [← hlease, hcount] at hone
  cases hone

end ApiToken.Gemini
