import ApiToken.Gemini.Data

/-!
# Profile leases in three tables

Every statement on the leases runs on the three tables in turn, and two
triggers move rows between them: a delete from slot 1 promotes slot 2, a
delete from slot 1 or 2 promotes the extra slots. `LeaseTables.ids` forgets
the tables. Up to order, promotion changes nothing there and a delete is a
filter, whatever the triggers move (`deleteLeases_spec`).
-/

namespace ApiToken.Gemini

open Registry

variable {t' : LeaseTables} {k : String × Int} {l : ProfileLease} {n : Nat}

def slotIds (t : Table String ProfileLease) : List LeaseId :=
  t.rows.map (fun x => x.2.id x.1)

def extraIds (t : Table (String × Int) ProfileLease) : List LeaseId :=
  t.rows.map (fun x => x.2.id x.1.1)

def LeaseTables.ids (t : LeaseTables) : List LeaseId :=
  slotIds t.slot1 ++ slotIds t.slot2 ++ extraIds t.extra

def LeaseTables.OnePerItem (t : LeaseTables) : Prop :=
  (t.ids.map LeaseId.item).Nodup

/-! ## Triggers -/

def insertUnique {κ : Type} [DecidableEq κ] (t : Table κ ProfileLease) (k : κ)
    (l : ProfileLease) : Except Error (Table κ ProfileLease) := do
  failIf ((t.find? k).isSome || t.any (fun _ l' => l'.jobId == l.jobId
    && l'.itemIndex == l.itemIndex)) (.sql "23505")
  return t.put k l

/-- `… FROM gemini_batch_profile_leases_extra WHERE profile_id = … ORDER BY
slot_number LIMIT 1`. -/
def firstExtra (t : LeaseTables) (profileId : String) :
    Option ((String × Int) × ProfileLease) :=
  (t.extra.select (fun k _ => k.1 == profileId) (fun x y => decide (x.1.2 ≤ y.1.2)) 1).head?

/-- The first half of `gemini_batch_promote_extra_profile_leases`. -/
def promoteExtraToSlot1 (t : LeaseTables) (profileId : String) :
    Except Error LeaseTables :=
  match t.slot1.find? profileId, firstExtra t profileId with
  | none, some (_, l) => do
      let slot1 ← insertUnique t.slot1 profileId l
      return { t with
        slot1
        extra := t.extra.delete (fun k l' => k.1 == profileId
          && l'.jobId == l.jobId && l'.itemIndex == l.itemIndex) }
  | _, _ => .ok t

/-- The second half of `gemini_batch_promote_extra_profile_leases`. -/
def promoteExtraToSlot2 (t : LeaseTables) (profileId : String) :
    Except Error LeaseTables :=
  match t.slot2.find? profileId, firstExtra t profileId with
  | none, some (k, l) => do
      let slot2 ← insertUnique t.slot2 profileId l
      return { t with
        slot2
        extra := t.extra.delete (fun k' l' => k' == k
          && l'.jobId == l.jobId && l'.itemIndex == l.itemIndex) }
  | _, _ => .ok t

/-- `gemini_batch_promote_extra_profile_leases`. -/
def promoteExtra (t : LeaseTables) (profileId : String) :
    Except Error LeaseTables := do
  let t ← promoteExtraToSlot1 t profileId
  promoteExtraToSlot2 t profileId

/-- `gemini_batch_promote_profile_slot2`; its own delete fires the trigger
of slot 2. -/
def promoteSlot2 (t : LeaseTables) (profileId : String) :
    Except Error LeaseTables :=
  match t.slot1.find? profileId, t.slot2.find? profileId with
  | none, some l => do
      let slot1 ← insertUnique t.slot1 profileId l
      promoteExtra
        { t with slot1, slot2 := t.slot2.delete (fun k _ => k == profileId) }
        profileId
  | _, _ => .ok t

/-! ## Statements -/

def deleteExtra (t : LeaseTables) (q : LeaseId → Bool) : Nat × LeaseTables :=
  (((extraIds t.extra).filter q).length,
    { t with extra := t.extra.delete (fun k l => q (l.id k.1)) })

def deleteSlot2 (t : LeaseTables) (q : LeaseId → Bool) :
    Except Error (Nat × LeaseTables) := do
  let gone := (slotIds t.slot2).filter q
  let t' ← gone.foldlM (fun t id => promoteExtra t id.profileId)
    { t with slot2 := t.slot2.delete (fun k l => q (l.id k)) }
  return (gone.length, t')

def afterDeleteSlot1 (t : LeaseTables) (profileId : String) :
    Except Error LeaseTables := do
  let t ← promoteSlot2 t profileId
  promoteExtra t profileId

def deleteSlot1 (t : LeaseTables) (q : LeaseId → Bool) :
    Except Error (Nat × LeaseTables) := do
  let gone := (slotIds t.slot1).filter q
  let t' ← gone.foldlM (fun t id => afterDeleteSlot1 t id.profileId)
    { t with slot1 := t.slot1.delete (fun k l => q (l.id k)) }
  return (gone.length, t')

def deleteLeases (t : LeaseTables) (q : LeaseId → Bool) :
    Except Error (Nat × LeaseTables) := do
  let (n₃, t) := deleteExtra t q
  let (n₂, t) ← deleteSlot2 t q
  let (n₁, t) ← deleteSlot1 t q
  return (n₃ + n₂ + n₁, t)

def deleteGeminiBatchProfileLease (t : LeaseTables) (claim : GeminiBatchClaim)
    (worker : Owner) : Except Error (Nat × LeaseTables) :=
  deleteLeases t (fun id => id == claim.lease worker)

/-- `lock_gemini_batch_profile_lease`: the number of tables that have the
row. -/
def lockGeminiBatchProfileLease (t : LeaseTables) (claim : GeminiBatchClaim)
    (worker : Owner) : Nat :=
  ((slotIds t.slot1).contains (claim.lease worker)).toNat
    + ((slotIds t.slot2).contains (claim.lease worker)).toNat
    + ((extraIds t.extra).contains (claim.lease worker)).toNat

/-- `EXISTS` over the three tables. -/
def LeaseTables.holds (t : LeaseTables) (id : LeaseId) : Bool :=
  t.ids.contains id

/-- `SET lease_until, updated_ts` on the row of one lease. -/
def ProfileLease.renewed (l : ProfileLease) (leaseUntil ts : Int) : ProfileLease :=
  { l with leaseUntil, updatedTs := ts }

/-- `renew_gemini_batch_profile_lease`: the number of rows renewed. -/
def renewGeminiBatchProfileLease (t : LeaseTables) (claim : GeminiBatchClaim)
    (worker : Owner) (leaseUntil ts : Int) : Except Error (Nat × LeaseTables) := do
  let id := claim.lease worker
  let late := fun (l : ProfileLease) => decide (ts < l.createdTs)
  failIf (t.slot1.any (fun k l => l.id k == id && late l)
    || t.slot2.any (fun k l => l.id k == id && late l)
    || t.extra.any (fun k l => l.id k.1 == id && late l)) (.sql "23514")
  return (((slotIds t.slot1).filter (· == id)).length + ((slotIds t.slot2).filter (· == id)).length
      + ((extraIds t.extra).filter (· == id)).length,
    { slot1 := t.slot1.update (fun k l => l.id k == id) (·.renewed leaseUntil ts)
      slot2 := t.slot2.update (fun k l => l.id k == id) (·.renewed leaseUntil ts)
      extra := t.extra.update (fun k l => l.id k.1 == id) (·.renewed leaseUntil ts) })

/-! ## Promotion -/

theorem perm_cons_filter {α β : Type} (f : α → β) {l : List α} {x : α}
    (hx : x ∈ l) (hn : (l.map f).Nodup) (p : α → Bool)
    (hp : ∀ y ∈ l, p y = true ↔ f y = f x) : l.Perm (x :: l.filter (fun y => !p y)) := by
  induction l with
  | nil => cases hx
  | cons a rest ih =>
    rw [map_cons, nodup_cons] at hn
    have hrest : ∀ y ∈ rest, p y = true ↔ f y = f x := fun y hy => hp y (mem_cons_of_mem _ hy)
    rcases mem_cons.mp hx with rfl | hmem
    · have hself : p x = true := (hp x (mem_cons_self ..)).mpr rfl
      have hkeep : rest.filter (fun y => !p y) = rest := by
        rw [List.filter_eq_self]
        intro y hy
        have hne : f y ≠ f x := fun heq => hn.1 (heq ▸ mem_map_of_mem hy)
        have hfalse : p y = false := by
          rw [← Bool.not_eq_true, hrest y hy]
          exact hne
        simp [hfalse]
      simp [hself, hkeep]
    · have hother : p a = false := by
        have hne : f a ≠ f x := fun heq => hn.1 (heq ▸ mem_map_of_mem hmem)
        rw [← Bool.not_eq_true, hp a (mem_cons_self ..)]
        exact hne
      rw [List.filter_cons_of_pos (by simp [hother])]
      exact ((ih hmem hn.2 hrest).cons a).trans (List.Perm.swap ..)

structure Promoted (t t' : LeaseTables) : Prop where
  perm : t'.ids.Perm t.ids
  sub2 : ∀ id ∈ slotIds t'.slot2, id ∈ slotIds t.slot2 ∨ id ∈ extraIds t.extra
  sub3 : ∀ id ∈ extraIds t'.extra, id ∈ extraIds t.extra

theorem Promoted.refl (t : LeaseTables) : Promoted t t :=
  ⟨.refl _, fun _ h => .inl h, fun _ h => h⟩

theorem Promoted.trans {t t'' : LeaseTables} (h : Promoted t t') (h' : Promoted t' t'') :
    Promoted t t'' where
  perm := h'.perm.trans h.perm
  sub2 := fun id hid => (h'.sub2 id hid).elim (h.sub2 id) (fun h3 => .inr (h.sub3 id h3))
  sub3 := fun id hid => h.sub3 id (h'.sub3 id hid)

theorem Promoted.onePerItem {t : LeaseTables} (h : Promoted t t') (hone : t.OnePerItem) :
    t'.OnePerItem :=
  (h.perm.map LeaseId.item).nodup_iff.mpr hone

section Promotion

variable {t : LeaseTables} {profileId : String}

theorem firstExtra_mem (h : firstExtra t profileId = some (k, l)) :
    (k, l) ∈ t.extra.rows ∧ k.1 = profileId := by
  have hmem := mem_select (List.mem_of_mem_head? h)
  exact ⟨mem_of_find? hmem.1, by simpa using hmem.2⟩

theorem insertUnique_ok {κ : Type} [DecidableEq κ] {u : Table κ ProfileLease} {k : κ}
    (hnone : u.find? k = none) (h : ∀ k' l', u.find? k' = some l' →
      (l'.jobId, l'.itemIndex) ≠ (l.jobId, l.itemIndex)) :
    insertUnique u k l = .ok (u.put k l) := by
  have hany : u.any (fun _ l' => l'.jobId == l.jobId
      && l'.itemIndex == l.itemIndex) = false := by
    rw [any_eq_false_iff]
    intro k' l' hfind
    simpa using h k' l' hfind
  simp [insertUnique, hnone, hany, failIf, bind, Except.bind, pure, Except.pure]

theorem extra_items_nodup (hone : t.OnePerItem) :
    (t.extra.rows.map (fun x => (x.2.jobId, x.2.itemIndex))).Nodup := by
  unfold LeaseTables.OnePerItem LeaseTables.ids at hone
  rw [map_append, nodup_append] at hone
  simpa [extraIds, List.map_map, Function.comp_def, LeaseId.item, ProfileLease.id] using hone.2.1

theorem extra_perm (hone : t.OnePerItem) (hmem : (k, l) ∈ t.extra.rows)
    (p : String × Int → ProfileLease → Bool) (hp : ∀ x ∈ t.extra.rows, p x.1 x.2 = true ↔
      (x.2.jobId, x.2.itemIndex) = (l.jobId, l.itemIndex)) :
    (extraIds t.extra).Perm (l.id k.1 :: extraIds (t.extra.delete p)) := by
  have hperm := perm_cons_filter (fun x : (String × Int) × ProfileLease =>
    (x.2.jobId, x.2.itemIndex)) hmem (extra_items_nodup hone)
    (fun x => p x.1 x.2) hp
  exact hperm.map (fun x : (String × Int) × ProfileLease => x.2.id x.1.1)

theorem ids_disjoint (hone : t.OnePerItem) {a b : LeaseId}
    (h : (a ∈ slotIds t.slot1 ∧ (b ∈ slotIds t.slot2 ∨ b ∈ extraIds t.extra)) ∨
      (a ∈ slotIds t.slot2 ∧ b ∈ extraIds t.extra)) : a.item ≠ b.item := by
  unfold LeaseTables.OnePerItem LeaseTables.ids at hone
  simp only [map_append, nodup_append, mem_append] at hone
  obtain ⟨⟨-, -, h12⟩, -, h3⟩ := hone
  rcases h with ⟨ha, hb | hb⟩ | ⟨ha, hb⟩
  · exact h12 _ (mem_map_of_mem ha) _ (mem_map_of_mem hb)
  · exact h3 _ (.inl (mem_map_of_mem ha)) _ (mem_map_of_mem hb)
  · exact h3 _ (.inr (mem_map_of_mem ha)) _ (mem_map_of_mem hb)

theorem mem_ids1 (h : t.slot1.find? profileId = some l) : l.id profileId ∈ slotIds t.slot1 :=
  mem_map.mpr ⟨(profileId, l), mem_of_find? h, rfl⟩

theorem mem_ids2 (h : t.slot2.find? profileId = some l) : l.id profileId ∈ slotIds t.slot2 :=
  mem_map.mpr ⟨(profileId, l), mem_of_find? h, rfl⟩

theorem mem_ids3 (h : (k, l) ∈ t.extra.rows) : l.id k.1 ∈ extraIds t.extra :=
  mem_map.mpr ⟨(k, l), h, rfl⟩

theorem extra_selects (hone : t.OnePerItem) (hmem : (k, l) ∈ t.extra.rows)
    {x : (String × Int) × ProfileLease} (hx : x ∈ t.extra.rows) :
    (x.2.jobId, x.2.itemIndex) = (l.jobId, l.itemIndex) ↔
      x.1 = k ∧ x.2.jobId = l.jobId ∧ x.2.itemIndex = l.itemIndex := by
  constructor
  · intro heq
    have hrow : x = (k, l) := List.inj_on_of_nodup_map (extra_items_nodup hone) hx hmem heq
    subst hrow
    exact ⟨rfl, rfl, rfl⟩
  · rintro ⟨-, hjob, hindex⟩
    rw [hjob, hindex]

theorem promoteExtraToSlot1_spec (hone : t.OnePerItem) (profileId : String) :
    ∃ t', promoteExtraToSlot1 t profileId = .ok t' ∧ Promoted t t' := by
  unfold promoteExtraToSlot1
  split
  · rename_i k l hnone hfirst
    obtain ⟨hmem, rfl⟩ := firstExtra_mem hfirst
    have hinsert : insertUnique t.slot1 k.1 l = .ok (t.slot1.put k.1 l) :=
      insertUnique_ok hnone fun k' l' hfind heq =>
        ids_disjoint hone (.inl ⟨mem_ids1 hfind, .inr (mem_ids3 hmem)⟩) heq
    have hperm := extra_perm hone hmem (fun k' l' => k'.1 == k.1
      && l'.jobId == l.jobId && l'.itemIndex == l.itemIndex) (by
        intro x hx
        rw [extra_selects hone hmem hx]
        simp only [guard_iffs, and_assoc]
        refine ⟨fun h => ?_, fun h => ⟨by rw [h.1], h.2⟩⟩
        have hitem : (x.2.jobId, x.2.itemIndex) = (l.jobId, l.itemIndex) := by
          rw [h.2.1, h.2.2]
        exact (extra_selects hone hmem hx).mp hitem)
    simp only [hinsert, bind, Except.bind, pure, Except.pure]
    refine ⟨_, rfl, ?_, fun id h => .inl h, fun id h => ?_⟩
    · have hslot1 : slotIds (t.slot1.put k.1 l) = slotIds t.slot1 ++ [l.id k.1] := by
        simp [slotIds, rows_put_new _ hnone]
      rw [perm_iff_count]
      intro id
      have hcount := hperm.count_eq id
      simp only [LeaseTables.ids, hslot1, count_append, count_cons, count_nil] at hcount ⊢
      omega
    · exact hperm.symm.subset (mem_cons_of_mem _ h)
  · exact ⟨t, rfl, .refl t⟩

theorem promoteExtraToSlot2_spec (hone : t.OnePerItem) (profileId : String) :
    ∃ t', promoteExtraToSlot2 t profileId = .ok t' ∧ Promoted t t' := by
  unfold promoteExtraToSlot2
  split
  · rename_i k l hnone hfirst
    obtain ⟨hmem, rfl⟩ := firstExtra_mem hfirst
    have hinsert : insertUnique t.slot2 k.1 l = .ok (t.slot2.put k.1 l) :=
      insertUnique_ok hnone fun k' l' hfind heq =>
        ids_disjoint hone (.inr ⟨mem_ids2 hfind, mem_ids3 hmem⟩) heq
    have hperm := extra_perm hone hmem (fun k' l' => k' == k
      && l'.jobId == l.jobId && l'.itemIndex == l.itemIndex) (by
        intro x hx
        rw [extra_selects hone hmem hx]
        simp only [guard_iffs, and_assoc])
    have hslot2 : slotIds (t.slot2.put k.1 l) = slotIds t.slot2 ++ [l.id k.1] := by
      simp [slotIds, rows_put_new _ hnone]
    simp only [hinsert, bind, Except.bind, pure, Except.pure]
    refine ⟨_, rfl, ?_, fun id h => ?_, fun id h => ?_⟩
    · rw [perm_iff_count]
      intro id
      have hcount := hperm.count_eq id
      simp only [LeaseTables.ids, hslot2, count_append, count_cons, count_nil] at hcount ⊢
      omega
    · simp only [hslot2, mem_append, mem_singleton] at h
      rcases h with h | rfl
      · exact .inl h
      · exact .inr (mem_ids3 hmem)
    · exact hperm.symm.subset (mem_cons_of_mem _ h)
  · exact ⟨t, rfl, .refl t⟩

theorem promoteExtra_spec (hone : t.OnePerItem) (profileId : String) :
    ∃ t', promoteExtra t profileId = .ok t' ∧ Promoted t t' := by
  obtain ⟨t1, h1, hp1⟩ := promoteExtraToSlot1_spec hone profileId
  obtain ⟨t2, h2, hp2⟩ := promoteExtraToSlot2_spec (hp1.onePerItem hone) profileId
  refine ⟨t2, ?_, hp1.trans hp2⟩
  simp [promoteExtra, h1, h2, bind, Except.bind]

theorem slot2_perm (hfind : t.slot2.find? profileId = some l) :
    (slotIds t.slot2).Perm (l.id profileId ::
      slotIds (t.slot2.delete (fun k _ => k == profileId))) := by
  have hperm := perm_cons_filter Prod.fst (mem_of_find? hfind)
    t.slot2.nodup (fun x => x.1 == profileId) (by simp)
  exact hperm.map (fun x : String × ProfileLease => x.2.id x.1)

theorem promoteSlot2_spec (hone : t.OnePerItem) (profileId : String) :
    ∃ t', promoteSlot2 t profileId = .ok t' ∧ Promoted t t' := by
  unfold promoteSlot2
  split
  · rename_i l hnone hfind
    have hinsert : insertUnique t.slot1 profileId l
        = .ok (t.slot1.put profileId l) :=
      insertUnique_ok hnone fun k' l' hfind' heq =>
        ids_disjoint hone (.inl ⟨mem_ids1 hfind', .inl (mem_ids2 hfind)⟩) heq
    have hslot1 : slotIds (t.slot1.put profileId l)
        = slotIds t.slot1 ++ [l.id profileId] := by
      simp [slotIds, rows_put_new _ hnone]
    have hperm := slot2_perm hfind
    have hmoved : Promoted t { t with
        slot1 := t.slot1.put profileId l
        slot2 := t.slot2.delete (fun k _ => k == profileId) } := by
      refine ⟨?_, fun id h => ?_, fun id h => h⟩
      · rw [perm_iff_count]
        intro id
        have hcount := hperm.count_eq id
        simp only [LeaseTables.ids, hslot1, count_append, count_cons, count_nil] at hcount ⊢
        omega
      · exact .inl (hperm.symm.subset (mem_cons_of_mem _ h))
    obtain ⟨t', hpromote, hp⟩ := promoteExtra_spec (hmoved.onePerItem hone) profileId
    refine ⟨t', ?_, hmoved.trans hp⟩
    simp [hinsert, hpromote, bind, Except.bind]
  · exact ⟨t, rfl, .refl t⟩

theorem afterDeleteSlot1_spec (hone : t.OnePerItem) (profileId : String) :
    ∃ t', afterDeleteSlot1 t profileId = .ok t' ∧ Promoted t t' := by
  obtain ⟨t1, h1, hp1⟩ := promoteSlot2_spec hone profileId
  obtain ⟨t2, h2, hp2⟩ := promoteExtra_spec (hp1.onePerItem hone) profileId
  refine ⟨t2, ?_, hp1.trans hp2⟩
  simp [afterDeleteSlot1, h1, h2, bind, Except.bind]

theorem foldTrigger_spec {f : LeaseTables → LeaseId → Except Error LeaseTables}
    (hf : ∀ t : LeaseTables, t.OnePerItem → ∀ id, ∃ t', f t id = .ok t' ∧ Promoted t t')
    (gone : List LeaseId) (hone : t.OnePerItem) :
    ∃ t', gone.foldlM f t = .ok t' ∧ Promoted t t' := by
  induction gone generalizing t with
  | nil => exact ⟨t, rfl, .refl t⟩
  | cons id _ ih =>
    obtain ⟨t1, h1, hp1⟩ := hf t hone id
    obtain ⟨t2, h2, hp2⟩ := ih (hp1.onePerItem hone)
    refine ⟨t2, ?_, hp1.trans hp2⟩
    simp [foldlM_cons, h1, h2, bind, Except.bind]

end Promotion

/-! ## Deletes -/

section Delete

variable {t : LeaseTables} {q : LeaseId → Bool}

theorem slotIds_delete (u : Table String ProfileLease) (q : LeaseId → Bool) :
    slotIds (u.delete (fun k l => q (l.id k))) = (slotIds u).filter (fun id => !q id) := by
  simp [slotIds, Table.delete, List.filter_map, Function.comp_def]

theorem extraIds_delete (u : Table (String × Int) ProfileLease) (q : LeaseId → Bool) :
    extraIds (u.delete (fun k l => q (l.id k.1))) = (extraIds u).filter (fun id => !q id) := by
  simp [extraIds, Table.delete, List.filter_map, Function.comp_def]

theorem onePerItem_of_sublist {t : LeaseTables} (h : t'.ids.Sublist t.ids)
    (hone : t.OnePerItem) : t'.OnePerItem :=
  hone.sublist (h.map LeaseId.item)

theorem countP_filter_not (l : List LeaseId) : (l.filter (fun id => !q id)).countP q = 0 := by
  rw [List.countP_eq_zero]
  intro id hid
  simpa using (mem_filter.mp hid).2

theorem deleteLeases_spec (hone : t.OnePerItem) (q : LeaseId → Bool) :
    ∃ t', deleteLeases t q = .ok (t.ids.countP q, t') ∧
      t'.ids.Perm (t.ids.filter (fun id => !q id)) := by
  -- the extra slots
  have hids1 : LeaseTables.ids (deleteExtra t q).2 = slotIds t.slot1
      ++ slotIds t.slot2 ++ (extraIds t.extra).filter (fun id => !q id) := by
    simp only [LeaseTables.ids, deleteExtra, extraIds_delete]
  have hone1 : LeaseTables.OnePerItem (deleteExtra t q).2 := by
    refine onePerItem_of_sublist ?_ hone
    rw [hids1]
    exact (List.Sublist.refl _).append filter_sublist
  -- slot 2: what its triggers move into slot 1 comes from the extra slots
  have hone2 : LeaseTables.OnePerItem { (deleteExtra t q).2 with
      slot2 := t.slot2.delete (fun k l => q (l.id k)) } := by
    refine onePerItem_of_sublist ?_ hone1
    simp only [LeaseTables.ids, slotIds_delete]
    exact ((List.Sublist.refl _).append filter_sublist).append (List.Sublist.refl _)
  obtain ⟨t2, hfold2, hp2⟩ := foldTrigger_spec
    (fun t hone (id : LeaseId) => promoteExtra_spec hone id.profileId)
    ((slotIds t.slot2).filter q) hone2
  have hrest2 : ∀ id, id ∈ slotIds t2.slot2 ∨ id ∈ extraIds t2.extra → q id = false := by
    intro id hid
    have hold : id ∈ (slotIds t.slot2).filter (fun id => !q id) ∨
        id ∈ (extraIds t.extra).filter (fun id => !q id) := by
      rw [← slotIds_delete, ← extraIds_delete]
      exact hid.elim (hp2.sub2 id) (fun h => .inr (hp2.sub3 id h))
    rcases hold with h | h <;> simpa using (mem_filter.mp h).2
  -- slot 1
  have hone3 : LeaseTables.OnePerItem { t2 with
      slot1 := t2.slot1.delete (fun k l => q (l.id k)) } := by
    refine onePerItem_of_sublist ?_ (hp2.onePerItem hone2)
    simp only [LeaseTables.ids, slotIds_delete]
    exact (filter_sublist.append (List.Sublist.refl _)).append (List.Sublist.refl _)
  obtain ⟨t3, hfold3, hp3⟩ := foldTrigger_spec
    (fun t hone (id : LeaseId) => afterDeleteSlot1_spec hone id.profileId)
    ((slotIds t2.slot1).filter q) hone3
  have hcount2 := fun id => hp2.perm.count_eq id
  have hcountP2 := hp2.perm.countP_eq q
  have hcount3 := fun id => hp3.perm.count_eq id
  simp only [LeaseTables.ids, deleteExtra, slotIds_delete, extraIds_delete,
    count_append, List.countP_append] at hcount2 hcountP2 hcount3
  refine ⟨t3, ?_, ?_⟩
  · have hslot2 : (slotIds t2.slot2).countP q = 0 := by
      rw [List.countP_eq_zero]
      exact fun id hid => by simp [hrest2 id (.inl hid)]
    have hextra : (extraIds t2.extra).countP q = 0 := by
      rw [List.countP_eq_zero]
      exact fun id hid => by simp [hrest2 id (.inr hid)]
    simp only [countP_filter_not] at hcountP2
    have hgone : (slotIds t2.slot1).countP q = (slotIds t.slot1).countP q := by omega
    simp only [deleteLeases, deleteSlot2, deleteSlot1, deleteExtra, bind,
      Except.bind, pure, Except.pure] at hfold2 ⊢
    rw [hfold2]
    simp only [hfold3, LeaseTables.ids, List.countP_append,
      ← List.countP_eq_length_filter, hgone, Except.ok.injEq, Prod.mk.injEq,
      and_true]
    omega
  · rw [perm_iff_count]
    intro id
    rw [LeaseTables.ids, count_append, count_append, hcount3 id]
    simp only [LeaseTables.ids, filter_append, count_append]
    cases hq : q id with
    | true =>
      -- the lease is deleted wherever it was
      have hgone : ∀ l : List LeaseId,
          (l.filter (fun id => !q id)).count id = 0 := fun l =>
        List.count_eq_zero_of_not_mem fun hmem => by simpa [hq] using (mem_filter.mp hmem).2
      have hslot2 : (slotIds t2.slot2).count id = 0 :=
        List.count_eq_zero_of_not_mem fun hmem => by simpa [hq] using hrest2 id (.inl hmem)
      have hextra : (extraIds t2.extra).count id = 0 :=
        List.count_eq_zero_of_not_mem fun hmem => by simpa [hq] using hrest2 id (.inr hmem)
      rw [hgone, hgone, hgone, hgone, hslot2, hextra]
    | false =>
      have hkeep : ∀ l : List LeaseId,
          (l.filter (fun id => !q id)).count id = l.count id := fun l =>
        List.count_filter (by simp [hq])
      have hcount := hcount2 id
      rw [hkeep, hkeep] at hcount
      rw [hkeep, hkeep, hkeep, hkeep]
      exact hcount

theorem deleteLeases_ok (hone : t.OnePerItem) {q : LeaseId → Bool}
    (h : deleteLeases t q = .ok (n, t')) :
    n = t.ids.countP q ∧ t'.ids.Perm (t.ids.filter (fun id => !q id)) := by
  obtain ⟨t'', hspec, hperm⟩ := deleteLeases_spec hone q
  rw [hspec, Except.ok.injEq, Prod.mk.injEq] at h
  obtain ⟨rfl, rfl⟩ := h
  exact ⟨rfl, hperm⟩

end Delete

/-! ## Reads and renewals -/

section Read

variable {t : LeaseTables} {claim : GeminiBatchClaim} {worker : Owner}

theorem ids_nodup (hone : t.OnePerItem) : t.ids.Nodup := List.Nodup.of_map _ hone

theorem toNat_contains {l : List LeaseId} (h : l.Nodup) (id : LeaseId) :
    (l.contains id).toNat = l.count id := by
  by_cases hmem : id ∈ l
  · rw [List.count_eq_one_of_mem h hmem]
    simp [hmem]
  · rw [List.count_eq_zero_of_not_mem hmem]
    simp [hmem]

theorem lockGeminiBatchProfileLease_eq (hone : t.OnePerItem) :
    lockGeminiBatchProfileLease t claim worker = t.ids.count (claim.lease worker) := by
  have hnodup := ids_nodup hone
  unfold LeaseTables.ids at hnodup ⊢
  rw [nodup_append, nodup_append] at hnodup
  rw [lockGeminiBatchProfileLease, toNat_contains hnodup.1.1,
    toNat_contains hnodup.1.2.1, toNat_contains hnodup.2.1, count_append,
    count_append]

theorem slotIds_renewed (u : Table String ProfileLease) (id : LeaseId)
    (leaseUntil ts : Int) :
    slotIds (u.update (fun k l => l.id k == id) (·.renewed leaseUntil ts)) = slotIds u := by
  simp only [slotIds, Table.update, List.map_map]
  apply map_congr_left
  rintro ⟨k, l⟩ -
  simp only [Function.comp_apply]
  split <;> rfl

theorem extraIds_renewed (u : Table (String × Int) ProfileLease) (id : LeaseId)
    (leaseUntil ts : Int) :
    extraIds (u.update (fun k l => l.id k.1 == id) (·.renewed leaseUntil ts)) = extraIds u := by
  simp only [extraIds, Table.update, List.map_map]
  apply map_congr_left
  rintro ⟨k, l⟩ -
  simp only [Function.comp_apply]
  split <;> rfl

theorem renewGeminiBatchProfileLease_ids {leaseUntil ts : Int}
    (h : renewGeminiBatchProfileLease t claim worker leaseUntil ts
      = .ok (n, t')) : t'.ids = t.ids := by
  simp only [renewGeminiBatchProfileLease, ok_steps] at h
  obtain ⟨-, -, rfl⟩ := h
  simp only [LeaseTables.ids, slotIds_renewed, extraIds_renewed]

end Read

end ApiToken.Gemini
