import ApiToken.Team.Invariant

/-!
# Changing a grant

The cascade over the B2B grants, in two halves. The first computes a target
for the root and for everyone who inherits from it, each from the target of
its source (`Targets`). The second writes the targets from the bottom and has
a closed form like the one for the ceilings (`GrantedBy`): heirs are written
before their source, so a source never drops below a grant that still rests
on it.

Raising goes through the same loop: an heir keeps what it had.
-/

namespace ApiToken.Team

open Descent

variable {a : B2BAuthority} {l l₁ l₂ : List String} {c k s : String} {i : Invite}
  {p : Partner} {m : Nat}

variable {db db₁ db₂ : Sales} {root : String} {rt : B2BAuthority}
  {targets : Table String B2BAuthority} {S : List String}

/-! ## Targets -/

/-- Can a grant of this size be handed on? -/
def B2BAuthority.delegates (a : B2BAuthority) (maximumBps : Nat) : Bool :=
  a.enabled && a.canDelegate && maximumBps ≤ a.maximumBps

/-- Within the column checks; a revoked grant has nothing left. -/
structure B2BAuthority.Valid (a : B2BAuthority) : Prop where
  maximum : a.enabled = true → a.maximumBps ≤ 9500
  revoked : a.enabled = false → a = .revoked

def inherited (row : Partner) (source : B2BAuthority) : B2BAuthority :=
  if source.enabled && source.canDelegate && row.b2bEnabled then
    ⟨true, min row.b2bMaxDiscountBps source.maximumBps, row.b2bCanDelegate,
      row.b2bGrantSourcePartnerId⟩
  else .revoked

theorem revoked_valid : B2BAuthority.revoked.Valid := ⟨nofun, fun _ => rfl⟩

variable {target : B2BAuthority} {row : Partner} {id : String}

theorem normalizedAuthority_valid (h : normalizedAuthority a = .ok target) : target.Valid := by
  unfold normalizedAuthority at h
  split at h
  · obtain rfl := Except.ok.inj h
    exact revoked_valid
  · rename_i he
    split at h
    · cases h
    · rename_i hm
      obtain rfl := Except.ok.inj h
      refine ⟨fun _ => Nat.le_of_not_lt hm, fun hd => ?_⟩
      rw [hd] at he
      exact absurd rfl he

theorem inherited_valid (hc : PartnerChecks row) (source : B2BAuthority) :
    (inherited row source).Valid := by
  unfold inherited
  split
  · rename_i h
    simp only [guard_iffs] at h
    exact ⟨fun _ => (Nat.min_le_left ..).trans (hc.enabled h.2), nofun⟩
  · exact revoked_valid

theorem inheritedAuthority_eq (hc : PartnerChecks row) (source : B2BAuthority) :
    inheritedAuthority row (some source) = .ok (inherited row source) := by
  have hrevoked : normalizedAuthority .revoked = .ok .revoked := rfl
  simp only [inheritedAuthority, inherited]
  cases hd : source.enabled && source.canDelegate with
  | false => simp [hrevoked]
  | true =>
    cases he : row.b2bEnabled with
    | false => simp [normalizedAuthority]
    | true =>
      have hmax := hc.enabled he
      have hle : ¬ 9500 < min row.b2bMaxDiscountBps source.maximumBps := by omega
      simp only [normalizedAuthority, Bool.not_true, Bool.false_eq_true, if_false,
        Bool.and_self, if_true, if_neg hle]

theorem inherited_enabled {source : B2BAuthority} (h : (inherited row source).enabled = true) :
    source.delegates (inherited row source).maximumBps = true ∧
      row.b2bEnabled = true ∧
      (inherited row source).maximumBps ≤ row.b2bMaxDiscountBps ∧
      (inherited row source).sourcePartnerId = row.b2bGrantSourcePartnerId := by
  unfold inherited at h ⊢
  split at h
  · rename_i hd
    rw [if_pos hd]
    simp only [guard_iffs] at hd
    refine ⟨?_, hd.2, Nat.min_le_left .., rfl⟩
    simp [B2BAuthority.delegates, hd.1.1, hd.1.2]
  · cases h

structure Targets (db : Sales) (root : String) (rt : B2BAuthority) (l : List String)
    (targets : Table String B2BAuthority) : Prop where
  atRoot : targets.find? root = some rt
  heir : ∀ id ∈ l, id ≠ root → ∃ row s source, db.partners.find? id = some row ∧
    row.b2bGrantSourcePartnerId = some s ∧ s ∈ l ∧ targets.find? s = some source ∧
    targets.find? id = some (inherited row source)

theorem Targets.exists_target (ht : Targets db root rt l targets) (hid : id ∈ l) :
    ∃ target, targets.find? id = some target := by
  by_cases hroot : id = root
  · exact ⟨rt, hroot ▸ ht.atRoot⟩
  · obtain ⟨row, s, source, -, -, -, -, htarget⟩ := ht.heir id hid hroot
    exact ⟨_, htarget⟩

theorem targetStep_ok (h : Sound db) (ht : Targets db root rt l targets)
    (hroot : root ∈ l) (hfresh : c ∉ l)
    (hchild : ∃ k ∈ l, IsChild sourceLink db.partners k c) :
    ∃ targets', targetStep db.partners targets c = .ok targets' ∧
      Targets db root rt (l ++ [c]) targets' := by
  obtain ⟨k, hk, row, hrow, hlink⟩ := hchild
  have hlink : row.b2bGrantSourcePartnerId = some k := hlink
  obtain ⟨source, hsource⟩ := ht.exists_target hk
  have hne : ∀ id ∈ l, c ≠ id := fun id hid heq => hfresh (heq ▸ hid)
  refine ⟨targets.put c (inherited row source), ?_, ?_, ?_⟩
  · simp only [targetStep, hrow, hlink, bind_some, hsource,
      inheritedAuthority_eq (h.partnerChecks hrow), ok_steps, Except.ok.injEq, exists_eq_left']
  · rw [find?_put_ne _ _ (hne root hroot)]
    exact ht.atRoot
  · intro id hid hnr
    rcases mem_append.mp hid with hid | hid
    · obtain ⟨row', s, source', hrow', hs, hsl, hsource', htarget⟩ := ht.heir id hid hnr
      refine ⟨row', s, source', hrow', hs, mem_append_left _ hsl, ?_, ?_⟩
      · rw [find?_put_ne _ _ (hne s hsl)]
        exact hsource'
      · rw [find?_put_ne _ _ (hne id hid)]
        exact htarget
    · obtain rfl := mem_singleton.mp hid
      refine ⟨row, k, source, hrow, hlink, mem_append_left _ hk, ?_, ?_⟩
      · rw [find?_put_ne _ _ (hne k hk)]
        exact hsource
      · exact find?_put_self ..

theorem foldlM_targets (h : Sound db)
    (hsplit : rootFirst sourceLink db.partners root = l₁ ++ l₂) (hroot : root ∈ l₁)
    (ht : Targets db root rt l₁ targets) :
    ∃ targets', l₂.foldlM (targetStep db.partners) targets = .ok targets' ∧
      Targets db root rt (rootFirst sourceLink db.partners root) targets' := by
  induction l₂ generalizing l₁ targets with
  | nil =>
    rw [append_nil] at hsplit
    exact ⟨targets, rfl, hsplit ▸ ht⟩
  | cons c rest ih =>
    have hfresh : c ∉ l₁ := by
      have hnodup := rootFirst_nodup sourceLink db.partners root
      rw [hsplit] at hnodup
      exact fun hmem => (List.disjoint_of_nodup_append hnodup) hmem (by simp)
    have hchild := rootFirst_parentsFirst l₁ c rest hsplit (fun heq => hfresh (heq ▸ hroot))
    obtain ⟨targets2, hstep, ht2⟩ := targetStep_ok h ht hroot hfresh hchild
    obtain ⟨targets3, hrest, ht3⟩ := ih (by rw [hsplit]; simp) (mem_append_left _ hroot) ht2
    refine ⟨targets3, ?_, ht3⟩
    simp only [foldlM_cons, bind_eq_ok]
    exact ⟨targets2, hstep, hrest⟩

theorem targets_ok (h : Sound db) (hrow : db.partners.find? root = some row) (rt : B2BAuthority) :
    ∃ targets, (rootFirst sourceLink db.partners root).tail.foldlM
        (targetStep db.partners) (Table.empty.put root rt) = .ok targets ∧
      Targets db root rt (rootFirst sourceLink db.partners root) targets := by
  refine foldlM_targets h (rootFirst_eq_cons hrow) (mem_singleton_self root) ?_
  refine ⟨find?_put_self .., fun id hid hne => ?_⟩
  exact absurd (mem_singleton.mp hid) hne

theorem Sound.isChild_parent (h : Sound db) (hchild : IsChild sourceLink db.partners k c) :
    IsChild parentLink db.partners k c := by
  obtain ⟨p, hp, hk⟩ := hchild
  exact ⟨p, hp, (h.granted c p hp k hk).1⟩

theorem Sound.acyclicSource (h : Sound db) : Acyclic sourceLink db.partners := by
  obtain ⟨rank, hrank⟩ := h.acyclic
  exact ⟨rank, fun k c hc => hrank k c (h.isChild_parent hc)⟩

/-- The root and those who inherit from it. -/
abbrev heirsOf (db : Sales) (root : String) : List String :=
  leafFirst sourceLink db.partners root

theorem Sound.under_of_heir (h : Sound db) (hk : k ∈ heirsOf db root) :
    Under parentLink db.partners root k :=
  Relation.ReflTransGen.mono (fun _ _ hc => h.isChild_parent hc) _ _ (under_of_mem_leafFirst hk)

structure Plan (db : Sales) (root : String) (rt : B2BAuthority)
    (targets : Table String B2BAuthority) : Prop where
  sound : Sound db
  heirs : Targets db root rt (heirsOf db root) targets
  valid : rt.Valid
  source : ∀ s, rt.sourcePartnerId = some s →
    ∃ row source, db.partners.find? root = some row ∧ row.parentPartnerId = some s ∧
      db.partners.find? s = some source ∧ source.delegates rt.maximumBps = true

section Plan

variable (hplan : Plan db root rt targets) {id : String} {target : B2BAuthority}
include hplan

theorem Plan.target_valid (hid : id ∈ heirsOf db root)
    (ht : targets.find? id = some target) : target.Valid := by
  by_cases hne : id = root
  · subst hne
    obtain rfl : rt = target := some.inj (hplan.heirs.atRoot.symm.trans ht)
    exact hplan.valid
  · obtain ⟨row, s, source, hrow, -, -, -, ht'⟩ := hplan.heirs.heir id hid hne
    obtain rfl := some.inj (ht'.symm.trans ht)
    exact inherited_valid (hplan.sound.partnerChecks hrow) source

theorem Plan.heir (hid : id ∈ heirsOf db root) (hne : id ≠ root)
    (ht : targets.find? id = some target) (hs : target.sourcePartnerId = some s) :
    ∃ row source, db.partners.find? id = some row ∧
      row.b2bGrantSourcePartnerId = some s ∧
      target.maximumBps ≤ row.b2bMaxDiscountBps ∧ s ∈ heirsOf db root ∧
      targets.find? s = some source ∧ source.delegates target.maximumBps = true := by
  obtain ⟨row, s', source, hrow, hs', hsl, hsource, ht'⟩ := hplan.heirs.heir id hid hne
  obtain rfl := some.inj (ht'.symm.trans ht)
  have henabled : (inherited row source).enabled = true := by
    cases he : (inherited row source).enabled with
    | true => rfl
    | false =>
      rw [(hplan.target_valid hid ht).revoked he] at hs
      cases hs
  obtain ⟨hd, -, hle, hsrc⟩ := inherited_enabled henabled
  obtain rfl : s' = s := by
    rw [hsrc, hs'] at hs
    exact some.inj hs
  exact ⟨row, source, hrow, hs', hle, hsl, hsource, hd⟩

theorem Plan.source_delegates (hid : id ∈ heirsOf db root)
    (ht : targets.find? id = some target) (hs : target.sourcePartnerId = some s) :
    ∃ row source, db.partners.find? id = some row ∧ row.parentPartnerId = some s ∧
      db.partners.find? s = some source ∧
      source.delegates target.maximumBps = true := by
  by_cases hne : id = root
  · subst hne
    obtain rfl : rt = target := some.inj (hplan.heirs.atRoot.symm.trans ht)
    exact hplan.source s hs
  · obtain ⟨row, -, hrow, hlink, hle, -, -, -⟩ := hplan.heir hid hne ht hs
    obtain ⟨hparent, source, hsource, hd⟩ := hplan.sound.granted id row hrow s hlink
    exact ⟨row, source, hrow, hparent, hsource, Partner.delegates_mono hd hle⟩

theorem Plan.root_source (hs : rt.sourcePartnerId = some s) : s ∉ heirsOf db root := by
  intro hmem
  obtain ⟨row, -, hrow, hparent, -, -⟩ := hplan.source s hs
  exact not_under_child hplan.sound.acyclic ⟨row, hrow, hparent⟩ (hplan.sound.under_of_heir hmem)

end Plan

/-! ## The closed form -/

def grantOf (targets : Table String B2BAuthority) (S : List String) (id : String) :
    Option B2BAuthority :=
  if id ∈ S then targets.find? id else none

def grantedPartner (targets : Table String B2BAuthority) (S : List String) (id : String)
    (p : Partner) : Partner :=
  match grantOf targets S id with
  | some target => p.withB2B target
  | none => p

def grantedInvite (targets : Table String B2BAuthority) (S : List String)
    (i : Invite) : Invite :=
  match (if i.isOpen && i.b2bEnabled then i.partnerId.bind (grantOf targets S)
    else none) with
  | some target => target.narrowInvite i
  | none => i

/-- `db₁` is `db` with the rows of `S` written. -/
structure GrantedBy (db : Sales) (targets : Table String B2BAuthority) (S : List String)
    (db₁ : Sales) : Prop where
  partners : ∀ id, db₁.partners.find? id =
    (db.partners.find? id).map (grantedPartner targets S id)
  invites : ∀ id, db₁.invites.find? id =
    (db.invites.find? id).map (grantedInvite targets S)

theorem grantedPartner_of_mem (hid : id ∈ S) (ht : targets.find? id = some target) (p : Partner) :
    grantedPartner targets S id p = p.withB2B target := by
  simp [grantedPartner, grantOf, hid, ht]

theorem grantedPartner_of_notMem (hid : id ∉ S) (p : Partner) :
    grantedPartner targets S id p = p := by
  simp [grantedPartner, grantOf, hid]

theorem grantedInvite_of_mem {q : String} (ho : i.isOpen = true) (he : i.b2bEnabled = true)
    (hq : i.partnerId = some q) (hS : q ∈ S) (ht : targets.find? q = some target) :
    grantedInvite targets S i = target.narrowInvite i := by
  simp [grantedInvite, grantOf, ho, he, hq, hS, ht]

theorem grantedInvite_of_notMem (hq : ∀ q, i.partnerId = some q → q ∉ S) :
    grantedInvite targets S i = i := by
  cases hp : i.partnerId with
  | none => simp [grantedInvite, hp]
  | some q => simp [grantedInvite, grantOf, hp, hq q hp]

theorem grantedInvite_of_idle (h : (i.isOpen && i.b2bEnabled) = false) :
    grantedInvite targets S i = i := by
  simp [grantedInvite, h]

theorem GrantedBy.refl (db : Sales) (targets : Table String B2BAuthority) :
    GrantedBy db targets [] db := by
  constructor
  · intro id
    cases hp : db.partners.find? id with
    | none => rfl
    | some => rw [map_some, grantedPartner_of_notMem (not_mem_nil)]
  · intro id
    cases hi : db.invites.find? id with
    | none => rfl
    | some => rw [map_some, grantedInvite_of_notMem (fun _ _ => not_mem_nil)]

theorem GrantedBy.partner (h : GrantedBy db targets S db₁) (hp : db.partners.find? id = some p) :
    db₁.partners.find? id = some (grantedPartner targets S id p) := by
  rw [h.partners, hp, map_some]

theorem GrantedBy.before (h : GrantedBy db targets S db₁) {p1 : Partner}
    (hp : db₁.partners.find? id = some p1) :
    ∃ p, db.partners.find? id = some p ∧ p1 = grantedPartner targets S id p := by
  rw [h.partners] at hp
  obtain ⟨p, hp, heq⟩ := map_eq_some_iff.mp hp
  exact ⟨p, hp, heq.symm⟩

theorem GrantedBy.inviteBefore (h : GrantedBy db targets S db₁) {i1 : Invite}
    (hi : db₁.invites.find? id = some i1) :
    ∃ i, db.invites.find? id = some i ∧ i1 = grantedInvite targets S i := by
  rw [h.invites] at hi
  obtain ⟨i, hi, heq⟩ := map_eq_some_iff.mp hi
  exact ⟨i, hi, heq.symm⟩

theorem grantedPartner_rest (targets : Table String B2BAuthority) (S : List String)
    (id : String) (p : Partner) : (grantedPartner targets S id p).withB2B p.b2b = p := by
  unfold grantedPartner
  split <;> rfl

theorem grantedInvite_rest (targets : Table String B2BAuthority) (S : List String)
    (i : Invite) :
    (grantedInvite targets S i).partnerId = i.partnerId ∧
      (grantedInvite targets S i).commerceUserId = i.commerceUserId ∧
      (grantedInvite targets S i).isOpen = i.isOpen ∧
      (grantedInvite targets S i).teamOverrideMaxBps = i.teamOverrideMaxBps ∧
      (grantedInvite targets S i).parentOverrideBps = i.parentOverrideBps ∧
      (grantedInvite targets S i).revokedAt = i.revokedAt := by
  unfold grantedInvite
  split
  · unfold B2BAuthority.narrowInvite
    split <;> exact ⟨rfl, rfl, rfl, rfl, rfl, rfl⟩
  · exact ⟨rfl, rfl, rfl, rfl, rfl, rfl⟩

/-! ## One row of the loop -/

/-- Below `r`, the heirs are written. -/
structure AtHeir (db : Sales) (root : String) (S : List String) (r : String) : Prop where
  fresh : r ∉ S
  mem : r ∈ heirsOf db root
  heirs : ∀ c p, db.partners.find? c = some p → p.b2bGrantSourcePartnerId = some r → c ∈ S
  closed : ∀ k ∈ S, ∀ c p, db.partners.find? c = some p →
    p.b2bGrantSourcePartnerId = some k → c ∈ S
  subset : ∀ k ∈ S, k ∈ heirsOf db root

variable {r : String} {row : Partner} {target : B2BAuthority}

theorem AtHeir.root_fresh (hat : AtHeir db root S r) : root ∉ S := by
  intro hroot
  have hall : ∀ k, Under sourceLink db.partners root k → k ∈ S := by
    intro k hk
    induction hk with
    | refl => exact hroot
    | tail _ hchild ih =>
      obtain ⟨p, hp, hlink⟩ := hchild
      exact hat.closed _ ih _ p hp hlink
  exact hat.fresh (hall r (under_of_mem_leafFirst hat.mem))

theorem B2BAuthority.delegates_iff :
    a.delegates m = true ↔ a.enabled = true ∧ a.canDelegate = true ∧ m ≤ a.maximumBps := by
  simp [B2BAuthority.delegates, and_assoc]

theorem narrowInvite_delegates (h : (a.narrowInvite i).b2bEnabled = true) :
    a.delegates (a.narrowInvite i).b2bMaxDiscountBps = true := by
  unfold B2BAuthority.narrowInvite at h ⊢
  split at h
  · rename_i hd
    rw [if_pos hd]
    simp only [guard_iffs] at hd
    exact B2BAuthority.delegates_iff.mpr ⟨hd.1, hd.2, Nat.min_le_right ..⟩
  · cases h

theorem narrowInvite_le (h : (a.narrowInvite i).b2bEnabled = true) :
    i.b2bEnabled = true ∧ (a.narrowInvite i).b2bMaxDiscountBps ≤ i.b2bMaxDiscountBps := by
  unfold B2BAuthority.narrowInvite at h ⊢
  split at h
  · rename_i hd
    rw [if_pos hd]
    exact ⟨h, Nat.min_le_left ..⟩
  · cases h

theorem narrowInvite_check (he : i.b2bEnabled = true) (h : i.check = true) :
    (a.narrowInvite i).check = true := by
  simp only [Invite.check, guard_iffs, authorityCheck_iff] at h
  obtain ⟨⟨hteam, hedge, hmax, -⟩, hrevoked⟩ := h
  unfold B2BAuthority.narrowInvite
  split
  · simp only [Invite.check, guard_iffs, authorityCheck_iff]
    refine ⟨⟨hteam, hedge, fun _ => (Nat.min_le_left ..).trans (hmax he), fun hd => ?_⟩, hrevoked⟩
    have hd : i.b2bEnabled = false := hd
    rw [he] at hd
    cases hd
  · simp only [Invite.check, guard_iffs, authorityCheck_iff]
    exact ⟨⟨hteam, hedge, nofun, fun _ => ⟨rfl, rfl⟩⟩, hrevoked⟩

theorem updateInvites_granted (h : Sound db) (hg : GrantedBy db targets S db₁)
    (hat : AtHeir db root S r) (hrow : db.partners.find? r = some row)
    (ht : targets.find? r = some target) :
    ∃ db₂, updateInvites db₁ (fun i => openOf r i && i.b2bEnabled) target.narrowInvite
        guardInviteB2B = .ok db₂ ∧ db₂.partners = db₁.partners ∧
      ∀ id, db₂.invites.find? id =
        (db.invites.find? id).map (grantedInvite targets (S ++ [r])) := by
  have hr1 : db₁.partners.find? r = some row := by
    rw [hg.partner hrow, grantedPartner_of_notMem hat.fresh]
  have hsame : ∀ i : Invite, i.partnerId = some r → grantedInvite targets S i = i := by
    intro i hi
    refine grantedInvite_of_notMem (fun q hq => ?_)
    obtain rfl := some.inj (hi.symm.trans hq)
    exact hat.fresh
  refine ⟨_, updateInvites_ok ?_, rfl, ?_⟩
  · intro id i1 hi1 hsel
    obtain ⟨i, hi, rfl⟩ := hg.inviteBefore hi1
    simp only [openOf, guard_iffs, (grantedInvite_rest targets S i).1] at hsel
    obtain ⟨⟨hp, ho⟩, he⟩ := hsel
    rw [hsame i hp] at ho he ⊢
    obtain ⟨inviter, hq, -, -, hb2b⟩ := (h.invites id i hi ho).inviter r hp
    obtain rfl : row = inviter := some.inj (hrow.symm.trans hq)
    simp only [guardInviteB2B, ok_steps, inviteB2BBounds_ok, checkInvite_ok]
    refine ⟨fun hen s hs => ?_, narrowInvite_check he (h.inviteChecks id i hi)⟩
    have hs : i.partnerId = some s := by
      unfold B2BAuthority.narrowInvite at hs
      split at hs <;> exact hs
    obtain rfl : r = s := some.inj (hp.symm.trans hs)
    exact ⟨row, hr1, Partner.delegates_mono (hb2b he) (narrowInvite_le hen).2⟩
  · intro id
    rw [find?_mapRows, hg.invites, Option.map_map]
    congr 1
    funext i
    obtain ⟨hpartner, -, hopen, -⟩ := grantedInvite_rest targets S i
    simp only [Function.comp_apply, openOf, hpartner, hopen]
    by_cases hp : i.partnerId = some r
    · rw [hsame i hp]
      cases hi : i.isOpen && i.b2bEnabled with
      | false =>
        rw [grantedInvite_of_idle hi]
        simp [hp, hi]
      | true =>
        simp only [guard_iffs] at hi
        rw [grantedInvite_of_mem hi.1 hi.2 hp (by simp) ht]
        simp [hp, hi]
    · have hnext : grantedInvite targets S i = grantedInvite targets (S ++ [r]) i := by
        cases hq : i.partnerId with
        | none => simp [grantedInvite, hq]
        | some q =>
          have hqr : q ≠ r := fun e => hp (by rw [hq, e])
          simp [grantedInvite, hq, grantOf, hqr]
      simp [hp, hnext]

/-- The state in which only the row itself is left to write. -/
structure InvitesNarrowed (db : Sales) (targets : Table String B2BAuthority)
    (S : List String) (r : String) (db₂ : Sales) : Prop where
  partners : ∀ id, db₂.partners.find? id =
    (db.partners.find? id).map (grantedPartner targets S id)
  invites : ∀ id, db₂.invites.find? id =
    (db.invites.find? id).map (grantedInvite targets (S ++ [r]))

section

variable (hn : InvitesNarrowed db targets S r db₂)
include hn

theorem InvitesNarrowed.bounds (hplan : Plan db root rt targets) (hat : AtHeir db root S r)
    (hrow : db.partners.find? r = some row) (ht : targets.find? r = some target) :
    enforcePartnerB2BAuthorityBounds db₂ (row.withB2B target) = .ok () := by
  rw [b2bBounds_ok]
  intro _ s hs
  have hs : target.sourcePartnerId = some s := hs
  obtain ⟨row', source, hrow', hparent, hsource, hd⟩ := hplan.source_delegates hat.mem ht hs
  obtain rfl : row = row' := some.inj (hrow.symm.trans hrow')
  have hout : s ∉ S := by
    intro hmem
    by_cases hne : r = root
    · subst hne
      obtain rfl : rt = target := some.inj (hplan.heirs.atRoot.symm.trans ht)
      exact hplan.root_source hs (hat.subset s hmem)
    · obtain ⟨row', -, hrow', hlink, -⟩ := hplan.heir hat.mem hne ht hs
      exact hat.fresh (hat.closed s hmem r row' hrow' hlink)
  refine ⟨hparent, source, ?_, hd⟩
  rw [hn.partners, hsource, map_some, grantedPartner_of_notMem hout]

theorem InvitesNarrowed.heirs (hplan : Plan db root rt targets) (hat : AtHeir db root S r)
    (ht : targets.find? r = some target) {p2 : Partner} (hp2 : db₂.partners.find? c = some p2)
    (hlink : p2.b2bGrantSourcePartnerId = some r) :
    target.delegates p2.b2bMaxDiscountBps = true := by
  rw [hn.partners] at hp2
  obtain ⟨p, hp, rfl⟩ := map_eq_some_iff.mp hp2
  by_cases hc : c ∈ S
  · obtain ⟨tc, htc⟩ := hplan.heirs.exists_target (hat.subset c hc)
    rw [grantedPartner_of_mem hc htc] at hlink ⊢
    have hne : c ≠ root := fun heq => hat.root_fresh (heq ▸ hc)
    obtain ⟨-, source, -, -, -, -, hsource, hd⟩ := hplan.heir (hat.subset c hc) hne htc hlink
    obtain rfl : target = source := some.inj (ht.symm.trans hsource)
    exact hd
  · rw [grantedPartner_of_notMem hc] at hlink
    exact absurd (hat.heirs c p hp hlink) hc

theorem InvitesNarrowed.narrowed (ht : targets.find? r = some target) {i2 : Invite}
    (hi2 : db₂.invites.find? id = some i2) (hp : i2.partnerId = some r) (ho : i2.isOpen = true)
    (he : i2.b2bEnabled = true) :
    target.delegates i2.b2bMaxDiscountBps = true := by
  rw [hn.invites] at hi2
  obtain ⟨i, hi, rfl⟩ := map_eq_some_iff.mp hi2
  obtain ⟨hpartner, -, hopen, -⟩ := grantedInvite_rest targets (S ++ [r]) i
  rw [hpartner] at hp
  rw [hopen] at ho
  cases hen : i.b2bEnabled with
  | false =>
    rw [grantedInvite_of_idle (by simp [hen]), hen] at he
    cases he
  | true =>
    rw [grantedInvite_of_mem ho hen hp (by simp) ht] at he ⊢
    exact narrowInvite_delegates he

end

theorem check_granted (hc : PartnerChecks row) (hv : target.Valid) :
    PartnerChecks (row.withB2B target) := by
  refine ⟨hc.team, hc.edge, hv.maximum, ?_, hc.sub, ?_, hc.program⟩
  · intro hd
    have hrev := hv.revoked hd
    rw [hrev]
    exact ⟨rfl, rfl⟩
  · intro hd
    have hrev := hv.revoked hd
    rw [hrev]
    rfl

theorem writeGrant_granted (hplan : Plan db root rt targets)
    (hat : AtHeir db root S r) (hrow : db.partners.find? r = some row)
    (ht : targets.find? r = some target) (hn : InvitesNarrowed db targets S r db₂) :
    ∃ db3, writeGrant db₂ r row.b2b target = .ok db3 ∧ GrantedBy db targets (S ++ [r]) db3 := by
  have hr2 : db₂.partners.find? r = some row := by
    rw [hn.partners, hrow, map_some, grantedPartner_of_notMem hat.fresh]
  have hself : (db.partners.find? r).map (grantedPartner targets (S ++ [r]) r) =
      some (row.withB2B target) := by
    rw [hrow, map_some, grantedPartner_of_mem (by simp) ht]
  have hne : ∀ id, r ≠ id → db₂.partners.find? id =
      (db.partners.find? id).map (grantedPartner targets (S ++ [r]) id) := by
    intro id hid
    rw [hn.partners]
    refine Option.map_congr (fun p _ => ?_)
    simp [grantedPartner, grantOf, Ne.symm hid]
  unfold writeGrant
  simp only [hr2]
  split
  · rename_i heq
    refine ⟨db₂, rfl, ⟨fun id => ?_, hn.invites⟩⟩
    by_cases hid : r = id
    · subst hid
      rw [hr2, hself, ← heq]
      rfl
    · exact hne id hid
  · have hnarrow : enforcePartnerB2BAuthorityNarrowing db₂ r row
        (row.withB2B target) = .ok () :=
      narrowing_ok (fun c p hp hl _ => hn.heirs hplan hat ht hp hl)
        (fun c i hi hp ho he => hn.narrowed ht hi hp ho he)
    have hwrite := writeB2B_ok (hn.bounds hplan hat hrow ht) hnarrow
      (check_granted (hplan.sound.partnerChecks hrow) (hplan.target_valid hat.mem ht))
    refine ⟨_, hwrite, ⟨fun id => ?_, hn.invites⟩⟩
    by_cases hid : r = id
    · subst hid
      rw [hself]
      exact find?_put_self ..
    · exact (find?_put_ne _ _ hid).trans (hne id hid)

theorem grantStep_granted (hplan : Plan db root rt targets)
    (hg : GrantedBy db targets S db₁) (hat : AtHeir db root S r) :
    ∃ db₂, grantStep db.partners targets db₁ r = .ok db₂ ∧
      GrantedBy db targets (S ++ [r]) db₂ := by
  obtain ⟨row, hrow⟩ := exists_row_of_mem_leafFirst hat.mem
  obtain ⟨target, ht⟩ := hplan.heirs.exists_target hat.mem
  obtain ⟨db₂, hinv, hp2, hi2⟩ := updateInvites_granted hplan.sound hg hat hrow ht
  obtain ⟨db3, hwrite, hg3⟩ := writeGrant_granted hplan hat hrow ht
    ⟨fun id => by rw [hp2]; exact hg.partners id, hi2⟩
  refine ⟨db3, ?_, hg3⟩
  simp only [grantStep, hrow, ht, bind_eq_ok]
  exact ⟨db₂, hinv, hwrite⟩

/-! ## The whole loop -/

theorem atHeir_of_split (h : Sound db) (hsplit : heirsOf db root = l₁ ++ r :: l₂) :
    AtHeir db root l₁ r := by
  have hfirst : ChildrenFirst sourceLink db.partners (heirsOf db root) :=
    leafFirst_childrenFirst h.acyclicSource
  have hnodup := leafFirst_nodup sourceLink db.partners root
  refine ⟨?_, ?_, ?_, ?_, ?_⟩
  · rw [show leafFirst sourceLink db.partners root = _ from hsplit] at hnodup
    exact fun hmem => (List.disjoint_of_nodup_append hnodup) hmem (by simp)
  · rw [hsplit]
    simp
  · intro c p hp hchild
    exact hfirst l₁ r l₂ hsplit c ⟨p, hp, hchild⟩
  · intro k hk c p hp hchild
    obtain ⟨k1, k2, rfl⟩ := List.append_of_mem hk
    have hc := hfirst k1 k (k2 ++ r :: l₂) (by rw [hsplit]; simp) c ⟨p, hp, hchild⟩
    exact mem_append_left _ hc
  · intro k hk
    rw [hsplit]
    exact mem_append_left _ hk

theorem foldlM_granted (hplan : Plan db root rt targets)
    (hsplit : heirsOf db root = l₁ ++ l₂) (hg : GrantedBy db targets l₁ db₁) :
    ∃ db₂, l₂.foldlM (grantStep db.partners targets) db₁ = .ok db₂ ∧
      GrantedBy db targets (heirsOf db root) db₂ := by
  induction l₂ generalizing l₁ db₁ with
  | nil =>
    rw [append_nil] at hsplit
    exact ⟨db₁, rfl, hsplit ▸ hg⟩
  | cons _ _ ih =>
    obtain ⟨db₂, hstep, hg2⟩ := grantStep_granted hplan hg (atHeir_of_split hplan.sound hsplit)
    obtain ⟨db3, hrest, hg3⟩ := ih (by rw [hsplit]; simp) hg2
    refine ⟨db3, ?_, hg3⟩
    simp only [foldlM_cons, bind_eq_ok]
    exact ⟨db₂, hstep, hrest⟩

/-! ## What the loop leaves -/

section Left

variable (hg : GrantedBy db targets (heirsOf db root) db₁)
include hg

theorem GrantedBy.keeps : Keeps db db₁ := by
  constructor
  · intro id
    rw [hg.partners, Option.map_map]
    congr 1
    funext p
    have hrest : ((grantedPartner targets (heirsOf db root) id p).withB2B p.b2b).identity =
        p.identity := congrArg Partner.identity (grantedPartner_rest targets _ id p)
    exact hrest
  · intro id i1 hi1
    obtain ⟨i, hi, rfl⟩ := hg.inviteBefore hi1
    obtain ⟨hp, hc, ho, -⟩ := grantedInvite_rest targets (heirsOf db root) i
    exact ⟨i, hi, hp, hc, fun h => ho ▸ h⟩

theorem GrantedBy.ceiling (hp : db.partners.find? id = some p) :
    ∃ p1, db₁.partners.find? id = some p1 ∧ p1.ceiling = p.ceiling := by
  have hrest : ((grantedPartner targets (heirsOf db root) id p).withB2B p.b2b).ceiling =
      p.ceiling := congrArg Partner.ceiling (grantedPartner_rest targets _ id p)
  exact ⟨_, hg.partner hp, hrest⟩

/-- A target that can be handed on is what the row can hand on now. -/
theorem GrantedBy.delegates (hs : r ∈ heirsOf db root)
    (ht : targets.find? r = some target) (hd : target.delegates m = true) :
    ∃ source, db₁.partners.find? r = some source ∧ source.delegates m = true := by
  obtain ⟨row, hrow⟩ := exists_row_of_mem_leafFirst hs
  refine ⟨_, hg.partner hrow, ?_⟩
  rw [grantedPartner_of_mem hs ht]
  exact hd

theorem GrantedBy.outside (hs : r ∉ heirsOf db root) :
    db₁.partners.find? r = db.partners.find? r := by
  rw [hg.partners]
  cases hrow : db.partners.find? r with
  | none => rfl
  | some => rw [map_some, grantedPartner_of_notMem hs]

theorem GrantedBy.bounded (h : Sound db) (hp : db.partners.find? id = some p) :
    Bounded db₁ (grantedPartner targets (heirsOf db root) id p) := by
  have hrest := grantedPartner_rest targets (heirsOf db root) id p
  have hb : Bounded db ((grantedPartner targets (heirsOf db root) id p).withB2B p.b2b) := by
    rw [hrest]
    exact h.bounded id p hp
  refine ⟨hb.root, fun parentId hparent => ?_⟩
  obtain ⟨parent, hfind, hle, hedge⟩ := hb.parent parentId hparent
  obtain ⟨parent1, hfind1, hceiling⟩ := hg.ceiling hfind
  exact ⟨parent1, hfind1, hceiling ▸ hle, fun e he => hceiling ▸ hedge e he⟩

theorem GrantedBy.granted (hplan : Plan db root rt targets) (hp : db.partners.find? id = some p) :
    Granted db₁ (grantedPartner targets (heirsOf db root) id p) := by
  intro s hs
  by_cases hid : id ∈ heirsOf db root
  · obtain ⟨target, ht⟩ := hplan.heirs.exists_target hid
    rw [grantedPartner_of_mem hid ht] at hs ⊢
    have hs : target.sourcePartnerId = some s := hs
    obtain ⟨row, source, hrow, hparent, hsource, hd⟩ := hplan.source_delegates hid ht hs
    obtain rfl : p = row := some.inj (hp.symm.trans hrow)
    refine ⟨hparent, ?_⟩
    by_cases hne : id = root
    · subst hne
      obtain rfl : rt = target := some.inj (hplan.heirs.atRoot.symm.trans ht)
      exact ⟨source, (hg.outside (hplan.root_source hs)).trans hsource, hd⟩
    · obtain ⟨-, ts, -, -, -, hsl, hts, hd⟩ := hplan.heir hid hne ht hs
      exact hg.delegates hsl hts hd
  · rw [grantedPartner_of_notMem hid] at hs ⊢
    obtain ⟨hparent, source, hsource, hd⟩ := hplan.sound.granted id p hp s hs
    have hout : s ∉ heirsOf db root := fun hmem =>
      hid (mem_leafFirst_of_child hplan.sound.acyclicSource hmem ⟨p, hp, hs⟩)
    exact ⟨hparent, source, (hg.outside hout).trans hsource, hd⟩

theorem GrantedBy.inviteBounded (hplan : Plan db root rt targets)
    (hi : db.invites.find? id = some i) (ho : i.isOpen = true) :
    InviteBounded db₁ (grantedInvite targets (heirsOf db root) i) := by
  obtain ⟨hp, -, -, hteam, hedge, -⟩ := grantedInvite_rest targets (heirsOf db root) i
  have hb := hplan.sound.invites id i hi ho
  refine ⟨fun hnone => ?_, fun q hq => ?_⟩
  · rw [hp] at hnone
    rw [hedge]
    exact hb.root hnone
  · rw [hp] at hq
    obtain ⟨inviter, hinv, hm, he, hb2b⟩ := hb.inviter q hq
    obtain ⟨inviter1, hinv1, hceiling⟩ := hg.ceiling hinv
    refine ⟨inviter1, hinv1, ?_, ?_, fun hen => ?_⟩
    · intro m hm'
      rw [hceiling]
      exact hm m (hteam ▸ hm')
    · intro e he'
      rw [hceiling]
      exact he e (hedge ▸ he')
    · by_cases hqs : q ∈ heirsOf db root
      · obtain ⟨target, ht⟩ := hplan.heirs.exists_target hqs
        cases hien : i.b2bEnabled with
        | false =>
          rw [grantedInvite_of_idle (by simp [hien]), hien] at hen
          cases hen
        | true =>
          rw [grantedInvite_of_mem ho hien hq hqs ht] at hen ⊢
          obtain ⟨source, hsource, hd⟩ := hg.delegates hqs ht (narrowInvite_delegates hen)
          obtain rfl : inviter1 = source := some.inj (hinv1.symm.trans hsource)
          exact hd
      · have hsame : grantedInvite targets (heirsOf db root) i = i := by
          refine grantedInvite_of_notMem (fun q' hq' => ?_)
          obtain rfl := some.inj (hq.symm.trans hq')
          exact hqs
        rw [hsame] at hen ⊢
        rw [hg.outside hqs, hinv] at hinv1
        obtain rfl := some.inj hinv1
        exact hb2b hen

theorem GrantedBy.sound (hplan : Plan db root rt targets) : Sound db₁ := by
  refine hg.keeps.sound hplan.sound ?_ ?_ ?_ ?_ ?_
  · intro id p1 hp1
    obtain ⟨p, hp, rfl⟩ := hg.before hp1
    by_cases hid : id ∈ heirsOf db root
    · obtain ⟨target, ht⟩ := hplan.heirs.exists_target hid
      rw [grantedPartner_of_mem hid ht]
      exact check_granted (hplan.sound.partnerChecks hp) (hplan.target_valid hid ht)
    · rw [grantedPartner_of_notMem hid]
      exact hplan.sound.partnerChecks hp
  · intro id i1 hi1
    obtain ⟨i, hi, rfl⟩ := hg.inviteBefore hi1
    have hcheck := hplan.sound.inviteChecks id i hi
    unfold grantedInvite
    split
    · rename_i target hsome
      split at hsome
      · rename_i hopen
        rw [Bool.and_eq_true] at hopen
        exact narrowInvite_check hopen.2 hcheck
      · cases hsome
    · exact hcheck
  · intro id p1 hp1
    obtain ⟨p, hp, rfl⟩ := hg.before hp1
    exact hg.bounded hplan.sound hp
  · intro id p1 hp1
    obtain ⟨p, hp, rfl⟩ := hg.before hp1
    exact hg.granted hplan hp
  · intro id i1 hi1 ho
    obtain ⟨i, hi, rfl⟩ := hg.inviteBefore hi1
    rw [(grantedInvite_rest targets (heirsOf db root) i).2.2.1] at ho
    exact hg.inviteBounded hplan hi ho

theorem GrantedBy.within (h : Sound db) : Within db root db₁ := by
  refine ⟨hg.keeps, ?_, ?_⟩
  · intro k hk
    exact hg.outside (fun hmem => hk (h.under_of_heir hmem))
  · intro id i hi hout
    rw [hg.invites, hi, map_some]
    refine congrArg some (grantedInvite_of_notMem (fun q hq hmem => ?_))
    exact hout q hq (h.under_of_heir hmem)

end Left

/-- `applyPartnerB2BAuthorityCascade` succeeds whenever the request itself is in
order, keeps the invariant, stays within the subtree, and gives the partner
exactly the target. -/
theorem applyPartnerB2BAuthorityCascade_spec (h : Sound db) (hp : db.partners.find? id = some p)
    {input : GrantInput} (hrt : rootTarget p input = .ok rt)
    (hsource : ∀ s, rt.sourcePartnerId = some s → p.parentPartnerId = some s ∧
      ∃ source, db.partners.find? s = some source ∧ source.delegates rt.maximumBps = true) :
    ∃ db₁, applyPartnerB2BAuthorityCascade db id input = .ok db₁ ∧ Sound db₁ ∧
      Within db id db₁ ∧ db₁.partners.find? id = some (p.withB2B rt) := by
  obtain ⟨targets, hfold, htargets⟩ := targets_ok h hp rt
  have hvalid : rt.Valid := by
    simp only [rootTarget, ok_steps] at hrt
    exact normalizedAuthority_valid hrt.2
  have hheirs : Targets db id rt (heirsOf db id) targets := by
    refine ⟨htargets.atRoot, fun k hk hne => ?_⟩
    obtain ⟨row, s, source, hrow, hs, hsl, hrest⟩ :=
      htargets.heir k (mem_leafFirst_iff.mp hk) hne
    exact ⟨row, s, source, hrow, hs, mem_leafFirst_iff.mpr hsl, hrest⟩
  have hplan : Plan db id rt targets := by
    refine ⟨h, hheirs, hvalid, fun s hs => ?_⟩
    obtain ⟨hparent, source, hfind, hd⟩ := hsource s hs
    exact ⟨p, source, hp, hparent, hfind, hd⟩
  obtain ⟨db₁, hok, hg⟩ := foldlM_granted hplan (nil_append _).symm (.refl db targets)
  refine ⟨db₁, ?_, hg.sound hplan, hg.within h, ?_⟩
  · simp only [applyPartnerB2BAuthorityCascade, ok_steps]
    exact ⟨p, hp, rt, hrt, targets, hfold, hok⟩
  · have hmem : id ∈ heirsOf db id := mem_leafFirst_iff.mpr (root_mem_rootFirst hp)
    rw [hg.partner hp, grantedPartner_of_mem hmem hplan.heirs.atRoot]

end ApiToken.Team
