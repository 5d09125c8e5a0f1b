import ApiToken.Team.Calls

/-!
# Authority never widens

The invariant of the partner forest: no child has a higher ceiling than its
parent, no explicit edge and no open invitation goes beyond the ceiling of
the partner it belongs to, and an inherited grant is at most the delegable
grant of its source. `Sound` adds what the schema promises and what the
cascades rely on: the forest has no cycle, and an open invitation never
stands beside a partner of the same account.
-/

namespace ApiToken.Team

open Descent

variable {p new old : Partner} {id k root : String} {m : Nat} {db₁ : Sales}

/-- `child` is a child of `parent` in the forest. -/
abbrev parentLink : Partner → Option String := Partner.parentPartnerId

abbrev sourceLink : Partner → Option String := Partner.b2bGrantSourcePartnerId

/-! ## The invariant -/

/-- Neither the ceiling nor the explicit edge exceeds the parent's ceiling. -/
structure Bounded (db : Sales) (p : Partner) : Prop where
  root : p.parentPartnerId = none → p.parentOverrideBps = none
  parent : ∀ parentId, p.parentPartnerId = some parentId →
    ∃ parent, db.partners.find? parentId = some parent ∧
      p.ceiling ≤ parent.ceiling ∧ ∀ e, p.parentOverrideBps = some e → e ≤ parent.ceiling

def Granted (db : Sales) (p : Partner) : Prop :=
  ∀ s, p.b2bGrantSourcePartnerId = some s → p.parentPartnerId = some s ∧
    ∃ source, db.partners.find? s = some source ∧ source.delegates p.b2bMaxDiscountBps = true

/-- What an open invitation carries is within the authority of the inviter. -/
structure InviteBounded (db : Sales) (i : Invite) : Prop where
  root : i.partnerId = none → i.parentOverrideBps = none
  inviter : ∀ inviterId, i.partnerId = some inviterId →
    ∃ inviter, db.partners.find? inviterId = some inviter ∧
      (∀ m, i.teamOverrideMaxBps = some m → m ≤ inviter.ceiling) ∧
      (∀ e, i.parentOverrideBps = some e → e ≤ inviter.ceiling) ∧
      (i.b2bEnabled = true → inviter.delegates i.b2bMaxDiscountBps = true)

/-- What the triggers and the calls keep of the tables. -/
structure Sound (db : Sales) : Prop where
  acyclic : Acyclic parentLink db.partners
  checks : ∀ id p, db.partners.find? id = some p → p.check = true
  inviteChecks : ∀ id i, db.invites.find? id = some i → i.check = true
  bounded : ∀ id p, db.partners.find? id = some p → Bounded db p
  granted : ∀ id p, db.partners.find? id = some p → Granted db p
  invites : ∀ id i, db.invites.find? id = some i → i.isOpen = true → InviteBounded db i
  accounts : ∀ id id' p p', db.partners.find? id = some p →
    db.partners.find? id' = some p' → p.commerceUserId.isSome = true →
    p.commerceUserId = p'.commerceUserId → id = id'
  openInvites : ∀ id id' i i', db.invites.find? id = some i →
    db.invites.find? id' = some i' → i.isOpen = true → i'.isOpen = true →
    i.commerceUserId.isSome = true → i.commerceUserId = i'.commerceUserId → id = id'
  apart : ∀ id id' p i, db.partners.find? id = some p → db.invites.find? id' = some i →
    i.isOpen = true → p.commerceUserId.isSome = true →
    p.commerceUserId ≠ i.commerceUserId

variable {db db' : Sales}

/-! ## Checks -/

theorem authorityCheck_iff {team edge : Option Nat} {enabled : Bool} {max : Nat}
    {delegate : Bool} :
    authorityCheck team edge enabled max delegate = true ↔
      (∀ m, team = some m → m ≤ 2000) ∧ (∀ e, edge = some e → e ≤ 2000) ∧
        (enabled = true → max ≤ 9500) ∧
        (enabled = false → max = 0 ∧ delegate = false) := by
  cases enabled <;> cases team <;> cases edge <;> simp [authorityCheck, and_assoc]

/-- What the `CHECK`s of a partner say. -/
structure PartnerChecks (p : Partner) : Prop where
  team : ∀ m, p.teamOverrideMaxBps = some m → m ≤ 2000
  edge : ∀ e, p.parentOverrideBps = some e → e ≤ 2000
  enabled : p.b2bEnabled = true → p.b2bMaxDiscountBps ≤ 9500
  disabled : p.b2bEnabled = false → p.b2bMaxDiscountBps = 0 ∧ p.b2bCanDelegate = false
  sub : p.subCommissionBps ≤ 10000
  source : p.b2bEnabled = false → p.b2bGrantSourcePartnerId = none
  program : p.programEnabled = true → p.commerceUserId.isSome = true

theorem Partner.check_iff : p.check = true ↔ PartnerChecks p := by
  simp only [Partner.check, guard_iffs, authorityCheck_iff, isNone_iff_eq_none]
  constructor
  · rintro ⟨⟨⟨⟨h1, h2, h3, h4⟩, h5⟩, h6⟩, h7⟩
    refine ⟨h1, h2, h3, h4, h5, fun h => ?_, fun h => ?_⟩
    · rcases h6 with h6 | h6
      · rw [h] at h6; cases h6
      · exact h6
    · rcases h7 with h7 | h7
      · rw [h] at h7; cases h7
      · exact h7
  · intro h
    refine ⟨⟨⟨⟨h.team, h.edge, h.enabled, h.disabled⟩, h.sub⟩, ?_⟩, ?_⟩
    · cases he : p.b2bEnabled with
      | true => exact .inl rfl
      | false => exact .inr (h.source he)
    · cases hp : p.programEnabled with
      | true => exact .inr (h.program hp)
      | false => exact .inl rfl

theorem Sound.partnerChecks (h : Sound db) (hp : db.partners.find? id = some p) :
    PartnerChecks p :=
  Partner.check_iff.mp (h.checks id p hp)

theorem PartnerChecks.ceiling (h : PartnerChecks p) : p.ceiling ≤ 2000 := by
  unfold Partner.ceiling commerceTeamShareMaxBps
  cases hm : p.teamOverrideMaxBps with
  | none => exact le_refl _
  | some m => exact h.team m hm

theorem exceeds_eq_false {maximum : Nat} {bps : Option Nat} :
    exceeds maximum bps = false ↔ ∀ b, bps = some b → b ≤ maximum := by
  cases bps <;> simp [exceeds]

theorem Partner.delegates_iff :
    p.delegates m = true ↔
      p.b2bEnabled = true ∧ p.b2bCanDelegate = true ∧ m ≤ p.b2bMaxDiscountBps := by
  simp [Partner.delegates, and_assoc]

theorem Partner.delegates_mono {m' : Nat} (h : p.delegates m = true) (hm : m' ≤ m) :
    p.delegates m' = true := by
  rw [delegates_iff] at h ⊢
  exact ⟨h.1, h.2.1, hm.trans h.2.2⟩

theorem Partner.le_ceiling (h : p.teamOverrideMaxBps = some m) : m = p.ceiling := by
  simp [Partner.ceiling, h]

/-! ## Guards -/

theorem teamBounds_ok :
    enforcePartnerTeamOverrideBounds db new = .ok () ↔
      (new.parentPartnerId = none → new.parentOverrideBps = none) ∧
        ∀ parentId, new.parentPartnerId = some parentId →
          ∃ parent, db.partners.find? parentId = some parent ∧
            (∀ m, new.teamOverrideMaxBps = some m → m ≤ parent.ceiling) ∧
            ∀ e, new.parentOverrideBps = some e → e ≤ parent.ceiling := by
  unfold enforcePartnerTeamOverrideBounds
  cases hp : new.parentPartnerId with
  | none => simp
  | some parentId =>
    cases hf : db.partners.find? parentId with
    | none => simp [hf]
    | some => simp [hf, exceeds_eq_false]

theorem inviteTeamBounds_ok {new : Invite} :
    enforcePartnerInviteTeamOverrideBounds db new = .ok () ↔
      (new.partnerId = none → new.parentOverrideBps = none) ∧
        ∀ parentId, new.partnerId = some parentId →
          ∃ parent, db.partners.find? parentId = some parent ∧
            (∀ m, new.teamOverrideMaxBps = some m → m ≤ parent.ceiling) ∧
            ∀ e, new.parentOverrideBps = some e → e ≤ parent.ceiling := by
  unfold enforcePartnerInviteTeamOverrideBounds
  cases hp : new.partnerId with
  | none => simp
  | some parentId =>
    cases hf : db.partners.find? parentId with
    | none => simp [hf]
    | some => simp [hf, exceeds_eq_false]

theorem b2bBounds_ok :
    enforcePartnerB2BAuthorityBounds db new = .ok () ↔
      (new.b2bEnabled = true → ∀ s, new.b2bGrantSourcePartnerId = some s →
        new.parentPartnerId = some s ∧ ∃ source, db.partners.find? s = some source ∧
          source.delegates new.b2bMaxDiscountBps = true) := by
  unfold enforcePartnerB2BAuthorityBounds
  cases he : new.b2bEnabled with
  | false => simp
  | true =>
    cases hs : new.b2bGrantSourcePartnerId with
    | none => simp
    | some s =>
      cases hf : db.partners.find? s with
      | none | some source => simp [hf]

theorem inviteB2BBounds_ok {new : Invite} :
    enforcePartnerInviteB2BAuthorityBounds db new = .ok () ↔
      (new.b2bEnabled = true → ∀ s, new.partnerId = some s →
        ∃ inviter, db.partners.find? s = some inviter ∧
          inviter.delegates new.b2bMaxDiscountBps = true) := by
  unfold enforcePartnerInviteB2BAuthorityBounds
  cases he : new.b2bEnabled with
  | false => simp
  | true =>
    cases hs : new.partnerId with
    | none => simp
    | some s =>
      cases hf : db.partners.find? s with
      | none | some inviter => simp [hf]

theorem ceilingUpdate_ok
    (hchildren : ∀ c p, db.partners.find? c = some p → p.parentPartnerId = some id →
      (∀ m, p.teamOverrideMaxBps = some m → m ≤ new.ceiling) ∧
        ∀ e, p.parentOverrideBps = some e → e ≤ new.ceiling)
    (hinvites : ∀ c i, db.invites.find? c = some i → i.partnerId = some id →
      i.isOpen = true → (∀ m, i.teamOverrideMaxBps = some m → m ≤ new.ceiling) ∧
        ∀ e, i.parentOverrideBps = some e → e ≤ new.ceiling) :
    enforcePartnerTeamOverrideCeilingUpdate db id old new = .ok () := by
  have hp : db.partners.any (fun _ child => child.parentPartnerId = some id &&
      (exceeds new.ceiling child.teamOverrideMaxBps ||
        exceeds new.ceiling child.parentOverrideBps)) = false := by
    rw [any_eq_false_iff]
    intro c p hc
    by_cases hid : p.parentPartnerId = some id
    · obtain ⟨h1, h2⟩ := hchildren c p hc hid
      simp [exceeds_eq_false.mpr h1, exceeds_eq_false.mpr h2]
    · simp [hid]
  have hi : db.invites.any (fun _ invite => invite.partnerId = some id &&
      invite.isOpen && (exceeds new.ceiling invite.teamOverrideMaxBps ||
        exceeds new.ceiling invite.parentOverrideBps)) = false := by
    rw [any_eq_false_iff]
    intro c i hc
    by_cases hid : i.partnerId = some id
    · cases ho : i.isOpen with
      | false => simp
      | true =>
        obtain ⟨h1, h2⟩ := hinvites c i hc hid ho
        simp [exceeds_eq_false.mpr h1, exceeds_eq_false.mpr h2]
    · simp [hid]
  rw [enforcePartnerTeamOverrideCeilingUpdate, failIf_eq_ok, hp, hi]
  simp

theorem narrowing_ok (hchildren : ∀ c p, db.partners.find? c = some p →
      p.b2bGrantSourcePartnerId = some id → p.b2bEnabled = true →
      new.delegates p.b2bMaxDiscountBps = true)
    (hinvites : ∀ c i, db.invites.find? c = some i → i.partnerId = some id →
      i.isOpen = true → i.b2bEnabled = true →
      new.delegates i.b2bMaxDiscountBps = true) :
    enforcePartnerB2BAuthorityNarrowing db id old new = .ok () := by
  have hp : db.partners.any (fun _ child => child.b2bGrantSourcePartnerId = some id &&
      child.b2bEnabled && !new.delegates child.b2bMaxDiscountBps) = false := by
    rw [any_eq_false_iff]
    intro c p hc
    by_cases hid : p.b2bGrantSourcePartnerId = some id
    · cases he : p.b2bEnabled with
      | false => simp
      | true => simp [hchildren c p hc hid he]
    · simp [hid]
  have hi : db.invites.any (fun _ invite => invite.partnerId = some id &&
      invite.isOpen && invite.b2bEnabled &&
      !new.delegates invite.b2bMaxDiscountBps) = false := by
    rw [any_eq_false_iff]
    intro c i hc
    by_cases hid : i.partnerId = some id
    · cases ho : i.isOpen with
      | false => simp
      | true =>
        cases he : i.b2bEnabled with
        | false => simp
        | true => simp [hinvites c i hc hid ho he]
    · simp [hid]
  rw [enforcePartnerB2BAuthorityNarrowing, failIf_eq_ok, hp, hi]
  simp

@[simp] theorem checkPartner_ok : checkPartner p = .ok () ↔ p.check = true := by
  simp [checkPartner]

@[simp] theorem checkInvite_ok {i : Invite} : checkInvite i = .ok () ↔ i.check = true := by
  simp [checkInvite]

theorem writeTeam_ok (hbounds : enforcePartnerTeamOverrideBounds db new = .ok ())
    (hdependants : enforcePartnerTeamOverrideCeilingUpdate db id old new = .ok ())
    (hchecks : PartnerChecks new) :
    writeTeam db id old new = .ok { db with partners := db.partners.put id new } := by
  simp only [writeTeam, ok_steps, checkPartner_ok, Partner.check_iff, and_true]
  exact ⟨hbounds, hdependants, hchecks⟩

theorem writeB2B_ok (hbounds : enforcePartnerB2BAuthorityBounds db new = .ok ())
    (hdependants : enforcePartnerB2BAuthorityNarrowing db id old new = .ok ())
    (hchecks : PartnerChecks new) :
    writeB2B db id old new = .ok { db with partners := db.partners.put id new } := by
  simp only [writeB2B, ok_steps, checkPartner_ok, Partner.check_iff, and_true]
  exact ⟨hbounds, hdependants, hchecks⟩

theorem updateInvites_ok {sel : Invite → Bool} {f : Invite → Invite}
    {guard : Sales → Invite → Except Refusal Unit}
    (h : ∀ id i, db.invites.find? id = some i → sel i = true → guard db (f i) = .ok ()) :
    updateInvites db sel f guard = .ok { db with
      invites := db.invites.mapRows (fun _ i => if sel i then f i else i) } := by
  simp only [updateInvites, ok_steps, and_true, forM_eq_ok]
  rintro ⟨id, i⟩ hmem
  dsimp only
  split
  · rename_i hsel
    exact h id i (find?_eq_some_iff.mpr hmem) hsel
  · rfl

theorem updatePartners_ok {sel : Partner → Bool} {f : Partner → Partner}
    {guard : Sales → Partner → Except Refusal Unit}
    (h : ∀ id p, db.partners.find? id = some p → sel p = true → guard db (f p) = .ok ()) :
    updatePartners db sel f guard = .ok { db with
      partners := db.partners.mapRows (fun _ p => if sel p then f p else p) } := by
  simp only [updatePartners, ok_steps, and_true, forM_eq_ok]
  rintro ⟨id, p⟩ hmem
  dsimp only
  split
  · rename_i hsel
    exact h id p (find?_eq_some_iff.mpr hmem) hsel
  · rfl

/-! ## Edits -/

/-- The columns no edit touches. -/
def Partner.identity (p : Partner) : Option String × Option String :=
  (p.parentPartnerId, p.commerceUserId)

/-- An edit: the same partners in the same forest, the same invitations, none
of them opened again. -/
structure Keeps (db db' : Sales) : Prop where
  partners : ∀ id, (db'.partners.find? id).map Partner.identity =
    (db.partners.find? id).map Partner.identity
  invites : ∀ id i', db'.invites.find? id = some i' →
    ∃ i, db.invites.find? id = some i ∧ i'.partnerId = i.partnerId ∧
      i'.commerceUserId = i.commerceUserId ∧ (i'.isOpen = true → i.isOpen = true)

theorem Keeps.refl (db : Sales) : Keeps db db :=
  ⟨fun _ => rfl, fun _ i hi => ⟨i, hi, rfl, rfl, id⟩⟩

theorem Keeps.trans (h : Keeps db db₁) (h' : Keeps db₁ db') : Keeps db db' := by
  refine ⟨fun id => (h'.partners id).trans (h.partners id), fun id i' hi' => ?_⟩
  obtain ⟨i1, hi1, hp1, hc1, ho1⟩ := h'.invites id i' hi'
  obtain ⟨i, hi, hp, hc, ho⟩ := h.invites id i1 hi1
  exact ⟨i, hi, hp1.trans hp, hc1.trans hc, fun h => ho (ho1 h)⟩

theorem Keeps.before (h : Keeps db db') {p' : Partner}
    (hp' : db'.partners.find? id = some p') :
    ∃ p, db.partners.find? id = some p ∧ p'.parentPartnerId = p.parentPartnerId ∧
      p'.commerceUserId = p.commerceUserId := by
  have hid := h.partners id
  rw [hp', map_some] at hid
  obtain ⟨p, hp, heq⟩ := map_eq_some_iff.mp hid.symm
  exact ⟨p, hp, (congrArg Prod.fst heq).symm, (congrArg Prod.snd heq).symm⟩

theorem Keeps.after (h : Keeps db db') (hp : db.partners.find? id = some p) :
    ∃ p', db'.partners.find? id = some p' ∧ p'.parentPartnerId = p.parentPartnerId := by
  have hid := h.partners id
  rw [hp, map_some] at hid
  obtain ⟨p', hp', heq⟩ := map_eq_some_iff.mp hid
  exact ⟨p', hp', congrArg Prod.fst heq⟩

theorem Keeps.isChild (h : Keeps db db') {c : String} :
    IsChild parentLink db'.partners k c ↔ IsChild parentLink db.partners k c := by
  constructor
  · rintro ⟨p', hp', hk⟩
    obtain ⟨p, hp, hparent, -⟩ := h.before hp'
    exact ⟨p, hp, hparent.symm.trans hk⟩
  · rintro ⟨p, hp, hk⟩
    obtain ⟨p', hp', hparent⟩ := h.after hp
    exact ⟨p', hp', hparent.trans hk⟩

theorem Keeps.under (h : Keeps db db') :
    Under parentLink db'.partners root k ↔ Under parentLink db.partners root k := by
  have heq : IsChild parentLink db'.partners = IsChild parentLink db.partners := by
    funext k c
    exact propext h.isChild
  rw [Under, Under, heq]

theorem Keeps.sound (hk : Keeps db db') (h : Sound db)
    (hchecks : ∀ id p, db'.partners.find? id = some p → PartnerChecks p)
    (hinviteChecks : ∀ id i, db'.invites.find? id = some i → i.check = true)
    (hbounded : ∀ id p, db'.partners.find? id = some p → Bounded db' p)
    (hgranted : ∀ id p, db'.partners.find? id = some p → Granted db' p)
    (hinvites : ∀ id i, db'.invites.find? id = some i → i.isOpen = true →
      InviteBounded db' i) : Sound db' where
  acyclic := by
    obtain ⟨rank, hrank⟩ := h.acyclic
    exact ⟨rank, fun k c hc => hrank k c (hk.isChild.mp hc)⟩
  checks := fun id p hp => Partner.check_iff.mpr (hchecks id p hp)
  inviteChecks := hinviteChecks
  bounded := hbounded
  granted := hgranted
  invites := hinvites
  accounts := by
    intro id id' p p' hp hp' hsome heq
    obtain ⟨q, hq, -, hqc⟩ := hk.before hp
    obtain ⟨q', hq', -, hqc'⟩ := hk.before hp'
    exact h.accounts id id' q q' hq hq' (hqc ▸ hsome) (hqc ▸ hqc' ▸ heq)
  openInvites := by
    intro id id' i i' hi hi' ho ho' hsome heq
    obtain ⟨j, hj, -, hjc, hjo⟩ := hk.invites id i hi
    obtain ⟨j', hj', -, hjc', hjo'⟩ := hk.invites id' i' hi'
    exact h.openInvites id id' j j' hj hj' (hjo ho) (hjo' ho') (hjc ▸ hsome) (hjc ▸ hjc' ▸ heq)
  apart := by
    intro id id' p i hp hi ho hsome
    obtain ⟨q, hq, -, hqc⟩ := hk.before hp
    obtain ⟨j, hj, -, hjc, hjo⟩ := hk.invites id' i hi
    rw [hqc, hjc]
    exact h.apart id id' q j hq hj (hjo ho) (hqc ▸ hsome)

/-- An edit that changes nothing outside the subtree of a partner. -/
structure Within (db : Sales) (root : String) (db' : Sales) : Prop where
  keeps : Keeps db db'
  partners : ∀ k, ¬ Under parentLink db.partners root k →
    db'.partners.find? k = db.partners.find? k
  invites : ∀ id i, db.invites.find? id = some i →
    (∀ q, i.partnerId = some q → ¬ Under parentLink db.partners root q) →
    db'.invites.find? id = some i

theorem Within.refl (db : Sales) (root : String) : Within db root db :=
  ⟨.refl db, fun _ _ => rfl, fun _ _ hi _ => hi⟩

theorem Within.trans (h : Within db root db₁) (h' : Within db₁ root db') :
    Within db root db' where
  keeps := h.keeps.trans h'.keeps
  partners := fun k hk =>
    (h'.partners k (fun hu => hk (h.keeps.under.mp hu))).trans (h.partners k hk)
  invites := fun id i hi hout => h'.invites id i (h.invites id i hi hout)
    (fun q hq hu => hout q hq (h.keeps.under.mp hu))

end ApiToken.Team
