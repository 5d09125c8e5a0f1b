import ApiToken.Team.Granting
import ApiToken.Team.Lowering

/-!
# Every call keeps the invariant

The plain writes first: an invitation closed, a row added to either table,
and the last write of an edit, which never lowers a ceiling because the
cascade has run before it. An edit is then a chain of stages, each of which
keeps the invariant and stays within the subtree of the partner (`Edited`).
-/

namespace ApiToken.Team

open Descent

variable {sel : Invite → Bool} {k : String} {input : GrantInput} {rt : B2BAuthority}
  {old : Partner}

variable {db db₁ db' : Sales} {id : String} {p p₁ : Partner}

/-! ## Stages of an edit -/

structure Edited (db : Sales) (id : String) (db₁ : Sales) (p₁ : Partner) : Prop where
  sound : Sound db₁
  within : Within db id db₁
  row : db₁.partners.find? id = some p₁

theorem Edited.refl (h : Sound db) (hp : db.partners.find? id = some p) :
    Edited db id db p := ⟨h, .refl db id, hp⟩

theorem Edited.trans {db2 : Sales} {p2 : Partner} (h1 : Edited db id db₁ p₁)
    (h2 : Edited db₁ id db2 p2) : Edited db id db2 p2 :=
  ⟨h2.sound, h1.within.trans h2.within, h2.row⟩

theorem Edited.identity (h : Edited db id db₁ p₁) (hp : db.partners.find? id = some p) :
    p₁.parentPartnerId = p.parentPartnerId ∧ p₁.commerceUserId = p.commerceUserId := by
  obtain ⟨q, hq, hparent, hc⟩ := h.within.keeps.before h.row
  obtain rfl : p = q := some.inj (hp.symm.trans hq)
  exact ⟨hparent, hc⟩

theorem Edited.parent (h : Edited db id db₁ p₁) (hsound : Sound db)
    (hp : db.partners.find? id = some p) {parentId : String}
    (hparent : p.parentPartnerId = some parentId) :
    db₁.partners.find? parentId = db.partners.find? parentId :=
  h.within.partners parentId (not_under_child hsound.acyclic ⟨p, hp, hparent⟩)

/-! ## Invitations are closed -/

theorem Keeps.sound_invites (hk : Keeps db db') (h : Sound db)
    (hsame : db'.partners = db.partners)
    (hchecks : ∀ id i, db'.invites.find? id = some i → i.check = true)
    (hinvites : ∀ id i, db'.invites.find? id = some i → i.isOpen = true →
      InviteBounded db i) : Sound db' := by
  refine hk.sound h ?_ hchecks ?_ ?_ ?_
  · intro id p hp
    exact h.partnerChecks (hsame ▸ hp)
  · intro id p hp
    have hb := h.bounded id p (hsame ▸ hp)
    refine ⟨hb.root, fun q hq => ?_⟩
    rw [hsame]
    exact hb.parent q hq
  · intro id p hp s hs
    rw [hsame]
    exact h.granted id p (hsame ▸ hp) s hs
  · intro id i hi ho
    have hb := hinvites id i hi ho
    refine ⟨hb.root, fun q hq => ?_⟩
    rw [hsame]
    exact hb.inviter q hq

theorem revokeInvites_keeps (db : Sales) (now : Int) (sel : Invite → Bool) :
    Keeps db (revokeInvites db now sel) := by
  refine ⟨fun _ => rfl, fun id i' hi' => ?_⟩
  simp only [revokeInvites, find?_mapRows] at hi'
  obtain ⟨i, hi, rfl⟩ := map_eq_some_iff.mp hi'
  refine ⟨i, hi, ?_⟩
  split
  · refine ⟨rfl, rfl, fun ho => ?_⟩
    simp [Invite.isOpen] at ho
  · exact ⟨rfl, rfl, fun ho => ho⟩

theorem revokeInvites_sound (h : Sound db) (now : Int)
    (hsel : ∀ i, sel i = true → i.commerceUserId.isSome = true) :
    Sound (revokeInvites db now sel) := by
  refine (revokeInvites_keeps db now sel).sound_invites h rfl ?_ ?_
  · intro id i' hi'
    simp only [revokeInvites, find?_mapRows] at hi'
    obtain ⟨i, hi, rfl⟩ := map_eq_some_iff.mp hi'
    have hcheck := h.inviteChecks id i hi
    split
    · rename_i hs
      rw [Bool.and_eq_true] at hs
      simp only [Invite.check, guard_iffs] at hcheck ⊢
      exact ⟨hcheck.1, .inl (hsel i hs.1)⟩
    · exact hcheck
  · intro id i' hi' ho
    simp only [revokeInvites, find?_mapRows] at hi'
    obtain ⟨i, hi, rfl⟩ := map_eq_some_iff.mp hi'
    by_cases hs : (sel i && i.isOpen) = true
    · rw [if_pos hs] at ho
      simp [Invite.isOpen] at ho
    · rw [if_neg hs] at ho ⊢
      exact h.invites id i hi ho

theorem revokeInvites_find (now : Int) {i : Invite} (hi : db.invites.find? k = some i)
    (hsel : (sel i && i.isOpen) = false) :
    (revokeInvites db now sel).invites.find? k = some i := by
  simp only [revokeInvites, find?_mapRows, hi, map_some, hsel, if_bool]

theorem revokeIf_edited (h : Sound db) (hp : db.partners.find? id = some p) (now : Int)
    (off : Bool) : Edited db id (revokeIf db now off id) p := by
  unfold revokeIf
  split
  · refine ⟨revokeInvites_sound h now ?_, ⟨revokeInvites_keeps .., ?_, ?_⟩, hp⟩
    · intro i hs
      simp only [accountInviteOf, guard_iffs] at hs
      exact hs.2
    · exact fun _ _ => rfl
    · intro k i hi hout
      refine revokeInvites_find now hi ?_
      have hne : i.partnerId ≠ some id := fun hid => hout id hid .refl
      simp [accountInviteOf, hne]
  · exact .refl h hp

theorem revokeInvites_edited (h : Sound db) (hp : db.partners.find? id = some p)
    (now : Int) {user : String} (huser : p.commerceUserId = some user) :
    Edited db id (revokeInvites db now (fun i => i.commerceUserId = some user)) p := by
  refine ⟨revokeInvites_sound h now ?_, ⟨revokeInvites_keeps .., ?_, ?_⟩, hp⟩
  · intro i hs
    simp [of_decide_eq_true hs]
  · exact fun _ _ => rfl
  · intro k i hi _
    refine revokeInvites_find now hi ?_
    cases ho : i.isOpen with
    | false => simp
    | true =>
      have hne := h.apart id k p i hp hi ho (by simp [huser])
      have hne : i.commerceUserId ≠ some user := fun e => hne (huser.trans e.symm)
      simp [hne]

/-! ## The cascades as stages -/

section

variable (h : Sound db) (hp : db.partners.find? id = some p)
include h hp

theorem lower_edited (m : Nat) :
    ∃ db₁ p₁, lowerTeamOverrideCeiling db id m = .ok db₁ ∧ Edited db id db₁ p₁ ∧
      p₁.ceiling ≤ m ∧ p₁.b2b = p.b2b := by
  obtain ⟨db₁, p₁, hok, hsound, hwithin, hrow, hceiling, hb2b, -⟩ :=
    lowerTeamOverrideCeiling_spec h hp m
  exact ⟨db₁, p₁, hok, ⟨hsound, hwithin, hrow⟩, hceiling ▸ Nat.min_le_right .., hb2b⟩

theorem lowerIfBelow_edited (m : Nat) :
    ∃ db₁ p₁, lowerIfBelow db id p.ceiling m = .ok db₁ ∧ Edited db id db₁ p₁ ∧
      p₁.ceiling ≤ m ∧ p₁.b2b = p.b2b := by
  unfold lowerIfBelow
  split
  · exact lower_edited h hp m
  · rename_i hge
    exact ⟨db, p, rfl, .refl h hp, Nat.le_of_not_lt hge, rfl⟩

theorem lowerAlways_edited (given : Option Nat) :
    ∃ db₁ p₁, lowerAlways db id given = .ok db₁ ∧ Edited db id db₁ p₁ ∧
      (∀ m, given = some m → p₁.ceiling ≤ m) ∧ p₁.b2b = p.b2b := by
  cases given with
  | none => exact ⟨db, p, rfl, .refl h hp, nofun, rfl⟩
  | some m =>
    obtain ⟨db₁, p₁, hok, hed, hle, hb2b⟩ := lower_edited h hp m
    refine ⟨db₁, p₁, hok, hed, fun m' hm => ?_, hb2b⟩
    cases hm
    exact hle

theorem lowerIfGiven_edited (given : Option Nat) :
    ∃ db₁ p₁, lowerIfGiven db id p.ceiling given = .ok db₁ ∧ Edited db id db₁ p₁ ∧
      (∀ m, given = some m → p₁.ceiling ≤ m) ∧ p₁.b2b = p.b2b := by
  cases given with
  | none => exact ⟨db, p, rfl, .refl h hp, nofun, rfl⟩
  | some m =>
    obtain ⟨db₁, p₁, hok, hed, hle, hb2b⟩ := lowerIfBelow_edited h hp m
    refine ⟨db₁, p₁, hok, hed, fun m' hm => ?_, hb2b⟩
    cases hm
    exact hle

end

theorem cascade_target (hp : db.partners.find? id = some p)
    (h : applyPartnerB2BAuthorityCascade db id input = .ok db') :
    ∃ rt, rootTarget p input = .ok rt := by
  simp only [applyPartnerB2BAuthorityCascade, ok_steps] at h
  obtain ⟨q, hq, rt, hrt, -⟩ := h
  obtain rfl : p = q := some.inj (hp.symm.trans hq)
  exact ⟨rt, hrt⟩

theorem rootTarget_eq (h : rootTarget p input = .ok rt) :
    rt = if input.enabled.getD p.b2bEnabled then
        ⟨true, input.maximumBps.getD p.b2bMaxDiscountBps,
          input.canDelegate.getD p.b2bCanDelegate, input.sourcePartnerId⟩
      else .revoked := by
  simp only [rootTarget, ok_steps, normalizedAuthority] at h
  obtain ⟨-, h⟩ := h
  cases he : input.enabled.getD p.b2bEnabled with
  | false =>
    simp only [he, Bool.not_false, if_true, Except.ok.injEq] at h
    simp [h]
  | true =>
    simp only [he, Bool.not_true, Bool.false_eq_true, if_false, if_true, Bool.true_and] at h
    split at h
    · cases h
    · simp [← Except.ok.inj h]

theorem cascade_edited (h : Sound db) (hp : db.partners.find? id = some p)
    (hrt : rootTarget p input = .ok rt)
    (hsource : ∀ s, input.sourcePartnerId = some s → rt.enabled = true →
      p.parentPartnerId = some s ∧ ∃ source, db.partners.find? s = some source ∧
        source.delegates rt.maximumBps = true) :
    ∃ db₁, applyPartnerB2BAuthorityCascade db id input = .ok db₁ ∧
      Edited db id db₁ (p.withB2B rt) := by
  have hfields := rootTarget_eq hrt
  obtain ⟨db₁, hok, hsound, hwithin, hrow⟩ :=
    applyPartnerB2BAuthorityCascade_spec h hp hrt (fun s hs => by
      split at hfields
      · rw [hfields] at hs
        exact hsource s hs (by rw [hfields])
      · rw [hfields] at hs
        cases hs)
  exact ⟨db₁, hok, hsound, hwithin, hrow⟩

/-! ## The last write of an edit -/

structure TeamEdit (old new : Partner) : Prop where
  identity : new.identity = old.identity
  b2b : new.b2b = old.b2b
  raised : old.ceiling ≤ new.ceiling
  null : new.teamOverrideMaxBps = none → old.teamOverrideMaxBps = none

variable {new : Partner}

theorem TeamEdit.parent (he : TeamEdit old new) :
    new.parentPartnerId = old.parentPartnerId := congrArg Prod.fst he.identity

theorem TeamEdit.delegates (he : TeamEdit old new) (m : Nat) :
    new.delegates m = old.delegates m := by
  have hd : ∀ q : Partner, q.delegates m = q.b2b.delegates m := fun _ => rfl
  rw [hd, hd, he.b2b]

section LastWrite

variable {new : Partner} (hp : db.partners.find? id = some p) (he : TeamEdit p new)
include hp he

theorem put_keeps : Keeps db { db with partners := db.partners.put id new } := by
  refine ⟨fun k => ?_, fun k i hi => ⟨i, hi, rfl, rfl, fun ho => ho⟩⟩
  by_cases hk : id = k
  · subst hk
    rw [find?_put_self, hp, map_some, map_some, he.identity]
  · rw [find?_put_ne _ _ hk]

theorem put_grows {q : Partner} (hq : db.partners.find? k = some q) :
    ∃ q', (db.partners.put id new).find? k = some q' ∧ q.ceiling ≤ q'.ceiling ∧
      ∀ m, q'.delegates m = q.delegates m := by
  by_cases hk : id = k
  · subst hk
    obtain rfl : p = q := some.inj (hp.symm.trans hq)
    exact ⟨new, find?_put_self .., he.raised, he.delegates⟩
  · exact ⟨q, (find?_put_ne _ _ hk).trans hq, le_refl _, fun _ => rfl⟩

theorem put_bounded (h : Sound db)
    (hguard : enforcePartnerTeamOverrideBounds db new = .ok ()) :
    Bounded { db with partners := db.partners.put id new } new := by
  obtain ⟨hroot, hparent⟩ := teamBounds_ok.mp hguard
  refine ⟨hroot, fun q hq => ?_⟩
  obtain ⟨parent, hfind, hteam, hedge⟩ := hparent q hq
  obtain ⟨parent', hfind', hle, -⟩ := put_grows hp he hfind
  refine ⟨parent', hfind', ?_, fun e hed => (hedge e hed).trans hle⟩
  cases hm : new.teamOverrideMaxBps with
  | some m => exact (Partner.le_ceiling hm ▸ hteam m hm).trans hle
  | none =>
    -- a null ceiling was null before, and was within the parent's
    obtain ⟨parent0, hfind0, hle0, -⟩ := (h.bounded id p hp).parent q (he.parent ▸ hq)
    obtain rfl : parent = parent0 := some.inj (hfind.symm.trans hfind0)
    have hceiling : new.ceiling = p.ceiling := by simp [Partner.ceiling, hm, he.null hm]
    exact (hceiling ▸ hle0).trans hle

theorem writeTeam_edited (h : Sound db) (hok : writeTeam db id p new = .ok db') :
    Edited db id db' new := by
  simp only [writeTeam, ok_steps, checkPartner_ok, Partner.check_iff] at hok
  obtain ⟨hguard, -, hchecks, rfl⟩ := hok
  refine ⟨?_, ⟨put_keeps hp he, ?_, fun k i hi _ => hi⟩, find?_put_self ..⟩
  · refine (put_keeps hp he).sound h ?_ h.inviteChecks ?_ ?_ ?_
    · intro k q hq
      by_cases hk : id = k
      · subst hk
        rw [find?_put_self, some.injEq] at hq
        exact hq ▸ hchecks
      · rw [find?_put_ne _ _ hk] at hq
        exact h.partnerChecks hq
    · intro k q hq
      by_cases hk : id = k
      · subst hk
        rw [find?_put_self, some.injEq] at hq
        exact hq ▸ put_bounded hp he h hguard
      · rw [find?_put_ne _ _ hk] at hq
        have hb := h.bounded k q hq
        refine ⟨hb.root, fun parentId hparent => ?_⟩
        obtain ⟨parent, hfind, hle, hedge⟩ := hb.parent parentId hparent
        obtain ⟨parent', hfind', hge, -⟩ := put_grows hp he hfind
        exact ⟨parent', hfind', hle.trans hge, fun e hed => (hedge e hed).trans hge⟩
    · have hgranted : ∀ q, Granted db q →
          Granted { db with partners := db.partners.put id new } q := by
        intro q hq s hs
        obtain ⟨hparent, source, hfind, hd⟩ := hq s hs
        obtain ⟨source', hfind', -, hsame⟩ := put_grows hp he hfind
        exact ⟨hparent, source', hfind', (hsame _).trans hd⟩
      intro k q hq
      by_cases hk : id = k
      · subst hk
        rw [find?_put_self, some.injEq] at hq
        subst hq
        refine hgranted new ?_
        intro s hs
        have hsource : new.b2bGrantSourcePartnerId = p.b2bGrantSourcePartnerId :=
          congrArg B2BAuthority.sourcePartnerId he.b2b
        have hmax : new.b2bMaxDiscountBps = p.b2bMaxDiscountBps :=
          congrArg B2BAuthority.maximumBps he.b2b
        rw [he.parent, hmax]
        exact h.granted id p hp s (hsource ▸ hs)
      · rw [find?_put_ne _ _ hk] at hq
        exact hgranted q (h.granted k q hq)
    · intro k i hi ho
      have hb := h.invites k i hi ho
      refine ⟨hb.root, fun q hq => ?_⟩
      obtain ⟨inviter, hfind, hm, hed, hd⟩ := hb.inviter q hq
      obtain ⟨inviter', hfind', hge, hsame⟩ := put_grows hp he hfind
      exact ⟨inviter', hfind', fun m hmm => (hm m hmm).trans hge,
        fun e hee => (hed e hee).trans hge, fun hen => (hsame _).trans (hd hen)⟩
  · intro k hk
    exact find?_put_ne _ _ (fun heq => hk (heq ▸ .refl))

theorem writeTeam_accepts (h : Sound db) (hchecks : PartnerChecks new)
    (hroot : p.parentPartnerId = none → new.parentOverrideBps = none)
    (hbound : ∀ parentId parent, p.parentPartnerId = some parentId →
      db.partners.find? parentId = some parent →
      (∀ m, new.teamOverrideMaxBps = some m → m ≤ parent.ceiling) ∧
        ∀ e, new.parentOverrideBps = some e → e ≤ parent.ceiling) :
    ∃ db', writeTeam db id p new = .ok db' := by
  refine ⟨_, writeTeam_ok (teamBounds_ok.mpr ⟨?_, ?_⟩) ?_ hchecks⟩
  · rw [he.parent]
    exact hroot
  · intro parentId hparent
    rw [he.parent] at hparent
    obtain ⟨parent, hfind, -⟩ := (h.bounded id p hp).parent parentId hparent
    exact ⟨parent, hfind, hbound parentId parent hparent hfind⟩
  · have hnot : ¬ new.ceiling < p.ceiling := Nat.not_lt.mpr he.raised
    simp [enforcePartnerTeamOverrideCeilingUpdate, hnot]

end LastWrite

/-! ## New rows -/

theorem acyclic_put (h : Sound db) (hfresh : db.partners.find? id = none)
    (hparent : ∀ q, new.parentPartnerId = some q → ∃ r, db.partners.find? q = some r) :
    Acyclic parentLink (db.partners.put id new) := by
  obtain ⟨rank, hrank⟩ := h.acyclic
  have hne : ∀ q r, db.partners.find? q = some r → q ≠ id := by
    rintro q r hq rfl
    rw [hfresh] at hq
    cases hq
  refine ⟨fun k => if k = id then new.parentPartnerId.elim 0 (fun q => rank q + 1)
    else rank k, ?_⟩
  rintro k c ⟨r, hr, hlink⟩
  have hlink : r.parentPartnerId = some k := hlink
  by_cases hc : id = c
  · subst hc
    rw [find?_put_self, some.injEq] at hr
    subst hr
    obtain ⟨q, hq⟩ := hparent k hlink
    simp [hlink, hne k q hq]
  · rw [find?_put_ne _ _ hc] at hr
    obtain ⟨parent, hfind, -⟩ := (h.bounded c r hr).parent k hlink
    simp only [if_neg (hne k parent hfind), if_neg (Ne.symm hc)]
    exact hrank k c ⟨r, hr, hlink⟩

/-- `INSERT INTO partners` of a row with an explicit ceiling, for an account
without an open invitation. -/
theorem insertPartner_sound (h : Sound db) {m : Nat} (hteam : new.teamOverrideMaxBps = some m)
    (hsource : new.b2bEnabled = false → new.b2bGrantSourcePartnerId = none)
    (hapart : ∀ k i, db.invites.find? k = some i → i.isOpen = true →
      new.commerceUserId ≠ i.commerceUserId) (hok : insertPartner db id new = .ok db') :
    Sound db' := by
  simp only [insertPartner, ok_steps, checkPartner_ok, guard_iffs, isSome_eq_false_iff,
    isNone_iff_eq_none, any_eq_false_iff] at hok
  obtain ⟨hb2b, hbounds, hcheck, ⟨hfresh, hunique⟩, rfl⟩ := hok
  obtain ⟨hroot, hparent⟩ := teamBounds_ok.mp hbounds
  have hold : ∀ {q r}, db.partners.find? q = some r →
      (db.partners.put id new).find? q = some r := by
    intro q r hq
    refine (find?_put_ne _ _ ?_).trans hq
    rintro rfl
    rw [hfresh] at hq
    cases hq
  have haccount : ∀ k q, db.partners.find? k = some q → q.commerceUserId.isSome = true →
      q.commerceUserId ≠ new.commerceUserId := by
    intro k q hq hsome heq
    have := hunique k q hq
    simp [heq ▸ hsome, heq] at this
  refine ⟨acyclic_put h hfresh ?_, ?_, h.inviteChecks, ?_, ?_, ?_, ?_, h.openInvites, ?_⟩
  · intro q hq
    obtain ⟨parent, hfind, -⟩ := hparent q hq
    exact ⟨parent, hfind⟩
  · intro k q hq
    rcases find?_put_cases hq with ⟨-, rfl⟩ | hq
    · exact hcheck
    · exact h.checks k q hq
  · intro k q hq
    rcases find?_put_cases hq with ⟨-, rfl⟩ | hq
    · refine ⟨hroot, fun parentId hpar => ?_⟩
      obtain ⟨parent, hfind, hle, hedge⟩ := hparent parentId hpar
      exact ⟨parent, hold hfind, Partner.le_ceiling hteam ▸ hle m hteam, hedge⟩
    · have hb := h.bounded k q hq
      refine ⟨hb.root, fun parentId hpar => ?_⟩
      obtain ⟨parent, hfind, hrest⟩ := hb.parent parentId hpar
      exact ⟨parent, hold hfind, hrest⟩
  · intro k q hq s hs
    rcases find?_put_cases hq with ⟨-, rfl⟩ | hq
    · have hen : q.b2bEnabled = true := by
        cases hen : q.b2bEnabled with
        | true => rfl
        | false =>
          rw [hsource hen] at hs
          cases hs
      obtain ⟨hpar, source, hfind, hd⟩ := b2bBounds_ok.mp hb2b hen s hs
      exact ⟨hpar, source, hold hfind, hd⟩
    · obtain ⟨hpar, source, hfind, hd⟩ := h.granted k q hq s hs
      exact ⟨hpar, source, hold hfind, hd⟩
  · intro k i hi ho
    have hb := h.invites k i hi ho
    refine ⟨hb.root, fun q hq => ?_⟩
    obtain ⟨inviter, hfind, hrest⟩ := hb.inviter q hq
    exact ⟨inviter, hold hfind, hrest⟩
  · intro k k' q q' hq hq' hsome heq
    rcases find?_put_cases hq with ⟨rfl, rfl⟩ | hq
    · rcases find?_put_cases hq' with ⟨rfl, -⟩ | hq'
      · rfl
      · exact absurd heq.symm (haccount k' q' hq' (heq ▸ hsome))
    · rcases find?_put_cases hq' with ⟨-, hnew⟩ | hq'
      · exact absurd (hnew ▸ heq) (haccount k q hq hsome)
      · exact h.accounts k k' q q' hq hq' hsome heq
  · intro k k' q i hq hi ho hsome
    rcases find?_put_cases hq with ⟨-, rfl⟩ | hq
    · exact hapart k' i hi ho
    · exact h.apart k k' q i hq hi ho hsome

/-- `INSERT INTO partner_invites`, for nobody or for an account without a
membership. -/
theorem insertInvite_sound (h : Sound db) {new : Invite} (hopen : new.isOpen = true)
    (hapart : ∀ k q, db.partners.find? k = some q → q.commerceUserId.isSome = true →
      q.commerceUserId ≠ new.commerceUserId)
    (hok : insertInvite db id new = .ok db') : Sound db' := by
  simp only [insertInvite, ok_steps, checkInvite_ok, guard_iffs, isSome_eq_false_iff,
    isNone_iff_eq_none, any_eq_false_iff] at hok
  obtain ⟨hb2b, hbounds, hcheck, ⟨-, hunique⟩, rfl⟩ := hok
  obtain ⟨hroot, hinviter⟩ := inviteTeamBounds_ok.mp hbounds
  have haccount : ∀ k i, db.invites.find? k = some i → i.isOpen = true →
      i.commerceUserId.isSome = true → i.commerceUserId ≠ new.commerceUserId := by
    intro k i hi ho hsome heq
    have := hunique k i hi
    simp [ho, heq ▸ hsome, heq] at this
  have hbound : ∀ {i}, InviteBounded db i →
      InviteBounded { db with invites := db.invites.put id new } i :=
    fun hb => ⟨hb.root, hb.inviter⟩
  refine ⟨h.acyclic, h.checks, ?_, fun k q hq => ?_, h.granted, ?_, h.accounts, ?_, ?_⟩
  · intro k i hi
    rcases find?_put_cases hi with ⟨-, rfl⟩ | hi
    · exact hcheck
    · exact h.inviteChecks k i hi
  · exact ⟨(h.bounded k q hq).root, (h.bounded k q hq).parent⟩
  · intro k i hi ho
    rcases find?_put_cases hi with ⟨-, rfl⟩ | hi
    · refine hbound ⟨hroot, fun q hq => ?_⟩
      obtain ⟨inviter, hfind, hm, hed⟩ := hinviter q hq
      refine ⟨inviter, hfind, hm, hed, fun hen => ?_⟩
      obtain ⟨inviter', hfind', hd⟩ := inviteB2BBounds_ok.mp hb2b hen q hq
      obtain rfl : inviter = inviter' := some.inj (hfind.symm.trans hfind')
      exact hd
    · exact hbound (h.invites k i hi ho)
  · intro k k' i i' hi hi' ho ho' hsome heq
    rcases find?_put_cases hi with ⟨rfl, rfl⟩ | hi
    · rcases find?_put_cases hi' with ⟨rfl, -⟩ | hi'
      · rfl
      · exact absurd heq.symm (haccount k' i' hi' ho' (heq ▸ hsome))
    · rcases find?_put_cases hi' with ⟨-, hnew⟩ | hi'
      · exact absurd (hnew ▸ heq) (haccount k i hi ho hsome)
      · exact h.openInvites k k' i i' hi hi' ho ho' hsome heq
  · intro k k' q i hq hi ho hsome
    rcases find?_put_cases hi with ⟨-, rfl⟩ | hi
    · exact hapart k q hq hsome
    · exact h.apart k k' q i hq hi ho hsome

end ApiToken.Team
