import ApiToken.Team.Preservation

/-!
# Team authority

In every state the calls can reach, nobody below a partner has more than the
partner; and a request that lowers a ceiling or a grant, or raises one within
what the parent has, is carried out in full, whatever hangs below the partner
(`authority_never_widens`).
-/

namespace ApiToken.Team

open Descent

variable {new q source member : Partner} {user k newId : String}
  {authority : AuthorityInput} {sub : Nat} {now : Int} {input : MemberInput}
  {i : Invite} {call : Call}

variable {db db₁ db₂ db' : Sales} {id : String} {p : Partner}

/-! ## Requests -/

/-- What an edit asks for; an absent field is to stay. -/
structure Request where
  teamOverrideMaxBps : Option Nat
  b2bEnabled : Option Bool
  b2bMaxDiscountBps : Option Nat
  b2bCanDelegate : Option Bool

/-- The row has what was asked for. -/
structure Request.MetBy (r : Request) (p : Partner) : Prop where
  ceiling : ∀ m, r.teamOverrideMaxBps = some m → p.ceiling = m
  enabled : ∀ b, r.b2bEnabled = some b → p.b2bEnabled = b
  maximum : ∀ m, r.b2bMaxDiscountBps = some m → p.b2bMaxDiscountBps = m
  delegation : ∀ b, r.b2bCanDelegate = some b → p.b2bCanDelegate = b

def AuthorityInput.request (input : AuthorityInput) : Request :=
  ⟨some input.teamOverrideMaxBps, some input.b2bEnabled, some input.b2bMaxDiscountBps,
    some input.b2bCanDelegate⟩

def MemberInput.request (input : MemberInput) : Request :=
  ⟨input.teamOverrideMaxBps, input.b2bEnabled, input.b2bMaxDiscountBps, input.b2bCanDelegate⟩

def AdminInput.request (input : AdminInput) : Request :=
  ⟨input.teamOverrideMaxBps, input.b2bEnabled, input.b2bMaxDiscountBps, input.b2bCanDelegate⟩

def Call.request : Call → Request
  | .onboardCommercePartner _ _ _ _ authority => authority.request
  | .updateDirectTeamMemberAuthority _ input => input.request
  | .updatePartnerAdmin _ _ input => input.request
  | _ => ⟨none, none, none, none⟩

def CeilingInOrder (db : Sales) (p : Partner) (m : Nat) : Prop :=
  m ≤ p.ceiling ∨ (m ≤ commerceTeamShareMaxBps ∧
    ∀ parentId parent, p.parentPartnerId = some parentId →
      db.partners.find? parentId = some parent → m ≤ parent.ceiling)

/-- The B2B part of a request is consistent. -/
structure GrantInOrder (p : Partner) (r : Request) : Prop where
  enabled : r.b2bEnabled.getD p.b2bEnabled = true →
    r.b2bMaxDiscountBps.getD p.b2bMaxDiscountBps ≤ 9500
  revoked : r.b2bEnabled.getD p.b2bEnabled = false →
    r.b2bMaxDiscountBps.getD 0 = 0 ∧ r.b2bCanDelegate ≠ some true

structure MemberGrantInOrder (source member : Partner) (input : MemberInput) : Prop where
  inherits : member.b2bEnabled = true → member.b2bGrantSourcePartnerId.isSome = true
  enabled : (memberGrant member input).enabled = true →
    (member.b2bEnabled = true ∧
      (memberGrant member input).maximumBps ≤ member.b2bMaxDiscountBps) ∨
    source.delegates (memberGrant member input).maximumBps = true
  revoked : (memberGrant member input).enabled = false →
    input.b2bMaxDiscountBps.getD 0 = 0 ∧ input.b2bCanDelegate ≠ some true

/-- The edits of partner `id` that the program itself accepts. -/
inductive Permitted (db : Sales) (id : String) : Call → Prop where
  | onboard {now : Int} {newId user : String} {sub : Nat} {authority : AuthorityInput}
      {p : Partner} (row : partnerOfAccount db user = some (id, p))
      (fallback : sub ≤ 10000)
      (ceiling : CeilingInOrder db p authority.teamOverrideMaxBps)
      (grant : GrantInOrder p authority.request) :
      Permitted db id (.onboardCommercePartner now newId user sub authority)
  | member {now : Int} {input : MemberInput} {source member : Partner}
      (target : input.memberId = id)
      (parent : db.partners.find? input.parentPartnerId = some source)
      (row : db.partners.find? id = some member)
      (direct : member.parentPartnerId = some input.parentPartnerId)
      (active : source.status = .active)
      (program : input.requireProgramEnabled = true →
        source.programEnabled = true ∧ member.programEnabled = true)
      (edge : ∀ e, input.overrideBps = some e → e ≤ source.ceiling)
      (invites : input.teamInvitesEnabled = some true → source.teamInvitesEnabled = true)
      (ceiling : ∀ m, input.teamOverrideMaxBps = some m → CeilingInOrder db member m)
      (grant : input.changesB2B = true → MemberGrantInOrder source member input) :
      Permitted db id (.updateDirectTeamMemberAuthority now input)
  | admin {now : Int} {input : AdminInput} {p : Partner}
      (row : db.partners.find? id = some p)
      (account : input.programEnabled = some true → p.commerceUserId.isSome = true)
      (fallback : ∀ s, input.subCommissionBps = some s → s ≤ 10000)
      (ceiling : ∀ m, input.teamOverrideMaxBps = some m → CeilingInOrder db p m)
      (grant : GrantInOrder p input.request) :
      Permitted db id (.updatePartnerAdmin now id input)

theorem CeilingInOrder.bounds {m : Nat} (hm : CeilingInOrder db p m) (h : Sound db)
    (hp : db.partners.find? id = some p) :
    m ≤ 2000 ∧ ∀ parentId parent, p.parentPartnerId = some parentId →
      db.partners.find? parentId = some parent → m ≤ parent.ceiling := by
  rcases hm with hm | hm
  · refine ⟨hm.trans (h.partnerChecks hp).ceiling, fun parentId parent hq hf => ?_⟩
    obtain ⟨parent', hf', hle, -⟩ := (h.bounded id p hp).parent parentId hq
    obtain rfl : parent = parent' := some.inj (hf.symm.trans hf')
    exact hm.trans hle
  · exact hm

/-! ## Requests and targets -/

theorem rootTarget_ok {input : GrantInput}
    (henabled : input.enabled.getD p.b2bEnabled = true →
      input.maximumBps.getD p.b2bMaxDiscountBps ≤ 9500)
    (hrevoked : input.enabled.getD p.b2bEnabled = false →
      input.maximumBps.getD 0 = 0 ∧ input.canDelegate ≠ some true) :
    ∃ rt, rootTarget p input = .ok rt := by
  simp only [rootTarget, ok_steps, normalizedAuthority]
  cases he : input.enabled.getD p.b2bEnabled with
  | false =>
    obtain ⟨hmax, hdel⟩ := hrevoked he
    simp [hmax, hdel]
  | true =>
    have hmax := Nat.not_lt.mpr (henabled he)
    simp [hmax]

theorem rootTarget_met {input : GrantInput} {rt : B2BAuthority}
    (h : rootTarget p input = .ok rt) :
    (∀ b, input.enabled = some b → rt.enabled = b) ∧
      (∀ m, input.maximumBps = some m → rt.maximumBps = m) ∧
      ∀ b, input.canDelegate = some b → rt.canDelegate = b := by
  have hguard := h
  simp only [rootTarget, ok_steps] at hguard
  have hguard := hguard.1
  rw [rootTarget_eq h]
  cases he : input.enabled.getD p.b2bEnabled with
  | true =>
    simp only [if_true]
    refine ⟨fun b hb => ?_, fun m hm => by simp [hm], fun b hb => by simp [hb]⟩
    simpa [hb] using he.symm
  | false =>
    simp only [he, Bool.not_false, Bool.true_and, guard_iffs, Nat.not_lt, Nat.le_zero] at hguard
    simp only [if_bool]
    refine ⟨fun b hb => ?_, fun m hm => ?_, fun b hb => ?_⟩
    · simpa [hb, B2BAuthority.revoked] using he.symm
    · simpa [hm, B2BAuthority.revoked] using hguard.1.symm
    · cases b with
      | false => rfl
      | true => exact absurd hb hguard.2

theorem GrantInOrder.target {r : Request} (h : GrantInOrder p r) (source : Option String) :
    ∃ rt, rootTarget p ⟨r.b2bEnabled, r.b2bMaxDiscountBps, r.b2bCanDelegate, source⟩ =
      .ok rt := rootTarget_ok h.enabled h.revoked

theorem rootTarget_congr {p1 : Partner} (h : p1.b2b = p.b2b) (input : GrantInput) :
    rootTarget p1 input = rootTarget p input := by
  simp only [Partner.b2b, B2BAuthority.mk.injEq] at h
  simp only [rootTarget, h.1, h.2.1, h.2.2.1]

/-! ## The end of an edit -/

theorem Edited.accepts {p2 : Partner} (hed : Edited db id db₂ p2) (h : Sound db)
    (hp : db.partners.find? id = some p) (he : TeamEdit p2 new)
    (hchecks : PartnerChecks new) (hteam : new.teamOverrideMaxBps = p2.teamOverrideMaxBps ∨
      ∃ m, new.teamOverrideMaxBps = some m ∧ CeilingInOrder db p m)
    (hedge : new.parentOverrideBps = p2.parentOverrideBps ∨
      (p.parentPartnerId ≠ none ∧ ∀ parentId parent, p.parentPartnerId = some parentId →
        db.partners.find? parentId = some parent →
        ∀ e, new.parentOverrideBps = some e → e ≤ parent.ceiling)) :
    ∃ db', writeTeam db₂ id p2 new = .ok db' := by
  have hb := hed.sound.bounded id p2 hed.row
  obtain ⟨hplace, -⟩ := hed.identity hp
  refine writeTeam_accepts hed.row he hed.sound hchecks ?_ ?_
  · intro hnone
    rcases hedge with hedge | hedge
    · rw [hedge]
      exact hb.root hnone
    · exact absurd (hplace ▸ hnone) hedge.1
  · intro parentId parent hparent hfind
    obtain ⟨parent', hfind', hle, hle'⟩ := hb.parent parentId hparent
    obtain rfl : parent = parent' := some.inj (hfind.symm.trans hfind')
    rw [hplace] at hparent
    rw [hed.parent h hp hparent] at hfind
    constructor
    · intro m hm
      rcases hteam with hteam | ⟨m', hm', horder⟩
      · rw [hteam] at hm
        exact (Partner.le_ceiling hm).le.trans hle
      · obtain rfl : m' = m := some.inj (hm'.symm.trans hm)
        exact (horder.bounds h hp).2 parentId parent hparent hfind
    · intro e hee
      rcases hedge with hedge | hedge
      · exact hle' e (hedge ▸ hee)
      · exact hedge.2 parentId parent hparent hfind e hee

/-! ## Onboarding -/

theorem partnerOfAccount_some (h : partnerOfAccount db user = some (id, p)) :
    db.partners.find? id = some p ∧ p.commerceUserId = some user := by
  refine ⟨find?_eq_some_iff.mpr (mem_of_find?_eq_some h), ?_⟩
  simpa using find?_some h

theorem partnerOfAccount_none (h : partnerOfAccount db user = none)
    (hq : db.partners.find? k = some q) : q.commerceUserId ≠ some user := by
  have hall := List.find?_eq_none.mp h (k, q) (mem_of_find? hq)
  simpa using hall

theorem reenabledPartner_edit (hle : p.ceiling ≤ authority.teamOverrideMaxBps) :
    TeamEdit p (reenabledPartner p sub authority) :=
  ⟨rfl, rfl, hle, nofun⟩

theorem reonboard_edited (h : Sound db) (hp : db.partners.find? id = some p)
    (hok : reonboard db id p sub authority = .ok db') :
    ∃ p', Edited db id db' p' ∧ authority.request.MetBy p' := by
  obtain ⟨db₁, p1, hlower, hed1, hle, -⟩ :=
    lowerIfBelow_edited h hp authority.teamOverrideMaxBps
  simp only [reonboard, hlower, ok_steps, Except.ok.injEq, exists_eq_left', currentPartner] at hok
  obtain ⟨db₂, hgrant, p2, hp2, hwrite⟩ := hok
  obtain ⟨rt, hrt⟩ := cascade_target hed1.row hgrant
  obtain ⟨db2', hgrant', hed2⟩ := cascade_edited hed1.sound hed1.row hrt (by simp)
  obtain rfl := Except.ok.inj (hgrant.symm.trans hgrant')
  obtain rfl := some.inj (hp2.symm.trans hed2.row)
  have hed3 := writeTeam_edited hp2 (reenabledPartner_edit hle) hed2.sound hwrite
  obtain ⟨hen, hmax, hdel⟩ := rootTarget_met hrt
  refine ⟨_, (hed1.trans hed2).trans hed3, fun m hm => some.inj hm, ?_, ?_, ?_⟩
  · exact fun b hb => hen b hb
  · exact fun m hm => hmax m hm
  · exact fun b hb => hdel b hb

theorem reonboard_accepts (h : Sound db) (hp : db.partners.find? id = some p)
    (huser : p.commerceUserId = some user) (hsub : sub ≤ 10000)
    (hteam : CeilingInOrder db p authority.teamOverrideMaxBps)
    (hgrant : GrantInOrder p authority.request) :
    ∃ db', reonboard db id p sub authority = .ok db' := by
  obtain ⟨db₁, p1, hlower, hed1, hle, hb2b⟩ :=
    lowerIfBelow_edited h hp authority.teamOverrideMaxBps
  obtain ⟨rt, hrt⟩ := hgrant.target none
  rw [← rootTarget_congr hb2b] at hrt
  obtain ⟨db₂, hcascade, hed2⟩ := cascade_edited hed1.sound hed1.row hrt nofun
  have hed := hed1.trans hed2
  have hchecks := hed.sound.partnerChecks hed.row
  have haccount : (p1.withB2B rt).commerceUserId = some user := (hed.identity hp).2.trans huser
  have hnew : PartnerChecks (reenabledPartner (p1.withB2B rt) sub authority) := by
    refine ⟨?_, hchecks.edge, hchecks.enabled, hchecks.disabled, hsub, hchecks.source, ?_⟩
    · intro m hm
      obtain rfl := some.inj hm
      exact (hteam.bounds h hp).1
    · intro _
      exact Option.isSome_of_eq_some haccount
  obtain ⟨db', hwrite⟩ := hed.accepts h hp (reenabledPartner_edit hle) hnew
    (.inr ⟨_, rfl, hteam⟩) (.inl rfl)
  refine ⟨db', ?_⟩
  simp only [reonboard, ok_steps, currentPartner]
  exact ⟨db₁, hlower, db₂, hcascade, _, hed.row, hwrite⟩

theorem onboardCommercePartner_edited (h : Sound db)
    (hrow : partnerOfAccount db user = some (id, p))
    (hok : onboardCommercePartner db now newId user sub authority = .ok db') :
    ∃ p', Edited db id db' p' ∧ authority.request.MetBy p' := by
  obtain ⟨hp, huser⟩ := partnerOfAccount_some hrow
  simp only [onboardCommercePartner, hrow, onboardOrEdit, ok_steps] at hok
  have hed := revokeInvites_edited h hp now huser
  obtain ⟨p', hed', hmet⟩ := reonboard_edited hed.sound hed.row hok.2.2
  exact ⟨p', hed.trans hed', hmet⟩

theorem onboardCommercePartner_sound (h : Sound db)
    (hok : onboardCommercePartner db now newId user sub authority = .ok db') :
    Sound db' := by
  cases hrow : partnerOfAccount db user with
  | some =>
    obtain ⟨p', hed, -⟩ := onboardCommercePartner_edited h hrow hok
    exact hed.sound
  | none =>
    simp only [onboardCommercePartner, hrow, onboardOrEdit, ok_steps] at hok
    have hsound : Sound (revokeInvites db now
        (fun i => i.commerceUserId = some user)) := by
      refine revokeInvites_sound h now ?_
      intro i hs
      simp [of_decide_eq_true hs]
    refine insertPartner_sound hsound rfl (fun _ => rfl) ?_ hok.2.2
    -- what the account had open has just been revoked
    intro k i hi ho heq
    simp only [revokeInvites, find?_mapRows] at hi
    obtain ⟨j, -, rfl⟩ := map_eq_some_iff.mp hi
    by_cases hs : (decide (j.commerceUserId = some user) && j.isOpen) = true
    · rw [if_pos hs] at ho
      simp [Invite.isOpen] at ho
    · rw [if_neg hs] at ho heq
      have heq : some user = j.commerceUserId := heq
      simp [← heq, ho] at hs

theorem onboardCommercePartner_accepts (h : Sound db)
    (hrow : partnerOfAccount db user = some (id, p)) (hsub : sub ≤ 10000)
    (hteam : CeilingInOrder db p authority.teamOverrideMaxBps)
    (hgrant : GrantInOrder p authority.request) :
    ∃ db', onboardCommercePartner db now newId user sub authority = .ok db' := by
  obtain ⟨hp, huser⟩ := partnerOfAccount_some hrow
  have hed := revokeInvites_edited h hp now huser
  have hteam' : CeilingInOrder (revokeInvites db now
      (fun i => i.commerceUserId = some user)) p authority.teamOverrideMaxBps := hteam
  obtain ⟨db', hok⟩ := reonboard_accepts hed.sound hed.row huser hsub hteam' hgrant
  refine ⟨db', ?_⟩
  have hmax : authority.teamOverrideMaxBps ≤ commerceTeamShareMaxBps := (hteam.bounds h hp).1
  have hassert : assertAuthority authority = .ok () := by
    simp only [assertAuthority, assertBps, ok_steps, guard_iffs, Nat.not_lt]
    cases he : authority.b2bEnabled with
    | true => exact ⟨hmax, hgrant.enabled he, by simp⟩
    | false =>
      obtain ⟨hzero, hdel⟩ := hgrant.revoked he
      have hzero : authority.b2bMaxDiscountBps = 0 := hzero
      have hdel : some authority.b2bCanDelegate ≠ some true := hdel
      refine ⟨hmax, by omega, ?_⟩
      simpa [hzero] using hdel
  simp only [onboardCommercePartner, hrow, onboardOrEdit, ok_steps, assertBps, guard_iffs,
    Nat.not_lt]
  exact ⟨hsub, hassert, hok⟩

/-! ## Edits by an administrator -/

theorem editedPartner_edit {input : AdminInput}
    (hle : ∀ m, input.teamOverrideMaxBps = some m → p.ceiling ≤ m) :
    TeamEdit p (editedPartner p input) := by
  refine ⟨rfl, rfl, ?_, ?_⟩
  · cases hm : input.teamOverrideMaxBps with
    | none => simp [editedPartner, Partner.ceiling, hm]
    | some m => simpa [editedPartner, Partner.ceiling, hm] using hle m hm
  · cases hm : input.teamOverrideMaxBps with
    | none | some m => simp [editedPartner, hm]

section

variable (h : Sound db) (hp : db.partners.find? id = some p)
include h hp

theorem changeGrant_met {input : AdminInput} (hok : changeGrant db id input = .ok db') :
    ∃ p', Edited db id db' p' ∧ p'.ceiling = p.ceiling ∧
      (∀ b, input.b2bEnabled = some b → p'.b2bEnabled = b) ∧
      (∀ m, input.b2bMaxDiscountBps = some m → p'.b2bMaxDiscountBps = m) ∧
      ∀ b, input.b2bCanDelegate = some b → p'.b2bCanDelegate = b := by
  unfold changeGrant at hok
  split at hok
  · obtain ⟨rt, hrt⟩ := cascade_target hp hok
    obtain ⟨db₁, hok', hed⟩ := cascade_edited h hp hrt nofun
    obtain rfl := Except.ok.inj (hok.symm.trans hok')
    exact ⟨_, hed, rfl, rootTarget_met hrt⟩
  · rename_i hnone
    simp only [guard_iffs, not_or, Bool.not_eq_true, isSome_eq_false_iff,
      isNone_iff_eq_none] at hnone
    obtain rfl := Except.ok.inj hok
    refine ⟨p, .refl h hp, rfl, ?_⟩
    simp [hnone.1.1, hnone.1.2, hnone.2]

theorem changeGrant_accepts {input : AdminInput} (hgrant : GrantInOrder p input.request) :
    ∃ db', changeGrant db id input = .ok db' := by
  unfold changeGrant
  split
  · obtain ⟨rt, hrt⟩ := hgrant.target none
    obtain ⟨db₁, hok, -⟩ := cascade_edited h hp hrt nofun
    exact ⟨db₁, hok⟩
  · exact ⟨db, rfl⟩

theorem editPartner_edited {input : AdminInput} (hok : editPartner db now id p input = .ok db') :
    ∃ p', Edited db id db' p' ∧ input.request.MetBy p' := by
  simp only [editPartner, ok_steps, currentPartner] at hok
  obtain ⟨-, db₁, hlower, db₂, hgrant, p2, hp2, hwrite⟩ := hok
  have hed0 := revokeIf_edited h hp now (input.programEnabled = some false ||
    input.teamInvitesEnabled = some false || input.status.any (· != .active))
  obtain ⟨db1', p1, hlower', hed1, hle, -⟩ :=
    lowerAlways_edited hed0.sound hed0.row input.teamOverrideMaxBps
  obtain rfl := Except.ok.inj (hlower.symm.trans hlower')
  obtain ⟨p2', hed2, hceiling, hmet⟩ := changeGrant_met hed1.sound hed1.row hgrant
  obtain rfl := some.inj (hp2.symm.trans hed2.row)
  have hle2 : ∀ m, input.teamOverrideMaxBps = some m → p2.ceiling ≤ m :=
    fun m hm => hceiling ▸ hle m hm
  have hed3 := writeTeam_edited hp2 (editedPartner_edit hle2) hed2.sound hwrite
  refine ⟨_, ((hed0.trans hed1).trans hed2).trans hed3, ?_, hmet.1, hmet.2.1, hmet.2.2⟩
  intro m hm
  have hm : input.teamOverrideMaxBps = some m := hm
  simp [editedPartner, Partner.ceiling, hm]

theorem editPartner_accepts {input : AdminInput}
    (haccount : input.programEnabled = some true → p.commerceUserId.isSome = true)
    (hsub : ∀ s, input.subCommissionBps = some s → s ≤ 10000)
    (hteam : ∀ m, input.teamOverrideMaxBps = some m → CeilingInOrder db p m)
    (hgrant : GrantInOrder p input.request) :
    ∃ db', editPartner db now id p input = .ok db' := by
  have hed0 := revokeIf_edited h hp now (input.programEnabled = some false ||
    input.teamInvitesEnabled = some false || input.status.any (· != .active))
  obtain ⟨db₁, p1, hlower, hed1, hle, hb2b⟩ :=
    lowerAlways_edited hed0.sound hed0.row input.teamOverrideMaxBps
  have hgrant1 : GrantInOrder p1 input.request := by
    simp only [Partner.b2b, B2BAuthority.mk.injEq] at hb2b
    refine ⟨?_, ?_⟩
    · rw [hb2b.1, hb2b.2.1]
      exact hgrant.enabled
    · rw [hb2b.1]
      exact hgrant.revoked
  obtain ⟨db₂, hcascade⟩ := changeGrant_accepts hed1.sound hed1.row hgrant1
  obtain ⟨p2, hed2, hceiling, -⟩ := changeGrant_met hed1.sound hed1.row hcascade
  have hed := (hed0.trans hed1).trans hed2
  have hle2 : ∀ m, input.teamOverrideMaxBps = some m → p2.ceiling ≤ m :=
    fun m hm => hceiling ▸ hle m hm
  have hchecks := hed.sound.partnerChecks hed.row
  have hnew : PartnerChecks (editedPartner p2 input) := by
    refine ⟨?_, hchecks.edge, hchecks.enabled, hchecks.disabled, ?_, hchecks.source, ?_⟩
    · intro m hm
      cases hg : input.teamOverrideMaxBps with
      | none =>
        simp only [editedPartner, hg, isSome_none, if_bool] at hm
        exact hchecks.team m hm
      | some m' =>
        simp only [editedPartner, hg, isSome_some, if_true, some.injEq] at hm
        exact hm ▸ ((hteam m' hg).bounds h hp).1
    · cases hg : input.subCommissionBps with
      | none => simpa [editedPartner, hg] using hchecks.sub
      | some sub => simpa [editedPartner, hg] using hsub sub hg
    · cases hg : input.programEnabled with
      | none => simpa [editedPartner, hg] using hchecks.program
      | some =>
        intro hb
        simp only [editedPartner, hg, getD_some] at hb
        have := haccount (hb ▸ hg)
        simpa [editedPartner, (hed.identity hp).2] using this
  have hteam2 : (editedPartner p2 input).teamOverrideMaxBps = p2.teamOverrideMaxBps ∨
      ∃ m, (editedPartner p2 input).teamOverrideMaxBps = some m ∧ CeilingInOrder db p m := by
    cases hg : input.teamOverrideMaxBps with
    | none => exact .inl (by simp [editedPartner, hg])
    | some m => exact .inr ⟨m, by simp [editedPartner, hg], hteam m hg⟩
  obtain ⟨db', hwrite⟩ := hed.accepts h hp (editedPartner_edit hle2) hnew hteam2 (.inl rfl)
  refine ⟨db', ?_⟩
  have hlegacy : (decide (input.programEnabled = some true) &&
      p.commerceUserId.isNone) = false := by
    by_cases hg : input.programEnabled = some true
    · simpa [hg] using haccount hg
    · simp [hg]
  simp only [editPartner, ok_steps, currentPartner]
  exact ⟨hlegacy, db₁, hlower, db₂, hcascade, p2, hed.row, hwrite⟩

end

/-! ## Edits by the parent -/

theorem editedMember_edit (hle : ∀ m, input.teamOverrideMaxBps = some m → p.ceiling ≤ m) :
    TeamEdit p (editedMember p input) := by
  refine ⟨rfl, rfl, ?_, ?_⟩
  · cases hm : input.teamOverrideMaxBps with
    | none => simp [editedMember, Partner.ceiling, hm]
    | some m => simpa [editedMember, Partner.ceiling, hm] using hle m hm
  · cases hm : input.teamOverrideMaxBps with
    | none | some m => simp [editedMember, hm]

structure MemberGrantChecked (source member : Partner) (input : MemberInput)
    (grant : B2BAuthority) : Prop where
  inherits : member.b2bEnabled = true → member.b2bGrantSourcePartnerId.isSome = true
  revoked : grant.enabled = false →
    input.b2bMaxDiscountBps.getD 0 = 0 ∧ input.b2bCanDelegate ≠ some true
  enabled : grant.enabled = true → source.b2bEnabled = true ∧ source.b2bCanDelegate = true
  maximum : grant.maximumBps ≤ source.b2bMaxDiscountBps

theorem checkMemberGrant_ok {grant : B2BAuthority} :
    checkMemberGrant source member input grant = .ok () ↔
      MemberGrantChecked source member input grant := by
  simp only [checkMemberGrant, ok_steps]
  constructor
  · rintro ⟨h1, h2, h3, h4⟩
    refine ⟨fun he => ?_, fun he => ?_, fun he => ?_, ?_⟩
    · simpa [he, isSome_iff_ne_none] using h1
    · simpa [he] using h2
    · simpa [he] using h3
    · simpa using h4
  · rintro ⟨h1, h2, h3, h4⟩
    refine ⟨?_, ?_, ?_, by simpa using h4⟩
    · cases he : member.b2bEnabled with
      | false => rfl
      | true => simpa [isSome_iff_ne_none] using h1 he
    · cases he : grant.enabled with
      | true => rfl
      | false => simpa using h2 he
    · cases he : grant.enabled with
      | false => rfl
      | true => simpa using h3 he

theorem memberCascade (h : Sound db) (hp : db.partners.find? id = some p)
    (hsource : db.partners.find? input.parentPartnerId = some source)
    (hdirect : p.parentPartnerId = some input.parentPartnerId)
    (hchecked : MemberGrantChecked source member input (memberGrant member input)) :
    ∃ db₁ rt, applyPartnerB2BAuthorityCascade db id
        ⟨some (memberGrant member input).enabled, some (memberGrant member input).maximumBps,
          some (memberGrant member input).canDelegate,
          (memberGrant member input).sourcePartnerId⟩ = .ok db₁ ∧
      Edited db id db₁ (p.withB2B rt) ∧
      rt.enabled = (memberGrant member input).enabled ∧
      rt.maximumBps = (memberGrant member input).maximumBps ∧
      rt.canDelegate = (memberGrant member input).canDelegate := by
  have hmax := (h.partnerChecks hsource)
  have htarget : ∃ rt, rootTarget p ⟨some (memberGrant member input).enabled,
      some (memberGrant member input).maximumBps,
      some (memberGrant member input).canDelegate,
      (memberGrant member input).sourcePartnerId⟩ = .ok rt := by
    refine rootTarget_ok ?_ ?_
    · intro he
      have hen := (hchecked.enabled he).1
      exact hchecked.maximum.trans (hmax.enabled hen)
    · intro he
      have he : input.b2bEnabled.getD member.b2bEnabled = false := he
      simp [memberGrant, he]
  obtain ⟨rt, hrt⟩ := htarget
  obtain ⟨hen, hm, hdel⟩ := rootTarget_met hrt
  obtain ⟨db₁, hok, hed⟩ := cascade_edited h hp hrt (fun s hs hrten => by
    have hgrant : (memberGrant member input).enabled = true := (hen _ rfl).symm.trans hrten
    have hgrant' : input.b2bEnabled.getD member.b2bEnabled = true := hgrant
    have hs : some input.parentPartnerId = some s := by
      simpa [memberGrant, hgrant'] using hs
    obtain ⟨hse, hsd⟩ := hchecked.enabled hgrant
    refine ⟨hdirect.trans hs, source, some.inj hs ▸ hsource, ?_⟩
    rw [hm _ rfl]
    exact Partner.delegates_iff.mpr ⟨hse, hsd, hchecked.maximum⟩)
  exact ⟨db₁, rt, hok, hed, hen _ rfl, hm _ rfl, hdel _ rfl⟩

theorem changeMemberGrant_met (h : Sound db)
    (hp : db.partners.find? input.memberId = some p)
    (hsource : db.partners.find? input.parentPartnerId = some source)
    (hdirect : p.parentPartnerId = some input.parentPartnerId)
    (hok : changeMemberGrant db source member input = .ok db') :
    ∃ p', Edited db input.memberId db' p' ∧ p'.ceiling = p.ceiling ∧
      (∀ b, input.b2bEnabled = some b → p'.b2bEnabled = b) ∧
      (∀ m, input.b2bMaxDiscountBps = some m → p'.b2bMaxDiscountBps = m) ∧
      ∀ b, input.b2bCanDelegate = some b → p'.b2bCanDelegate = b := by
  unfold changeMemberGrant at hok
  split at hok
  · simp only [ok_steps, checkMemberGrant_ok] at hok
    obtain ⟨hchecked, hok⟩ := hok
    obtain ⟨db₁, rt, hok', hed, hen, hmax, hdel⟩ := memberCascade h hp hsource hdirect hchecked
    obtain rfl := Except.ok.inj (hok.symm.trans hok')
    refine ⟨_, hed, rfl, fun b hb => ?_, fun m hm => ?_, fun b hb => ?_⟩
    · refine hen.trans ?_
      simp [memberGrant, hb]
    · refine hmax.trans ?_
      cases he : input.b2bEnabled.getD member.b2bEnabled with
      | true => simp [memberGrant, he, hm]
      | false =>
        have hzero := (hchecked.revoked he).1
        simpa [memberGrant, he, hm] using hzero.symm
    · refine hdel.trans ?_
      cases he : input.b2bEnabled.getD member.b2bEnabled with
      | true => simp [memberGrant, he, hb]
      | false =>
        have hnot := (hchecked.revoked he).2
        cases b with
        | true => exact absurd hb hnot
        | false => simp [memberGrant, he]
  · rename_i hnone
    simp only [MemberInput.changesB2B, guard_iffs, not_or, Bool.not_eq_true,
      isSome_eq_false_iff, isNone_iff_eq_none] at hnone
    obtain rfl := Except.ok.inj hok
    refine ⟨p, .refl h hp, rfl, ?_⟩
    simp [hnone.1.1, hnone.1.2, hnone.2]

theorem updateDirectTeamMemberAuthority_edited (h : Sound db)
    (hok : updateDirectTeamMemberAuthority db now input = .ok db') :
    ∃ p', Edited db input.memberId db' p' ∧ input.request.MetBy p' := by
  simp only [updateDirectTeamMemberAuthority, ok_steps, currentPartner, guard_iffs] at hok
  obtain ⟨source, hsource, -, member, hmember, ⟨hdirect, -⟩, db₁, hlower, db₂, hgrant,
    p3, hp3, hwrite⟩ := hok
  obtain ⟨db1', p1, hlower', hed1, hle, -⟩ :=
    lowerIfGiven_edited h hmember input.teamOverrideMaxBps
  obtain rfl := Except.ok.inj (hlower.symm.trans hlower')
  have hsource1 : db₁.partners.find? input.parentPartnerId = some source :=
    (hed1.parent h hmember hdirect).trans hsource
  have hdirect1 := (hed1.identity hmember).1.trans hdirect
  obtain ⟨p2, hed2, hceiling, hmet⟩ :=
    changeMemberGrant_met hed1.sound hed1.row hsource1 hdirect1 hgrant
  have hed3 := revokeIf_edited hed2.sound hed2.row now (input.teamInvitesEnabled = some false)
  obtain rfl := some.inj (hp3.symm.trans hed3.row)
  have hle3 : ∀ m, input.teamOverrideMaxBps = some m → p3.ceiling ≤ m :=
    fun m hm => hceiling ▸ hle m hm
  have hed4 := writeTeam_edited hp3 (editedMember_edit hle3) hed3.sound hwrite
  refine ⟨_, ((hed1.trans hed2).trans hed3).trans hed4, ?_, hmet.1, hmet.2.1, hmet.2.2⟩
  intro m hm
  have hm : input.teamOverrideMaxBps = some m := hm
  simp [editedMember, Partner.ceiling, hm]

theorem MemberGrantInOrder.checked (hgrant : MemberGrantInOrder source member input)
    (h : Sound db) (hmember : db.partners.find? id = some member)
    (hsource : db.partners.find? input.parentPartnerId = some source)
    (hdirect : member.parentPartnerId = some input.parentPartnerId) :
    MemberGrantChecked source member input (memberGrant member input) := by
  have hdelegates : (memberGrant member input).enabled = true →
      source.delegates (memberGrant member input).maximumBps = true := by
    intro he
    rcases hgrant.enabled he with ⟨hen, hle⟩ | hd
    · obtain ⟨s, hs⟩ := isSome_iff_exists.mp (hgrant.inherits hen)
      obtain ⟨hparent, source', hfind, hd⟩ := h.granted id member hmember s hs
      obtain rfl : input.parentPartnerId = s := some.inj (hdirect.symm.trans hparent)
      obtain rfl : source = source' := some.inj (hsource.symm.trans hfind)
      exact Partner.delegates_mono hd hle
    · exact hd
  refine ⟨hgrant.inherits, hgrant.revoked, fun he => ?_, ?_⟩
  · have hd := Partner.delegates_iff.mp (hdelegates he)
    exact ⟨hd.1, hd.2.1⟩
  · cases he : (memberGrant member input).enabled with
    | true => exact (Partner.delegates_iff.mp (hdelegates he)).2.2
    | false =>
      have he : input.b2bEnabled.getD member.b2bEnabled = false := he
      simp [memberGrant, he]

theorem updateDirectTeamMemberAuthority_accepts (h : Sound db)
    (hsource : db.partners.find? input.parentPartnerId = some source)
    (hmember : db.partners.find? input.memberId = some member)
    (hdirect : member.parentPartnerId = some input.parentPartnerId)
    (hactive : source.status = .active) (hprogram : input.requireProgramEnabled = true →
      source.programEnabled = true ∧ member.programEnabled = true)
    (hedge : ∀ e, input.overrideBps = some e → e ≤ source.ceiling)
    (hinvites : input.teamInvitesEnabled = some true → source.teamInvitesEnabled = true)
    (hteam : ∀ m, input.teamOverrideMaxBps = some m → CeilingInOrder db member m)
    (hgrant : input.changesB2B = true → MemberGrantInOrder source member input) :
    ∃ db', updateDirectTeamMemberAuthority db now input = .ok db' := by
  have hbound : ∀ m, input.teamOverrideMaxBps = some m → m ≤ source.ceiling :=
    fun m hm => ((hteam m hm).bounds h hmember).2 _ _ hdirect hsource
  have hcheck : checkSource source input = .ok () := by
    simp only [checkSource, ok_steps, exceeds_eq_false.mpr hedge, exceeds_eq_false.mpr hbound,
      hactive]
    refine ⟨?_, rfl, ?_⟩
    · cases hr : input.requireProgramEnabled with
      | false => rfl
      | true => simp [(hprogram hr).1]
    · by_cases hi : input.teamInvitesEnabled = some true
      · simp [hinvites hi]
      · simp [hi]
  have hplace : (member.parentPartnerId != some input.parentPartnerId ||
      (input.requireProgramEnabled && !member.programEnabled)) = false := by
    cases hr : input.requireProgramEnabled with
    | false => simp [hdirect]
    | true => simp [hdirect, (hprogram hr).2]
  obtain ⟨db₁, p1, hlower, hed1, hle, -⟩ :=
    lowerIfGiven_edited h hmember input.teamOverrideMaxBps
  have hsource1 : db₁.partners.find? input.parentPartnerId = some source :=
    (hed1.parent h hmember hdirect).trans hsource
  have hdirect1 := (hed1.identity hmember).1.trans hdirect
  have hcascade : ∃ db₂, changeMemberGrant db₁ source member input = .ok db₂ := by
    unfold changeMemberGrant
    split
    · rename_i hchange
      have hchecked := (hgrant hchange).checked h hmember hsource hdirect
      obtain ⟨db₂, rt, hok, -⟩ := memberCascade hed1.sound hed1.row hsource1 hdirect1 hchecked
      refine ⟨db₂, ?_⟩
      simp only [ok_steps, checkMemberGrant_ok]
      exact ⟨hchecked, hok⟩
    · exact ⟨db₁, rfl⟩
  obtain ⟨db₂, hcascade⟩ := hcascade
  obtain ⟨p2, hed2, hceiling, -⟩ :=
    changeMemberGrant_met hed1.sound hed1.row hsource1 hdirect1 hcascade
  have hed3 := revokeIf_edited hed2.sound hed2.row now (input.teamInvitesEnabled = some false)
  have hed := (hed1.trans hed2).trans hed3
  have hle2 : ∀ m, input.teamOverrideMaxBps = some m → p2.ceiling ≤ m :=
    fun m hm => hceiling ▸ hle m hm
  have hchecks := hed.sound.partnerChecks hed.row
  have hedge2 : ∀ e, (editedMember p2 input).parentOverrideBps = some e →
      p2.parentOverrideBps = some e ∨ e ≤ source.ceiling := by
    intro e he
    cases hg : input.overrideBps with
    | none => exact .inl (by simpa [editedMember, hg] using he)
    | some e' =>
      simp only [editedMember, hg, isSome_some, if_true, some.injEq] at he
      exact .inr (he ▸ hedge e' hg)
  have hnew : PartnerChecks (editedMember p2 input) := by
    refine ⟨?_, ?_, hchecks.enabled, hchecks.disabled, hchecks.sub, hchecks.source,
      hchecks.program⟩
    · intro m hm
      cases hg : input.teamOverrideMaxBps with
      | none =>
        simp only [editedMember, hg, isSome_none, if_bool] at hm
        exact hchecks.team m hm
      | some m' =>
        simp only [editedMember, hg, isSome_some, if_true, some.injEq] at hm
        exact hm ▸ ((hteam m' hg).bounds h hmember).1
    · intro e he
      rcases hedge2 e he with he | he
      · exact hchecks.edge e he
      · exact he.trans (h.partnerChecks hsource).ceiling
  have hteam2 : (editedMember p2 input).teamOverrideMaxBps = p2.teamOverrideMaxBps ∨
      ∃ m, (editedMember p2 input).teamOverrideMaxBps = some m ∧ CeilingInOrder db member m := by
    cases hg : input.teamOverrideMaxBps with
    | none => exact .inl (by simp [editedMember, hg])
    | some m => exact .inr ⟨m, by simp [editedMember, hg], hteam m hg⟩
  have hedge3 : (editedMember p2 input).parentOverrideBps = p2.parentOverrideBps ∨
      (member.parentPartnerId ≠ none ∧ ∀ parentId parent,
        member.parentPartnerId = some parentId →
        db.partners.find? parentId = some parent →
        ∀ e, (editedMember p2 input).parentOverrideBps = some e → e ≤ parent.ceiling) := by
    cases hg : input.overrideBps with
    | none => exact .inl (by simp [editedMember, hg])
    | some e' =>
      refine .inr ⟨by simp [hdirect], fun parentId parent hq hf e he => ?_⟩
      obtain rfl := some.inj (hdirect.symm.trans hq)
      obtain rfl := some.inj (hsource.symm.trans hf)
      simp only [editedMember, hg, isSome_some, if_true, some.injEq] at he
      exact he ▸ hedge e' hg
  obtain ⟨db', hwrite⟩ := hed.accepts h hmember (editedMember_edit hle2) hnew hteam2 hedge3
  refine ⟨db', ?_⟩
  simp only [updateDirectTeamMemberAuthority, ok_steps, currentPartner]
  exact ⟨source, hsource, hcheck, member, hmember, hplace, db₁, hlower, db₂, hcascade,
    p2, hed.row, hwrite⟩

/-! ## Invitations -/

theorem createCommerceTeamInvite_sound (h : Sound db) {input : TeamInviteInput}
    (hok : createCommerceTeamInvite db now newId input = .ok db') : Sound db' := by
  simp only [createCommerceTeamInvite, ok_steps, isSome_eq_false_iff, isNone_iff_eq_none] at hok
  obtain ⟨-, -, -, -, -, inviter, -, -, hnone, hok⟩ := hok
  have hsound : Sound (revokeInvites db now (fun i =>
      i.commerceUserId = some input.inviteeCommerceUserId && i.expiresAt.any (· ≤ now))) := by
    refine revokeInvites_sound h now ?_
    intro i hs
    simp only [guard_iffs] at hs
    simp [hs.1]
  unfold insertOrKeep at hok
  split at hok
  · split at hok
    · obtain rfl := Except.ok.inj hok
      exact hsound
    · cases hok
  · refine insertInvite_sound hsound rfl ?_ hok
    intro k q hq _
    exact partnerOfAccount_none hnone hq

theorem createPartnerInvite_sound (h : Sound db) {input : InviteInput}
    (hok : createPartnerInvite db newId input = .ok db') : Sound db' := by
  refine insertInvite_sound h rfl ?_ hok
  intro k q _ hsome heq
  have heq : q.commerceUserId = none := heq
  rw [heq] at hsome
  cases hsome

theorem openInviteOf_some (h : openInviteOf db user = some (id, i)) :
    db.invites.find? id = some i ∧ i.commerceUserId = some user ∧ i.isOpen = true := by
  refine ⟨find?_eq_some_iff.mpr (mem_of_find?_eq_some h), ?_⟩
  simpa using find?_some h

theorem closeInvite_sound (h : Sound db) {i' : Invite} (hi : db.invites.find? id = some i)
    (hp : i'.partnerId = i.partnerId) (hc : i'.commerceUserId = i.commerceUserId)
    (hclosed : i'.isOpen = false) (hcheck : i'.check = true) :
    Sound { db with invites := db.invites.put id i' } := by
  have hkeeps : Keeps db { db with invites := db.invites.put id i' } := by
    refine ⟨fun _ => rfl, fun k j hj => ?_⟩
    rcases find?_put_cases hj with ⟨rfl, rfl⟩ | hj
    · exact ⟨i, hi, hp, hc, fun ho => absurd ho (by simp [hclosed])⟩
    · exact ⟨j, hj, rfl, rfl, fun ho => ho⟩
  refine hkeeps.sound_invites h rfl ?_ ?_
  · intro k j hj
    rcases find?_put_cases hj with ⟨-, rfl⟩ | hj
    · exact hcheck
    · exact h.inviteChecks k j hj
  · intro k j hj ho
    rcases find?_put_cases hj with ⟨-, rfl⟩ | hj
    · rw [hclosed] at ho
      cases ho
    · exact h.invites k j hj ho

theorem invite_check_closed (hc : i.commerceUserId = some user) (h : i.check = true)
    (consumedAt revokedAt : Option Int) :
    Invite.check { i with consumedAt := consumedAt, revokedAt := revokedAt } = true := by
  simp only [Invite.check, guard_iffs] at h ⊢
  exact ⟨h.1, by simp [hc]⟩

theorem insertPartner_comm (invites : Table String Invite)
    (hok : insertPartner db id new = .ok db') :
    insertPartner { db with invites := invites } id new =
      .ok { db' with invites := invites } := by
  have hb2b : enforcePartnerB2BAuthorityBounds { db with invites := invites } new =
      enforcePartnerB2BAuthorityBounds db new := rfl
  have hteam : enforcePartnerTeamOverrideBounds { db with invites := invites } new =
      enforcePartnerTeamOverrideBounds db new := rfl
  simp only [insertPartner, ok_steps] at hok ⊢
  obtain ⟨h1, h2, h3, h4, rfl⟩ := hok
  exact ⟨hb2b ▸ h1, hteam ▸ h2, h3, h4, rfl⟩

theorem activateInvite_sound (h : Sound db) {x : String × Invite}
    (hx : openInviteOf db user = some x)
    (hok : activateInvite db now newId user x = .ok db') : Sound db' := by
  obtain ⟨k, i⟩ := x
  obtain ⟨hi, hc, ho⟩ := openInviteOf_some hx
  have hcheck := h.inviteChecks k i hi
  unfold activateInvite at hok
  split at hok
  · simp only [ok_steps] at hok
    obtain ⟨db₁, hinsert, rfl⟩ := hok
    -- the invitation is consumed in the same transaction, so it may go first
    have hclosed : Sound { db with
        invites := db.invites.put k { i with consumedAt := some now } } :=
      closeInvite_sound h hi rfl rfl rfl (invite_check_closed hc hcheck _ _)
    have hinvites : db₁.invites = db.invites := by
      simp only [insertPartner, ok_steps] at hinsert
      obtain ⟨-, -, -, -, rfl⟩ := hinsert
      rfl
    rw [hinvites]
    have hinsert' := insertPartner_comm
      (db.invites.put k { i with consumedAt := some now }) hinsert
    refine insertPartner_sound hclosed rfl ?_ ?_ hinsert'
    · intro he
      have he : i.b2bEnabled = false := he
      simp [invitedPartner, he]
    · intro k' j hj hoj heq
      have heq : some user = j.commerceUserId := heq
      by_cases hk : k = k'
      · subst hk
        rw [find?_put_self, some.injEq] at hj
        subst hj
        simp [Invite.isOpen] at hoj
      · rw [find?_put_ne _ _ hk] at hj
        exact hk (h.openInvites k k' i j hi hj ho hoj (by simp [hc]) (hc.trans heq))
  · obtain rfl := Except.ok.inj hok
    refine closeInvite_sound h hi rfl rfl ?_ (invite_check_closed hc hcheck _ _)
    simp [Invite.isOpen]

theorem resolveCommercePartnerMembership_sound (h : Sound db) {activate : Bool}
    (hok : resolveCommercePartnerMembership db now newId user activate = .ok db') :
    Sound db' := by
  unfold resolveCommercePartnerMembership at hok
  split at hok
  · rename_i x _ hx
    split at hok
    · exact activateInvite_sound h (filter_eq_some_iff.mp hx).1 hok
    · obtain rfl := Except.ok.inj hok
      exact h
  · obtain rfl := Except.ok.inj hok
    exact h

/-! ## Every call, every run -/

theorem Call.apply_sound (h : Sound db) (hok : call.apply db = .ok db') : Sound db' := by
  cases call with
  | onboardCommercePartner => exact onboardCommercePartner_sound h hok
  | createCommerceTeamInvite => exact createCommerceTeamInvite_sound h hok
  | resolveCommercePartnerMembership => exact resolveCommercePartnerMembership_sound h hok
  | updateDirectTeamMemberAuthority =>
    obtain ⟨p', hed, -⟩ := updateDirectTeamMemberAuthority_edited h hok
    exact hed.sound
  | updatePartnerAdmin now id input =>
    simp only [Call.apply, Team.updatePartnerAdmin] at hok
    split at hok
    · obtain rfl := Except.ok.inj hok
      exact h
    · rename_i p hp
      obtain ⟨p', hed, -⟩ := editPartner_edited h hp hok
      exact hed.sound
  | createPartnerInvite => exact createPartnerInvite_sound h hok

theorem Sales.exec_sound (h : Sound db) (call : Call) : Sound (db.exec call) := by
  unfold Sales.exec
  split
  · rename_i db' hok
    exact Call.apply_sound h hok
  · exact h

theorem Permitted.accepted (hcall : Permitted db id call) (h : Sound db) :
    ∃ db' p', call.apply db = .ok db' ∧ Edited db id db' p' ∧ call.request.MetBy p' := by
  cases hcall with
  | onboard row fallback ceiling grant =>
    obtain ⟨db', hok⟩ := onboardCommercePartner_accepts h row fallback ceiling grant
    obtain ⟨p', hed, hmet⟩ := onboardCommercePartner_edited h row hok
    exact ⟨db', p', hok, hed, hmet⟩
  | member target parent row direct active program edge invites ceiling grant =>
    subst target
    obtain ⟨db', hok⟩ := updateDirectTeamMemberAuthority_accepts h parent row direct
      active program edge invites ceiling grant
    obtain ⟨p', hed, hmet⟩ := updateDirectTeamMemberAuthority_edited h hok
    exact ⟨db', p', hok, hed, hmet⟩
  | admin row account fallback ceiling grant =>
    obtain ⟨db', hok⟩ := editPartner_accepts h row account fallback ceiling grant
    obtain ⟨p', hed, hmet⟩ := editPartner_edited h row hok
    refine ⟨db', p', ?_, hed, hmet⟩
    simp only [Call.apply, Team.updatePartnerAdmin, row]
    exact hok

/-- Nobody has more than what is above allows. -/
structure NeverWidens (db : Sales) : Prop where
  ceiling : ∀ k c parent child, db.partners.find? k = some parent →
    db.partners.find? c = some child → child.parentPartnerId = some k →
    child.ceiling ≤ parent.ceiling
  edge : ∀ k c parent child e, db.partners.find? k = some parent →
    db.partners.find? c = some child → child.parentPartnerId = some k →
    child.parentOverrideBps = some e → e ≤ parent.ceiling
  inviteEdge : ∀ k c parent invite e, db.partners.find? k = some parent →
    db.invites.find? c = some invite → invite.partnerId = some k →
    invite.isOpen = true → invite.parentOverrideBps = some e ∨
      invite.teamOverrideMaxBps = some e → e ≤ parent.ceiling
  grant : ∀ k c source heir, db.partners.find? k = some source →
    db.partners.find? c = some heir → heir.b2bGrantSourcePartnerId = some k →
    source.b2bEnabled = true ∧ source.b2bCanDelegate = true ∧
      heir.b2bMaxDiscountBps ≤ source.b2bMaxDiscountBps
  inviteGrant : ∀ k c source invite, db.partners.find? k = some source →
    db.invites.find? c = some invite → invite.partnerId = some k →
    invite.isOpen = true → invite.b2bEnabled = true →
    source.b2bEnabled = true ∧ source.b2bCanDelegate = true ∧
      invite.b2bMaxDiscountBps ≤ source.b2bMaxDiscountBps

theorem Sound.neverWidens (h : Sound db) : NeverWidens db := by
  refine ⟨?_, ?_, ?_, ?_, ?_⟩
  · intro k c parent child hk hc hchild
    obtain ⟨parent', hk', hle, -⟩ := (h.bounded c child hc).parent k hchild
    obtain rfl : parent = parent' := some.inj (hk.symm.trans hk')
    exact hle
  · intro k c parent child e hk hc hchild he
    obtain ⟨parent', hk', -, hedge⟩ := (h.bounded c child hc).parent k hchild
    obtain rfl : parent = parent' := some.inj (hk.symm.trans hk')
    exact hedge e he
  · intro k c parent invite e hk hc hp ho he
    obtain ⟨parent', hk', hteam, hedge, -⟩ := (h.invites c invite hc ho).inviter k hp
    obtain rfl : parent = parent' := some.inj (hk.symm.trans hk')
    rcases he with he | he
    · exact hedge e he
    · exact hteam e he
  · intro k c source heir hk hc hs
    obtain ⟨-, source', hk', hd⟩ := h.granted c heir hc k hs
    obtain rfl : source = source' := some.inj (hk.symm.trans hk')
    exact Partner.delegates_iff.mp hd
  · intro k c source invite hk hc hp ho he
    obtain ⟨source', hk', -, -, hb2b⟩ := (h.invites c invite hc ho).inviter k hp
    obtain rfl : source = source' := some.inj (hk.symm.trans hk')
    exact Partner.delegates_iff.mp (hb2b he)

/-- After every sequence of calls, nobody has more than the partner above; and
from there, every permitted edit of a partner, lowering a ceiling or a grant
included, succeeds, has the effect asked for, keeps authority from widening
anywhere and leaves everything outside the partner's subtree as it was. -/
theorem authority_never_widens (h : Sound db) (calls : List Call) :
    NeverWidens (run Sales.exec db calls) ∧
      ∀ id call, Permitted (run Sales.exec db calls) id call →
        ∃ db' p', call.apply (run Sales.exec db calls) = .ok db' ∧
          db'.partners.find? id = some p' ∧ call.request.MetBy p' ∧
          NeverWidens db' ∧ Within (run Sales.exec db calls) id db' := by
  -- the invariant of all runs is the stronger `Sound`
  have hsound : Sound (run Sales.exec db calls) :=
    run_invariant (I := Sound) (fun _ call hs => Sales.exec_sound hs call) h calls
  refine ⟨hsound.neverWidens, fun id call hcall => ?_⟩
  obtain ⟨db', p', hok, hed, hmet⟩ := hcall.accepted hsound
  exact ⟨db', p', hok, hed.row, hmet, hed.sound.neverWidens, hed.within⟩

def legacyPartner (parentPartnerId b2bGrantSourcePartnerId : Option String) : Partner :=
  ⟨none, false, .active, parentPartnerId, 1000, none, none, true, true, 5000, true,
    b2bGrantSourcePartnerId⟩

/-- A partner with a platform grant, and a child that inherits it. -/
def legacyTeam : Sales where
  partners := (Table.empty.put "a" (legacyPartner none none)).put "b"
    (legacyPartner (some "a") (some "a"))
  invites := Table.empty

theorem legacyTeam_cases (h : legacyTeam.partners.find? k = some q) :
    (k = "b" ∧ q = legacyPartner (some "a") (some "a")) ∨
      (k = "a" ∧ q = legacyPartner none none) := by
  rcases find?_put_cases h with h | h
  · exact .inl h
  · rcases find?_put_cases h with h | h
    · exact .inr h
    · cases h

theorem legacyTeam_sound : Sound legacyTeam := by
  have hnone : ∀ k i, legacyTeam.invites.find? k ≠ some i := fun _ _ h => by cases h
  refine ⟨⟨fun k => if k = "a" then 0 else 1, ?_⟩, ?_,
    fun k i hi => absurd hi (hnone k i), ?_, ?_, fun k i hi => absurd hi (hnone k i), ?_,
    fun k _ i _ hi => absurd hi (hnone k i), fun _ k _ i _ hi => absurd hi (hnone k i)⟩
  · rintro k c ⟨q, hq, hlink⟩
    rcases legacyTeam_cases hq with ⟨rfl, rfl⟩ | ⟨rfl, rfl⟩
    · obtain rfl : "a" = k := some.inj hlink
      decide
    · cases hlink
  · intro k q hq
    rcases legacyTeam_cases hq with ⟨-, rfl⟩ | ⟨-, rfl⟩ <;> decide
  · intro k q hq
    rcases legacyTeam_cases hq with ⟨-, rfl⟩ | ⟨-, rfl⟩
    · refine ⟨nofun, fun parentId hp => ⟨legacyPartner none none, ?_, ?_⟩⟩
      · obtain rfl := some.inj hp
        decide
      · exact ⟨le_refl _, nofun⟩
    · exact ⟨fun _ => rfl, nofun⟩
  · intro k q hq s hs
    rcases legacyTeam_cases hq with ⟨-, rfl⟩ | ⟨-, rfl⟩
    · obtain rfl : "a" = s := some.inj hs
      exact ⟨rfl, legacyPartner none none, by decide, by decide⟩
    · cases hs
  · intro k k' q q' hq _ hsome
    rcases legacyTeam_cases hq with ⟨-, rfl⟩ | ⟨-, rfl⟩ <;> cases hsome

/-- The child invites, and then the platform lowers ceiling and grant of the
parent: the child, its open invitation and its grant follow. -/
theorem authority_never_widens_legacyTeam :
    let s := run Sales.exec legacyTeam [.createPartnerInvite "i"
      ⟨some "b", none, some 1500, some 900, true, some 4000, none, some false, 100⟩]
    NeverWidens s ∧ ∃ db' p', Call.apply s (.updatePartnerAdmin 5 "a"
        ⟨none, some 500, none, some 1000, none, none, none, none⟩) = .ok db' ∧
      db'.partners.find? "a" = some p' ∧ p'.ceiling = 500 ∧
      p'.b2bMaxDiscountBps = 1000 ∧ NeverWidens db' := by
  obtain ⟨hs, hedit⟩ := authority_never_widens legacyTeam_sound [.createPartnerInvite "i"
    ⟨some "b", none, some 1500, some 900, true, some 4000, none, some false, 100⟩]
  have hpermitted : Permitted (run Sales.exec legacyTeam [.createPartnerInvite "i"
      ⟨some "b", none, some 1500, some 900, true, some 4000, none, some false, 100⟩])
      "a" (.updatePartnerAdmin 5 "a"
        ⟨none, some 500, none, some 1000, none, none, none, none⟩) := by
    refine .admin (p := legacyPartner none none) (by decide +kernel) nofun nofun ?_ ?_
    · intro m hm
      obtain rfl := some.inj hm
      exact .inl (by decide)
    · exact ⟨fun _ => by decide, nofun⟩
  obtain ⟨db', p', hok, hrow, hmet, hafter, -⟩ := hedit "a" _ hpermitted
  exact ⟨hs, db', p', hok, hrow, hmet.ceiling 500 rfl, hmet.maximum 1000 rfl, hafter⟩

/-! ## The tree -/

/-- One account is at one place of a tree without cycles. -/
structure OnePlace (db : Sales) : Prop where
  tree : ∀ k c, IsChild parentLink db.partners k c → ¬ Under parentLink db.partners c k
  /-- The ceiling of a partner bounds its whole subtree. -/
  ceiling : ∀ root k p q, Under parentLink db.partners root k →
    db.partners.find? root = some p → db.partners.find? k = some q → q.ceiling ≤ p.ceiling
  partner : ∀ id id' p p', db.partners.find? id = some p → db.partners.find? id' = some p' →
    p.commerceUserId.isSome = true → p.commerceUserId = p'.commerceUserId → id = id'
  invite : ∀ id id' i i', db.invites.find? id = some i → db.invites.find? id' = some i' →
    i.isOpen = true → i'.isOpen = true → i.commerceUserId.isSome = true →
    i.commerceUserId = i'.commerceUserId → id = id'
  apart : ∀ id id' p i, db.partners.find? id = some p → db.invites.find? id' = some i →
    i.isOpen = true → p.commerceUserId.isSome = true → p.commerceUserId ≠ i.commerceUserId

theorem Sound.le_ceiling {root : String} (h : Sound db) (hunder : Under parentLink db.partners root k)
    (hp : db.partners.find? root = some p) (hq : db.partners.find? k = some q) :
    q.ceiling ≤ p.ceiling := by
  induction hunder generalizing q with
  | refl =>
    cases hp.symm.trans hq
    exact le_refl _
  | tail _ hchild ih =>
    obtain ⟨q', hq', hlink⟩ := hchild
    cases hq.symm.trans hq'
    obtain ⟨parent, hparent, hle, -⟩ := (h.bounded _ q hq).parent _ hlink
    exact hle.trans (ih hparent)

/-- Whatever calls are made from the empty database, the tree has no cycle, its
ceilings go down, and an account is at one place of it. -/
theorem one_place (calls : List Call) : OnePlace (run Sales.exec ⟨.empty, .empty⟩ calls) := by
  have hnone {ρ : Type} {id : String} {r : ρ} {P : Prop}
      (h : (Table.empty : Table String ρ).find? id = some r) : P := by simp at h
  have hempty : Sound ⟨.empty, .empty⟩ :=
    ⟨⟨fun _ => 0, fun _ _ h => hnone h.choose_spec.1⟩, fun _ _ => hnone, fun _ _ => hnone,
      fun _ _ => hnone, fun _ _ => hnone, fun _ _ => hnone, fun _ _ _ _ => hnone,
      fun _ _ _ _ => hnone, fun _ _ _ _ => hnone⟩
  have h := run_invariant (I := Sound) (fun _ call hs => Sales.exec_sound hs call) hempty calls
  exact ⟨fun _ _ => not_under_child h.acyclic, fun _ _ _ _ => h.le_ceiling, h.accounts,
    h.openInvites, h.apart⟩

end ApiToken.Team
