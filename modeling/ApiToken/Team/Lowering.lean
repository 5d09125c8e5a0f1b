import ApiToken.Team.Invariant

/-!
# Lowering a ceiling

The loop of `lowerTeamOverrideCeiling` has a closed form. After the rows `S`
have been processed, every row of `S` has its cap as ceiling, every edge and
every open invitation below a row of `S` is cut to that row's cap, and
nothing else has changed (`Lowered`). The children of a row are processed
before it, so each write finds its dependants already cut, and no trigger
refuses it (`lowerStep_lowered`).
-/

namespace ApiToken.Team

open Descent

variable {p : Partner} {sub cap e : Nat} {tree : Table String Partner}
  {parentId root : String} {i : Invite} {l₁ l₂ : List String}

variable {db db₁ : Sales} {m : Nat} {S : List String}

/-! ## The closed form -/

def processed (tree : Table String Partner) (S : List String) (id : String) :
    Option Partner :=
  if id ∈ S then tree.find? id else none

def loweredPartner (tree : Table String Partner) (m : Nat) (S : List String)
    (id : String) (p : Partner) : Partner :=
  { p with
    teamOverrideMaxBps :=
      if id ∈ S ∧ p.ceiling ≠ p.cap m then some (p.cap m) else p.teamOverrideMaxBps
    parentOverrideBps :=
      match p.parentPartnerId.bind (processed tree S) with
      | some parent => cappedEdge parent.subCommissionBps (parent.cap m) p.parentOverrideBps
      | none => p.parentOverrideBps }

def loweredInvite (tree : Table String Partner) (m : Nat) (S : List String)
    (i : Invite) : Invite :=
  match (if i.isOpen then i.partnerId.bind (processed tree S) else none) with
  | some inviter => capInvite inviter.subCommissionBps (inviter.cap m) i
  | none => i

/-- `db₁` is `db` with the rows of `S` processed. -/
structure Lowered (db : Sales) (m : Nat) (S : List String) (db₁ : Sales) : Prop where
  partners : ∀ id, db₁.partners.find? id =
    (db.partners.find? id).map (loweredPartner db.partners m S id)
  invites : ∀ id, db₁.invites.find? id =
    (db.invites.find? id).map (loweredInvite db.partners m S)

theorem processed_nil (tree : Table String Partner) (id : String) :
    processed tree [] id = none := by
  simp [processed]

theorem Lowered.refl (db : Sales) (m : Nat) : Lowered db m [] db := by
  have hnone : ∀ o : Option String, o.bind (processed db.partners []) = none := by
    intro o
    cases o <;> simp [processed_nil]
  constructor
  · intro id
    cases hp : db.partners.find? id with
    | none => rfl
    | some => simp [loweredPartner, hnone]
  · intro id
    cases hi : db.invites.find? id with
    | none => rfl
    | some i =>
      simp only [map_some, loweredInvite, hnone]
      cases i.isOpen <;> rfl

theorem Partner.cap_le (p : Partner) (m : Nat) : p.cap m ≤ p.ceiling := Nat.min_le_left ..

theorem Partner.cap_mono {q : Partner} (h : p.ceiling ≤ q.ceiling) (m : Nat) :
    p.cap m ≤ q.cap m := by
  unfold Partner.cap
  omega

theorem ceiling_loweredPartner (tree : Table String Partner) (id : String) (p : Partner) :
    (loweredPartner tree m S id p).ceiling = if id ∈ S then p.cap m else p.ceiling := by
  have hteam : (loweredPartner tree m S id p).ceiling =
      (if id ∈ S ∧ p.ceiling ≠ p.cap m then some (p.cap m)
        else p.teamOverrideMaxBps).getD commerceTeamShareMaxBps := rfl
  rw [hteam]
  by_cases hS : id ∈ S
  · by_cases hc : p.ceiling = p.cap m
    · rw [if_neg (fun h => h.2 hc), if_pos hS, ← hc]
      rfl
    · rw [if_pos ⟨hS, hc⟩, if_pos hS, getD_some]
  · rw [if_neg (fun h => hS h.1), if_neg hS]
    rfl

theorem ceiling_loweredPartner_le (tree : Table String Partner) (id : String)
    (p : Partner) : (loweredPartner tree m S id p).ceiling ≤ p.ceiling := by
  rw [ceiling_loweredPartner]
  split
  · exact p.cap_le m
  · exact le_refl _

theorem cappedEdge_le {edge : Option Nat} (h : cappedEdge sub cap edge = some e) : e ≤ cap := by
  obtain rfl := some.inj h
  exact Nat.min_le_right ..

variable {id : String}

theorem Lowered.partner (h : Lowered db m S db₁) (hp : db.partners.find? id = some p) :
    db₁.partners.find? id = some (loweredPartner db.partners m S id p) := by
  rw [h.partners, hp, map_some]

theorem Lowered.before (h : Lowered db m S db₁) {p1 : Partner}
    (hp : db₁.partners.find? id = some p1) :
    ∃ p, db.partners.find? id = some p ∧ p1 = loweredPartner db.partners m S id p := by
  rw [h.partners] at hp
  obtain ⟨p, hp, heq⟩ := map_eq_some_iff.mp hp
  exact ⟨p, hp, heq.symm⟩

theorem Lowered.inviteBefore (h : Lowered db m S db₁) {i1 : Invite}
    (hi : db₁.invites.find? id = some i1) :
    ∃ i, db.invites.find? id = some i ∧ i1 = loweredInvite db.partners m S i := by
  rw [h.invites] at hi
  obtain ⟨i, hi, heq⟩ := map_eq_some_iff.mp hi
  exact ⟨i, hi, heq.symm⟩

@[simp] theorem loweredInvite_isOpen (tree : Table String Partner) (i : Invite) :
    (loweredInvite tree m S i).isOpen = i.isOpen := by
  unfold loweredInvite
  split <;> rfl

@[simp] theorem loweredInvite_partnerId (tree : Table String Partner) (i : Invite) :
    (loweredInvite tree m S i).partnerId = i.partnerId := by
  unfold loweredInvite
  split <;> rfl

theorem loweredPartner_edge (tree : Table String Partner)
    (h : ∀ parentId, p.parentPartnerId = some parentId → parentId ∉ S) :
    (loweredPartner tree m S id p).parentOverrideBps = p.parentOverrideBps := by
  cases hp : p.parentPartnerId with
  | none => simp [loweredPartner, hp]
  | some parentId => simp [loweredPartner, hp, processed, h parentId hp]

theorem loweredPartner_edge_le {parent : Partner} (hp : p.parentPartnerId = some parentId)
    (hparent : tree.find? parentId = some parent) (hS : parentId ∈ S)
    (he : (loweredPartner tree m S id p).parentOverrideBps = some e) :
    e ≤ parent.cap m := by
  simp only [loweredPartner, hp, bind_some, processed, hS, if_true, hparent] at he
  exact cappedEdge_le he

/-! ## One row of the loop -/

/-- Below `r`, the rows are lowered. -/
structure AtRow (db : Sales) (S : List String) (r : String) : Prop where
  fresh : r ∉ S
  children : ∀ c p, db.partners.find? c = some p → p.parentPartnerId = some r → c ∈ S
  closed : ∀ k ∈ S, ∀ c p, db.partners.find? c = some p →
    p.parentPartnerId = some k → c ∈ S

variable {r : String} {row : Partner}

theorem AtRow.row_eq (hat : AtRow db S r) (hrow : db.partners.find? r = some row) :
    loweredPartner db.partners m S r row = row := by
  have hedge : (loweredPartner db.partners m S r row).parentOverrideBps =
      row.parentOverrideBps := by
    refine loweredPartner_edge db.partners ?_
    intro parentId hp hS
    exact hat.fresh (hat.closed parentId hS r row hrow hp)
  have hteam : (loweredPartner db.partners m S r row).teamOverrideMaxBps =
      row.teamOverrideMaxBps := by
    simp [loweredPartner, hat.fresh]
  calc loweredPartner db.partners m S r row
      = { row with
          teamOverrideMaxBps := (loweredPartner db.partners m S r row).teamOverrideMaxBps
          parentOverrideBps := (loweredPartner db.partners m S r row).parentOverrideBps } :=
        rfl
    _ = row := by rw [hedge, hteam]

theorem guardInviteTeam_capInvite (hcheck : i.check = true) (hp : i.partnerId = some r)
    (hrow : db₁.partners.find? r = some row) (hcap : cap ≤ row.ceiling)
    (hmax : cap ≤ 2000) : guardInviteTeam db₁ (capInvite sub cap i) = .ok () := by
  have hteam : ∀ b, (capInvite sub cap i).teamOverrideMaxBps = some b → b ≤ cap := by
    intro b hb
    obtain rfl := some.inj hb
    exact Nat.min_le_right ..
  have hedge : ∀ e, (capInvite sub cap i).parentOverrideBps = some e → e ≤ cap :=
    fun e he => cappedEdge_le he
  simp only [guardInviteTeam, ok_steps, inviteTeamBounds_ok, checkInvite_ok]
  refine ⟨⟨fun hnone => ?_, fun parentId hparent => ?_⟩, ?_⟩
  · have hnone : i.partnerId = none := hnone
    rw [hp] at hnone
    cases hnone
  · obtain rfl : r = parentId := some.inj (hp.symm.trans hparent)
    exact ⟨row, hrow, fun b hb => (hteam b hb).trans hcap, fun e he => (hedge e he).trans hcap⟩
  · simp only [Invite.check, guard_iffs, authorityCheck_iff] at hcheck ⊢
    exact ⟨⟨fun b hb => (hteam b hb).trans hmax, fun e he => (hedge e he).trans hmax,
      hcheck.1.2.2⟩, hcheck.2⟩

theorem updateInvites_lowered (h : Sound db) (hlow : Lowered db m S db₁)
    (hat : AtRow db S r) (hrow : db.partners.find? r = some row) :
    ∃ db₂, updateInvites db₁ (openOf r) (capInvite row.subCommissionBps (row.cap m))
        guardInviteTeam = .ok db₂ ∧ db₂.partners = db₁.partners ∧
      ∀ id, db₂.invites.find? id =
        (db.invites.find? id).map (loweredInvite db.partners m (S ++ [r])) := by
  have hr1 : db₁.partners.find? r = some row := by rw [hlow.partner hrow, hat.row_eq hrow]
  refine ⟨_, updateInvites_ok ?_, rfl, ?_⟩
  · intro id i1 hi1 hsel
    simp only [openOf, guard_iffs] at hsel
    obtain ⟨i, hi, rfl⟩ := hlow.inviteBefore hi1
    rw [loweredInvite_partnerId, loweredInvite_isOpen] at hsel
    have hsame : loweredInvite db.partners m S i = i := by
      simp [loweredInvite, hsel.1, hsel.2, processed, hat.fresh]
    rw [hsame]
    exact guardInviteTeam_capInvite (h.inviteChecks id i hi) hsel.1 hr1 (row.cap_le m)
      ((row.cap_le m).trans (h.partnerChecks hrow).ceiling)
  · intro id
    rw [find?_mapRows, hlow.invites, Option.map_map]
    congr 1
    funext i
    simp only [Function.comp_apply, openOf, loweredInvite_partnerId, loweredInvite_isOpen]
    by_cases ho : i.isOpen = true
    · by_cases hp : i.partnerId = some r
      · simp [loweredInvite, ho, hp, processed, hat.fresh, hrow]
      · cases hq : i.partnerId with
        | none => simp [loweredInvite, ho, hq]
        | some q =>
          have hqr : q ≠ r := fun e => hp (by rw [hq, e])
          simp [loweredInvite, ho, hq, processed, hqr]
    · simp [loweredInvite, ho]

def edgesCut (tree : Table String Partner) (m : Nat) (S : List String) (r : String)
    (id : String) (p : Partner) : Partner :=
  { loweredPartner tree m (S ++ [r]) id p with
    teamOverrideMaxBps := (loweredPartner tree m S id p).teamOverrideMaxBps }

theorem updatePartners_lowered (h : Sound db) (hpartners : ∀ id, db₁.partners.find? id =
      (db.partners.find? id).map (loweredPartner db.partners m S id))
    (hat : AtRow db S r) (hrow : db.partners.find? r = some row) :
    ∃ db₂, updatePartners db₁ (childOf r) (capEdge row.subCommissionBps (row.cap m))
        guardEdge = .ok db₂ ∧ db₂.invites = db₁.invites ∧
      ∀ id, db₂.partners.find? id =
        (db.partners.find? id).map (edgesCut db.partners m S r id) := by
  have hr1 : db₁.partners.find? r = some row := by
    rw [hpartners, hrow, map_some, hat.row_eq hrow]
  have hmax : row.cap m ≤ 2000 := (row.cap_le m).trans (h.partnerChecks hrow).ceiling
  refine ⟨_, updatePartners_ok ?_, rfl, ?_⟩
  · intro c p1 hp1 hsel
    rw [hpartners] at hp1
    obtain ⟨p, hp, rfl⟩ := map_eq_some_iff.mp hp1
    have hchild : p.parentPartnerId = some r := of_decide_eq_true hsel
    have hbound : p.ceiling ≤ row.ceiling := by
      obtain ⟨parent, hparent, hle, -⟩ := (h.bounded c p hp).parent r hchild
      obtain rfl : row = parent := some.inj (hrow.symm.trans hparent)
      exact hle
    have hteam : ∀ b, (loweredPartner db.partners m S c p).teamOverrideMaxBps = some b →
        b ≤ p.ceiling := by
      intro b hb
      rw [Partner.le_ceiling hb]
      exact ceiling_loweredPartner_le _ _ _
    have hchecks := h.partnerChecks hp
    simp only [guardEdge, ok_steps, teamBounds_ok, checkPartner_ok, Partner.check_iff]
    refine ⟨⟨fun hnone => ?_, fun parentId hparent => ?_⟩, ?_⟩
    · have hnone : p.parentPartnerId = none := hnone
      rw [hchild] at hnone
      cases hnone
    · obtain rfl : r = parentId := some.inj (hchild.symm.trans hparent)
      exact ⟨row, hr1, fun b hb => (hteam b hb).trans hbound,
        fun e he => (cappedEdge_le he).trans (row.cap_le m)⟩
    · exact ⟨fun b hb => (hteam b hb).trans hchecks.ceiling,
        fun e he => (cappedEdge_le he).trans hmax, hchecks.enabled, hchecks.disabled,
        hchecks.sub, hchecks.source, hchecks.program⟩
  · intro id
    rw [find?_mapRows, hpartners, Option.map_map]
    congr 1
    funext p
    simp only [Function.comp_apply, childOf]
    cases hq : p.parentPartnerId with
    | none => simp [edgesCut, loweredPartner, hq]
    | some q =>
      by_cases hqr : q = r
      · subst hqr
        simp [edgesCut, loweredPartner, hq, capEdge, processed, hat.fresh, hrow]
      · simp [edgesCut, loweredPartner, hq, processed, hqr]

theorem edgesCut_ne (p : Partner) (h : id ≠ r) :
    edgesCut tree m S r id p = loweredPartner tree m (S ++ [r]) id p := by
  simp [edgesCut, loweredPartner, h]

theorem AtRow.edgesCut_row (hat : AtRow db S r) (h : Sound db)
    (hrow : db.partners.find? r = some row) : edgesCut db.partners m S r r row = row := by
  have hself : row.parentPartnerId ≠ some r := by
    intro hp
    obtain ⟨rank, hrank⟩ := h.acyclic
    exact absurd (hrank r r ⟨row, hrow, hp⟩) (lt_irrefl _)
  have hedge : (loweredPartner db.partners m (S ++ [r]) r row).parentOverrideBps =
      row.parentOverrideBps := by
    refine loweredPartner_edge db.partners ?_
    intro parentId hp hS
    rcases mem_append.mp hS with hS | hS
    · exact hat.fresh (hat.closed parentId hS r row hrow hp)
    · rw [mem_singleton] at hS
      exact hself (hS ▸ hp)
  calc edgesCut db.partners m S r r row
      = { row with
          teamOverrideMaxBps := (loweredPartner db.partners m S r row).teamOverrideMaxBps
          parentOverrideBps :=
            (loweredPartner db.partners m (S ++ [r]) r row).parentOverrideBps } := rfl
    _ = { loweredPartner db.partners m S r row with
          parentOverrideBps := row.parentOverrideBps } := by rw [hedge]; rfl
    _ = row := by rw [hat.row_eq hrow]

theorem AtRow.lowered_row (hat : AtRow db S r) (h : Sound db)
    (hrow : db.partners.find? r = some row) :
    loweredPartner db.partners m (S ++ [r]) r row =
      if row.ceiling = row.cap m then row
      else { row with teamOverrideMaxBps := some (row.cap m) } := by
  have hcut : edgesCut db.partners m S r r row = row := hat.edgesCut_row h hrow
  have heq : loweredPartner db.partners m (S ++ [r]) r row =
      { edgesCut db.partners m S r r row with
        teamOverrideMaxBps :=
          (loweredPartner db.partners m (S ++ [r]) r row).teamOverrideMaxBps } := rfl
  rw [heq, hcut]
  split
  · rename_i hc
    simp [loweredPartner, hc]
  · rename_i hc
    simp [loweredPartner, hc]

structure EdgesCut (db : Sales) (m : Nat) (S : List String) (r : String) (db₂ : Sales) :
    Prop where
  partners : ∀ id, db₂.partners.find? id =
    (db.partners.find? id).map (edgesCut db.partners m S r id)
  invites : ∀ id, db₂.invites.find? id =
    (db.invites.find? id).map (loweredInvite db.partners m (S ++ [r]))

variable {db₂ : Sales}

theorem AtRow.parent_fresh (hat : AtRow db S r) (h : Sound db)
    (hrow : db.partners.find? r = some row) (hp : row.parentPartnerId = some parentId) :
    parentId ∉ S ++ [r] := by
  intro hS
  rcases mem_append.mp hS with hS | hS
  · exact hat.fresh (hat.closed parentId hS r row hrow hp)
  · rw [mem_singleton] at hS
    obtain ⟨rank, hrank⟩ := h.acyclic
    exact absurd (hrank r r ⟨row, hrow, hS ▸ hp⟩) (lt_irrefl _)

theorem EdgesCut.dependants (hcut : EdgesCut db m S r db₂) (h : Sound db)
    (hat : AtRow db S r) (hrow : db.partners.find? r = some row) {old new : Partner}
    (hnew : new.ceiling = row.cap m) :
    enforcePartnerTeamOverrideCeilingUpdate db₂ r old new = .ok () := by
  refine ceilingUpdate_ok ?_ ?_
  · intro c p2 hp2 hparent
    rw [hcut.partners] at hp2
    obtain ⟨p, hp, rfl⟩ := map_eq_some_iff.mp hp2
    have hchild : p.parentPartnerId = some r := hparent
    have hcS : c ∈ S := hat.children c p hp hchild
    obtain ⟨parent, hparent', hle, -⟩ := (h.bounded c p hp).parent r hchild
    obtain rfl : row = parent := some.inj (hrow.symm.trans hparent')
    have hcr : c ≠ r := fun e => hat.fresh (e ▸ hcS)
    rw [edgesCut_ne p hcr, hnew]
    constructor
    · intro b hb
      rw [Partner.le_ceiling hb, ceiling_loweredPartner, if_pos (mem_append_left _ hcS)]
      exact Partner.cap_mono hle m
    · exact fun e he => loweredPartner_edge_le hchild hrow (by simp) he
  · intro c i2 hi2 hp ho
    rw [hcut.invites] at hi2
    obtain ⟨i, hi, rfl⟩ := map_eq_some_iff.mp hi2
    rw [loweredInvite_partnerId] at hp
    rw [loweredInvite_isOpen] at ho
    have hcap : loweredInvite db.partners m (S ++ [r]) i =
        capInvite row.subCommissionBps (row.cap m) i := by
      simp [loweredInvite, ho, hp, processed, hrow]
    rw [hcap, hnew]
    constructor
    · intro b hb
      obtain rfl := some.inj hb
      exact Nat.min_le_right ..
    · exact fun e he => cappedEdge_le he

theorem EdgesCut.bounds (hcut : EdgesCut db m S r db₂) (h : Sound db)
    (hat : AtRow db S r) (hrow : db.partners.find? r = some row) :
    enforcePartnerTeamOverrideBounds db₂
      { row with teamOverrideMaxBps := some (row.cap m) } = .ok () := by
  rw [teamBounds_ok]
  refine ⟨(h.bounded r row hrow).root, fun parentId hp => ?_⟩
  obtain ⟨parent, hparent, hle, hedge⟩ := (h.bounded r row hrow).parent parentId hp
  have hS := hat.parent_fresh h hrow hp
  have hceiling : (edgesCut db.partners m S r parentId parent).ceiling =
      parent.ceiling := by
    rw [edgesCut_ne parent (fun e => hS (by simp [e])), ceiling_loweredPartner, if_neg hS]
  refine ⟨_, by rw [hcut.partners, hparent, map_some], ?_, ?_⟩
  · intro b hb
    obtain rfl := some.inj hb
    rw [hceiling]
    exact (row.cap_le m).trans hle
  · intro e he
    rw [hceiling]
    exact hedge e he

theorem check_lowered (h : Sound db) (hrow : db.partners.find? r = some row) :
    PartnerChecks { row with teamOverrideMaxBps := some (row.cap m) } := by
  have hchecks := h.partnerChecks hrow
  refine ⟨?_, hchecks.edge, hchecks.enabled, hchecks.disabled, hchecks.sub,
    hchecks.source, hchecks.program⟩
  intro b hb
  obtain rfl := some.inj hb
  exact (row.cap_le m).trans hchecks.ceiling

theorem lowerCeiling_lowered (h : Sound db) (hat : AtRow db S r)
    (hrow : db.partners.find? r = some row) (hcut : EdgesCut db m S r db₂) :
    ∃ db3, lowerCeiling db₂ r (row.cap m) = .ok db3 ∧ Lowered db m (S ++ [r]) db3 := by
  have hr2 : db₂.partners.find? r = some row := by
    rw [hcut.partners, hrow, map_some, hat.edgesCut_row h hrow]
  have hne : ∀ id, r ≠ id → db₂.partners.find? id =
      (db.partners.find? id).map (loweredPartner db.partners m (S ++ [r]) id) := by
    intro id hid
    rw [hcut.partners]
    exact Option.map_congr (fun p _ => edgesCut_ne p (fun e => hid e.symm))
  have hself := hat.lowered_row (m := m) h hrow
  unfold lowerCeiling
  simp only [hr2]
  split
  · rename_i hc
    refine ⟨db₂, rfl, ⟨fun id => ?_, hcut.invites⟩⟩
    by_cases hid : r = id
    · subst hid
      rw [hr2, hrow, map_some, hself, if_pos hc]
    · exact hne id hid
  · rename_i hc
    refine ⟨_, writeTeam_ok (hcut.bounds h hat hrow) (hcut.dependants h hat hrow rfl)
      (check_lowered h hrow), ⟨fun id => ?_, hcut.invites⟩⟩
    by_cases hid : r = id
    · subst hid
      rw [find?_put_self, hrow, map_some, hself, if_neg hc]
    · exact (find?_put_ne _ _ hid).trans (hne id hid)

theorem lowerStep_lowered (h : Sound db) (hlow : Lowered db m S db₁)
    (hat : AtRow db S r) (hrow : db.partners.find? r = some row) :
    ∃ db₂, lowerStep db.partners m db₁ r = .ok db₂ ∧ Lowered db m (S ++ [r]) db₂ := by
  obtain ⟨db₂, hinv, hp2, hi2⟩ := updateInvites_lowered h hlow hat hrow
  obtain ⟨db3, hedge, hi3, hp3⟩ := updatePartners_lowered h
    (fun id => by rw [hp2]; exact hlow.partners id) hat hrow
  obtain ⟨db4, hceil, hlow4⟩ := lowerCeiling_lowered h hat hrow
    ⟨hp3, fun id => by rw [hi3]; exact hi2 id⟩
  refine ⟨db4, ?_, hlow4⟩
  simp only [lowerStep, hrow, lowerRow, bind_eq_ok]
  exact ⟨db₂, hinv, db3, hedge, hceil⟩

/-! ## The whole loop -/

theorem atRow_of_split (h : Sound db)
    (hsplit : leafFirst parentLink db.partners root = l₁ ++ r :: l₂) : AtRow db l₁ r := by
  have hfirst : ChildrenFirst parentLink db.partners
      (leafFirst parentLink db.partners root) := leafFirst_childrenFirst h.acyclic
  have hnodup := leafFirst_nodup parentLink db.partners root
  refine ⟨?_, ?_, ?_⟩
  · rw [hsplit] at hnodup
    exact fun hmem => (List.disjoint_of_nodup_append hnodup) hmem (by simp)
  · intro c p hp hchild
    exact hfirst l₁ r l₂ hsplit c ⟨p, hp, hchild⟩
  · intro k hk c p hp hchild
    obtain ⟨k1, k2, rfl⟩ := List.append_of_mem hk
    have hc := hfirst k1 k (k2 ++ r :: l₂) (by rw [hsplit]; simp) c ⟨p, hp, hchild⟩
    exact mem_append_left _ hc

theorem foldlM_lowered (h : Sound db)
    (hsplit : leafFirst parentLink db.partners root = l₁ ++ l₂)
    (hlow : Lowered db m l₁ db₁) :
    ∃ db₂, l₂.foldlM (lowerStep db.partners m) db₁ = .ok db₂ ∧
      Lowered db m (leafFirst parentLink db.partners root) db₂ := by
  induction l₂ generalizing l₁ db₁ with
  | nil =>
    rw [append_nil] at hsplit
    exact ⟨db₁, rfl, hsplit ▸ hlow⟩
  | cons r _ ih =>
    have hmem : r ∈ leafFirst parentLink db.partners root := by
      rw [hsplit]
      simp
    obtain ⟨row, hrow⟩ := exists_row_of_mem_leafFirst hmem
    obtain ⟨db₂, hstep, hlow2⟩ := lowerStep_lowered h hlow (atRow_of_split h hsplit) hrow
    obtain ⟨db3, hrest, hlow3⟩ := ih (by rw [hsplit]; simp) hlow2
    refine ⟨db3, ?_, hlow3⟩
    simp only [foldlM_cons, bind_eq_ok]
    exact ⟨db₂, hstep, hrest⟩

theorem lowerTeamOverrideCeiling_ok (h : Sound db) (id : String) (m : Nat) :
    ∃ db₁, lowerTeamOverrideCeiling db id m = .ok db₁ ∧
      Lowered db m (leafFirst parentLink db.partners id) db₁ :=
  foldlM_lowered h (nil_append _).symm (Lowered.refl db m)

/-! ## What the loop leaves -/

variable {id : String}

theorem Lowered.keeps (hlow : Lowered db m S db₁) : Keeps db db₁ := by
  constructor
  · intro id
    rw [hlow.partners, Option.map_map]
    rfl
  · intro id i1 hi1
    obtain ⟨i, hi, rfl⟩ := hlow.inviteBefore hi1
    refine ⟨i, hi, loweredInvite_partnerId _ _, ?_, fun ho => ?_⟩
    · unfold loweredInvite
      split <;> rfl
    · rwa [loweredInvite_isOpen] at ho

structure Subtree (db : Sales) (root : String) (S : List String) : Prop where
  under : ∀ k ∈ S, Under parentLink db.partners root k
  closed : ∀ k ∈ S, ∀ c p, db.partners.find? c = some p →
    p.parentPartnerId = some k → c ∈ S

theorem subtree_leafFirst (h : Sound db) (root : String) :
    Subtree db root (leafFirst parentLink db.partners root) where
  under := fun _ hk => under_of_mem_leafFirst hk
  closed := fun _ hk _ p hp hchild => mem_leafFirst_of_child h.acyclic hk ⟨p, hp, hchild⟩

section

variable (hlow : Lowered db m S db₁)
include hlow

theorem Lowered.bounded (h : Sound db) (hS : Subtree db root S)
    (hp : db.partners.find? id = some p) :
    Bounded db₁ (loweredPartner db.partners m S id p) := by
  have hb := h.bounded id p hp
  refine ⟨fun hnone => ?_, fun parentId hparent => ?_⟩
  · have hnone : p.parentPartnerId = none := hnone
    rw [loweredPartner_edge db.partners (fun q hq => by rw [hnone] at hq; cases hq)]
    exact hb.root hnone
  · have hparent : p.parentPartnerId = some parentId := hparent
    obtain ⟨parent, hfind, hle, hedge⟩ := hb.parent parentId hparent
    refine ⟨_, hlow.partner hfind, ?_, ?_⟩
    · rw [ceiling_loweredPartner _ parentId]
      by_cases hpS : parentId ∈ S
      · rw [if_pos hpS, ceiling_loweredPartner,
          if_pos (hS.closed parentId hpS id p hp hparent)]
        exact Partner.cap_mono hle m
      · rw [if_neg hpS]
        exact (ceiling_loweredPartner_le _ _ _).trans hle
    · intro e he
      rw [ceiling_loweredPartner]
      by_cases hpS : parentId ∈ S
      · rw [if_pos hpS]
        exact loweredPartner_edge_le hparent hfind hpS he
      · rw [if_neg hpS]
        have hkeep : ∀ q, p.parentPartnerId = some q → q ∉ S := by
          intro q hq
          rw [hparent] at hq
          cases hq
          exact hpS
        rw [loweredPartner_edge db.partners hkeep] at he
        exact hedge e he

theorem Lowered.delegates {s : String} {n : Nat}
    (h : ∃ source, db.partners.find? s = some source ∧ source.delegates n = true) :
    ∃ source, db₁.partners.find? s = some source ∧ source.delegates n = true := by
  obtain ⟨source, hs, hd⟩ := h
  exact ⟨_, hlow.partner hs, hd⟩

theorem Lowered.inviteBounded (h : Sound db) (hi : db.invites.find? id = some i)
    (ho : i.isOpen = true) :
    InviteBounded db₁ (loweredInvite db.partners m S i) := by
  have hb := h.invites id i hi ho
  cases hp : i.partnerId with
  | none =>
    have hsame : loweredInvite db.partners m S i = i := by simp [loweredInvite, ho, hp]
    rw [hsame]
    refine ⟨hb.root, fun q hq => ?_⟩
    rw [hp] at hq
    cases hq
  | some q =>
    obtain ⟨inviter, hq, hteam, hedge, hb2b⟩ := hb.inviter q hp
    by_cases hqS : q ∈ S
    · have hcap : loweredInvite db.partners m S i =
          capInvite inviter.subCommissionBps (inviter.cap m) i := by
        simp [loweredInvite, ho, hp, processed, hqS, hq]
      have hceiling : (loweredPartner db.partners m S q inviter).ceiling =
          inviter.cap m := by
        rw [ceiling_loweredPartner, if_pos hqS]
      rw [hcap]
      refine ⟨fun hnone => ?_, fun q' hq' => ?_⟩
      · have hnone : i.partnerId = none := hnone
        rw [hp] at hnone
        cases hnone
      · obtain rfl : q = q' := some.inj (hp.symm.trans hq')
        refine ⟨_, hlow.partner hq, ?_, ?_, hb2b⟩
        · intro b hbb
          obtain rfl := some.inj hbb
          rw [hceiling]
          exact Nat.min_le_right ..
        · intro e he
          rw [hceiling]
          exact cappedEdge_le he
    · have hsame : loweredInvite db.partners m S i = i := by
        simp [loweredInvite, ho, hp, processed, hqS]
      have hceiling : (loweredPartner db.partners m S q inviter).ceiling =
          inviter.ceiling := by
        rw [ceiling_loweredPartner, if_neg hqS]
      rw [hsame]
      refine ⟨hb.root, fun q' hq' => ?_⟩
      obtain rfl : q = q' := some.inj (hp.symm.trans hq')
      refine ⟨_, hlow.partner hq, ?_, ?_, hb2b⟩
      · intro b hbb
        rw [hceiling]
        exact hteam b hbb
      · intro e he
        rw [hceiling]
        exact hedge e he

theorem Lowered.checks (h : Sound db) (hS : Subtree db root S)
    (hp : db.partners.find? id = some p) :
    PartnerChecks (loweredPartner db.partners m S id p) := by
  have hc := h.partnerChecks hp
  refine ⟨?_, ?_, hc.enabled, hc.disabled, hc.sub, hc.source, hc.program⟩
  · intro b hb
    rw [Partner.le_ceiling hb]
    exact (ceiling_loweredPartner_le _ _ _).trans hc.ceiling
  · intro e he
    have hb := hlow.bounded h hS hp
    cases hparent : p.parentPartnerId with
    | none =>
      have := hb.root hparent
      rw [he] at this
      cases this
    | some parentId =>
      obtain ⟨parent1, hfind, -, hedge⟩ := hb.parent parentId hparent
      obtain ⟨parent, hfind', rfl⟩ := hlow.before hfind
      exact ((hedge e he).trans (ceiling_loweredPartner_le _ _ _)).trans
        (h.partnerChecks hfind').ceiling

end

theorem Lowered.inviteChecks (h : Sound db) (hi : db.invites.find? id = some i) :
    (loweredInvite db.partners m S i).check = true := by
  have hcheck := h.inviteChecks id i hi
  unfold loweredInvite
  split
  · rename_i inviter hinv
    have hfind : ∃ q, db.partners.find? q = some inviter := by
      split at hinv
      · obtain ⟨q, -, hq⟩ := bind_eq_some_iff.mp hinv
        unfold processed at hq
        split at hq
        · exact ⟨q, hq⟩
        · cases hq
      · cases hinv
    obtain ⟨q, hq⟩ := hfind
    have hcap : inviter.cap m ≤ 2000 := (inviter.cap_le m).trans (h.partnerChecks hq).ceiling
    simp only [Invite.check, guard_iffs, authorityCheck_iff] at hcheck ⊢
    refine ⟨⟨?_, fun e he => (cappedEdge_le he).trans hcap, hcheck.1.2.2⟩, hcheck.2⟩
    intro b hb
    obtain rfl := some.inj hb
    exact (Nat.min_le_right ..).trans hcap
  · exact hcheck

theorem Lowered.sound (hlow : Lowered db m S db₁) (h : Sound db) (hS : Subtree db root S) :
    Sound db₁ := by
  refine hlow.keeps.sound h ?_ ?_ ?_ ?_ ?_
  · intro id p1 hp1
    obtain ⟨p, hp, rfl⟩ := hlow.before hp1
    exact hlow.checks h hS hp
  · intro id i1 hi1
    obtain ⟨i, hi, rfl⟩ := hlow.inviteBefore hi1
    exact Lowered.inviteChecks h hi
  · intro id p1 hp1
    obtain ⟨p, hp, rfl⟩ := hlow.before hp1
    exact hlow.bounded h hS hp
  · intro id p1 hp1
    obtain ⟨p, hp, rfl⟩ := hlow.before hp1
    intro s hs
    obtain ⟨hparent, hsource⟩ := h.granted id p hp s hs
    exact ⟨hparent, hlow.delegates hsource⟩
  · intro id i1 hi1 ho
    obtain ⟨i, hi, rfl⟩ := hlow.inviteBefore hi1
    rw [loweredInvite_isOpen] at ho
    exact hlow.inviteBounded h hi ho

theorem Lowered.within (hlow : Lowered db m S db₁) (hS : Subtree db root S) :
    Within db root db₁ := by
  refine ⟨hlow.keeps, ?_, ?_⟩
  · intro k hk
    rw [hlow.partners]
    cases hp : db.partners.find? k with
    | none => rfl
    | some p =>
      have hkS : k ∉ S := fun hmem => hk (hS.under k hmem)
      have hparent : ∀ q, p.parentPartnerId = some q → q ∉ S := by
        intro q hq hmem
        exact hk ((hS.under q hmem).tail ⟨p, hp, hq⟩)
      have hedge : (loweredPartner db.partners m S k p).parentOverrideBps =
          p.parentOverrideBps := loweredPartner_edge db.partners hparent
      have hsame : loweredPartner db.partners m S k p = p := by
        calc loweredPartner db.partners m S k p
            = { p with
                teamOverrideMaxBps := (loweredPartner db.partners m S k p).teamOverrideMaxBps
                parentOverrideBps :=
                  (loweredPartner db.partners m S k p).parentOverrideBps } := rfl
          _ = p := by rw [hedge]; simp [loweredPartner, hkS]
      rw [map_some, hsame]
  · intro id i hi hout
    rw [hlow.invites, hi, map_some]
    have hsame : loweredInvite db.partners m S i = i := by
      cases hp : i.partnerId with
      | none => simp [loweredInvite, hp]
      | some q =>
        have hq : q ∉ S := fun hmem => hout q hp (hS.under q hmem)
        simp [loweredInvite, hp, processed, hq]
    rw [hsame]

/-- `lowerTeamOverrideCeiling` succeeds, keeps the invariant, stays within the
subtree, and leaves the partner itself with the lower of the two ceilings. -/
theorem lowerTeamOverrideCeiling_spec (h : Sound db) (hp : db.partners.find? id = some p)
    (m : Nat) :
    ∃ db₁ p1, lowerTeamOverrideCeiling db id m = .ok db₁ ∧ Sound db₁ ∧
      Within db id db₁ ∧ db₁.partners.find? id = some p1 ∧ p1.ceiling = min p.ceiling m ∧
      p1.b2b = p.b2b ∧ p1.parentOverrideBps = p.parentOverrideBps ∧
      p1.programEnabled = p.programEnabled := by
  obtain ⟨db₁, hok, hlow⟩ := lowerTeamOverrideCeiling_ok h id m
  have hS := subtree_leafFirst h id
  have hmem : id ∈ leafFirst parentLink db.partners id :=
    mem_leafFirst_iff.mpr (root_mem_rootFirst hp)
  refine ⟨db₁, _, hok, hlow.sound h hS, hlow.within hS, hlow.partner hp, ?_, rfl, ?_, rfl⟩
  · rw [ceiling_loweredPartner, if_pos hmem]
    rfl
  · refine loweredPartner_edge db.partners ?_
    intro parentId hparent hpS
    exact not_under_child h.acyclic ⟨p, hp, hparent⟩ (hS.under parentId hpS)

end ApiToken.Team
