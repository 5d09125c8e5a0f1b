import ApiToken.Lib.Run
import ApiToken.Team.Cascade

/-!
# The calls on partner authority

Onboarding by the platform, account-bound invitations and their activation,
edits by the direct parent and by an administrator, and the older
invitations, which carry no account. Each is one transaction. Ids of new
rows and the time are parameters.
-/

namespace ApiToken.Team

structure AuthorityInput where
  teamOverrideMaxBps : Nat
  teamInvitesEnabled : Bool
  b2bEnabled : Bool
  b2bMaxDiscountBps : Nat
  b2bCanDelegate : Bool

def assertBps (value maximum : Nat) (label : String) : Except Refusal Unit :=
  failIf (maximum < value) (.commerceAuthority
    (label ++ " must be between 0 and " ++ toString maximum ++ " bps"))

def assertAuthority (input : AuthorityInput) : Except Refusal Unit := do
  assertBps input.teamOverrideMaxBps commerceTeamShareMaxBps "Team share ceiling"
  assertBps input.b2bMaxDiscountBps 9500 "B2B discount ceiling"
  failIf (!input.b2bEnabled && (input.b2bMaxDiscountBps != 0 || input.b2bCanDelegate))
    (.commerceAuthority "a disabled B2B grant cannot retain a ceiling or delegation")

/-- The row of `partners` with the account, of which there is at most one. -/
def partnerOfAccount (db : Sales) (commerceUserId : String) : Option (String × Partner) :=
  db.partners.rows.find? (fun x => x.2.commerceUserId = some commerceUserId)

def openInviteOf (db : Sales) (commerceUserId : String) : Option (String × Invite) :=
  db.invites.rows.find? (fun x => x.2.commerceUserId = some commerceUserId && x.2.isOpen)

/-! ## Onboarding -/

def onboardedPartner (commerceUserId : String) (subCommissionBps : Nat)
    (authority : AuthorityInput) : Partner where
  commerceUserId := some commerceUserId
  programEnabled := true
  status := .active
  parentPartnerId := none
  subCommissionBps := subCommissionBps
  teamOverrideMaxBps := some authority.teamOverrideMaxBps
  parentOverrideBps := none
  teamInvitesEnabled := authority.teamInvitesEnabled
  b2bEnabled := authority.b2bEnabled
  b2bMaxDiscountBps := if authority.b2bEnabled then authority.b2bMaxDiscountBps else 0
  b2bCanDelegate := authority.b2bEnabled && authority.b2bCanDelegate
  b2bGrantSourcePartnerId := none

/-- A cascade only when the ceiling goes down. -/
def lowerIfBelow (db : Sales) (id : String) (current maximumBps : Nat) :
    Except Refusal Sales :=
  if maximumBps < current then lowerTeamOverrideCeiling db id maximumBps else .ok db

/-- The row as it is now, for an `UPDATE … WHERE id`. -/
def currentPartner (db : Sales) (id : String) : Except Refusal Partner :=
  orFail (db.partners.find? id) .teamMemberNotFound

/-- The columns of an existing membership that the onboarding sets. -/
def reenabledPartner (row : Partner) (subCommissionBps : Nat)
    (authority : AuthorityInput) : Partner :=
  { row with
    status := .active
    programEnabled := true
    subCommissionBps := subCommissionBps
    teamOverrideMaxBps := some authority.teamOverrideMaxBps
    teamInvitesEnabled := authority.teamInvitesEnabled }

def reonboard (db : Sales) (id : String) (row : Partner) (subCommissionBps : Nat)
    (authority : AuthorityInput) : Except Refusal Sales := do
  let db ← lowerIfBelow db id row.ceiling authority.teamOverrideMaxBps
  let db ← applyPartnerB2BAuthorityCascade db id
    ⟨some authority.b2bEnabled, some authority.b2bMaxDiscountBps,
      some authority.b2bCanDelegate, none⟩
  let row ← currentPartner db id
  writeTeam db id row (reenabledPartner row subCommissionBps authority)

def onboardOrEdit (db : Sales) (newId commerceUserId : String) (subCommissionBps : Nat)
    (authority : AuthorityInput) :
    Option (String × Partner) → Except Refusal Sales
  | some (id, row) => reonboard db id row subCommissionBps authority
  | none => insertPartner db newId (onboardedPartner commerceUserId subCommissionBps authority)

def onboardCommercePartner (db : Sales) (now : Int) (newId commerceUserId : String)
    (defaultSubCommissionBps : Nat) (authority : AuthorityInput) :
    Except Refusal Sales := do
  assertBps defaultSubCommissionBps 10000 "default Team fallback"
  assertAuthority authority
  let existing := partnerOfAccount db commerceUserId
  onboardOrEdit (revokeInvites db now (fun i => i.commerceUserId = some commerceUserId))
    newId commerceUserId defaultSubCommissionBps authority existing

/-! ## Account-bound invitations -/

structure TeamInviteInput where
  inviterCommerceUserId : String
  inviteeCommerceUserId : String
  defaultSubCommissionBps : Nat
  overrideBps : Nat
  authority : AuthorityInput
  expiresAt : Int

def activeInviter (db : Sales) (commerceUserId : String) : Option (String × Partner) :=
  (partnerOfAccount db commerceUserId).filter
    (fun x => x.2.programEnabled && x.2.status = .active)

def checkInviter (inviter : Partner) (input : TeamInviteInput) : Except Refusal Unit := do
  failIf (!inviter.teamInvitesEnabled)
    (.commerceAuthority "Team invitations are disabled for this partner")
  failIf (inviter.ceiling < input.overrideBps ||
      inviter.ceiling < input.authority.teamOverrideMaxBps)
    (.commerceAuthority ("Team controls exceed the inviter ceiling of " ++
      toString inviter.ceiling ++ " bps"))
  failIf (input.authority.teamInvitesEnabled && !inviter.teamInvitesEnabled)
    (.commerceAuthority "Team invitation authority cannot be delegated")
  failIf (input.authority.b2bEnabled && !(inviter.b2bEnabled && inviter.b2bCanDelegate))
    (.commerceAuthority "the inviter's B2B grant cannot be delegated")
  failIf (input.authority.b2bEnabled &&
      inviter.b2bMaxDiscountBps < input.authority.b2bMaxDiscountBps)
    (.commerceAuthority ("B2B discount exceeds the inviter ceiling of " ++
      toString inviter.b2bMaxDiscountBps ++ " bps"))

def newTeamInvite (inviterId : String) (input : TeamInviteInput) : Invite where
  partnerId := some inviterId
  commerceUserId := some input.inviteeCommerceUserId
  subCommissionBps := some input.defaultSubCommissionBps
  teamOverrideMaxBps := some input.authority.teamOverrideMaxBps
  parentOverrideBps := some input.overrideBps
  teamInvitesEnabled := input.authority.teamInvitesEnabled
  b2bEnabled := input.authority.b2bEnabled
  b2bMaxDiscountBps :=
    if input.authority.b2bEnabled then input.authority.b2bMaxDiscountBps else 0
  b2bCanDelegate := input.authority.b2bEnabled && input.authority.b2bCanDelegate
  expiresAt := some input.expiresAt
  consumedAt := none
  revokedAt := none

/-- Is the open invitation the one the call asks for? -/
def sameInvite (inviterId : String) (input : TeamInviteInput) (i : Invite) : Bool :=
  i.partnerId = some inviterId && i.parentOverrideBps = some input.overrideBps &&
    i.teamOverrideMaxBps = some input.authority.teamOverrideMaxBps &&
    i.teamInvitesEnabled = input.authority.teamInvitesEnabled &&
    i.b2bEnabled = input.authority.b2bEnabled &&
    i.b2bMaxDiscountBps = input.authority.b2bMaxDiscountBps &&
    i.b2bCanDelegate = input.authority.b2bCanDelegate

def insertOrKeep (db : Sales) (newId inviterId : String) (input : TeamInviteInput) :
    Option (String × Invite) → Except Refusal Sales
  | some (_, i) =>
    if sameInvite inviterId input i then .ok db
    else .error (.commerceConflict "this account already has another open Team invitation")
  | none => insertInvite db newId (newTeamInvite inviterId input)

def createCommerceTeamInvite (db : Sales) (now : Int) (newId : String)
    (input : TeamInviteInput) : Except Refusal Sales := do
  assertBps input.defaultSubCommissionBps 10000 "default Team fallback"
  assertBps input.overrideBps commerceTeamShareMaxBps "Team share"
  assertAuthority input.authority
  failIf (input.expiresAt ≤ now)
    (.commerceAuthority "Team invitation expiry must be in the future")
  failIf (input.inviterCommerceUserId = input.inviteeCommerceUserId)
    (.commerceConflict "a partner cannot invite their own Commerce account")
  let inviter ← orFail (activeInviter db input.inviterCommerceUserId)
    (.commerceNotFound "active inviter membership not found")
  checkInviter inviter.2 input
  failIf (partnerOfAccount db input.inviteeCommerceUserId).isSome
    (.commerceConflict "this Commerce account already has a partner membership")
  let db := revokeInvites db now (fun i =>
    i.commerceUserId = some input.inviteeCommerceUserId && i.expiresAt.any (· ≤ now))
  insertOrKeep db newId inviter.1 input (openInviteOf db input.inviteeCommerceUserId)

def invitedPartner (commerceUserId : String) (i : Invite) : Partner where
  commerceUserId := some commerceUserId
  programEnabled := true
  status := .active
  parentPartnerId := i.partnerId
  subCommissionBps := i.subCommissionBps.getD 1000
  teamOverrideMaxBps := some (i.teamOverrideMaxBps.getD commerceTeamShareMaxBps)
  parentOverrideBps := i.parentOverrideBps
  teamInvitesEnabled := i.teamInvitesEnabled
  b2bEnabled := i.b2bEnabled
  b2bMaxDiscountBps := if i.b2bEnabled then i.b2bMaxDiscountBps else 0
  b2bCanDelegate := i.b2bEnabled && i.b2bCanDelegate
  b2bGrantSourcePartnerId := if i.b2bEnabled then i.partnerId else none

/-- `status = 'active' AND program_enabled AND team_invites_enabled`; a root
invitation needs no parent. -/
def parentAllows (db : Sales) (i : Invite) : Bool :=
  i.partnerId.all (fun parentId => (db.partners.find? parentId).any (fun parent =>
    parent.status = .active && parent.programEnabled && parent.teamInvitesEnabled))

/-- The invitation is turned into a partner, or revoked. -/
def activateInvite (db : Sales) (now : Int) (newId commerceUserId : String)
    (x : String × Invite) : Except Refusal Sales :=
  if parentAllows db x.2 then do
    let db ← insertPartner db newId (invitedPartner commerceUserId x.2)
    return { db with invites := db.invites.put x.1 { x.2 with consumedAt := some now } }
  else .ok { db with invites := db.invites.put x.1 { x.2 with revokedAt := some now } }

def resolveCommercePartnerMembership (db : Sales) (now : Int)
    (newId commerceUserId : String) (activate : Bool) : Except Refusal Sales :=
  match partnerOfAccount db commerceUserId,
      (openInviteOf db commerceUserId).filter (fun x => x.2.expiresAt.all (now < ·)) with
  | none, some x => if activate then activateInvite db now newId commerceUserId x else .ok db
  | _, _ => .ok db

/-! ## Edits -/

structure MemberInput where
  parentPartnerId : String
  memberId : String
  overrideBps : Option Nat
  teamOverrideMaxBps : Option Nat
  teamInvitesEnabled : Option Bool
  b2bEnabled : Option Bool
  b2bMaxDiscountBps : Option Nat
  b2bCanDelegate : Option Bool
  requireProgramEnabled : Bool

/-- What the parent may ask for. -/
def checkSource (source : Partner) (input : MemberInput) : Except Refusal Unit := do
  failIf (source.status != .active || (input.requireProgramEnabled && !source.programEnabled))
    .teamMemberNotFound
  failIf (exceeds source.ceiling input.overrideBps ||
      exceeds source.ceiling input.teamOverrideMaxBps)
    (.teamOverrideLimit source.ceiling)
  failIf (input.teamInvitesEnabled = some true && !source.teamInvitesEnabled)
    (.teamAuthority "your Team invitation authority cannot be delegated")

/-- The grant the parent asks for, `sourcePartnerId` included. -/
def memberGrant (member : Partner) (input : MemberInput) : B2BAuthority :=
  let enabled := input.b2bEnabled.getD member.b2bEnabled
  ⟨enabled, if enabled then input.b2bMaxDiscountBps.getD member.b2bMaxDiscountBps else 0,
    enabled && input.b2bCanDelegate.getD member.b2bCanDelegate,
    if enabled then some input.parentPartnerId else none⟩

def checkMemberGrant (source member : Partner) (input : MemberInput)
    (grant : B2BAuthority) : Except Refusal Unit := do
  failIf (member.b2bEnabled && member.b2bGrantSourcePartnerId.isNone)
    (.b2bAuthority "a direct platform B2B grant can be changed only by an admin")
  failIf (!grant.enabled &&
      (0 < input.b2bMaxDiscountBps.getD 0 || input.b2bCanDelegate = some true))
    (.b2bAuthority "a revoked B2B grant cannot retain a ceiling or delegation")
  failIf (grant.enabled && !(source.b2bEnabled && source.b2bCanDelegate))
    (.b2bAuthority "your B2B grant cannot be delegated")
  failIf (source.b2bMaxDiscountBps < grant.maximumBps)
    (.b2bAuthority ("B2B maximum discount exceeds your limit of " ++
      toString source.b2bMaxDiscountBps ++ " bps"))

def MemberInput.changesB2B (input : MemberInput) : Bool :=
  input.b2bEnabled.isSome || input.b2bMaxDiscountBps.isSome || input.b2bCanDelegate.isSome

/-- The B2B part of the edit. -/
def changeMemberGrant (db : Sales) (source member : Partner) (input : MemberInput) :
    Except Refusal Sales :=
  if input.changesB2B then do
    let grant := memberGrant member input
    checkMemberGrant source member input grant
    applyPartnerB2BAuthorityCascade db input.memberId
      ⟨some grant.enabled, some grant.maximumBps, some grant.canDelegate, grant.sourcePartnerId⟩
  else .ok db

def accountInviteOf (id : String) (i : Invite) : Bool :=
  decide (i.partnerId = some id) && i.commerceUserId.isSome

/-- `SET parent_override_bps, team_override_max_bps, team_invites_enabled`,
each only when the call gives it. -/
def editedMember (row : Partner) (input : MemberInput) : Partner :=
  { row with
    parentOverrideBps :=
      if input.overrideBps.isSome then input.overrideBps else row.parentOverrideBps
    teamOverrideMaxBps := if input.teamOverrideMaxBps.isSome then
      input.teamOverrideMaxBps else row.teamOverrideMaxBps
    teamInvitesEnabled := input.teamInvitesEnabled.getD row.teamInvitesEnabled }

def lowerIfGiven (db : Sales) (id : String) (current : Nat) :
    Option Nat → Except Refusal Sales
  | none => .ok db
  | some maximumBps => lowerIfBelow db id current maximumBps

def revokeIf (db : Sales) (now : Int) (off : Bool) (id : String) : Sales :=
  if off then revokeInvites db now (accountInviteOf id) else db

def updateDirectTeamMemberAuthority (db : Sales) (now : Int) (input : MemberInput) :
    Except Refusal Sales := do
  let source ← orFail (db.partners.find? input.parentPartnerId) .teamMemberNotFound
  checkSource source input
  let member ← orFail (db.partners.find? input.memberId) .teamMemberNotFound
  failIf (member.parentPartnerId != some input.parentPartnerId ||
    (input.requireProgramEnabled && !member.programEnabled)) .teamMemberNotFound
  let db ← lowerIfGiven db input.memberId member.ceiling input.teamOverrideMaxBps
  let db ← changeMemberGrant db source member input
  let db := revokeIf db now (input.teamInvitesEnabled = some false) input.memberId
  let row ← currentPartner db input.memberId
  writeTeam db input.memberId row (editedMember row input)

structure AdminInput where
  subCommissionBps : Option Nat
  teamOverrideMaxBps : Option Nat
  b2bEnabled : Option Bool
  b2bMaxDiscountBps : Option Nat
  teamInvitesEnabled : Option Bool
  b2bCanDelegate : Option Bool
  status : Option PartnerStatus
  programEnabled : Option Bool

/-- The cascade runs for every given ceiling, also for a higher one. -/
def lowerAlways (db : Sales) (id : String) : Option Nat → Except Refusal Sales
  | none => .ok db
  | some maximumBps => lowerTeamOverrideCeiling db id maximumBps

def changeGrant (db : Sales) (id : String) (input : AdminInput) : Except Refusal Sales :=
  if input.b2bEnabled.isSome || input.b2bMaxDiscountBps.isSome ||
      input.b2bCanDelegate.isSome then
    applyPartnerB2BAuthorityCascade db id
      ⟨input.b2bEnabled, input.b2bMaxDiscountBps, input.b2bCanDelegate, none⟩
  else .ok db

/-- `SET … = COALESCE($n, …)`. -/
def editedPartner (row : Partner) (input : AdminInput) : Partner :=
  { row with
    subCommissionBps := input.subCommissionBps.getD row.subCommissionBps
    teamOverrideMaxBps := if input.teamOverrideMaxBps.isSome then
      input.teamOverrideMaxBps else row.teamOverrideMaxBps
    teamInvitesEnabled := input.teamInvitesEnabled.getD row.teamInvitesEnabled
    programEnabled := input.programEnabled.getD row.programEnabled
    status := input.status.getD row.status }

def editPartner (db : Sales) (now : Int) (id : String) (row : Partner)
    (input : AdminInput) : Except Refusal Sales := do
  failIf (input.programEnabled = some true && row.commerceUserId.isNone)
    (.range "legacy partner cannot be enabled in the Commerce-account program")
  let off := input.programEnabled = some false || input.teamInvitesEnabled = some false ||
    input.status.any (· != .active)
  let db ← lowerAlways (revokeIf db now off id) id input.teamOverrideMaxBps
  let db ← changeGrant db id input
  let row ← currentPartner db id
  writeTeam db id row (editedPartner row input)

/-- `updatePartnerAdmin`; an unknown partner is answered with false. -/
def updatePartnerAdmin (db : Sales) (now : Int) (id : String) (input : AdminInput) :
    Except Refusal Sales :=
  match db.partners.find? id with
  | none => .ok db
  | some row => editPartner db now id row input

/-! ## Invitations without an account -/

structure InviteInput where
  partnerId : Option String
  subCommissionBps : Option Nat
  teamOverrideMaxBps : Option Nat
  parentOverrideBps : Option Nat
  b2bEnabled : Bool
  b2bMaxDiscountBps : Option Nat
  teamInvitesEnabled : Option Bool
  b2bCanDelegate : Option Bool
  expiresAt : Int

def createPartnerInvite (db : Sales) (newId : String) (input : InviteInput) :
    Except Refusal Sales :=
  insertInvite db newId {
    partnerId := input.partnerId
    commerceUserId := none
    subCommissionBps := input.subCommissionBps
    teamOverrideMaxBps := input.teamOverrideMaxBps
    parentOverrideBps := input.parentOverrideBps
    teamInvitesEnabled := input.teamInvitesEnabled.getD true
    b2bEnabled := input.b2bEnabled
    b2bMaxDiscountBps := if input.b2bEnabled then input.b2bMaxDiscountBps.getD 0 else 0
    b2bCanDelegate := input.b2bEnabled && input.b2bCanDelegate.getD false
    expiresAt := some input.expiresAt
    consumedAt := none
    revokedAt := none }

/-! ## The calls as one family -/

inductive Call where
  | onboardCommercePartner (now : Int) (newId commerceUserId : String)
      (defaultSubCommissionBps : Nat) (authority : AuthorityInput)
  | createCommerceTeamInvite (now : Int) (newId : String) (input : TeamInviteInput)
  | resolveCommercePartnerMembership (now : Int) (newId commerceUserId : String)
      (activate : Bool)
  | updateDirectTeamMemberAuthority (now : Int) (input : MemberInput)
  | updatePartnerAdmin (now : Int) (id : String) (input : AdminInput)
  | createPartnerInvite (newId : String) (input : InviteInput)

def Call.apply (db : Sales) : Call → Except Refusal Sales
  | .onboardCommercePartner now newId user sub authority =>
    Team.onboardCommercePartner db now newId user sub authority
  | .createCommerceTeamInvite now newId input =>
    Team.createCommerceTeamInvite db now newId input
  | .resolveCommercePartnerMembership now newId user activate =>
    Team.resolveCommercePartnerMembership db now newId user activate
  | .updateDirectTeamMemberAuthority now input =>
    Team.updateDirectTeamMemberAuthority db now input
  | .updatePartnerAdmin now id input => Team.updatePartnerAdmin db now id input
  | .createPartnerInvite newId input => Team.createPartnerInvite db newId input

def Sales.exec (db : Sales) (call : Call) : Sales :=
  match call.apply db with
  | .ok db' => db'
  | .error _ => db

end ApiToken.Team
