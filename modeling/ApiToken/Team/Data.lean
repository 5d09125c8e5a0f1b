import ApiToken.Lib.Fallible
import ApiToken.Lib.Table

/-!
# Partners, invitations and their guards

The sales database keeps a forest of partners. Each row carries what the
partner may hand on: the team override ceiling, where null stands for 2000
basis points, and the B2B grant, which is either given by the platform or
inherited from the direct parent. Invitations carry the same values for a
partner to be.

The triggers and checks of the schema are part of the model: every write
goes through them, row by row, in the state the write finds. A refusal by
the database is an error of its own.
-/

namespace ApiToken.Team

/-! ## Tables -/

inductive PartnerStatus where
  | active
  | suspended
  | pending
deriving DecidableEq

/-- A row of `partners`. -/
structure Partner where
  commerceUserId : Option String
  programEnabled : Bool
  status : PartnerStatus
  parentPartnerId : Option String
  subCommissionBps : Nat
  teamOverrideMaxBps : Option Nat
  /-- The edge to the parent; null falls back on the parent's
  `sub_commission_bps`. -/
  parentOverrideBps : Option Nat
  teamInvitesEnabled : Bool
  b2bEnabled : Bool
  b2bMaxDiscountBps : Nat
  b2bCanDelegate : Bool
  /-- Null when the platform gave the grant. -/
  b2bGrantSourcePartnerId : Option String
deriving DecidableEq

/-- A row of `partner_invites`. -/
structure Invite where
  /-- Null for a root invitation. -/
  partnerId : Option String
  commerceUserId : Option String
  subCommissionBps : Option Nat
  teamOverrideMaxBps : Option Nat
  parentOverrideBps : Option Nat
  teamInvitesEnabled : Bool
  b2bEnabled : Bool
  b2bMaxDiscountBps : Nat
  b2bCanDelegate : Bool
  expiresAt : Option Int
  consumedAt : Option Int
  revokedAt : Option Int

/-- `consumed_at IS NULL AND revoked_at IS NULL`. -/
def Invite.isOpen (i : Invite) : Bool := i.consumedAt.isNone && i.revokedAt.isNone

structure Sales where
  partners : Table String Partner
  invites : Table String Invite

inductive Refusal where
  | teamMemberNotFound
  | teamOverrideLimit (maximumBps : Nat)
  | teamAuthority (message : String)
  | b2bAuthority (message : String)
  | commerceAuthority (message : String)
  | commerceConflict (message : String)
  | commerceNotFound (message : String)
  | range (message : String)
  /-- A trigger, a `CHECK` or a unique index. -/
  | database (message : String)

/-- `COMMERCE_TEAM_SHARE_MAX_BPS`, and the `2000` of the schema. -/
def commerceTeamShareMaxBps : Nat := 2000

/-- `COALESCE(team_override_max_bps, 2000)`. -/
def Partner.ceiling (p : Partner) : Nat :=
  p.teamOverrideMaxBps.getD commerceTeamShareMaxBps

/-! ## Checks -/

/-- The `CHECK`s on the authority columns, which both tables have. -/
def authorityCheck (teamOverrideMaxBps parentOverrideBps : Option Nat)
    (b2bEnabled : Bool) (b2bMaxDiscountBps : Nat) (b2bCanDelegate : Bool) : Bool :=
  teamOverrideMaxBps.all (· ≤ 2000) && parentOverrideBps.all (· ≤ 2000) &&
    (if b2bEnabled then b2bMaxDiscountBps ≤ 9500 else b2bMaxDiscountBps = 0 && !b2bCanDelegate)

def Partner.check (p : Partner) : Bool :=
  authorityCheck p.teamOverrideMaxBps p.parentOverrideBps p.b2bEnabled
      p.b2bMaxDiscountBps p.b2bCanDelegate &&
    p.subCommissionBps ≤ 10000 && (p.b2bEnabled || p.b2bGrantSourcePartnerId.isNone) &&
    (!p.programEnabled || p.commerceUserId.isSome)

def Invite.check (i : Invite) : Bool :=
  authorityCheck i.teamOverrideMaxBps i.parentOverrideBps i.b2bEnabled
      i.b2bMaxDiscountBps i.b2bCanDelegate &&
    (i.commerceUserId.isSome || i.revokedAt.isNone)

/-! ## Triggers -/

/-- Does a value the row sets exceed the ceiling? -/
def exceeds (maximumBps : Nat) (bps : Option Nat) : Bool := bps.any (maximumBps < ·)

def enforcePartnerTeamOverrideBounds (db : Sales) (new : Partner) :
    Except Refusal Unit :=
  match new.parentPartnerId with
  | none => failIf new.parentOverrideBps.isSome
      (.database "root partner cannot have a parent override")
  | some parentId =>
    failIf ((db.partners.find? parentId).all (fun parent =>
        exceeds parent.ceiling new.teamOverrideMaxBps ||
          exceeds parent.ceiling new.parentOverrideBps))
      (.database "partner team override exceeds the parent ceiling")

def enforcePartnerInviteTeamOverrideBounds (db : Sales) (new : Invite) :
    Except Refusal Unit :=
  match new.partnerId with
  | none => failIf new.parentOverrideBps.isSome
      (.database "root invite cannot have a parent override")
  | some parentId =>
    failIf ((db.partners.find? parentId).all (fun parent =>
        exceeds parent.ceiling new.teamOverrideMaxBps ||
          exceeds parent.ceiling new.parentOverrideBps))
      (.database "partner invite override exceeds the inviter ceiling")

/-- `enforce_partner_team_override_ceiling_update`, on a row that is updated. -/
def enforcePartnerTeamOverrideCeilingUpdate (db : Sales) (id : String)
    (old new : Partner) : Except Refusal Unit :=
  failIf (new.ceiling < old.ceiling &&
      (db.partners.any (fun _ child => child.parentPartnerId = some id &&
          (exceeds new.ceiling child.teamOverrideMaxBps ||
            exceeds new.ceiling child.parentOverrideBps)) ||
        db.invites.any (fun _ invite => invite.partnerId = some id && invite.isOpen &&
          (exceeds new.ceiling invite.teamOverrideMaxBps ||
            exceeds new.ceiling invite.parentOverrideBps))))
    (.database "team override ceiling has dependent grants above the requested value")

def Partner.delegates (p : Partner) (maximumBps : Nat) : Bool :=
  p.b2bEnabled && p.b2bCanDelegate && maximumBps ≤ p.b2bMaxDiscountBps

def enforcePartnerB2BAuthorityBounds (db : Sales) (new : Partner) :
    Except Refusal Unit :=
  match new.b2bEnabled, new.b2bGrantSourcePartnerId with
  | true, some sourceId => do
      failIf (new.parentPartnerId != some sourceId)
        (.database "delegated B2B grant source must be the direct parent")
      failIf (!(db.partners.find? sourceId).any (·.delegates new.b2bMaxDiscountBps))
        (.database "delegated B2B authority exceeds the direct parent grant")
  | _, _ => .ok ()

def enforcePartnerInviteB2BAuthorityBounds (db : Sales) (new : Invite) :
    Except Refusal Unit :=
  match new.b2bEnabled, new.partnerId with
  | true, some inviterId =>
    failIf (!(db.partners.find? inviterId).any (·.delegates new.b2bMaxDiscountBps))
      (.database "partner invite B2B authority exceeds the inviter grant")
  | _, _ => .ok ()

/-- `enforce_partner_b2b_authority_narrowing`, on a row that is updated. -/
def enforcePartnerB2BAuthorityNarrowing (db : Sales) (id : String) (old new : Partner) :
    Except Refusal Unit :=
  failIf (!(new.b2bEnabled && new.b2bCanDelegate && old.b2bEnabled &&
        old.b2bCanDelegate && old.b2bMaxDiscountBps ≤ new.b2bMaxDiscountBps) &&
      (db.partners.any (fun _ child => child.b2bGrantSourcePartnerId = some id &&
          child.b2bEnabled && !new.delegates child.b2bMaxDiscountBps) ||
        db.invites.any (fun _ invite => invite.partnerId = some id && invite.isOpen &&
          invite.b2bEnabled && !new.delegates invite.b2bMaxDiscountBps)))
    (.database "B2B authority has inherited grants above the requested value")

/-! ## Writes -/

def checkPartner (new : Partner) : Except Refusal Unit :=
  failIf (!new.check) (.database "partners check")

def checkInvite (new : Invite) : Except Refusal Unit :=
  failIf (!new.check) (.database "partner_invites check")

/-- `UPDATE` of one row that sets `team_override_max_bps`. -/
def writeTeam (db : Sales) (id : String) (old new : Partner) : Except Refusal Sales := do
  enforcePartnerTeamOverrideBounds db new
  enforcePartnerTeamOverrideCeilingUpdate db id old new
  checkPartner new
  return { db with partners := db.partners.put id new }

/-- `UPDATE` of one row that sets the B2B columns. -/
def writeB2B (db : Sales) (id : String) (old new : Partner) : Except Refusal Sales := do
  enforcePartnerB2BAuthorityBounds db new
  enforcePartnerB2BAuthorityNarrowing db id old new
  checkPartner new
  return { db with partners := db.partners.put id new }

/-- What `UPDATE … SET parent_override_bps` fires for one row. -/
def guardEdge (db : Sales) (new : Partner) : Except Refusal Unit := do
  enforcePartnerTeamOverrideBounds db new
  checkPartner new

/-- `UPDATE partners` of many rows: the triggers read the parents' rows, which
the statement does not touch. -/
def updatePartners (db : Sales) (sel : Partner → Bool) (f : Partner → Partner)
    (guard : Sales → Partner → Except Refusal Unit) : Except Refusal Sales := do
  db.partners.rows.forM (fun x => if sel x.2 then guard db (f x.2) else .ok ())
  return { db with partners := db.partners.mapRows (fun _ p => if sel p then f p else p) }

/-- `UPDATE partner_invites` of many rows. -/
def updateInvites (db : Sales) (sel : Invite → Bool) (f : Invite → Invite)
    (guard : Sales → Invite → Except Refusal Unit) : Except Refusal Sales := do
  db.invites.rows.forM (fun x => if sel x.2 then guard db (f x.2) else .ok ())
  return { db with invites := db.invites.mapRows (fun _ i => if sel i then f i else i) }

/-- What `UPDATE partner_invites SET parent_override_bps, team_override_max_bps`
fires for one row. -/
def guardInviteTeam (db : Sales) (new : Invite) : Except Refusal Unit := do
  enforcePartnerInviteTeamOverrideBounds db new
  checkInvite new

/-- What an `UPDATE` of the B2B columns of an invitation fires. -/
def guardInviteB2B (db : Sales) (new : Invite) : Except Refusal Unit := do
  enforcePartnerInviteB2BAuthorityBounds db new
  checkInvite new

/-- `SET revoked_at = now()` on the open invitations the predicate selects;
no trigger refuses it. -/
def revokeInvites (db : Sales) (now : Int) (sel : Invite → Bool) : Sales :=
  { db with invites := db.invites.mapRows (fun _ i =>
    if sel i && i.isOpen then { i with revokedAt := some now } else i) }

/-- `INSERT INTO partners`. -/
def insertPartner (db : Sales) (id : String) (new : Partner) : Except Refusal Sales := do
  enforcePartnerB2BAuthorityBounds db new
  enforcePartnerTeamOverrideBounds db new
  checkPartner new
  failIf ((db.partners.find? id).isSome ||
      db.partners.any (fun _ p => p.commerceUserId.isSome &&
        p.commerceUserId = new.commerceUserId))
    (.database "partners_commerce_user_uidx")
  return { db with partners := db.partners.put id new }

/-- `INSERT INTO partner_invites`. -/
def insertInvite (db : Sales) (id : String) (new : Invite) : Except Refusal Sales := do
  enforcePartnerInviteB2BAuthorityBounds db new
  enforcePartnerInviteTeamOverrideBounds db new
  checkInvite new
  failIf ((db.invites.find? id).isSome ||
      db.invites.any (fun _ i => i.isOpen && i.commerceUserId.isSome &&
        i.commerceUserId = new.commerceUserId))
    (.database "partner_invites_open_commerce_uidx")
  return { db with invites := db.invites.put id new }

end ApiToken.Team
