import ApiToken.Lib.Descent
import ApiToken.Team.Data

/-!
# The two cascades

`lowerTeamOverrideCeiling` caps a partner and everyone below, deepest level
first; `applyPartnerB2BAuthorityCascade` computes the new grant of everyone
who inherits, from the top, and writes the rows from the bottom. Both run
inside a caller's transaction, and every row they write passes the triggers
in the state the row finds.
-/

namespace ApiToken.Team

/-! ## The team ceiling -/

/-- `LEAST(COALESCE(parent_override_bps, sub_commission_bps), cap)`. -/
def cappedEdge (subCommissionBps cap : Nat) (edge : Option Nat) : Option Nat :=
  some (min (edge.getD subCommissionBps) cap)

def capInvite (subCommissionBps cap : Nat) (i : Invite) : Invite :=
  { i with
    parentOverrideBps := cappedEdge subCommissionBps cap i.parentOverrideBps
    teamOverrideMaxBps := some (min (i.teamOverrideMaxBps.getD commerceTeamShareMaxBps) cap) }

def capEdge (subCommissionBps cap : Nat) (p : Partner) : Partner :=
  { p with parentOverrideBps := cappedEdge subCommissionBps cap p.parentOverrideBps }

def openOf (id : String) (i : Invite) : Bool :=
  decide (i.partnerId = some id) && i.isOpen

def childOf (id : String) (p : Partner) : Bool := decide (p.parentPartnerId = some id)

/-- `UPDATE partners SET team_override_max_bps = cap WHERE … <> cap`. -/
def lowerCeiling (db : Sales) (id : String) (cap : Nat) : Except Refusal Sales :=
  match db.partners.find? id with
  | none => .ok db
  | some row =>
    if row.ceiling = cap then .ok db
    else writeTeam db id row { row with teamOverrideMaxBps := some cap }

def lowerRow (db : Sales) (id : String) (subCommissionBps cap : Nat) :
    Except Refusal Sales := do
  let db ← updateInvites db (openOf id) (capInvite subCommissionBps cap) guardInviteTeam
  let db ← updatePartners db (childOf id) (capEdge subCommissionBps cap) guardEdge
  lowerCeiling db id cap

/-- `Math.min(row.effective_max_bps, maximumBps)`. -/
def Partner.cap (p : Partner) (maximumBps : Nat) : Nat := min p.ceiling maximumBps

/-- One round of the loop, on the row as the query read it. -/
def lowerStep (tree : Table String Partner) (maximumBps : Nat) (db : Sales)
    (id : String) : Except Refusal Sales :=
  match tree.find? id with
  | none => .ok db
  | some row => lowerRow db id row.subCommissionBps (row.cap maximumBps)

def lowerTeamOverrideCeiling (db : Sales) (partnerId : String) (maximumBps : Nat) :
    Except Refusal Sales :=
  (Descent.leafFirst Partner.parentPartnerId db.partners partnerId).foldlM
    (lowerStep db.partners maximumBps) db

/-! ## The B2B grant -/

structure B2BAuthority where
  enabled : Bool
  maximumBps : Nat
  canDelegate : Bool
  sourcePartnerId : Option String
deriving DecidableEq

/-- No grant. -/
def B2BAuthority.revoked : B2BAuthority := ⟨false, 0, false, none⟩

def Partner.b2b (p : Partner) : B2BAuthority :=
  ⟨p.b2bEnabled, p.b2bMaxDiscountBps, p.b2bCanDelegate, p.b2bGrantSourcePartnerId⟩

def Partner.withB2B (p : Partner) (a : B2BAuthority) : Partner :=
  { p with b2bEnabled := a.enabled, b2bMaxDiscountBps := a.maximumBps,
           b2bCanDelegate := a.canDelegate, b2bGrantSourcePartnerId := a.sourcePartnerId }

def normalizedAuthority (a : B2BAuthority) : Except Refusal B2BAuthority :=
  if !a.enabled then .ok .revoked
  else if 9500 < a.maximumBps then
    .error (.b2bAuthority "B2B maximum discount must be between 0 and 9500 bps")
  else .ok a

def inheritedAuthority (row : Partner) (source : Option B2BAuthority) :
    Except Refusal B2BAuthority :=
  match source with
  | none => normalizedAuthority .revoked
  | some source =>
    if source.enabled && source.canDelegate then
      normalizedAuthority ⟨row.b2bEnabled,
        min row.b2bMaxDiscountBps source.maximumBps, row.b2bCanDelegate,
        row.b2bGrantSourcePartnerId⟩
    else normalizedAuthority .revoked

/-- One round of the loop over `tree.rows.slice(1)`. -/
def targetStep (tree : Table String Partner) (targets : Table String B2BAuthority)
    (id : String) : Except Refusal (Table String B2BAuthority) :=
  match tree.find? id with
  | none => .ok targets
  | some row => do
      let target ← inheritedAuthority row (row.b2bGrantSourcePartnerId.bind targets.find?)
      return targets.put id target

/-- `UPDATE partner_invites SET b2b_max_discount_bps = LEAST(…)`. -/
def clampInvite (maximumBps : Nat) (i : Invite) : Invite :=
  { i with b2bMaxDiscountBps := min i.b2bMaxDiscountBps maximumBps }

/-- `SET b2b_enabled = false, …`. -/
def revokeInviteB2B (i : Invite) : Invite :=
  { i with b2bEnabled := false, b2bMaxDiscountBps := 0, b2bCanDelegate := false }

/-- What the new grant of the inviter leaves of an invitation. -/
def B2BAuthority.narrowInvite (a : B2BAuthority) (i : Invite) : Invite :=
  if a.enabled && a.canDelegate then clampInvite a.maximumBps i else revokeInviteB2B i

def writeGrant (db : Sales) (id : String) (before : B2BAuthority)
    (target : B2BAuthority) : Except Refusal Sales :=
  match db.partners.find? id with
  | none => .ok db
  | some row =>
    if before = target then .ok db
    else writeB2B db id row (row.withB2B target)

/-- One round of the second loop. -/
def grantStep (tree : Table String Partner) (targets : Table String B2BAuthority)
    (db : Sales) (id : String) : Except Refusal Sales :=
  match tree.find? id, targets.find? id with
  | some row, some target => do
      let db ← updateInvites db (fun i => openOf id i && i.b2bEnabled)
        target.narrowInvite guardInviteB2B
      writeGrant db id row.b2b target
  | _, _ => .ok db

/-- The decision of a caller; an absent field keeps the root's value. -/
structure GrantInput where
  enabled : Option Bool
  maximumBps : Option Nat
  canDelegate : Option Bool
  sourcePartnerId : Option String

def rootTarget (root : Partner) (input : GrantInput) : Except Refusal B2BAuthority := do
  let enabled := input.enabled.getD root.b2bEnabled
  failIf (!enabled && (0 < input.maximumBps.getD 0 || input.canDelegate = some true))
    (.b2bAuthority "a revoked B2B grant cannot retain a ceiling or delegation")
  normalizedAuthority ⟨enabled,
    if enabled then input.maximumBps.getD root.b2bMaxDiscountBps else 0,
    enabled && input.canDelegate.getD root.b2bCanDelegate, input.sourcePartnerId⟩

def applyPartnerB2BAuthorityCascade (db : Sales) (partnerId : String)
    (input : GrantInput) : Except Refusal Sales := do
  let root ← orFail (db.partners.find? partnerId) .teamMemberNotFound
  let target ← rootTarget root input
  let heirs := (Descent.rootFirst Partner.b2bGrantSourcePartnerId db.partners partnerId).tail
  let targets ← heirs.foldlM (targetStep db.partners) (Table.empty.put partnerId target)
  (Descent.leafFirst Partner.b2bGrantSourcePartnerId db.partners partnerId).foldlM
    (grantStep db.partners targets) db

end ApiToken.Team
