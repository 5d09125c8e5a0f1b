import ApiToken.Registry.Steps

/-!
# Capacity leases

`pool_state.inflight` counts the active capacity leases of a subscription.
`acquire_capacity` and `release_capacity` change leases and counter in one
transaction each, but the counter is written statements after the leases,
and both lower it with `GREATEST(0, …)`, which would hide a mismatch.

An open transaction is a `CapacityTx`: the leases it has marked are locked
until it ends and nobody else sees the marks. Once it has reached the row
of `pool_state` the rest of it is one event. `Pool.Counted` is the invariant.
-/

namespace ApiToken.Registry

variable {id : String} {pools' : Table String PoolState} {tx : CapacityTx} {p' : Pool}
  {req : AcquireRequest} {expired : List String}

/-- `pool_state`, keyed by email: the columns admission reads, the counter
and the version that `save_pool_state` compares. -/
structure PoolState where
  coolingUntil : Int := 0
  util5 : Float := 0
  util7 : Float := 0
  reset5 : Int := 0
  reset7 : Int := 0
  inflight : Int := 0
  version : Int := 0

/-- `PoolStateRow`, less the columns that no statement here reads back. -/
structure PoolStateRow where
  email : String
  coolingUntil : Int
  util5h : Float
  util7d : Float
  reset5h : Int
  reset7d : Int
  version : Int

/-- The `CapacityLease` that `acquire_capacity` returns. -/
structure CapacityGrant where
  leaseId : String
  requestId : String
  subscriptionEmail : String
  leaseUntil : Int

/-- The arguments of `acquire_capacity` and the time it read. -/
structure AcquireRequest where
  ts : Int
  owner : Owner
  leaseId : String
  requestId : String
  email : String
  leaseSecs : Int
  utilCap : Float

/-- An open transaction. -/
inductive CapacityTx where
  /-- `acquire_capacity` after its owner check. -/
  | asserted (req : AcquireRequest)
  /-- `acquire_capacity` in its expiry statement, which has marked these
  leases. -/
  | expiring (req : AcquireRequest) (expired : List String)
  /-- `release_capacity` after its update. -/
  | released (ts : Int) (leaseId email : String)

/-- The subscription the transaction is about. -/
def CapacityTx.email : CapacityTx → String
  | .asserted req => req.email
  | .expiring req _ => req.email
  | .released _ _ email => email

def CapacityTx.locked : CapacityTx → List String
  | .asserted _ => []
  | .expiring _ expired => expired
  | .released _ leaseId _ => [leaseId]

structure Pool where
  store : Store
  subs : List String
  poolState : Table String PoolState
  sessions : Table Nat CapacityTx

def Pool.isLocked (p : Pool) (leaseId : String) : Bool :=
  p.sessions.any (fun _ tx => tx.locked.contains leaseId)

/-- The end of a transaction. -/
def Pool.close (p : Pool) (sid : Nat) : Pool :=
  { p with sessions := p.sessions.delete (fun sid' _ => sid' == sid) }

/-! ## The statements -/

/-- `INSERT INTO pool_state(email) VALUES($1) ON CONFLICT DO NOTHING`. -/
def insertPoolState (pools : Table String PoolState) (email : String) :
    Table String PoolState :=
  match pools.find? email with
  | some _ => pools
  | none => pools.put email {}

/-- `save_pool_state`, one row. -/
def savePoolRow (pools : Table String PoolState) (row : PoolStateRow) :
    Except Error (Table String PoolState) := do
  let pools := insertPoolState pools row.email
  match (pools.find? row.email).filter (·.version == row.version) with
  | none =>
    .error (.bail ("pool-state CAS conflict for " ++ row.email
      ++ " at version " ++ toString row.version))
  | some s =>
    return pools.put row.email
      { s with
        coolingUntil := row.coolingUntil, util5 := row.util5h,
        util7 := row.util7d, reset5 := row.reset5h, reset7 := row.reset7d,
        version := s.version + 1 }

def savePoolState (p : Pool) (ts : Int) (owner : Owner)
    (rows : List PoolStateRow) : Except Error Pool := do
  assertOwner p.store owner ts
  let pools ← rows.foldlM savePoolRow p.poolState
  return { p with poolState := pools }

/-- The lookup of `acquire_capacity`: a replay of the call that holds the
lease gets it again. -/
def lookupLease (s : Store) (req : AcquireRequest) :
    Except Error (Option CapacityGrant) :=
  match s.capacityLeases.find? req.leaseId with
  | none => .ok none
  | some l => do
      bailIf (!(l.requestId == req.requestId
          && l.subscriptionEmail == req.email && l.state == .active
          && l.ownerInstance == req.owner.instanceId
          && l.ownerEpoch == req.owner.epoch))
        "capacity lease ID belongs to another operation"
      return some
        { leaseId := req.leaseId, requestId := req.requestId,
          subscriptionEmail := req.email, leaseUntil := l.leaseUntil }

/-- The predicate of the expiry statement. -/
def CapacityLease.expiredAt (l : CapacityLease) (email : String) (ts : Int) :
    Bool :=
  l.subscriptionEmail == email && l.state == .active && decide (l.leaseUntil < ts)

/-- `SET state = …, released_ts = …` on the given leases. -/
def markLeases (leases : Table String CapacityLease) (state : LeaseState)
    (ts : Int) : List String → Table String CapacityLease
  | [] => leases
  | id :: ids =>
    match leases.find? id with
    | none => markLeases leases state ts ids
    | some l =>
      markLeases (leases.put id { l with state, releasedTs := some ts }) state ts ids

/-- `UPDATE pool_state SET inflight = GREATEST(0, inflight - n)`. -/
def lowerInflight (pools : Table String PoolState) (email : String)
    (n : Int) : Table String PoolState :=
  match pools.find? email with
  | none => pools
  | some s => pools.put email { s with inflight := max 0 (s.inflight - n) }

/-- The cooling and utilisation gate: a window that has been reset counts
as unused. -/
def PoolState.refuses (s : PoolState) (ts : Int) (utilCap : Float) : Bool :=
  let effective5 := if 0 < s.reset5 ∧ s.reset5 ≤ ts then 0.0 else s.util5
  let effective7 := if 0 < s.reset7 ∧ s.reset7 ≤ ts then 0.0 else s.util7
  decide (ts < s.coolingUntil) || decide (utilCap ≤ effective5)
    || decide (utilCap ≤ effective7)

/-- The unique keys and the foreign key of `capacity_leases`. -/
def insertLease (subs : List String) (leases : Table String CapacityLease)
    (req : AcquireRequest) : Except Error (Table String CapacityLease) := do
  failIf ((leases.find? req.leaseId).isSome
    || leases.any (fun _ l => l.requestId == req.requestId
      && l.subscriptionEmail == req.email)) (.sql "23505")
  failIf (!subs.contains req.email) (.sql "23503")
  return leases.put req.leaseId
    { requestId := req.requestId, subscriptionEmail := req.email,
      ownerInstance := req.owner.instanceId, ownerEpoch := req.owner.epoch,
      state := .active, leaseUntil := req.ts + max req.leaseSecs 1,
      createdTs := req.ts, releasedTs := none }

/-- `acquire_capacity` after its expiry statement. `none` is the rollback
of a subscription that has no pool row or is not admitted. -/
def finishAcquire (p : Pool) (req : AcquireRequest) (expired : List String) :
    Except Error (Option (CapacityGrant × Pool)) := do
  let leases := markLeases p.store.capacityLeases .expired req.ts expired
  let pools :=
    if 0 < expired.length then
      lowerInflight p.poolState req.email expired.length
    else p.poolState
  match pools.find? req.email with
  | none => return none
  | some s =>
    if s.refuses req.ts req.utilCap then return none
    else do
      let leases ← insertLease p.subs leases req
      let inflight ← bigint (s.inflight + 1)
      return some
        ({ leaseId := req.leaseId, requestId := req.requestId,
           subscriptionEmail := req.email,
           leaseUntil := req.ts + max req.leaseSecs 1 },
         { p with
           store := { p.store with capacityLeases := leases }
           poolState := pools.put req.email { s with inflight } })

/-- The update of `release_capacity`: the email of the lease it matches. -/
def matchRelease (s : Store) (owner : Owner) (leaseId : String) :
    Option String :=
  ((s.capacityLeases.find? leaseId).filter (fun l =>
    l.ownerInstance == owner.instanceId && l.ownerEpoch == owner.epoch
      && l.state == .active)).map (·.subscriptionEmail)

/-- `release_capacity` after its update. -/
def finishRelease (p : Pool) (ts : Int) (leaseId email : String) : Pool :=
  { p with
    store := { p.store with
      capacityLeases := markLeases p.store.capacityLeases .released ts [leaseId] }
    poolState := lowerInflight p.poolState email 1 }

/-! ## The machine -/

/-- One statement of a transaction on the leases, or a whole call of one of
the others. -/
inductive CapacityOp where
  | claimInstance (ts : Int) (instanceId : String) (ttlSecs : Int)
  | heartbeatInstance (ts : Int) (owner : Owner) (ttlSecs : Int)
  /-- `add`, `add_file`. -/
  | addSub (email : String)
  | savePoolState (ts : Int) (owner : Owner) (rows : List PoolStateRow)
  | renewStreamLeases (ts : Int) (owner : Owner)
      (requestId capacityLeaseId : Option String) (leaseSecs : Int)
  | maintenancePrune (now olderThanTs : Int) (billed : Nat)
  /-- `acquire_capacity` up to its owner check. -/
  | acquireCapacity (sid : Nat) (req : AcquireRequest)
  | lookup (sid : Nat)
  /-- Its expiry statement reaches one more row. -/
  | expire (sid : Nat) (leaseId : String)
  /-- `release_capacity` up to its update. -/
  | releaseCapacity (sid : Nat) (ts : Int) (owner : Owner) (leaseId : String)
  /-- The rest of either, from `pool_state` to the commit. -/
  | finish (sid : Nat)
  /-- A rollback at any point: an error, a timeout, a crash. -/
  | abort (sid : Nat)

/-- The rest of an open transaction. -/
def Pool.finish (p : Pool) (sid : Nat) : CapacityTx → Pool
  | .asserted _ => p
  | .expiring req expired =>
    match finishAcquire p req expired with
    | .ok (some (_, p')) => p'.close sid
    | .ok none | .error _ => p.close sid
  | .released ts leaseId email => (finishRelease p ts leaseId email).close sid

def Pool.lookup (p : Pool) (sid : Nat) (req : AcquireRequest) : Pool :=
  match lookupLease p.store req with
  | .ok none => { p with sessions := p.sessions.put sid (.expiring req []) }
  | .ok (some _) | .error _ => p.close sid

/-- One event. A statement that meets a locked row waits: nothing happens
until it is issued again. -/
def Pool.exec (p : Pool) : CapacityOp → Pool
  | .claimInstance ts instanceId ttl =>
    { p with store := (Registry.claimInstance p.store ts instanceId ttl).2 }
  | .heartbeatInstance ts owner ttl =>
    { p with store := (Registry.heartbeatInstance p.store ts owner ttl).2 }
  | .addSub email =>
    { p with
      subs := if p.subs.contains email then p.subs else email :: p.subs
      poolState := insertPoolState p.poolState email }
  | .savePoolState ts owner rows =>
    match Registry.savePoolState p ts owner rows with
    | .ok p' => p'
    | .error _ => p
  | .renewStreamLeases ts owner requestId capacityLeaseId leaseSecs =>
    if capacityLeaseId.any p.isLocked then p
    else
      { p with
        store := committed p.store (Registry.renewStreamLeases p.store ts
          owner requestId capacityLeaseId leaseSecs) }
  | .maintenancePrune now olderThan billed =>
    { p with
      store := committed p.store (Registry.maintenancePrune p.store now olderThan billed) }
  | .acquireCapacity sid req =>
    match p.sessions.find? sid, assertOwner p.store req.owner req.ts with
    | none, .ok () => { p with sessions := p.sessions.put sid (.asserted req) }
    | _, _ => p
  | .lookup sid =>
    match p.sessions.find? sid with
    | some (.asserted req) => p.lookup sid req
    | _ => p
  | .expire sid leaseId =>
    match p.sessions.find? sid, p.store.capacityLeases.find? leaseId with
    | some (.expiring req expired), some l =>
      if l.expiredAt req.email req.ts && !p.isLocked leaseId then
        { p with
          sessions := p.sessions.put sid (.expiring req (leaseId :: expired)) }
      else p
    | _, _ => p
  | .releaseCapacity sid ts owner leaseId =>
    match p.sessions.find? sid, matchRelease p.store owner leaseId with
    | none, some email =>
      if p.isLocked leaseId then p
      else
        { p with
          sessions := p.sessions.put sid (.released ts leaseId email) }
    | _, _ => p
  | .finish sid =>
    match p.sessions.find? sid with
    | some tx => p.finish sid tx
    | none => p
  | .abort sid => p.close sid

def Pool.fresh (store : Store) : Pool :=
  { store := { store with capacityLeases := .empty }, subs := []
    poolState := .empty, sessions := .empty }

/-! ## The invariant -/

def activeWeight (email : String) (_ : String) (l : CapacityLease) : Int :=
  if l.state = .active ∧ l.subscriptionEmail = email then 1 else 0

def activeLeases (leases : Table String CapacityLease) (email : String) : Int :=
  leases.sumBy (activeWeight email)

/-- `pool_inflight`, with no row read as zero. -/
def inflight (pools : Table String PoolState) (email : String) : Int :=
  (pools.find? email).elim 0 (·.inflight)

def ActiveLease (leases : Table String CapacityLease) (email leaseId : String) :
    Prop :=
  ∃ l, leases.find? leaseId = some l ∧ l.state = .active ∧ l.subscriptionEmail = email

/-- The counter is right, and the leases an open transaction has marked are
active, different and locked by it alone. -/
structure Pool.Counted (p : Pool) : Prop where
  counter : ∀ email,
    inflight p.poolState email = activeLeases p.store.capacityLeases email
  nodup : ∀ sid tx, p.sessions.find? sid = some tx → tx.locked.Nodup
  active : ∀ sid tx, p.sessions.find? sid = some tx →
    ∀ id ∈ tx.locked, ActiveLease p.store.capacityLeases tx.email id
  apart : ∀ sid tx sid' tx', p.sessions.find? sid = some tx →
    p.sessions.find? sid' = some tx' →
    ∀ id ∈ tx.locked, id ∈ tx'.locked → sid = sid'

theorem activeWeight_nonneg (email id : String) (l : CapacityLease) :
    0 ≤ activeWeight email id l := by
  unfold activeWeight
  split <;> omega

theorem activeLeases_nonneg (leases : Table String CapacityLease)
    (email : String) : 0 ≤ activeLeases leases email :=
  Table.sumBy_nonneg fun k r _ => activeWeight_nonneg email k r

/-! ## Marking leases -/

section Mark

variable {leases : Table String CapacityLease} {state : LeaseState} {ts : Int}
  {email : String} {ids : List String}

theorem find?_markLeases_other (h : id ∉ ids) :
    (markLeases leases state ts ids).find? id = leases.find? id := by
  induction ids generalizing leases with
  | nil => rfl
  | cons _ _ ih =>
    simp only [mem_cons, not_or] at h
    simp only [markLeases]
    split
    · exact ih h.2
    · rw [ih h.2, find?_put_ne _ _ (Ne.symm h.1)]

theorem activeLeases_markLeases (hstate : state ≠ .active)
    (hnodup : ids.Nodup) (hactive : ∀ id ∈ ids, ActiveLease leases email id)
    (email' : String) :
    activeLeases (markLeases leases state ts ids) email'
      = activeLeases leases email' - if email = email' then (ids.length : Int) else 0 := by
  induction ids generalizing leases with
  | nil => simp [markLeases]
  | cons a rest ih =>
    rw [nodup_cons] at hnodup
    obtain ⟨l, hl, hlactive, rfl⟩ := hactive a (mem_cons_self ..)
    have hrest : ∀ id ∈ rest, ActiveLease
        (leases.put a { l with state, releasedTs := some ts })
        l.subscriptionEmail id := by
      intro id hid
      obtain ⟨l', hl', h⟩ := hactive id (mem_cons_of_mem _ hid)
      have hne : a ≠ id := fun heq => hnodup.1 (heq ▸ hid)
      exact ⟨l', by rw [find?_put_ne _ _ hne, hl'], h⟩
    have hput : activeLeases (leases.put a { l with state, releasedTs := some ts })
        email' = activeLeases leases email' - if l.subscriptionEmail = email' then 1 else 0 := by
      unfold activeLeases
      rw [sumBy_put _ _ hl]
      simp [activeWeight, hstate, hlactive]
    simp only [markLeases, hl]
    rw [ih hnodup.2 hrest, hput]
    simp only [length_cons]
    split <;> omega

theorem length_le_activeLeases (hnodup : ids.Nodup)
    (hactive : ∀ id ∈ ids, ActiveLease leases email id) :
    (ids.length : Int) ≤ activeLeases leases email := by
  have hstate : LeaseState.released ≠ .active := by decide
  have hmark : activeLeases (markLeases leases .released 0 ids) email
      = activeLeases leases email - if email = email then (ids.length : Int) else 0 :=
    activeLeases_markLeases hstate hnodup hactive email
  have hleft := activeLeases_nonneg (markLeases leases .released 0 ids) email
  rw [if_pos rfl] at hmark
  omega

end Mark

/-! ## Lowering the counter -/

section Lower

variable {pools : Table String PoolState} {email : String}

theorem inflight_lowerInflight {n : Int} (h0 : 0 < n)
    (h : n ≤ inflight pools email) (email' : String) :
    inflight (lowerInflight pools email n) email'
      = inflight pools email' - if email = email' then n else 0 := by
  unfold lowerInflight
  cases hfind : pools.find? email with
  | none =>
    simp only [inflight, hfind, elim_none] at h
    omega
  | some =>
    simp only [inflight, hfind, elim_some] at h
    by_cases he : email = email'
    · subst he
      simp only [inflight, find?_put_self, hfind, elim_some, if_true]
      omega
    · simp [inflight, find?_put_ne _ _ he, he]

theorem inflight_insertPoolState (email' : String) :
    inflight (insertPoolState pools email) email' = inflight pools email' := by
  unfold insertPoolState
  split
  · rfl
  · rename_i hnone
    by_cases he : email = email'
    · subst he
      simp [inflight, hnone]
    · simp [inflight, find?_put_ne _ _ he]

theorem inflight_savePoolRow {row : PoolStateRow} (h : savePoolRow pools row = .ok pools')
    (email' : String) : inflight pools' email' = inflight pools email' := by
  have hinsert : inflight (insertPoolState pools row.email) email'
      = inflight pools email' := inflight_insertPoolState email'
  rw [← hinsert]
  simp only [savePoolRow] at h
  split at h
  · cases h
  · rename_i s hs
    rw [filter_eq_some_iff] at hs
    cases h
    by_cases he : row.email = email'
    · subst he
      simp [inflight, hs.1]
    · simp [inflight, find?_put_ne _ _ he]

theorem inflight_savePoolRows {rows : List PoolStateRow}
    (h : rows.foldlM savePoolRow pools = .ok pools') (email' : String) :
    inflight pools' email' = inflight pools email' := by
  induction rows generalizing pools with
  | nil =>
    cases h
    rfl
  | cons _ _ ih =>
    simp only [foldlM_cons, bind_eq_ok] at h
    obtain ⟨pools1, hrow, hrest⟩ := h
    rw [ih hrest, inflight_savePoolRow hrow]

end Lower

/-! ## What keeps the invariant -/

section Keep

variable {p : Pool} {sid : Nat}

theorem find?_close {sid' : Nat} :
    (p.close sid).sessions.find? sid' = some tx ↔
      p.sessions.find? sid' = some tx ∧ sid' ≠ sid := by
  simp [Pool.close, find?_delete]

theorem Pool.Counted.close (h : p.Counted) (sid : Nat) : (p.close sid).Counted where
  counter := h.counter
  nodup := fun sid' tx hfind => h.nodup sid' tx (find?_close.mp hfind).1
  active := fun sid' tx hfind => h.active sid' tx (find?_close.mp hfind).1
  apart := fun sid1 tx1 sid2 tx2 h1 h2 =>
    h.apart sid1 tx1 sid2 tx2 (find?_close.mp h1).1 (find?_close.mp h2).1

theorem Pool.Counted.put (h : p.Counted) (hnodup : tx.locked.Nodup)
    (hactive : ∀ id ∈ tx.locked, ActiveLease p.store.capacityLeases tx.email id)
    (hfree : ∀ id ∈ tx.locked, ∀ sid' tx', sid' ≠ sid →
      p.sessions.find? sid' = some tx' → id ∉ tx'.locked) :
    Pool.Counted { p with sessions := p.sessions.put sid tx } where
  counter := h.counter
  nodup := by
    intro sid' tx' hfind
    simp only [find?_put] at hfind
    split at hfind
    · cases hfind
      exact hnodup
    · exact h.nodup sid' tx' hfind
  active := by
    intro sid' tx' hfind
    simp only [find?_put] at hfind
    split at hfind
    · cases hfind
      exact hactive
    · exact h.active sid' tx' hfind
  apart := by
    intro sid1 tx1 sid2 tx2 h1 h2 id hid1 hid2
    simp only [find?_put] at h1 h2
    split at h1 <;> split at h2
    · rename_i hsid1 hsid2
      exact hsid1.symm.trans hsid2
    · rename_i hne
      cases h1
      exact absurd hid2 (hfree id hid1 sid2 tx2 (Ne.symm hne) h2)
    · rename_i hne _
      cases h2
      exact absurd hid1 (hfree id hid2 sid1 tx1 (Ne.symm hne) h1)
    · exact h.apart sid1 tx1 sid2 tx2 h1 h2 id hid1 hid2

theorem Pool.Counted.rows (h : p.Counted) (store : Store) (subs : List String)
    (pools : Table String PoolState) (hcounter : ∀ email,
      inflight pools email = activeLeases store.capacityLeases email)
    (hkeep : ∀ sid tx, p.sessions.find? sid = some tx → ∀ id ∈ tx.locked,
      store.capacityLeases.find? id = p.store.capacityLeases.find? id ∨
        ActiveLease store.capacityLeases tx.email id) :
    Pool.Counted { p with store, subs, poolState := pools } where
  counter := hcounter
  nodup := h.nodup
  active := by
    intro sid tx hfind id hid
    rcases hkeep sid tx hfind id hid with hsame | hactive
    · obtain ⟨l, hl, hrest⟩ := h.active sid tx hfind id hid
      exact ⟨l, hsame.trans hl, hrest⟩
    · exact hactive
  apart := h.apart

theorem isLocked_eq_false {leaseId : String} (h : p.isLocked leaseId = false) {sid : Nat}
    (hfind : p.sessions.find? sid = some tx) : leaseId ∉ tx.locked := by
  have hany := any_eq_false_iff.mp h sid tx hfind
  simpa using hany

end Keep

/-! ## Step by step -/

section Steps

variable {p : Pool}

theorem renewCapacityLease_active (s : Store) (leaseUntil : Int) (owner : Owner)
    (leaseId email : String) :
    activeLeases (renewCapacityLease s leaseUntil owner leaseId).2.capacityLeases
      email = activeLeases s.capacityLeases email := by
  unfold renewCapacityLease
  split
  · rfl
  · rename_i l hl
    split
    · simp only [activeLeases]
      rw [sumBy_put _ _ hl]
      simp [activeWeight]
    · rfl

theorem renewCapacityLease_other (s : Store) (leaseUntil : Int) (owner : Owner)
    {leaseId : String} (h : leaseId ≠ id) :
    (renewCapacityLease s leaseUntil owner leaseId).2.capacityLeases.find? id
      = s.capacityLeases.find? id := by
  unfold renewCapacityLease
  split
  · rfl
  · split
    · exact find?_put_ne _ _ h
    · rfl

theorem renewReservationLease_capacityLeases (s : Store) (ts leaseUntil : Int)
    (owner : Owner) (requestId : String) :
    (renewReservationLease s ts leaseUntil owner requestId).2.capacityLeases
      = s.capacityLeases := by
  unfold renewReservationLease
  split
  · rfl
  · split <;> rfl

theorem renewStreamLeases_capacityLeases (s : Store) (ts : Int) (owner : Owner)
    (requestId capacityLeaseId : Option String) (leaseSecs : Int) :
    (∀ email, activeLeases (committed s (renewStreamLeases s ts owner requestId
      capacityLeaseId leaseSecs)).capacityLeases email = activeLeases s.capacityLeases email) ∧
    ∀ id, capacityLeaseId ≠ some id →
      (committed s (renewStreamLeases s ts owner requestId capacityLeaseId
        leaseSecs)).capacityLeases.find? id = s.capacityLeases.find? id := by
  cases hrenew : renewStreamLeases s ts owner requestId capacityLeaseId
      leaseSecs with
  | error => exact ⟨fun _ => rfl, fun _ _ => rfl⟩
  | ok answer =>
    obtain ⟨valid, s'⟩ := answer
    simp only [renewStreamLeases, ok_steps] at hrenew
    obtain ⟨-, -, rfl⟩ := hrenew
    -- the reservation half does not touch the leases
    have hcapacity : ∀ s1 : Store, s1.capacityLeases = s.capacityLeases →
        ∀ leaseId : String,
        (∀ email, activeLeases (renewCapacityLease s1
          (saturatingAdd ts (max leaseSecs 1)) owner leaseId).2.capacityLeases
            email = activeLeases s.capacityLeases email) ∧
        ∀ id, some leaseId ≠ some id → (renewCapacityLease s1
          (saturatingAdd ts (max leaseSecs 1)) owner leaseId).2.capacityLeases.find?
            id = s.capacityLeases.find? id := by
      intro s1 hsame leaseId
      refine ⟨fun email => ?_, fun id hid => ?_⟩
      · rw [renewCapacityLease_active, hsame]
      · rw [renewCapacityLease_other _ _ _ (by simpa using hid), hsame]
    have hfirst := renewReservationLease_capacityLeases s ts
      (saturatingAdd ts (max leaseSecs 1)) owner
    cases requestId with
    | none =>
      cases capacityLeaseId with
      | none => exact ⟨fun _ => rfl, fun _ _ => rfl⟩
      | some leaseId => exact hcapacity s rfl leaseId
    | some requestId =>
      cases capacityLeaseId with
      | none =>
        simp only [committed]
        rw [hfirst requestId]
        exact ⟨fun _ => rfl, fun _ _ => rfl⟩
      | some leaseId => exact hcapacity _ (hfirst requestId) leaseId

section

variable (h : p.Counted)
include h

theorem counted_renewStreamLeases (ts : Int) (owner : Owner)
    (requestId capacityLeaseId : Option String) (leaseSecs : Int)
    (hfree : capacityLeaseId.any p.isLocked = false) :
    Pool.Counted { p with
      store := committed p.store (renewStreamLeases p.store ts owner requestId
        capacityLeaseId leaseSecs) } := by
  obtain ⟨hcount, hother⟩ := renewStreamLeases_capacityLeases p.store ts owner
    requestId capacityLeaseId leaseSecs
  refine h.rows _ p.subs p.poolState (fun email => ?_) ?_
  · rw [hcount, h.counter]
  · intro sid tx hfind id hid
    refine .inl (hother id ?_)
    rintro rfl
    exact isLocked_eq_false hfree hfind hid

theorem counted_maintenancePrune (now olderThan : Int) (billed : Nat) :
    Pool.Counted { p with
      store := committed p.store (maintenancePrune p.store now olderThan billed) } := by
  cases hprune : maintenancePrune p.store now olderThan billed with
  | error => exact h
  | ok =>
    simp only [maintenancePrune, ok_steps] at hprune
    obtain ⟨-, rfl⟩ := hprune
    refine h.rows _ p.subs p.poolState (fun email => ?_) ?_
    · rw [h.counter]
      refine (sumBy_deleteSelected _ fun id l _ hgone => ?_).symm
      simp only [guard_iffs, bne_iff_ne] at hgone
      simp [activeWeight, hgone.1]
    · intro sid tx hfind id hid
      obtain ⟨l, hl, hactive, hemail⟩ := h.active sid tx hfind id hid
      exact .inr ⟨l, find?_deleteSelected_keep hl (by simp [hactive]), hactive, hemail⟩

theorem counted_savePoolState {ts : Int} {owner : Owner} {rows : List PoolStateRow}
    (hsave : savePoolState p ts owner rows = .ok p') :
    p'.Counted := by
  simp only [savePoolState, ok_steps] at hsave
  obtain ⟨-, pools, hrows, rfl⟩ := hsave
  refine h.rows p.store p.subs pools (fun email => ?_) (fun _ _ _ _ _ => .inl rfl)
  rw [inflight_savePoolRows hrows, h.counter]

variable {sid : Nat} {leaseId : String}

theorem counted_finishRelease {ts : Int} {email : String}
    (hfind : p.sessions.find? sid = some (.released ts leaseId email)) :
    ((finishRelease p ts leaseId email).close sid).Counted := by
  have hnodup := h.nodup sid _ hfind
  have hactive := h.active sid _ hfind
  have hle := length_le_activeLeases hnodup hactive
  simp only [CapacityTx.locked, CapacityTx.email] at hnodup hactive hle
  refine (h.close sid).rows _ p.subs _ (fun email' => ?_) ?_
  · have hcover : 1 ≤ inflight p.poolState email := by
      rw [h.counter]
      simpa using hle
    have hreleased : LeaseState.released ≠ .active := by decide
    have hcount : activeLeases (markLeases p.store.capacityLeases .released ts
        [leaseId]) email' = activeLeases p.store.capacityLeases email'
          - if email = email' then ([leaseId].length : Int) else 0 :=
      activeLeases_markLeases hreleased hnodup hactive email'
    have hlower := inflight_lowerInflight (by omega) hcover email'
    simp only [finishRelease]
    rw [hcount, hlower, h.counter]
    simp
  · intro sid' tx' hfind' id hid
    obtain ⟨hfind', hne⟩ := find?_close.mp hfind'
    refine .inl (find?_markLeases_other fun hmem => hne ?_)
    exact h.apart sid' tx' sid _ hfind' hfind id hid hmem

theorem inflight_afterExpiry (hfind : p.sessions.find? sid = some (.expiring req expired))
    (email' : String) :
    inflight (if 0 < expired.length then
        lowerInflight p.poolState req.email expired.length
      else p.poolState) email' =
      activeLeases (markLeases p.store.capacityLeases .expired req.ts expired) email' := by
  have hnodup := h.nodup sid _ hfind
  have hactive := h.active sid _ hfind
  have hle := length_le_activeLeases hnodup hactive
  simp only [CapacityTx.locked, CapacityTx.email] at hnodup hactive hle
  rw [activeLeases_markLeases (by decide) hnodup hactive]
  split
  · rename_i hpos
    rw [← h.counter] at hle
    rw [inflight_lowerInflight (by omega) hle, h.counter]
  · rename_i hpos
    have hzero : expired.length = 0 := by omega
    rw [h.counter, hzero]
    simp

theorem counted_finishAcquire {grant : CapacityGrant}
    (hfind : p.sessions.find? sid = some (.expiring req expired))
    (hfinish : finishAcquire p req expired = .ok (some (grant, p'))) :
    (p'.close sid).Counted := by
  have hafter := inflight_afterExpiry h hfind
  simp only [finishAcquire] at hfinish
  split at hfinish
  · cases hfinish
  rename_i s hs
  split at hfinish
  · cases hfinish
  simp only [insertLease, ok_steps, some.injEq, guard_iffs] at hfinish
  obtain ⟨leases, ⟨⟨hnew, -⟩, -, rfl⟩, count, hcount, -, rfl⟩ := hfinish
  have hcount := bigint_eq_ok hcount
  subst hcount
  have hnone : (markLeases p.store.capacityLeases .expired req.ts
      expired).find? req.leaseId = none := by simpa using hnew
  refine (h.close sid).rows _ p.subs _ (fun email' => ?_) ?_
  · have hadd : activeLeases ((markLeases p.store.capacityLeases .expired req.ts
        expired).put req.leaseId
          { requestId := req.requestId, subscriptionEmail := req.email,
            ownerInstance := req.owner.instanceId, ownerEpoch := req.owner.epoch,
            state := .active, leaseUntil := req.ts + max req.leaseSecs 1,
            createdTs := req.ts, releasedTs := none }) email' =
        activeLeases (markLeases p.store.capacityLeases .expired req.ts expired)
          email' + if req.email = email' then 1 else 0 := by
      unfold activeLeases
      rw [sumBy_put_new _ _ hnone]
      simp [activeWeight]
    rw [hadd, ← hafter]
    by_cases he : req.email = email'
    · subst he
      simp [inflight, hs]
    · simp [inflight, find?_put_ne _ _ he, he]
  · intro sid' tx' hfind' id hid
    obtain ⟨hfind', hne⟩ := find?_close.mp hfind'
    have hother : (markLeases p.store.capacityLeases .expired req.ts
        expired).find? id = p.store.capacityLeases.find? id :=
      find?_markLeases_other fun hmem =>
        hne (h.apart sid' tx' sid _ hfind' hfind id hid hmem)
    refine .inl ?_
    rw [find?_put_ne _ _ ?_, hother]
    · rfl
    · -- the new lease has an id that no lease had, a locked one included
      rintro rfl
      obtain ⟨l, hl, -⟩ := h.active sid' tx' hfind' _ hid
      rw [hnone, hl] at hother
      cases hother

theorem counted_finish (hfind : p.sessions.find? sid = some tx) : (p.finish sid tx).Counted := by
  cases tx with
  | asserted => exact h
  | expiring req expired =>
    simp only [Pool.finish]
    split
    · rename_i hfinish
      exact counted_finishAcquire h hfind hfinish
    · exact h.close sid
    · exact h.close sid
  | released => exact counted_finishRelease h hfind

theorem counted_open (sid : Nat) (hlocked : tx.locked = []) :
    Pool.Counted { p with sessions := p.sessions.put sid tx } := by
  refine h.put ?_ ?_ ?_
  · rw [hlocked]
    exact nodup_nil
  · rw [hlocked]
    simp
  · rw [hlocked]
    simp

theorem counted_expire {l : CapacityLease}
    (hfind : p.sessions.find? sid = some (.expiring req expired))
    (hl : p.store.capacityLeases.find? leaseId = some l)
    (hexpired : l.expiredAt req.email req.ts = true) (hfree : p.isLocked leaseId = false) :
    Pool.Counted { p with
      sessions := p.sessions.put sid (.expiring req (leaseId :: expired)) } := by
  simp only [CapacityLease.expiredAt, guard_iffs] at hexpired
  refine h.put ?_ ?_ ?_
  · exact nodup_cons.mpr ⟨isLocked_eq_false hfree hfind, h.nodup sid _ hfind⟩
  · intro id hid
    rcases mem_cons.mp hid with rfl | hid
    · exact ⟨l, hl, hexpired.1.2, hexpired.1.1⟩
    · exact h.active sid _ hfind id hid
  · intro id hid sid' tx' hne hfind' hid'
    rcases mem_cons.mp hid with rfl | hid
    · exact isLocked_eq_false hfree hfind' hid'
    · exact hne (h.apart sid' tx' sid _ hfind' hfind id hid' hid)

theorem counted_releaseCapacity {ts : Int} {owner : Owner} {email : String}
    (hmatch : matchRelease p.store owner leaseId = some email)
    (hfree : p.isLocked leaseId = false) :
    Pool.Counted { p with
      sessions := p.sessions.put sid (.released ts leaseId email) } := by
  simp only [matchRelease, map_eq_some_iff, filter_eq_some_iff, guard_iffs] at hmatch
  obtain ⟨l, ⟨hl, -, hactive⟩, rfl⟩ := hmatch
  refine h.put (List.nodup_singleton _) ?_ ?_
  · intro id hid
    rw [CapacityTx.locked, mem_singleton] at hid
    subst hid
    exact ⟨l, hl, hactive, rfl⟩
  · intro id hid sid' tx' _ hfind'
    rw [CapacityTx.locked, mem_singleton] at hid
    subst hid
    exact isLocked_eq_false hfree hfind'

theorem counted_lookup (sid : Nat) (req : AcquireRequest) : (p.lookup sid req).Counted := by
  unfold Pool.lookup
  split
  · exact counted_open h sid rfl
  · exact h.close sid
  · exact h.close sid

end

theorem counted_exec (op : CapacityOp) (h : p.Counted) : (p.exec op).Counted := by
  cases op with
  | claimInstance => exact h.rows _ p.subs p.poolState h.counter (fun _ _ _ _ _ => .inl rfl)
  | heartbeatInstance ts owner ttl =>
    have hsame : (heartbeatInstance p.store ts owner ttl).2.capacityLeases
        = p.store.capacityLeases := by
      unfold heartbeatInstance
      split
      · rfl
      · split <;> rfl
    refine h.rows _ p.subs p.poolState (fun email => ?_) ?_
    · rw [hsame, h.counter]
    · exact fun _ _ _ _ _ => .inl (by rw [hsame])
  | addSub =>
    refine h.rows p.store _ _ (fun email' => ?_) (fun _ _ _ _ _ => .inl rfl)
    rw [inflight_insertPoolState, h.counter]
  | savePoolState ts owner rows =>
    simp only [Pool.exec]
    split
    · rename_i hsave
      exact counted_savePoolState h hsave
    · exact h
  | renewStreamLeases ts owner requestId capacityLeaseId leaseSecs =>
    simp only [Pool.exec]
    split
    · exact h
    · rename_i hfree
      exact counted_renewStreamLeases h ts owner requestId capacityLeaseId
        leaseSecs (by simpa using hfree)
  | maintenancePrune now olderThan billed =>
    exact counted_maintenancePrune h now olderThan billed
  | acquireCapacity sid =>
    simp only [Pool.exec]
    split
    · exact counted_open h sid rfl
    · exact h
  | lookup sid =>
    simp only [Pool.exec]
    split
    · exact counted_lookup h sid _
    · exact h
  | expire sid leaseId =>
    simp only [Pool.exec]
    split
    · rename_i hfind hl
      split
      · rename_i hcond
        simp only [guard_iffs] at hcond
        exact counted_expire h hfind hl hcond.1 hcond.2
      · exact h
    · exact h
  | releaseCapacity sid ts owner leaseId =>
    simp only [Pool.exec]
    split
    · rename_i hmatch
      split
      · exact h
      · rename_i hfree
        exact counted_releaseCapacity h hmatch (by simpa using hfree)
    · exact h
  | finish sid =>
    simp only [Pool.exec]
    split
    · rename_i hfind
      exact counted_finish h hfind
    · exact h
  | abort sid => exact h.close sid

theorem counted_fresh (store : Store) : (Pool.fresh store).Counted where
  counter := fun _ => rfl
  nodup := by
    intro sid tx h
    cases h
  active := by
    intro sid tx h
    cases h
  apart := by
    intro sid tx sid' tx' h
    cases h

end Steps

/-- In every reachable state the counter of a subscription is the number of
its active leases, so whatever an open transaction is going to take off the
counter is covered by it and the clamp does nothing. -/
theorem capacity_accounting (store : Store) (ops : List CapacityOp) :
    (∀ email,
      inflight (run Pool.exec (.fresh store) ops).poolState email =
        activeLeases (run Pool.exec (.fresh store) ops).store.capacityLeases email) ∧
    ∀ sid tx, (run Pool.exec (.fresh store) ops).sessions.find? sid = some tx →
      tx.locked.length ≤ inflight (run Pool.exec (.fresh store) ops).poolState tx.email ∧
      ∀ s, (run Pool.exec (.fresh store) ops).poolState.find? tx.email = some s →
        max 0 (s.inflight - tx.locked.length) = s.inflight - tx.locked.length := by
  have h : (run Pool.exec (.fresh store) ops).Counted :=
    run_invariant (fun _ op => counted_exec op) (counted_fresh store) ops
  refine ⟨h.counter, fun sid tx hfind => ?_⟩
  have hle := length_le_activeLeases (h.nodup sid tx hfind) (h.active sid tx hfind)
  rw [← h.counter] at hle
  refine ⟨hle, fun s hs => ?_⟩
  rw [inflight, hs, elim_some] at hle
  omega

/-- A call on a fresh subscription. -/
def firstRequest : AcquireRequest :=
  { ts := 100, owner := ⟨"engine", 1⟩, leaseId := "lease", requestId := "req",
    email := "a@sub", leaseSecs := 60, utilCap := 0.95 }

/-- The lease of that call is taken, and its release is open. -/
def openRelease : List CapacityOp :=
  [.claimInstance 100 "engine" 60, .addSub "a@sub", .acquireCapacity 7 firstRequest,
    .lookup 7, .finish 7, .releaseCapacity 8 110 ⟨"engine", 1⟩ "lease"]

/-- The one active lease is locked by the release that is under way. -/
theorem capacity_accounting_firstRequest :
    (run Pool.exec (.fresh soloStore) openRelease).sessions.find? 8
        = some (.released 110 "lease" "a@sub") ∧
    max 0 ((1 : Int) - (CapacityTx.released 110 "lease" "a@sub").locked.length)
      = 1 - (CapacityTx.released 110 "lease" "a@sub").locked.length :=
  ⟨rfl, ((capacity_accounting soloStore openRelease).2 8 (.released 110 "lease" "a@sub")
    rfl).2 { inflight := 1 } rfl⟩

end ApiToken.Registry
