import ApiToken.Registry.Data

/-!
# Admission

Top-ups, owner leases, reservations and the delivery transition of
`PgStore`. Each function is one transaction: it returns the caller's
answer and the committed store, or the error that rolled it back. A
`None` answer of the source is also a rollback, so it returns the store it
was given. `now k` is the `k`-th clock reading of the call.
-/

namespace ApiToken.Registry

/-! ## Top-ups -/

/-- The partial unique index `ledger_money_ref`. -/
def moneyRef? (ledger : List LedgerRow) (reference : String) :
    Option LedgerRow :=
  ledger.find? (fun row => row.kind != .charge && row.ref == some reference)

def topupRow (ts : Int) (id : String) (amountNano : Int)
    (reference : Option String) (balance : Int) : LedgerRow :=
  { accountId := id, key := none,
    kind := if 0 ≤ amountNano then .topup else .adjust, requestId := none,
    amountNano, ref := reference, balanceAfterNano := balance, ts,
    model := none, provider := none, officialNano := none,
    payableMultiplierBp := none, uncollectedNano := 0 }

def accountTopup (s : Store) (ts : Int) (id : String) (amountNano : Int)
    (reference : Option String) : Except Error (Option Int × Store) := do
  bailIf (reference.any blank) "monetary idempotency reference must not be empty"
  match reference.bind (moneyRef? s.ledger) with
  | some row => do
      bailIf (!(row.accountId == id
          && row.kind == (if 0 ≤ amountNano then .topup else .adjust)
          && row.amountNano == amountNano))
        "idempotency reference belongs to another monetary operation"
      return (some row.balanceAfterNano, s)
  | none =>
    match s.accounts.find? id with
    | none => return (none, s)
    | some account => do
        let balance ← bigint (account.balanceNano + amountNano)
        return (some balance,
          { s with
            accounts := s.accounts.put id { account with balanceNano := balance }
            ledger := s.ledger ++ [topupRow ts id amountNano reference balance] })

/-! ## Owner leases -/

/-- `claim_instance`: a new epoch fences every earlier holder. -/
def claimInstance (s : Store) (ts : Int) (instanceId : String)
    (ttlSecs : Int) : Owner × Store :=
  let epoch := s.ownerEpochSeq + 1
  ({ instanceId, epoch },
    { s with
      ownerEpochSeq := epoch
      engineInstances := s.engineInstances.put instanceId
        { ownerEpoch := epoch, leaseUntil := ts + max ttlSecs 1,
          startedTs := ts, updatedTs := ts } })

/-- `heartbeat_instance`: the epoch has to match, the lease need not be
live. -/
def heartbeatInstance (s : Store) (ts : Int) (owner : Owner)
    (ttlSecs : Int) : Bool × Store :=
  match s.engineInstances.find? owner.instanceId with
  | none => (false, s)
  | some i =>
    if i.ownerEpoch = owner.epoch then
      (true, { s with
        engineInstances := s.engineInstances.put owner.instanceId
          { i with leaseUntil := ts + max ttlSecs 1, updatedTs := ts } })
    else (false, s)

/-- The predicate of `assert_owner` and `assert_owner_locked`. -/
def ownerLive (s : Store) (owner : Owner) (ts : Int) : Bool :=
  (s.engineInstances.find? owner.instanceId).any
    (fun i => i.ownerEpoch == owner.epoch && decide (ts ≤ i.leaseUntil))

/-- `assert_owner`, `assert_owner_locked`. -/
def assertOwner (s : Store) (owner : Owner) (ts : Int) : Except Error Unit :=
  bailIf (!ownerLive s owner ts) "engine owner lease is stale or fenced"

/-! ## Request-fact admission -/

def validateExistingAdmission (s : Store) (fact : RequestFactAdmission) :
    Except Error Unit := do
  let row ← orFail (s.requestFacts.find? fact.billingRequestId)
    (.bail "reservation replay lacks its request-fact admission")
  bailIf (row.admission != fact)
    "billing request ID conflicts with different request-fact admission"

def insertOrValidateAdmission (facts : Table String RequestFact)
    (fact : RequestFactAdmission) : Except Error (Table String RequestFact) :=
  match facts.find? fact.billingRequestId with
  | none =>
    .ok (facts.put fact.billingRequestId
      { admission := fact, deliveryStartedAt := none, terminal := none })
  | some row => do
      bailIf (row.admission != fact)
        "billing request ID conflicts with different request-fact admission"
      return facts

def validateFact (fact : Option RequestFactAdmission) : Except Error Unit :=
  match fact with
  | none => .ok ()
  | some f => f.validate

def replayFact (s : Store) (fact : Option RequestFactAdmission) :
    Except Error Unit :=
  match fact with
  | none => .ok ()
  | some f => validateExistingAdmission s f

def admitFact (facts : Table String RequestFact)
    (fact : Option RequestFactAdmission) :
    Except Error (Table String RequestFact) :=
  match fact with
  | none => .ok facts
  | some f => insertOrValidateAdmission facts f

/-! ## Reservations -/

def paidAdmissionRequiresPositiveBalance (payableMultiplierBp : Option Int) :
    Bool :=
  0 < payableMultiplierBp.getD 1

/-- The account statement of an admission: a zero hold only locks the
active account and, for paid work, asks for a positive balance
(`lock_active_account_without_hold`); a positive hold moves the money
from balance to reserved down to the shared overdraft floor. -/
def holdAccount (account : Account) (hold : Int) (requirePositive : Bool) :
    Except Error (Option Account) :=
  if account.status ≠ "active" then .ok none
  else if hold = 0 then
    .ok (if requirePositive && account.balanceNano ≤ 0 then none else some account)
  else if account.balanceNano < hold - accountOverdraftNano then .ok none
  else do
    let balance ← bigint (account.balanceNano - hold)
    let reserved ← bigint (account.reservedNano + hold)
    return some { account with balanceNano := balance, reservedNano := reserved }

/-- `spend_limit_nano IS NULL OR spent_nano+reserved_nano+hold<=spend_limit_nano`. -/
def withinSpendLimit (key : ApiKey) (hold : Int) : Except Error Bool :=
  match key.spendLimitNano with
  | none => .ok true
  | some limit => do
      let committed ← bigint (key.spentNano + key.reservedNano + hold)
      return decide (committed ≤ limit)

def holdKey (key : ApiKey) (accountId : String) (hold clockTs : Int) :
    Except Error (Option ApiKey) :=
  if key.accountId ≠ accountId ∨ key.status ≠ "active" then .ok none
  else if key.expiresTs.any (· ≤ clockTs) then .ok none
  else do
    let withinLimit ← withinSpendLimit key hold
    if !withinLimit then return none
    else if hold = 0 then return some key
    else
      let reserved ← bigint (key.reservedNano + hold)
      return some { key with reservedNano := reserved }

/-- `i64::saturating_add` for a lease deadline. -/
def saturatingAdd (a b : Int) : Int :=
  max (-9223372036854775808) (min 9223372036854775807 (a + b))

/-- The row that an admission inserts. -/
def newReservation (owner : Owner) (accountId key : String) (hold balance ts
    leaseSecs : Int) (execution : ExecutionAttempt)
    (pricing : Option ReservationPricing) : Reservation :=
  { accountId, key, holdNano := hold, balanceAfterReserveNano := balance,
    ownerInstance := owner.instanceId, ownerEpoch := owner.epoch,
    leaseUntil := saturatingAdd ts (max leaseSecs 1), state := .reserved,
    actualNano := none, collectedNano := none, uncollectedNano := none,
    pricing, groupId := execution.groupId, attempt := execution.attempt,
    measuredNano := none, createdTs := ts, updatedTs := ts, settledTs := none }

/-- `reservations_scalar_pricing_shape`. -/
def pricingShape (pricing : Option ReservationPricing) : Bool :=
  pricing.all (fun p => discountProviderIds.contains p.provider
    && 0 ≤ p.payableMultiplierBp && p.payableMultiplierBp ≤ 10000)

def reservationExact (r : Reservation) (owner : Owner)
    (accountId key : String) (hold : Int) (execution : ExecutionAttempt)
    (pricing : Option ReservationPricing) : Bool :=
  r.accountId == accountId && r.key == key && r.holdNano == hold
    && r.ownerInstance == owner.instanceId && r.ownerEpoch == owner.epoch
    && r.state == .reserved && r.groupId == execution.groupId
    && r.attempt == execution.attempt && r.pricing == pricing

def checkReservationFact (s : Store) (requestId accountId key : String)
    (execution : ExecutionAttempt) (fact : Option RequestFactAdmission) :
    Except Error Unit :=
  match fact with
  | none => .ok ()
  | some f => do
      let row ← orFail
        ((s.apiKeys.find? key).filter (fun k => k.accountId == accountId))
        (.bail "request-fact reservation key does not exist")
      validateReservationFact f requestId accountId row.keyId execution.groupId execution.attempt

/-- The money and row writes of a first admission. -/
def admitReservation (s : Store) (reservationTs clockTs : Int) (owner : Owner)
    (requestId accountId key : String) (hold leaseSecs : Int)
    (execution : ExecutionAttempt) (pricing : Option ReservationPricing) :
    Except Error (Option (Int × Store)) :=
  match s.accounts.find? accountId with
  | none => .ok none
  | some account => do
      match ← holdAccount account hold (paidAdmissionRequiresPositiveBalance
          (pricing.map (·.payableMultiplierBp))) with
      | none => return none
      | some account' =>
        match s.apiKeys.find? key with
        | none => return none
        | some keyRow => do
            match ← holdKey keyRow accountId hold clockTs with
            | none => return none
            | some keyRow' => do
                failIf (!pricingShape pricing) (.sql "23514")
                return some (account'.balanceNano,
                  { s with
                    accounts := s.accounts.put accountId account'
                    apiKeys := s.apiKeys.put key keyRow'
                    reservations := s.reservations.put requestId
                      (newReservation owner accountId key hold
                        account'.balanceNano reservationTs leaseSecs
                        execution pricing) })

/-- `reserve_request_for_execution_with_pricing`. `clockTs` is the server
clock that the key's expiry is compared with. -/
def reserveRequestForExecutionWithPricing (s : Store) (now : Nat → Int)
    (clockTs : Int) (owner : Owner) (requestId accountId key : String)
    (holdNano leaseSecs : Int) (execution : ExecutionAttempt)
    (pricing : Option ReservationPricing)
    (fact : Option RequestFactAdmission) :
    Except Error (Option Int × Store) := do
  validateFact fact
  let hold := max holdNano 0
  assertOwner s owner (now 0)
  assertOwner s owner (now 1)
  checkReservationFact s requestId accountId key execution fact
  match s.reservations.find? requestId with
  | some r => do
      bailIf (!reservationExact r owner accountId key hold execution pricing)
        "reservation request ID belongs to a different or completed operation"
      replayFact s fact
      assertOwner s owner (now 2)
      return (some r.balanceAfterReserveNano, s)
  | none => do
      assertOwner s owner (now 2)
      match ← admitReservation s (now 2) clockTs owner requestId accountId key
          hold leaseSecs execution pricing with
      | none => return (none, s)
      | some (balance, s₁) => do
          let facts ← admitFact s₁.requestFacts fact
          assertOwner s₁ owner (now 3)
          return (some balance, { s₁ with requestFacts := facts })

/-! ## Delivery -/

def markDeliveryStarted (facts : Table String RequestFact)
    (requestId : String) (ts : Int) : Except Error (Table String RequestFact) :=
  match facts.find? requestId with
  | none => .ok facts
  | some fact => do
      bailIf (ts < fact.admission.admittedAt) "request-fact delivery time precedes admission"
      return if fact.deliveryStartedAt.isNone then
        facts.put requestId { fact with deliveryStartedAt := some ts }
      else facts

def deliverFact (facts : Table String RequestFact) (requestId : String)
    (ts : Int) (recordFact : Bool) : Except Error (Table String RequestFact) :=
  if recordFact then markDeliveryStarted facts requestId ts else .ok facts

/-- The `(owner_instance, owner_epoch)` fence of a reservation. -/
def Reservation.ownedBy (r : Reservation) (owner : Owner) : Bool :=
  r.ownerInstance == owner.instanceId && r.ownerEpoch == owner.epoch

/-- `mark_delivering_inner`. -/
def markDelivering (s : Store) (ts : Int) (owner : Owner) (requestId : String)
    (leaseSecs : Int) (recordFact : Bool) : Except Error (Bool × Store) := do
  assertOwner s owner ts
  match (s.reservations.find? requestId).filter (·.ownedBy owner) with
  | none => return (false, s)
  | some r =>
    match r.state with
    | .reserved => do
        let facts ← deliverFact s.requestFacts requestId ts recordFact
        return (true, { s with
          reservations := s.reservations.put requestId
            { r with state := .delivering, leaseUntil := ts + max leaseSecs 1,
                     updatedTs := ts }
          requestFacts := facts })
    | .delivering => do
        let facts ← deliverFact s.requestFacts requestId ts recordFact
        return (true, { s with requestFacts := facts })
    | .settlementPending | .settled => return (true, s)
    | .canceled => return (false, s)

/-- `checkpoint_measured`: never lowers an earlier measurement. -/
def checkpointMeasured (s : Store) (ts : Int) (owner : Owner)
    (requestId : String) (measuredNano : Int) :
    Except Error (Bool × Store) := do
  assertOwner s owner ts
  match (s.reservations.find? requestId).filter (·.ownedBy owner) with
  | none => return (false, s)
  | some r =>
    if r.state = .reserved ∨ r.state = .delivering then
      return (true, { s with
        reservations := s.reservations.put requestId
          { r with
            measuredNano := some (max (r.measuredNano.getD 0) (max measuredNano 0))
            updatedTs := ts } })
    else return (false, s)

/-- `renew_stream_leases`, its reservation half. -/
def renewReservationLease (s : Store) (ts leaseUntil : Int) (owner : Owner)
    (requestId : String) : Bool × Store :=
  match (s.reservations.find? requestId).filter (·.ownedBy owner) with
  | none => (false, s)
  | some r =>
    if r.state.terminal then (false, s)
    else (true, { s with
      reservations := s.reservations.put requestId { r with leaseUntil, updatedTs := ts } })

/-- `renew_stream_leases`, its capacity half. -/
def renewCapacityLease (s : Store) (leaseUntil : Int) (owner : Owner)
    (leaseId : String) : Bool × Store :=
  match s.capacityLeases.find? leaseId with
  | none => (false, s)
  | some l =>
    if l.ownerInstance = owner.instanceId ∧ l.ownerEpoch = owner.epoch
        ∧ l.state = .active then
      (true, { s with
        capacityLeases := s.capacityLeases.put leaseId { l with leaseUntil } })
    else (false, s)

def renewStreamLeases (s : Store) (ts : Int) (owner : Owner)
    (requestId capacityLeaseId : Option String) (leaseSecs : Int) :
    Except Error (Bool × Store) := do
  let leaseUntil := saturatingAdd ts (max leaseSecs 1)
  assertOwner s owner ts
  let (valid₁, s₁) := match requestId with
    | none => (true, s)
    | some id => renewReservationLease s ts leaseUntil owner id
  let (valid₂, s₂) := match capacityLeaseId with
    | none => (true, s₁)
    | some id => renewCapacityLease s₁ leaseUntil owner id
  return (valid₁ && valid₂, s₂)

end ApiToken.Registry
