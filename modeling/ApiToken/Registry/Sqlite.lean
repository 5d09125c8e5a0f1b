import ApiToken.Registry.Outbox

/-!
# The SQLite lane

The same lifecycle over SQLite, from `lib.rs`: top-ups, reservations, the
delivery mark and the durable settlement of one request. There are no owner
epochs and no request facts here, an enqueue does not touch the
reservation, and the settlement arithmetic is written in Rust.

SQL arithmetic on `INTEGER` columns does not fail: a value past 64 bits is
kept as a `REAL`, and it is the next read of the column as an `i64` that
errors. So columns are unbounded here and every read into Rust goes through
`getI64`. `now k` is the `k`-th clock reading of the call.
-/

namespace ApiToken.Registry.Sqlite

/-- `row.get::<_, i64>`. -/
def getI64 (x : Int) : Except Error Int :=
  if -9223372036854775808 ≤ x ∧ x ≤ 9223372036854775807 then .ok x
  else .error (.bail "Invalid column type Real")

/-- `i64::try_from(x).context(message)`. -/
def tryFrom (x : Int) (message : String) : Except Error Int :=
  if -9223372036854775808 ≤ x ∧ x ≤ 9223372036854775807 then .ok x
  else .error (.bail message)

theorem getI64_eq_ok {x y : Int} (h : getI64 x = .ok y) : y = x := by
  unfold getI64 at h
  split at h
  · exact (Except.ok.inj h).symm
  · cases h

theorem tryFrom_eq_ok {x y : Int} {message : String} (h : tryFrom x message = .ok y) : y = x := by
  unfold tryFrom at h
  split at h
  · exact (Except.ok.inj h).symm
  · cases h

/-- `billing_reservations`, keyed by request id. The pricing columns are
two independent nullable ones. -/
structure BillingReservation where
  accountId : String
  key : String
  holdNano : Int
  groupId : Option String
  attempt : Int
  state : ReservationState
  balanceAfterReserveNano : Int
  actualNano : Option Int
  collectedNano : Option Int
  uncollectedNano : Option Int
  provider : Option String
  payableMultiplierBp : Option Int
  balanceAfterSettleNano : Option Int
  reference : Option String
  leaseUntil : Int
  createdTs : Int
  updatedTs : Int
  settledTs : Option Int
deriving DecidableEq

/-- `billing_settlement_outbox`, keyed by request id. `usage` stands for
`usage_json`: serialising it and reading it back is exact. -/
structure SettlementOutbox where
  actualNano : Int
  reference : Option String
  usage : Option UsageEventInput
  chargeBasisNano : Option Int
  disposition : Disposition
  state : OutboxState
  attempts : Int
  nextAttemptTs : Int
  lastError : Option Error
  createdTs : Int
  updatedTs : Int
  committedTs : Option Int
deriving DecidableEq

/-- The SQLite database. -/
structure Store where
  accounts : Table String Account
  apiKeys : Table String ApiKey
  billingReservations : Table String BillingReservation
  billingSettlementOutbox : Table String SettlementOutbox
  executionGroupWinner : Table String GroupWinner
  ledger : List LedgerRow
  usageEvents : List UsageEvent
deriving DecidableEq

/-! ## Top-ups -/

/-- `account_topup`: the balance moves first, and a taken reference rolls it
back before the stored operation is compared. -/
def accountTopup (q : Store) (ts : Int) (id : String) (amountNano : Int)
    (reference : Option String) : Except Error (Option Int × Store) := do
  bailIf (reference.any blank) "monetary idempotency reference must not be empty"
  match q.accounts.find? id with
  | none => return (none, q)
  | some account => do
      let balance ← getI64 (account.balanceNano + amountNano)
      match reference.bind (moneyRef? q.ledger) with
      | none =>
        return (some balance,
          { q with
            accounts := q.accounts.put id { account with balanceNano := balance }
            ledger := q.ledger ++ [topupRow ts id amountNano reference balance] })
      | some row => do
          bailIf (!(row.accountId == id
              && row.kind == (if 0 ≤ amountNano then .topup else .adjust)
              && row.amountNano == amountNano))
            "idempotency reference already belongs to a different monetary operation"
          return (some row.balanceAfterNano, q)

/-! ## Reservations -/

/-- The account half of `account_reserve_for_key`. -/
def reserveAccount (account : Account) (hold : Int) :
    Except Error (Option (Int × Account)) :=
  if account.status ≠ "active" then .ok none
  else if hold = 0 then do
    let balance ← getI64 account.balanceNano
    return some (balance, account)
  else if account.balanceNano < hold - accountOverdraftNano then .ok none
  else do
    let balance ← getI64 (account.balanceNano - hold)
    return some (balance, { account with
      balanceNano := account.balanceNano - hold
      reservedNano := account.reservedNano + hold })

/-- The key half of `account_reserve_for_key`. -/
def reserveKey (key : ApiKey) (accountId : String) (hold clockTs : Int) :
    Option ApiKey :=
  if key.accountId ≠ accountId ∨ key.status ≠ "active" then none
  else if key.expiresTs.any (· ≤ clockTs) then none
  else if key.spendLimitNano.any (· < key.spentNano + key.reservedNano + hold) then none
  else some { key with reservedNano := key.reservedNano + hold }

/-- `account_reserve_for_key`; every `None` leaves through
`ROLLBACK TO key_policy_reserve`. -/
def accountReserveForKey (q : Store) (clockTs : Int) (id key : String)
    (holdNano : Int) : Except Error (Option (Int × Store)) :=
  let hold := max holdNano 0
  match q.accounts.find? id with
  | none => .ok none
  | some account => do
      match ← reserveAccount account hold with
      | none => return none
      | some (balance, account') =>
        match (q.apiKeys.find? key).bind (reserveKey · id hold clockTs) with
        | none => return none
        | some keyRow =>
          return some (balance,
            { q with
              accounts := q.accounts.put id account'
              apiKeys := q.apiKeys.put key keyRow })

def reservationExact (r : BillingReservation) (accountId key : String)
    (holdNano : Int) (execution : ExecutionAttempt)
    (pricing : Option ReservationPricing) : Bool :=
  r.accountId == accountId && r.key == key && r.holdNano == holdNano
    && r.groupId == execution.groupId && r.attempt == execution.attempt
    && r.provider == pricing.map (·.provider)
    && r.payableMultiplierBp == pricing.map (·.payableMultiplierBp)

/-- The row that an admission inserts. -/
def newReservation (accountId key : String) (holdNano balance ts
    leaseSecs : Int) (execution : ExecutionAttempt)
    (pricing : Option ReservationPricing) : BillingReservation :=
  { accountId, key, holdNano, groupId := execution.groupId,
    attempt := execution.attempt, state := .reserved,
    balanceAfterReserveNano := balance, actualNano := none,
    collectedNano := none, uncollectedNano := none,
    provider := pricing.map (·.provider),
    payableMultiplierBp := pricing.map (·.payableMultiplierBp),
    balanceAfterSettleNano := none, reference := none,
    leaseUntil := saturatingAdd ts leaseSecs, createdTs := ts, updatedTs := ts,
    settledTs := none }

/-- `sqlite_reserve_request_for_execution_with_pricing`. `clockTs` is
`strftime('%s','now')`. -/
def reserveRequestForExecutionWithPricing (q : Store) (ts clockTs : Int)
    (requestId accountId key : String) (holdNano leaseSecs : Int)
    (execution : ExecutionAttempt) (pricing : Option ReservationPricing) :
    Except Error (Option Int × Store) := do
  bailIf (blank requestId || blank accountId || blank key || holdNano < 0
    || leaseSecs ≤ 0) "invalid SQLite reservation parameters"
  match q.billingReservations.find? requestId with
  | some r => do
      bailIf (!reservationExact r accountId key holdNano execution pricing)
        "reservation request ID was reused with different parameters"
      bailIf (!(r.state == .reserved || r.state == .delivering))
        "reservation request is already terminal"
      return (some r.balanceAfterReserveNano, q)
  | none => do
      match ← accountReserveForKey q clockTs accountId key holdNano with
      | none => return (none, q)
      | some (balance, q₁) =>
        if holdNano = 0 ∧ paidAdmissionRequiresPositiveBalance
            (pricing.map (·.payableMultiplierBp)) ∧ balance ≤ 0 then
          return (none, q)
        else
          return (some balance,
            { q₁ with
              billingReservations := q₁.billingReservations.put requestId
                (newReservation accountId key holdNano balance ts leaseSecs execution pricing) })

/-- `sqlite_reserve_request_for_execution` without a pricing,
`sqlite_reserve_priced_request_for_execution` with one. -/
def reserveRequest (q : Store) (ts clockTs : Int)
    (requestId accountId key : String) (holdNano leaseSecs : Int)
    (execution : ExecutionAttempt) (pricing : Option ReservationPricing) :
    Except Error (Option Int × Store) :=
  match pricing with
  | none =>
    reserveRequestForExecutionWithPricing q ts clockTs requestId accountId key
      holdNano leaseSecs execution none
  | some p => do
      ensureValidProviderDiscount p.provider p.payableMultiplierBp
      reserveRequestForExecutionWithPricing q ts clockTs requestId accountId key
        holdNano leaseSecs execution (some p)

/-- `sqlite_mark_delivering`. -/
def markDelivering (q : Store) (ts : Int) (requestId : String)
    (leaseSecs : Int) : Except Error (Bool × Store) := do
  bailIf (decide (leaseSecs ≤ 0)) "invalid delivery lease"
  match q.billingReservations.find? requestId with
  | none => return (false, q)
  | some r =>
    if r.state = .reserved ∨ r.state = .delivering then
      return (true, { q with
        billingReservations := q.billingReservations.put requestId
          { r with state := .delivering,
                   leaseUntil := saturatingAdd ts leaseSecs,
                   updatedTs := ts } })
    else return (false, q)

/-! ## Enqueue -/

def storedPricing (r : BillingReservation) :
    Except Error (Option ReservationPricing) :=
  match r.provider, r.payableMultiplierBp with
  | none, none => .ok none
  | some provider, some payableMultiplierBp => do
      ensureValidProviderDiscount provider payableMultiplierBp
      return some { provider, payableMultiplierBp }
  | _, _ => .error (.bail "reservation has incomplete scalar-pricing evidence")

/-- `sqlite_terminal_expected_actual`. -/
def terminalExpectedActual (q : Store) (requestId : String)
    (originalActual : Int) : Except Error Int :=
  if originalActual ≤ 0 then .ok (max originalActual 0)
  else do
    let r ← orFail (q.billingReservations.find? requestId)
      (.bail "terminal SQLite reservation is missing")
    return if (q.executionGroupWinner.find? (r.groupId.getD requestId)).any
        (fun w => w.winnerRequestId != requestId) then 0
      else originalActual

/-- Does the stored split account for the expected amount? -/
def collectionExact (r : BillingReservation) (priced : Bool)
    (expected : Int) : Bool :=
  match r.collectedNano, r.uncollectedNano with
  | none, none => !priced
  | some collected, some uncollected =>
    0 ≤ collected && 0 ≤ uncollected && collected + uncollected == expected
  | _, _ => false

/-- What `sqlite_enqueue_settlement` asks of a settled reservation. -/
def checkSettled (q : Store) (requestId : String) (r : BillingReservation)
    (actual : Int) (reference : Option String) : Except Error Unit :=
  if r.state = .settled then do
    let expected ← terminalExpectedActual q requestId actual
    bailIf (r.actualNano != some expected || r.reference != reference)
      "settlement request ID was reused with different parameters"
    let pricing ← storedPricing r
    bailIf (!collectionExact r pricing.isSome expected)
      "terminal settlement collection evidence is inconsistent"
  else .ok ()

/-- `INSERT INTO billing_settlement_outbox … ON CONFLICT DO NOTHING`, and on
a conflict the comparison with the stored intent. -/
def insertSettlement (q : Store) (ts : Int) (requestId : String) (actual : Int)
    (reference : Option String) (usage : Option UsageEventInput)
    (disposition : Disposition) :
    Except Error (Table String SettlementOutbox) :=
  match q.billingSettlementOutbox.find? requestId with
  | none =>
    .ok (q.billingSettlementOutbox.put requestId
      { actualNano := actual, reference, usage,
        chargeBasisNano := usage.map (·.chargeBasisNano), disposition,
        state := .pending, attempts := 0, nextAttemptTs := 0,
        lastError := none, createdTs := ts, updatedTs := ts,
        committedTs := none })
  | some o => do
      bailIf (!(o.actualNano == actual && o.reference == reference
          && o.usage == usage
          && o.chargeBasisNano == usage.map (·.chargeBasisNano)
          && o.disposition == disposition))
        "settlement request ID was reused with different parameters"
      return q.billingSettlementOutbox

/-- `sqlite_enqueue_settlement`; its answer is always `None`. -/
def enqueueSettlement (q : Store) (ts : Int) (requestId accountId key : String)
    (holdNano actualNano : Int) (reference : Option String)
    (usage : Option UsageEventInput) (disposition : Disposition) :
    Except Error (Option Int × Store) := do
  let r ← orFail (q.billingReservations.find? requestId)
    (.bail "settlement has no durable reservation")
  bailIf (r.accountId != accountId || r.key != key || r.holdNano != holdNano)
    "settlement parameters do not match reservation"
  let actual := max actualNano 0
  checkSettled q requestId r actual reference
  let outbox ← insertSettlement q ts requestId actual reference usage disposition
  return (none, { q with billingSettlementOutbox := outbox })

/-! ## Collection -/

/-- The account half of `account_settle_request_in`: the new row, what was
collected and what was not. -/
def settleAccount (account : Account) (hold actual : Int) :
    Except Error (Account × Int × Int) := do
  let balanceBefore ← getI64 account.balanceNano
  let spentBefore ← getI64 account.spentNano
  let reservedBefore ← getI64 account.reservedNano
  let uncollectedBefore ← getI64 account.uncollectedNano
  bailIf (decide (0 < hold ∧ reservedBefore < hold))
    "reservation/account aggregate invariant failed"
  if hold = 0 then do
    let balance ← tryFrom (balanceBefore - actual) "SQLite balance overflow during settlement"
    let spent ← tryFrom (spentBefore + actual) "SQLite account spend overflow during settlement"
    return ({ account with balanceNano := balance, spentNano := spent }, actual, 0)
  else do
    let collectionFloor := min balanceBefore (-accountOverdraftNano)
    let collectable := min (max (balanceBefore + hold - collectionFloor) 0) actual
    let collected ← tryFrom collectable "SQLite collected amount overflow"
    let uncollected ← tryFrom (actual - collected) "SQLite collection exceeds billed amount"
    let balance ← tryFrom (balanceBefore + hold - collectable)
      "SQLite balance overflow during settlement"
    let spent ← tryFrom (spentBefore + actual) "SQLite account spend overflow during settlement"
    let accountUncollected ← tryFrom (uncollectedBefore + uncollected)
      "SQLite uncollected aggregate overflow during settlement"
    return ({ account with
        balanceNano := balance
        spentNano := spent
        reservedNano := reservedBefore - hold
        uncollectedNano := accountUncollected }, collected, uncollected)

/-- The key half of `account_settle_request_in`: a key that is gone is
skipped. -/
def settleKey (q : Store) (id key : String) (hold actual : Int) :
    Except Error (Table String ApiKey) :=
  match q.apiKeys.find? key with
  | none => .ok q.apiKeys
  | some row => do
      let spentBefore ← getI64 row.spentNano
      let reservedBefore ← getI64 row.reservedNano
      bailIf (row.accountId != id || decide (reservedBefore < hold))
        "reservation/key aggregate invariant failed"
      let spent ← tryFrom (spentBefore + actual) "SQLite key spend overflow during settlement"
      return q.apiKeys.put key
        { row with spentNano := spent, reservedNano := reservedBefore - hold }

def chargeRow (requestId id key : String) (reference : Option String)
    (usage : Option UsageEventInput) (pricing : Option ReservationPricing)
    (actual uncollected balance ts : Int) : LedgerRow :=
  { accountId := id, key := some key, kind := .charge,
    requestId := some requestId, amountNano := actual, ref := reference,
    balanceAfterNano := balance, ts,
    model := (usage.map (·.model)).filter (· ≠ ""),
    provider := (pricing.map (·.provider)).or ((usage.map (·.provider)).filter (· ≠ "")),
    officialNano := usage.map (·.chargeBasisNano),
    payableMultiplierBp := pricing.map (·.payableMultiplierBp),
    uncollectedNano := uncollected }

def usageRow (requestId id key : String) (reference : Option String)
    (usage : UsageEventInput) (pricing : Option ReservationPricing)
    (actual uncollected ts : Int) : UsageEvent :=
  { requestId, accountId := id, key,
    usage := { usage.toUsageColumns with
      provider := (pricing.map (·.provider)).getD usage.provider },
    chargeNano := actual, ref := reference, ts,
    payableMultiplierBp := pricing.map (·.payableMultiplierBp),
    uncollectedNano := uncollected,
    chargeBasisNano := some usage.chargeBasisNano }

/-- The trigger `ledger_policy_attribution_insert`. -/
def attributionGuard (row : LedgerRow) : Except Error Unit :=
  failIf (row.payableMultiplierBp.any (fun bp => bp < 0 || 10000 < bp)
      || row.officialNano.any (· < 0)) (.bail "invalid policy attribution")

def chargeLedger (ledger : List LedgerRow) (row : LedgerRow) :
    Except Error (List LedgerRow) :=
  if 0 < row.amountNano then do
    attributionGuard row
    insertCharge ledger row
  else .ok ledger

def meterUsage (events : List UsageEvent) (row : Option UsageEvent) :
    Except Error (List UsageEvent) :=
  match row with
  | none => .ok events
  | some row => insertUsage events row

/-- The pricing checks of `account_settle_request_in`. -/
def checkPricing (pricing : Option ReservationPricing)
    (usage : Option UsageEventInput) : Except Error Unit :=
  match pricing with
  | none => .ok ()
  | some p => do
      ensureValidProviderDiscount p.provider p.payableMultiplierBp
      bailIf (usage.any (fun u => u.provider != p.provider))
        "settlement provider differs from the reserve-time pricing pin"

/-- `account_settle_request_in`: balance, collected, uncollected. -/
def accountSettleRequestIn (q : Store) (ts : Int) (requestId id key : String)
    (holdNano actualNano : Int) (reference : Option String)
    (usage : Option UsageEventInput) (pricing : Option ReservationPricing) :
    Except Error (Option (Int × Int × Int) × Store) := do
  let hold := max holdNano 0
  let actual := max actualNano 0
  checkPricing pricing usage
  match q.accounts.find? id with
  | none => return (none, q)
  | some account => do
      let (account', collected, uncollected) ← settleAccount account hold actual
      let keys ← settleKey q id key hold actual
      let ledger ← chargeLedger q.ledger (chargeRow requestId id key reference
        usage pricing actual uncollected account'.balanceNano ts)
      let events ← meterUsage q.usageEvents (usage.map (fun u =>
        usageRow requestId id key reference u pricing actual uncollected ts))
      return (some (account'.balanceNano, collected, uncollected),
        { q with
          accounts := q.accounts.put id account'
          apiKeys := keys
          ledger := ledger
          usageEvents := events })

/-! ## Apply -/

/-- `sqlite_process_settlement` on a request that is already terminal. -/
def confirmSettled (q : Store) (ts : Int) (requestId : String)
    (o : SettlementOutbox) (r : BillingReservation) :
    Except Error (Option Int × Store) := do
  let expected ← terminalExpectedActual q requestId o.actualNano
  bailIf (r.actualNano != some expected) "stored settlement differs from outbox"
  let pricing ← storedPricing r
  bailIf (!collectionExact r pricing.isSome expected)
    "terminal settlement collection evidence is inconsistent"
  return (r.balanceAfterSettleNano,
    { q with
      billingSettlementOutbox := q.billingSettlementOutbox.put requestId
        { o with state := .done, committedTs := some (o.committedTs.getD ts),
                 updatedTs := ts, lastError := none } })

def electWinner (q : Store) (ts : Int) (requestId group : String)
    (actual : Int) : Except Error (Table String GroupWinner) :=
  if 0 < actual then do
    failIf (group == "" || requestId == "") (.sql "SQLITE_CONSTRAINT_CHECK")
    return match q.executionGroupWinner.find? group with
      | none => q.executionGroupWinner.put group { winnerRequestId := requestId, decidedAt := ts }
      | some _ => q.executionGroupWinner
  else .ok q.executionGroupWinner

def losingAttempt (winners : Table String GroupWinner)
    (requestId group : String) (actual : Int) : Bool :=
  decide (0 < actual) && (winners.find? group).any (fun w => w.winnerRequestId != requestId)

/-- `sqlite_process_settlement` on a request that is not terminal yet. -/
def applySettlement (q : Store) (now : Nat → Int) (requestId : String)
    (o : SettlementOutbox) (r : BillingReservation) :
    Except Error (Option Int × Store) := do
  bailIf (!(r.state == .reserved || r.state == .delivering)) "reservation is not settleable"
  let group := r.groupId.getD requestId
  let winners ← electWinner q (now 0) requestId group o.actualNano
  let losing := losingAttempt winners requestId group o.actualNano
  let effectiveActual := if 0 < o.actualNano then (if losing then 0 else o.actualNano) else 0
  let effectiveUsage := if losing then none else o.usage
  let effectiveDisposition := if losing then .cancel else o.disposition
  let pricing ← storedPricing r
  let (settled, q₁) ← accountSettleRequestIn q (now 1) requestId r.accountId
    r.key r.holdNano effectiveActual o.reference effectiveUsage pricing
  let (balance, collected, uncollected) ←
    orFail settled (.bail "settlement account no longer exists")
  return (some balance,
    { q₁ with
      executionGroupWinner := winners
      billingReservations := q₁.billingReservations.put requestId
        { r with
          state := if effectiveDisposition = .cancel then .canceled else .settled
          actualNano := some effectiveActual
          collectedNano := some collected
          uncollectedNano := some uncollected
          balanceAfterSettleNano := some balance
          reference := o.reference
          updatedTs := now 2
          settledTs := some (now 2) }
      billingSettlementOutbox := q₁.billingSettlementOutbox.put requestId
        { o with state := .done, attempts := o.attempts + 1,
                 updatedTs := now 2, committedTs := some (now 2),
                 lastError := none } })

/-- `sqlite_process_settlement`. -/
def processSettlement (q : Store) (now : Nat → Int) (requestId : String) :
    Except Error (Option Int × Store) := do
  let o ← orFail (q.billingSettlementOutbox.find? requestId)
    (.bail "settlement outbox row missing")
  let r ← orFail (q.billingReservations.find? requestId) (.bail "Query returned no rows")
  if r.state.terminal ∨ o.state = .done then
    confirmSettled q (now 0) requestId o r
  else applySettlement q now requestId o r

/-- The failure write of `sqlite_settle_request` and
`sqlite_cancel_request`. -/
def recordFailure (q : Store) (ts : Int) (requestId : String) (err : Error) :
    Store :=
  match q.billingSettlementOutbox.find? requestId with
  | none => q
  | some o =>
    { q with
      billingSettlementOutbox := q.billingSettlementOutbox.put requestId
        { o with attempts := o.attempts + 1, lastError := some err,
                 updatedTs := ts,
                 nextAttemptTs := ts + min 60 (max 1 (o.attempts + 1)) } }

/-- Enqueue, then apply: the body that `sqlite_settle_request` and
`sqlite_cancel_request` share. `now 0` is the enqueue's clock. -/
def enqueueAndProcess (q : Store) (now : Nat → Int)
    (requestId accountId key : String) (holdNano actualNano : Int)
    (reference : Option String) (usage : Option UsageEventInput)
    (disposition : Disposition) : Except Error (Option Int) × Store :=
  match enqueueSettlement q (now 0) requestId accountId key holdNano actualNano
      reference usage disposition with
  | .error e => (.error e, q)
  | .ok (some balance, q₁) => (.ok (some balance), q₁)
  | .ok (none, q₁) =>
    match processSettlement q₁ (fun k => now (k + 1)) requestId with
    | .ok (balance, q₂) => (.ok balance, q₂)
    | .error e => (.error e, recordFailure q₁ (now 4) requestId e)

/-- `sqlite_settle_request`. -/
def settleRequest (q : Store) (now : Nat → Int)
    (requestId accountId key : String) (holdNano actualNano : Int)
    (reference : Option String) (usage : Option UsageEventInput) :
    Except Error (Option Int) × Store :=
  enqueueAndProcess q now requestId accountId key holdNano actualNano reference usage .settle

/-- `sqlite_cancel_request`. -/
def cancelRequest (q : Store) (now : Nat → Int)
    (requestId accountId key : String) (holdNano : Int) :
    Except Error (Option Int) × Store :=
  enqueueAndProcess q now requestId accountId key holdNano 0 none none .cancel

end ApiToken.Registry.Sqlite
