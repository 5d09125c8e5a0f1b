import ApiToken.Registry.Reserve

/-!
# Settlement

The settlement outbox of `PgStore`: an intent is enqueued in one
transaction and applied in a later one, by whoever drains it first. The
expiry reconciler enqueues intents of its own for reservations whose owner
is gone.
-/

namespace ApiToken.Registry

/-! ## Enqueue -/

/-- The lifecycle that terminal evidence is validated against: that of the
stored fact, or `(0, none)` when there is none. -/
def factLifecycle (s : Store) (requestId : String) : Int × Option Int :=
  match s.requestFacts.find? requestId with
  | none => (0, none)
  | some fact => (fact.admission.admittedAt, fact.deliveryStartedAt)

def validateEvidence (s : Store) (requestId : String)
    (evidence : Option RequestFactTerminalEvidence) : Except Error Unit :=
  match evidence with
  | none => .ok ()
  | some e =>
    e.validateWithDelivery (factLifecycle s requestId).1 (factLifecycle s requestId).2

def persistedIntent (actualNano : Int) (disposition : Disposition)
    (reference : Option String) (usage : Option UsageEventInput)
    (evidence : Option RequestFactTerminalEvidence) : Intent :=
  { actualNano := max actualNano 0, disposition, reference,
    usage := (usage.map (·.toUsageColumns)).getD {},
    chargeBasisNano := usage.map (·.chargeBasisNano), terminal := evidence }

def pendingRow (intent : Intent) (ts : Int) : OutboxRow :=
  { intent, state := .pending, attempts := 0, nextAttemptTs := 0,
    lastError := none, createdTs := ts, updatedTs := ts, committedTs := none }

def Reservation.markPending (r : Reservation) (actual ts : Int) :
    Reservation :=
  if r.state.terminal then r
  else { r with state := .settlementPending, actualNano := some actual,
                updatedTs := ts }

/-- `INSERT INTO settlement_outbox … ON CONFLICT DO NOTHING`, and on a
conflict the comparison of every payload column. -/
def insertIntent (s : Store) (ts : Int) (requestId : String)
    (intent : Intent) : Except Error (Table String OutboxRow) :=
  match s.settlementOutbox.find? requestId with
  | none => .ok (s.settlementOutbox.put requestId (pendingRow intent ts))
  | some row => do
      bailIf (row.intent != intent)
        "settlement request ID conflicts with different outbox payload"
      return s.settlementOutbox

def enqueueOutbox (s : Store) (ts : Int) (requestId : String)
    (actualNano : Int) (disposition : Disposition) (reference : Option String)
    (usage : Option UsageEventInput)
    (evidence : Option RequestFactTerminalEvidence) :
    Except Error (Unit × Store) := do
  let r ← orFail (s.reservations.find? requestId) (.bail "settlement reservation does not exist")
  validateEvidence s requestId evidence
  bailIf (r.state.terminal && r.actualNano.isNone) "terminal reservation lacks actual amount"
  let intent := persistedIntent actualNano disposition reference usage evidence
  -- `settlement_outbox_charge_basis_nonnegative` is checked before the conflict
  failIf (intent.chargeBasisNano.any (· < 0)) (.sql "23514")
  let outbox ← insertIntent s ts requestId intent
  return ((), { s with
    settlementOutbox := outbox
    reservations := s.reservations.put requestId (r.markPending intent.actualNano ts) })

/-! ## Collection -/

/-- The trigger `accounts_settlement_floor_fence`: a charge may not push the
balance below the shared floor, or below the balance it found if that is
deeper. -/
def settlementFloorFence (old new : Account) : Except Error Unit :=
  failIf (old.spentNano < new.spentNano
      && new.balanceNano < (if old.balanceNano < -accountOverdraftNano then
          old.balanceNano else -accountOverdraftNano)) (.sql "40001")

def collectible (balance hold actual : Int) : Int :=
  min actual (max 0 (balance + hold - min balance (-accountOverdraftNano)))

/-- `AccountCollection`, with the row it leaves behind. -/
structure AccountCollection where
  account : Account
  collectedNano : Int
  uncollectedNano : Int

/-- `collect_account_settlement_tx` on the account row. -/
def collectAccount (account : Account) (hold actual : Int) :
    Except Error AccountCollection :=
  if hold = 0 then do
    let balance ← bigint (account.balanceNano - actual)
    let spent ← bigint (account.spentNano + actual)
    let account' := { account with balanceNano := balance, spentNano := spent }
    settlementFloorFence account account'
    return { account := account', collectedNano := actual, uncollectedNano := 0 }
  else do
    bailIf (account.reservedNano < hold) "reservation/account aggregate invariant failed"
    let collected := collectible account.balanceNano hold actual
    let balance ← bigint (account.balanceNano + hold - collected)
    let spent ← bigint (account.spentNano + actual)
    let uncollected ← bigint (account.uncollectedNano + actual - collected)
    let account' :=
      { account with
        balanceNano := balance
        spentNano := spent
        reservedNano := account.reservedNano - hold
        uncollectedNano := uncollected }
    settlementFloorFence account account'
    return { account := account', collectedNano := collected,
             uncollectedNano := actual - collected }

def collectAccountSettlementTx (s : Store) (accountId : String)
    (hold actual : Int) : Except Error AccountCollection := do
  let account ← orFail (s.accounts.find? accountId)
    (.bail "reservation/account aggregate invariant failed")
  collectAccount account hold actual

def settleKey (s : Store) (accountId key : String) (hold effectiveActual : Int) :
    Except Error (Table String ApiKey) :=
  match s.apiKeys.find? key with
  | none => .ok s.apiKeys
  | some row =>
    if row.accountId = accountId ∧ hold ≤ row.reservedNano then do
      let spent ← bigint (row.spentNano + effectiveActual)
      let reserved ← bigint (row.reservedNano - hold)
      return s.apiKeys.put key { row with spentNano := spent, reservedNano := reserved }
    else .error (.bail "reservation/key aggregate invariant failed")

/-! ## Apply -/

def checkPricingPin (pricing : Option ReservationPricing) (intent : Intent) :
    Except Error Unit :=
  match pricing with
  | none => .ok ()
  | some p => do
      ensureValidProviderDiscount p.provider p.payableMultiplierBp
      bailIf (intent.chargeBasisNano.isSome && p.provider != intent.usage.provider)
        "settlement provider differs from the reserve-time pricing pin"

/-- `finalize_terminal`: the first apply writes the outcome, a later one
compares it. -/
def finalizeTerminal (s : Store) (requestId : String)
    (evidence : Option RequestFactTerminalEvidence)
    (outcome : BillingOutcome) : Except Error (Table String RequestFact) :=
  match evidence, s.requestFacts.find? requestId with
  | some e, some fact => do
      e.validateWithDelivery fact.admission.admittedAt fact.deliveryStartedAt
      match fact.terminal with
      | none =>
        return s.requestFacts.put requestId { fact with terminal := some (e, outcome) }
      | some stored => do
          bailIf (stored != (e, outcome))
            "terminal request fact conflicts with durable outbox outcome"
          return s.requestFacts
  | _, _ => .ok s.requestFacts

def billingOutcome (losing : Bool) (disposition : Disposition)
    (canceled : Bool) (actual : Int) : BillingOutcome :=
  if losing then .loser
  else if disposition = .reconcileFullHold then .reconciled
  else if canceled then .canceled
  else if actual = 0 then .zeroMetered
  else .winner

def isLosingAttempt (s : Store) (requestId group : String) (actual : Int) :
    Bool :=
  decide (0 < actual) && (s.executionGroupWinner.find? group).any
    (fun w => w.winnerRequestId != requestId)

def collectionConsistent (r : Reservation) (expected : Int) : Bool :=
  match r.collectedNano, r.uncollectedNano with
  | none, none => r.pricing.isNone
  | some collected, some uncollected =>
    0 ≤ collected && 0 ≤ uncollected && collected + uncollected == expected
  | _, _ => false

/-- `process_outbox_request` on a request that is already terminal: every
stored figure is compared, nothing is charged. -/
def confirmSettled (s : Store) (ts : Int) (requestId : String)
    (o : OutboxRow) (r : Reservation) : Except Error (Option Int × Store) := do
  let losing := isLosingAttempt s requestId (r.effectiveGroupId requestId) o.intent.actualNano
  let expected := if losing then 0 else o.intent.actualNano
  bailIf (r.actualNano != some expected)
    "stored settlement differs from durable execution-group winner"
  checkPricingPin r.pricing o.intent
  bailIf (!collectionConsistent r expected)
    "terminal settlement collection evidence is inconsistent"
  let facts ← finalizeTerminal s requestId o.intent.terminal
    (billingOutcome losing o.intent.disposition (r.state == .canceled) expected)
  return ((s.accounts.find? r.accountId).map (·.balanceNano),
    { s with
      requestFacts := facts
      settlementOutbox := s.settlementOutbox.put requestId
        { o with state := .done, committedTs := some (o.committedTs.getD ts),
                 updatedTs := ts } })

def electWinner (s : Store) (ts : Int) (requestId group : String)
    (actual : Int) : Except Error (Table String GroupWinner) :=
  if 0 < actual then do
    failIf (group == "" || requestId == "") (.sql "23514")
    return match s.executionGroupWinner.find? group with
      | none => s.executionGroupWinner.put group { winnerRequestId := requestId, decidedAt := ts }
      | some _ => s.executionGroupWinner
  else .ok s.executionGroupWinner

def chargeRow (r : Reservation) (requestId : String) (intent : Intent)
    (collection : AccountCollection) (actual ts : Int) : LedgerRow :=
  { accountId := r.accountId, key := some r.key, kind := .charge,
    requestId := some requestId, amountNano := actual, ref := intent.reference,
    balanceAfterNano := collection.account.balanceNano, ts,
    model := if intent.usage.model = "" then none else some intent.usage.model,
    provider := match r.pricing with
      | some p => some p.provider
      | none => if intent.usage.provider = "" then none else some intent.usage.provider,
    officialNano := intent.chargeBasisNano,
    payableMultiplierBp := r.pricing.map (·.payableMultiplierBp),
    uncollectedNano := collection.uncollectedNano }

def usageRow (r : Reservation) (requestId : String) (intent : Intent)
    (collection : AccountCollection) (actual ts : Int) : UsageEvent :=
  { requestId, accountId := r.accountId, key := r.key,
    usage := { intent.usage with
      provider := (r.pricing.map (·.provider)).getD intent.usage.provider },
    chargeNano := actual, ref := intent.reference, ts,
    payableMultiplierBp := r.pricing.map (·.payableMultiplierBp),
    uncollectedNano := collection.uncollectedNano,
    chargeBasisNano := intent.chargeBasisNano }

/-- `INSERT INTO ledger` under the unique index `ledger_request_once`. -/
def insertCharge (ledger : List LedgerRow) (row : LedgerRow) :
    Except Error (List LedgerRow) := do
  failIf (ledger.any (fun x => x.kind == row.kind && x.requestId.isSome
      && x.requestId == row.requestId)) (.sql "23505")
  return ledger ++ [row]

/-- `INSERT INTO usage_events` under its unique request id. -/
def insertUsage (events : List UsageEvent) (row : UsageEvent) :
    Except Error (List UsageEvent) := do
  failIf (events.any (fun x => x.requestId == row.requestId)) (.sql "23505")
  return events ++ [row]

def chargeLedger (s : Store) (ts : Int) (requestId : String) (r : Reservation)
    (intent : Intent) (collection : AccountCollection) (actual : Int) :
    Except Error (List LedgerRow) :=
  if 0 < actual then
    insertCharge s.ledger (chargeRow r requestId intent collection actual ts)
  else .ok s.ledger

def meterUsage (s : Store) (ts : Int) (requestId : String) (r : Reservation)
    (intent : Intent) (collection : AccountCollection) (actual : Int)
    (losing : Bool) : Except Error (List UsageEvent) :=
  if !losing && intent.usage.model != "" then
    insertUsage s.usageEvents (usageRow r requestId intent collection actual ts)
  else .ok s.usageEvents

def Reservation.settle (r : Reservation) (canceled : Bool) (actual : Int)
    (collection : AccountCollection) (ts : Int) : Reservation :=
  { r with
    state := if canceled then .canceled else .settled
    actualNano := some actual
    collectedNano := some collection.collectedNano
    uncollectedNano := some collection.uncollectedNano
    settledTs := some ts
    updatedTs := ts }

/-- `process_outbox_request` on a request that is not terminal yet: the one
transaction that moves its money. -/
def applySettlement (s : Store) (ts : Int) (requestId : String)
    (o : OutboxRow) (r : Reservation) : Except Error (Option Int × Store) := do
  let group := r.effectiveGroupId requestId
  let winners ← electWinner s ts requestId group o.intent.actualNano
  let losing :=
    isLosingAttempt { s with executionGroupWinner := winners } requestId group o.intent.actualNano
  let actual := if losing then 0 else o.intent.actualNano
  let canceled := losing || o.intent.disposition == .cancel
  checkPricingPin r.pricing o.intent
  let collection ← collectAccountSettlementTx s r.accountId r.holdNano actual
  let keys ← settleKey s r.accountId r.key r.holdNano actual
  let ledger ← chargeLedger s ts requestId r o.intent collection actual
  let usage ← meterUsage s ts requestId r o.intent collection actual losing
  let facts ← finalizeTerminal s requestId o.intent.terminal
    (billingOutcome losing o.intent.disposition canceled actual)
  return (some collection.account.balanceNano,
    { s with
      accounts := s.accounts.put r.accountId collection.account
      apiKeys := keys
      executionGroupWinner := winners
      ledger := ledger
      usageEvents := usage
      requestFacts := facts
      reservations := s.reservations.put requestId (r.settle canceled actual collection ts)
      settlementOutbox := s.settlementOutbox.put requestId
        { o with state := .done, attempts := o.attempts + 1,
                 committedTs := some ts, updatedTs := ts,
                 lastError := none } })

def processOutboxRequest (s : Store) (ts : Int) (requestId : String) :
    Except Error (Option Int × Store) :=
  match s.settlementOutbox.find? requestId, s.reservations.find? requestId with
  | some o, some r => do
      validateEvidence s requestId o.intent.terminal
      if o.state = .done ∨ r.state.terminal then
        confirmSettled s ts requestId o r
      else applySettlement s ts requestId o r
  | _, _ => .ok (none, s)

/-! ## Drain -/

/-- The failure write of `drain_outbox`: a permanent failure quarantines the
row, any other is retried a second later. A committed row is left alone. -/
def recordFailure (s : Store) (ts : Int) (requestId : String) (err : Error) :
    Store :=
  match s.settlementOutbox.find? requestId with
  | none => s
  | some o =>
    if o.state = .done then s
    else
      let failed := classifyFailure err = .permanent
      { s with
        settlementOutbox := s.settlementOutbox.put requestId
          { o with
            state := if failed then .failed else .pending
            attempts := o.attempts + 1
            lastError := some err
            nextAttemptTs := if failed then 0 else ts + 1
            updatedTs := ts } }

def clampLimit (limit : Nat) : Nat := max 1 (min limit 10000)

def dueRequests (s : Store) (ts : Int) (limit : Nat) : List String :=
  (s.settlementOutbox.select
    (fun _ o => o.state == .pending && decide (o.nextAttemptTs ≤ ts))
    (fun x y => decide (x.2.createdTs ≤ y.2.createdTs))
    (clampLimit limit)).map Prod.fst

/-- The loop of `drain_outbox`; iteration `k` reads the clock at `2k` to
process and at `2k + 1` to record a failure. -/
def drainRequests (now : Nat → Int) :
    Store → Nat → List String → Nat × Store
  | s, _, [] => (0, s)
  | s, k, id :: ids =>
    match processOutboxRequest s (now (2 * k)) id with
    | .ok (_, s₁) =>
      let (done, s₂) := drainRequests now s₁ (k + 1) ids
      (done + 1, s₂)
    | .error err =>
      drainRequests now (recordFailure s (now (2 * k + 1)) id err) (k + 1) ids

def drainOutbox (s : Store) (ts : Int) (now : Nat → Int) (limit : Nat) :
    Nat × Store :=
  drainRequests now s 0 (dueRequests s ts limit)

/-! ## Expiry -/

def ownerExpired (s : Store) (r : Reservation) (ts : Int) : Bool :=
  match s.engineInstances.find? r.ownerInstance with
  | some i => !(i.ownerEpoch == r.ownerEpoch) || decide (i.leaseUntil < ts)
  | none => true

/-- The rows that `reconcile_expired` reads, oldest first. -/
def expiredReservations (s : Store) (ts : Int) (limit : Nat) :
    List (String × Reservation) :=
  s.reservations.select
    (fun _ r => !r.state.terminal && decide (r.leaseUntil < ts) && ownerExpired s r ts)
    (fun x y => decide (x.2.createdTs ≤ y.2.createdTs))
    (clampLimit limit)

def expiredDeliveryCharge (r : Reservation) (chargeHoldOnUnknownUsage : Bool) :
    Int :=
  match r.measuredNano with
  | some measured => max 0 (min measured r.holdNano)
  | none => if chargeHoldOnUnknownUsage then r.holdNano else 0

/-- The evidence the reconciler synthesises for a request with a fact. -/
def synthesizedTerminal (ts : Int) (state : ReservationState) :
    RequestFactTerminalEvidence :=
  { terminalAt := ts, httpStatusCode := none, providerTerminalClass := .unknown,
    deliveryState := if state = .reserved then .notStarted else .interrupted,
    downstreamDisconnect := none, upstreamRequestId := none,
    firstPublicByteAt := none, internalAttemptCount := none,
    failureClass := none, toolCallsInOutput := none }

/-- The intent `reconcile_expired` enqueues for a row of its snapshot. -/
def reconcileIntent (s : Store) (ts : Int) (chargeHoldOnUnknownUsage : Bool)
    (requestId : String) (r : Reservation) :
    Option (Int × Disposition × Option String × Option RequestFactTerminalEvidence) :=
  let evidence := if (s.requestFacts.find? requestId).isSome then
    some (synthesizedTerminal ts r.state) else none
  match r.state with
  | .reserved => some (0, .cancel, none, evidence)
  | .delivering => some (expiredDeliveryCharge r chargeHoldOnUnknownUsage,
      .reconcileFullHold, some "expired-delivery", evidence)
  | _ => none

structure ReconcileReport where
  canceledBeforeDelivery : Nat := 0
  chargedAfterDelivery : Nat := 0
  processedOutbox : Nat := 0

/-- The counter an enqueued recovery intent goes to. -/
def ReconcileReport.count (report : ReconcileReport) :
    Disposition → ReconcileReport
  | .cancel =>
    { report with
      canceledBeforeDelivery := report.canceledBeforeDelivery + 1 }
  | _ => { report with chargedAfterDelivery := report.chargedAfterDelivery + 1 }

/-- The enqueue loop of `reconcile_expired` over its snapshot `s₀`; an error
aborts it and keeps what is committed. -/
def reconcileRows (s₀ : Store) (ts : Int) (chargeHoldOnUnknownUsage : Bool)
    (now : Nat → Int) : Store → ReconcileReport → Nat →
    List (String × Reservation) → Except Error ReconcileReport × Store
  | s, report, _, [] => (.ok report, s)
  | s, report, k, (id, r) :: rows =>
    match reconcileIntent s₀ ts chargeHoldOnUnknownUsage id r with
    | none => reconcileRows s₀ ts chargeHoldOnUnknownUsage now s report (k + 1) rows
    | some (actual, disposition, reference, evidence) =>
      match enqueueOutbox s (now k) id actual disposition reference none
          evidence with
      | .error e => (.error e, s)
      | .ok (_, s₁) =>
        reconcileRows s₀ ts chargeHoldOnUnknownUsage now s₁
          (report.count disposition) (k + 1) rows

/-- `reconcile_expired`: the enqueue loop, then a drain. -/
def reconcileExpired (s : Store) (ts : Int) (now : Nat → Int) (drainTs : Int)
    (drainNow : Nat → Int) (limit : Nat) (chargeHoldOnUnknownUsage : Bool) :
    Except Error ReconcileReport × Store :=
  match reconcileRows s ts chargeHoldOnUnknownUsage now s {} 0
      (expiredReservations s ts limit) with
  | (.error e, s₁) => (.error e, s₁)
  | (.ok report, s₁) =>
    let (done, s₂) := drainOutbox s₁ drainTs drainNow limit
    (.ok { report with processedOutbox := done }, s₂)

end ApiToken.Registry
