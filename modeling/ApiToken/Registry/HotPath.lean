import ApiToken.Lib.Conn
import ApiToken.Registry.Sqlite

/-!
# The hot path of the SQLite lane

`account_reserve_for_key`, `account_settle` and `apply_hot_batch` of `lib.rs`,
statement by statement on one connection: the writer calls them without a
request identity, many of them in one transaction. A statement can also fail for
reasons outside the database's contents, a full disk or an I/O error:
`Setting.fails` says which statements of a call do.
-/

namespace ApiToken.Registry.Sqlite

/-- A row of `usage_events` without a request id. -/
structure PlainUsage where
  accountId : String
  key : Option String
  usage : UsageColumns
  chargeNano : Int
  ref : Option String
  ts : Int
  uncollectedNano : Int
  chargeBasisNano : Int
deriving DecidableEq

/-- The database, with the usage rows that no request owns. -/
structure HotStore extends Store where
  plainUsage : List PlainUsage
deriving DecidableEq

/-- What a call meets: the readings of its clocks, and the statements that
fail. -/
structure Setting where
  now : Nat → Int
  fails : Nat → Option Error

abbrev HotConn := Conn HotStore Error

/-! ## Reservations -/

/-- `SELECT balance_nano FROM accounts WHERE id=?1 AND status='active'`. -/
def selectActive (id : String) (q : HotStore) : Except Error (Option Int × HotStore) :=
  match q.accounts.find? id with
  | none => .ok (none, q)
  | some a => if a.status = "active" then .ok (some a.balanceNano, q) else .ok (none, q)

/-- `UPDATE accounts SET balance_nano=balance_nano-?1, … RETURNING balance_nano`. -/
def debitAccount (id : String) (hold : Int) (q : HotStore) :
    Except Error (Option Int × HotStore) :=
  match q.accounts.find? id with
  | none => .ok (none, q)
  | some a =>
    if a.status = "active" ∧ hold - accountOverdraftNano ≤ a.balanceNano then
      .ok (some (a.balanceNano - hold), { q with
        accounts := q.accounts.put id { a with
          balanceNano := a.balanceNano - hold
          reservedNano := a.reservedNano + hold } })
    else .ok (none, q)

/-- The `WHERE` of the key statement. -/
def keyAdmits (key : ApiKey) (accountId : String) (hold clockTs : Int) : Bool :=
  key.accountId = accountId && key.status = "active"
    && key.expiresTs.all (fun expires => clockTs < expires)
    && key.spendLimitNano.all (fun limit => key.spentNano + key.reservedNano + hold ≤ limit)

/-- `SELECT 1 FROM api_keys WHERE …`. -/
def selectKey (id key : String) (clockTs : Int) (q : HotStore) :
    Except Error (Bool × HotStore) :=
  .ok ((q.apiKeys.find? key).any (keyAdmits · id 0 clockTs), q)

/-- `UPDATE api_keys SET reserved_nano=reserved_nano+?1 WHERE …`, and whether
it met a row. -/
def debitKey (id key : String) (hold clockTs : Int) (q : HotStore) :
    Except Error (Bool × HotStore) :=
  match q.apiKeys.find? key with
  | none => .ok (false, q)
  | some k =>
    if keyAdmits k id hold clockTs then
      .ok (true, { q with
        apiKeys := q.apiKeys.put key { k with reservedNano := k.reservedNano + hold } })
    else .ok (false, q)

def reserveFunds (c : Setting) (id : String) (hold : Int) : HotConn (Option Int) :=
  Conn.statement (c.fails 0) (if hold = 0 then selectActive id else debitAccount id hold)

def reservePolicy (c : Setting) (id key : String) (hold : Int) : HotConn Bool :=
  Conn.statement (c.fails 1)
    (if hold = 0 then selectKey id key (c.now 0) else debitKey id key hold (c.now 0))

/-- `account_reserve_for_key`, once the account statement has run: only then is
its answer read. -/
def reserveKeyed (c : Setting) (id key : String) (hold column : Int) :
    HotConn (Option Int) := do
  let balance ← Conn.ofExcept (getI64 column)
  let keyOk ← reservePolicy c id key hold
  pure (if keyOk then some balance else none)

def accountReserveForKeyIn (c : Setting) (id key : String) (holdNano : Int) :
    HotConn (Option Int) :=
  Conn.savepoint do
    let hold := max holdNano 0
    match ← reserveFunds c id hold with
    | none => pure none
    | some column => reserveKeyed c id key hold column

/-! ## Settlements -/

structure PlainSettlement where
  account : Account
  releasedNano : Int
  collectedNano : Int
  uncollectedNano : Int

/-- What `account_settle_in` releases, collects and leaves uncollected, and the
new balance. A hold of which a part is already released counts with the rest. -/
def plainCollection (balanceBefore reservedBefore hold actual : Int) :
    Except Error (Int × Int × Int × Int) :=
  if hold = 0 then do
    let balance ← tryFrom (balanceBefore - actual) "SQLite balance overflow during settlement"
    return (0, actual, 0, balance)
  else do
    let released := min hold reservedBefore
    let collectionFloor := min balanceBefore (-accountOverdraftNano)
    let collectable := min (max (balanceBefore + released - collectionFloor) 0) actual
    let collected ← tryFrom collectable "SQLite collected amount overflow"
    let uncollected ← tryFrom (actual - collected) "SQLite collection exceeds billed amount"
    let balance ← tryFrom (balanceBefore + released - collectable)
      "SQLite balance overflow during settlement"
    return (released, collected, uncollected, balance)

/-- The arithmetic of `account_settle_in`. -/
def settlePlain (account : Account) (hold actual : Int) : Except Error PlainSettlement := do
  let balanceBefore ← getI64 account.balanceNano
  let spentBefore ← getI64 account.spentNano
  let reservedBefore ← getI64 account.reservedNano
  let uncollectedBefore ← getI64 account.uncollectedNano
  let (released, collected, uncollected, balance) ←
    plainCollection balanceBefore reservedBefore hold actual
  let spent ← tryFrom (spentBefore + actual) "SQLite account spend overflow during settlement"
  let accountUncollected ← tryFrom (uncollectedBefore + uncollected)
    "SQLite uncollected aggregate overflow during settlement"
  return {
    account := { account with
      balanceNano := balance
      spentNano := spent
      reservedNano := reservedBefore - released
      uncollectedNano := accountUncollected }
    releasedNano := released
    collectedNano := collected
    uncollectedNano := uncollected }

/-- `SELECT … FROM accounts WHERE id=?1`. -/
def selectAccount (id : String) (q : HotStore) : Except Error (Option Account × HotStore) :=
  .ok (q.accounts.find? id, q)

/-- `UPDATE accounts SET …`, before which a trigger looks at the evidence. -/
def updateAccount (id : String) (account : Account) (q : HotStore) :
    Except Error (Unit × HotStore) := do
  failIf (account.uncollectedNano < 0) (.bail "invalid settlement evidence")
  return ((), { q with accounts := q.accounts.put id account })

/-- `UPDATE api_keys SET …`: a key that is gone is skipped. -/
def updateKey (key : String) (actual released : Int) (q : HotStore) :
    Except Error (Unit × HotStore) :=
  match q.apiKeys.find? key with
  | none => .ok ((), q)
  | some k =>
    .ok ((), { q with
      apiKeys := q.apiKeys.put key { k with
        spentNano := k.spentNano + actual
        reservedNano := max 0 (k.reservedNano - released) } })

/-- The charge row of `ledger_add_settlement`. -/
def plainCharge (ts : Int) (id key : String) (actual : Int) (reference : Option String)
    (usage : Option UsageEventInput) (settled : PlainSettlement) : LedgerRow :=
  { accountId := id, key := some key, kind := .charge, requestId := none,
    amountNano := actual, ref := reference,
    balanceAfterNano := settled.account.balanceNano, ts,
    model := (usage.map (·.model)).filter (· ≠ ""), provider := none,
    officialNano := none, payableMultiplierBp := none,
    uncollectedNano := settled.uncollectedNano }

def ledgerAddSettlement (row : LedgerRow) (q : HotStore) : Except Error (Unit × HotStore) := do
  failIf (row.uncollectedNano < 0) (.bail "invalid settlement evidence")
  return ((), { q with ledger := q.ledger ++ [row] })

def usageEventAddSettlement (row : PlainUsage) (q : HotStore) :
    Except Error (Unit × HotStore) := do
  failIf (row.uncollectedNano < 0 || row.chargeNano < row.uncollectedNano
    || row.chargeBasisNano < 0) (.bail "invalid settlement evidence")
  return ((), { q with plainUsage := q.plainUsage ++ [row] })

def recordCharge (c : Setting) (id key : String) (actual : Int) (reference : Option String)
    (usage : Option UsageEventInput) (settled : PlainSettlement) : HotConn Unit :=
  if 0 < actual then do
    Conn.statement (c.fails 3)
      (ledgerAddSettlement (plainCharge (c.now 0) id key actual reference usage settled))
    match usage with
    | none => pure ()
    | some u =>
      Conn.ignored (Conn.statement (c.fails 4) (usageEventAddSettlement
        { accountId := id, key := some key, usage := u.toUsageColumns, chargeNano := actual,
          ref := reference, ts := c.now 1, uncollectedNano := settled.uncollectedNano,
          chargeBasisNano := u.chargeBasisNano }))
  else pure ()

def accountSettleIn (c : Setting) (id key : String) (holdNano actualNano : Int)
    (reference : Option String) (usage : Option UsageEventInput) : HotConn (Option Int) := do
  let hold := max holdNano 0
  let actual := max actualNano 0
  match ← Conn.statement (c.fails 0) (selectAccount id) with
  | none => pure none
  | some account => do
      let settled ← Conn.ofExcept (settlePlain account hold actual)
      Conn.statement (c.fails 1) (updateAccount id settled.account)
      Conn.statement (c.fails 2) (updateKey key actual settled.releasedNano)
      recordCharge c id key actual reference usage settled
      pure (some settled.account.balanceNano)

def accountSettle (c : Setting) (id key : String) (holdNano actualNano : Int)
    (reference : Option String) (usage : Option UsageEventInput) : HotConn (Option Int) :=
  Conn.transaction (accountSettleIn c id key holdNano actualNano reference usage)

/-! ## Batches -/

inductive HotOp where
  | reserve (accountId key : String) (hold : Int)
  | settle (accountId key : String) (hold actual : Int) (reference : Option String)
      (usage : Option UsageEventInput)

/-- `.ok().flatten()`. -/
def flattened : Except Error (Option Int) → Option Int
  | .ok answer => answer
  | .error _ => none

/-- One operation of a batch. -/
def HotOp.apply (c : Setting) : HotOp → HotConn (Option Int)
  | .reserve id key hold => accountReserveForKeyIn c id key hold
  | .settle id key hold actual reference usage =>
    accountSettleIn c id key hold actual reference usage

/-- The operation by itself. -/
def HotOp.alone (c : Setting) : HotOp → HotConn (Option Int)
  | .reserve id key hold => accountReserveForKeyIn c id key hold
  | .settle id key hold actual reference usage =>
    accountSettle c id key hold actual reference usage

def inOrder (step : Setting → HotOp → HotConn (Option Int)) :
    HotStore → List (HotOp × Setting) → List (Option Int) × HotStore
  | q, [] => ([], q)
  | q, (op, c) :: rest =>
    let (answers, q') := inOrder step (step c op q).2 rest
    (flattened (step c op q).1 :: answers, q')

/-- `apply_hot_batch`, of which the transaction begins and commits. -/
def applyHotBatch : HotStore → List (HotOp × Setting) → List (Option Int) × HotStore :=
  inOrder (fun c op => op.apply c)

/-- The same operations one by one. -/
def oneByOne : HotStore → List (HotOp × Setting) → List (Option Int) × HotStore :=
  inOrder (fun c op => op.alone c)

end ApiToken.Registry.Sqlite
