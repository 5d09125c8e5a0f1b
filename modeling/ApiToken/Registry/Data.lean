import ApiToken.Lib.Table
import ApiToken.Registry.RequestFact

/-!
# The billing schema

The rows of the engine's PostgreSQL authority (`migrations_pg/`) that the
reserve / deliver / settle lifecycle reads or writes, and the store that
holds them. Money is in nano-dollars. `bigint` columns are integers with
an explicit range check where a statement computes a new value.
-/

namespace ApiToken.Registry

/-- `ACCOUNT_OVERDRAFT_NANO`: one dollar. -/
def accountOverdraftNano : Int := 1000000000

/-- A value assigned to a `bigint` column; out of range is SQLSTATE 22003. -/
def bigint (x : Int) : Except Error Int :=
  if -9223372036854775808 ≤ x ∧ x ≤ 9223372036854775807 then .ok x
  else .error (.sql "22003")

theorem bigint_eq_ok {x y : Int} (h : bigint x = .ok y) : y = x := by
  unfold bigint at h
  split at h
  · exact (Except.ok.inj h).symm
  · cases h

/-- `char::is_whitespace`: the Unicode `White_Space` property. -/
def isWhiteSpace (c : Char) : Bool :=
  let n := c.toNat
  (9 ≤ n && n ≤ 13) || n == 0x20 || n == 0x85 || n == 0xA0 || n == 0x1680
    || (0x2000 ≤ n && n ≤ 0x200A) || n == 0x2028 || n == 0x2029
    || n == 0x202F || n == 0x205F || n == 0x3000

/-- `value.trim().is_empty()`. -/
def blank (value : String) : Bool := value.toList.all isWhiteSpace

/-- `accounts`. The status is free text of which only `'active'` is
compared. -/
structure Account where
  balanceNano : Int
  spentNano : Int
  reservedNano : Int
  uncollectedNano : Int
  status : String
deriving DecidableEq

/-- `api_keys`, keyed by the key itself. -/
structure ApiKey where
  keyId : String
  accountId : String
  spentNano : Int
  reservedNano : Int
  spendLimitNano : Option Int
  expiresTs : Option Int
  status : String
deriving DecidableEq

structure EngineInstance where
  ownerEpoch : Int
  leaseUntil : Int
  startedTs : Int
  updatedTs : Int
deriving DecidableEq

/-- The caller's claim to an `engine_instances` row. -/
structure Owner where
  instanceId : String
  epoch : Int
deriving DecidableEq

/-- `ExecutionAttempt`: both constructors of the source establish `valid`. -/
structure ExecutionAttempt where
  groupId : Option String
  attempt : Int
  valid : groupId.all isCanonicalUuidV4 ∧ 0 < attempt

/-- `ReservationPricing`: the provider and multiplier pinned at admission. -/
structure ReservationPricing where
  provider : String
  payableMultiplierBp : Int
deriving DecidableEq

def discountProviderIds : List String :=
  ["anthropic", "openai", "google", "kimi", "glm", "tripo3d", "suno"]

def ensureValidProviderDiscount (providerId : String) (multBp : Int) :
    Except Error Unit := do
  bailIf (!discountProviderIds.contains providerId) "unknown provider id"
  bailIf (!(0 ≤ multBp && multBp ≤ 10000)) "mult_bp must be between 0 and 10000"

inductive ReservationState where
  | reserved | delivering | settlementPending | settled | canceled
deriving DecidableEq

/-- `matches!(state, "settled" | "canceled")`. -/
def ReservationState.terminal : ReservationState → Bool
  | .settled | .canceled => true
  | _ => false

/-- `reservations`, keyed by request id. `provider` and
`payable_multiplier_bp` are one optional pair
(`reservations_scalar_pricing_pair`). -/
structure Reservation where
  accountId : String
  key : String
  holdNano : Int
  balanceAfterReserveNano : Int
  ownerInstance : String
  ownerEpoch : Int
  leaseUntil : Int
  state : ReservationState
  actualNano : Option Int
  collectedNano : Option Int
  uncollectedNano : Option Int
  pricing : Option ReservationPricing
  groupId : Option String
  attempt : Int
  measuredNano : Option Int
  createdTs : Int
  updatedTs : Int
  settledTs : Option Int
deriving DecidableEq

/-- `COALESCE(group_id, request_id)`. -/
def Reservation.effectiveGroupId (r : Reservation) (requestId : String) :
    String :=
  r.groupId.getD requestId

/-- The usage columns that the outbox and `usage_events` share. -/
structure UsageColumns where
  model : String := ""
  provider : String := ""
  inputTokens : Int := 0
  outputTokens : Int := 0
  cacheReadTokens : Int := 0
  cacheWrite5mTokens : Int := 0
  cacheWrite1hTokens : Int := 0
  webSearchRequests : Int := 0
  realNano : Int := 0
  speed : String := ""
  inferenceGeo : String := ""
  inputNano : Int := 0
  outputNano : Int := 0
  cacheReadNano : Int := 0
  cacheWrite5mNano : Int := 0
  cacheWrite1hNano : Int := 0
  webSearchNano : Int := 0
  pricedTs : Int := 0
deriving DecidableEq

structure UsageEventInput extends UsageColumns where
  chargeBasisNano : Int := 0
deriving DecidableEq

inductive Disposition where
  | settle | cancel | reconcileFullHold
deriving DecidableEq

/-- The payload columns of a `settlement_outbox` row: what an enqueue
persists and what a replay is compared with. -/
structure Intent where
  actualNano : Int
  disposition : Disposition
  reference : Option String
  usage : UsageColumns
  chargeBasisNano : Option Int
  terminal : Option RequestFactTerminalEvidence
deriving DecidableEq

inductive OutboxState where
  | pending | processing | done | failed
deriving DecidableEq

/-- `settlement_outbox`, keyed by request id. -/
structure OutboxRow where
  intent : Intent
  state : OutboxState
  attempts : Int
  nextAttemptTs : Int
  lastError : Option Error
  createdTs : Int
  updatedTs : Int
  committedTs : Option Int
deriving DecidableEq

/-- `execution_group_winner`, keyed by group id. -/
structure GroupWinner where
  winnerRequestId : String
  decidedAt : Int
deriving DecidableEq

inductive LedgerKind where
  | topup | adjust | charge
deriving DecidableEq

/-- `ledger`, in id order. -/
structure LedgerRow where
  accountId : String
  key : Option String
  kind : LedgerKind
  requestId : Option String
  amountNano : Int
  ref : Option String
  balanceAfterNano : Int
  ts : Int
  model : Option String
  provider : Option String
  officialNano : Option Int
  payableMultiplierBp : Option Int
  uncollectedNano : Int
deriving DecidableEq

/-- `usage_events`, in id order. -/
structure UsageEvent where
  requestId : String
  accountId : String
  key : String
  usage : UsageColumns
  chargeNano : Int
  ref : Option String
  ts : Int
  payableMultiplierBp : Option Int
  uncollectedNano : Int
  chargeBasisNano : Option Int
deriving DecidableEq

inductive LeaseState where
  | active | released | expired
deriving DecidableEq

/-- `capacity_leases`, keyed by lease id. -/
structure CapacityLease where
  requestId : String
  subscriptionEmail : String
  ownerInstance : String
  ownerEpoch : Int
  state : LeaseState
  leaseUntil : Int
  createdTs : Int
  releasedTs : Option Int
deriving DecidableEq

/-- The engine authority. Request facts are keyed by their billing request
id; facts that no billed request owns are never read here. -/
structure Store where
  accounts : Table String Account
  apiKeys : Table String ApiKey
  engineInstances : Table String EngineInstance
  ownerEpochSeq : Int
  reservations : Table String Reservation
  settlementOutbox : Table String OutboxRow
  executionGroupWinner : Table String GroupWinner
  ledger : List LedgerRow
  usageEvents : List UsageEvent
  requestFacts : Table String RequestFact
  capacityLeases : Table String CapacityLease
deriving DecidableEq

def Account.opened (a : Account) : Prop :=
  a.balanceNano = 0 ∧ a.spentNano = 0 ∧ a.reservedNano = 0 ∧ a.uncollectedNano = 0

instance (a : Account) : Decidable a.opened :=
  inferInstanceAs (Decidable (_ ∧ _))

/-- A fresh authority: accounts and keys are open and unused, nothing has
been admitted. -/
structure Store.Initial (s : Store) : Prop where
  accounts : ∀ id a, s.accounts.find? id = some a → a.opened
  apiKeys : ∀ id k, s.apiKeys.find? id = some k →
    k.spentNano = 0 ∧ k.reservedNano = 0
  reservations : s.reservations = .empty
  settlementOutbox : s.settlementOutbox = .empty
  executionGroupWinner : s.executionGroupWinner = .empty
  ledger : s.ledger = []
  usageEvents : s.usageEvents = []
  requestFacts : s.requestFacts = .empty

def ExecutionAttempt.direct : ExecutionAttempt :=
  { groupId := none, attempt := 1, valid := by decide }

/-- A fresh authority with one account and one key. -/
def soloStore : Store :=
  { accounts := Table.empty.put "acct"
      { balanceNano := 0, spentNano := 0, reservedNano := 0,
        uncollectedNano := 0, status := "active" }
    apiKeys := Table.empty.put "key"
      { keyId := "key-id", accountId := "acct", spentNano := 0,
        reservedNano := 0, spendLimitNano := none, expiresTs := none,
        status := "active" }
    engineInstances := .empty, ownerEpochSeq := 0, reservations := .empty
    settlementOutbox := .empty, executionGroupWinner := .empty, ledger := []
    usageEvents := [], requestFacts := .empty, capacityLeases := .empty }

theorem soloStore_initial : soloStore.Initial where
  accounts := by
    intro id a h
    simp only [soloStore, find?_put, find?_empty] at h
    split at h
    · cases h
      decide
    · cases h
  apiKeys := by
    intro id k h
    simp only [soloStore, find?_put, find?_empty] at h
    split at h
    · cases h
      decide
    · cases h
  reservations := rfl
  settlementOutbox := rfl
  executionGroupWinner := rfl
  ledger := rfl
  usageEvents := rfl
  requestFacts := rfl

inductive FailureClass where
  | fenced | transient | permanent
deriving DecidableEq

/-- `str::contains`. -/
def containsText (needle : List Char) : List Char → Bool
  | [] => needle.isEmpty
  | c :: rest => needle.isPrefixOf (c :: rest) || containsText needle rest

/-- The SQLSTATEs that `classify_failure` retries. -/
def transientSqlStates : List String :=
  ["40001", "40P01", "55P03", "57014", "57P01", "57P02", "57P03", "53300"]

def classifyFailure : Error → FailureClass
  | .bail message =>
    if containsText "owner lease is stale or fenced".toList
        message.toLower.toList
      || containsText "owner was fenced".toList message.toLower.toList then
      .fenced
    else .permanent
  | .sql state =>
    if state.startsWith "08" || transientSqlStates.contains state then
      .transient
    else .permanent

end ApiToken.Registry
