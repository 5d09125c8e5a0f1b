import ApiToken.Lib.Fallible
import ApiToken.Lib.Run
import ApiToken.Lib.Table

/-!
# Free-first funding

How commerce splits what a customer spends into free and real money. The
engine keeps a ledger of top-ups and charges for each of its accounts;
commerce reads it in pages, after a cursor, and keeps for the customer a
balance of free credit and for each charge a usage event with the part that
real money paid. A charge takes free credit first.

Charges are guarded by the unique key of the usage events; top-ups are guarded by
the cursor alone, and the cursor of an account is deleted as soon as the customer
is synced for another account.
-/

namespace ApiToken.Pricing

/-! ## The engine's ledger -/

inductive LedgerKind where
  | topup
  | charge
  | adjust
deriving DecidableEq

structure LedgerEntry where
  id : Nat
  kind : LedgerKind
  /-- `BigInt(entry.amount_nano)`; none when it throws. -/
  amountNano : Option Int
  uncollectedNano : Option Int
  ref : Option String
  ts : Nat
deriving DecidableEq

structure Ledger where
  rows : List LedgerEntry
  sorted : rows.Pairwise (fun e e' => e.id < e'.id)
  positive : ∀ e ∈ rows, 0 < e.id

/-- `getLedgerAfter`. -/
def Ledger.after (l : Ledger) (afterId limit : Nat) : List LedgerEntry :=
  (l.rows.filter (fun e => afterId < e.id)).take limit

/-! ## Evidence -/

inductive PricingError where
  | evidence (message : String)
  | timestamp (message : String)
  /-- A value does not fit the column. -/
  | outOfRange

/-- `paymentProviderSchema`. -/
def paymentProviders : List String := ["cryptomus", "platega"]

def realMoneyRefPrefixes : List String := paymentProviders.map (· ++ ":")

def bonusRefPrefixes : List String :=
  ["signup-bonus:", "promo:", "admin-credit:", "bonus-restore", "welcome"]

def startsWithAny (prefixes : List String) (ref : String) : Bool :=
  prefixes.any (fun p => p.toList.isPrefixOf ref.toList)

/-- Only deposits through a payment provider are real money. -/
def isFreeCreditRef : Option String → Bool
  | none => true
  | some ref => !startsWithAny realMoneyRefPrefixes ref

inductive PricingTopupSource where
  | payment
  | bonus
  | manual

def classifyTopupRef : Option String → PricingTopupSource
  | none => .manual
  | some ref =>
    if ref.toList.all Char.isWhitespace then .manual
    else if startsWithAny realMoneyRefPrefixes ref then .payment
    else if startsWithAny bonusRefPrefixes ref then .bonus
    else .manual

structure Settlement where
  amount : Int
  uncollected : Int
  collected : Int

def ledgerSettlementEvidence (entry : LedgerEntry) :
    Except PricingError Settlement := do
  let amount ← orFail entry.amountNano
    (.evidence "ledger settlement evidence must use exact integers")
  let uncollected ← orFail entry.uncollectedNano
    (.evidence "ledger settlement evidence must use exact integers")
  let invalidCharge := entry.kind = .charge ∧ (amount < 0 ∨ amount < uncollected)
  let invalidNonCharge := entry.kind ≠ .charge ∧ uncollected ≠ 0
  failIf (decide (uncollected < 0 ∨ invalidCharge ∨ invalidNonCharge))
    (.evidence "ledger settlement shortfall contradicts the billed amount")
  return { amount, uncollected,
           collected := if entry.kind = .charge then amount - uncollected else amount }

/-- `Number.MAX_SAFE_INTEGER`. -/
def maxSafeInteger : Nat := 2 ^ 53 - 1

def epochSecondsDate (ts : Nat) (label : String) : Except PricingError Nat := do
  failIf (decide (ts = 0 ∨ maxSafeInteger < ts)) (.timestamp ("invalid " ++ label))
  return ts

/-! ## The customer's tables -/

/-- `(engine_account_id, ledger_entry_id)`. -/
abbrev EntryKey := String × Nat

structure UsageEvent where
  amountNano : Int
  uncollectedNano : Int
  realFundedNano : Int
  occurredAt : Nat

def UsageEvent.collectedNano (ev : UsageEvent) : Int :=
  ev.amountNano - ev.uncollectedNano

/-- The rest of what was collected. -/
def UsageEvent.freeFundedNano (ev : UsageEvent) : Int :=
  ev.collectedNano - ev.realFundedNano

structure UsageTopup where
  ref : Option String
  source : PricingTopupSource
  amountNano : Int
  occurredAt : Nat

structure Customer where
  /-- `customer_profiles.free_balance_nano`. -/
  freeBalanceNano : Int
  /-- `last_ledger_id` by account. -/
  pricingUsageCursors : Table String Nat
  pricingUsageEvents : Table EntryKey UsageEvent
  pricingUsageTopups : Table EntryKey UsageTopup

/-- Insert unless the key is taken: `ON CONFLICT … DO NOTHING`. -/
def recordPricingTopup (topups : Table EntryKey UsageTopup) (accountId : String)
    (entry : LedgerEntry) (amount : Int) :
    Except PricingError (Table EntryKey UsageTopup) := do
  let occurredAt ← epochSecondsDate entry.ts "topup timestamp"
  return match topups.find? (accountId, entry.id) with
    | some _ => topups
    | none => topups.put (accountId, entry.id)
        { ref := entry.ref, source := classifyTopupRef entry.ref,
          amountNano := amount, occurredAt }

def getPricingUsageCursor (c : Customer) (accountId : String) : Customer × Nat :=
  let kept := c.pricingUsageCursors.delete (fun account _ => account != accountId)
  match kept.find? accountId with
  | some last => ({ c with pricingUsageCursors := kept }, last)
  | none => ({ c with pricingUsageCursors := kept.put accountId 0 }, 0)

/-! ## Applying a page -/

structure PageState where
  freeBalance : Int
  lastLedgerId : Nat
  events : Table EntryKey UsageEvent
  topups : Table EntryKey UsageTopup

/-- A row above the cursor. -/
def applyFresh (accountId : String) (st : PageState) (entry : LedgerEntry) :
    Except PricingError PageState := do
  let s ← ledgerSettlementEvidence entry
  if entry.kind = .topup ∧ 0 < s.amount then
    let topups ← recordPricingTopup st.topups accountId entry s.amount
    if isFreeCreditRef entry.ref then
      return { st with topups, freeBalance := st.freeBalance + s.amount }
    else return { st with topups }
  else if entry.kind ≠ .charge ∨ s.amount ≤ 0 then return st
  else
    let occurredAt ← epochSecondsDate entry.ts "event timestamp"
    let fromFree := if s.collected < st.freeBalance then s.collected else st.freeBalance
    match st.events.find? (accountId, entry.id) with
    | some _ => return st
    | none =>
      return { st with
        events := st.events.put (accountId, entry.id)
          { amountNano := s.amount, uncollectedNano := s.uncollected,
            realFundedNano := s.collected - fromFree, occurredAt }
        freeBalance := if 0 < fromFree then st.freeBalance - fromFree else st.freeBalance }

/-- One turn of the loop. -/
def applyEntry (accountId : String) (startCursor : Nat) (st : PageState)
    (entry : LedgerEntry) : Except PricingError PageState :=
  let st' := { st with lastLedgerId := max st.lastLedgerId entry.id }
  if entry.id ≤ startCursor then .ok st' else applyFresh accountId st' entry

/-- The largest `bigint`. -/
def bigintMax : Int := 2 ^ 63 - 1

def applyPricingLedgerPage (c : Customer) (accountId : String)
    (entries : List LedgerEntry) : Except PricingError Customer :=
  if entries = [] then .ok c
  else do
    let ordered := entries.insertionSort (fun e e' => e.id ≤ e'.id)
    let cursor := c.pricingUsageCursors.find? accountId
    let st ← ordered.foldlM (applyEntry accountId (cursor.getD 0))
      { freeBalance := c.freeBalanceNano, lastLedgerId := 0,
        events := c.pricingUsageEvents, topups := c.pricingUsageTopups }
    failIf (decide (bigintMax < st.freeBalance)) .outOfRange
    return {
      freeBalanceNano := st.freeBalance
      pricingUsageEvents := st.events
      pricingUsageTopups := st.topups
      pricingUsageCursors := match cursor with
        | none => c.pricingUsageCursors
        | some last => c.pricingUsageCursors.put accountId (max last st.lastLedgerId) }

/-! ## Runs -/

/-- A row of the customer's ledgers. -/
abbrev Row := String × LedgerEntry

structure Sync where
  customer : Customer
  /-- Where callers can go on reading: what `getPricingUsageCursor` returned,
  and every row that was applied. -/
  positions : List (String × Nat)
  /-- The rows in the order they were first applied in; for the proofs only. -/
  consumed : List Row

def consume (consumed : List Row) (row : Row) : List Row :=
  if row ∈ consumed then consumed else consumed ++ [row]

inductive SyncOp where
  | getPricingUsageCursor (accountId : String)
  /-- A page of any length, read from the start or from any position. -/
  | applyPricingLedgerPage (accountId : String) (afterId limit : Nat)

/-- Each call is one transaction; calls of several workers come in any order. -/
def exec (ledgers : String → Ledger) (s : Sync) : SyncOp → Sync
  | .getPricingUsageCursor accountId =>
    let (customer, last) := Pricing.getPricingUsageCursor s.customer accountId
    { s with customer, positions := (accountId, last) :: s.positions }
  | .applyPricingLedgerPage accountId afterId limit =>
    let page := (ledgers accountId).after afterId limit
    if afterId = 0 ∨ (accountId, afterId) ∈ s.positions then
      match Pricing.applyPricingLedgerPage s.customer accountId page with
      | .error _ => s
      | .ok customer =>
        { customer
          positions := (page.map (fun e => (accountId, e.id))) ++ s.positions
          consumed := (page.map (fun e => (accountId, e))).foldl consume s.consumed }
    else s

def Sync.init : Sync :=
  { customer :=
      { freeBalanceNano := 0, pricingUsageCursors := .empty,
        pricingUsageEvents := .empty, pricingUsageTopups := .empty }
    positions := [], consumed := [] }

/-! ## One pass -/

/-- What a pass over the rows leaves: the free balance, and by charge what
real money paid. -/
structure Funding where
  freeBalance : Int
  realFunded : Table EntryKey Int

def LedgerEntry.freeTopup (e : LedgerEntry) : Int :=
  if e.kind = .topup ∧ isFreeCreditRef e.ref then max 0 (e.amountNano.getD 0) else 0

def LedgerEntry.charges (e : LedgerEntry) : Bool :=
  e.kind = .charge ∧ 0 < e.amountNano.getD 0

def LedgerEntry.collected (e : LedgerEntry) : Int :=
  if e.charges then e.amountNano.getD 0 - e.uncollectedNano.getD 0 else 0

/-- Free credit first. -/
def Funding.next (f : Funding) (row : Row) : Funding :=
  if row.2.charges then
    { freeBalance := f.freeBalance - min row.2.collected f.freeBalance
      realFunded := f.realFunded.put (row.1, row.2.id)
        (row.2.collected - min row.2.collected f.freeBalance) }
  else { f with freeBalance := f.freeBalance + row.2.freeTopup }

def onePass (rows : List Row) : Funding :=
  rows.foldl Funding.next { freeBalance := 0, realFunded := .empty }

end ApiToken.Pricing
