import ApiToken.Payout.Service

/-!
# Partner accounting

What a partner may be paid: the commissions earned, plus the reversal
adjustments (which are negative), less the payouts committed so far. Whoever
creates a payout, sends one or writes an adjustment takes one advisory lock, the
accounting fence: a session takes it before it starts a transaction, or a
transaction takes it as its first statement.

A serializable transaction reads a snapshot that is frozen at its first
statement. In the second form that statement is the lock request, so the
snapshot is from before the lock is granted. Two such transactions that both
read the payouts of a partner and both insert one cannot both commit.
-/

namespace ApiToken.Payout

/-! ## The ledger of a partner -/

/-- A row of `commission_entries` or `commission_entries_v2`. -/
structure CommissionEntry where
  partnerId : String
  amountNano : Int
  createdAt : Int
  positive : 0 < amountNano

/-- A row of `partner_commission_adjustments`. -/
structure CommissionAdjustment where
  partnerId : String
  amountNano : Int
  negative : amountNano < 0
deriving DecidableEq

/-- The tables a balance is computed from. -/
structure Ledger where
  commissionEntries : List CommissionEntry
  commissionEntriesV2 : List CommissionEntry
  adjustments : List CommissionAdjustment
  payouts : Table String PayoutRow

/-- `created_at < $1`, or no boundary. -/
def CommissionEntry.within (e : CommissionEntry) (earnedBefore : Option Int) :
    Bool :=
  match earnedBefore with
  | none => true
  | some boundary => e.createdAt < boundary

def earnedIn (entries : List CommissionEntry) (partnerId : String)
    (earnedBefore : Option Int) : Int :=
  ((entries.filter (fun e => e.partnerId == partnerId
    && e.within earnedBefore)).map CommissionEntry.amountNano).sum

namespace Ledger

def earned (l : Ledger) (partnerId : String) (earnedBefore : Option Int) : Int :=
  earnedIn l.commissionEntries partnerId earnedBefore
    + earnedIn l.commissionEntriesV2 partnerId earnedBefore

def adjustmentsOf (l : Ledger) (partnerId : String) : List CommissionAdjustment :=
  l.adjustments.filter (fun a => a.partnerId == partnerId)

def adjusted (l : Ledger) (partnerId : String) : Int :=
  ((l.adjustmentsOf partnerId).map CommissionAdjustment.amountNano).sum

end Ledger

/-- `status IN ('requested','approved','paid')`. -/
def PayoutStatus.committed : PayoutStatus → Bool
  | .requested | .approved | .paid => true
  | .rejected => false

def PayoutRow.committedTo (row : PayoutRow) (partnerId : String) : Int :=
  if row.partnerId = partnerId ∧ row.status.committed then row.amountNano else 0

namespace Ledger

def committed (l : Ledger) (partnerId : String) : Int :=
  l.payouts.sumBy (fun _ row => row.committedTo partnerId)

/-- `committed.id <> target.id`. -/
def committedOthers (l : Ledger) (partnerId payoutId : String) : Int :=
  l.payouts.sumBy (fun id row => if id = payoutId then 0 else row.committedTo partnerId)

/-- The balance that `requestPayout` and `createPayoutBatch` compute. -/
def unpaid (l : Ledger) (partnerId : String) (earnedBefore : Option Int) : Int :=
  l.earned partnerId earnedBefore + l.adjusted partnerId - l.committed partnerId

/-- `allowed_nano` of a balance proof. -/
def allowed (l : Ledger) (partnerId payoutId : String) (earnedBefore : Int) : Int :=
  l.earned partnerId (some earnedBefore) + l.adjusted partnerId
    - l.committedOthers partnerId payoutId

end Ledger

/-! ## Payouts to be created -/

inductive Request where
  | requestPayout (payoutId partnerId : String) (amountNano : Int)
  | createPayoutBatch (batchId : String) (minNano : Int)
      (earnedBefore : Option Int) (recipients : List World.Recipient)

def Request.partnerIds : Request → List String
  | .requestPayout _ partnerId _ => [partnerId]
  | .createPayoutBatch _ _ _ recipients => recipients.map World.Recipient.partnerId

/-- A creating transaction that waits for the fence, with its snapshot. -/
structure Creation where
  request : Request
  snapshot : Ledger
  /-- How many partners had payouts created for them before the snapshot. -/
  since : Nat

/-- The rows that a send proved covered. -/
structure Proof where
  earnedBefore : Int
  rows : List Listed
  adjustments : List CommissionAdjustment

/-- The payouts with the earnings that cover them. -/
structure Books where
  world : World
  commissionEntries : List CommissionEntry
  commissionEntriesV2 : List CommissionEntry
  adjustments : List CommissionAdjustment
  /-- `earned_before` of each batch. -/
  boundaries : Table String (Option Int)
  /-- The process inside the send lock holds the accounting fence. -/
  fenced : Bool
  waiting : List Creation
  /-- The partners of every committed creation, in order. -/
  createdFor : List String
  /-- The latest proof first. -/
  proofs : List Proof

namespace Books

def ledger (b : Books) : Ledger :=
  { commissionEntries := b.commissionEntries,
    commissionEntriesV2 := b.commissionEntriesV2, adjustments := b.adjustments,
    payouts := b.world.payouts }

/-- The row `requestPayout` inserts. -/
def manualRow (partnerId : String) (amountNano : Int) : PayoutRow :=
  { partnerId, amountNano, status := .requested, walletAddress := none,
    txHash := none, nonce := none, rawTx := none, chainStatus := none,
    batchId := none }

def requestPayout (b : Books) (snapshot : Ledger) (payoutId partnerId : String)
    (amountNano : Int) : Option Books :=
  if 0 < amountNano ∧ amountNano ≤ snapshot.unpaid partnerId none
      ∧ payoutId ∉ b.world.issued then
    some { b with
      world := { b.world with
        payouts := b.world.payouts.put payoutId (manualRow partnerId amountNano)
        issued := payoutId :: b.world.issued } }
  else none

/-- The checks of `createPayoutBatch` on its recipients. -/
def recipientsOk (snapshot : Ledger) (minNano : Int) (earnedBefore : Option Int)
    (recipients : List World.Recipient) : Prop :=
  0 ≤ minNano ∧ (recipients.map World.Recipient.partnerId).Nodup
    ∧ ∀ r ∈ recipients, 0 < r.amountNano ∧ minNano ≤ r.amountNano
        ∧ snapshot.unpaid r.partnerId earnedBefore = r.amountNano

instance (snapshot : Ledger) (minNano : Int) (earnedBefore : Option Int)
    (recipients : List World.Recipient) :
    Decidable (recipientsOk snapshot minNano earnedBefore recipients) :=
  inferInstanceAs (Decidable (_ ∧ _ ∧ _))

def createPayoutBatch (b : Books) (snapshot : Ledger) (batchId : String)
    (minNano : Int) (earnedBefore : Option Int)
    (recipients : List World.Recipient) : Option Books :=
  if recipientsOk snapshot minNano earnedBefore recipients
      ∧ b.world.CanCreate batchId recipients then
    some { b with
      world := b.world.createPayoutBatch batchId recipients
      boundaries := b.boundaries.put batchId earnedBefore }
  else none

def create (b : Books) (snapshot : Ledger) (request : Request) : Books :=
  let created : Option Books := match request with
    | .requestPayout payoutId partnerId amountNano =>
      b.requestPayout snapshot payoutId partnerId amountNano
    | .createPayoutBatch batchId minNano earnedBefore recipients =>
      b.createPayoutBatch snapshot batchId minNano earnedBefore recipients
  match created with
  | none => b
  | some b' => { b' with createdFor := b.createdFor ++ request.partnerIds }

def conflicts (b : Books) (c : Creation) : Bool :=
  (b.createdFor.drop c.since).any (fun p => c.request.partnerIds.contains p)

/-- The first statement of a creating transaction: its snapshot is taken, and
it asks for the fence. -/
def begin (b : Books) (request : Request) : Books :=
  { b with
    waiting := { request, snapshot := b.ledger, since := b.createdFor.length } :: b.waiting }

/-- The fence is granted to the `i`th waiting transaction. -/
def commit (b : Books) (i : Nat) : Books :=
  match b.waiting[i]? with
  | none => b
  | some c =>
    if b.fenced then b
    else
      let b' := { b with waiting := b.waiting.eraseIdx i }
      if b.conflicts c then b' else b'.create c.snapshot c.request

/-- `prepare` holds the fence on its session before the transaction starts. -/
def prepare (b : Books) (request : Request) : Books :=
  if b.fenced then b else b.create b.ledger request

/-- `decidePayout`: only a rejection, and only of a row without a batch. -/
def decidePayout (b : Books) (payoutId : String) : Books :=
  match b.world.payouts.find? payoutId with
  | none => b
  | some row =>
    if row.batchId = none ∧ (row.status = .requested ∨ row.status = .approved) then
      { b with world := b.world.putRow payoutId { row with status := .rejected } }
    else b

/-! ## Sending under the fence -/

/-- The positions of `send` and `sendOne`, which run inside the fence. -/
def inFence : Local → Bool
  | .cancelPayoutBatch _ | .listBroadcastPayouts | .getTransactionReceipt _
  | .getTransaction _ | .getTransactionCount _ | .rebroadcast _ _ => false
  | .loop (.poll _) | .markPayoutConfirmed _ (.poll _)
  | .markPayoutFailed _ (.poll _) => false
  | _ => true

/-- `getPreparedPayoutBalanceProofs`, and the comparison of each proof. -/
def proves (b : Books) (earnedBefore : Int) (rows : List Listed) : Bool :=
  rows.all (fun x => b.world.stillPrepared x
    && decide (x.2.amountNano ≤ b.ledger.allowed x.2.partnerId x.1 earnedBefore))

def assertPreparedBalances (b : Books) (batchId : String) (rows : List Listed) :
    Option Proof :=
  match b.boundaries.find? batchId with
  | some (some earnedBefore) =>
    if b.proves earnedBefore rows then
      some { earnedBefore, rows, adjustments := b.adjustments }
    else none
  | _ => none

/-- The fence goes with the send lock. -/
def unfence (b : Books) : Books :=
  { b with fenced := b.fenced && b.world.holder.isSome }

/-- One step of the process inside the send lock. -/
def advance (b : Books) (a : Answer) (l : Local) : Books :=
  if inFence l && !b.fenced then b
  else match l with
    | .assertPreparedBalances batchId rows =>
      match b.assertPreparedBalances batchId rows with
      | none => { b with world := b.world.release }.unfence
      | some proof =>
        { b with
          world := b.world.advance a l
          proofs := proof :: b.proofs }.unfence
    | l => { b with world := b.world.advance a l }.unfence

def engine (b : Books) (e : Event) : Books :=
  match e with
  | .prepare _ _ => b
  | .advance a =>
    match b.world.holder with
    | none => b
    | some l => b.advance a l
  | e => { b with world := Payout.exec b.world e }.unfence

end Books

/-! ## Runs -/

/-- One transaction on earnings, payouts or the chain. -/
inductive BooksOp where
  | recordReferredSpend (entries : List CommissionEntry)
  | recordReferredSpendV2 (entries : List CommissionEntry)
  /-- `recordPaymentReversalPage`, and the late adjustments of a usage that is
  allocated after its payment was reversed. -/
  | recordAdjustments (rows : List CommissionAdjustment)
  | begin (request : Request)
  | commit (i : Nat)
  | abort (i : Nat)
  | prepare (request : Request)
  | decidePayout (payoutId : String)
  /-- The sender gets the accounting fence. -/
  | fence
  | engine (e : Event)

def Books.exec (b : Books) : BooksOp → Books
  | .recordReferredSpend entries =>
    { b with commissionEntries := entries ++ b.commissionEntries }
  | .recordReferredSpendV2 entries =>
    { b with commissionEntriesV2 := entries ++ b.commissionEntriesV2 }
  | .recordAdjustments rows =>
    if b.fenced then b else { b with adjustments := rows ++ b.adjustments }
  | .begin request => b.begin request
  | .commit i => b.commit i
  | .abort i => { b with waiting := b.waiting.eraseIdx i }
  | .prepare request => b.prepare request
  | .decidePayout id => b.decidePayout id
  | .fence =>
    match b.world.holder with
    | some (.getPayoutBatch _) | some (.findRow _) => { b with fenced := true }
    | _ => b
  | .engine e => b.engine e

def Books.init (moreProviders : Nat) : Books :=
  { world := World.init moreProviders, commissionEntries := [],
    commissionEntriesV2 := [], adjustments := [], boundaries := .empty,
    fenced := false, waiting := [], createdFor := [], proofs := [] }

end ApiToken.Payout
