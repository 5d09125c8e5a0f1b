import ApiToken.Lib.Run
import ApiToken.Lib.Table
import ApiToken.Payout.Chain

/-!
# On-chain payouts

The payout engine: a batch of payout rows is prepared, its rows are sent one
by one from the hot wallet, and a poller resolves what was sent. Sending,
cancelling and polling hold the cross-process send lock, so at most one
process is inside them; its position is explicit, one statement or one RPC
call a step. Preparing, releasing and the batch-status updates come in between.
A process may die, or throw, at any step.
-/

namespace ApiToken.Payout

/-! ## Rows -/

inductive PayoutStatus where
  | requested
  | approved
  | rejected
  | paid
deriving DecidableEq

inductive PayoutChainStatus where
  | pending
  | simulated
  | broadcast
  | confirmed
  | failed
deriving DecidableEq

inductive PayoutBatchStatus where
  | preparing
  | prepared
  | sending
  | sent
  | failed
  | canceled
deriving DecidableEq

structure PayoutRow where
  partnerId : String
  amountNano : Int
  status : PayoutStatus
  walletAddress : Option String
  txHash : Option Transfer
  nonce : Option Nat
  rawTx : Option Transfer
  chainStatus : Option PayoutChainStatus
  batchId : Option String
deriving DecidableEq

/-- The row is neither broadcast nor confirmed:
`chain_status IS NULL OR chain_status IN ('pending','simulated','failed')`. -/
def PayoutRow.idle (row : PayoutRow) : Bool :=
  row.chainStatus != some .broadcast && row.chainStatus != some .confirmed

def PayoutRow.sendable (row : PayoutRow) : Bool :=
  row.status != .paid && row.status != .rejected && row.idle

/-- A row as a query returns it, with its id. -/
abbrev Listed := String × PayoutRow

/-! ## The process that holds the send lock -/

/-- What is left of a loop over rows. -/
inductive Queue where
  /-- `send` and `sendOne`: the rows still to send and the next nonce. -/
  | sendRows (rows : List Listed) (nonce : Nat)
  /-- `confirmBroadcasts`: the rows still to look at. -/
  | poll (rows : List Listed)
deriving DecidableEq

/-- One call of `reconcileTransaction`: the row it is about, the rows after
it, and the read provider whose turn it is. -/
structure Reading where
  payout : Listed
  rest : List Listed
  provider : Nat
  /-- For the proofs only: at the nonce read of a provider already asked, the
  nonce was taken and not by a successful transfer of this row. -/
  lost : Bool
deriving DecidableEq

inductive Local where
  -- `send`
  | getPayoutBatch (batchId : String)
  | assertNoneOutstanding (batchId : String)
  | listSendablePayouts (batchId : String)
  -- `sendOne`
  | findRow (payoutId : String)
  | getTargetBatch (target : Listed) (batchId : String)
  | assertNoneOutstandingOne (target : Listed) (batchId : String)
  -- what both do with the rows they are about to send
  | assertPreparedBalances (batchId : String) (rows : List Listed)
  | claimBatch (batchId : String) (rows : List Listed)
  | computeStartNonce (rows : List Listed)
  | loop (queue : Queue)
  -- `sendRow`
  | signTransfer (payout : Listed) (rest : List Listed) (nonce : Nat)
  | markPayoutBroadcast (payoutId : String) (signed : Transfer)
      (rest : List Listed)
  | broadcastRaw (payoutId : String) (signed : Transfer) (rest : List Listed)
      (attempt : Nat)
  | waitForConfirmation (payoutId : String) (signed : Transfer)
      (rest : List Listed)
  | markPayoutConfirmed (payoutId : String) (queue : Queue)
  | markPayoutFailed (payoutId : String) (queue : Queue)
  -- `cancel`
  | cancelPayoutBatch (batchId : String)
  -- `confirmBroadcasts` and `reconcileTransaction`
  | listBroadcastPayouts
  | getTransactionReceipt (r : Reading)
  | getTransaction (r : Reading)
  | getTransactionCount (r : Reading)
  | rebroadcast (payout : Listed) (rest : List Listed)
deriving DecidableEq

/-- The tables, the chain, and the process inside the lock. -/
structure World where
  payouts : Table String PayoutRow
  batches : Table String PayoutBatchStatus
  chain : Chain
  /-- The process inside the send lock. -/
  holder : Option Local
  /-- Batch updates computed by `reconcileBatchState` and not yet written. -/
  batchWrites : List (String × PayoutBatchStatus)
  /-- Every payout id ever given out. -/
  issued : List String
  /-- Every transfer ever saved for a row, before its broadcast. -/
  reserved : List (String × Transfer)

/-- What comes from outside at a step of the process. -/
structure Answer where
  /-- `pendingNonce()`, from whichever provider answers. -/
  pending : Nat
  gasPrice : Nat
  /-- The simulation, the signature or the send RPC succeeded. -/
  ok : Bool
  /-- The provider that answers a read through the pool. -/
  provider : Nat
  /-- The receipt has the required confirmations. -/
  deep : Bool
  /-- The provider has the transaction in its mempool. -/
  known : Bool

/-! ## The database functions -/

namespace World

def step (w : World) (l : Local) : World := { w with holder := some l }

def release (w : World) : World := { w with holder := none }

def putRow (w : World) (id : String) (row : PayoutRow) : World :=
  { w with payouts := w.payouts.put id row }

/-- `getActiveBatch`. -/
def hasActiveBatch (w : World) : Bool :=
  w.batches.any (fun _ s => s == .preparing || s == .prepared || s == .sending)

def listBatchPayouts (w : World) (batchId : String) : List Listed :=
  w.payouts.select (fun _ row => row.batchId == some batchId)
    (fun x y => decide (y.2.amountNano ≤ x.2.amountNano)) w.payouts.rows.length

def listSendablePayouts (w : World) (batchId : String) : List Listed :=
  (w.listBatchPayouts batchId).filter (fun x => x.2.sendable)

/-- Rows stand in the order they were requested in. -/
def listBroadcastPayouts (w : World) (limit : Nat) : List Listed :=
  w.payouts.select
    (fun _ row => row.chainStatus == some .broadcast && row.txHash.isSome)
    (fun _ _ => true) limit

def getMaxOutstandingNonce (w : World) : Option Nat :=
  ((w.payouts.rows.filter
    (fun x => x.2.chainStatus == some .broadcast)).filterMap (fun x => x.2.nonce)).max?

/-- `getPreparedPayoutBalanceProofs` has a proof for the row, for the partner
and the amount it was listed with. -/
def stillPrepared (w : World) (x : Listed) : Bool :=
  match w.payouts.find? x.1 with
  | none => false
  | some row =>
    row.batchId.isSome && row.status == .requested && row.idle
      && row.partnerId == x.2.partnerId && row.amountNano == x.2.amountNano

def transitionPayoutBatchStatus (w : World) (batchId : String)
    (status : PayoutBatchStatus) : World :=
  match w.batches.find? batchId with
  | some .prepared | some .sending => { w with batches := w.batches.put batchId status }
  | _ => w

/-- `UPDATE payouts … WHERE id = $1 AND status = 'requested' AND batch_id IS
NOT NULL`; the transfer is on record from here on. -/
def markPayoutBroadcast (w : World) (id : String) (t : Transfer) : World :=
  match w.payouts.find? id with
  | none => w
  | some row =>
    if row.status = .requested ∧ row.batchId.isSome then
      { w with
        payouts := w.payouts.put id
          { row with
            txHash := some t, nonce := some t.nonce, rawTx := some t,
            chainStatus := some .broadcast }
        reserved := (id, t) :: w.reserved }
    else w

/-- Does the statement of `markPayoutBroadcast` return the batch of the row? -/
def reservesBatch (w : World) (id : String) : Bool :=
  match w.payouts.find? id with
  | none => false
  | some row =>
    match row.batchId with
    | none => false
    | some b => row.status == .requested && (w.batches.find? b).isSome

/-- The unique index on `tx_hash`: another row holds the hash. -/
def hashTaken (w : World) (id : String) (t : Transfer) : Bool :=
  w.payouts.any (fun id' row => id' != id && row.txHash == some t)

def markPayoutConfirmed (w : World) (id : String) : World :=
  match w.payouts.find? id with
  | none => w
  | some row =>
    if row.chainStatus = some .broadcast then
      w.putRow id { row with status := .paid, chainStatus := some .confirmed }
    else w

def markPayoutFailed (w : World) (id : String) : World :=
  match w.payouts.find? id with
  | none => w
  | some row => w.putRow id { row with chainStatus := some .failed, txHash := none }

def releasePayoutRow (w : World) (id : String) : World :=
  match w.payouts.find? id with
  | none => w
  | some row =>
    if row.status ≠ .paid ∧ row.idle then
      w.putRow id { row with status := .rejected }
    else w

def cancelPayoutBatch (w : World) (batchId : String) : World :=
  match w.batches.find? batchId with
  | some .prepared =>
    { w with
      payouts := w.payouts.delete (fun _ row =>
        row.batchId == some batchId && row.status != .paid && row.idle)
      batches := w.batches.put batchId .canceled }
  | _ => w

/-! ## Batch status -/

/-- The status `reconcileBatchState` computes from the rows it reads. -/
def nextBatchStatus (w : World) (batchId : String) : PayoutBatchStatus :=
  let rows := w.listBatchPayouts batchId
  if rows.any (fun x => x.2.chainStatus == some .broadcast) then .sending
  else if rows.any (fun x => x.2.status == .requested && x.2.idle) then .prepared
  else .sent

def readBatchState (w : World) (batchId : String) : World :=
  match w.batches.find? batchId with
  | none | some .sent | some .canceled => w
  | some _ =>
    { w with
      batchWrites := (batchId, w.nextBatchStatus batchId) :: w.batchWrites }

def writeBatchState (w : World) (i : Nat) : World :=
  match w.batchWrites[i]? with
  | none => w
  | some (batchId, next) =>
    { w.transitionPayoutBatchStatus batchId next with
      batchWrites := w.batchWrites.eraseIdx i }

/-- One batch of `finalizeStuckSendingBatches`. -/
def finalizeStuck (w : World) (batches : Table String PayoutBatchStatus)
    (x : String × PayoutBatchStatus) : Table String PayoutBatchStatus :=
  let rows := w.listBatchPayouts x.1
  if x.2 = .sending ∧ rows.all (fun y => y.2.chainStatus != some .broadcast) then
    batches.put x.1
      (if rows.any (fun y => y.2.status == .requested && y.2.idle) then .prepared else .sent)
  else batches

def finalizeStuckSendingBatches (w : World) : World :=
  { w with batches := w.batches.rows.foldl w.finalizeStuck w.batches }

/-! ## Preparing -/

structure Recipient where
  id : String
  partnerId : String
  amountNano : Int
  walletAddress : String

/-- The row `createPayoutBatch` inserts. -/
def newRow (batchId : String) (r : Recipient) : PayoutRow :=
  { partnerId := r.partnerId, amountNano := r.amountNano, status := .requested,
    walletAddress := some r.walletAddress, txHash := none, nonce := none,
    rawTx := none, chainStatus := some .pending, batchId := some batchId }

def insertRow (batchId : String) (w : World) (r : Recipient) : World :=
  { w with
    payouts := w.payouts.put r.id (newRow batchId r)
    issued := r.id :: w.issued }

/-- What `createPayoutBatch` requires of the tables it writes. Ids are
generated by the database, so they are new. -/
def CanCreate (w : World) (batchId : String) (recipients : List Recipient) :
    Prop :=
  w.hasActiveBatch = false ∧ w.batches.find? batchId = none ∧ recipients ≠ []
    ∧ (recipients.map Recipient.id).Nodup
    ∧ ∀ r ∈ recipients, r.id ∉ w.issued ∧ 0 < r.amountNano

instance (w : World) (batchId : String) (recipients : List Recipient) :
    Decidable (w.CanCreate batchId recipients) :=
  inferInstanceAs (Decidable (_ ∧ _ ∧ _ ∧ _ ∧ _))

/-- `createPayoutBatch`, one transaction. That the amounts are the partners'
balances plays no part here. -/
def createPayoutBatch (w : World) (batchId : String)
    (recipients : List Recipient) : World :=
  if w.CanCreate batchId recipients then
    recipients.foldl (insertRow batchId) { w with batches := w.batches.put batchId .prepared }
  else w

/-! ## Steps of the process -/

def sendRetries : Nat := 2

/-- The end of one `sendRow`, or of the look at one broadcast row. -/
def afterBatchRead (w : World) (batchId : String) (next : Local) : World :=
  match w.batches.find? batchId with
  | some .prepared | some .sending => w.step next
  | _ => w.release

def stepLoop (w : World) (a : Answer) : Queue → World
  | .sendRows [] _ => w.release
  | .sendRows (x :: rest) nonce =>
    if x.2.walletAddress.isNone ∨ ¬ a.ok then
      w.step (.markPayoutFailed x.1 (.sendRows rest nonce))
    else w.step (.signTransfer x rest nonce)
  | .poll [] => w.release
  | .poll (x :: rest) =>
    w.step (.getTransactionReceipt { payout := x, rest, provider := 0, lost := false })

/-- The signature is offline; the hash is known before anything is sent. -/
def stepSign (w : World) (a : Answer) (x : Listed) (rest : List Listed)
    (nonce : Nat) : World :=
  match x.2.walletAddress, a.ok with
  | some wallet, true =>
    w.step (.markPayoutBroadcast x.1
      { recipient := wallet, amountNano := x.2.amountNano, nonce,
        gasPrice := a.gasPrice } rest)
  | _, _ => w.step (.markPayoutFailed x.1 (.sendRows rest nonce))

/-- Hash, nonce and raw transaction are saved before the broadcast. A hash
that another row holds violates the unique index, which aborts the call. -/
def stepReserve (w : World) (id : String) (t : Transfer) (rest : List Listed) :
    World :=
  if w.hashTaken id t then w.release
  else if w.reservesBatch id then
    (w.markPayoutBroadcast id t).step (.broadcastRaw id t rest 0)
  else (w.markPayoutBroadcast id t).step (.loop (.sendRows rest t.nonce))

/-- The same raw transaction is sent up to `SEND_RETRIES` more times; when
all fail the queue stops and the row stays `broadcast`. -/
def stepBroadcast (w : World) (a : Answer) (id : String) (t : Transfer)
    (rest : List Listed) (attempt : Nat) : World :=
  let w' := { w with chain := w.chain.attempt t }
  if a.ok then w'.step (.waitForConfirmation id t rest)
  else if attempt = sendRetries then w'.release
  else w'.step (.broadcastRaw id t rest (attempt + 1))

def stepWait (w : World) (a : Answer) (id : String) (t : Transfer)
    (rest : List Listed) : World :=
  match receipt (w.chain.view a.provider) t, a.deep with
  | some true, true => w.step (.markPayoutConfirmed id (.sendRows rest (t.nonce + 1)))
  | some false, true => w.step (.markPayoutFailed id (.sendRows rest (t.nonce + 1)))
  | _, _ => w.release

/-! ## Polling one row -/

/-- `reconcileTransaction` returns null: the saved raw transaction is sent
again. -/
def unresolved (w : World) (r : Reading) : World :=
  w.step (.rebroadcast r.payout r.rest)

def stepReceipt (w : World) (a : Answer) (r : Reading) : World :=
  match r.payout.2.txHash with
  | none => w.step (.loop (.poll r.rest))
  | some t =>
    match receipt (w.chain.view r.provider) t with
    | none => w.step (.getTransaction r)
    | some ok =>
      if a.deep then
        if ok then w.step (.markPayoutConfirmed r.payout.1 (.poll r.rest))
        else w.step (.markPayoutFailed r.payout.1 (.poll r.rest))
      else w.unresolved r

def stepTransaction (w : World) (a : Answer) (r : Reading) : World :=
  match r.payout.2.txHash with
  | none => w.unresolved r
  | some t =>
    if a.known ∨ (receipt (w.chain.view r.provider) t).isSome
        ∨ r.payout.2.nonce = none then
      w.unresolved r
    else w.step (.getTransactionCount r)

/-- What a nonce read adds to `Reading.lost`. -/
def lostAt (w : World) (r : Reading) : Bool :=
  match r.payout.2.txHash with
  | none => false
  | some t => receipt (w.chain.view r.provider) t != some true

/-- The confirmed nonce. The counters `successful` and `consumed` both stand
at the number of providers passed; after the last one the verdict is
`nonce_consumed`. -/
def stepCount (w : World) (r : Reading) : World :=
  if (w.chain.view r.provider).length ≤ r.payout.2.nonce.getD 0 then
    w.unresolved r
  else if r.provider + 1 < w.chain.views.length then
    w.step (.getTransactionReceipt
      { r with
        provider := r.provider + 1
        lost := r.lost || w.lostAt r })
  else w.step (.markPayoutFailed r.payout.1 (.poll r.rest))

def stepRebroadcast (w : World) (x : Listed) (rest : List Listed) : World :=
  match x.2.rawTx with
  | none => w.step (.loop (.poll rest))
  | some t => { w with chain := w.chain.attempt t }.step (.loop (.poll rest))

/-- `sendOne` refuses a row it must not send. -/
def stepFindRow (w : World) (id : String) : World :=
  match w.payouts.find? id with
  | none => w.release
  | some row =>
    match row.sendable, row.batchId with
    | true, some b => w.step (.getTargetBatch (id, row) b)
    | _, _ => w.release

/-- One step of the process that holds the lock. -/
def advance (w : World) (a : Answer) : Local → World
  | .getPayoutBatch b => w.afterBatchRead b (.assertNoneOutstanding b)
  | .assertNoneOutstanding b =>
    if w.getMaxOutstandingNonce.isSome then w.release
    else w.step (.listSendablePayouts b)
  | .listSendablePayouts b =>
    if w.listSendablePayouts b = [] then w.release
    else w.step (.assertPreparedBalances b (w.listSendablePayouts b))
  | .findRow id => w.stepFindRow id
  | .getTargetBatch x b => w.afterBatchRead b (.assertNoneOutstandingOne x b)
  | .assertNoneOutstandingOne x b =>
    if w.getMaxOutstandingNonce.isSome then w.release
    else w.step (.assertPreparedBalances b [x])
  | .assertPreparedBalances b rows =>
    if rows.all w.stillPrepared then w.step (.claimBatch b rows) else w.release
  | .claimBatch b rows =>
    (w.transitionPayoutBatchStatus b .sending).afterBatchRead b (.computeStartNonce rows)
  | .computeStartNonce rows =>
    w.step (.loop (.sendRows rows
      (match w.getMaxOutstandingNonce with
      | none => a.pending
      | some n => max a.pending (n + 1))))
  | .loop q => w.stepLoop a q
  | .signTransfer x rest nonce => w.stepSign a x rest nonce
  | .markPayoutBroadcast id t rest => w.stepReserve id t rest
  | .broadcastRaw id t rest attempt => w.stepBroadcast a id t rest attempt
  | .waitForConfirmation id t rest => w.stepWait a id t rest
  | .markPayoutConfirmed id q => (w.markPayoutConfirmed id).step (.loop q)
  | .markPayoutFailed id q => (w.markPayoutFailed id).step (.loop q)
  | .cancelPayoutBatch b => (w.cancelPayoutBatch b).release
  | .listBroadcastPayouts => w.step (.loop (.poll (w.listBroadcastPayouts 100)))
  | .getTransactionReceipt r => w.stepReceipt a r
  | .getTransaction r => w.stepTransaction a r
  | .getTransactionCount r => w.stepCount r
  | .rebroadcast x rest => w.stepRebroadcast x rest

end World

/-- What stays true through a step of the process inside the send lock, when it
does through all that the step does to the world. -/
structure AdvanceKeeps (P : World → Prop) (w : World) (l : Local) : Prop where
  here : P w
  step : ∀ {w'}, P w' → ∀ l', P (w'.step l')
  release : ∀ {w'}, P w' → P w'.release
  read : ∀ {w'}, P w' → ∀ batchId next, P (w'.afterBatchRead batchId next)
  transition : ∀ batchId status, P (w.transitionPayoutBatchStatus batchId status)
  confirmed : ∀ id, P (w.markPayoutConfirmed id)
  failed : ∀ id, P (w.markPayoutFailed id)
  cancelled : ∀ batchId, P (w.cancelPayoutBatch batchId)
  broadcast : ∀ {id t rest}, l = .markPayoutBroadcast id t rest → P (w.markPayoutBroadcast id t)
  attempt : ∀ t, (∃ id rest attempt, l = .broadcastRaw id t rest attempt) ∨
    (∃ x rest, l = .rebroadcast x rest ∧ x.2.rawTx = some t) →
    P { w with chain := w.chain.attempt t }

theorem AdvanceKeeps.advance {P : World → Prop} {w : World} {l : Local} (h : AdvanceKeeps P w l)
    (a : Answer) : P (w.advance a l) := by
  cases l with
  | getPayoutBatch b | getTargetBatch x b => exact h.read h.here b _
  | assertNoneOutstanding b | listSendablePayouts b | assertNoneOutstandingOne x b =>
    simp only [World.advance]
    split
    · exact h.release h.here
    · exact h.step h.here _
  | findRow =>
    simp only [World.advance, World.stepFindRow]
    split
    · exact h.release h.here
    · split
      · exact h.step h.here _
      · exact h.release h.here
  | assertPreparedBalances =>
    simp only [World.advance]
    split
    · exact h.step h.here _
    · exact h.release h.here
  | claimBatch b => exact h.read (h.transition b _) b _
  | computeStartNonce rows | listBroadcastPayouts => exact h.step h.here _
  | loop =>
    simp only [World.advance, World.stepLoop]
    split
    · exact h.release h.here
    · split <;> exact h.step h.here _
    · exact h.release h.here
    · exact h.step h.here _
  | signTransfer =>
    simp only [World.advance, World.stepSign]
    split <;> exact h.step h.here _
  | markPayoutBroadcast =>
    simp only [World.advance, World.stepReserve]
    split
    · exact h.release h.here
    · split <;> exact h.step (h.broadcast rfl) _
  | broadcastRaw _ t _ attempt =>
    have hsend := h.attempt t (.inl ⟨_, _, _, rfl⟩)
    simp only [World.advance, World.stepBroadcast]
    split
    · exact h.step hsend _
    · split
      · exact h.release hsend
      · exact h.step hsend _
  | waitForConfirmation =>
    simp only [World.advance, World.stepWait]
    split
    · exact h.step h.here _
    · exact h.step h.here _
    · exact h.release h.here
  | markPayoutConfirmed id => exact h.step (h.confirmed id) _
  | markPayoutFailed id => exact h.step (h.failed id) _
  | cancelPayoutBatch b => exact h.release (h.cancelled b)
  | getTransactionReceipt =>
    simp only [World.advance, World.stepReceipt]
    split
    · exact h.step h.here _
    · split
      · exact h.step h.here _
      · split
        · split <;> exact h.step h.here _
        · exact h.step h.here _
  | getTransaction =>
    simp only [World.advance, World.stepTransaction]
    split
    · exact h.step h.here _
    · split <;> exact h.step h.here _
  | getTransactionCount =>
    simp only [World.advance, World.stepCount]
    split
    · exact h.step h.here _
    · split <;> exact h.step h.here _
  | rebroadcast x rest =>
    simp only [World.advance, World.stepRebroadcast]
    split
    · exact h.step h.here _
    · rename_i t hraw
      exact h.step (h.attempt t (.inr ⟨x, rest, rfl, hraw⟩)) _

/-! ## Runs -/

/-- The calls that take the send lock. -/
inductive Task where
  | send (batchId : String)
  | sendOne (payoutId : String)
  | cancel (batchId : String)
  | confirmBroadcasts

def Task.entry : Task → Local
  | .send b => .getPayoutBatch b
  | .sendOne id => .findRow id
  | .cancel b => .cancelPayoutBatch b
  | .confirmBroadcasts => .listBroadcastPayouts

/-- One step of the payout service. -/
inductive Event where
  | prepare (batchId : String) (recipients : List World.Recipient)
  | release (payoutId : String)
  /-- The two halves of a `reconcileBatchState`, called from wherever. -/
  | readBatchState (batchId : String)
  | writeBatchState (i : Nat)
  | finalizeStuckSendingBatches
  /-- A process gets the send lock, if it is free. -/
  | acquire (task : Task)
  /-- The process inside the lock takes a step. -/
  | advance (a : Answer)
  /-- It dies or throws. -/
  | crash
  -- the chain and its providers
  | mine (t : Transfer) (ok : Bool)
  | mineOther
  | sync (provider shown : Nat)

def exec (w : World) : Event → World
  | .prepare b recipients => w.createPayoutBatch b recipients
  | .release id => w.releasePayoutRow id
  | .readBatchState b => w.readBatchState b
  | .writeBatchState i => w.writeBatchState i
  | .finalizeStuckSendingBatches => w.finalizeStuckSendingBatches
  | .acquire task =>
    match w.holder with
    | some _ => w
    | none => w.step task.entry
  | .advance a =>
    match w.holder with
    | some l => w.advance a l
    | none => w
  | .crash => w.release
  | .mine t ok => { w with chain := w.chain.mine t ok }
  | .mineOther => { w with chain := w.chain.mineOther }
  | .sync p v => { w with chain := w.chain.sync p v }

def World.init (moreProviders : Nat) : World :=
  { payouts := .empty, batches := .empty, holder := none, batchWrites := [],
    issued := [], reserved := []
    chain := { mined := [], attempted := [],
               views := List.replicate (moreProviders + 1) 0 } }

end ApiToken.Payout
