import ApiToken.Lib.Fallible
import ApiToken.Lib.Run
import ApiToken.Lib.Table

/-!
# Payments

The commercial backend takes verified payment events from its providers and
turns them into work for the engine: one credit for a paid checkout, one
debit when it is refunded. Events, the credit worker and the adjustment
worker each run in transactions of their own; a worker calls the engine
between the transaction that claims a job and the one that closes it, and it
may die anywhere.

By the unique indexes a checkout has at most one payment, a payment one
credit and one refund adjustment, so these rows are kept with their checkout.
-/

namespace ApiToken.Commerce

/-! ## Data -/

/-- `PaymentProviderCode`. -/
inductive Provider where
  | cryptomus
  | platega
deriving DecidableEq

def Provider.code : Provider → String
  | .cryptomus => "cryptomus"
  | .platega => "platega"

inductive CheckoutState where
  | creating
  | pending
  | paid
  | canceled
  | refunded
  | failed
deriving DecidableEq

inductive VerifiedPaymentState where
  | pending
  | paid
  | canceled
  | refunded

inductive PaymentStatus where
  | pending
  | paid
  | failed
  | refunded
  | disputed
deriving DecidableEq

inductive JobStatus where
  | pending
  | processing
  | retry
  | confirmed
  | dead
deriving DecidableEq

def nanoUsd : Int := 1000000000

/-- A `checkout_sessions` row, with its two check constraints. -/
structure Checkout where
  userId : String
  engineAccountId : String
  provider : Provider
  amountUsd : Int
  amountNano : Int
  providerPaymentId : Option String
  status : CheckoutState
  positive : 0 < amountUsd
  exact : amountNano = amountUsd * nanoUsd

structure Payment where
  id : String
  userId : String
  provider : Provider
  providerPaymentId : String
  amountMinor : Int
  amountNano : Int
  status : PaymentStatus

structure EngineCredit where
  engineAccountId : String
  amountNano : Int
  idempotencyRef : String
  status : JobStatus
  attempts : Nat
  lockedBy : Option String

inductive AdjustmentKind where
  | refund
  | dispute
deriving DecidableEq

/-- The amount is stored with its sign, so a debit is negative. -/
structure EngineAdjustment where
  engineAccountId : String
  kind : AdjustmentKind
  amountNano : Int
  idempotencyRef : String
  status : JobStatus
  attempts : Nat
  lockedBy : Option String

/-- A `payment.reversed` row of `audit_log`. -/
structure Reversal where
  provider : Provider
  kind : AdjustmentKind
  amountNano : Int
  providerEventId : String

/-- A checkout with what hangs on it. -/
structure Sale where
  checkout : Checkout
  payment : Option Payment
  credit : Option EngineCredit
  adjustment : Option EngineAdjustment
  reversals : List Reversal

/-- A `webhook_events` row; the checkout is part of its payload. -/
structure WebhookEvent where
  provider : Provider
  providerEventId : String
  state : VerifiedPaymentState
  checkoutId : String

/-- What the engine applied under a reference. The checkout is for the proofs
only: the one whose worker called first. -/
structure Entry where
  accountId : String
  amountNano : Int
  checkoutId : String

inductive JobKind where
  | credit
  | adjustment

structure Job where
  kind : JobKind
  checkoutId : String
  engineAccountId : String
  /-- For an adjustment the magnitude of the debit. -/
  amountNano : Int
  idempotencyRef : String
  leaseToken : String
  /-- The engine call returned. -/
  answered : Bool

structure Store where
  sales : Table String Sale
  webhookEvents : List WebhookEvent
  engine : Table String Entry
  jobs : List Job

inductive Error where
  | bail (message : String)
  | sql (code : String)

/-! ## Checkouts -/

def putSale (s : Store) (id : String) (sale : Sale) : Store :=
  { s with sales := s.sales.put id sale }

/-- A checkout that no payment has been seen for. -/
def newSale (userId engineAccountId : String) (provider : Provider)
    (amountUsd : Int) (h : 0 < amountUsd) : Sale :=
  { checkout :=
      { userId, engineAccountId, provider, amountUsd,
        amountNano := amountUsd * nanoUsd, providerPaymentId := none,
        status := .creating, positive := h, exact := rfl }
    payment := none, credit := none, adjustment := none, reversals := [] }

def createCheckoutSession (s : Store) (id userId engineAccountId : String)
    (provider : Provider) (amountUsd : Int) : Except Error Store :=
  if h : 0 < amountUsd then do
    failIf (s.sales.find? id).isSome (.sql "23505")
    return putSale s id (newSale userId engineAccountId provider amountUsd h)
  else .error (.bail "checkout amount must be positive whole USD")

def activateCheckoutSession (s : Store) (id providerPaymentId : String) :
    Except Error Store := do
  let sale ← orFail (s.sales.find? id) (.bail "checkout session is not in creating state")
  failIf (sale.checkout.status != .creating) (.bail "checkout session is not in creating state")
  -- `checkout_sessions_provider_payment_uidx`
  failIf (s.sales.any (fun _ other =>
      other.checkout.provider == sale.checkout.provider
        && other.checkout.providerPaymentId == some providerPaymentId))
    (.sql "23505")
  return putSale s id { sale with
    checkout := { sale.checkout with
      providerPaymentId := some providerPaymentId, status := .pending } }

def failCheckoutSession (s : Store) (id : String) : Store :=
  match s.sales.find? id with
  | none => s
  | some sale =>
    if sale.checkout.status = .creating then
      putSale s id { sale with checkout := { sale.checkout with status := .failed } }
    else s

/-! ## Payment events -/

structure VerifiedCheckoutPaymentEvent where
  provider : Provider
  providerEventId : String
  providerPaymentId : String
  checkoutId : String
  state : VerifiedPaymentState
  amountUsd : Int

def stateForCheckout : VerifiedPaymentState → CheckoutState
  | .pending => .pending
  | .paid => .paid
  | .canceled => .canceled
  | .refunded => .refunded

/-- The `CASE` of the checkout update: a paid or refunded checkout does not go
back. -/
def nextCheckoutStatus (old new : CheckoutState) : CheckoutState :=
  if (old = .paid ∨ old = .refunded) ∧ (new = .pending ∨ new = .canceled) then old
  else new

def creditRef (provider : Provider) (providerPaymentId : String) : String :=
  provider.code ++ ":" ++ providerPaymentId

def adjustmentRef (paymentId : String) : String := "refund:" ++ paymentId

/-- Does a sale other than `id` meet `p`? -/
def anyOther (s : Store) (id : String) (p : Sale → Bool) : Bool :=
  s.sales.any (fun id' other => id' != id && p other)

/-- `INSERT INTO payments … ON CONFLICT (provider, provider_payment_id)`, and
the comparison of what is stored. -/
def upsertPayment (s : Store) (id : String) (sale : Sale)
    (input : VerifiedCheckoutPaymentEvent) (proposedPaymentId : String) :
    Except Error Payment := do
  failIf (anyOther s id (fun other => other.payment.any (fun p =>
      p.provider == input.provider && p.providerPaymentId == input.providerPaymentId)))
    (.bail "provider payment ID was reused with different payment data")
  match sale.payment with
  | none => do
      failIf (s.sales.any (fun _ other =>
        other.payment.any (fun p => p.id == proposedPaymentId))) (.sql "23505")
      return { id := proposedPaymentId, userId := sale.checkout.userId,
               provider := input.provider,
               providerPaymentId := input.providerPaymentId,
               amountMinor := input.amountUsd * 100,
               amountNano := sale.checkout.amountNano, status := .paid }
  | some p => do
      -- `payments_checkout_uidx`
      failIf (p.provider != input.provider
        || p.providerPaymentId != input.providerPaymentId) (.sql "23505")
      failIf (p.userId != sale.checkout.userId
          || p.amountMinor != input.amountUsd * 100
          || p.amountNano != sale.checkout.amountNano)
        (.bail "provider payment ID was reused with different payment data")
      return p

/-- `INSERT INTO engine_credits … ON CONFLICT (payment_id)`, and the
comparison of what is stored. -/
def upsertCredit (s : Store) (id : String) (sale : Sale)
    (input : VerifiedCheckoutPaymentEvent) : Except Error EngineCredit :=
  let ref := creditRef input.provider input.providerPaymentId
  match sale.credit with
  | none => do
      failIf (anyOther s id (fun other => other.credit.any (fun c =>
        c.idempotencyRef == ref))) (.sql "23505")
      return { engineAccountId := sale.checkout.engineAccountId,
               amountNano := sale.checkout.amountNano, idempotencyRef := ref,
               status := .pending, attempts := 0, lockedBy := none }
  | some c => do
      failIf (c.engineAccountId != sale.checkout.engineAccountId
          || c.amountNano != sale.checkout.amountNano
          || c.idempotencyRef != ref)
        (.bail "payment already has a different engine credit")
      return c

def applyPaid (s : Store) (id : String) (sale : Sale)
    (input : VerifiedCheckoutPaymentEvent) (proposedPaymentId : String) :
    Except Error Sale := do
  let payment ← upsertPayment s id sale input proposedPaymentId
  let credit ← upsertCredit s id sale input
  return { sale with payment := some payment, credit := some credit }

def EngineCredit.definitelyNeverDelivered (c : EngineCredit) : Bool :=
  c.attempts == 0 && (c.status == .pending || c.status == .dead)

def EngineCredit.revive (c : EngineCredit) : EngineCredit :=
  if c.status = .dead then { c with status := .retry, lockedBy := none } else c

/-- `INSERT INTO engine_adjustments … ON CONFLICT (idempotency_ref)`, and the
comparison of what is stored. -/
def upsertAdjustment (s : Store) (id : String) (sale : Sale) (p : Payment)
    (c : EngineCredit) : Except Error EngineAdjustment := do
  let ref := adjustmentRef p.id
  failIf (anyOther s id (fun other => other.adjustment.any (fun a =>
      a.idempotencyRef == ref)))
    (.bail "payment already has a different engine refund adjustment")
  match sale.adjustment with
  | none =>
    return { engineAccountId := c.engineAccountId, kind := .refund,
             amountNano := -c.amountNano, idempotencyRef := ref,
             status := .pending, attempts := 0, lockedBy := none }
  | some a => do
      failIf (a.engineAccountId != c.engineAccountId
          || a.amountNano != -c.amountNano || a.kind != .refund
          || a.idempotencyRef != ref)
        (.bail "payment already has a different engine refund adjustment")
      return a

def reverse (s : Store) (id : String) (sale : Sale) (p : Payment)
    (c : EngineCredit) (input : VerifiedCheckoutPaymentEvent) :
    Except Error Sale := do
  let reversal : Reversal :=
    { provider := input.provider, kind := .refund, amountNano := c.amountNano,
      providerEventId := input.providerEventId }
  let refunded := { sale with
    payment := some { p with status := .refunded }
    reversals := reversal :: sale.reversals }
  if c.definitelyNeverDelivered then
    return { refunded with
      credit := some { c with status := .dead, lockedBy := none } }
  else do
    let adjustment ← upsertAdjustment s id sale p c
    return { refunded with
      credit := some c.revive, adjustment := some adjustment }

def applyRefunded (s : Store) (id : String) (sale : Sale)
    (input : VerifiedCheckoutPaymentEvent) : Except Error Sale :=
  match sale.payment, sale.credit with
  | some p, some c =>
    if p.status = .refunded ∨ p.status = .disputed then
      .ok { sale with payment := some { p with status := .refunded } }
    else reverse s id sale p c input
  | some p, none => .ok { sale with payment := some { p with status := .refunded } }
  | none, _ => .ok sale

def applyState (s : Store) (id : String) (sale : Sale)
    (input : VerifiedCheckoutPaymentEvent) (proposedPaymentId : String) :
    Except Error (Sale × CheckoutState) :=
  match input.state with
  | .paid =>
    if sale.checkout.status = .refunded then .ok (sale, .refunded)
    else do
      let sale' ← applyPaid s id sale input proposedPaymentId
      return (sale', .paid)
  | .refunded => do
      let sale' ← applyRefunded s id sale input
      return (sale', .refunded)
  | .pending | .canceled => .ok (sale, stateForCheckout input.state)

def applyVerifiedCheckoutPaymentEvent (s : Store)
    (input : VerifiedCheckoutPaymentEvent) (proposedPaymentId : String) :
    Except Error Store := do
  failIf (input.amountUsd ≤ 0) (.bail "payment amount must be positive whole USD")
  if s.webhookEvents.any (fun e => e.provider == input.provider
      && e.providerEventId == input.providerEventId) then
    return s
  else do
    let id := input.checkoutId
    let sale ← orFail (s.sales.find? id)
      (.bail "verified payment does not match a checkout session")
    failIf (sale.checkout.provider != input.provider)
      (.bail "verified payment does not match a checkout session")
    failIf (sale.checkout.providerPaymentId != some input.providerPaymentId)
      (.bail "verified payment ID does not match the checkout session")
    failIf (sale.checkout.amountUsd != input.amountUsd)
      (.bail "verified payment amount does not match the checkout session")
    let (sale', status) ← applyState s id sale input proposedPaymentId
    let checkout := { sale'.checkout with
      status := nextCheckoutStatus sale'.checkout.status status }
    return { putSale s id { sale' with checkout := checkout } with
      webhookEvents :=
        { provider := input.provider, providerEventId := input.providerEventId,
          state := input.state, checkoutId := id } :: s.webhookEvents }

/-! ## The credit worker -/

def JobStatus.claimable : JobStatus → Bool
  | .pending | .retry => true
  | _ => false

/-- `claimNextCredit`, for the row it picks. -/
def claimNextCredit (s : Store) (id leaseToken : String) : Store :=
  match s.sales.find? id with
  | none => s
  | some sale =>
    match sale.credit with
    | none => s
    | some c =>
      if c.status.claimable then
        { putSale s id { sale with
            credit := some { c with
              status := .processing, lockedBy := some leaseToken,
              attempts := c.attempts + 1 } } with
          jobs :=
            { kind := .credit, checkoutId := id,
              engineAccountId := c.engineAccountId,
              amountNano := c.amountNano, idempotencyRef := c.idempotencyRef,
              leaseToken, answered := false } :: s.jobs }
      else s

def closeCredit (s : Store) (id leaseToken : String) (status : JobStatus) :
    Store :=
  match s.sales.find? id with
  | none => s
  | some sale =>
    match sale.credit with
    | none => s
    | some c =>
      if c.status = .processing ∧ c.lockedBy = some leaseToken then
        putSale s id { sale with
          credit := some { c with status := status, lockedBy := none } }
      else s

/-- One row of `recoverStaleCredits`. -/
def recoverStaleCredit (s : Store) (id : String) : Store :=
  match s.sales.find? id with
  | none => s
  | some sale =>
    match sale.credit with
    | none => s
    | some c =>
      if c.status = .processing then
        putSale s id { sale with
          credit := some { c with status := .retry, lockedBy := none } }
      else s

/-! ## The adjustment worker -/

/-- `claimNextAdjustment`, for the row it picks: only a compensation whose
credit is confirmed and whose payment is reversed. -/
def claimNextAdjustment (s : Store) (id leaseToken : String) : Store :=
  match s.sales.find? id with
  | none => s
  | some sale =>
    match sale.payment, sale.credit, sale.adjustment with
    | some p, some c, some a =>
      if a.status.claimable ∧ c.status = .confirmed
          ∧ (p.status = .refunded ∨ p.status = .disputed)
          ∧ a.amountNano < 0 then
        { putSale s id { sale with
            adjustment := some { a with
              status := .processing, lockedBy := some leaseToken,
              attempts := a.attempts + 1 } } with
          jobs :=
            { kind := .adjustment, checkoutId := id,
              engineAccountId := a.engineAccountId,
              amountNano := -a.amountNano, idempotencyRef := a.idempotencyRef,
              leaseToken, answered := false } :: s.jobs }
      else s
    | _, _, _ => s

def closeAdjustment (s : Store) (id leaseToken : String) (status : JobStatus) :
    Store :=
  match s.sales.find? id with
  | none => s
  | some sale =>
    match sale.adjustment with
    | none => s
    | some a =>
      if a.status = .processing ∧ a.lockedBy = some leaseToken then
        putSale s id { sale with
          adjustment := some { a with status := status, lockedBy := none } }
      else s

def recoverStaleAdjustment (s : Store) (id : String) : Store :=
  match s.sales.find? id with
  | none => s
  | some sale =>
    match sale.adjustment with
    | none => s
    | some a =>
      if a.status = .processing then
        putSale s id { sale with
          adjustment := some { a with status := .retry, lockedBy := none } }
      else s

/-! ## The engine -/

/-- The amount a job asks the engine for: `debitAccount` sends the negated
magnitude. -/
def Job.signed (j : Job) : Int :=
  match j.kind with
  | .credit => j.amountNano
  | .adjustment => -j.amountNano

def engineApply (engine : Table String Entry) (j : Job) : Table String Entry :=
  match engine.find? j.idempotencyRef with
  | some _ => engine
  | none =>
    engine.put j.idempotencyRef
      { accountId := j.engineAccountId, amountNano := j.signed,
        checkoutId := j.checkoutId }

/-- A reference applied to another account or amount is a conflict. -/
def engineAccepts (engine : Table String Entry) (j : Job) : Bool :=
  match engine.find? j.idempotencyRef with
  | none => true
  | some e => e.accountId == j.engineAccountId && e.amountNano == j.signed

/-- One engine call of the `i`th job. It may not reach the engine, and its
answer may be lost. -/
def deliver (s : Store) (i : Nat) (reaches returns : Bool) : Store :=
  match s.jobs[i]? with
  | none => s
  | some j =>
    if reaches then
      { s with
        engine := engineApply s.engine j
        jobs := s.jobs.set i
          { j with
            answered := j.answered || (returns && engineAccepts s.engine j) } }
    else s

/-- `confirmCredit` or `confirmAdjustment`, after the engine call returned. -/
def confirm (s : Store) (i : Nat) : Store :=
  match s.jobs[i]? with
  | none => s
  | some j =>
    if j.answered then
      match j.kind with
      | .credit => closeCredit s j.checkoutId j.leaseToken .confirmed
      | .adjustment => closeAdjustment s j.checkoutId j.leaseToken .confirmed
    else s

/-- `retryCredit` or `retryAdjustment`. -/
def retry (s : Store) (i : Nat) : Store :=
  match s.jobs[i]? with
  | none => s
  | some j =>
    match j.kind with
    | .credit => closeCredit s j.checkoutId j.leaseToken .retry
    | .adjustment => closeAdjustment s j.checkoutId j.leaseToken .retry

/-! ## Runs -/

inductive Op where
  | createCheckoutSession (id userId engineAccountId : String)
      (provider : Provider) (amountUsd : Int)
  | activateCheckoutSession (id providerPaymentId : String)
  | failCheckoutSession (id : String)
  | applyVerifiedCheckoutPaymentEvent (input : VerifiedCheckoutPaymentEvent)
      (proposedPaymentId : String)
  | claimNextCredit (id leaseToken : String)
  | recoverStaleCredit (id : String)
  | claimNextAdjustment (id leaseToken : String)
  | recoverStaleAdjustment (id : String)
  | deliver (i : Nat) (reaches returns : Bool)
  | confirm (i : Nat)
  | retry (i : Nat)
  /-- A worker is done with the job, or it died. -/
  | drop (i : Nat)

/-- A transaction that fails is rolled back. -/
def committed (s : Store) : Except Error Store → Store
  | .ok s' => s'
  | .error _ => s

def exec (s : Store) : Op → Store
  | .createCheckoutSession id userId account provider amountUsd =>
    committed s (createCheckoutSession s id userId account provider amountUsd)
  | .activateCheckoutSession id ppid => committed s (activateCheckoutSession s id ppid)
  | .failCheckoutSession id => failCheckoutSession s id
  | .applyVerifiedCheckoutPaymentEvent input proposed =>
    committed s (applyVerifiedCheckoutPaymentEvent s input proposed)
  | .claimNextCredit id lease => claimNextCredit s id lease
  | .recoverStaleCredit id => recoverStaleCredit s id
  | .claimNextAdjustment id lease => claimNextAdjustment s id lease
  | .recoverStaleAdjustment id => recoverStaleAdjustment s id
  | .deliver i reaches returns => deliver s i reaches returns
  | .confirm i => confirm s i
  | .retry i => retry s i
  | .drop i => { s with jobs := s.jobs.eraseIdx i }

def Store.empty : Store :=
  { sales := .empty, webhookEvents := [], engine := .empty, jobs := [] }

end ApiToken.Commerce
