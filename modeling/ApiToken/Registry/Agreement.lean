import ApiToken.Registry.Sqlite
import ApiToken.Registry.Steps

/-!
# The two ledgers agree

`PgStore` and the SQLite lane driven by the same calls. The PostgreSQL side
has owners, request facts and a `settlement_pending` state that the SQLite
side lacks, and either store may refuse a call the other takes. What is
compared is therefore a view: the books of accounts, keys and
reservations, and the ledger without its timestamps. One step of a call
that both stores accept keeps the views equal, and so does a run.
-/

namespace ApiToken.Registry

variable {requestId accountId key : String} {r : Reservation} {o : OutboxRow}
  {ts ts' hold clockTs leaseSecs actual : Int} {reference : Option String}
  {account account' : Account} {execution : ExecutionAttempt}
  {pricing : Option ReservationPricing} {now : Nat → Int} {owner : Owner}
  {disposition : Disposition} {usage : Option UsageEventInput} {b b' : Option Int}
  {collection : AccountCollection} {r' : Sqlite.BillingReservation} {intent : Intent}
  {o' : Sqlite.SettlementOutbox}

/-! ## The books -/

def Account.books (a : Account) : Int × Int × Int × Int :=
  (a.balanceNano, a.spentNano, a.reservedNano, a.uncollectedNano)

def ApiKey.books (k : ApiKey) : String × Int × Int :=
  (k.accountId, k.spentNano, k.reservedNano)

/-- How a reservation ended: its terminal state, the amount billed, and the
collected and uncollected parts. -/
structure Outcome where
  state : ReservationState
  actualNano : Option Int
  collectedNano : Option Int
  uncollectedNano : Option Int

/-- What both stores keep of a reservation. -/
structure ReservationBooks where
  accountId : String
  key : String
  holdNano : Int
  provider : Option String
  payableMultiplierBp : Option Int
  groupId : Option String
  /-- `none` while the reservation is open. -/
  outcome : Option Outcome

def Reservation.books (r : Reservation) : ReservationBooks :=
  { accountId := r.accountId, key := r.key, holdNano := r.holdNano,
    provider := r.pricing.map (·.provider),
    payableMultiplierBp := r.pricing.map (·.payableMultiplierBp),
    groupId := r.groupId,
    outcome := if r.state.terminal then
      some ⟨r.state, r.actualNano, r.collectedNano, r.uncollectedNano⟩ else none }

def Sqlite.BillingReservation.books (r : Sqlite.BillingReservation) :
    ReservationBooks :=
  { accountId := r.accountId, key := r.key, holdNano := r.holdNano,
    provider := r.provider, payableMultiplierBp := r.payableMultiplierBp,
    groupId := r.groupId,
    outcome := if r.state.terminal then
      some ⟨r.state, r.actualNano, r.collectedNano, r.uncollectedNano⟩ else none }

def LedgerRow.entry (row : LedgerRow) : LedgerRow := { row with ts := 0 }

structure SameBooks (s : Store) (q : Sqlite.Store) : Prop where
  /-- Balance, spent, reserved and uncollected of every account. -/
  accounts : Table.SameView Account.books Account.books s.accounts q.accounts
  /-- Spent and reserved of every key. -/
  apiKeys : Table.SameView ApiKey.books ApiKey.books s.apiKeys q.apiKeys
  /-- Every reservation, with its terminal state and split. -/
  reservations : Table.SameView Reservation.books
    Sqlite.BillingReservation.books s.reservations q.billingReservations
  ledger : s.ledger.map LedgerRow.entry = q.ledger.map LedgerRow.entry

/-! ## The calls -/

/-- The two halves of a settlement; the enqueue stays committed when the
apply fails. -/
def thenProcess (s : Store) (ts : Int) (requestId : String)
    (enqueued : Except Error (Unit × Store)) :
    Except Error (Option Int) × Store :=
  match enqueued with
  | .error e => (.error e, s)
  | .ok (_, s₁) =>
    match processOutboxRequest s₁ ts requestId with
    | .error e => (.error e, s₁)
    | .ok (balance, s₂) => (.ok balance, s₂)

/-- `settle_request`, `settle_request_with_request_fact`. -/
def settleRequest (s : Store) (now : Nat → Int) (requestId : String)
    (actualNano : Int) (reference : Option String)
    (usage : Option UsageEventInput)
    (evidence : Option RequestFactTerminalEvidence) :
    Except Error (Option Int) × Store :=
  thenProcess s (now 1) requestId
    (enqueueSettlement s (now 0) requestId actualNano reference usage evidence)

/-- `cancel_request`, `cancel_request_with_request_fact`. -/
def cancelRequest (s : Store) (now : Nat → Int) (requestId : String)
    (evidence : Option RequestFactTerminalEvidence) :
    Except Error (Option Int) × Store :=
  thenProcess s (now 1) requestId (enqueueCancel s (now 0) requestId evidence)

/-- What the caller asks for. `enqueueSettle`, `enqueueCancel` and `process`
are the halves of `settle` and `cancel`: either store may be stopped between
them and apply the intent later. -/
inductive Call where
  | topup (id : String) (amountNano : Int) (reference : Option String)
  | reserve (requestId accountId key : String) (holdNano leaseSecs : Int)
      (execution : ExecutionAttempt) (pricing : Option ReservationPricing)
  | markDelivering (requestId : String) (leaseSecs : Int)
  | settle (requestId accountId key : String) (holdNano actualNano : Int)
      (reference : Option String) (usage : Option UsageEventInput)
  | cancel (requestId accountId key : String) (holdNano : Int)
  | enqueueSettle (requestId accountId key : String) (holdNano actualNano : Int)
      (reference : Option String) (usage : Option UsageEventInput)
  | enqueueCancel (requestId accountId key : String) (holdNano : Int)
  | process (requestId : String)

/-- A call with what each store adds to it: its own clock, and on the
PostgreSQL side the owner and the request-fact evidence. -/
structure Issued where
  call : Call
  pgNow : Nat → Int
  pgClock : Int
  owner : Owner
  fact : Option RequestFactAdmission
  recordFact : Bool
  evidence : Option RequestFactTerminalEvidence
  sqliteNow : Nat → Int
  sqliteClock : Int

section Accept

variable {σ α : Type}

/-- `Ok(Some(_))`. -/
def answered : Except Error (Option Int × σ) → Option σ
  | .ok (some _, s) => some s
  | _ => none

/-- `Ok(true)`. -/
def affirmed : Except Error (Bool × σ) → Option σ
  | .ok (true, s) => some s
  | _ => none

/-- `Ok(_)`. -/
def succeeded : Except Error (α × σ) → Option σ
  | .ok (_, s) => some s
  | _ => none

/-- `Ok(_)` of a call that commits more than once. -/
def finished : Except Error (Option Int) × σ → Option σ
  | (.ok _, s) => some s
  | _ => none

variable {s : σ}

theorem answered_eq_some {x : Except Error (Option Int × σ)} :
    answered x = some s ↔ ∃ b, x = .ok (some b, s) := by
  unfold answered
  split <;> simp_all

theorem affirmed_eq_some {x : Except Error (Bool × σ)} :
    affirmed x = some s ↔ x = .ok (true, s) := by
  unfold affirmed
  split <;> simp_all

theorem succeeded_eq_some {x : Except Error (α × σ)} :
    succeeded x = some s ↔ ∃ a, x = .ok (a, s) := by
  unfold succeeded
  split <;> simp_all

end Accept

def pgCall (s : Store) (c : Issued) : Option Store :=
  match c.call with
  | .topup id amount reference => answered (accountTopup s (c.pgNow 0) id amount reference)
  | .reserve id account key hold lease execution pricing =>
    answered (reserveRequestForExecutionWithPricing s c.pgNow c.pgClock
      c.owner id account key hold lease execution pricing c.fact)
  | .markDelivering id lease =>
    affirmed (markDelivering s (c.pgNow 0) c.owner id lease c.recordFact)
  | .settle id _ _ _ actual reference usage =>
    finished (settleRequest s c.pgNow id actual reference usage c.evidence)
  | .cancel id _ _ _ => finished (cancelRequest s c.pgNow id c.evidence)
  | .enqueueSettle id _ _ _ actual reference usage =>
    succeeded (enqueueSettlement s (c.pgNow 0) id actual reference usage c.evidence)
  | .enqueueCancel id _ _ _ => succeeded (enqueueCancel s (c.pgNow 0) id c.evidence)
  | .process id => succeeded (processOutboxRequest s (c.pgNow 0) id)

def sqliteCall (q : Sqlite.Store) (c : Issued) : Option Sqlite.Store :=
  match c.call with
  | .topup id amount reference =>
    answered (Sqlite.accountTopup q (c.sqliteNow 0) id amount reference)
  | .reserve id account key hold lease execution pricing =>
    answered (Sqlite.reserveRequest q (c.sqliteNow 0) c.sqliteClock id account
      key hold lease execution pricing)
  | .markDelivering id lease => affirmed (Sqlite.markDelivering q (c.sqliteNow 0) id lease)
  | .settle id account key hold actual reference usage =>
    finished (Sqlite.settleRequest q c.sqliteNow id account key hold actual reference usage)
  | .cancel id account key hold =>
    finished (Sqlite.cancelRequest q c.sqliteNow id account key hold)
  | .enqueueSettle id account key hold actual reference usage =>
    succeeded (Sqlite.enqueueSettlement q (c.sqliteNow 0) id account key hold
      actual reference usage .settle)
  | .enqueueCancel id account key hold =>
    succeeded (Sqlite.enqueueSettlement q (c.sqliteNow 0) id account key hold 0 none none .cancel)
  | .process id => succeeded (Sqlite.processSettlement q c.sqliteNow id)

/-! ## The relation a run keeps -/

structure IntentBooks where
  actualNano : Int
  disposition : Disposition
  reference : Option String
  usage : UsageColumns
  chargeBasisNano : Option Int
  done : Bool

def OutboxRow.books (o : OutboxRow) : IntentBooks :=
  { actualNano := o.intent.actualNano, disposition := o.intent.disposition,
    reference := o.intent.reference, usage := o.intent.usage,
    chargeBasisNano := o.intent.chargeBasisNano, done := o.state == .done }

def Sqlite.SettlementOutbox.books (o : Sqlite.SettlementOutbox) : IntentBooks :=
  { actualNano := o.actualNano, disposition := o.disposition,
    reference := o.reference, usage := (o.usage.map (·.toUsageColumns)).getD {},
    chargeBasisNano := o.usage.map (·.chargeBasisNano), done := o.state == .done }

/-- What a lockstep of the stores keeps. -/
structure Agree (s : Store) (q : Sqlite.Store) : Prop extends SameBooks s q where
  outbox : Table.SameView OutboxRow.books Sqlite.SettlementOutbox.books
    s.settlementOutbox q.billingSettlementOutbox
  winners : Table.SameView GroupWinner.winnerRequestId
    GroupWinner.winnerRequestId s.executionGroupWinner q.executionGroupWinner
  holds : ∀ id r, s.reservations.find? id = some r → 0 ≤ r.holdNano
  amounts : ∀ id o, s.settlementOutbox.find? id = some o →
    0 ≤ o.intent.actualNano

variable {s s' : Store} {q q' : Sqlite.Store}

theorem holds_put (h : ∀ id r, s.reservations.find? id = some r → 0 ≤ r.holdNano)
    (hr : 0 ≤ r.holdNano) (id : String) (x : Reservation)
    (hx : (s.reservations.put requestId r).find? id = some x) : 0 ≤ x.holdNano := by
  rw [find?_put] at hx
  split at hx
  · cases hx
    exact hr
  · exact h id x hx

theorem amounts_put
    (h : ∀ id o, s.settlementOutbox.find? id = some o → 0 ≤ o.intent.actualNano)
    (ho : 0 ≤ o.intent.actualNano) (id : String) (x : OutboxRow)
    (hx : (s.settlementOutbox.put requestId o).find? id = some x) :
    0 ≤ x.intent.actualNano := by
  rw [find?_put] at hx
  split at hx
  · cases hx
    exact ho
  · exact h id x hx

/-! ## Top-ups and admission -/

theorem moneyRef?_entry (ledger : List LedgerRow) (reference : String) :
    (moneyRef? ledger reference).map LedgerRow.entry =
      moneyRef? (ledger.map LedgerRow.entry) reference := by
  unfold moneyRef?
  rw [List.find?_map]
  rfl

theorem moneyRef?_agree {l l' : List LedgerRow}
    (h : l.map LedgerRow.entry = l'.map LedgerRow.entry) (reference : Option String) :
    reference.bind (moneyRef? l) = none ↔ reference.bind (moneyRef? l') = none := by
  cases reference with
  | none => simp
  | some ref =>
    have hmap : (moneyRef? l ref).map LedgerRow.entry =
        (moneyRef? l' ref).map LedgerRow.entry := by
      rw [moneyRef?_entry, moneyRef?_entry, h]
    simp only [bind_some]
    rw [← Option.map_eq_none_iff (f := LedgerRow.entry), hmap, Option.map_eq_none_iff]

theorem topup_agree (h : Agree s q) {id : String} {amount : Int} {b b' : Int}
    (hpg : accountTopup s ts id amount reference = .ok (some b, s'))
    (hsq : Sqlite.accountTopup q ts' id amount reference = .ok (some b', q')) :
    Agree s' q' := by
  simp only [accountTopup, Sqlite.accountTopup, ok_steps] at hpg hsq
  obtain ⟨-, hpg⟩ := hpg
  obtain ⟨-, hsq⟩ := hsq
  have hfree := moneyRef?_agree h.ledger reference
  split at hsq
  · simp at hsq
  rename_i account' haccount'
  simp only [bind_eq_ok] at hsq
  obtain ⟨balance', hbalance', hsq⟩ := hsq
  split at hpg
  · rename_i row hrow
    -- a replay on one side is a replay on the other
    simp only [ok_steps] at hpg
    obtain ⟨-, -, rfl⟩ := hpg
    split at hsq
    · rename_i hnone
      rw [hfree.mpr hnone] at hrow
      cases hrow
    · simp only [ok_steps] at hsq
      obtain ⟨-, -, rfl⟩ := hsq
      exact h
  · rename_i hnone
    split at hpg
    · simp at hpg
    rename_i account haccount
    simp only [ok_steps] at hpg
    obtain ⟨balance, hbalance, -, rfl⟩ := hpg
    split at hsq
    · simp only [ok_steps] at hsq
      obtain ⟨-, rfl⟩ := hsq
      obtain ⟨account2, haccount2, hbooks⟩ := h.accounts.row haccount
      rw [haccount'] at haccount2
      cases haccount2
      simp only [Account.books, Prod.mk.injEq] at hbooks
      have hsame : balance = balance' := by
        rw [bigint_eq_ok hbalance, Sqlite.getI64_eq_ok hbalance', hbooks.1]
      subst hsame
      refine { h with accounts := h.accounts.put id ?_, ledger := ?_ }
      · simp only [Account.books, hbooks]
      · simp only [map_append, map_cons, map_nil, h.ledger]
        rfl
    · rename_i row hrow
      rw [hfree.mp hnone] at hrow
      cases hrow

theorem reserveAccount_some {balance : Int}
    (h : Sqlite.reserveAccount account hold = .ok (some (balance, account'))) :
    account' = { account with
      balanceNano := account.balanceNano - hold
      reservedNano := account.reservedNano + hold } := by
  unfold Sqlite.reserveAccount at h
  split at h
  · simp at h
  split at h
  · rename_i hzero
    simp only [ok_steps, some.injEq] at h
    obtain ⟨-, -, -, rfl⟩ := h
    simp [hzero]
  split at h
  · simp at h
  simp only [ok_steps, some.injEq] at h
  obtain ⟨-, -, -, rfl⟩ := h
  rfl

theorem reserveKey_some {key key' : ApiKey}
    (h : Sqlite.reserveKey key accountId hold clockTs = some key') :
    key' = { key with reservedNano := key.reservedNano + hold } := by
  unfold Sqlite.reserveKey at h
  split at h
  · cases h
  split at h
  · cases h
  split at h
  · cases h
  · exact (some.inj h).symm

theorem reserveRequest_some {b : Int}
    (h : Sqlite.reserveRequest q ts clockTs requestId accountId key hold
      leaseSecs execution pricing = .ok (some b, q')) :
    0 ≤ hold ∧ ((q.billingReservations.find? requestId ≠ none ∧ q' = q) ∨
      (q.billingReservations.find? requestId = none ∧
        ∃ account keyRow, q.accounts.find? accountId = some account ∧
          q.apiKeys.find? key = some keyRow ∧
          q' = { q with
            accounts := q.accounts.put accountId
              { account with
                balanceNano := account.balanceNano - hold
                reservedNano := account.reservedNano + hold }
            apiKeys := q.apiKeys.put key
              { keyRow with reservedNano := keyRow.reservedNano + hold }
            billingReservations := q.billingReservations.put requestId
              (Sqlite.newReservation accountId key hold b ts leaseSecs
                execution pricing) })) := by
  have hbody : Sqlite.reserveRequestForExecutionWithPricing q ts clockTs
      requestId accountId key hold leaseSecs execution pricing = .ok (some b, q') := by
    cases pricing with
    | none => exact h
    | some =>
      simp only [Sqlite.reserveRequest, ok_steps] at h
      exact h.2
  simp only [Sqlite.reserveRequestForExecutionWithPricing, ok_steps, bailIf_eq_ok, guard_iffs,
    not_lt] at hbody
  obtain ⟨⟨⟨-, hhold⟩, -⟩, hbody⟩ := hbody
  refine ⟨hhold, ?_⟩
  split at hbody
  · rename_i r hr
    simp only [ok_steps] at hbody
    obtain ⟨-, -, -, rfl⟩ := hbody
    exact Or.inl ⟨by rw [hr]; simp, rfl⟩
  · rename_i hnew
    refine Or.inr ⟨hnew, ?_⟩
    simp only [bind_eq_ok] at hbody
    obtain ⟨reserved, hreserved, hbody⟩ := hbody
    split at hbody
    · simp at hbody
    rename_i balance q1
    split at hbody
    · simp at hbody
    simp only [ok_steps, some.injEq] at hbody
    obtain ⟨rfl, rfl⟩ := hbody
    simp only [Sqlite.accountReserveForKey, Int.max_eq_left hhold] at hreserved
    split at hreserved
    · simp at hreserved
    rename_i account haccount
    simp only [bind_eq_ok] at hreserved
    obtain ⟨held, hheld, hreserved⟩ := hreserved
    split at hreserved
    · simp at hreserved
    rename_i account'
    split at hreserved
    · simp at hreserved
    rename_i keyRow' hkeyRow'
    simp only [ok_steps, some.injEq] at hreserved
    obtain ⟨rfl, rfl⟩ := hreserved
    obtain ⟨keyRow, hkeyRow, hkey⟩ := bind_eq_some_iff.mp hkeyRow'
    obtain rfl := reserveAccount_some hheld
    obtain rfl := reserveKey_some hkey
    exact ⟨account, keyRow, haccount, hkeyRow, rfl⟩

theorem reserve_agree (h : Agree s q) {pgClock : Int} {fact : Option RequestFactAdmission}
    {b b' : Int} (hpg : reserveRequestForExecutionWithPricing s now pgClock owner requestId
      accountId key hold leaseSecs execution pricing fact = .ok (some b, s'))
    (hsq : Sqlite.reserveRequest q ts clockTs requestId accountId key hold
      leaseSecs execution pricing = .ok (some b', q')) : Agree s' q' := by
  obtain ⟨hhold, hsq⟩ := reserveRequest_some hsq
  simp only [reserveRequestForExecutionWithPricing, ok_steps, Int.max_eq_left hhold] at hpg
  obtain ⟨-, -, -, -, hpg⟩ := hpg
  split at hpg
  · rename_i r hr
    simp only [ok_steps] at hpg
    obtain ⟨-, -, -, -, rfl⟩ := hpg
    obtain ⟨r', hr', -⟩ := h.reservations.row hr
    rcases hsq with ⟨-, rfl⟩ | ⟨hnone, -⟩
    · exact h
    · rw [hr'] at hnone
      cases hnone
  · rename_i hnew
    simp only [ok_steps] at hpg
    obtain ⟨-, admitted, hadmit, hpg⟩ := hpg
    split at hpg
    · simp at hpg
    rename_i balance s1
    obtain ⟨account, keyRow, haccount, hkey, -, -, rfl⟩ := admitReservation_some hadmit
    simp only [ok_steps] at hpg
    obtain ⟨facts, -, -, -, rfl⟩ := hpg
    rcases hsq with ⟨hsome, -⟩ | ⟨-, account', keyRow', haccount', hkey', rfl⟩
    · exact absurd (h.reservations.none hnew) hsome
    obtain ⟨account2, haccount2, hbooks⟩ := h.accounts.row haccount
    obtain ⟨keyRow2, hkey2, hkeyBooks⟩ := h.apiKeys.row hkey
    rw [haccount'] at haccount2
    rw [hkey'] at hkey2
    cases haccount2
    cases hkey2
    simp only [Account.books, Prod.mk.injEq] at hbooks
    simp only [ApiKey.books, Prod.mk.injEq] at hkeyBooks
    refine { h with
      accounts := h.accounts.put accountId ?_
      apiKeys := h.apiKeys.put key ?_
      reservations := h.reservations.put requestId ?_
      holds := holds_put h.holds hhold }
    · simp only [Account.books, hbooks]
    · simp only [ApiKey.books, hkeyBooks]
    · rfl

/-! ## Delivery and enqueue -/

theorem markDelivering_agree (h : Agree s q) {recordFact : Bool}
    (hpg : markDelivering s ts owner requestId leaseSecs recordFact = .ok (true, s'))
    (hsq : Sqlite.markDelivering q ts' requestId leaseSecs = .ok (true, q')) :
    Agree s' q' := by
  simp only [Sqlite.markDelivering, ok_steps] at hsq
  obtain ⟨-, hsq⟩ := hsq
  split at hsq
  · simp at hsq
  rename_i r' hr'
  split at hsq
  · rename_i hopen
    simp only [ok_steps, true_and] at hsq
    subst hsq
    have hbooks : Sqlite.BillingReservation.books
        { r' with
          state := .delivering
          leaseUntil := saturatingAdd ts' leaseSecs
          updatedTs := ts' } = r'.books := by
      rcases hopen with hstate | hstate <;>
        simp [Sqlite.BillingReservation.books, ReservationState.terminal, hstate]
    have hq : Agree s { q with
        billingReservations := q.billingReservations.put requestId
          { r' with
            state := .delivering
            leaseUntil := saturatingAdd ts' leaseSecs
            updatedTs := ts' } } :=
      { h with reservations := h.reservations.put_right hr' hbooks }
    simp only [markDelivering, ok_steps] at hpg
    obtain ⟨-, hpg⟩ := hpg
    split at hpg
    · simp at hpg
    rename_i r hr
    obtain ⟨hr, -⟩ := filter_eq_some_iff.mp hr
    split at hpg
    · rename_i hstate
      simp only [ok_steps, true_and] at hpg
      obtain ⟨facts, -, rfl⟩ := hpg
      refine { hq with
        reservations := hq.reservations.put_left hr ?_
        holds := holds_put h.holds (h.holds requestId r hr) }
      simp [Reservation.books, ReservationState.terminal, hstate]
    · simp only [ok_steps, true_and] at hpg
      obtain ⟨facts, -, rfl⟩ := hpg
      exact { hq with }
    · simp only [ok_steps, true_and] at hpg
      subst hpg
      exact hq
    · simp only [ok_steps, true_and] at hpg
      subst hpg
      exact hq
    · simp at hpg
  · simp at hsq

theorem markPending_books (r : Reservation) (actual ts : Int) :
    (r.markPending actual ts).books = r.books := by
  unfold Reservation.markPending
  split
  · rfl
  · rename_i hopen
    have hpending : ReservationState.settlementPending.terminal = false := rfl
    simp [Reservation.books, hopen, hpending]

theorem enqueue_agree (h : Agree s q) {evidence : Option RequestFactTerminalEvidence}
    {u : Unit} (hpg : enqueueOutbox s ts requestId actual disposition reference usage
      evidence = .ok (u, s'))
    (hsq : Sqlite.enqueueSettlement q ts' requestId accountId key hold actual
      reference usage disposition = .ok (b, q')) : Agree s' q' := by
  simp only [enqueueOutbox, ok_steps] at hpg
  obtain ⟨r, hr, -, -, -, outbox, hinsert, -, rfl⟩ := hpg
  simp only [Sqlite.enqueueSettlement, ok_steps] at hsq
  obtain ⟨r', hr', -, -, outbox', hinsert', -, rfl⟩ := hsq
  have hreservations := h.reservations.put_left hr (markPending_books r (max actual 0) ts)
  have hhold : 0 ≤ (r.markPending (max actual 0) ts).holdNano := by
    have := h.holds requestId r hr
    unfold Reservation.markPending
    split <;> exact this
  unfold insertIntent at hinsert
  unfold Sqlite.insertSettlement at hinsert'
  split at hinsert
  · rename_i hnew
    cases hinsert
    rw [h.outbox.none hnew] at hinsert'
    cases hinsert'
    exact { h with
      reservations := hreservations
      outbox := h.outbox.put requestId rfl
      holds := holds_put h.holds hhold
      amounts := amounts_put h.amounts (Int.le_max_right _ _) }
  · rename_i o ho
    simp only [ok_steps] at hinsert
    obtain ⟨-, rfl⟩ := hinsert
    obtain ⟨o', ho', -⟩ := h.outbox.row ho
    rw [ho'] at hinsert'
    simp only [ok_steps] at hinsert'
    obtain ⟨-, rfl⟩ := hinsert'
    exact { h with
      reservations := hreservations
      holds := holds_put h.holds hhold }

/-! ## Settlement -/

theorem collect_agree (hbooks : account.books = account'.books) {after : Account}
    {collected uncollected : Int}
    (hpg : collectAccount account hold actual = .ok collection)
    (hsq : Sqlite.settleAccount account' hold actual = .ok (after, collected, uncollected)) :
    collection.account.books = after.books ∧
      collection.collectedNano = collected ∧
      collection.uncollectedNano = uncollected := by
  simp only [Account.books, Prod.mk.injEq] at hbooks
  obtain ⟨hbalance, hspent, hreserved, huncollected⟩ := hbooks
  simp only [Sqlite.settleAccount, ok_steps] at hsq
  obtain ⟨b, hb, sp, hsp, re, hre, un, hun, -, hsq⟩ := hsq
  rw [Sqlite.getI64_eq_ok hb, Sqlite.getI64_eq_ok hsp, Sqlite.getI64_eq_ok hre,
    Sqlite.getI64_eq_ok hun] at hsq
  unfold collectAccount at hpg
  split at hpg
  · rename_i hzero
    simp only [ok_steps] at hpg
    obtain ⟨balance, hb1, spent, hs1, -, rfl⟩ := hpg
    simp only [hzero, if_true, ok_steps] at hsq
    obtain ⟨balance', hb2, spent', hs2, rfl, rfl, rfl⟩ := hsq
    rw [bigint_eq_ok hb1, bigint_eq_ok hs1, Sqlite.tryFrom_eq_ok hb2, Sqlite.tryFrom_eq_ok hs2]
    simp [Account.books, hbalance, hspent, hreserved, huncollected]
  · rename_i hpos
    simp only [ok_steps] at hpg
    obtain ⟨-, balance, hb1, spent, hs1, uncol, hu1, -, rfl⟩ := hpg
    simp only [hpos, if_false, ok_steps] at hsq
    obtain ⟨col, hcol, rest, hrest, balance', hb2, spent', hs2, uncol', hu2, rfl, rfl, rfl⟩ := hsq
    have hsame : collectible account.balanceNano hold actual = col := by
      rw [Sqlite.tryFrom_eq_ok hcol, collectible, hbalance, min_comm, max_comm]
    rw [bigint_eq_ok hb1, bigint_eq_ok hs1, bigint_eq_ok hu1,
      Sqlite.tryFrom_eq_ok hb2, Sqlite.tryFrom_eq_ok hs2,
      Sqlite.tryFrom_eq_ok hu2, Sqlite.tryFrom_eq_ok hrest,
      ← Sqlite.tryFrom_eq_ok hcol, hsame]
    simp only [Account.books, hbalance, hspent, hreserved, huncollected,
      Prod.mk.injEq, true_and, and_true]
    omega

theorem settleKey_agree (h : Table.SameView ApiKey.books ApiKey.books s.apiKeys q.apiKeys)
    {keys keys' : Table String ApiKey}
    (hpg : settleKey s accountId key hold actual = .ok keys)
    (hsq : Sqlite.settleKey q accountId key hold actual = .ok keys') :
    Table.SameView ApiKey.books ApiKey.books keys keys' := by
  unfold settleKey at hpg
  unfold Sqlite.settleKey at hsq
  split at hpg
  · rename_i hnone
    rw [h.none hnone] at hsq
    cases hpg
    cases hsq
    exact h
  · rename_i row hrow
    obtain ⟨row', hrow', hbooks⟩ := h.row hrow
    rw [hrow'] at hsq
    simp only [ok_steps] at hsq
    obtain ⟨sp, hsp, re, hre, -, spent', hspent', rfl⟩ := hsq
    split at hpg
    · simp only [ok_steps] at hpg
      obtain ⟨spent, hspent, reserved, hreserved, rfl⟩ := hpg
      simp only [ApiKey.books, Prod.mk.injEq] at hbooks
      refine h.put key ?_
      rw [bigint_eq_ok hspent, bigint_eq_ok hreserved,
        Sqlite.tryFrom_eq_ok hspent', Sqlite.getI64_eq_ok hsp,
        Sqlite.getI64_eq_ok hre]
      simp only [ApiKey.books, hbooks]
    · cases hpg

theorem storedPricing_agree (hbooks : r.books = r'.books)
    (h : Sqlite.storedPricing r' = .ok pricing) : pricing = r.pricing := by
  simp only [Reservation.books, Sqlite.BillingReservation.books,
    ReservationBooks.mk.injEq] at hbooks
  obtain ⟨-, -, -, hprovider, hmultiplier, -, -⟩ := hbooks
  unfold Sqlite.storedPricing at h
  rw [← hprovider, ← hmultiplier] at h
  cases hp : r.pricing with
  | none =>
    rw [hp] at h
    exact (Except.ok.inj h).symm
  | some =>
    rw [hp] at h
    simp only [map_some, ok_steps] at h
    exact h.2.symm

section Election

variable {winners winners' : Table String GroupWinner}

theorem losing_agree
    (h : Table.SameView GroupWinner.winnerRequestId GroupWinner.winnerRequestId
      winners winners') (requestId group : String) (actual : Int) :
    isLosingAttempt { s with executionGroupWinner := winners } requestId group
      actual = Sqlite.losingAttempt winners' requestId group actual := by
  simp only [isLosingAttempt, Sqlite.losingAttempt]
  cases hw : winners.find? group with
  | none => simp [h.none hw]
  | some =>
    obtain ⟨w', hw', hsame⟩ := h.row hw
    simp [hw', hsame]

theorem electWinner_agree
    (h : Table.SameView GroupWinner.winnerRequestId GroupWinner.winnerRequestId
      s.executionGroupWinner q.executionGroupWinner) {group : String}
    (hpg : electWinner s ts requestId group actual = .ok winners)
    (hsq : Sqlite.electWinner q ts' requestId group actual = .ok winners') :
    Table.SameView GroupWinner.winnerRequestId GroupWinner.winnerRequestId winners winners' := by
  unfold electWinner at hpg
  unfold Sqlite.electWinner at hsq
  split at hpg
  · rename_i hpos
    simp only [hpos, if_true, ok_steps] at hpg hsq
    obtain ⟨-, rfl⟩ := hpg
    obtain ⟨-, rfl⟩ := hsq
    cases hw : s.executionGroupWinner.find? group with
    | none =>
      rw [h.none hw]
      exact h.put group rfl
    | some =>
      obtain ⟨w', hw', -⟩ := h.row hw
      rw [hw']
      exact h
  · rename_i hpos
    simp only [hpos, if_false] at hsq
    cases hpg
    cases hsq
    exact h

end Election

theorem chargeRow_entry (husage : intent.usage = (usage.map (·.toUsageColumns)).getD {})
    (hbasis : intent.chargeBasisNano = usage.map (·.chargeBasisNano)) :
    (chargeRow r requestId intent collection actual ts).entry =
      (Sqlite.chargeRow requestId r.accountId r.key intent.reference usage
        r.pricing actual collection.uncollectedNano
        collection.account.balanceNano ts').entry := by
  have hmodel : (if intent.usage.model = "" then none
      else some intent.usage.model) = (usage.map (·.model)).filter (· ≠ "") := by
    rw [husage]
    cases usage with
    | none => rfl
    | some u => by_cases hm : u.model = "" <;> simp [Option.filter, hm]
  simp only [LedgerRow.entry, chargeRow, Sqlite.chargeRow, LedgerRow.mk.injEq,
    hmodel, hbasis, true_and, and_true]
  cases r.pricing with
  | some => rfl
  | none =>
    rw [husage]
    cases usage with
    | none => rfl
    | some u => by_cases hp : u.provider = "" <;> simp [Option.filter, hp]

theorem chargeLedger_agree
    (h : s.ledger.map LedgerRow.entry = q.ledger.map LedgerRow.entry) {row' : LedgerRow}
    {ledger ledger' : List LedgerRow} (hamount : row'.amountNano = actual)
    (hentry : 0 < actual → (chargeRow r requestId intent collection actual ts).entry = row'.entry)
    (hpg : chargeLedger s ts requestId r intent collection actual = .ok ledger)
    (hsq : Sqlite.chargeLedger q.ledger row' = .ok ledger') :
    ledger.map LedgerRow.entry = ledger'.map LedgerRow.entry := by
  unfold chargeLedger at hpg
  unfold Sqlite.chargeLedger at hsq
  rw [hamount] at hsq
  split at hpg
  · rename_i hpos
    simp only [hpos, if_true, insertCharge, ok_steps] at hpg hsq
    obtain ⟨-, rfl⟩ := hpg
    obtain ⟨-, -, rfl⟩ := hsq
    simp only [map_append, map_cons, map_nil, h, hentry hpos]
  · rename_i hpos
    simp only [hpos, if_false] at hsq
    cases hpg
    cases hsq
    exact h

theorem confirm_agree (h : Agree s q) (ho : s.settlementOutbox.find? requestId = some o)
    (hbooks : o.books = o'.books) (hpg : confirmSettled s ts requestId o r = .ok (b, s'))
    (hsq : Sqlite.confirmSettled q ts' requestId o' r' = .ok (b', q')) : Agree s' q' := by
  simp only [confirmSettled, ok_steps] at hpg
  obtain ⟨-, -, -, facts, -, -, rfl⟩ := hpg
  simp only [Sqlite.confirmSettled, ok_steps] at hsq
  obtain ⟨-, -, -, -, -, -, -, rfl⟩ := hsq
  refine { h with
    outbox := h.outbox.put requestId ?_
    amounts := amounts_put h.amounts (h.amounts requestId o ho) }
  simp only [OutboxRow.books, Sqlite.SettlementOutbox.books, IntentBooks.mk.injEq] at hbooks ⊢
  simp only [hbooks, and_self]

def Sqlite.effectiveActual (winners : Table String GroupWinner)
    (requestId : String) (o : Sqlite.SettlementOutbox)
    (r : Sqlite.BillingReservation) : Int :=
  if Sqlite.losingAttempt winners requestId (r.groupId.getD requestId)
    o.actualNano then 0 else o.actualNano

def Sqlite.BillingReservation.settle (r : Sqlite.BillingReservation)
    (losing : Bool) (o : Sqlite.SettlementOutbox)
    (actual collected uncollected balance ts : Int) :
    Sqlite.BillingReservation :=
  { r with
    state := if losing || o.disposition == .cancel then .canceled else .settled
    actualNano := some actual
    collectedNano := some collected
    uncollectedNano := some uncollected
    balanceAfterSettleNano := some balance
    reference := o.reference
    updatedTs := ts
    settledTs := some ts }

theorem sqlite_applySettlement_some {o : Sqlite.SettlementOutbox}
    {r : Sqlite.BillingReservation} (hhold : 0 ≤ r.holdNano) (hactual : 0 ≤ o.actualNano)
    (h : Sqlite.applySettlement q now requestId o r = .ok (b, q')) :
    ∃ winners pricing account after collected uncollected keys ledger events,
      Sqlite.electWinner q (now 0) requestId (r.groupId.getD requestId)
        o.actualNano = .ok winners ∧
      Sqlite.storedPricing r = .ok pricing ∧
      q.accounts.find? r.accountId = some account ∧
      Sqlite.settleAccount account r.holdNano
        (Sqlite.effectiveActual winners requestId o r) = .ok (after, collected, uncollected) ∧
      Sqlite.settleKey q r.accountId r.key r.holdNano
        (Sqlite.effectiveActual winners requestId o r) = .ok keys ∧
      Sqlite.chargeLedger q.ledger (Sqlite.chargeRow requestId r.accountId r.key
        o.reference
        (if Sqlite.losingAttempt winners requestId (r.groupId.getD requestId)
          o.actualNano then none else o.usage) pricing
        (Sqlite.effectiveActual winners requestId o r) uncollected
        after.balanceNano (now 1)) = .ok ledger ∧
      q' = { q with
        accounts := q.accounts.put r.accountId after
        apiKeys := keys
        executionGroupWinner := winners
        ledger := ledger
        usageEvents := events
        billingReservations := q.billingReservations.put requestId
          (r.settle (Sqlite.losingAttempt winners requestId
            (r.groupId.getD requestId) o.actualNano) o
            (Sqlite.effectiveActual winners requestId o r) collected uncollected
            after.balanceNano (now 2))
        billingSettlementOutbox := q.billingSettlementOutbox.put requestId
          { o with
            state := .done
            attempts := o.attempts + 1
            updatedTs := now 2
            committedTs := some (now 2)
            lastError := none } } := by
  simp only [Sqlite.applySettlement, ok_steps] at h
  obtain ⟨-, winners, hwinners, pricing, hpricing, settled, hsettled, split, hsplit, -, rfl⟩ := h
  have heffective : (if 0 < o.actualNano then
      (if Sqlite.losingAttempt winners requestId (r.groupId.getD requestId)
        o.actualNano then 0 else o.actualNano) else 0) =
      Sqlite.effectiveActual winners requestId o r := by
    unfold Sqlite.effectiveActual
    by_cases hpos : 0 < o.actualNano
    · simp [hpos]
    · have hzero : o.actualNano = 0 := by omega
      simp [hzero]
  have hnonneg : 0 ≤ Sqlite.effectiveActual winners requestId o r := by
    unfold Sqlite.effectiveActual
    split
    · exact Int.le_refl 0
    · exact hactual
  rw [heffective] at hsettled
  simp only [Sqlite.accountSettleRequestIn, ok_steps, Int.max_eq_left hhold,
    Int.max_eq_left hnonneg] at hsettled
  obtain ⟨-, hsettled⟩ := hsettled
  split at hsettled
  · simp only [pure_eq_ok] at hsettled
    subst hsettled
    cases hsplit
  rename_i account haccount
  simp only [ok_steps] at hsettled
  obtain ⟨⟨after, collected, uncollected⟩, hcollect, keys, hkeys, ledger,
    hledger, events, -, rfl⟩ := hsettled
  cases hsplit
  refine ⟨winners, pricing, account, after, collected, uncollected, keys, ledger,
    events, hwinners, hpricing, haccount, hcollect, hkeys, hledger, ?_⟩
  have hstate : (if (if Sqlite.losingAttempt winners requestId
      (r.groupId.getD requestId) o.actualNano then Disposition.cancel
        else o.disposition) = .cancel then ReservationState.canceled
      else .settled) =
      if Sqlite.losingAttempt winners requestId (r.groupId.getD requestId)
        o.actualNano || o.disposition == .cancel then .canceled
      else .settled := by
    cases Sqlite.losingAttempt winners requestId (r.groupId.getD requestId)
      o.actualNano <;> simp
  simp only [heffective, hstate, Sqlite.BillingReservation.settle]

theorem apply_agree (h : Agree s q) (ho : s.settlementOutbox.find? requestId = some o)
    (hr : s.reservations.find? requestId = some r) (hintent : o.books = o'.books)
    (hbooks : r.books = r'.books) (hpg : applySettlement s ts requestId o r = .ok (b, s'))
    (hsq : Sqlite.applySettlement q now requestId o' r' = .ok (b', q')) : Agree s' q' := by
  have hpin : ∀ {pricing}, Sqlite.storedPricing r' = .ok pricing →
      pricing = r.pricing := storedPricing_agree hbooks
  simp only [Reservation.books, Sqlite.BillingReservation.books,
    ReservationBooks.mk.injEq] at hbooks
  obtain ⟨hacc, hkey, hholds, hprovider, hmultiplier, hgroup, -⟩ := hbooks
  simp only [OutboxRow.books, Sqlite.SettlementOutbox.books, IntentBooks.mk.injEq] at hintent
  obtain ⟨hamount, hdisposition, hreference, husage, hbasis, -⟩ := hintent
  have hhold := h.holds requestId r hr
  have hactual := h.amounts requestId o ho
  obtain ⟨winners', pricing, account', after, collected, uncollected, keys',
    ledger', events', hwinners', hpricing, haccount', hcollect', hkeys',
    hledger', rfl⟩ := sqlite_applySettlement_some (hholds ▸ hhold) (hamount ▸ hactual) hsq
  obtain rfl := hpin hpricing
  simp only [applySettlement, ok_steps, collectAccountSettlementTx] at hpg
  obtain ⟨winners, hwinners, -, collection, ⟨account, haccount, hcollect⟩, keys,
    hkeys, ledger, hledger, -, -, facts, -, -, rfl⟩ := hpg
  -- both sides elect the same winner, so they bill the same amount
  have hwin := electWinner_agree h.winners hwinners
    (by rw [hamount, Reservation.effectiveGroupId, hgroup]; exact hwinners')
  have hlosing : isLosingAttempt { s with executionGroupWinner := winners }
      requestId (r.effectiveGroupId requestId) o.intent.actualNano =
      Sqlite.losingAttempt winners' requestId (r'.groupId.getD requestId) o'.actualNano := by
    rw [losing_agree hwin, hamount, Reservation.effectiveGroupId, hgroup]
  simp only [hlosing] at hcollect hkeys hledger ⊢
  have hbilled : (if Sqlite.losingAttempt winners' requestId
      (r'.groupId.getD requestId) o'.actualNano then 0 else o.intent.actualNano) =
      Sqlite.effectiveActual winners' requestId o' r' := by
    rw [hamount]
    rfl
  rw [hbilled] at hcollect hkeys hledger ⊢
  rw [← hacc] at haccount' hkeys' hledger' ⊢
  rw [← hkey] at hkeys' hledger'
  rw [← hholds] at hcollect' hkeys'
  obtain ⟨account2, haccount2, hmoney⟩ := h.accounts.row haccount
  rw [haccount'] at haccount2
  cases haccount2
  obtain ⟨hafter, hcollected, huncollected⟩ := collect_agree hmoney hcollect hcollect'
  have hentry : 0 < Sqlite.effectiveActual winners' requestId o' r' →
      (chargeRow r requestId o.intent collection
        (Sqlite.effectiveActual winners' requestId o' r') ts).entry =
      (Sqlite.chargeRow requestId r.accountId r.key o'.reference
        (if Sqlite.losingAttempt winners' requestId (r'.groupId.getD requestId)
          o'.actualNano then none else o'.usage) r.pricing
        (Sqlite.effectiveActual winners' requestId o' r') uncollected
        after.balanceNano (now 1)).entry := by
    intro hpos
    have hwon : Sqlite.losingAttempt winners' requestId
        (r'.groupId.getD requestId) o'.actualNano = false := by
      cases hlost : Sqlite.losingAttempt winners' requestId
          (r'.groupId.getD requestId) o'.actualNano with
      | false => rfl
      | true => simp [Sqlite.effectiveActual, hlost] at hpos
    have hbalance : collection.account.balanceNano = after.balanceNano :=
      congrArg Prod.fst hafter
    rw [hwon, ← huncollected, ← hbalance, ← hreference]
    exact chargeRow_entry husage hbasis
  refine
    { accounts := h.accounts.put r.accountId hafter
      apiKeys := settleKey_agree h.apiKeys hkeys hkeys'
      reservations := h.reservations.put requestId ?_
      ledger := chargeLedger_agree h.ledger rfl hentry hledger hledger'
      outbox := h.outbox.put requestId ?_
      winners := hwin
      holds := holds_put h.holds hhold
      amounts := amounts_put h.amounts hactual }
  · simp only [Reservation.books, Reservation.settle,
      Sqlite.BillingReservation.books, Sqlite.BillingReservation.settle, hacc,
      hkey, hholds, hprovider, hmultiplier, hgroup, hdisposition, hcollected,
      huncollected]
    rfl
  · simp only [OutboxRow.books, Sqlite.SettlementOutbox.books, hamount,
      hdisposition, hreference, husage, hbasis]

theorem process_agree (h : Agree s q)
    (hpg : processOutboxRequest s ts requestId = .ok (b, s'))
    (hsq : Sqlite.processSettlement q now requestId = .ok (b', q')) : Agree s' q' := by
  simp only [Sqlite.processSettlement, ok_steps] at hsq
  obtain ⟨o', ho', r', hr', hsq⟩ := hsq
  unfold processOutboxRequest at hpg
  split at hpg
  · rename_i o r ho hr
    simp only [ok_steps] at hpg
    obtain ⟨-, hpg⟩ := hpg
    obtain ⟨o2, ho2, hintent⟩ := h.outbox.row ho
    obtain ⟨r₂, hr2, hbooks⟩ := h.reservations.row hr
    rw [ho'] at ho2
    rw [hr'] at hr2
    cases ho2
    cases hr2
    have hdone : (o.state = .done ∨ r.state.terminal = true) ↔
        (r'.state.terminal = true ∨ o'.state = .done) := by
      have hd := congrArg IntentBooks.done hintent
      have ht := congrArg (fun x => x.outcome.isSome) hbooks
      simp only [OutboxRow.books, Sqlite.SettlementOutbox.books] at hd
      simp only [Reservation.books, Sqlite.BillingReservation.books] at ht
      rw [Bool.eq_iff_iff, beq_iff_eq, beq_iff_eq] at hd
      rw [hd, or_comm]
      cases hp : r.state.terminal <;> cases hq : r'.state.terminal <;>
        simp [hp, hq] at ht ⊢
    split at hpg
    · rename_i hterminal
      rw [if_pos (hdone.mp hterminal)] at hsq
      exact confirm_agree h ho hintent hpg hsq
    · rename_i hopen
      rw [if_neg (fun hterminal => hopen (hdone.mpr hterminal))] at hsq
      exact apply_agree h ho hr hintent hbooks hpg hsq
  · rename_i hmissing
    -- the SQLite side found both rows, so the other side has them too
    obtain ⟨o, ho, -⟩ := h.outbox.symm.row ho'
    obtain ⟨r, hr, -⟩ := h.reservations.symm.row hr'
    exact absurd hr (hmissing o r ho)

/-! ## Runs -/

theorem thenProcess_finished {enqueued : Except Error (Unit × Store)}
    (h : finished (thenProcess s ts requestId enqueued) = some s') :
    ∃ u s1 b, enqueued = .ok (u, s1) ∧ processOutboxRequest s1 ts requestId = .ok (b, s') := by
  unfold thenProcess at h
  split at h
  · simp [finished] at h
  rename_i u s1
  split at h
  · simp [finished] at h
  rename_i b s2 hprocess
  simp only [finished, some.injEq] at h
  subst h
  exact ⟨u, s1, b, rfl, hprocess⟩

theorem enqueueAndProcess_finished
    (h : finished (Sqlite.enqueueAndProcess q now requestId accountId key hold
      actual reference usage disposition) = some q') :
    ∃ q1 b, Sqlite.enqueueSettlement q (now 0) requestId accountId key hold
        actual reference usage disposition = .ok (none, q1) ∧
      Sqlite.processSettlement q1 (fun k => now (k + 1)) requestId = .ok (b, q') := by
  unfold Sqlite.enqueueAndProcess at h
  split at h
  · simp [finished] at h
  · rename_i balance q1 henqueue
    -- an enqueue never answers with a balance
    simp only [Sqlite.enqueueSettlement, ok_steps] at henqueue
    obtain ⟨-, -, -, -, -, -, hnone, -⟩ := henqueue
    cases hnone
  · rename_i q1 henqueue
    split at h
    · rename_i b q2 hprocess
      simp only [finished, some.injEq] at h
      subst h
      exact ⟨q1, b, henqueue, hprocess⟩
    · simp [finished] at h

theorem call_agree (s : Store) (q : Sqlite.Store) (c : Issued) (s' : Store)
    (q' : Sqlite.Store) (h : Agree s q) (hpg : pgCall s c = some s')
    (hsq : sqliteCall q c = some q') : Agree s' q' := by
  unfold pgCall at hpg
  unfold sqliteCall at hsq
  cases hc : c.call with
  | topup =>
    simp only [hc, answered_eq_some] at hpg hsq
    obtain ⟨b, hpg⟩ := hpg
    obtain ⟨b', hsq⟩ := hsq
    exact topup_agree h hpg hsq
  | reserve =>
    simp only [hc, answered_eq_some] at hpg hsq
    obtain ⟨b, hpg⟩ := hpg
    obtain ⟨b', hsq⟩ := hsq
    exact reserve_agree h hpg hsq
  | markDelivering =>
    simp only [hc, affirmed_eq_some] at hpg hsq
    exact markDelivering_agree h hpg hsq
  | settle id account key hold actual reference usage | cancel id account key hold =>
    simp only [hc] at hpg hsq
    obtain ⟨u, s1, b, henqueue, hprocess⟩ := thenProcess_finished hpg
    obtain ⟨q1, b', henqueue', hprocess'⟩ := enqueueAndProcess_finished hsq
    exact process_agree (enqueue_agree h henqueue henqueue') hprocess hprocess'
  | enqueueSettle id account key hold actual reference usage
  | enqueueCancel =>
    simp only [hc, succeeded_eq_some] at hpg hsq
    obtain ⟨u, hpg⟩ := hpg
    obtain ⟨b, hsq⟩ := hsq
    exact enqueue_agree h hpg hsq
  | process =>
    simp only [hc, succeeded_eq_some] at hpg hsq
    obtain ⟨b, hpg⟩ := hpg
    obtain ⟨b', hsq⟩ := hsq
    exact process_agree h hpg hsq

/-- Two stores opened on the same accounts and keys. -/
structure OpenedAlike (s : Store) (q : Sqlite.Store) : Prop where
  accounts : Table.SameView Account.books Account.books s.accounts q.accounts
  apiKeys : Table.SameView ApiKey.books ApiKey.books s.apiKeys q.apiKeys
  reservations : s.reservations = .empty ∧ q.billingReservations = .empty
  outbox : s.settlementOutbox = .empty ∧ q.billingSettlementOutbox = .empty
  winners : s.executionGroupWinner = .empty ∧ q.executionGroupWinner = .empty
  ledger : s.ledger = [] ∧ q.ledger = []

theorem agree_opened (h : OpenedAlike s q) : Agree s q where
  accounts := h.accounts
  apiKeys := h.apiKeys
  reservations := by
    intro k
    rw [h.reservations.1, h.reservations.2]
    rfl
  ledger := by rw [h.ledger.1, h.ledger.2]
  outbox := by
    intro k
    rw [h.outbox.1, h.outbox.2]
    rfl
  winners := by
    intro k
    rw [h.winners.1, h.winners.2]
  holds := by
    intro id r hr
    rw [h.reservations.1] at hr
    cases hr
  amounts := by
    intro id o ho
    rw [h.outbox.1] at ho
    cases ho

/-- The two ledgers agree after every sequence of calls that both accept. -/
theorem ledgers_agree (s₀ s : Store) (q₀ q : Sqlite.Store)
    (h₀ : OpenedAlike s₀ q₀) (calls : List Issued)
    (hpg : runAccepted pgCall s₀ calls = some s)
    (hsq : runAccepted sqliteCall q₀ calls = some q) : SameBooks s q :=
  (runAccepted_lockstep call_agree (agree_opened h₀) hpg hsq).toSameBooks

/-- A fresh SQLite database with the account and key of `soloStore`. -/
def soloSqlite : Sqlite.Store :=
  { accounts := soloStore.accounts, apiKeys := soloStore.apiKeys
    billingReservations := .empty, billingSettlementOutbox := .empty
    executionGroupWinner := .empty, ledger := [], usageEvents := [] }

/-- `soloStore` once an engine has claimed it. -/
def claimedStore : Store := (claimInstance soloStore 100 "engine" 1000).2

def Call.issued (call : Call) : Issued :=
  { call, pgNow := fun _ => 100, pgClock := 100
    owner := { instanceId := "engine", epoch := 1 }, fact := none
    recordFact := false, evidence := none, sqliteNow := fun _ => 200
    sqliteClock := 200 }

/-- The `attempt`-th attempt of one execution group. -/
def groupAttempt (attempt : Nat) : ExecutionAttempt :=
  { groupId := some "6f9619ff-8b86-4d01-b42d-00cf4fc964ff"
    attempt := attempt + 1
    valid := ⟨by decide, by omega⟩ }

def overrunCalls : List Issued :=
  [Call.issued (.topup "acct" 2000000000 (some "t1")),
   Call.issued (.reserve "r1" "acct" "key" 1500000000 60 (groupAttempt 0) none),
   Call.issued (.reserve "r2" "acct" "key" 0 60 (groupAttempt 1) none),
   Call.issued (.markDelivering "r1" 60),
   Call.issued (.settle "r1" "acct" "key" 1500000000 4000000000 none none),
   Call.issued (.settle "r2" "acct" "key" 0 900000000 none none),
   Call.issued (.settle "r1" "acct" "key" 1500000000 4000000000 none none)]

theorem claimedStore_openedAlike : OpenedAlike claimedStore soloSqlite where
  accounts := fun _ => rfl
  apiKeys := fun _ => rfl
  reservations := ⟨rfl, rfl⟩
  outbox := ⟨rfl, rfl⟩
  winners := ⟨rfl, rfl⟩
  ledger := ⟨rfl, rfl⟩

/-- Both stores take the calls, and the uncollected dollar is the same. -/
theorem ledgers_agree_overrun :
    ∃ s q, runAccepted pgCall claimedStore overrunCalls = some s ∧
      runAccepted sqliteCall soloSqlite overrunCalls = some q ∧
      SameBooks s q ∧
      (s.accounts.find? "acct").map Account.books =
        some (-1000000000, 4000000000, 0, 1000000000) := by
  have hpg : (runAccepted pgCall claimedStore overrunCalls).isSome = true := by decide
  have hsq : (runAccepted sqliteCall soloSqlite overrunCalls).isSome = true := by decide
  have hbooks : ((runAccepted pgCall claimedStore overrunCalls).bind
      (fun s => s.accounts.find? "acct")).map Account.books =
        some (-1000000000, 4000000000, 0, 1000000000) := by
    decide
  obtain ⟨s, hs⟩ := isSome_iff_exists.mp hpg
  obtain ⟨q, hq⟩ := isSome_iff_exists.mp hsq
  rw [hs] at hbooks
  exact ⟨s, q, hs, hq,
    ledgers_agree claimedStore s soloSqlite q claimedStore_openedAlike overrunCalls hs hq, hbooks⟩

end ApiToken.Registry
