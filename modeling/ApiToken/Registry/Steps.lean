import ApiToken.Lib.Run
import ApiToken.Registry.Prune

/-!
# Steps of the authority

The calls that any number of engine processes can make, and the
transitions they are built from. `Op` has one constructor per transaction,
so that a call of several transactions can be interleaved with anything: a
reconciler is a sequence of `enqueueExpired` steps, a drain one of
`processOutboxRequest` and `recordFailure` steps. Both are also there as
undisturbed calls.

`Transition` says once what a transaction can do to the store. Every
invariant is proved over its constructors; `exec_transition` connects it to
the code.
-/

namespace ApiToken.Registry

open Relation

variable {s s' : Store} {ts hold clockTs leaseSecs actual : Int}
  {reference : Option String} {b : Option Int} {accountId requestId key : String}
  {owner : Owner} {execution : ExecutionAttempt} {pricing : Option ReservationPricing}
  {facts : Table String RequestFact} {fact : Option RequestFactAdmission}
  {recordFact : Bool} {o : OutboxRow} {r : Reservation}

/-- One call of one process. -/
inductive Op where
  | accountTopup (ts : Int) (id : String) (amountNano : Int)
      (reference : Option String)
  | claimInstance (ts : Int) (instanceId : String) (ttlSecs : Int)
  | heartbeatInstance (ts : Int) (owner : Owner) (ttlSecs : Int)
  | reserve (now : Nat → Int) (clockTs : Int) (owner : Owner)
      (requestId accountId key : String) (holdNano leaseSecs : Int)
      (execution : ExecutionAttempt) (pricing : Option ReservationPricing)
      (fact : Option RequestFactAdmission)
  | markDelivering (ts : Int) (owner : Owner) (requestId : String)
      (leaseSecs : Int) (recordFact : Bool)
  | checkpointMeasured (ts : Int) (owner : Owner) (requestId : String)
      (measuredNano : Int)
  | renewStreamLeases (ts : Int) (owner : Owner)
      (requestId capacityLeaseId : Option String) (leaseSecs : Int)
  | enqueueSettlement (ts : Int) (requestId : String) (actualNano : Int)
      (reference : Option String) (usage : Option UsageEventInput)
      (evidence : Option RequestFactTerminalEvidence)
  | enqueueCancel (ts : Int) (requestId : String)
      (evidence : Option RequestFactTerminalEvidence)
  /-- One enqueue of a reconciler, from whatever snapshot it holds. -/
  | enqueueExpired (ts : Int) (requestId : String) (actualNano : Int)
      (disposition : Disposition) (reference : Option String)
      (evidence : Option RequestFactTerminalEvidence)
  | processOutboxRequest (ts : Int) (requestId : String)
  | recordFailure (ts : Int) (requestId : String) (err : Error)
  | drainOutbox (ts : Int) (now : Nat → Int) (limit : Nat)
  | reconcileExpired (ts : Int) (now : Nat → Int) (drainTs : Int)
      (drainNow : Nat → Int) (limit : Nat) (chargeHoldOnUnknownUsage : Bool)
  | maintenancePrune (now olderThanTs : Int) (billed : Nat)

def committed {α : Type} (s : Store) : Except Error (α × Store) → Store
  | .ok (_, s') => s'
  | .error _ => s

/-- `enqueue_settlement`, `enqueue_settlement_with_request_fact`. -/
def enqueueSettlement (s : Store) (ts : Int) (requestId : String)
    (actualNano : Int) (reference : Option String)
    (usage : Option UsageEventInput)
    (evidence : Option RequestFactTerminalEvidence) :
    Except Error (Unit × Store) :=
  enqueueOutbox s ts requestId actualNano .settle reference usage evidence

/-- `enqueue_cancel`, `enqueue_cancel_with_request_fact`. -/
def enqueueCancel (s : Store) (ts : Int) (requestId : String)
    (evidence : Option RequestFactTerminalEvidence) :
    Except Error (Unit × Store) :=
  enqueueOutbox s ts requestId 0 .cancel none none evidence

def exec (s : Store) : Op → Store
  | .accountTopup ts id amount reference =>
    committed s (accountTopup s ts id amount reference)
  | .claimInstance ts instanceId ttl => (claimInstance s ts instanceId ttl).2
  | .heartbeatInstance ts owner ttl => (heartbeatInstance s ts owner ttl).2
  | .reserve now clockTs owner id account key hold lease execution pricing fact =>
    committed s (reserveRequestForExecutionWithPricing s now clockTs owner id
      account key hold lease execution pricing fact)
  | .markDelivering ts owner id lease recordFact =>
    committed s (markDelivering s ts owner id lease recordFact)
  | .checkpointMeasured ts owner id measured =>
    committed s (checkpointMeasured s ts owner id measured)
  | .renewStreamLeases ts owner id leaseId lease =>
    committed s (renewStreamLeases s ts owner id leaseId lease)
  | .enqueueSettlement ts id actual reference usage evidence =>
    committed s (enqueueSettlement s ts id actual reference usage evidence)
  | .enqueueCancel ts id evidence => committed s (enqueueCancel s ts id evidence)
  | .enqueueExpired ts id actual disposition reference evidence =>
    committed s (enqueueOutbox s ts id actual disposition reference none evidence)
  | .processOutboxRequest ts id => committed s (processOutboxRequest s ts id)
  | .recordFailure ts id err => recordFailure s ts id err
  | .drainOutbox ts now limit => (drainOutbox s ts now limit).2
  | .reconcileExpired ts now drainTs drainNow limit charge =>
    (reconcileExpired s ts now drainTs drainNow limit charge).2
  | .maintenancePrune now olderThan billed =>
    committed s (maintenancePrune s now olderThan billed)

/-- Is the call a retention pass? -/
def Op.isPrune : Op → Bool
  | .maintenancePrune .. => true
  | _ => false

/-! ## What a transaction can do -/

def effectiveActual (s : Store) (requestId : String) (o : OutboxRow)
    (r : Reservation) : Int :=
  if isLosingAttempt s requestId (r.effectiveGroupId requestId)
    o.intent.actualNano then 0 else o.intent.actualNano

def effectiveCancel (s : Store) (requestId : String) (o : OutboxRow)
    (r : Reservation) : Bool :=
  isLosingAttempt s requestId (r.effectiveGroupId requestId)
    o.intent.actualNano || o.intent.disposition == .cancel

inductive AdmittedFacts (s : Store) (requestId : String) :
    Table String RequestFact → Prop where
  | same : AdmittedFacts s requestId s.requestFacts
  | new (f : RequestFactAdmission) (hnone : s.requestFacts.find? requestId = none) :
      AdmittedFacts s requestId
        (s.requestFacts.put requestId
          { admission := f, deliveryStartedAt := none, terminal := none })

/-- What a call may do to the store. -/
inductive Transition (s : Store) : Store → Prop where
  | owners (instances : Table String EngineInstance) (seq : Int)
      (leases : Table String CapacityLease) :
      Transition s
        { s with engineInstances := instances, ownerEpochSeq := seq,
                 capacityLeases := leases }
  | topup {id : String} {account : Account} {row : LedgerRow}
      (haccount : s.accounts.find? id = some account)
      (hid : row.accountId = id) (hkind : row.kind ≠ .charge) :
      Transition s
        { s with
          accounts := s.accounts.put id
            { account with balanceNano := account.balanceNano + row.amountNano }
          ledger := s.ledger ++ [row] }
  | admitNew {requestId accountId key : String} {owner : Owner}
      {hold balance ts leaseSecs : Int} {execution : ExecutionAttempt}
      {pricing : Option ReservationPricing} {account : Account} {keyRow : ApiKey}
      {facts : Table String RequestFact}
      (hnew : s.reservations.find? requestId = none)
      (haccount : s.accounts.find? accountId = some account)
      (hkey : s.apiKeys.find? key = some keyRow)
      (hkeyAccount : keyRow.accountId = accountId)
      (hhold : 0 ≤ hold) (hpricing : pricingShape pricing = true)
      (hfacts : AdmittedFacts s requestId facts) :
      Transition s
        { s with
          accounts := s.accounts.put accountId
            { account with
              balanceNano := account.balanceNano - hold
              reservedNano := account.reservedNano + hold }
          apiKeys := s.apiKeys.put key
            { keyRow with reservedNano := keyRow.reservedNano + hold }
          reservations := s.reservations.put requestId
            (newReservation owner accountId key hold balance ts leaseSecs
              execution pricing)
          requestFacts := facts }
  | touch {requestId : String} {r : Reservation} {state : ReservationState}
      {leaseUntil updatedTs : Int} {measured : Option Int}
      (hr : s.reservations.find? requestId = some r)
      (hlive : r.state.terminal = false)
      (hstate : state = r.state ∨ r.state = .reserved ∧ state = .delivering) :
      Transition s
        { s with
          reservations := s.reservations.put requestId
            { r with state := state, leaseUntil := leaseUntil,
                     measuredNano := measured, updatedTs := updatedTs } }
  | delivery {requestId : String} {r : Reservation} {fact : RequestFact}
      {ts : Int}
      (hr : s.reservations.find? requestId = some r)
      (hstate : r.state = .delivering)
      (hfact : s.requestFacts.find? requestId = some fact) :
      Transition s
        { s with
          requestFacts := s.requestFacts.put requestId
            { fact with deliveryStartedAt := some ts } }
  | enqueue {requestId : String} {r : Reservation} {intent : Intent} {ts : Int}
      (hr : s.reservations.find? requestId = some r)
      (hnew : s.settlementOutbox.find? requestId = none)
      (hactual : 0 ≤ intent.actualNano)
      (hbasis : intent.chargeBasisNano.any (· < 0) = false)
      (hevidence : validateEvidence s requestId intent.terminal = .ok ())
      (hcancel : intent.disposition ≠ .settle → intent.usage = {}) :
      Transition s
        { s with
          settlementOutbox := s.settlementOutbox.put requestId
            (pendingRow intent ts)
          reservations := s.reservations.put requestId
            (r.markPending intent.actualNano ts) }
  | requeue {requestId : String} {r : Reservation} {o : OutboxRow} {ts : Int}
      (hr : s.reservations.find? requestId = some r)
      (ho : s.settlementOutbox.find? requestId = some o) :
      Transition s
        { s with
          reservations := s.reservations.put requestId
            (r.markPending o.intent.actualNano ts) }
  | confirm {requestId : String} {r : Reservation} {o : OutboxRow}
      {committedTs updatedTs : Int} {facts : Table String RequestFact}
      (hr : s.reservations.find? requestId = some r)
      (ho : s.settlementOutbox.find? requestId = some o)
      (hdone : o.state = .done ∨ r.state.terminal = true)
      (hactual : r.actualNano = some (effectiveActual s requestId o r))
      (hpin : checkPricingPin r.pricing o.intent = .ok ())
      (hsplit : collectionConsistent r (effectiveActual s requestId o r) = true)
      (hfacts : finalizeTerminal s requestId o.intent.terminal
        (billingOutcome
          (isLosingAttempt s requestId (r.effectiveGroupId requestId)
            o.intent.actualNano)
          o.intent.disposition (r.state == .canceled)
          (effectiveActual s requestId o r)) = .ok facts) :
      Transition s
        { s with
          requestFacts := facts
          settlementOutbox := s.settlementOutbox.put requestId
            { o with state := .done, committedTs := some committedTs,
                     updatedTs := updatedTs } }
  | settle {requestId : String} {r : Reservation} {o : OutboxRow}
      {account : Account} {collection : AccountCollection}
      {keys : Table String ApiKey} {winners : Table String GroupWinner}
      {ledger : List LedgerRow} {usage : List UsageEvent}
      {facts : Table String RequestFact} {ts : Int}
      (hr : s.reservations.find? requestId = some r)
      (ho : s.settlementOutbox.find? requestId = some o)
      (hlive : r.state.terminal = false) (hpending : o.state ≠ .done)
      (hwinners : electWinner s ts requestId (r.effectiveGroupId requestId)
        o.intent.actualNano = .ok winners)
      (hpin : checkPricingPin r.pricing o.intent = .ok ())
      (haccount : s.accounts.find? r.accountId = some account)
      (hcollect : collectAccount account r.holdNano
        (effectiveActual s requestId o r) = .ok collection)
      (hkeys : settleKey s r.accountId r.key r.holdNano
        (effectiveActual s requestId o r) = .ok keys)
      (hledger : chargeLedger s ts requestId r o.intent collection
        (effectiveActual s requestId o r) = .ok ledger)
      (husage : meterUsage s ts requestId r o.intent collection
        (effectiveActual s requestId o r)
        (isLosingAttempt s requestId (r.effectiveGroupId requestId)
          o.intent.actualNano) = .ok usage)
      (hfacts : finalizeTerminal s requestId o.intent.terminal
        (billingOutcome
          (isLosingAttempt s requestId (r.effectiveGroupId requestId)
            o.intent.actualNano)
          o.intent.disposition (effectiveCancel s requestId o r)
          (effectiveActual s requestId o r)) = .ok facts) :
      Transition s
        { s with
          accounts := s.accounts.put r.accountId collection.account
          apiKeys := keys
          executionGroupWinner := winners
          ledger := ledger
          usageEvents := usage
          requestFacts := facts
          reservations := s.reservations.put requestId
            (r.settle (effectiveCancel s requestId o r)
              (effectiveActual s requestId o r) collection ts)
          settlementOutbox := s.settlementOutbox.put requestId
            { o with state := .done, attempts := o.attempts + 1,
                     committedTs := some ts, updatedTs := ts,
                     lastError := none } }
  | failure {requestId : String} {o : OutboxRow} {state : OutboxState}
      {attempts nextAttemptTs updatedTs : Int} {err : Option Error}
      (ho : s.settlementOutbox.find? requestId = some o)
      (hpending : o.state ≠ .done) (hstate : state ≠ .done) :
      Transition s
        { s with
          settlementOutbox := s.settlementOutbox.put requestId
            { o with state := state, attempts := attempts, lastError := err,
                     nextAttemptTs := nextAttemptTs, updatedTs := updatedTs } }

/-- A sequence of transitions. -/
abbrev Transitions : Store → Store → Prop := ReflTransGen Transition

theorem Transition.once (h : Transition s s') : Transitions s s' :=
  ReflTransGen.single h

/-! ## The code takes only these transitions -/

theorem accountTopup_transition {amount : Int} {id : String}
    (h : accountTopup s ts id amount reference = .ok (b, s')) : Transitions s s' := by
  simp only [accountTopup, ok_steps] at h
  obtain ⟨-, h⟩ := h
  split at h
  · simp only [ok_steps] at h
    obtain ⟨-, -, rfl⟩ := h
    exact .refl
  · split at h
    · cases h
      exact .refl
    · rename_i account haccount
      simp only [ok_steps] at h
      obtain ⟨balance, hbalance, -, rfl⟩ := h
      rw [bigint_eq_ok hbalance]
      have hkind : (topupRow ts id amount reference
          (account.balanceNano + amount)).kind ≠ .charge := by
        simp only [topupRow]
        split <;> simp
      exact (@Transition.topup s id account _ haccount rfl hkind).once

theorem holdAccount_some {account account' : Account} {requirePositive : Bool}
    (h : holdAccount account hold requirePositive = .ok (some account')) :
    account' = { account with
      balanceNano := account.balanceNano - hold
      reservedNano := account.reservedNano + hold } := by
  unfold holdAccount at h
  split at h
  · simp at h
  split at h
  · rename_i hzero
    simp only [Except.ok.injEq] at h
    split at h
    · cases h
    · cases h
      simp [hzero]
  split at h
  · simp at h
  simp only [ok_steps, some.injEq] at h
  obtain ⟨balance, hbalance, reserved, hreserved, rfl⟩ := h
  rw [bigint_eq_ok hbalance, bigint_eq_ok hreserved]

theorem holdKey_some {key key' : ApiKey}
    (h : holdKey key accountId hold clockTs = .ok (some key')) :
    key.accountId = accountId ∧ key' = { key with reservedNano := key.reservedNano + hold } := by
  unfold holdKey at h
  split at h
  · simp at h
  rename_i hgate
  have hacc : key.accountId = accountId := by
    by_contra hne
    exact hgate (Or.inl hne)
  split at h
  · simp at h
  simp only [bind_eq_ok] at h
  obtain ⟨within, -, h⟩ := h
  split at h
  · simp at h
  split at h
  · rename_i hzero
    simp only [pure_eq_ok, some.injEq] at h
    subst h
    exact ⟨hacc, by simp [hzero]⟩
  · simp only [ok_steps, some.injEq] at h
    obtain ⟨reserved, hreserved, rfl⟩ := h
    exact ⟨hacc, by rw [bigint_eq_ok hreserved]⟩

theorem admitReservation_some {reservationTs : Int} {balance : Int}
    (h : admitReservation s reservationTs clockTs owner requestId accountId key
      hold leaseSecs execution pricing = .ok (some (balance, s'))) :
    ∃ account keyRow, s.accounts.find? accountId = some account ∧
      s.apiKeys.find? key = some keyRow ∧ keyRow.accountId = accountId ∧
      pricingShape pricing = true ∧
      s' = { s with
        accounts := s.accounts.put accountId
          { account with
            balanceNano := account.balanceNano - hold
            reservedNano := account.reservedNano + hold }
        apiKeys := s.apiKeys.put key { keyRow with reservedNano := keyRow.reservedNano + hold }
        reservations := s.reservations.put requestId
          (newReservation owner accountId key hold balance reservationTs
            leaseSecs execution pricing) } := by
  unfold admitReservation at h
  split at h
  · simp at h
  rename_i account haccount
  simp only [bind_eq_ok] at h
  obtain ⟨held, hheld, h⟩ := h
  split at h
  · simp at h
  rename_i account'
  split at h
  · simp at h
  rename_i keyRow hkeyRow
  simp only [bind_eq_ok] at h
  obtain ⟨heldKey, hheldKey, h⟩ := h
  split at h
  · simp at h
  rename_i keyRow'
  simp only [ok_steps, some.injEq, guard_iffs] at h
  obtain ⟨hpricing, rfl, rfl⟩ := h
  obtain ⟨hkeyAccount, rfl⟩ := holdKey_some hheldKey
  obtain rfl := holdAccount_some hheld
  exact ⟨account, keyRow, haccount, hkeyRow, hkeyAccount, hpricing, rfl⟩

theorem admitFact_facts (hid : ∀ f, fact = some f → f.billingRequestId = requestId)
    (h : admitFact s.requestFacts fact = .ok facts) : AdmittedFacts s requestId facts := by
  unfold admitFact at h
  split at h
  · cases h
    exact .same
  rename_i f
  have hf := hid f rfl
  unfold insertOrValidateAdmission at h
  split at h
  · rename_i hnone
    cases h
    rw [hf] at hnone ⊢
    exact .new f hnone
  · simp only [ok_steps] at h
    obtain ⟨-, rfl⟩ := h
    exact .same

theorem checkReservationFact_id
    (h : checkReservationFact s requestId accountId key execution fact = .ok ())
    (f : RequestFactAdmission) (hf : fact = some f) : f.billingRequestId = requestId := by
  subst hf
  simp only [checkReservationFact, validateReservationFact, ok_steps, bailIf_eq_ok] at h
  obtain ⟨row, -, -, h⟩ := h
  simp only [guard_iffs] at h
  exact h.1.1.1.1

theorem reserve_transition {now : Nat → Int} {holdNano : Int}
    (h : reserveRequestForExecutionWithPricing s now clockTs owner requestId
      accountId key holdNano leaseSecs execution pricing fact = .ok (b, s')) :
    Transitions s s' := by
  simp only [reserveRequestForExecutionWithPricing, ok_steps] at h
  obtain ⟨-, -, -, hfact, h⟩ := h
  split at h
  · simp only [ok_steps] at h
    obtain ⟨-, -, -, -, rfl⟩ := h
    exact .refl
  · rename_i hnew
    simp only [ok_steps] at h
    obtain ⟨-, admitted, hadmit, h⟩ := h
    split at h
    · cases h
      exact .refl
    · rename_i balance s1
      obtain ⟨account, keyRow, haccount, hkey, hkeyAccount, hpricing, rfl⟩ :=
        admitReservation_some hadmit
      simp only [ok_steps] at h
      obtain ⟨facts, hfacts, -, -, rfl⟩ := h
      have hadmitted := admitFact_facts (s := s) (checkReservationFact_id hfact) hfacts
      exact (Transition.admitNew hnew haccount hkey hkeyAccount
        (Int.le_max_right _ _) hpricing hadmitted).once

theorem deliverFact_cases {facts' : Table String RequestFact}
    (h : deliverFact facts requestId ts recordFact = .ok facts') :
    facts' = facts ∨ ∃ fact, facts.find? requestId = some fact ∧
      facts' = facts.put requestId { fact with deliveryStartedAt := some ts } := by
  unfold deliverFact at h
  split at h
  · unfold markDeliveryStarted at h
    split at h
    · cases h
      exact Or.inl rfl
    · rename_i fact hfact
      simp only [ok_steps] at h
      obtain ⟨-, rfl⟩ := h
      split
      · exact Or.inr ⟨fact, hfact, rfl⟩
      · exact Or.inl rfl
  · cases h
    exact Or.inl rfl

theorem markDelivering_transition {b : Bool}
    (h : markDelivering s ts owner requestId leaseSecs recordFact
      = .ok (b, s')) : Transitions s s' := by
  simp only [markDelivering, ok_steps] at h
  obtain ⟨-, h⟩ := h
  split at h
  · cases h
    exact .refl
  rename_i r hfind
  obtain ⟨hr, -⟩ := filter_eq_some_iff.mp hfind
  split at h
  · rename_i hstate
    simp only [ok_steps] at h
    obtain ⟨facts, hfacts, -, rfl⟩ := h
    have hlive : r.state.terminal = false := by rw [hstate]; rfl
    have htouch := @Transition.touch s requestId r .delivering
      (ts + max leaseSecs 1) ts r.measuredNano hr hlive (Or.inr ⟨hstate, rfl⟩)
    rcases deliverFact_cases hfacts with rfl | ⟨fact, hfact, rfl⟩
    · exact htouch.once
    · exact htouch.once.tail (Transition.delivery (find?_put_self _ _ _) rfl hfact)
  · rename_i hstate
    simp only [ok_steps] at h
    obtain ⟨facts, hfacts, -, rfl⟩ := h
    rcases deliverFact_cases hfacts with rfl | ⟨fact, hfact, rfl⟩
    · exact .refl
    · exact (Transition.delivery hr hstate hfact).once
  all_goals
    cases h
    exact .refl

theorem checkpointMeasured_transition {measured : Int} {b : Bool}
    (h : checkpointMeasured s ts owner requestId measured = .ok (b, s')) :
    Transitions s s' := by
  simp only [checkpointMeasured, ok_steps] at h
  obtain ⟨-, h⟩ := h
  split at h
  · cases h
    exact .refl
  rename_i r hfind
  obtain ⟨hr, -⟩ := filter_eq_some_iff.mp hfind
  split at h
  · rename_i hstate
    simp only [ok_steps] at h
    obtain ⟨-, rfl⟩ := h
    have hlive : r.state.terminal = false := by
      rcases hstate with hs | hs <;> rw [hs] <;> rfl
    exact (Transition.touch hr hlive (Or.inl rfl)).once
  · cases h
    exact .refl

theorem renewReservationLease_transition (s : Store) (ts leaseUntil : Int)
    (owner : Owner) (requestId : String) :
    Transitions s (renewReservationLease s ts leaseUntil owner requestId).2 := by
  unfold renewReservationLease
  split
  · exact .refl
  rename_i r hfind
  obtain ⟨hr, -⟩ := filter_eq_some_iff.mp hfind
  split
  · exact .refl
  · rename_i hlive
    exact (Transition.touch hr (by simpa using hlive) (Or.inl rfl)).once

theorem renewCapacityLease_transition (s : Store) (leaseUntil : Int)
    (owner : Owner) (leaseId : String) :
    Transitions s (renewCapacityLease s leaseUntil owner leaseId).2 := by
  unfold renewCapacityLease
  split
  · exact .refl
  split
  · exact (Transition.owners _ _ _).once
  · exact .refl

theorem renewStreamLeases_transition {requestId capacityLeaseId : Option String} {b : Bool}
    (h : renewStreamLeases s ts owner requestId capacityLeaseId leaseSecs
      = .ok (b, s')) : Transitions s s' := by
  simp only [renewStreamLeases, ok_steps] at h
  obtain ⟨-, -, rfl⟩ := h
  cases requestId with
  | none =>
    cases capacityLeaseId with
    | none => exact .refl
    | some => exact renewCapacityLease_transition ..
  | some id =>
    have hrenew := renewReservationLease_transition s ts
      (saturatingAdd ts (max leaseSecs 1)) owner id
    cases capacityLeaseId with
    | none => exact hrenew
    | some => exact hrenew.trans (renewCapacityLease_transition ..)

/-! ## The settlement path -/

theorem enqueueOutbox_transition {disposition : Disposition}
    {usage : Option UsageEventInput} {evidence : Option RequestFactTerminalEvidence}
    {u : Unit} (hcancel : disposition ≠ .settle → usage = none)
    (h : enqueueOutbox s ts requestId actual disposition reference usage
      evidence = .ok (u, s')) : Transitions s s' := by
  simp only [enqueueOutbox, ok_steps] at h
  obtain ⟨r, hr, hevidence, -, hbasis, outbox, hinsert, -, rfl⟩ := h
  unfold insertIntent at hinsert
  split at hinsert
  · rename_i hnew
    cases hinsert
    refine (Transition.enqueue hr hnew (Int.le_max_right _ _) hbasis hevidence ?_).once
    intro hne
    simp [persistedIntent, hcancel hne]
  · rename_i o ho
    simp only [ok_steps, bailIf_eq_ok, guard_iffs] at hinsert
    obtain ⟨hsame, rfl⟩ := hinsert
    rw [← hsame]
    exact (Transition.requeue hr ho).once

theorem isLosingAttempt_elect {group : String} {winners : Table String GroupWinner}
    (h : electWinner s ts requestId group actual = .ok winners) :
    isLosingAttempt { s with executionGroupWinner := winners } requestId group
      actual = isLosingAttempt s requestId group actual := by
  unfold electWinner at h
  split at h
  · simp only [ok_steps] at h
    obtain ⟨-, rfl⟩ := h
    unfold isLosingAttempt
    cases hw : s.executionGroupWinner.find? group with
    | none => simp
    | some => simp [hw]
  · cases h
    rfl

theorem confirmSettled_transition (ho : s.settlementOutbox.find? requestId = some o)
    (hr : s.reservations.find? requestId = some r)
    (hdone : o.state = .done ∨ r.state.terminal = true)
    (h : confirmSettled s ts requestId o r = .ok (b, s')) : Transition s s' := by
  simp only [confirmSettled, ok_steps, bailIf_eq_ok, guard_iffs] at h
  obtain ⟨hactual, hpin, hsplit, facts, hfacts, -, rfl⟩ := h
  exact .confirm hr ho hdone hactual hpin hsplit hfacts

theorem applySettlement_transition (ho : s.settlementOutbox.find? requestId = some o)
    (hr : s.reservations.find? requestId = some r) (hlive : r.state.terminal = false)
    (hpending : o.state ≠ .done) (h : applySettlement s ts requestId o r = .ok (b, s')) :
    Transition s s' := by
  simp only [applySettlement, ok_steps] at h
  obtain ⟨winners, hwinners, h⟩ := h
  rw [isLosingAttempt_elect hwinners] at h
  obtain ⟨hpin, collection, hcollect, keys, hkeys, ledger, hledger, usage,
    husage, facts, hfacts, -, rfl⟩ := h
  simp only [collectAccountSettlementTx, ok_steps] at hcollect
  obtain ⟨account, haccount, hcollect⟩ := hcollect
  exact .settle hr ho hlive hpending hwinners hpin haccount hcollect hkeys hledger husage hfacts

theorem processOutboxRequest_transition
    (h : processOutboxRequest s ts requestId = .ok (b, s')) : Transitions s s' := by
  unfold processOutboxRequest at h
  split at h
  · rename_i o r ho hr
    simp only [ok_steps] at h
    obtain ⟨-, h⟩ := h
    split at h
    · rename_i hdone
      exact (confirmSettled_transition ho hr hdone h).once
    · rename_i hopen
      simp only [not_or, Bool.not_eq_true] at hopen
      exact (applySettlement_transition ho hr hopen.2 hopen.1 h).once
  · cases h
    exact .refl

theorem recordFailure_transition (s : Store) (ts : Int) (requestId : String)
    (err : Error) : Transitions s (recordFailure s ts requestId err) := by
  unfold recordFailure
  split
  · exact .refl
  rename_i o ho
  split
  · exact .refl
  rename_i hpending
  refine (Transition.failure ho hpending ?_).once
  split <;> simp

theorem committed_transition {α : Type} {x : Except Error (α × Store)}
    (h : ∀ a s', x = .ok (a, s') → Transitions s s') : Transitions s (committed s x) := by
  cases x with
  | error => exact .refl
  | ok p => exact h p.1 p.2 rfl

theorem drainRequests_transition (now : Nat → Int) (ids : List String)
    (s : Store) (k : Nat) : Transitions s (drainRequests now s k ids).2 := by
  induction ids generalizing s k with
  | nil => exact .refl
  | cons id ids ih =>
    unfold drainRequests
    split
    · rename_i s1 hprocess
      exact (processOutboxRequest_transition hprocess).trans (ih s1 (k + 1))
    · rename_i err _
      exact (recordFailure_transition s _ id err).trans (ih _ (k + 1))

theorem reconcileRows_transition (s0 : Store) (ts : Int) (charge : Bool)
    (now : Nat → Int) (rows : List (String × Reservation)) (s : Store)
    (report : ReconcileReport) (k : Nat) :
    Transitions s (reconcileRows s0 ts charge now s report k rows).2 := by
  induction rows generalizing s report k with
  | nil => exact .refl
  | cons x rows ih =>
    obtain ⟨id, r⟩ := x
    unfold reconcileRows
    split
    · exact ih s report (k + 1)
    · split
      · exact .refl
      · rename_i u s1 henqueue
        exact (enqueueOutbox_transition (fun _ => rfl) henqueue).trans (ih s1 _ (k + 1))

theorem reconcileExpired_transition (s : Store) (ts : Int) (now : Nat → Int)
    (drainTs : Int) (drainNow : Nat → Int) (limit : Nat) (charge : Bool) :
    Transitions s (reconcileExpired s ts now drainTs drainNow limit charge).2 := by
  have hrows := reconcileRows_transition s ts charge now (expiredReservations s ts limit) s {} 0
  unfold reconcileExpired
  split
  · rename_i s1 heq
    rw [heq] at hrows
    exact hrows
  · rename_i report s1 heq
    rw [heq] at hrows
    exact hrows.trans (drainRequests_transition drainNow _ s1 0)

theorem exec_transition (s : Store) (op : Op) (h : op.isPrune = false) :
    Transitions s (exec s op) := by
  cases op with
  | accountTopup => exact committed_transition fun _ _ => accountTopup_transition
  | claimInstance => exact (Transition.owners _ _ _).once
  | heartbeatInstance =>
    simp only [exec, heartbeatInstance]
    split
    · exact .refl
    split
    · exact (Transition.owners _ _ _).once
    · exact .refl
  | reserve => exact committed_transition fun _ _ => reserve_transition
  | markDelivering => exact committed_transition fun _ _ => markDelivering_transition
  | checkpointMeasured =>
    exact committed_transition fun _ _ => checkpointMeasured_transition
  | renewStreamLeases => exact committed_transition fun _ _ => renewStreamLeases_transition
  | enqueueSettlement =>
    exact committed_transition fun _ _ =>
      enqueueOutbox_transition (fun hne => absurd rfl hne)
  | enqueueCancel ts id evidence
  | enqueueExpired =>
    exact committed_transition fun _ _ => enqueueOutbox_transition (fun _ => rfl)
  | processOutboxRequest =>
    exact committed_transition fun _ _ => processOutboxRequest_transition
  | recordFailure ts id err => exact recordFailure_transition s ts id err
  | drainOutbox _ now => exact drainRequests_transition now _ s 0
  | reconcileExpired ts now drainTs drainNow limit charge =>
    exact reconcileExpired_transition s ts now drainTs drainNow limit charge
  | maintenancePrune => cases h

theorem exec_cases (s : Store) (op : Op) :
    Transitions s (exec s op) ∨
      ∃ olderThanTs billed, exec s op = pruned s olderThanTs billed := by
  cases hprune : op.isPrune with
  | false => exact Or.inl (exec_transition s op hprune)
  | true =>
    cases op with
    | maintenancePrune now olderThan billed =>
      simp only [exec, maintenancePrune, committed]
      split
      · rename_i hok
        simp only [ok_steps] at hok
        obtain ⟨-, -, rfl⟩ := hok
        exact Or.inr ⟨olderThan, billed, rfl⟩
      · exact Or.inl .refl
    | _ => cases hprune

end ApiToken.Registry
