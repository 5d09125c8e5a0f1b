import ApiToken.Registry.Steps
import Mathlib.Tactic.Linarith

/-!
# Money conservation

Four counters of an account, its ledger rows and its open holds move
together: what was paid in is on the balance, held, or spent, less what a
settlement could not collect. `Conserved` states it with the two facts its
preservation needs, each transition keeps it, and so does every run.
-/

namespace ApiToken.Registry

variable {account : Account} {hold actual ts : Int} {c : AccountCollection}
  {requestId id : String} {o : OutboxRow} {r r' : Reservation} {intent : Intent}
  {ledger : List LedgerRow} {s' : Store} {keys : Table String ApiKey}
  {facts : Table String RequestFact}

/-! ## The aggregates -/

/-- What a ledger row pays into account `a`. -/
def paidIn (a : String) (row : LedgerRow) : Int :=
  if row.accountId = a ∧ row.kind ≠ .charge then row.amountNano else 0

/-- What a charge row of account `a` left uncollected. -/
def leftUncollected (a : String) (row : LedgerRow) : Int :=
  if row.accountId = a ∧ row.kind = .charge then row.uncollectedNano else 0

/-- What an open reservation of account `a` holds. -/
def openHold (a : String) (_ : String) (r : Reservation) : Int :=
  if r.accountId = a ∧ r.state.terminal = false then r.holdNano else 0

/-- The sum of all top-up and adjustment amounts of an account. -/
def totalPaidIn (s : Store) (a : String) : Int :=
  (s.ledger.map (paidIn a)).sum

/-- The sum of `uncollected_nano` over an account's charges. -/
def totalUncollected (s : Store) (a : String) : Int :=
  (s.ledger.map (leftUncollected a)).sum

/-- The sum of `hold_nano` over an account's non-terminal reservations. -/
def totalHeld (s : Store) (a : String) : Int :=
  s.reservations.sumBy (openHold a)

def Reservation.SplitEvidence (r : Reservation) : Prop :=
  ∃ actual collected uncollected,
    r.actualNano = some actual ∧ r.collectedNano = some collected ∧
      r.uncollectedNano = some uncollected ∧ 0 ≤ collected ∧ 0 ≤ uncollected ∧
      actual = collected + uncollected

/-- Where the money of a store is. -/
structure Conserved (s : Store) : Prop where
  /-- Money paid in is on the balance, held or spent, less the uncollected. -/
  balance : ∀ a account, s.accounts.find? a = some account →
    account.balanceNano + account.reservedNano + account.spentNano
      - totalUncollected s a = totalPaidIn s a
  /-- The reserved counter is exactly the open holds. -/
  reserved : ∀ a account, s.accounts.find? a = some account →
    account.reservedNano = totalHeld s a
  split : ∀ id r, s.reservations.find? id = some r → r.state.terminal = true →
    r.SplitEvidence
  actual_nonneg : ∀ id o, s.settlementOutbox.find? id = some o →
    0 ≤ o.intent.actualNano

/-! ## Collection -/

theorem collectAccount_counters (h : collectAccount account hold actual = .ok c) :
    c.account.balanceNano = account.balanceNano + hold - c.collectedNano ∧
      c.account.spentNano = account.spentNano + actual ∧
      c.account.reservedNano = account.reservedNano - hold ∧
      c.collectedNano + c.uncollectedNano = actual := by
  unfold collectAccount at h
  split at h
  · rename_i hzero
    simp only [ok_steps] at h
    obtain ⟨balance, hbalance, spent, hspent, -, rfl⟩ := h
    rw [bigint_eq_ok hbalance, bigint_eq_ok hspent, hzero]
    simp
  · simp only [ok_steps] at h
    obtain ⟨-, balance, hbalance, spent, hspent, uncollected, -, -, rfl⟩ := h
    rw [bigint_eq_ok hbalance, bigint_eq_ok hspent]
    simp

theorem collectAccount_nonneg (hactual : 0 ≤ actual)
    (h : collectAccount account hold actual = .ok c) :
    0 ≤ c.collectedNano ∧ 0 ≤ c.uncollectedNano := by
  unfold collectAccount at h
  split at h
  · simp only [ok_steps] at h
    obtain ⟨_, -, _, -, -, rfl⟩ := h
    exact ⟨hactual, Int.le_refl 0⟩
  · simp only [ok_steps] at h
    obtain ⟨-, _, -, _, -, _, -, -, rfl⟩ := h
    simp only [collectible]
    omega

theorem effectiveActual_nonneg {s : Store} (h : 0 ≤ o.intent.actualNano) :
    0 ≤ effectiveActual s requestId o r := by
  unfold effectiveActual
  split
  · exact Int.le_refl 0
  · exact h

theorem chargeLedger_cases {s : Store}
    (h : chargeLedger s ts requestId r intent c actual = .ok ledger) :
    (0 < actual ∧
      s.ledger.any (fun x => x.kind == .charge && x.requestId.isSome
        && x.requestId == some requestId) = false ∧
      ledger = s.ledger ++ [chargeRow r requestId intent c actual ts]) ∨
    (actual ≤ 0 ∧ ledger = s.ledger) := by
  unfold chargeLedger at h
  split at h
  · rename_i hpos
    simp only [insertCharge, ok_steps] at h
    obtain ⟨hunique, rfl⟩ := h
    exact Or.inl ⟨hpos, hunique, rfl⟩
  · rename_i hzero
    cases h
    exact Or.inr ⟨Int.not_lt.mp hzero, rfl⟩

/-! ## Each transition conserves -/

section Preservation

variable {s : Store}

theorem totalHeld_put (hr : s.reservations.find? id = some r)
    (haccount : r'.accountId = r.accountId) (hhold : r'.holdNano = r.holdNano)
    (hterm : r'.state.terminal = r.state.terminal) (a : String) :
    (s.reservations.put id r').sumBy (openHold a) = s.reservations.sumBy (openHold a) := by
  rw [sumBy_put (openHold a) r' hr]
  simp [openHold, haccount, hhold, hterm]

theorem Conserved.rewrite (h : Conserved s) (hr : s.reservations.find? id = some r)
    (haccounts : s'.accounts = s.accounts) (hledger : s'.ledger = s.ledger)
    (hres : s'.reservations = s.reservations.put id r')
    (haccount : r'.accountId = r.accountId) (hhold : r'.holdNano = r.holdNano)
    (hterm : r'.state.terminal = r.state.terminal)
    (hsplit : r'.state.terminal = true → r' = r)
    (houtbox : ∀ id o, s'.settlementOutbox.find? id = some o →
      0 ≤ o.intent.actualNano) : Conserved s' where
  balance := by
    intro a account ha
    rw [haccounts] at ha
    simpa [totalUncollected, totalPaidIn, hledger] using h.balance a account ha
  reserved := by
    intro a account ha
    rw [haccounts] at ha
    rw [h.reserved a account ha, totalHeld, totalHeld, hres,
      totalHeld_put hr haccount hhold hterm]
  split := by
    intro id' r'' hfind hdone
    rw [hres, find?_put] at hfind
    split at hfind
    · cases hfind
      obtain rfl := hsplit hdone
      exact h.split id r' hr hdone
    · exact h.split id' r'' hfind hdone
  actual_nonneg := houtbox

theorem Conserved.frame (h : Conserved s) (haccounts : s'.accounts = s.accounts)
    (hledger : s'.ledger = s.ledger) (hres : s'.reservations = s.reservations)
    (houtbox : ∀ id o, s'.settlementOutbox.find? id = some o →
      0 ≤ o.intent.actualNano) : Conserved s' where
  balance := by
    intro a account ha
    rw [haccounts] at ha
    simpa [totalUncollected, totalPaidIn, hledger] using h.balance a account ha
  reserved := by
    intro a account ha
    rw [haccounts] at ha
    rw [h.reserved a account ha, totalHeld, totalHeld, hres]
  split := by rw [hres]; exact h.split
  actual_nonneg := houtbox

theorem Conserved.outbox_put (h : Conserved s) (ho : 0 ≤ o.intent.actualNano) :
    ∀ id' o', (s.settlementOutbox.put id o).find? id' = some o' → 0 ≤ o'.intent.actualNano := by
  intro id' o' hfind
  rw [find?_put] at hfind
  split at hfind
  · cases hfind
    exact ho
  · exact h.actual_nonneg id' o' hfind

theorem conserved_topup (h : Conserved s) {row : LedgerRow}
    (haccount : s.accounts.find? id = some account) (hid : row.accountId = id)
    (hkind : row.kind ≠ .charge) :
    Conserved { s with
      accounts := s.accounts.put id
        { account with balanceNano := account.balanceNano + row.amountNano }
      ledger := s.ledger ++ [row] } where
  balance := by
    intro a account' ha
    simp only [totalUncollected, totalPaidIn, map_append, map_cons,
      map_nil, List.sum_append, sum_cons, sum_nil]
    simp only [find?_put] at ha
    split at ha
    · rename_i heq
      cases ha
      have hold := h.balance id account haccount
      simp only [totalUncollected, totalPaidIn] at hold
      simp only [leftUncollected, paidIn, hid, ← heq, hkind, and_false, if_false,
        ne_eq, not_false_eq_true, and_self, if_true] at hold ⊢
      linarith
    · rename_i hne
      have hold := h.balance a account' ha
      simp only [totalUncollected, totalPaidIn] at hold
      have hrow : ¬ row.accountId = a := by rw [hid]; exact hne
      simpa [leftUncollected, paidIn, hrow] using hold
  reserved := by
    intro a account' ha
    simp only [find?_put] at ha
    split at ha
    · rename_i heq
      cases ha
      subst heq
      exact h.reserved id account haccount
    · exact h.reserved a account' ha
  split := h.split
  actual_nonneg := h.actual_nonneg

theorem conserved_admit (h : Conserved s) {accountId : String}
    (hnew : s.reservations.find? requestId = none)
    (haccount : s.accounts.find? accountId = some account) (hr : r.accountId = accountId)
    (hstate : r.state.terminal = false) :
    Conserved { s with
      accounts := s.accounts.put accountId
        { account with
          balanceNano := account.balanceNano - r.holdNano
          reservedNano := account.reservedNano + r.holdNano }
      apiKeys := keys
      reservations := s.reservations.put requestId r
      requestFacts := facts } where
  balance := by
    intro a account' ha
    simp only [find?_put] at ha
    split at ha
    · rename_i heq
      cases ha
      subst heq
      have hold := h.balance accountId account haccount
      simp only [totalUncollected, totalPaidIn] at hold ⊢
      linarith
    · exact h.balance a account' ha
  reserved := by
    intro a account' ha
    simp only [totalHeld]
    rw [sumBy_put_new (openHold a) r hnew]
    simp only [find?_put] at ha
    split at ha
    · rename_i heq
      cases ha
      subst heq
      have hold := h.reserved accountId account haccount
      simp only [openHold, hr, hstate, and_self, if_true]
      rw [hold, totalHeld]
    · rename_i hne
      have hrow : ¬ r.accountId = a := by rw [hr]; exact hne
      have hold := h.reserved a account' ha
      rw [hold, totalHeld, openHold, if_neg (fun hc => hrow hc.1)]
      omega
  split := by
    intro id r' hfind hdone
    simp only [find?_put] at hfind
    split at hfind
    · cases hfind
      rw [hstate] at hdone
      cases hdone
    · exact h.split id r' hfind hdone
  actual_nonneg := h.actual_nonneg

theorem totalUncollected_charge (a : String)
    (hledger : chargeLedger s ts requestId r intent c actual = .ok ledger)
    (hsum : c.collectedNano + c.uncollectedNano = actual)
    (hnonneg : 0 ≤ c.collectedNano ∧ 0 ≤ c.uncollectedNano) :
    (ledger.map (leftUncollected a)).sum = totalUncollected s a
        + (if r.accountId = a then c.uncollectedNano else 0) ∧
      (ledger.map (paidIn a)).sum = totalPaidIn s a := by
  rcases chargeLedger_cases hledger with ⟨-, -, rfl⟩ | ⟨hzero, rfl⟩
  · simp [totalUncollected, totalPaidIn, leftUncollected, paidIn, chargeRow]
  · have h0 : c.uncollectedNano = 0 := by omega
    simp [totalUncollected, totalPaidIn, h0]

theorem conserved_settle (h : Conserved s) {winners : Table String GroupWinner}
    {usage : List UsageEvent} {outbox : Table String OutboxRow} {canceled : Bool}
    (hr : s.reservations.find? requestId = some r) (hlive : r.state.terminal = false)
    (haccount : s.accounts.find? r.accountId = some account) (hactual : 0 ≤ actual)
    (hcollect : collectAccount account r.holdNano actual = .ok c)
    (hledger : chargeLedger s ts requestId r o.intent c actual = .ok ledger)
    (houtbox : ∀ id o, outbox.find? id = some o → 0 ≤ o.intent.actualNano) :
    Conserved { s with
      accounts := s.accounts.put r.accountId c.account
      apiKeys := keys
      executionGroupWinner := winners
      ledger := ledger
      usageEvents := usage
      requestFacts := facts
      reservations := s.reservations.put requestId (r.settle canceled actual c ts)
      settlementOutbox := outbox } := by
  obtain ⟨hbalance, hspent, hreserved, hsum⟩ := collectAccount_counters hcollect
  have hnonneg := collectAccount_nonneg hactual hcollect
  have hterm : (r.settle canceled actual c ts).state.terminal = true := by
    cases canceled <;> rfl
  constructor
  · intro a account' ha
    obtain ⟨hunc, hpaid⟩ := totalUncollected_charge a hledger hsum hnonneg
    simp only [totalUncollected, totalPaidIn] at hunc hpaid ⊢
    rw [hunc, hpaid]
    simp only [find?_put] at ha
    split at ha
    · rename_i heq
      cases ha
      subst heq
      have hold := h.balance r.accountId account haccount
      simp only [totalUncollected, totalPaidIn] at hold
      rw [hbalance, hspent, hreserved, if_pos rfl]
      linarith
    · rename_i hne
      have hold := h.balance a account' ha
      simp only [totalUncollected, totalPaidIn] at hold
      rw [if_neg hne]
      linarith
  · intro a account' ha
    simp only [totalHeld]
    rw [sumBy_put (openHold a) _ hr]
    have hnew : openHold a requestId (r.settle canceled actual c ts) = 0 := by
      simp [openHold, hterm]
    rw [hnew]
    simp only [find?_put] at ha
    split at ha
    · rename_i heq
      cases ha
      subst heq
      have hold := h.reserved r.accountId account haccount
      simp only [openHold, hlive, and_self, if_true]
      rw [hreserved, hold, totalHeld]
      omega
    · rename_i hne
      have hold := h.reserved a account' ha
      rw [hold, totalHeld, openHold, if_neg (fun hc => hne hc.1)]
      omega
  · intro id r' hfind hdone
    simp only [find?_put] at hfind
    split at hfind
    · cases hfind
      exact ⟨actual, c.collectedNano, c.uncollectedNano, rfl, rfl, rfl,
        hnonneg.1, hnonneg.2, hsum.symm⟩
    · exact h.split id r' hfind hdone
  · exact houtbox

theorem markPending_money (r : Reservation) (actual ts : Int) :
    (r.markPending actual ts).accountId = r.accountId ∧
      (r.markPending actual ts).holdNano = r.holdNano ∧
      (r.markPending actual ts).state.terminal = r.state.terminal ∧
      ((r.markPending actual ts).state.terminal = true → r.markPending actual ts = r) := by
  unfold Reservation.markPending
  split
  · simp
  · rename_i hlive
    have hlive' : r.state.terminal = false := by simpa using hlive
    rw [hlive']
    simp [ReservationState.terminal]

theorem conserved_transition (h : Conserved s) (hstep : Transition s s') : Conserved s' := by
  cases hstep with
  | owners instances seq leases | delivery _ _ _ => exact h.frame rfl rfl rfl h.actual_nonneg
  | topup haccount hid hkind => exact conserved_topup h haccount hid hkind
  | admitNew hnew haccount =>
    exact conserved_admit (r := newReservation _ _ _ _ _ _ _ _ _) h hnew haccount rfl rfl
  | @touch id r state _ _ _ hr hlive hstate =>
    have hterm : state.terminal = r.state.terminal := by
      rcases hstate with rfl | ⟨h1, rfl⟩
      · rfl
      · rw [h1]; rfl
    refine h.rewrite hr rfl rfl rfl rfl rfl hterm ?_ h.actual_nonneg
    intro hdone
    rw [show state.terminal = false from hterm.trans hlive] at hdone
    cases hdone
  | enqueue hr _ hactual =>
    obtain ⟨h1, h2, h3, h4⟩ := markPending_money _ _ _
    exact h.rewrite hr rfl rfl rfl h1 h2 h3 h4 (h.outbox_put hactual)
  | requeue hr =>
    obtain ⟨h1, h2, h3, h4⟩ := markPending_money _ _ _
    exact h.rewrite hr rfl rfl rfl h1 h2 h3 h4 h.actual_nonneg
  | confirm hr ho _ _ _ _ _ | failure ho _ _ =>
    have hactual := h.actual_nonneg _ _ ho
    exact h.frame rfl rfl rfl (h.outbox_put hactual)
  | settle hr ho hlive _ _ _ haccount hcollect _ hledger =>
    have hactual := h.actual_nonneg _ _ ho
    exact conserved_settle h hr hlive haccount
      (effectiveActual_nonneg hactual) hcollect hledger
      (h.outbox_put hactual)

/-- A retention pass deletes terminal reservations only, so it moves no
aggregate. -/
theorem conserved_pruned (h : Conserved s) (olderThanTs : Int) (billed : Nat) :
    Conserved (pruned s olderThanTs billed) where
  balance := by
    intro a account ha
    rw [pruned_accounts] at ha
    simp only [totalUncollected, totalPaidIn, pruned_ledger]
    exact h.balance a account ha
  reserved := by
    intro a account ha
    rw [pruned_accounts] at ha
    rw [h.reserved a account ha, totalHeld, totalHeld, sumBy_pruned_reservations]
    intro id r _ hdone
    simp [openHold, hdone]
  split := fun id r hfind => h.split id r (pruned_reservation hfind)
  actual_nonneg := fun id o hfind => h.actual_nonneg id o (pruned_outbox hfind)

theorem conserved_exec (op : Op) (h : Conserved s) : Conserved (exec s op) := by
  rcases exec_cases s op with hpath | ⟨olderThanTs, billed, heq⟩
  · exact reflTransGen_invariant (I := Conserved) (fun _ _ => conserved_transition) h hpath
  · rw [heq]
    exact conserved_pruned h olderThanTs billed

end Preservation

theorem conserved_initial {s : Store} (h : s.Initial) : Conserved s where
  balance := by
    intro a account ha
    obtain ⟨h1, h2, h3, -⟩ := h.accounts a account ha
    simp [totalUncollected, totalPaidIn, h.ledger, h1, h2, h3]
  reserved := by
    intro a account ha
    obtain ⟨-, -, h3, -⟩ := h.accounts a account ha
    simp [totalHeld, h.reservations, h3]
  split := by simp [h.reservations]
  actual_nonneg := by simp [h.settlementOutbox]

theorem conserved_run {s : Store} (h : s.Initial) (ops : List Op) : Conserved (run exec s ops) :=
  run_invariant (fun _ op => conserved_exec op) (conserved_initial h) ops

/-- Whatever the processes do and in whatever order: every account's
balance, holds and spending add up to what was paid in plus what its
charges left uncollected, its reserved counter is the sum of its open
holds, and every terminal reservation is split into a collected and an
uncollected part. -/
theorem money_conservation (s₀ : Store) (h₀ : s₀.Initial) (ops : List Op) :
    let s := run exec s₀ ops
    (∀ a account, s.accounts.find? a = some account →
      account.balanceNano + account.reservedNano + account.spentNano
          - totalUncollected s a = totalPaidIn s a ∧
        account.reservedNano = totalHeld s a) ∧
    ∀ id r, s.reservations.find? id = some r → r.state.terminal = true → r.SplitEvidence := by
  have h := conserved_run h₀ ops
  exact ⟨fun a account ha => ⟨h.balance a account ha, h.reserved a account ha⟩, h.split⟩

/-- A top-up and a hold of two dollars that settles for three. -/
def overdrawnRun : List Op :=
  [.claimInstance 1000 "engine" 60,
   .accountTopup 1000 "acct" 1500000000 none,
   .reserve (fun _ => 1000) 1000 { instanceId := "engine", epoch := 1 } "req"
     "acct" "key" 2000000000 60 .direct none none,
   .markDelivering 1001 { instanceId := "engine", epoch := 1 } "req" 60 false,
   .enqueueSettlement 1002 "req" 3000000000 none none none,
   .processOutboxRequest 1003 "req"]

/-- The settlement collects down to the floor and leaves half a dollar
uncollected; the books still add up. -/
theorem money_conservation_overdrawn :
    totalUncollected (run exec soloStore overdrawnRun) "acct" = 500000000 ∧
    ∀ account, (run exec soloStore overdrawnRun).accounts.find? "acct"
      = some account →
      account.balanceNano + account.reservedNano + account.spentNano
        - totalUncollected (run exec soloStore overdrawnRun) "acct"
        = totalPaidIn (run exec soloStore overdrawnRun) "acct" := by
  refine ⟨by decide, ?_⟩
  intro account ha
  exact ((money_conservation soloStore soloStore_initial overdrawnRun).1 "acct" account ha).1

end ApiToken.Registry
