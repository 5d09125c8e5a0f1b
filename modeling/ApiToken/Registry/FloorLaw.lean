import ApiToken.Registry.HotPath
import ApiToken.Registry.ZeroHold

/-!
# The settlement floor

A settlement with a hold gives the hold back and then takes what is due, down to
minus one dollar, or to the balance it found if that is deeper. PostgreSQL
computes it in `numeric`, SQLite in `i128` with a check of every column, in two
functions: for a request, and for callers that carry no request identity.
-/

namespace ApiToken.Registry

variable {keys : Table String ApiKey} {s : Store} {x y balance : Int}

/-- A row of `accounts`: columns of 64 bits, of which one is not negative. -/
structure Account.Stored (a : Account) : Prop where
  balance : Bigint a.balanceNano
  spent : Bigint a.spentNano
  reserved : Bigint a.reservedNano
  uncollected : Bigint a.uncollectedNano
  uncollected_nonneg : 0 ≤ a.uncollectedNano

def settlementFloor (balance : Int) : Int := min balance (-accountOverdraftNano)

/-- A settlement of `actual` that releases `hold`: the account after it, what it
collected and what it did not. -/
structure FloorLaw (a : Account) (hold actual : Int) (a' : Account)
    (collected uncollected : Int) : Prop where
  /-- The most that keeps the balance at the floor, unless less is due. -/
  collects : ∃ most,
    IsGreatest {x : Int | settlementFloor a.balanceNano ≤ a.balanceNano + hold - x} most ∧
      collected = min actual most
  leaves : uncollected = actual - collected
  balance : a'.balanceNano = a.balanceNano + hold - collected
  floor : settlementFloor a.balanceNano ≤ a'.balanceNano
  reserved : a'.reservedNano = a.reservedNano - hold
  reserved_nonneg : 0 ≤ a'.reservedNano
  uncollected : a'.uncollectedNano = a.uncollectedNano + uncollected
  spent : a'.spentNano = a.spentNano + actual

def Account.settled (a : Account) (hold actual : Int) : Account :=
  { a with
    balanceNano := a.balanceNano + hold - collectible a.balanceNano hold actual
    spentNano := a.spentNano + actual
    reservedNano := a.reservedNano - hold
    uncollectedNano := a.uncollectedNano + (actual - collectible a.balanceNano hold actual) }

section Law

variable {a : Account} {hold actual : Int}

theorem isGreatest_collectable (balance hold : Int) :
    IsGreatest {x : Int | settlementFloor balance ≤ balance + hold - x}
      (balance + hold - settlementFloor balance) := by
  constructor
  · show settlementFloor balance ≤ balance + hold - (balance + hold - settlementFloor balance)
    omega
  · intro x hx
    have : settlementFloor balance ≤ balance + hold - x := hx
    omega

theorem settled_law (hhold : 0 < hold) (hreserved : hold ≤ a.reservedNano) :
    FloorLaw a hold actual (a.settled hold actual) (collectible a.balanceNano hold actual)
      (actual - collectible a.balanceNano hold actual) where
  collects := by
    refine ⟨_, isGreatest_collectable a.balanceNano hold, ?_⟩
    unfold collectible settlementFloor
    omega
  balance := rfl
  floor := by
    show settlementFloor a.balanceNano ≤
      a.balanceNano + hold - collectible a.balanceNano hold actual
    unfold collectible settlementFloor
    omega
  reserved := rfl
  reserved_nonneg := by
    show 0 ≤ a.reservedNano - hold
    omega
  leaves := rfl
  uncollected := rfl
  spent := rfl

/-- The columns that a settlement computes stay in range. -/
structure SettledFits (a : Account) (hold actual : Int) : Prop where
  balance : Bigint (a.settled hold actual).balanceNano
  spent : Bigint (a.settled hold actual).spentNano
  uncollected : Bigint (a.settled hold actual).uncollectedNano

def Counters (keys : Table String ApiKey) : Prop :=
  ∀ key k, keys.find? key = some k → 0 ≤ k.reservedNano

theorem Counters.put {key : String} {k : ApiKey} (h : Counters keys)
    (hk : 0 ≤ k.reservedNano) : Counters (keys.put key k) := by
  intro key' k' hfind
  rcases find?_put_cases hfind with ⟨-, rfl⟩ | hbefore
  · exact hk
  · exact h key' k' hbefore

/-! ## The account statements -/

variable (a actual) in
theorem settlementFloorFence_settled (hhold : 0 < hold) :
    settlementFloorFence a (a.settled hold actual) = .ok () := by
  have hfloor : settlementFloor a.balanceNano ≤ (a.settled hold actual).balanceNano := by
    show settlementFloor a.balanceNano ≤
      a.balanceNano + hold - collectible a.balanceNano hold actual
    unfold collectible settlementFloor
    omega
  unfold settlementFloor at hfloor
  simp only [settlementFloorFence, failIf_eq_ok, Bool.and_eq_false_iff, guard_iffs]
  right
  split <;> omega

theorem collectAccount_iff {c : AccountCollection} (hhold : 0 < hold)
    (hreserved : hold ≤ a.reservedNano) :
    collectAccount a hold actual = .ok c ↔
      SettledFits a hold actual ∧
        c = ⟨a.settled hold actual, collectible a.balanceNano hold actual,
          actual - collectible a.balanceNano hold actual⟩ := by
  have hfence := settlementFloorFence_settled a actual hhold
  have hsum : a.uncollectedNano + actual - collectible a.balanceNano hold actual =
      a.uncollectedNano + (actual - collectible a.balanceNano hold actual) := by
    omega
  unfold collectAccount
  rw [if_neg (by omega)]
  simp only [ok_steps, bailIf_eq_ok, guard_iffs, Int.not_lt, bigint_iff_eq, hsum]
  constructor
  · rintro ⟨-, _, ⟨hbalance, rfl⟩, _, ⟨hspent, rfl⟩, _, ⟨huncollected, rfl⟩, -, rfl⟩
    exact ⟨⟨hbalance, hspent, huncollected⟩, rfl⟩
  · rintro ⟨⟨hbalance, hspent, huncollected⟩, rfl⟩
    exact ⟨hreserved, _, ⟨hbalance, rfl⟩, _, ⟨hspent, rfl⟩, _, ⟨huncollected, rfl⟩, hfence, rfl⟩

variable (a hold) in
theorem collectible_range (hactual : 0 ≤ actual) (hrange : Bigint actual) :
    Bigint (collectible a.balanceNano hold actual) ∧
      Bigint (actual - collectible a.balanceNano hold actual) ∧
      0 ≤ actual - collectible a.balanceNano hold actual := by
  unfold collectible Bigint at *
  omega

end Law

theorem settleKey_counters {id key : String} {hold actual : Int}
    (hcounters : Counters s.apiKeys) (h : settleKey s id key hold actual = .ok keys) :
    Counters keys := by
  unfold settleKey at h
  cases hk : s.apiKeys.find? key with
  | none =>
    rw [hk] at h
    cases h
    exact hcounters
  | some k =>
    rw [hk] at h
    dsimp only at h
    split at h
    · rename_i hreleases
      simp only [ok_steps, bigint_iff_eq] at h
      obtain ⟨_, -, _, ⟨-, rfl⟩, rfl⟩ := h
      exact hcounters.put (Int.sub_nonneg_of_le hreleases.2)
    · cases h

namespace Sqlite

theorem getI64_iff : getI64 x = .ok y ↔ Bigint x ∧ y = x := by
  constructor
  · intro h
    refine ⟨?_, getI64_eq_ok h⟩
    unfold getI64 at h
    split at h
    · assumption
    · cases h
  · rintro ⟨h, rfl⟩
    exact if_pos h

theorem tryFrom_iff {message : String} : tryFrom x message = .ok y ↔ Bigint x ∧ y = x := by
  constructor
  · intro h
    refine ⟨?_, tryFrom_eq_ok h⟩
    unfold tryFrom at h
    split at h
    · assumption
    · cases h
  · rintro ⟨h, rfl⟩
    exact if_pos h

section Law

variable {a : Account} {hold actual : Int}

theorem collectable_eq (balance : Int) :
    min (max (balance + hold - min balance (-accountOverdraftNano)) 0) actual =
      collectible balance hold actual := by
  unfold collectible
  omega

theorem settleAccount_iff {x : Account × Int × Int} (ha : a.Stored) (hhold : 0 < hold)
    (hreserved : hold ≤ a.reservedNano) (hactual : 0 ≤ actual) (hrange : Bigint actual) :
    settleAccount a hold actual = .ok x ↔
      SettledFits a hold actual ∧
        x = (a.settled hold actual, collectible a.balanceNano hold actual,
          actual - collectible a.balanceNano hold actual) := by
  obtain ⟨hcollected, hleft, -⟩ := collectible_range a hold hactual hrange
  have hpositive : ¬ hold = 0 := by omega
  simp only [settleAccount, hpositive, if_false, ok_steps, bailIf_eq_ok, guard_iffs, getI64_iff,
    tryFrom_iff, collectable_eq]
  constructor
  · rintro ⟨_, ⟨-, rfl⟩, _, ⟨-, rfl⟩, _, ⟨-, rfl⟩, _, ⟨-, rfl⟩, -, _, ⟨-, rfl⟩, _, ⟨-, rfl⟩,
      _, ⟨hbalance, rfl⟩, _, ⟨hspent, rfl⟩, _, ⟨huncollected, rfl⟩, rfl⟩
    exact ⟨⟨hbalance, hspent, huncollected⟩, rfl⟩
  · rintro ⟨⟨hbalance, hspent, huncollected⟩, rfl⟩
    exact ⟨_, ⟨ha.balance, rfl⟩, _, ⟨ha.spent, rfl⟩, _, ⟨ha.reserved, rfl⟩, _,
      ⟨ha.uncollected, rfl⟩, by omega, _, ⟨hcollected, rfl⟩, _, ⟨hleft, rfl⟩, _,
      ⟨hbalance, rfl⟩, _, ⟨hspent, rfl⟩, _, ⟨huncollected, rfl⟩, rfl⟩

theorem settlePlain_iff {settled : PlainSettlement} (ha : a.Stored) (hhold : 0 < hold)
    (hreserved : hold ≤ a.reservedNano) (hactual : 0 ≤ actual) (hrange : Bigint actual) :
    settlePlain a hold actual = .ok settled ↔
      SettledFits a hold actual ∧
        settled = ⟨a.settled hold actual, hold, collectible a.balanceNano hold actual,
          actual - collectible a.balanceNano hold actual⟩ := by
  obtain ⟨hcollected, hleft, -⟩ := collectible_range a hold hactual hrange
  have hreleased : min hold a.reservedNano = hold := min_eq_left hreserved
  have hpositive : ¬ hold = 0 := by omega
  simp only [settlePlain, plainCollection, hpositive, if_false, ok_steps, getI64_iff, tryFrom_iff]
  constructor
  · rintro ⟨_, ⟨-, rfl⟩, _, ⟨-, rfl⟩, _, ⟨-, rfl⟩, _, ⟨-, rfl⟩, _, ⟨_, ⟨-, rfl⟩, _, ⟨-, rfl⟩,
      _, ⟨hbalance, rfl⟩, rfl⟩, _, ⟨hspent, rfl⟩, _, ⟨huncollected, rfl⟩, rfl⟩
    simp only [hreleased, collectable_eq] at hbalance huncollected ⊢
    exact ⟨⟨hbalance, hspent, huncollected⟩, rfl⟩
  · rintro ⟨⟨hbalance, hspent, huncollected⟩, rfl⟩
    refine ⟨_, ⟨ha.balance, rfl⟩, _, ⟨ha.spent, rfl⟩, _, ⟨ha.reserved, rfl⟩, _,
      ⟨ha.uncollected, rfl⟩, (hold, collectible a.balanceNano hold actual,
        actual - collectible a.balanceNano hold actual, (a.settled hold actual).balanceNano),
      ⟨_, ⟨?_, rfl⟩, _, ⟨?_, rfl⟩, _, ⟨?_, rfl⟩, ?_⟩, _, ⟨hspent, rfl⟩, _,
      ⟨huncollected, rfl⟩, rfl⟩
    · rw [hreleased, collectable_eq]
      exact hcollected
    · rw [hreleased, collectable_eq]
      exact hleft
    · rw [hreleased, collectable_eq]
      exact hbalance
    · rw [hreleased, collectable_eq]
      rfl

end Law

/-! ## The functions that run them -/

section Request

variable {q q' : Store} {ts : Int} {requestId id key : String} {holdNano actualNano : Int}
  {reference : Option String} {usage : Option UsageEventInput}
  {pricing : Option ReservationPricing} {a : Account}

theorem settleKey_counters {hold actual : Int} (hcounters : Counters q.apiKeys)
    (h : settleKey q id key hold actual = .ok keys) : Counters keys := by
  unfold settleKey at h
  cases hk : q.apiKeys.find? key with
  | none =>
    rw [hk] at h
    cases h
    exact hcounters
  | some =>
    rw [hk] at h
    simp only [ok_steps, bailIf_eq_ok, guard_iffs, Int.not_lt, getI64_iff] at h
    obtain ⟨_, ⟨-, rfl⟩, _, ⟨-, rfl⟩, ⟨-, hreleases⟩, _, -, rfl⟩ := h
    exact hcounters.put (Int.sub_nonneg_of_le hreleases)

theorem accountSettleRequestIn_ok {collected uncollected : Int}
    (ha : q.accounts.find? id = some a)
    (h : accountSettleRequestIn q ts requestId id key holdNano actualNano reference usage
      pricing = .ok (some (balance, collected, uncollected), q')) :
    ∃ a', settleAccount a (max holdNano 0) (max actualNano 0) =
        .ok (a', collected, uncollected) ∧
      balance = a'.balanceNano ∧ q'.accounts.find? id = some a' ∧
      (Counters q.apiKeys → Counters q'.apiKeys) := by
  simp only [accountSettleRequestIn, ha, ok_steps, some.injEq, Prod.exists] at h
  obtain ⟨-, a', collected', uncollected', hsettle, keys, hkeys, _, -, _, -,
    ⟨rfl, rfl, rfl⟩, rfl⟩ := h
  exact ⟨a', hsettle, rfl, find?_put_self .., fun hcounters =>
    settleKey_counters hcounters hkeys⟩

end Request

section Plain

variable {c : Setting} {q q' : HotStore} {id key : String} {holdNano actualNano : Int}
  {reference : Option String} {usage : Option UsageEventInput} {a : Account}
  {settled : PlainSettlement}

theorem updateKey_ok {actual released : Int} (h : updateKey key actual released q = .ok ((), q')) :
    q'.accounts = q.accounts ∧ (Counters q.apiKeys → Counters q'.apiKeys) := by
  unfold updateKey at h
  cases hk : q.apiKeys.find? key with
  | none =>
    rw [hk] at h
    cases h
    exact ⟨rfl, id⟩
  | some =>
    rw [hk] at h
    cases h
    exact ⟨rfl, fun hcounters => hcounters.put (Int.le_max_left 0 _)⟩

theorem updateAccount_iff {account : Account} :
    updateAccount id account q = .ok ((), q') ↔ 0 ≤ account.uncollectedNano ∧
      q' = { q with accounts := q.accounts.put id account } := by
  simp only [updateAccount, ok_steps, guard_iffs, Int.not_lt, true_and, eq_comm (a := q')]

theorem ledgerAddSettlement_iff {row : LedgerRow} :
    ledgerAddSettlement row q = .ok ((), q') ↔
      0 ≤ row.uncollectedNano ∧ q' = { q with ledger := q.ledger ++ [row] } := by
  simp only [ledgerAddSettlement, ok_steps, guard_iffs, Int.not_lt, true_and, eq_comm (a := q')]

theorem usageEventAddSettlement_rows (fault : Option Error) (row : PlainUsage) :
    (Conn.statement fault (usageEventAddSettlement row) q).2.accounts = q.accounts ∧
      (Conn.statement fault (usageEventAddSettlement row) q).2.apiKeys = q.apiKeys := by
  rcases Conn.statement_cases fault (usageEventAddSettlement row) q with
    ⟨e, hstatement⟩ | ⟨⟨⟩, q1, -, hexec, hstatement⟩
  · rw [hstatement]
    exact ⟨rfl, rfl⟩
  · simp only [usageEventAddSettlement, ok_steps, true_and] at hexec
    obtain ⟨-, rfl⟩ := hexec
    rw [hstatement]
    exact ⟨rfl, rfl⟩

theorem recordCharge_ok {actual : Int}
    (h : recordCharge c id key actual reference usage settled q = (.ok (), q')) :
    q'.accounts = q.accounts ∧ q'.apiKeys = q.apiKeys := by
  unfold recordCharge at h
  split at h
  · obtain ⟨⟨⟩, q1, hledger, h⟩ := Conn.bind_eq_ok.mp h
    obtain ⟨-, rfl⟩ := ledgerAddSettlement_iff.mp (Conn.statement_eq_ok.mp hledger).2
    cases usage with
    | none =>
      cases h
      exact ⟨rfl, rfl⟩
    | some =>
      cases h
      exact usageEventAddSettlement_rows ..
  · cases h
    exact ⟨rfl, rfl⟩

theorem accountSettleIn_ok (ha : q.accounts.find? id = some a)
    (h : accountSettleIn c id key holdNano actualNano reference usage q =
      (.ok (some balance), q')) :
    ∃ settled, settlePlain a (max holdNano 0) (max actualNano 0) = .ok settled ∧
      balance = settled.account.balanceNano ∧
      q'.accounts.find? id = some settled.account ∧
      (Counters q.apiKeys → Counters q'.apiKeys) := by
  obtain ⟨row, q1, hselect, hfound⟩ := Conn.bind_eq_ok.mp h
  cases (Conn.statement_eq_ok.mp hselect).2
  rw [ha] at hfound
  obtain ⟨settled, q2, hcomputes, hcomputed⟩ := Conn.bind_eq_ok.mp hfound
  obtain ⟨hsettled, rfl⟩ := Conn.ofExcept_eq_ok.mp hcomputes
  obtain ⟨⟨⟩, q3, haccount, hupdated⟩ := Conn.bind_eq_ok.mp hcomputed
  obtain ⟨⟨⟩, q4, hkey, hkeyed⟩ := Conn.bind_eq_ok.mp hupdated
  obtain ⟨⟨⟩, q5, hcharge, hanswered⟩ := Conn.bind_eq_ok.mp hkeyed
  cases hanswered
  obtain ⟨-, rfl⟩ := updateAccount_iff.mp (Conn.statement_eq_ok.mp haccount).2
  obtain ⟨haccounts, hcounters⟩ := updateKey_ok (Conn.statement_eq_ok.mp hkey).2
  obtain ⟨haccounts', hkeys⟩ := recordCharge_ok hcharge
  refine ⟨settled, hsettled, rfl, ?_, ?_⟩
  · rw [haccounts', haccounts]
    exact find?_put_self ..
  · rw [hkeys]
    exact hcounters

theorem updateKey_total (key : String) (actual released : Int) (q : HotStore) :
    ∃ q', updateKey key actual released q = .ok ((), q') := by
  unfold updateKey
  cases q.apiKeys.find? key with
  | none | some k => exact ⟨_, rfl⟩

variable (q id key reference usage) in
theorem recordCharge_of_unfaulted {actual : Int} (hfails : 0 < actual → c.fails 3 = none)
    (huncollected : 0 ≤ settled.uncollectedNano) :
    ∃ q', recordCharge c id key actual reference usage settled q = (.ok (), q') := by
  unfold recordCharge
  split
  · rename_i hpositive
    have hledger : Conn.statement (c.fails 3) (ledgerAddSettlement
        (plainCharge (c.now 0) id key actual reference usage settled)) q = (.ok (), { q with
          ledger := q.ledger ++
            [plainCharge (c.now 0) id key actual reference usage settled] }) :=
      Conn.statement_eq_ok.mpr
        ⟨hfails hpositive, ledgerAddSettlement_iff.mpr ⟨huncollected, rfl⟩⟩
    cases usage with
    | none | some u => exact ⟨_, Conn.bind_of_ok hledger⟩
  · exact ⟨q, rfl⟩

variable (key holdNano actualNano reference usage) in
theorem accountSettleIn_of_settled (hfails : ∀ n, c.fails n = none)
    (ha : q.accounts.find? id = some a)
    (hsettled : settlePlain a (max holdNano 0) (max actualNano 0) = .ok settled)
    (haccount : 0 ≤ settled.account.uncollectedNano)
    (huncollected : 0 ≤ settled.uncollectedNano) :
    ∃ q', accountSettleIn c id key holdNano actualNano reference usage q =
      (.ok (some settled.account.balanceNano), q') := by
  obtain ⟨q₁, hkey⟩ := updateKey_total key (max actualNano 0) settled.releasedNano
    { q with accounts := q.accounts.put id settled.account }
  obtain ⟨q₂, hcharge⟩ := recordCharge_of_unfaulted (c := c) q₁ id key reference usage
    (fun _ : 0 < max actualNano 0 => hfails 3) huncollected
  refine ⟨q₂, Conn.bind_eq_ok.mpr ⟨q.accounts.find? id, q,
    Conn.statement_eq_ok.mpr ⟨hfails 0, rfl⟩, ?_⟩⟩
  rw [ha]
  exact Conn.bind_eq_ok.mpr ⟨settled, q, Conn.ofExcept_eq_ok.mpr ⟨hsettled, rfl⟩,
    Conn.bind_eq_ok.mpr ⟨(), _, Conn.statement_eq_ok.mpr
        ⟨hfails 1, updateAccount_iff.mpr ⟨haccount, rfl⟩⟩,
      Conn.bind_eq_ok.mpr ⟨(), q₁, Conn.statement_eq_ok.mpr ⟨hfails 2, hkey⟩,
        Conn.bind_eq_ok.mpr ⟨(), q₂, hcharge, rfl⟩⟩⟩⟩

theorem accountSettleIn_of_error {e : Error} (hfails : c.fails 0 = none)
    (ha : q.accounts.find? id = some a)
    (hsettled : settlePlain a (max holdNano 0) (max actualNano 0) = .error e) :
    accountSettleIn c id key holdNano actualNano reference usage q = (.error e, q) := by
  have hselect : Conn.statement (c.fails 0) (selectAccount id) q = (.ok (some a), q) :=
    Conn.statement_eq_ok.mpr ⟨hfails, by rw [selectAccount, ha]⟩
  exact (Conn.bind_of_ok hselect).trans (Conn.ofExcept_bind_error hsettled)

end Plain

end Sqlite

/-! ## The law -/

/-- `collect_account_settlement_tx`, and the key statement beside it. -/
structure PostgresLaw (a : Account) (id : String) (hold actual : Int) : Prop where
  account : ∀ (s : Store) (c : AccountCollection), s.accounts.find? id = some a →
    collectAccountSettlementTx s id hold actual = .ok c →
      FloorLaw a hold actual c.account c.collectedNano c.uncollectedNano
  keys : ∀ (s : Store) (key : String) (keys : Table String ApiKey), Counters s.apiKeys →
    settleKey s id key hold actual = .ok keys → Counters keys

/-- `account_settle_request_in`, beside PostgreSQL on the same row. -/
structure RequestLaw (a : Account) (id : String) (hold actual : Int) : Prop where
  account : ∀ (q q' : Sqlite.Store) (ts : Int) (requestId key : String)
    (reference : Option String) (usage : Option UsageEventInput)
    (pricing : Option ReservationPricing) (balance collected uncollected : Int),
    q.accounts.find? id = some a →
    Sqlite.accountSettleRequestIn q ts requestId id key hold actual reference usage pricing =
      .ok (some (balance, collected, uncollected), q') →
      ∃ a', q'.accounts.find? id = some a' ∧ balance = a'.balanceNano ∧
        FloorLaw a hold actual a' collected uncollected ∧
        (Counters q.apiKeys → Counters q'.apiKeys) ∧
        ∀ s : Store, s.accounts.find? id = some a →
          collectAccountSettlementTx s id hold actual = .ok ⟨a', collected, uncollected⟩
  /-- Neither collects what the other refuses. -/
  same : ∀ (s : Store) (a' : Account) (collected uncollected : Int),
    s.accounts.find? id = some a →
    (Sqlite.settleAccount a hold actual = .ok (a', collected, uncollected) ↔
      collectAccountSettlementTx s id hold actual = .ok ⟨a', collected, uncollected⟩)

/-- `account_settle_in`, beside PostgreSQL on the same row. -/
structure PlainLaw (a : Account) (id : String) (hold actual : Int) : Prop where
  account : ∀ (c : Sqlite.Setting) (q q' : Sqlite.HotStore) (key : String)
    (reference : Option String) (usage : Option UsageEventInput) (balance : Int),
    q.accounts.find? id = some a →
    Sqlite.accountSettleIn c id key hold actual reference usage q =
      (.ok (some balance), q') →
      ∃ a' collected uncollected, q'.accounts.find? id = some a' ∧
        balance = a'.balanceNano ∧ FloorLaw a hold actual a' collected uncollected ∧
        (Counters q.apiKeys → Counters q'.apiKeys) ∧
        ∀ s : Store, s.accounts.find? id = some a →
          collectAccountSettlementTx s id hold actual = .ok ⟨a', collected, uncollected⟩
  /-- When no statement fails, it answers exactly when PostgreSQL collects. -/
  same : ∀ (c : Sqlite.Setting) (q : Sqlite.HotStore) (s : Store) (key : String)
    (reference : Option String) (usage : Option UsageEventInput),
    (∀ n, c.fails n = none) → q.accounts.find? id = some a →
    s.accounts.find? id = some a →
    (∃ collection q', collectAccountSettlementTx s id hold actual = .ok collection ∧
      Sqlite.accountSettleIn c id key hold actual reference usage q =
        (.ok (some collection.account.balanceNano), q') ∧
      q'.accounts.find? id = some collection.account) ∨
    ∃ e e', collectAccountSettlementTx s id hold actual = .error e ∧
      Sqlite.accountSettleIn c id key hold actual reference usage q = (.error e', q)

section Law

variable {a : Account} {id : String} {hold actual : Int}

theorem collectAccountSettlementTx_iff {c : AccountCollection}
    (ha : s.accounts.find? id = some a) :
    collectAccountSettlementTx s id hold actual = .ok c ↔
      collectAccount a hold actual = .ok c := by
  simp only [collectAccountSettlementTx, ha, orFail, bind_eq_ok, Except.ok.injEq, exists_eq_left']

theorem postgres_law (hhold : 0 < hold) (hreserved : hold ≤ a.reservedNano) :
    PostgresLaw a id hold actual where
  account := by
    intro s c ha hcollect
    rw [collectAccountSettlementTx_iff ha, collectAccount_iff hhold hreserved] at hcollect
    obtain ⟨-, rfl⟩ := hcollect
    exact settled_law hhold hreserved
  keys := fun s key keys hcounters h => settleKey_counters hcounters h

theorem request_law (ha : a.Stored) (hhold : 0 < hold) (hreserved : hold ≤ a.reservedNano)
    (hactual : 0 ≤ actual) (hrange : Bigint actual) : RequestLaw a id hold actual where
  account := by
    intro q q' ts requestId key reference usage pricing balance collected uncollected hfind h
    obtain ⟨a', hsettle, rfl, hrow, hcounters⟩ := Sqlite.accountSettleRequestIn_ok hfind h
    rw [max_eq_left hhold.le, max_eq_left hactual,
      Sqlite.settleAccount_iff ha hhold hreserved hactual hrange] at hsettle
    obtain ⟨hfits, hsettled⟩ := hsettle
    cases hsettled
    refine ⟨_, hrow, rfl, settled_law hhold hreserved, hcounters, fun s hs => ?_⟩
    rw [collectAccountSettlementTx_iff hs, collectAccount_iff hhold hreserved]
    exact ⟨hfits, rfl⟩
  same := by
    intro s a' collected uncollected hs
    rw [collectAccountSettlementTx_iff hs, collectAccount_iff hhold hreserved,
      Sqlite.settleAccount_iff ha hhold hreserved hactual hrange, Prod.mk.injEq,
      Prod.mk.injEq, AccountCollection.mk.injEq]

theorem plain_law (ha : a.Stored) (hhold : 0 < hold) (hreserved : hold ≤ a.reservedNano)
    (hactual : 0 ≤ actual) (hrange : Bigint actual) : PlainLaw a id hold actual where
  account := by
    intro c q q' key reference usage balance hfind h
    obtain ⟨settled, hsettle, rfl, hrow, hcounters⟩ := Sqlite.accountSettleIn_ok hfind h
    rw [max_eq_left hhold.le, max_eq_left hactual,
      Sqlite.settlePlain_iff ha hhold hreserved hactual hrange] at hsettle
    obtain ⟨hfits, rfl⟩ := hsettle
    refine ⟨_, _, _, hrow, rfl, settled_law hhold hreserved, hcounters, fun s hs => ?_⟩
    rw [collectAccountSettlementTx_iff hs, collectAccount_iff hhold hreserved]
    exact ⟨hfits, rfl⟩
  same := by
    intro c q s key reference usage hfails hfind hs
    have huncollected := (collectible_range a hold hactual hrange).2.2
    have hholdMax : max hold 0 = hold := max_eq_left hhold.le
    have hactualMax : max actual 0 = actual := max_eq_left hactual
    by_cases hfits : SettledFits a hold actual
    · have hcollect := (collectAccount_iff hhold hreserved).mpr ⟨hfits, rfl⟩
      have hsettle := (Sqlite.settlePlain_iff ha hhold hreserved hactual hrange).mpr ⟨hfits, rfl⟩
      obtain ⟨q', hanswer⟩ := Sqlite.accountSettleIn_of_settled key hold actual reference
        usage hfails hfind (by rw [hholdMax, hactualMax]; exact hsettle)
        (Int.add_nonneg ha.uncollected_nonneg huncollected) huncollected
      obtain ⟨settled, hsettled, -, hrow, -⟩ := Sqlite.accountSettleIn_ok hfind hanswer
      rw [hholdMax, hactualMax, hsettle] at hsettled
      cases hsettled
      exact .inl ⟨_, q', (collectAccountSettlementTx_iff hs).mpr hcollect, hanswer, hrow⟩
    · refine .inr ?_
      cases hcollect : collectAccountSettlementTx s id hold actual with
      | ok =>
        rw [collectAccountSettlementTx_iff hs, collectAccount_iff hhold hreserved] at hcollect
        exact absurd hcollect.1 hfits
      | error e =>
        cases hsettle : Sqlite.settlePlain a hold actual with
        | ok =>
          rw [Sqlite.settlePlain_iff ha hhold hreserved hactual hrange] at hsettle
          exact absurd hsettle.1 hfits
        | error e' =>
          exact ⟨e, e', rfl, Sqlite.accountSettleIn_of_error (hfails 0) hfind
            (by rw [hholdMax, hactualMax]; exact hsettle)⟩

end Law

/-- A settlement under a positive hold obeys the floor law in both stores, and
in both it is the same. -/
theorem settlement_floor_law (a : Account) (id : String) (hold actual : Int) (ha : a.Stored)
    (hhold : 0 < hold) (hreserved : hold ≤ a.reservedNano) (hactual : 0 ≤ actual)
    (hrange : Bigint actual) :
    PostgresLaw a id hold actual ∧ RequestLaw a id hold actual ∧ PlainLaw a id hold actual :=
  ⟨postgres_law hhold hreserved, request_law ha hhold hreserved hactual hrange,
    plain_law ha hhold hreserved hactual hrange⟩

def debtor : Account :=
  { balanceNano := -2000000000, spentNano := 7000000000, reservedNano := 3000000000,
    uncollectedNano := 0, status := "active" }

/-- Five dollars against two that come back: two are collected, and the debt
is as deep as before. -/
theorem debtor_floor_law :
    (PostgresLaw debtor "acct" 2000000000 5000000000 ∧
      RequestLaw debtor "acct" 2000000000 5000000000 ∧
      PlainLaw debtor "acct" 2000000000 5000000000) ∧
    (collectAccount debtor 2000000000 5000000000).map
        (fun c => (c.account.balanceNano, c.collectedNano, c.uncollectedNano)) =
      .ok (-2000000000, 2000000000, 3000000000) :=
  ⟨settlement_floor_law debtor "acct" 2000000000 5000000000
    ⟨by decide, by decide, by decide, by decide, by decide⟩ (by decide) (by decide)
    (by decide) (by decide), by decide +kernel⟩

end ApiToken.Registry
