import ApiToken.Registry.FloorLaw

/-!
# A batch, and its operations one by one

A reservation rolls back to its savepoint whenever it is not accepted. A
settlement has none: by itself it has a transaction, in a batch it leaves the
statements that ran before the one that failed. And a counter is added to
without a check, so a sum past 64 bits is kept, but no longer as an integer.
-/

namespace ApiToken.Registry.Sqlite

/-! ## Reservations -/

/-- What the statements of a reservation ask of the rows they find. -/
structure Admits (c : Setting) (id : String) (hold : Int) (a : Account) (k : ApiKey) :
    Prop where
  funds : c.fails 0 = none
  active : a.status = "active"
  funded : hold = 0 ∨ hold - accountOverdraftNano ≤ a.balanceNano
  readable : Bigint (a.balanceNano - hold)
  policy : c.fails 1 = none
  key : keyAdmits k id hold (c.now 0) = true

def HotStore.debited (q : HotStore) (id : String) (a : Account) (hold : Int) : HotStore :=
  { q with
    accounts := q.accounts.put id { a with
      balanceNano := a.balanceNano - hold
      reservedNano := a.reservedNano + hold } }

def HotStore.limited (q : HotStore) (key : String) (k : ApiKey) (hold : Int) : HotStore :=
  { q with
    apiKeys := q.apiKeys.put key { k with reservedNano := k.reservedNano + hold } }

/-- An answer that admits nothing. -/
def Refuses : Except Error (Option Int) → Prop
  | .ok answer => answer = none
  | .error _ => True

section Reserve

variable {c : Setting} {id key : String} {hold : Int} {q : HotStore}

def Funds (id : String) (hold : Int) (q : HotStore) (a : Account) : Prop :=
  q.accounts.find? id = some a ∧ a.status = "active" ∧
    (hold = 0 ∨ hold - accountOverdraftNano ≤ a.balanceNano)

theorem funds_some {a : Account} (h : Funds id hold q a) :
    (if hold = 0 then selectActive id else debitAccount id hold) q =
      .ok (some (a.balanceNano - hold), q.debited id a hold) := by
  obtain ⟨ha, hactive, hfunded⟩ := h
  by_cases hzero : hold = 0
  · subst hzero
    have hsame : q.accounts.put id { a with
        balanceNano := a.balanceNano - 0
        reservedNano := a.reservedNano + 0 } = q.accounts := by
      rw [Int.sub_zero, Int.add_zero]
      exact Table.put_of_find? ha
    rw [HotStore.debited, if_pos rfl, selectActive, ha, hsame, Int.sub_zero]
    exact if_pos hactive
  · have hboth : a.status = "active" ∧ hold - accountOverdraftNano ≤ a.balanceNano :=
      ⟨hactive, hfunded.resolve_left hzero⟩
    rw [if_neg hzero, debitAccount, ha]
    exact if_pos hboth

theorem funds_none (h : ∀ a, ¬ Funds id hold q a) :
    (if hold = 0 then selectActive id else debitAccount id hold) q = .ok (none, q) := by
  by_cases hzero : hold = 0
  · rw [if_pos hzero, selectActive]
    cases ha : q.accounts.find? id with
    | none => rfl
    | some a => exact if_neg (fun hactive => h a ⟨ha, hactive, .inl hzero⟩)
  · rw [if_neg hzero, debitAccount]
    cases ha : q.accounts.find? id with
    | none => rfl
    | some a => exact if_neg (fun hboth => h a ⟨ha, hboth.1, .inr hboth.2⟩)

def Policy (c : Setting) (id key : String) (hold : Int) (q : HotStore) (k : ApiKey) : Prop :=
  q.apiKeys.find? key = some k ∧ keyAdmits k id hold (c.now 0) = true

theorem policy_true {k : ApiKey} (h : Policy c id key hold q k) :
    (if hold = 0 then selectKey id key (c.now 0) else debitKey id key hold (c.now 0)) q =
      .ok (true, q.limited key k hold) := by
  obtain ⟨hk, hadmits⟩ := h
  by_cases hzero : hold = 0
  · subst hzero
    have hsame : q.apiKeys.put key { k with reservedNano := k.reservedNano + 0 } =
        q.apiKeys := by
      rw [Int.add_zero]
      exact Table.put_of_find? hk
    rw [HotStore.limited, if_pos rfl, selectKey, hk, hsame, any_some, hadmits]
  · rw [if_neg hzero, debitKey, hk]
    exact if_pos hadmits

theorem policy_false (h : ∀ k, ¬ Policy c id key hold q k) :
    (if hold = 0 then selectKey id key (c.now 0) else debitKey id key hold (c.now 0)) q =
      .ok (false, q) := by
  by_cases hzero : hold = 0
  · subst hzero
    rw [if_pos rfl, selectKey]
    cases hk : q.apiKeys.find? key with
    | none => rfl
    | some k =>
      have hno : keyAdmits k id 0 (c.now 0) = false :=
        Bool.eq_false_iff.mpr (fun hadmits => h k ⟨hk, hadmits⟩)
      rw [any_some, hno]
  · rw [if_neg hzero, debitKey]
    cases hk : q.apiKeys.find? key with
    | none => rfl
    | some k => exact if_neg (fun hadmits => h k ⟨hk, hadmits⟩)

variable (c id hold q) in
theorem reserveFunds_cases :
    (∃ a, Funds id hold q a ∧ c.fails 0 = none ∧
      reserveFunds c id hold q = (.ok (some (a.balanceNano - hold)), q.debited id a hold)) ∨
    (c.fails 0 = none → ∀ a, ¬ Funds id hold q a) ∧
      ∃ r, Refuses r ∧ reserveFunds c id hold q = (r, q) := by
  unfold reserveFunds
  cases hfault : c.fails 0 with
  | some e => exact .inr ⟨nofun, .error e, trivial, rfl⟩
  | none =>
    by_cases hfunds : ∃ a, Funds id hold q a
    · obtain ⟨a, hfunds⟩ := hfunds
      exact .inl ⟨a, hfunds, rfl, Conn.statement_of_ok (funds_some hfunds)⟩
    · have hnone := not_exists.mp hfunds
      exact .inr ⟨fun _ => hnone, .ok none, rfl, Conn.statement_of_ok (funds_none hnone)⟩

theorem reserveKeyed_cases {column : Int} :
    (∃ k, Policy c id key hold q k ∧ c.fails 1 = none ∧ Bigint column ∧
      reserveKeyed c id key hold column q = (.ok (some column), q.limited key k hold)) ∨
    (Bigint column → c.fails 1 = none → ∀ k, ¬ Policy c id key hold q k) ∧
      ∃ r, Refuses r ∧ reserveKeyed c id key hold column q = (r, q) := by
  unfold reserveKeyed
  cases hread : getI64 column with
  | error e =>
    refine .inr ⟨fun hbigint => ?_, .error e, trivial, Conn.ofExcept_bind_error rfl⟩
    rw [getI64_iff.mpr ⟨hbigint, rfl⟩] at hread
    cases hread
  | ok =>
    obtain ⟨hbigint, rfl⟩ := getI64_iff.mp hread
    rw [Conn.ofExcept_bind_ok rfl]
    cases hfault : c.fails 1 with
    | some e =>
      refine .inr ⟨fun _ => nofun, .error e, trivial, Conn.bind_of_error ?_⟩
      show reservePolicy c id key hold q = (.error e, q)
      rw [reservePolicy, hfault, Conn.statement_of_fault]
    | none =>
      by_cases hpolicy : ∃ k, Policy c id key hold q k
      · obtain ⟨k, hpolicy⟩ := hpolicy
        have hadmitted : reservePolicy c id key hold q = (.ok true, q.limited key k hold) := by
          rw [reservePolicy, hfault, Conn.statement_of_ok (policy_true hpolicy)]
        exact .inl ⟨k, hpolicy, rfl, hbigint, Conn.bind_of_ok hadmitted⟩
      · have hnone := not_exists.mp hpolicy
        have hpolicy : reservePolicy c id key hold q = (.ok false, q) := by
          rw [reservePolicy, hfault, Conn.statement_of_ok (policy_false hnone)]
        exact .inr ⟨fun _ _ => hnone, .ok none, rfl, Conn.bind_of_ok hpolicy⟩

variable (c id key q) in
theorem accountReserveForKeyIn_cases (holdNano : Int) (hhold : hold = max holdNano 0) :
    (∃ a k, q.accounts.find? id = some a ∧ q.apiKeys.find? key = some k ∧
      Admits c id hold a k ∧ accountReserveForKeyIn c id key holdNano q =
        (.ok (some (a.balanceNano - hold)), (q.debited id a hold).limited key k hold)) ∨
    (∀ a k, q.accounts.find? id = some a → q.apiKeys.find? key = some k →
      ¬ Admits c id hold a k) ∧
      ∃ r, Refuses r ∧ accountReserveForKeyIn c id key holdNano q = (r, q) := by
  unfold accountReserveForKeyIn
  simp only [← hhold]
  rcases reserveFunds_cases c id hold q with
    ⟨a, ⟨ha, hactive, hfunded⟩, hfault, hfunds⟩ | ⟨hnone, r, hr, hfunds⟩
  · rcases reserveKeyed_cases (q := q.debited id a hold) with
      ⟨k, ⟨hk, hadmits⟩, hfault', hread, hkeyed⟩ | ⟨hnone, r, hr, hkeyed⟩
    · exact .inl ⟨a, k, ha, hk, ⟨hfault, hactive, hfunded, hread, hfault', hadmits⟩,
        Conn.savepoint_of_some ((Conn.bind_of_ok hfunds).trans hkeyed)⟩
    · refine .inr ⟨fun a' k ha' hk h => ?_, ?_⟩
      · obtain rfl := some.inj (ha.symm.trans ha')
        exact hnone h.readable h.policy k ⟨hk, h.key⟩
      · cases r with
        | error e => exact ⟨.error e, trivial, Conn.savepoint_of_error ((Conn.bind_of_ok hfunds).trans hkeyed)⟩
        | ok answer =>
          obtain rfl : answer = none := hr
          exact ⟨.ok none, rfl, Conn.savepoint_of_none ((Conn.bind_of_ok hfunds).trans hkeyed)⟩
  · refine .inr ⟨fun a k ha _ h => hnone h.funds a ⟨ha, h.active, h.funded⟩, ?_⟩
    cases r with
    | error e => exact ⟨.error e, trivial, Conn.savepoint_of_error (Conn.bind_of_error hfunds)⟩
    | ok answer =>
      obtain rfl : answer = none := hr
      exact ⟨.ok none, rfl, Conn.savepoint_of_none (Conn.bind_of_ok hfunds)⟩

end Reserve

/-! ## Settlements -/

def plainReleased (a : Account) (hold : Int) : Int :=
  if hold = 0 then 0 else min hold a.reservedNano

def plainCollected (a : Account) (hold actual : Int) : Int :=
  if hold = 0 then actual else collectible a.balanceNano (min hold a.reservedNano) actual

def plainAccount (a : Account) (hold actual : Int) : Account :=
  { a with
    balanceNano := a.balanceNano + plainReleased a hold - plainCollected a hold actual
    spentNano := a.spentNano + actual
    reservedNano := a.reservedNano - plainReleased a hold
    uncollectedNano := a.uncollectedNano + (actual - plainCollected a hold actual) }

/-- Every amount is in range. -/
structure PlainFits (a : Account) (hold actual : Int) : Prop where
  balance : Bigint a.balanceNano
  spent : Bigint a.spentNano
  reserved : Bigint a.reservedNano
  uncollected : Bigint a.uncollectedNano
  collects : hold ≠ 0 → Bigint (plainCollected a hold actual) ∧
    Bigint (actual - plainCollected a hold actual)
  newBalance : Bigint (plainAccount a hold actual).balanceNano
  newSpent : Bigint (plainAccount a hold actual).spentNano
  newUncollected : Bigint (plainAccount a hold actual).uncollectedNano

section Settle

variable {c : Setting} {id key : String} {hold actual : Int} {q : HotStore} {a : Account}

theorem plainCollection_iff {x : Int × Int × Int × Int} :
    plainCollection a.balanceNano a.reservedNano hold actual = .ok x ↔
      (hold ≠ 0 → Bigint (plainCollected a hold actual) ∧
        Bigint (actual - plainCollected a hold actual)) ∧
      Bigint (plainAccount a hold actual).balanceNano ∧
      x = (plainReleased a hold, plainCollected a hold actual,
        actual - plainCollected a hold actual, (plainAccount a hold actual).balanceNano) := by
  unfold plainCollection plainAccount plainCollected plainReleased
  by_cases hzero : hold = 0
  · simp only [hzero, if_true, ok_steps, tryFrom_iff, ne_eq, not_true_eq_false, false_implies,
      true_and, Int.add_zero, Int.sub_self]
    constructor
    · rintro ⟨_, ⟨hbalance, rfl⟩, rfl⟩
      exact ⟨hbalance, rfl⟩
    · rintro ⟨hbalance, rfl⟩
      exact ⟨_, ⟨hbalance, rfl⟩, rfl⟩
  · simp only [hzero, if_false, ok_steps, tryFrom_iff, collectable_eq, ne_eq, not_false_eq_true,
      true_implies]
    constructor
    · rintro ⟨_, ⟨hcollected, rfl⟩, _, ⟨hleft, rfl⟩, _, ⟨hbalance, rfl⟩, rfl⟩
      exact ⟨⟨hcollected, hleft⟩, hbalance, rfl⟩
    · rintro ⟨⟨hcollected, hleft⟩, hbalance, rfl⟩
      exact ⟨_, ⟨hcollected, rfl⟩, _, ⟨hleft, rfl⟩, _, ⟨hbalance, rfl⟩, rfl⟩

theorem settlePlain_eq_ok {settled : PlainSettlement} :
    settlePlain a hold actual = .ok settled ↔
      PlainFits a hold actual ∧
        settled = ⟨plainAccount a hold actual, plainReleased a hold,
          plainCollected a hold actual, actual - plainCollected a hold actual⟩ := by
  simp only [settlePlain, ok_steps, getI64_iff, tryFrom_iff]
  constructor
  · rintro ⟨_, ⟨hbalance, rfl⟩, _, ⟨hspent, rfl⟩, _, ⟨hreserved, rfl⟩, _, ⟨huncollected, rfl⟩,
      x, hx, _, ⟨hnewSpent, rfl⟩, _, ⟨hnewUncollected, rfl⟩, rfl⟩
    obtain ⟨hcollects, hnewBalance, rfl⟩ := plainCollection_iff.mp hx
    exact ⟨⟨hbalance, hspent, hreserved, huncollected, hcollects, hnewBalance, hnewSpent,
      hnewUncollected⟩, rfl⟩
  · rintro ⟨h, rfl⟩
    exact ⟨_, ⟨h.balance, rfl⟩, _, ⟨h.spent, rfl⟩, _, ⟨h.reserved, rfl⟩, _,
      ⟨h.uncollected, rfl⟩, _, plainCollection_iff.mpr ⟨h.collects, h.newBalance, rfl⟩, _,
      ⟨h.newSpent, rfl⟩, _, ⟨h.newUncollected, rfl⟩, rfl⟩

/-- Something is billed, or something is released. -/
def Moves (a : Account) (hold actual : Int) : Prop :=
  actual ≠ 0 ∨ hold ≠ 0 ∧ a.reservedNano ≠ 0

theorem plainCollected_le : plainCollected a hold actual ≤ actual := by
  unfold plainCollected collectible
  split <;> omega

theorem plainAccount_eq_iff (hhold : 0 ≤ hold) (hactual : 0 ≤ actual) :
    plainAccount a hold actual = a ↔ ¬ Moves a hold actual := by
  constructor
  · intro h
    have hspent : a.spentNano + actual = a.spentNano := congrArg Account.spentNano h
    have hreserved : a.reservedNano - plainReleased a hold = a.reservedNano :=
      congrArg Account.reservedNano h
    unfold plainReleased at hreserved
    rintro (hbilled | ⟨hheld, hsome⟩)
    · omega
    · rw [if_neg hheld] at hreserved
      omega
  · intro h
    obtain ⟨hbilled, hreleased⟩ := not_or.mp h
    obtain rfl : actual = 0 := not_not.mp hbilled
    have hnothing : plainReleased a hold = 0 := by
      unfold plainReleased
      split <;> omega
    have hfree : plainCollected a hold 0 = 0 := by
      unfold plainCollected collectible
      split <;> omega
    simp only [plainAccount, hnothing, hfree, Int.add_zero, Int.sub_zero]

/-- A settlement fails after its first write. -/
structure LeaksOn (c : Setting) (hold actual : Int) (a : Account) : Prop where
  fits : PlainFits a hold actual
  /-- What the trigger on `accounts` asks. -/
  evidence : 0 ≤ (plainAccount a hold actual).uncollectedNano
  written : c.fails 1 = none
  /-- The key statement, or the one on the ledger. -/
  fails : c.fails 2 ≠ none ∧ Moves a hold actual ∨
    c.fails 2 = none ∧ 0 < actual ∧ c.fails 3 ≠ none

/-- A settlement that fails when it has written the account already. -/
def Leaks (c : Setting) (id : String) (hold actual : Int) (q : HotStore) : Prop :=
  c.fails 0 = none ∧ ∃ a, q.accounts.find? id = some a ∧ LeaksOn c hold actual a

/-- What the statements after the account's come to. -/
def settleTail (c : Setting) (id key : String) (actual : Int) (reference : Option String)
    (usage : Option UsageEventInput) (settled : PlainSettlement) : HotConn (Option Int) := do
  Conn.statement (c.fails 2) (updateKey key actual settled.releasedNano)
  recordCharge c id key actual reference usage settled
  pure (some settled.account.balanceNano)

variable (c id key actual q) in
theorem settleTail_cases (reference : Option String) (usage : Option UsageEventInput)
    (settled : PlainSettlement) (huncollected : 0 ≤ settled.uncollectedNano) :
    (∃ q', c.fails 2 = none ∧ (0 < actual → c.fails 3 = none) ∧
      settleTail c id key actual reference usage settled q =
        (.ok (some settled.account.balanceNano), q')) ∨ (∃ e, c.fails 2 ≠ none ∧
      settleTail c id key actual reference usage settled q = (.error e, q)) ∨
    ∃ e q', c.fails 2 = none ∧ 0 < actual ∧ c.fails 3 ≠ none ∧ q'.accounts = q.accounts ∧
      settleTail c id key actual reference usage settled q = (.error e, q') := by
  obtain ⟨q₁, hkey⟩ := updateKey_total key actual settled.releasedNano q
  cases hfault : c.fails 2 with
  | some e =>
    refine .inr (.inl ⟨e, nofun, Conn.bind_of_error ?_⟩)
    rw [hfault, Conn.statement_of_fault]
  | none =>
    have hupdated : Conn.statement (c.fails 2) (updateKey key actual settled.releasedNano) q =
        (.ok (), q₁) :=
      Conn.statement_eq_ok.mpr ⟨hfault, hkey⟩
    by_cases hledger : 0 < actual → c.fails 3 = none
    · obtain ⟨q₂, hcharge⟩ := recordCharge_of_unfaulted q₁ id key reference usage hledger
        huncollected
      exact .inl ⟨q₂, rfl, hledger,
        (Conn.bind_of_ok hupdated).trans (Conn.bind_of_ok hcharge)⟩
    · obtain ⟨hpositive, hfault'⟩ := not_forall.mp hledger
      obtain ⟨e, he⟩ := Option.ne_none_iff_exists'.mp hfault'
      have hcharge : recordCharge c id key actual reference usage settled q₁ =
          (.error e, q₁) := by
        unfold recordCharge
        rw [if_pos hpositive, he]
        exact Conn.bind_of_error (Conn.statement_of_fault _)
      exact .inr (.inr ⟨e, q₁, rfl, hpositive, hfault', (updateKey_ok hkey).1,
        (Conn.bind_of_ok hupdated).trans (Conn.bind_of_error hcharge)⟩)

/-- `account_settle_in` on an account that it found. -/
def settleFound (c : Setting) (id key : String) (hold actual : Int)
    (reference : Option String) (usage : Option UsageEventInput) (account : Account) :
    HotConn (Option Int) := do
  let settled ← Conn.ofExcept (settlePlain account hold actual)
  Conn.statement (c.fails 1) (updateAccount id settled.account)
  settleTail c id key actual reference usage settled

inductive Outcome (q : HotStore) (leaks : Prop) : Except Error (Option Int) × HotStore → Prop
  | answered {answer q'} : ¬ leaks → (answer = none → q' = q) → Outcome q leaks (.ok answer, q')
  | failed {e} : ¬ leaks → Outcome q leaks (.error e, q)
  | leaked {e q'} : leaks → q' ≠ q → Outcome q leaks (.error e, q')

variable (c key) in
theorem settleFound_outcome (reference : Option String) (usage : Option UsageEventInput)
    (hhold : 0 ≤ hold) (hactual : 0 ≤ actual) (ha : q.accounts.find? id = some a) :
    Outcome q (LeaksOn c hold actual a)
      (settleFound c id key hold actual reference usage a q) := by
  unfold settleFound
  cases hsettled : settlePlain a hold actual with
  | error =>
    rw [Conn.ofExcept_bind_error rfl]
    refine .failed fun hleaks => ?_
    rw [settlePlain_eq_ok.mpr ⟨hleaks.fits, rfl⟩] at hsettled
    cases hsettled
  | ok =>
    obtain ⟨hfits, rfl⟩ := settlePlain_eq_ok.mp hsettled
    rw [Conn.ofExcept_bind_ok rfl]
    rcases Conn.statement_cases (c.fails 1) (updateAccount id (plainAccount a hold actual)) q
      with ⟨e, hupdate⟩ | ⟨⟨⟩, q₁, hfault, hexec, hupdate⟩
    · rw [Conn.bind_of_error hupdate]
      refine .failed fun hleaks => ?_
      rw [Conn.statement_eq_ok.mpr ⟨hleaks.written, updateAccount_iff.mpr
        ⟨hleaks.evidence, rfl⟩⟩] at hupdate
      cases hupdate
    · obtain ⟨hevidence, rfl⟩ := updateAccount_iff.mp hexec
      rw [Conn.bind_of_ok hupdate]
      -- where the account moved, its row is no longer the one that was found
      have hmoved : Moves a hold actual →
          q.accounts.put id (plainAccount a hold actual) ≠ q.accounts := by
        intro hmoves hsame
        have hrow := find?_put_self q.accounts id (plainAccount a hold actual)
        rw [hsame, ha, some.injEq] at hrow
        exact (plainAccount_eq_iff hhold hactual).mp hrow.symm hmoves
      rcases settleTail_cases c id key actual
          { q with accounts := q.accounts.put id (plainAccount a hold actual) } reference usage
          ⟨plainAccount a hold actual, plainReleased a hold,
            plainCollected a hold actual, actual - plainCollected a hold actual⟩
          (Int.sub_nonneg_of_le plainCollected_le) with
        ⟨q', hkey, hledger, htail⟩ | ⟨e, hkey, htail⟩ |
          ⟨e, q', hkey, hpositive, hledger, haccounts, htail⟩
      · rw [htail]
        refine .answered (fun hleaks => ?_) nofun
        rcases hleaks.fails with ⟨hfails, -⟩ | ⟨-, hpositive, hfails⟩
        · exact hfails hkey
        · exact hfails (hledger hpositive)
      · rw [htail]
        by_cases hmoves : Moves a hold actual
        · refine .leaked ⟨hfits, hevidence, hfault, .inl ⟨hkey, hmoves⟩⟩ fun hsame => ?_
          exact hmoved hmoves (congrArg (·.accounts) hsame)
        · have hunchanged := (plainAccount_eq_iff hhold hactual).mpr hmoves
          rw [hunchanged, Table.put_of_find? ha]
          refine .failed fun hleaks => ?_
          rcases hleaks.fails with ⟨-, hmoves'⟩ | ⟨hnone, -⟩
          · exact hmoves hmoves'
          · exact hkey hnone
      · rw [htail]
        refine .leaked ⟨hfits, hevidence, hfault, .inr ⟨hkey, hpositive, hledger⟩⟩ ?_
        rintro rfl
        exact hmoved (.inl hpositive.ne') haccounts.symm

theorem accountSettleIn_outcome {holdNano actualNano : Int} {reference : Option String}
    {usage : Option UsageEventInput} (hhold : hold = max holdNano 0)
    (hactual : actual = max actualNano 0) :
    Outcome q (Leaks c id hold actual q)
      (accountSettleIn c id key holdNano actualNano reference usage q) := by
  have hholdPos : 0 ≤ hold := by omega
  have hactualPos : 0 ≤ actual := by omega
  unfold accountSettleIn
  simp only [← hhold, ← hactual]
  cases hselect : c.fails 0 with
  | some =>
    rw [Conn.bind_of_error (Conn.statement_of_fault _)]
    refine .failed fun hleaks => ?_
    rw [hleaks.1] at hselect
    cases hselect
  | none =>
    cases ha : q.accounts.find? id with
    | none =>
      rw [Conn.bind_of_ok (Conn.statement_of_ok (by rw [selectAccount, ha]))]
      refine .answered (fun hleaks => ?_) (fun _ => rfl)
      obtain ⟨-, a, ha', -⟩ := hleaks
      rw [ha] at ha'
      cases ha'
    | some a =>
      rw [Conn.bind_of_ok (Conn.statement_of_ok (by rw [selectAccount, ha]))]
      have houtcome := settleFound_outcome c key reference usage hholdPos hactualPos ha
      have hleaks : Leaks c id hold actual q ↔ LeaksOn c hold actual a := by
        constructor
        · rintro ⟨-, a', ha', h⟩
          rw [ha, some.injEq] at ha'
          exact ha' ▸ h
        · exact fun h => ⟨hselect, a, ha, h⟩
      rw [hleaks]
      exact houtcome

end Settle

/-! ## One reservation -/

def Held (id key : String) (hold : Int) (q q' : HotStore) : Prop :=
  ∃ a k, q.accounts.find? id = some a ∧ q.apiKeys.find? key = some k ∧
    q' = (q.debited id a hold).limited key k hold ∧
    (hold ≠ 0 → Bigint (a.reservedNano + hold) ∧ Bigint (k.reservedNano + hold))

def AllOrNothing (c : Setting) (id key : String) (holdNano : Int) (q : HotStore) : Prop :=
  ∃ r q', accountReserveForKeyIn c id key holdNano q = (r, q') ∧
    ((∃ balance, r = .ok (some balance)) ∧ Held id key (max holdNano 0) q q' ∨ Refuses r ∧ q' = q)

def CountersFit (c : Setting) (id key : String) (hold : Int) (q : HotStore) : Prop :=
  ∀ a k, q.accounts.find? id = some a → q.apiKeys.find? key = some k →
    Admits c id hold a k → hold ≠ 0 →
      Bigint (a.reservedNano + hold) ∧ Bigint (k.reservedNano + hold)

theorem allOrNothing_iff (c : Setting) (id key : String) (holdNano : Int) (q : HotStore) :
    AllOrNothing c id key holdNano q ↔ CountersFit c id key (max holdNano 0) q := by
  rcases accountReserveForKeyIn_cases c id key q holdNano rfl with ⟨a, k, ha, hk, hadmits, hreserve⟩ | ⟨hnone, r, hr, hreserve⟩
  · constructor
    · rintro ⟨r, q', hreserve', ⟨-, a', k', ha', hk', -, hfit⟩ | ⟨hr, -⟩⟩ b l hb hl - hheld
      · rw [hb, some.injEq] at ha'
        rw [hl, some.injEq] at hk'
        exact ha' ▸ hk' ▸ hfit hheld
      · rw [hreserve] at hreserve'
        cases hreserve'
        cases hr
    · intro hfit
      exact ⟨_, _, hreserve, .inl ⟨⟨_, rfl⟩, a, k, ha, hk, rfl, hfit a k ha hk hadmits⟩⟩
  · constructor
    · intro _ a k ha hk hadmits
      exact absurd hadmits (hnone a k ha hk)
    · exact fun _ => ⟨r, q, hreserve, .inr ⟨hr, rfl⟩⟩

/-! ## A batch -/

/-- The operation fails half way. -/
def HotOp.Leaks (c : Setting) (q : HotStore) : HotOp → Prop
  | .reserve .. => False
  | .settle id _ hold actual _ _ => Sqlite.Leaks c id (max hold 0) (max actual 0) q

theorem HotOp.apply_outcome (c : Setting) (q : HotStore) (op : HotOp) :
    Outcome q (op.Leaks c q) (op.apply c q) := by
  cases op with
  | settle => exact accountSettleIn_outcome rfl rfl
  | reserve id key hold =>
    show Outcome q False (accountReserveForKeyIn c id key hold q)
    rcases accountReserveForKeyIn_cases c id key q hold rfl with ⟨a, k, -, -, -, hreserve⟩ | ⟨-, r, hr, hreserve⟩
    · rw [hreserve]
      exact .answered not_false nofun
    · rw [hreserve]
      cases r with
      | ok => exact .answered not_false fun _ => rfl
      | error => exact .failed not_false

theorem HotOp.alone_eq {c : Setting} {q : HotStore} {op : HotOp} (h : ¬ op.Leaks c q) :
    op.alone c q = op.apply c q := by
  cases op with
  | reserve => rfl
  | settle id key hold actual reference usage =>
    have houtcome := HotOp.apply_outcome c q (.settle id key hold actual reference usage)
    show Conn.transaction (HotOp.apply c (.settle id key hold actual reference usage)) q = _
    generalize hresult : HotOp.apply c (.settle id key hold actual reference usage) q = result
      at houtcome ⊢
    cases houtcome with
    | answered => exact Conn.transaction_of_ok hresult
    | failed => exact Conn.transaction_of_error hresult
    | leaked hleaks => exact absurd hleaks h

/-- What one operation of a batch makes of the database. -/
def hotStep (q : HotStore) (x : HotOp × Setting) : HotStore := (x.1.apply x.2 q).2

/-- A batch is its operations, each all or nothing. -/
structure BatchExact (q : HotStore) (ops : List (HotOp × Setting)) : Prop where
  same : applyHotBatch q ops = oneByOne q ops
  failing : Along hotStep (fun q x => flattened (x.1.apply x.2 q).1 = none →
    (x.1.apply x.2 q).2 = q) q ops

theorem HotOp.failing_iff (c : Setting) (q : HotStore) (op : HotOp) :
    (flattened (op.apply c q).1 = none → (op.apply c q).2 = q) ↔ ¬ op.Leaks c q := by
  have houtcome := HotOp.apply_outcome c q op
  generalize op.apply c q = result at houtcome ⊢
  cases houtcome with
  | answered hno hsame => exact ⟨fun _ => hno, fun _ => hsame⟩
  | failed hno => exact ⟨fun _ => hno, fun _ _ => rfl⟩
  | leaked hleaks hne => exact ⟨fun h => absurd (h rfl) hne, fun h => absurd hleaks h⟩

theorem batchExact_iff (q : HotStore) (ops : List (HotOp × Setting)) :
    BatchExact q ops ↔ Along hotStep (fun q x => ¬ x.1.Leaks x.2 q) q ops := by
  constructor
  · intro h
    have hfailing := h.failing
    simp only [HotOp.failing_iff] at hfailing
    exact hfailing
  · intro h
    refine ⟨?_, ?_⟩
    · induction ops generalizing q with
      | nil => rfl
      | cons x ops ih =>
        obtain ⟨hhead, htail⟩ := h
        have hrest : applyHotBatch (hotStep q x) ops = oneByOne (hotStep q x) ops := ih _ htail
        have halone := HotOp.alone_eq hhead
        calc applyHotBatch q (x :: ops)
            = (flattened (x.1.apply x.2 q).1 :: (applyHotBatch (hotStep q x) ops).1,
                (applyHotBatch (hotStep q x) ops).2) := rfl
          _ = (flattened (x.1.alone x.2 q).1 :: (oneByOne (x.1.alone x.2 q).2 ops).1,
                (oneByOne (x.1.alone x.2 q).2 ops).2) := by
              rw [hrest, halone]
              rfl
          _ = oneByOne q (x :: ops) := rfl
    · simp only [HotOp.failing_iff]
      exact h

/-- Reservations are all or nothing, and a batch is its operations one by one,
exactly when no counter overflows and no settlement fails half way. The faults
are those of single statements: `BEGIN`, `COMMIT` and `RELEASE` do not fail, and
no fault rolls the transaction back by itself. -/
theorem hot_path_atomic_iff (c : Setting) (id key : String) (holdNano : Int) (q : HotStore)
    (ops : List (HotOp × Setting)) :
    AllOrNothing c id key holdNano q ∧ BatchExact q ops ↔
      CountersFit c id key (max holdNano 0) q ∧
        Along hotStep (fun q x => ¬ x.1.Leaks x.2 q) q ops := by
  rw [allOrNothing_iff, batchExact_iff]

/-- One account with ten dollars, of which its one key holds `reserved` more. -/
def tilled (reserved : Int) : HotStore :=
  { accounts := Table.empty.put "acct"
      { balanceNano := 10000000000, spentNano := 0, reservedNano := reserved,
        uncollectedNano := 0, status := "active" }
    apiKeys := Table.empty.put "key"
      { keyId := "key-id", accountId := "acct", spentNano := 0, reservedNano := reserved,
        spendLimitNano := none, expiresTs := none, status := "active" }
    billingReservations := .empty, billingSettlementOutbox := .empty
    executionGroupWinner := .empty, ledger := [], usageEvents := [], plainUsage := [] }

/-- The clocks stand at 1000, and statement `n` alone fails. -/
def faultAt (n : Option Nat) : Setting where
  now _ := 1000
  fails k := if some k = n then some (.sql "SQLITE_IOERR") else none

/-- A hold of two on counters that are full is accepted, and neither counter is
an integer any more. A settlement of five whose ledger row fails answers nothing,
and the batch keeps its debit. -/
theorem hot_path_not_atomic :
    ¬ AllOrNothing (faultAt none) "acct" "key" 2 (tilled 9223372036854775807) ∧
    ¬ BatchExact (tilled 0) [(.settle "acct" "key" 0 5 none none, faultAt (some 3))] ∧
    (applyHotBatch (tilled 0)
        [(.settle "acct" "key" 0 5 none none, faultAt (some 3))]).1 = [none] ∧
    ((applyHotBatch (tilled 0)
        [(.settle "acct" "key" 0 5 none none, faultAt (some 3))]).2.accounts.find? "acct").map
      (·.balanceNano) = some 9999999995 := by
  refine ⟨fun h => ?_, fun h => ?_, by decide +kernel, by decide +kernel⟩
  · rw [allOrNothing_iff] at h
    have hfits := h _ _ rfl rfl ⟨rfl, rfl, .inr (by decide), by decide, rfl, by decide⟩
      (by decide)
    exact absurd hfits.1 (by decide)
  · have hfailing := h.failing.1 (by decide +kernel)
    revert hfailing
    decide +kernel

end ApiToken.Registry.Sqlite
