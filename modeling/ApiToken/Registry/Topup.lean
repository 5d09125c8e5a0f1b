import ApiToken.Lib.Calls
import ApiToken.Registry.Sqlite

/-!
# Top-ups in flight

`account_topup` of both stores, statement by statement, among other calls of it
and other money operations. In PostgreSQL a call looks its reference up, writes
the account, of which it locks the row, writes the ledger row, of which a unique
index holds the reference, and commits. In SQLite the transaction is alone among
the writers; a conflict rolls it back, and the stored row is read after that.
-/

namespace ApiToken.Registry

open Calls

/-! ## The books -/

/-- What `account_topup` reads and writes. -/
structure Books where
  accounts : Table String Account
  ledger : List LedgerRow
deriving DecidableEq

/-- A call: its clock and its arguments. -/
structure Topup where
  ts : Int
  id : String
  amountNano : Int
  reference : Option String
deriving DecidableEq

abbrev Answer := Except Error (Option Int)

/-- `SELECT … FROM ledger WHERE ref=$1 AND kind IN ('topup','adjust')`. -/
def Books.recorded (b : Books) (reference : Option String) : Option LedgerRow :=
  reference.bind (moneyRef? b.ledger)

def Topup.exact (c : Topup) (row : LedgerRow) : Bool :=
  row.accountId == c.id && row.kind == (if 0 ≤ c.amountNano then .topup else .adjust)
    && row.amountNano == c.amountNano

def Topup.replayed (c : Topup) (row : LedgerRow) (conflict : String) : Answer :=
  if c.exact row then .ok (some row.balanceAfterNano) else .error (.bail conflict)

def Books.record (b : Books) (c : Topup) (account : Account) : Books :=
  { accounts := b.accounts.put c.id account
    ledger := b.ledger ++ [topupRow c.ts c.id c.amountNano c.reference account.balanceNano] }

/-- What another money operation writes: nobody else writes rows of the two
kinds, and nobody deletes an account. -/
structure Change where
  accounts : List (String × Account)
  rows : List LedgerRow

def Books.changed (b : Books) (locked : String → Bool) (o : Change) : Books :=
  { accounts := o.accounts.foldl
      (fun accounts x => if locked x.1 then accounts else accounts.put x.1 x.2) b.accounts
    ledger := b.ledger ++ o.rows.filter (·.kind == .charge) }

/-! ## PostgreSQL -/

namespace Postgres

/-- How far a call is. -/
inductive Phase where
  | begun
  /-- The look-up found nothing, or there was nothing to look up. -/
  | missed
  /-- The account is written and locked. -/
  | updated (account : Account)
  /-- The ledger row is written, too. -/
  | inserted (account : Account)
deriving DecidableEq

abbrev Flight := World Books Topup Phase Answer

def written : Stage Phase Answer → Option Account
  | .running (.updated account) | .running (.inserted account) => some account
  | _ => none

/-- Does it hold its reference? -/
def claims : Stage Phase Answer → Bool
  | .running (.inserted _) => true
  | _ => false

/-- Is the row of this account locked by a call other than `sid`? -/
def rowTaken (w : Flight) (sid : Nat) (id : String) : Bool :=
  w.calls.any (fun sid' x => sid' != sid && x.1.id == id && (written x.2).isSome)

/-- Has a call other than `sid` written this reference, uncommitted? -/
def refTaken (w : Flight) (sid : Nat) (reference : Option String) : Bool :=
  reference.isSome
    && w.calls.any (fun sid' x => sid' != sid && x.1.reference == reference && claims x.2)

/-- `BEGIN`, and the look-up. -/
def lookUp (b : Books) (c : Topup) : Stage Phase Answer :=
  if c.reference.any blank then
    .answered (.error (.bail "monetary idempotency reference must not be empty"))
  else
    match b.recorded c.reference with
    | none => .running .missed
    | some row => .answered
        (c.replayed row "idempotency reference belongs to another monetary operation")

/-- `UPDATE accounts SET balance_nano=balance_nano+$1 …`. -/
def write (b : Books) (c : Topup) : Stage Phase Answer :=
  match b.accounts.find? c.id with
  | none => .answered (.ok none)
  | some account =>
    match bigint (account.balanceNano + c.amountNano) with
    | .error e => .answered (.error e)
    | .ok balance => .running (.updated { account with balanceNano := balance })

/-- It waits for the row, and reads what is committed then. -/
def update (w : Flight) (sid : Nat) (c : Topup) : Option (Books × Stage Phase Answer) :=
  if rowTaken w sid c.id then none else some (w.shared, write w.shared c)

/-- `INSERT INTO ledger …`, which waits for a row of the same reference to be
committed or rolled back. -/
def insert (w : Flight) (sid : Nat) (c : Topup) (account : Account) :
    Option (Books × Stage Phase Answer) :=
  if (w.shared.recorded c.reference).isSome then
    some (w.shared, .answered (.error (.sql "23505")))
  else if refTaken w sid c.reference then none
  else some (w.shared, .running (.inserted account))

/-- One statement of `account_topup`. -/
def step (w : Flight) (sid : Nat) (c : Topup) :
    Phase → Option (Books × Stage Phase Answer)
  | .begun => some (w.shared, lookUp w.shared c)
  | .missed => update w sid c
  | .updated account => insert w sid c account
  | .inserted account =>
    some (w.shared.record c account, .answered (.ok (some account.balanceNano)))

/-- `account_topup`. -/
def topup : Code Books Topup Phase Answer Change where
  first := .begun
  step := step
  other w := w.shared.changed
    (fun id => w.calls.any (fun _ x => x.1.id == id && (written x.2).isSome))

end Postgres

/-! ## SQLite -/

namespace Sqlite

/-- How far a call is. -/
inductive Phase where
  | begun
  /-- The transaction is rolled back: the reference is taken. -/
  | conflicted
deriving DecidableEq

def topupTransaction (b : Books) (c : Topup) : Books × Stage Phase Answer :=
  if c.reference.any blank then
    (b, .answered (.error (.bail "monetary idempotency reference must not be empty")))
  else
    match b.accounts.find? c.id with
    | none => (b, .answered (.ok none))
    | some account =>
      match getI64 (account.balanceNano + c.amountNano) with
      | .error e => (b, .answered (.error e))
      | .ok balance =>
        match b.recorded c.reference with
        | none =>
          (b.record c { account with balanceNano := balance }, .answered (.ok (some balance)))
        | some _ => (b, .running .conflicted)

def compareStored (b : Books) (c : Topup) : Stage Phase Answer :=
  match b.recorded c.reference with
  | none => .answered (.error (.sql "SQLITE_CONSTRAINT"))
  | some row => .answered (c.replayed row
      "idempotency reference already belongs to a different monetary operation")

/-- `account_topup`. -/
def topup : Code Books Topup Phase Answer Change where
  first := .begun
  step w _ c
    | .begun => some (topupTransaction w.shared c)
    | .conflicted => some (w.shared, compareStored w.shared c)
  other w := w.shared.changed (fun _ => false)

end Sqlite

/-! ## A call by itself -/

def Store.books (s : Store) : Books := ⟨s.accounts, s.ledger⟩

def Sqlite.Store.books (q : Sqlite.Store) : Books := ⟨q.accounts, q.ledger⟩

/-- The world in which only this call went on, and what it came to. -/
def ended {φ : Type} (c : Topup) (books : Books) :
    Except Error (Option Int × Books) → World Books Topup φ Answer
  | .ok (answer, books') => solo books' c (.answered (.ok answer))
  | .error e => solo books c (.answered (.error e))

theorem Postgres.alone_updated {b : Books} {c : Topup} (h : b.recorded c.reference = none)
    (account : Account) :
    alone topup b c (.running (.updated account)) 2 =
      solo (b.record c account) c (.answered (.ok (some account.balanceNano))) := by
  have hfree : ∀ stage, refTaken (solo b c stage) 0 c.reference = false := by
    intro stage
    unfold refTaken
    cases c.reference <;> rfl
  have hinsert : topup.step (solo b c (.running (.updated account))) 0 c (.updated account) =
      some (b, .running (.inserted account)) := by
    show (if (b.recorded c.reference).isSome then _ else if _ then _ else _) = _
    rw [h, hfree, isSome_none, if_neg Bool.false_ne_true, if_neg Bool.false_ne_true]
    rfl
  have hcommit : topup.step (solo b c (.running (.inserted account))) 0 c
      (.inserted account) =
        some (b.record c account, .answered (.ok (some account.balanceNano))) := rfl
  rw [alone_running 1 hinsert, alone_running 0 hcommit, alone_answered]

/-- Four steps are `account_topup` as one transaction. -/
theorem Postgres.alone_topup (s : Store) (c : Topup) :
    alone topup s.books c (.running .begun) 4 = ended c s.books
      ((accountTopup s c.ts c.id c.amountNano c.reference).map (fun x => (x.1, x.2.books))) := by
  have hlookUp : topup.step (solo s.books c (.running .begun)) 0 c .begun =
      some (s.books, lookUp s.books c) := rfl
  rw [alone_running 3 hlookUp]
  unfold accountTopup
  cases hblank : c.reference.any blank with
  | true =>
    have hblanked : lookUp s.books c = .answered
        (.error (.bail "monetary idempotency reference must not be empty")) := by
      rw [lookUp, hblank, if_pos rfl]
    rw [hblanked, alone_answered]
    rfl
  | false =>
    cases hrow : c.reference.bind (moneyRef? s.ledger) with
    | some row =>
      have hfound : lookUp s.books c = .answered (c.replayed row
          "idempotency reference belongs to another monetary operation") := by
        rw [lookUp, hblank, if_neg Bool.false_ne_true]
        simp only [Books.recorded, Store.books, hrow]
      rw [hfound, alone_answered, Topup.replayed]
      cases hexact : c.exact row with
      | true | false =>
        unfold Topup.exact at hexact
        simp only [hexact]
        rfl
    | none =>
      have hmissed : lookUp s.books c = .running .missed := by
        rw [lookUp, hblank, if_neg Bool.false_ne_true]
        simp only [Books.recorded, Store.books, hrow]
      rw [hmissed]
      have hupdate : topup.step (solo s.books c (.running .missed)) 0 c .missed =
          some (s.books, write s.books c) := rfl
      rw [alone_running 2 hupdate, write]
      simp only [Store.books]
      cases haccount : s.accounts.find? c.id with
      | none =>
        rw [alone_answered]
        rfl
      | some account =>
        cases hbalance : bigint (account.balanceNano + c.amountNano) with
        | error =>
          simp only [alone_answered, bind, Except.bind, hbalance]
          rfl
        | ok =>
          have hfree : (Books.mk s.accounts s.ledger).recorded c.reference = none := hrow
          simp only [alone_updated hfree, bind, Except.bind, hbalance]
          rfl

/-- Two steps are `account_topup` as one call. -/
theorem Sqlite.alone_topup (q : Sqlite.Store) (c : Topup) :
    alone topup q.books c (.running .begun) 2 = ended c q.books
      ((accountTopup q c.ts c.id c.amountNano c.reference).map (fun x => (x.1, x.2.books))) := by
  have htransaction : topup.step (solo q.books c (.running .begun)) 0 c .begun =
      some ((topupTransaction q.books c).1, (topupTransaction q.books c).2) := rfl
  rw [alone_running 1 htransaction]
  unfold accountTopup topupTransaction
  cases hblank : c.reference.any blank with
  | true =>
    rw [if_pos rfl, alone_answered]
    rfl
  | false =>
    rw [if_neg Bool.false_ne_true]
    simp only [Store.books]
    cases haccount : q.accounts.find? c.id with
    | none =>
      rw [alone_answered]
      rfl
    | some account =>
      cases hbalance : getI64 (account.balanceNano + c.amountNano) with
      | error =>
        simp only [alone_answered, bind, Except.bind, hbalance]
        rfl
      | ok =>
        simp only [Books.recorded, bind, Except.bind, hbalance]
        cases hrow : c.reference.bind (moneyRef? q.ledger) with
        | none =>
          rw [alone_answered]
          rfl
        | some row =>
          have hcompare : topup.step (solo ⟨q.accounts, q.ledger⟩ c (.running .conflicted)) 0 c
              .conflicted =
                some (⟨q.accounts, q.ledger⟩, compareStored ⟨q.accounts, q.ledger⟩ c) := rfl
          simp only [alone_running 0 hcompare, compareStored, Books.recorded, hrow,
            alone_answered, Topup.replayed]
          cases hexact : c.exact row with
          | true | false =>
            unfold Topup.exact at hexact
            simp only [hexact]
            rfl

end ApiToken.Registry
