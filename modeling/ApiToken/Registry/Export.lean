import ApiToken.Lib.RowLock
import ApiToken.Registry.Steps
import Mathlib.Data.List.Pairwise

/-!
# The ledger feed

The commercial backend copies the ledger out of the engine: it asks for the
rows after the last id it has seen, processes the page, and acknowledges
it; acknowledged charge rows may later be pruned. Ids come from a sequence
at insert time, so the feed is only complete if the rows of an account
become visible in id order.

The writers are the transactions of the engine that touch an account, cut
into the statements that matter here. Consumers and pruning run in between.
-/

namespace ApiToken.Registry

open RowLock

variable {s s' : Store} {ts : Int} {b : Option Int} {requestId name account : String}
  {f : Feed} {x : Numbered} {rows : List Numbered}

abbrev Numbered := Nat × LedgerRow

/-! ## The writers -/

/-- A money transaction, with what it has read from other rows by the time
it writes. -/
inductive Writer where
  | accountTopup (ts : Int) (id : String) (amountNano : Int)
      (reference : Option String) (balance : Int)
  | processOutboxRequest (ts : Int) (requestId : String) (r : Reservation)
      (intent : Intent) (collection : AccountCollection) (actual : Int)
  | processGeminiBatchSettlement (ts : Int) (requestId accountId model : String)
      (actual chargeBasis mult : Int) (collection : AccountCollection)
  /-- An admission: the account row is locked, no ledger row is written. -/
  | reserve (accountId : String)

/-- The charge row of a Gemini batch item. It names its key by `key_id`. -/
def batchChargeRow (ts : Int) (requestId accountId model : String)
    (actual chargeBasis mult : Int) (collection : AccountCollection) :
    LedgerRow :=
  { accountId, key := none, kind := .charge, requestId := some requestId,
    amountNano := actual, ref := none,
    balanceAfterNano := collection.account.balanceNano, ts, model := some model,
    provider := some "google", officialNano := some chargeBasis,
    payableMultiplierBp := some mult, uncollectedNano := collection.uncollectedNano }

/-- The statements of a writer on `accounts` and `ledger`, in order.
`collect_account_settlement_tx` is the account statement of both
settlements. -/
def Writer.script : Writer → List (Stmt String LedgerRow)
  | .accountTopup ts id amount reference balance =>
    [.lock id, .insert (topupRow ts id amount reference balance)]
  | .processOutboxRequest ts requestId r intent collection actual =>
    .lock r.accountId :: (if 0 < actual then
      [.insert (chargeRow r requestId intent collection actual ts)] else [])
  | .processGeminiBatchSettlement ts requestId accountId model actual chargeBasis
      mult collection =>
    .lock accountId :: (if 0 < actual then
      [.insert (batchChargeRow ts requestId accountId model actual chargeBasis
        mult collection)] else [])
  | .reserve accountId => [.lock accountId]

def inserted : List (Stmt String LedgerRow) → List LedgerRow
  | [] => []
  | .lock _ :: rest => inserted rest
  | .insert row :: rest => row :: inserted rest

theorem writer_locksFirst (writer : Writer) :
    LocksFirst LedgerRow.accountId [] writer.script := by
  cases writer with
  | accountTopup => exact ⟨mem_singleton.mpr rfl, trivial⟩
  | processOutboxRequest | processGeminiBatchSettlement =>
    simp only [Writer.script]
    split
    · exact ⟨mem_singleton.mpr rfl, trivial⟩
    · exact trivial
  | reserve => exact trivial

theorem accountTopup_script {amount : Int} {id : String} {reference : Option String}
    (h : accountTopup s ts id amount reference = .ok (b, s')) :
    s'.ledger = s.ledger ∨ ∃ balance, s'.ledger = s.ledger ++
      inserted (Writer.accountTopup ts id amount reference balance).script := by
  simp only [accountTopup, ok_steps] at h
  obtain ⟨-, h⟩ := h
  split at h
  · simp only [ok_steps] at h
    obtain ⟨-, -, rfl⟩ := h
    exact Or.inl rfl
  · split at h
    · simp only [ok_steps] at h
      obtain ⟨-, rfl⟩ := h
      exact Or.inl rfl
    · simp only [ok_steps] at h
      obtain ⟨balance, -, -, rfl⟩ := h
      exact Or.inr ⟨balance, rfl⟩

theorem chargeLedger_script {r : Reservation} {intent : Intent}
    {collection : AccountCollection} {actual : Int} {ledger : List LedgerRow}
    (h : chargeLedger s ts requestId r intent collection actual = .ok ledger) :
    ledger = s.ledger ++ inserted (Writer.processOutboxRequest ts requestId r
      intent collection actual).script := by
  unfold chargeLedger at h
  simp only [Writer.script]
  split at h
  · rename_i hpos
    simp only [insertCharge, ok_steps] at h
    obtain ⟨-, rfl⟩ := h
    rw [if_pos hpos]
    rfl
  · rename_i hpos
    cases h
    rw [if_neg hpos]
    exact (append_nil _).symm

theorem processOutboxRequest_script
    (h : processOutboxRequest s ts requestId = .ok (b, s')) :
    s'.ledger = s.ledger ∨ ∃ r intent collection actual,
      s'.ledger = s.ledger ++ inserted (Writer.processOutboxRequest ts requestId
        r intent collection actual).script := by
  unfold processOutboxRequest at h
  split at h
  · rename_i o r ho hr
    simp only [ok_steps] at h
    obtain ⟨-, h⟩ := h
    split at h
    · simp only [confirmSettled, ok_steps] at h
      obtain ⟨-, -, -, facts, -, -, rfl⟩ := h
      exact Or.inl rfl
    · simp only [applySettlement, ok_steps] at h
      obtain ⟨winners, -, -, collection, -, keys, -, ledger, hledger, -, -, facts, -, -, rfl⟩ := h
      exact Or.inr ⟨r, o.intent, collection, _, chargeLedger_script hledger⟩
  · cases h
    exact Or.inl rfl

/-! ## The feed -/

/-- A reader of one account's ledger. -/
structure Consumer where
  /-- The id it passes to the next `ledger_after`. -/
  cursor : Int := 0
  /-- The highest id it has processed. -/
  high : Int := 0
  /-- The rows it has processed, in order. -/
  seen : List Numbered := []

/-- The ledger with its readers and its pruning. -/
structure Feed where
  db : World String LedgerRow
  /-- The ids that `ledger_prune` has deleted. -/
  deleted : List Nat
  /-- `ledger_consumer_checkpoints`. -/
  checkpoints : Table (String × String) Int
  /-- The ids selected by `ledger_prune` statements still running. -/
  prunes : Table Nat (List Nat)
  consumers : Table (String × String) Consumer

def Feed.empty : Feed :=
  { db := .empty, deleted := [], checkpoints := .empty, prunes := .empty,
    consumers := .empty }

/-- What a snapshot shows of the ledger. -/
def Feed.visible (f : Feed) : List Numbered :=
  f.db.log.filter (fun x => !f.deleted.contains x.1)

def Feed.consumer (f : Feed) (name account : String) : Consumer :=
  (f.consumers.find? (name, account)).getD {}

/-- `ORDER BY id ASC`. -/
def orderById (rows : List Numbered) : List Numbered :=
  rows.insertionSort (fun x y => x.1 ≤ y.1)

/-- `limit.clamp(1, 1000)`. -/
def clampPage (limit : Int) : Nat := (max 1 (min limit 1000)).toNat

def ledgerAfter (rows : List Numbered) (account : String)
    (afterId limit : Int) : List Numbered :=
  (orderById (rows.filter (fun x => x.2.accountId == account
    && decide (max afterId 0 < x.1)))).take (clampPage limit)

def ledgerAck (checkpoints : Table (String × String) Int)
    (consumer account : String) (lastLedgerId : Int) :
    Except Error (Table (String × String) Int) := do
  bailIf (blank consumer || lastLedgerId < 0) "invalid ledger checkpoint"
  return checkpoints.put (consumer, account)
    (max ((checkpoints.find? (consumer, account)).getD lastLedgerId) lastLedgerId)

/-- May `ledger_prune` delete the row? -/
def prunable (checkpoints : Table (String × String) Int) (olderThanTs : Int)
    (x : Numbered) : Bool :=
  x.2.kind == .charge && decide (x.2.ts < olderThanTs)
    && (checkpoints.find? ("pricing", x.2.accountId)).any
      (fun last => decide ((x.1 : Int) ≤ last))

/-- The subselect of `ledger_prune`. -/
def ledgerPrune (rows : List Numbered)
    (checkpoints : Table (String × String) Int) (olderThanTs : Int) :
    List Nat :=
  ((orderById (rows.filter (prunable checkpoints olderThanTs))).take 5000).map Prod.fst

/-- One statement of one process. -/
inductive FeedOp where
  | start (sid : Nat) (writer : Writer)
  | step (sid : Nat)
  | commit (sid : Nat)
  | abort (sid : Nat)
  /-- `ledger_after` from the cursor; the page is processed. -/
  | poll (consumer account : String) (limit : Int)
  /-- The consumer restarts from an earlier id. -/
  | resume (consumer account : String) (afterId : Int)
  /-- `ledger_ack` of something already processed. -/
  | ack (consumer account : String) (lastLedgerId : Int)
  /-- `ledger_prune` reads its snapshot here … -/
  | pruneSelect (pid : Nat) (olderThanTs : Int)
  /-- … and its delete becomes visible here. -/
  | pruneDelete (pid : Nat)

def Consumer.process (c : Consumer) (page : List Numbered) : Consumer :=
  match page.getLast? with
  | none => c
  | some x => { cursor := x.1, high := max c.high x.1, seen := c.seen ++ page }

def Feed.exec (f : Feed) : FeedOp → Feed
  | .start sid writer => { f with db := RowLock.exec f.db (.start sid writer.script) }
  | .step sid => { f with db := RowLock.exec f.db (.step sid) }
  | .commit sid => { f with db := RowLock.exec f.db (.commit sid) }
  | .abort sid => { f with db := RowLock.exec f.db (.abort sid) }
  | .poll name account limit =>
    let c := f.consumer name account
    { f with
      consumers := f.consumers.put (name, account)
        (c.process (ledgerAfter f.visible account c.cursor limit)) }
  | .resume name account afterId =>
    let c := f.consumer name account
    { f with
      consumers := f.consumers.put (name, account) { c with cursor := min c.cursor afterId } }
  | .ack name account id =>
    if id ≤ (f.consumer name account).high then
      match ledgerAck f.checkpoints name account id with
      | .error _ => f
      | .ok checkpoints => { f with checkpoints }
    else f
  | .pruneSelect pid olderThanTs =>
    { f with
      prunes := f.prunes.put pid (ledgerPrune f.visible f.checkpoints olderThanTs) }
  | .pruneDelete pid =>
    match f.prunes.find? pid with
    | none => f
    | some ids =>
      { f with
        deleted := f.deleted ++ ids
        prunes := f.prunes.delete (fun pid' _ => pid' == pid) }

/-! ## One step -/

def Acknowledged (f : Feed) (x : Numbered) : Prop :=
  ∃ last, f.checkpoints.find? ("pricing", x.2.accountId) = some last ∧ (x.1 : Int) ≤ last

/-- What holds of a consumer: it is not ahead of the ledger, and it has seen
everything up to where it is, except for what was pruned before a consumer
other than `pricing` came to it. -/
structure ConsumerOk (f : Feed) (name account : String) (c : Consumer) :
    Prop where
  cursor : c.cursor ≤ c.high
  reached : c.high ≤ 0 ∨ ∃ x ∈ f.db.log, x.2.accountId = account ∧ c.high ≤ x.1
  complete : ∀ x ∈ f.db.log, x.2.accountId = account → (x.1 : Int) ≤ c.high →
    x ∈ c.seen ∨ x.1 ∈ f.deleted ∧ name ≠ "pricing"

/-- A pruned row was a charge that every consumer had read. -/
structure PruneOk (f : Feed) (ids : List Nat) : Prop where
  logged : ∀ id ∈ ids, ∃ x ∈ f.db.log, x.1 = id
  acknowledged : ∀ x ∈ f.db.log, x.1 ∈ ids → x.2.kind = .charge ∧ Acknowledged f x

/-- What every statement keeps. -/
structure FeedOk (f : Feed) : Prop where
  ordered : Ordered LedgerRow.accountId f.db
  consumers : ∀ name account, ConsumerOk f name account (f.consumer name account)
  checkpoints : ∀ name account last,
    f.checkpoints.find? (name, account) = some last →
      last ≤ (f.consumer name account).high
  deleted : PruneOk f f.deleted
  prunes : ∀ pid ids, f.prunes.find? pid = some ids → PruneOk f ids

theorem log_unique (h : Ordered LedgerRow.accountId f.db) {y : Numbered}
    (hx : x ∈ f.db.log) (hy : y ∈ f.db.log) (hid : x.1 = y.1) : x = y := by
  by_contra hne
  have : Std.Symm (fun x y : Numbered => x.1 ≠ y.1) := ⟨fun _ _ h => h.symm⟩
  exact h.unique.forall hx hy hne hid

theorem consumer_put (f : Feed) (name account : String) (c : Consumer)
    (name' account' : String) :
    Feed.consumer { f with consumers := f.consumers.put (name, account) c }
      name' account' =
      if (name, account) = (name', account') then c
      else f.consumer name' account' := by
  simp only [Feed.consumer, find?_put]
  split <;> rfl

/-! ### Writers -/

theorem feedOk_db {e : Event String LedgerRow} (h : FeedOk f)
    (he : e.Disciplined LedgerRow.accountId) :
    FeedOk { f with db := RowLock.exec f.db e } := by
  have hordered := ordered_exec h.ordered he
  obtain ⟨rows, hlog, hnew⟩ := log_exec h.ordered e
  have hpruned : ∀ ids, PruneOk f ids →
      PruneOk { f with db := RowLock.exec f.db e } ids := by
    intro ids hids
    refine ⟨?_, ?_⟩
    · intro id hid
      obtain ⟨x, hx, hxid⟩ := hids.logged id hid
      exact ⟨x, by rw [hlog]; exact mem_append_left _ hx, hxid⟩
    · intro x hx hid
      obtain ⟨y, hy, hyid⟩ := hids.logged x.1 hid
      -- ids are unique, so the new row is not the deleted one
      have hy' : y ∈ (RowLock.exec f.db e).log := by
        rw [hlog]
        exact mem_append_left _ hy
      have hsame : y = x :=
        log_unique (f := { f with db := RowLock.exec f.db e }) hordered hy' hx hyid
      subst hsame
      exact hids.acknowledged y hy hid
  refine
    { ordered := hordered
      consumers := ?_
      checkpoints := h.checkpoints
      deleted := hpruned f.deleted h.deleted
      prunes := fun pid ids hids => hpruned ids (h.prunes pid ids hids) }
  intro name account
  have hold := h.consumers name account
  refine { cursor := hold.cursor, reached := ?_, complete := ?_ }
  · rcases hold.reached with hzero | ⟨x, hx, hacc, hhigh⟩
    · exact Or.inl hzero
    · exact Or.inr ⟨x, by rw [hlog]; exact mem_append_left _ hx, hacc, hhigh⟩
  · intro x hx hacc hle
    change x ∈ (RowLock.exec f.db e).log at hx
    rw [hlog] at hx
    rcases mem_append.mp hx with hx | hx
    · exact hold.complete x hx hacc hle
    · -- a row committed now is past everything the consumer has reached
      exfalso
      have hle' : (x.1 : Int) ≤ (f.consumer name account).high := hle
      obtain ⟨hpos, habove⟩ := hnew x hx
      rcases hold.reached with hzero | ⟨y, hy, hyacc, hhigh⟩
      · omega
      · have := habove y hy (hyacc.trans hacc.symm)
        omega

/-! ### Consumers -/

theorem mem_orderById : x ∈ orderById rows ↔ x ∈ rows := by
  unfold orderById
  exact List.mem_insertionSort _

theorem orderById_sorted (rows : List Numbered) :
    (orderById rows).Pairwise (fun x y => x.1 ≤ y.1) := by
  have : Std.Total (fun x y : Numbered => x.1 ≤ y.1) := ⟨fun x y => Nat.le_total x.1 y.1⟩
  have : IsTrans Numbered (fun x y => x.1 ≤ y.1) := ⟨fun _ _ _ => Nat.le_trans⟩
  exact List.pairwise_insertionSort _ rows

theorem mem_page {n : Nat} {last : Numbered}
    (hlast : ((orderById rows).take n).getLast? = some last)
    (hunique : ∀ y ∈ rows, x.1 = y.1 → x = y) (hx : x ∈ rows) (hle : x.1 ≤ last.1) :
    x ∈ (orderById rows).take n := by
  have hmem := mem_orderById.mpr hx
  rw [← List.take_append_drop n (orderById rows)] at hmem
  have hlastMem : last ∈ (orderById rows).take n := List.mem_of_getLast? hlast
  rcases mem_append.mp hmem with htake | hdrop
  · exact htake
  · have hsorted := orderById_sorted rows
    rw [← List.take_append_drop n (orderById rows)] at hsorted
    have hge := (pairwise_append.mp hsorted).2.2 last hlastMem x hdrop
    have hlastRow : last ∈ rows := mem_orderById.mp (List.mem_of_mem_take hlastMem)
    rw [hunique last hlastRow (Nat.le_antisymm hle hge)]
    exact hlastMem

theorem mem_visible : x ∈ f.visible ↔ x ∈ f.db.log ∧ x.1 ∉ f.deleted := by
  simp [Feed.visible]

theorem consumerOk_poll (h : FeedOk f) (name account : String) (limit : Int) :
    ConsumerOk f name account ((f.consumer name account).process
      (ledgerAfter f.visible account (f.consumer name account).cursor limit)) := by
  have hold := h.consumers name account
  unfold Consumer.process
  split
  · exact hold
  rename_i last hlast
  have hlastPage := List.mem_of_getLast? hlast
  have hlastRow := mem_orderById.mp (List.mem_of_mem_take hlastPage)
  simp only [mem_filter, guard_iffs, mem_visible] at hlastRow
  obtain ⟨⟨hlastLog, -⟩, hlastAcc, -⟩ := hlastRow
  refine { cursor := Int.le_max_right _ _, reached := ?_, complete := ?_ }
  · rcases hold.reached with hzero | ⟨y, hy, hyacc, hhigh⟩
    · exact Or.inr ⟨last, hlastLog, hlastAcc, by dsimp only; omega⟩
    · rcases Int.le_total (f.consumer name account).high last.1 with hmax | hmax
      · exact Or.inr ⟨last, hlastLog, hlastAcc, by dsimp only; omega⟩
      · exact Or.inr ⟨y, hy, hyacc, by dsimp only; omega⟩
  · intro x hx hacc hle
    dsimp only at hle
    by_cases hbefore : (x.1 : Int) ≤ (f.consumer name account).high
    · rcases hold.complete x hx hacc hbefore with hseen | hdeleted
      · exact Or.inl (mem_append_left _ hseen)
      · exact Or.inr hdeleted
    · by_cases hdeleted : x.1 ∈ f.deleted
      · refine Or.inr ⟨hdeleted, ?_⟩
        -- the pricing consumer is past every row that was pruned
        rintro rfl
        obtain ⟨-, last', hlast', hle'⟩ := h.deleted.acknowledged x hx hdeleted
        rw [hacc] at hlast'
        have := h.checkpoints "pricing" account last' hlast'
        omega
      · refine Or.inl (mem_append_right _ ?_)
        have hcursor := hold.cursor
        have hpos := (h.ordered.bounded x hx).1
        refine mem_page hlast ?_ ?_ (by omega)
        · intro y hy hid
          have hyLog := (mem_visible.mp (mem_filter.mp hy).1).1
          exact log_unique h.ordered hx hyLog hid
        · refine mem_filter.mpr ⟨mem_visible.mpr ⟨hx, hdeleted⟩, ?_⟩
          simp only [guard_iffs]
          exact ⟨hacc, by omega⟩

theorem feedOk_consumer (h : FeedOk f) {c : Consumer} (hc : ConsumerOk f name account c)
    (hhigh : (f.consumer name account).high ≤ c.high) :
    FeedOk { f with consumers := f.consumers.put (name, account) c } where
  ordered := h.ordered
  consumers := by
    intro name' account'
    rw [consumer_put]
    split
    · rename_i heq
      cases heq
      exact { hc with }
    · have hold := h.consumers name' account'
      exact { hold with }
  checkpoints := by
    intro name' account' last hlast
    have hold := h.checkpoints name' account' last hlast
    rw [consumer_put]
    split
    · rename_i heq
      cases heq
      exact Int.le_trans hold hhigh
    · exact hold
  deleted := { h.deleted with }
  prunes := fun pid ids hids =>
    have hold := h.prunes pid ids hids
    { hold with }

/-! ### Acknowledgement and pruning -/

theorem feedOk_ack (h : FeedOk f) {id : Int} {checkpoints : Table (String × String) Int}
    (hid : id ≤ (f.consumer name account).high)
    (hack : ledgerAck f.checkpoints name account id = .ok checkpoints) :
    FeedOk { f with checkpoints := checkpoints } := by
  simp only [ledgerAck, ok_steps] at hack
  obtain ⟨-, rfl⟩ := hack
  have hraised : ∀ x, Acknowledged f x → Acknowledged { f with
      checkpoints := f.checkpoints.put (name, account)
        (max ((f.checkpoints.find? (name, account)).getD id) id) } x := by
    rintro x ⟨last, hlast, hle⟩
    unfold Acknowledged
    simp only [find?_put]
    split
    · rename_i heq
      rw [heq, hlast, getD_some]
      exact ⟨_, rfl, by omega⟩
    · exact ⟨last, hlast, hle⟩
  have hpruned : ∀ ids, PruneOk f ids → PruneOk { f with
      checkpoints := f.checkpoints.put (name, account)
        (max ((f.checkpoints.find? (name, account)).getD id) id) } ids := by
    intro ids hids
    refine ⟨hids.logged, fun x hx hxid => ?_⟩
    exact ⟨(hids.acknowledged x hx hxid).1, hraised x (hids.acknowledged x hx hxid).2⟩
  refine
    { ordered := h.ordered
      consumers := fun name' account' =>
        have hold := h.consumers name' account'
        { hold with }
      checkpoints := ?_
      deleted := hpruned f.deleted h.deleted
      prunes := fun pid ids hids => hpruned ids (h.prunes pid ids hids) }
  intro name' account' last hlast
  simp only [find?_put] at hlast
  split at hlast
  · rename_i heq
    cases heq
    cases hlast
    cases hold : f.checkpoints.find? (name, account) with
    | none =>
      rw [getD_none, Int.max_self]
      exact hid
    | some stored =>
      rw [getD_some]
      exact Int.max_le.mpr ⟨h.checkpoints name account stored hold, hid⟩
  · exact h.checkpoints name' account' last hlast

theorem pruneOk_select (h : FeedOk f) (olderThanTs : Int) :
    PruneOk f (ledgerPrune f.visible f.checkpoints olderThanTs) := by
  have hselected : ∀ x, x ∈ (orderById (f.visible.filter
      (prunable f.checkpoints olderThanTs))).take 5000 →
      x ∈ f.db.log ∧ prunable f.checkpoints olderThanTs x = true := by
    intro x hx
    obtain ⟨hvisible, hprunable⟩ := mem_filter.mp (mem_orderById.mp (List.mem_of_mem_take hx))
    exact ⟨(mem_visible.mp hvisible).1, hprunable⟩
  refine ⟨?_, ?_⟩
  · intro id hid
    obtain ⟨x, hx, rfl⟩ := mem_map.mp hid
    exact ⟨x, (hselected x hx).1, rfl⟩
  · intro x hx hid
    obtain ⟨y, hy, hyid⟩ := mem_map.mp hid
    obtain ⟨hyLog, hprunable⟩ := hselected y hy
    obtain rfl := log_unique h.ordered hyLog hx hyid
    simp only [prunable, guard_iffs, Option.any_eq_true] at hprunable
    exact ⟨hprunable.1.1, hprunable.2⟩

theorem feedOk_pruneSelect (h : FeedOk f) (pid : Nat) (olderThanTs : Int) :
    FeedOk (f.exec (.pruneSelect pid olderThanTs)) where
  ordered := h.ordered
  consumers := fun name account =>
    have hold := h.consumers name account
    { hold with }
  checkpoints := h.checkpoints
  deleted := { h.deleted with }
  prunes := by
    intro pid' ids hids
    simp only [Feed.exec, find?_put] at hids
    split at hids
    · cases hids
      have hnew := pruneOk_select h olderThanTs
      exact { hnew with }
    · have hold := h.prunes pid' ids hids
      exact { hold with }

theorem feedOk_pruneDelete (h : FeedOk f) (pid : Nat) : FeedOk (f.exec (.pruneDelete pid)) := by
  simp only [Feed.exec]
  split
  · exact h
  rename_i ids hids
  have hprune := h.prunes pid ids hids
  refine
    { ordered := h.ordered
      consumers := ?_
      checkpoints := h.checkpoints
      deleted := ⟨?_, ?_⟩
      prunes := ?_ }
  · intro name account
    have hold := h.consumers name account
    refine { cursor := hold.cursor, reached := hold.reached, complete := ?_ }
    intro x hx hacc hle
    rcases hold.complete x hx hacc hle with hseen | ⟨hdeleted, hname⟩
    · exact Or.inl hseen
    · exact Or.inr ⟨mem_append_left _ hdeleted, hname⟩
  · intro id hid
    rcases mem_append.mp hid with hid | hid
    · exact h.deleted.logged id hid
    · exact hprune.logged id hid
  · intro x hx hid
    rcases mem_append.mp hid with hid | hid
    · exact h.deleted.acknowledged x hx hid
    · exact hprune.acknowledged x hx hid
  · intro pid' ids' hids'
    have hold := h.prunes pid' ids' (find?_delete.mp hids').1
    exact { hold with }

/-! ## Every run -/

theorem feedOk_exec (f : Feed) (op : FeedOp) (h : FeedOk f) : FeedOk (f.exec op) := by
  cases op with
  | start _ writer => exact feedOk_db h (writer_locksFirst writer)
  | step sid | commit sid | abort sid => exact feedOk_db h trivial
  | poll name account limit =>
    refine feedOk_consumer h (consumerOk_poll h name account limit) ?_
    unfold Consumer.process
    split
    · exact Int.le_refl _
    · exact Int.le_max_left _ _
  | resume name account =>
    have hold := h.consumers name account
    refine feedOk_consumer h ?_ (Int.le_refl _)
    exact { hold with
      cursor := Int.le_trans (Int.min_le_left _ _) hold.cursor }
  | ack name account id =>
    simp only [Feed.exec]
    split
    · rename_i hid
      split
      · exact h
      · rename_i checkpoints hack
        exact feedOk_ack h hid hack
    · exact h
  | pruneSelect pid olderThanTs => exact feedOk_pruneSelect h pid olderThanTs
  | pruneDelete pid => exact feedOk_pruneDelete h pid

theorem feedOk_empty : FeedOk Feed.empty where
  ordered := ordered_empty
  consumers := fun name account =>
    { cursor := Int.le_refl _
      reached := Or.inl (Int.le_refl _)
      complete := fun x hx => absurd hx not_mem_nil }
  checkpoints := by
    intro name account last hlast
    cases hlast
  deleted := ⟨fun id hid => absurd hid not_mem_nil, fun x hx => absurd hx not_mem_nil⟩
  prunes := by
    intro pid ids hids
    cases hids

/-- In every run of writers, consumers and pruning: every writer locks the
account before it appends; the rows of an account become visible in id
order; the pricing consumer has seen every row up to its cursor, and any
other consumer every row that was not pruned before it; a consumer that
finds no further row has reached the end; and what is pruned is an
acknowledged charge. -/
theorem no_lost_ledger_row (ops : List FeedOp) :
    (∀ writer : Writer, LocksFirst LedgerRow.accountId [] writer.script) ∧
    (∀ account : String, (((run Feed.exec Feed.empty ops).db.log.filter
        (fun x => x.2.accountId == account)).map Prod.fst).Pairwise (· < ·)) ∧
    (∀ account, ∀ x ∈ (run Feed.exec Feed.empty ops).db.log,
      x.2.accountId = account →
      (x.1 : Int) ≤ ((run Feed.exec Feed.empty ops).consumer "pricing" account).cursor →
      x ∈ ((run Feed.exec Feed.empty ops).consumer "pricing" account).seen) ∧
    (∀ name account, ∀ x ∈ (run Feed.exec Feed.empty ops).visible,
      x.2.accountId = account →
      (x.1 : Int) ≤ ((run Feed.exec Feed.empty ops).consumer name account).cursor →
      x ∈ ((run Feed.exec Feed.empty ops).consumer name account).seen) ∧
    (∀ name account limit,
      ledgerAfter (run Feed.exec Feed.empty ops).visible account
        ((run Feed.exec Feed.empty ops).consumer name account).cursor limit = [] →
      ∀ x ∈ (run Feed.exec Feed.empty ops).visible, x.2.accountId = account →
        x ∈ ((run Feed.exec Feed.empty ops).consumer name account).seen) ∧
    (∀ x ∈ (run Feed.exec Feed.empty ops).db.log,
      x.1 ∈ (run Feed.exec Feed.empty ops).deleted →
      x.2.kind = .charge ∧ Acknowledged (run Feed.exec Feed.empty ops) x) := by
  have hok : FeedOk (run Feed.exec Feed.empty ops) := run_invariant feedOk_exec feedOk_empty ops
  generalize run Feed.exec Feed.empty ops = f at hok ⊢
  have hseen : ∀ name account, ∀ x ∈ f.visible, x.2.accountId = account →
      (x.1 : Int) ≤ (f.consumer name account).cursor →
      x ∈ (f.consumer name account).seen := by
    intro name account x hx hacc hle
    obtain ⟨hlog, hkept⟩ := mem_visible.mp hx
    have hconsumer := hok.consumers name account
    rcases hconsumer.complete x hlog hacc (Int.le_trans hle hconsumer.cursor)
      with hseen | hdeleted
    · exact hseen
    · exact absurd hdeleted.1 hkept
  refine ⟨writer_locksFirst, ?_, ?_, hseen, ?_, hok.deleted.acknowledged⟩
  · intro account
    rw [List.pairwise_map]
    refine (hok.ordered.increasing.filter _).imp_of_mem ?_
    intro x y hx hy hlt
    have hx := (mem_filter.mp hx).2
    have hy := (mem_filter.mp hy).2
    simp only [beq_iff_eq] at hx hy
    exact hlt (hx.trans hy.symm)
  · intro account x hlog hacc hle
    have hconsumer := hok.consumers "pricing" account
    rcases hconsumer.complete x hlog hacc (Int.le_trans hle hconsumer.cursor)
      with hseen | hdeleted
    · exact hseen
    · exact absurd rfl hdeleted.2
  · intro name account limit hpage x hx hacc
    refine hseen name account x hx hacc ?_
    by_contra hpast
    have hpos := (hok.ordered.bounded x (mem_visible.mp hx).1).1
    have hmem : x ∈ orderById (f.visible.filter (fun y =>
        y.2.accountId == account && decide (max (f.consumer name account).cursor 0 < y.1))) := by
      refine mem_orderById.mpr (mem_filter.mpr ⟨hx, ?_⟩)
      simp only [guard_iffs]
      exact ⟨hacc, by omega⟩
    rcases List.take_eq_nil_iff.mp hpage with hzero | hnil
    · unfold clampPage at hzero
      omega
    · rw [hnil] at hmem
      cases hmem

end ApiToken.Registry
