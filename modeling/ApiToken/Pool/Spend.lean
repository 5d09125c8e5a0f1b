import ApiToken.Lib.Run
import ApiToken.Pool.Availability
import ApiToken.Pool.Frames
import Mathlib.Algebra.BigOperators.Fin
import Mathlib.Tactic.Linarith

/-!
# Spend across engine instances

Any number of engines share the `pool_state` table. Each keeps the spend it
has not yet made durable as a delta and adds the delta to the row in a
compare-and-swap save; what was saved is taken off the delta when the answer
comes back. A save that finds another version changes nothing, and the engine
rebases its entries on the rows it then loads. Two tasks of an engine save:
the persist loop and the flush at shutdown.
-/

namespace ApiToken.Pool

variable {row : PoolStateRow} {versions : List (String × Int)}
  {acks : List Acknowledged}

/-! ## The durable rows -/

/-- What `INSERT ... ON CONFLICT DO NOTHING` puts for a new email. -/
def freshRow (email : String) : PoolStateRow :=
  ⟨email, 0, 0, 0, 0, 0, 0, 0, 0, 0, 0, 0⟩

/-- One row of a save: its new version, or `none` on a version conflict. -/
def saveRow (db : Table String PoolStateRow) (row : PoolStateRow) :
    Option (Table String PoolStateRow × Int) :=
  let cur := (db.find? row.email).getD (freshRow row.email)
  if cur.version = row.version then
    some (db.put row.email
      { row with
        spentTotalUsd := cur.spentTotalUsd + row.spentDeltaUsd
        spentDeltaUsd := 0
        version := cur.version + 1 }, cur.version + 1)
  else none

/-- `save_pool_state` is one transaction: a conflict on any row undoes all. -/
def savePoolState (db : Table String PoolStateRow) :
    List PoolStateRow → Option (Table String PoolStateRow × List (String × Int))
  | [] => some (db, [])
  | row :: rows =>
    (saveRow db row).bind fun (db', version) =>
      (savePoolState db' rows).map fun (db'', versions) =>
        (db'', (row.email, version) :: versions)

def loadPoolState (db : Table String PoolStateRow) : List PoolStateRow :=
  db.rows.map Prod.snd

/-- The delta that was exported for each saved email. -/
def acknowledged (rows : List PoolStateRow) (versions : List (String × Int)) :
    List Acknowledged :=
  versions.map fun (email, version) =>
    ⟨email, version,
      ((rows.find? (fun row => row.email = email)).map PoolStateRow.spentDeltaUsd).getD 0⟩

/-! ## Engines -/

inductive Task where
  | persistLoop
  | shutdownFlush
deriving DecidableEq

/-- Where a task is in one attempt of `persist_state_cas`. -/
inductive Cycle where
  | idle
  | exported (rows : List PoolStateRow)
  | saved (acks : List Acknowledged)
  | conflicted
  | loaded (rows : List PoolStateRow)

def Cycle.isIdle : Cycle → Bool
  | .idle => true
  | _ => false

/-- A process with its pool and its two saving tasks. -/
structure Engine where
  pool : Inner
  cycle : Task → Cycle

/-- What the engines share, the engines that have started, and per email the
dollars passed to `record_spend`. -/
structure Fleet (ι : Type) where
  db : Table String PoolStateRow
  engines : ι → Option Engine
  recorded : String → ℚ

/-- One step of an engine against the database. -/
inductive Event (ι : Type) where
  | start (i : ι) (r : Roster) (now : Int)
  | call (i : ι) (now : Int) (op : { op : Op // op.served = true })
  | exportState (i : ι) (t : Task)
  | save (i : ι) (t : Task) (ownerLive : Bool)
  | accept (i : ι) (t : Task)
  | load (i : ι) (t : Task)
  | merge (i : ι) (t : Task)
  | giveUp (i : ι) (t : Task)

variable {ι : Type} [DecidableEq ι] (c : Config)

def Engine.setCycle (n : Engine) (t : Task) (k : Cycle) : Engine :=
  { n with cycle := fun t' => if t' = t then k else n.cycle t' }

def Fleet.setEngine (f : Fleet ι) (i : ι) (n : Engine) : Fleet ι :=
  { f with engines := fun j => if j = i then some n else f.engines j }

def started (db : Table String PoolStateRow) (r : Roster) (now : Int) : Engine where
  pool := (importState c (.new r) (loadPoolState db) now).2
  cycle := fun _ => .idle

def Fleet.save (f : Fleet ι) (i : ι) (n : Engine) (t : Task)
    (rows : List PoolStateRow) (ownerLive : Bool) : Fleet ι :=
  match (if ownerLive then savePoolState f.db rows else none) with
  | some (db', versions) =>
    { f with db := db' }.setEngine i (n.setCycle t (.saved (acknowledged rows versions)))
  | none => f.setEngine i (n.setCycle t .conflicted)

def Fleet.step (f : Fleet ι) : Event ι → Fleet ι
  | .start i r now =>
    match f.engines i with
    | none => f.setEngine i (started c f.db r now)
    | some _ => f
  | .call i now op =>
    match f.engines i with
    | some n =>
      { f with recorded := fun e => f.recorded e + op.1.spends e }.setEngine i
        { n with pool := exec c n.pool now op.1 }
    | none => f
  | .exportState i t =>
    match f.engines i with
    | some n =>
      match n.cycle t with
      | .idle => f.setEngine i (n.setCycle t (.exported (exportState n.pool)))
      | _ => f
    | none => f
  | .save i t ownerLive =>
    match f.engines i with
    | some n =>
      match n.cycle t with
      | .exported rows => f.save i n t rows ownerLive
      | _ => f
    | none => f
  | .accept i t =>
    match f.engines i with
    | some n =>
      match n.cycle t with
      | .saved acks =>
        f.setEngine i ({ n with pool := acceptPersistVersions n.pool acks }.setCycle t .idle)
      | _ => f
    | none => f
  | .load i t =>
    match f.engines i with
    | some n =>
      match n.cycle t with
      | .conflicted => f.setEngine i (n.setCycle t (.loaded (loadPoolState f.db)))
      | _ => f
    | none => f
  | .merge i t =>
    match f.engines i with
    | some n =>
      match n.cycle t with
      | .loaded rows =>
        f.setEngine i ({ n with pool := mergePersistedState c n.pool rows }.setCycle t .idle)
      | _ => f
    | none => f
  | .giveUp i t =>
    match f.engines i with
    | some n =>
      match n.cycle t with
      | .conflicted => f.setEngine i (n.setCycle t .idle)
      | _ => f
    | none => f

/-- No engine runs and nothing is recorded. -/
def Fleet.empty : Fleet ι := ⟨.empty, fun _ => none, fun _ => 0⟩

/-! ## Accounts -/

def durable (db : Table String PoolStateRow) (e : String) : ℚ :=
  ((db.find? e).map PoolStateRow.spentTotalUsd).getD 0

def deltaOf (rows : List PoolStateRow) (e : String) : ℚ :=
  (rows.map (fun row => if row.email = e then row.spentDeltaUsd else 0)).sum

/-- Dollars of an email in an acknowledgement. -/
def ackOf (acks : List Acknowledged) (e : String) : ℚ :=
  (acks.map (fun a => if a.email = e then a.spentDelta else 0)).sum

/-- Dollars that are durable and still in the engine's delta: saved, and the
answer not yet taken over. -/
def Cycle.unacknowledged (e : String) : Cycle → ℚ
  | .saved acks => ackOf acks e
  | _ => 0

def Engine.owed (n : Engine) (e : String) : ℚ :=
  (n.pool.entry e).unpersistedSpendUsd
    - ((n.cycle .persistLoop).unacknowledged e + (n.cycle .shutdownFlush).unacknowledged e)

def Fleet.owed (f : Fleet ι) (e : String) (i : ι) : ℚ :=
  match f.engines i with
  | some n => n.owed e
  | none => 0

/-- The engine's delta. -/
def Fleet.unpersisted (f : Fleet ι) (e : String) (i : ι) : ℚ :=
  match f.engines i with
  | some n => (n.pool.entry e).unpersistedSpendUsd
  | none => 0

def Task.other : Task → Task
  | .persistLoop => .shutdownFlush
  | .shutdownFlush => .persistLoop

/-- The step keeps an engine's saves one after the other, and drops no entry
of the email that still has spend to save. -/
def Careful (e : String) (f : Fleet ι) : Event ι → Prop
  | .exportState i t => ∀ n ∈ f.engines i, (n.cycle t.other).isIdle = true
  | .call i now op => ∀ n ∈ f.engines i, Drops n.pool now e op.1 →
      (n.pool.entry e).unpersistedSpendUsd = 0
  | _ => True

instance (e : String) (f : Fleet ι) : (ev : Event ι) → Decidable (Careful e f ev)
  | .exportState i t =>
    inferInstanceAs (Decidable (∀ n ∈ f.engines i, (n.cycle t.other).isIdle = true))
  | .call i now op =>
    inferInstanceAs (Decidable (∀ n ∈ f.engines i, Drops n.pool now e op.1 →
      (n.pool.entry e).unpersistedSpendUsd = 0))
  | .start .. | .save .. | .accept .. | .load .. | .merge .. | .giveUp .. =>
    inferInstanceAs (Decidable True)

/-! ## What the exchange does to the accounts -/

section Exchange

variable {c} {e : String} {db db' : Table String PoolStateRow} {g : Inner}
  {rows : List PoolStateRow}

theorem sum_of_key {l : List (String × Live)} (hnodup : (l.map Prod.fst).Nodup)
    (w : Live → ℚ) :
    (l.map (fun p => if p.1 = e then w p.2 else 0)).sum = ((Table.findIn e l).map w).getD 0 := by
  induction l with
  | nil => rfl
  | cons p rest ih =>
    obtain ⟨k, l⟩ := p
    rw [map_cons, nodup_cons] at hnodup
    rw [map_cons, sum_cons, ih hnodup.2, Table.findIn]
    by_cases heq : k = e
    · have hrest : Table.findIn e rest = none := by
        cases hfind : Table.findIn e rest with
        | none => rfl
        | some =>
          have hmem := (Table.findIn_eq_some_iff hnodup.2).mp hfind
          exact absurd (mem_map_of_mem hmem) (heq ▸ hnodup.1)
      simp [heq, hrest]
    · simp [heq]

theorem deltaOf_exportState : deltaOf (exportState g) e = (g.entry e).unpersistedSpendUsd := by
  unfold deltaOf exportState Inner.entry
  rw [List.map_map]
  have hsum := sum_of_key (e := e) g.live.nodup Live.unpersistedSpendUsd
  rw [show (Table.findIn e g.live.rows) = g.live.find? e from rfl] at hsum
  refine Eq.trans ?_ (hsum.trans ?_)
  · rfl
  · cases g.live.find? e <;> rfl

theorem nodup_exportState : ((exportState g).map PoolStateRow.email).Nodup := by
  unfold exportState
  rw [List.map_map]
  exact g.live.nodup

theorem durable_saveRow {version : Int} (h : saveRow db row = some (db', version)) :
    durable db' e = durable db e + (if row.email = e then row.spentDeltaUsd else 0) := by
  unfold saveRow at h
  dsimp only at h
  split at h
  · rw [some.injEq, Prod.mk.injEq] at h
    rw [← h.1]
    unfold durable
    rw [find?_put]
    by_cases heq : row.email = e
    · rw [if_pos heq, if_pos heq, ← heq]
      cases db.find? row.email <;> rfl
    · rw [if_neg heq, if_neg heq, add_zero]
  · cases h

theorem savePoolState_spec (h : savePoolState db rows = some (db', versions)) :
    durable db' e = durable db e + deltaOf rows e ∧
      versions.map Prod.fst = rows.map PoolStateRow.email := by
  induction rows generalizing db versions with
  | nil =>
    rw [savePoolState, some.injEq, Prod.mk.injEq] at h
    rw [← h.1, ← h.2]
    exact ⟨(add_zero _).symm, rfl⟩
  | cons _ _ ih =>
    simp only [savePoolState, bind_eq_some_iff, map_eq_some_iff, Prod.exists, Prod.mk.injEq] at h
    obtain ⟨db1, version, hrow, db2, rest', hrest, heq, hversions⟩ := h
    subst heq
    obtain ⟨hdurable, hemails⟩ := ih hrest
    rw [← hversions, hdurable, durable_saveRow hrow]
    refine ⟨?_, by rw [map_cons, map_cons, hemails]⟩
    rw [deltaOf, deltaOf, map_cons, sum_cons, add_assoc]

theorem find?_row (hnodup : (rows.map PoolStateRow.email).Nodup) (hmem : row ∈ rows) :
    rows.find? (fun r => r.email = row.email) = some row := by
  cases hfind : rows.find? (fun r => r.email = row.email) with
  | none =>
    have := List.find?_eq_none.mp hfind row hmem
    simp at this
  | some r =>
    have hemail : r.email = row.email := by simpa using find?_some hfind
    rw [List.inj_on_of_nodup_map hnodup (mem_of_find?_eq_some hfind) hmem hemail]

theorem acknowledged_map (hnodup : (rows.map PoolStateRow.email).Nodup)
    (hemails : versions.map Prod.fst = rows.map PoolStateRow.email) :
    (acknowledged rows versions).map (fun a => (a.email, a.spentDelta))
      = rows.map (fun row => (row.email, row.spentDeltaUsd)) := by
  unfold acknowledged
  rw [List.map_map]
  have hfst : versions.map (fun p => (p.1,
      ((rows.find? (fun row => row.email = p.1)).map PoolStateRow.spentDeltaUsd).getD 0))
      = (versions.map Prod.fst).map (fun email => (email,
        ((rows.find? (fun row => row.email = email)).map
          PoolStateRow.spentDeltaUsd).getD 0)) := by
    rw [List.map_map]
    rfl
  refine Eq.trans hfst ?_
  rw [hemails, List.map_map]
  apply map_congr_left
  intro row hmem
  simp only [Function.comp, find?_row hnodup hmem, map_some, getD_some]

theorem ackOf_eq_deltaOf (h : acks.map (fun a => (a.email, a.spentDelta))
      = rows.map (fun row => (row.email, row.spentDeltaUsd))) :
    ackOf acks e = deltaOf rows e := by
  have hsum := congrArg (fun l : List (String × ℚ) =>
    (l.map (fun p => if p.1 = e then p.2 else 0)).sum) h
  simpa only [List.map_map, Function.comp_def, ackOf, deltaOf] using hsum

theorem ackOf_nonneg (h : ∀ a ∈ acks, a.email = e → 0 ≤ a.spentDelta) : 0 ≤ ackOf acks e := by
  apply List.sum_nonneg
  intro x hx
  obtain ⟨a, ha, rfl⟩ := mem_map.mp hx
  split
  · rename_i heq
    exact h a ha heq
  · exact le_refl _

theorem acceptOne_unpersisted {a : Acknowledged} (hpos : a.email = e → 0 ≤ a.spentDelta)
    (hle : a.email = e → a.spentDelta ≤ (g.entry e).unpersistedSpendUsd) :
    ((acceptOne g a).entry e).unpersistedSpendUsd
      = (g.entry e).unpersistedSpendUsd - (if a.email = e then a.spentDelta else 0) := by
  by_cases heq : a.email = e
  · have h0 := hpos heq
    have h1 := hle heq
    rw [if_pos heq]
    unfold acceptOne
    split
    · rw [Inner.entry_modify, if_pos heq]
      dsimp only
      rw [max_eq_left h0, max_eq_left (by linarith)]
    · rename_i hnone
      have hzero : (g.entry e).unpersistedSpendUsd = 0 := by
        rw [Inner.entry, ← heq, hnone]
        rfl
      rw [hzero] at h1 ⊢
      linarith
  · rw [if_neg heq, sub_zero]
    unfold acceptOne
    split
    · rw [Inner.entry_modify_ne _ _ heq]
    · rfl

theorem accept_unpersisted (hpos : ∀ a ∈ acks, a.email = e → 0 ≤ a.spentDelta)
    (hle : ackOf acks e ≤ (g.entry e).unpersistedSpendUsd) :
    ((acceptPersistVersions g acks).entry e).unpersistedSpendUsd
      = (g.entry e).unpersistedSpendUsd - ackOf acks e := by
  unfold acceptPersistVersions
  induction acks generalizing g with
  | nil => exact (sub_zero _).symm
  | cons a rest ih =>
    have hrest : ∀ a ∈ rest, a.email = e → 0 ≤ a.spentDelta :=
      fun a ha => hpos a (mem_cons_of_mem _ ha)
    have htail := ackOf_nonneg hrest
    have hcons : ackOf (a :: rest) e
        = (if a.email = e then a.spentDelta else 0) + ackOf rest e := by
      rw [ackOf, ackOf, map_cons, sum_cons]
    rw [hcons] at hle
    have hone := acceptOne_unpersisted (g := g) (hpos a (mem_cons_self ..))
      (by intro heq; rw [if_pos heq] at hle; linarith)
    rw [foldl_cons, ih hrest (by rw [hone]; linarith), hone, hcons]
    ring

theorem started_unpersisted (r : Roster) (now : Int) :
    ((started c db r now).pool.entry e).unpersistedSpendUsd = 0 := by
  unfold started importState
  dsimp only
  generalize loadPoolState db = rows
  have h0 : ((Inner.new r).entry e).unpersistedSpendUsd = 0 := rfl
  generalize Inner.new r = g at h0
  induction rows generalizing g with
  | nil => exact h0
  | cons _ _ ih =>
    apply ih
    unfold importStateRow
    split
    · exact h0
    · rw [Inner.entry_modify]
      split
      · rfl
      · exact h0

end Exchange

/-! ## Conservation -/

def Cycle.Covered (delta : ℚ) (e : String) : Cycle → Prop
  | .exported rows => (rows.map PoolStateRow.email).Nodup ∧
      (∀ row ∈ rows, row.email = e → 0 ≤ row.spentDeltaUsd) ∧ deltaOf rows e ≤ delta
  | .saved acks => (∀ a ∈ acks, a.email = e → 0 ≤ a.spentDelta) ∧ ackOf acks e ≤ delta
  | _ => True

variable {k : Cycle}

theorem Cycle.isIdle_iff : k.isIdle = true ↔ k = .idle := by
  cases k <;> simp [Cycle.isIdle]

theorem Cycle.Covered.mono {delta delta' : ℚ} {e : String} (h : k.Covered delta e)
    (hle : delta ≤ delta') : k.Covered delta' e := by
  cases k with
  | exported => exact ⟨h.1, h.2.1, le_trans h.2.2 hle⟩
  | saved => exact ⟨h.1, le_trans h.2 hle⟩
  | idle | conflicted | loaded => trivial

/-- What an engine owes covers what it is saving. -/
structure Engine.Sound (n : Engine) (e : String) : Prop where
  nonneg : 0 ≤ (n.pool.entry e).unpersistedSpendUsd
  /-- An engine saves in one task at a time. -/
  sequential : ∀ t, n.cycle t ≠ .idle → n.cycle t.other = .idle
  covered : ∀ t, (n.cycle t).Covered (n.pool.entry e).unpersistedSpendUsd e

/-- What is durable and what the engines owe is what was recorded. -/
structure Fleet.Conserves [Fintype ι] (f : Fleet ι) (e : String) : Prop where
  balance : durable f.db e + ∑ i, f.owed e i = f.recorded e
  sound : ∀ i n, f.engines i = some n → n.Sound e

section Conservation

variable {c} {e : String} {f : Fleet ι} {n : Engine} {i : ι}

theorem Engine.owed_eq (n : Engine) (e : String) (t : Task) :
    n.owed e = (n.pool.entry e).unpersistedSpendUsd
      - ((n.cycle t).unacknowledged e + (n.cycle t.other).unacknowledged e) := by
  cases t
  · rfl
  · rw [Engine.owed, Task.other, add_comm]

@[simp] theorem Engine.setCycle_self (n : Engine) (t : Task) (k : Cycle) :
    (n.setCycle t k).cycle t = k := if_pos rfl

@[simp] theorem Engine.setCycle_other (n : Engine) (t : Task) (k : Cycle) :
    (n.setCycle t k).cycle t.other = n.cycle t.other := by
  cases t <;> rfl

variable {t : Task}

theorem Engine.sound_setCycle (hother : n.cycle t.other = .idle)
    (hnonneg : 0 ≤ (n.pool.entry e).unpersistedSpendUsd)
    (hk : k.Covered (n.pool.entry e).unpersistedSpendUsd e) : (n.setCycle t k).Sound e := by
  have hcases : ∀ t', t' = t ∨ t' = t.other := by
    cases t <;> intro t' <;> cases t' <;> simp [Task.other]
  refine ⟨hnonneg, ?_, ?_⟩
  · intro t' hbusy
    rcases hcases t' with rfl | rfl
    · rw [Engine.setCycle_other]
      exact hother
    · rw [Engine.setCycle_other] at hbusy
      exact absurd hother hbusy
  · intro t'
    rcases hcases t' with rfl | rfl
    · rw [Engine.setCycle_self]
      exact hk
    · rw [Engine.setCycle_other, hother]
      trivial

theorem Engine.owed_setCycle (k : Cycle) (hother : n.cycle t.other = .idle) :
    (n.setCycle t k).owed e = (n.pool.entry e).unpersistedSpendUsd - k.unacknowledged e := by
  rw [Engine.owed_eq _ _ t, Engine.setCycle_self, Engine.setCycle_other, hother]
  simp only [Cycle.unacknowledged, add_zero]
  rfl

variable [Fintype ι]

theorem Fleet.sum_owed_setEngine (f : Fleet ι) (i : ι) (n : Engine) (e : String) :
    ∑ j, (f.setEngine i n).owed e j = (∑ j, f.owed e j) - f.owed e i + n.owed e := by
  have hupdate : (f.setEngine i n).owed e = Function.update (f.owed e) i (n.owed e) := by
    funext j
    by_cases heq : j = i
    · subst heq
      simp [Fleet.owed, Fleet.setEngine]
    · simp [Fleet.owed, Fleet.setEngine, heq]
  rw [hupdate, Finset.sum_update_of_mem (Finset.mem_univ i),
    ← Finset.sum_sdiff (Finset.subset_univ {i}), Finset.sum_singleton]
  ring

theorem Fleet.Conserves.setEngine {f' : Fleet ι} (h : f.Conserves e)
    (hengines : f'.engines = f.engines) (hsound : n.Sound e)
    (hbalance : durable f'.db e + n.owed e - f'.recorded e
      = durable f.db e + f.owed e i - f.recorded e) :
    (f'.setEngine i n).Conserves e where
  balance := by
    have howed : f'.owed e = f.owed e := by
      funext j
      rw [Fleet.owed, Fleet.owed, hengines]
    have hsum := f'.sum_owed_setEngine i n e
    have hbefore := h.balance
    rw [howed] at hsum
    rw [hsum]
    show durable f'.db e + _ = f'.recorded e
    linarith
  sound := by
    intro j m hm
    simp only [Fleet.setEngine] at hm
    split at hm
    · rw [some.injEq] at hm
      exact hm ▸ hsound
    · rw [hengines] at hm
      exact h.sound j m hm

omit [DecidableEq ι] [Fintype ι] in
theorem Fleet.owed_of_engine (h : f.engines i = some n) : f.owed e i = n.owed e := by
  rw [Fleet.owed, h]

theorem Fleet.Conserves.stage (h : f.Conserves e) (hn : f.engines i = some n)
    (hother : n.cycle t.other = .idle) (hk : k.Covered (n.pool.entry e).unpersistedSpendUsd e)
    (hsame : k.unacknowledged e = (n.cycle t).unacknowledged e) :
    (f.setEngine i (n.setCycle t k)).Conserves e := by
  refine h.setEngine rfl (Engine.sound_setCycle hother (h.sound i n hn).nonneg hk) ?_
  rw [Engine.owed_setCycle k hother, Fleet.owed_of_engine hn, Engine.owed_eq n e t, hother, hsame]
  simp only [Cycle.unacknowledged, add_zero]

theorem Op.spends_nonneg {op : Op} (h : op.served = true) (e : String) : 0 ≤ op.spends e := by
  cases op with
  | recordSpend _ nano =>
    have hpos : 0 < nano := by simpa [Op.served] using h
    have hnano : (0 : ℚ) ≤ nano := by exact_mod_cast hpos.le
    simp only [Op.spends]
    split
    · exact div_nonneg hnano (by norm_num)
    · exact le_refl _
  | _ => exact le_refl _

theorem exported_nonneg {g : Inner} (h : 0 ≤ (g.entry e).unpersistedSpendUsd) :
    ∀ row ∈ exportState g, row.email = e → 0 ≤ row.spentDeltaUsd := by
  intro row hrow hemail
  obtain ⟨⟨k, l⟩, hmem, rfl⟩ := mem_map.mp hrow
  have hkey : k = e := hemail
  subst hkey
  have hentry : g.entry k = l := by rw [Inner.entry, find?_eq_some_iff.mpr hmem, getD_some]
  rw [hentry] at h
  exact h

section

variable (h : f.Conserves e) (hn : f.engines i = some n)
include h hn

theorem Fleet.Conserves.call (now : Int) (op : { op : Op // op.served = true })
    (hkept : Drops n.pool now e op.1 → (n.pool.entry e).unpersistedSpendUsd = 0) :
    ({ f with recorded := fun e => f.recorded e + op.1.spends e }.setEngine i
      { n with pool := exec c n.pool now op.1 }).Conserves e := by
  have hs := h.sound i n hn
  have hunp := exec_unpersisted (c := c) op.2 hkept
  have hspend := Op.spends_nonneg op.2 e
  refine h.setEngine rfl ⟨?_, hs.sequential, ?_⟩ ?_
  · rw [hunp]
    linarith [hs.nonneg]
  · intro t
    rw [hunp]
    exact (hs.covered t).mono (by linarith)
  · rw [Fleet.owed_of_engine hn, Engine.owed, Engine.owed, hunp]
    dsimp only
    ring

theorem Fleet.Conserves.save {rows : List PoolStateRow} (hk : n.cycle t = .exported rows)
    (ownerLive : Bool) :
    (f.save i n t rows ownerLive).Conserves e := by
  have hs := h.sound i n hn
  have hother : n.cycle t.other = .idle := hs.sequential t (by rw [hk]; nofun)
  have hcovered := hs.covered t
  rw [hk] at hcovered
  obtain ⟨hnodup, hpos, hle⟩ := hcovered
  unfold Fleet.save
  split
  · rename_i db' versions hsave
    have hsaved : savePoolState f.db rows = some (db', versions) := by
      cases ownerLive with
      | true => exact hsave
      | false => exact nomatch hsave
    obtain ⟨hdurable, hemails⟩ := savePoolState_spec (e := e) hsaved
    have hmap := acknowledged_map hnodup hemails
    have hack := ackOf_eq_deltaOf (e := e) hmap
    have hackpos : ∀ a ∈ acknowledged rows versions, a.email = e →
        0 ≤ a.spentDelta := by
      intro a ha hemail
      have hin : (a.email, a.spentDelta) ∈
          rows.map (fun row => (row.email, row.spentDeltaUsd)) := by
        rw [← hmap]
        exact mem_map_of_mem ha
      obtain ⟨row, hrow, heq⟩ := mem_map.mp hin
      rw [Prod.mk.injEq] at heq
      rw [← heq.2]
      exact hpos row hrow (heq.1.trans hemail)
    refine h.setEngine rfl
      (Engine.sound_setCycle hother hs.nonneg ⟨hackpos, by rw [hack]; exact hle⟩) ?_
    rw [Engine.owed_setCycle _ hother, Fleet.owed_of_engine hn, Engine.owed_eq n e t, hother, hk]
    dsimp only
    simp only [Cycle.unacknowledged, hdurable, hack]
    ring
  · exact h.stage hn hother trivial (by rw [hk]; rfl)

theorem Fleet.Conserves.accept (hk : n.cycle t = .saved acks) :
    (f.setEngine i ({ n with pool := acceptPersistVersions n.pool acks }.setCycle t
      .idle)).Conserves e := by
  have hs := h.sound i n hn
  have hother : n.cycle t.other = .idle := hs.sequential t (by rw [hk]; nofun)
  have hcovered := hs.covered t
  rw [hk] at hcovered
  have hunp := accept_unpersisted hcovered.1 hcovered.2
  have hnonneg : 0 ≤ ((acceptPersistVersions n.pool acks).entry
      e).unpersistedSpendUsd := by
    rw [hunp]
    linarith [hcovered.2]
  have hidle : ({ n with pool := acceptPersistVersions n.pool acks } : Engine).cycle
      t.other = .idle := hother
  refine h.setEngine rfl (Engine.sound_setCycle hidle hnonneg trivial) ?_
  rw [Engine.owed_setCycle _ hidle, Fleet.owed_of_engine hn, Engine.owed_eq n e t, hother, hk]
  dsimp only
  simp only [Cycle.unacknowledged, hunp]
  ring

theorem Fleet.Conserves.merge {rows : List PoolStateRow} (hk : n.cycle t = .loaded rows) :
    (f.setEngine i ({ n with pool := mergePersistedState c n.pool rows }.setCycle t
      .idle)).Conserves e := by
  have hs := h.sound i n hn
  have hother : n.cycle t.other = .idle := hs.sequential t (by rw [hk]; nofun)
  have hunp : ((mergePersistedState c n.pool rows).entry e).unpersistedSpendUsd
      = (n.pool.entry e).unpersistedSpendUsd :=
    congrArg Prod.snd (mergePersistedState_book rows e)
  have hidle : ({ n with pool := mergePersistedState c n.pool rows } : Engine).cycle
      t.other = .idle := hother
  refine h.setEngine rfl (Engine.sound_setCycle hidle (by rw [hunp]; exact hs.nonneg) trivial) ?_
  rw [Engine.owed_setCycle _ hidle, Fleet.owed_of_engine hn, Engine.owed_eq n e t, hother, hk]
  dsimp only
  simp only [Cycle.unacknowledged, hunp, add_zero]

end

theorem Fleet.Conserves.start (h : f.Conserves e) (hn : f.engines i = none)
    (r : Roster) (now : Int) : (f.setEngine i (started c f.db r now)).Conserves e := by
  have hunp := @started_unpersisted c e f.db r now
  refine h.setEngine rfl ⟨?_, fun _ _ => rfl, fun _ => trivial⟩ ?_
  · rw [hunp]
  · have hnone : f.owed e i = 0 := by rw [Fleet.owed, hn]
    have hzero : (started c f.db r now).owed e = 0 := by
      rw [Engine.owed, hunp]
      simp [started, Cycle.unacknowledged]
    rw [hnone, hzero]

theorem Fleet.Conserves.step (h : f.Conserves e) {ev : Event ι}
    (hcareful : Careful e f ev) : (f.step c ev).Conserves e := by
  cases ev with
  | start i r now =>
    cases hn : f.engines i with
    | none =>
      simp only [Fleet.step, hn]
      exact h.start hn r now
    | some => simpa only [Fleet.step, hn] using h
  | call i now op =>
    cases hn : f.engines i with
    | none => simpa only [Fleet.step, hn] using h
    | some n =>
      simp only [Fleet.step, hn]
      exact h.call hn now op (hcareful n hn)
  | exportState i t =>
    cases hn : f.engines i with
    | none => simpa only [Fleet.step, hn] using h
    | some n =>
      cases hk : n.cycle t with
      | idle =>
        have hpos := (h.sound i n hn).nonneg
        have hother : n.cycle t.other = .idle := Cycle.isIdle_iff.mp (hcareful n hn)
        simp only [Fleet.step, hn, hk]
        refine h.stage hn hother ⟨nodup_exportState, exported_nonneg hpos, ?_⟩ (by rw [hk]; rfl)
        exact le_of_eq deltaOf_exportState
      | exported | saved | conflicted | loaded => simpa only [Fleet.step, hn, hk] using h
  | save i t ownerLive =>
    cases hn : f.engines i with
    | none => simpa only [Fleet.step, hn] using h
    | some n =>
      cases hk : n.cycle t with
      | exported =>
        simp only [Fleet.step, hn, hk]
        exact h.save hn hk ownerLive
      | idle | saved | conflicted | loaded => simpa only [Fleet.step, hn, hk] using h
  | accept i t =>
    cases hn : f.engines i with
    | none => simpa only [Fleet.step, hn] using h
    | some n =>
      cases hk : n.cycle t with
      | saved =>
        simp only [Fleet.step, hn, hk]
        exact h.accept hn hk
      | idle | exported | conflicted | loaded => simpa only [Fleet.step, hn, hk] using h
  | load i t | giveUp i t =>
    cases hn : f.engines i with
    | none => simpa only [Fleet.step, hn] using h
    | some n =>
      cases hk : n.cycle t with
      | conflicted =>
        have hother := (h.sound i n hn).sequential t (by rw [hk]; nofun)
        simp only [Fleet.step, hn, hk]
        exact h.stage hn hother trivial (by rw [hk]; rfl)
      | idle | exported | saved | loaded => simpa only [Fleet.step, hn, hk] using h
  | merge i t =>
    cases hn : f.engines i with
    | none => simpa only [Fleet.step, hn] using h
    | some n =>
      cases hk : n.cycle t with
      | loaded =>
        simp only [Fleet.step, hn, hk]
        exact h.merge hn hk
      | idle | exported | saved | conflicted => simpa only [Fleet.step, hn, hk] using h

omit [DecidableEq ι] in
theorem Fleet.empty_conserves (e : String) : (Fleet.empty : Fleet ι).Conserves e where
  balance := by simp [Fleet.empty, durable, Fleet.owed]
  sound := nofun

end Conservation

/-- No engine waits for the answer of a save. -/
def Fleet.Settled (f : Fleet ι) : Prop :=
  ∀ i n t acks, f.engines i = some n → n.cycle t ≠ .saved acks

/-- Spend is neither lost nor counted twice: an engine's delta less what is
saved and not yet acknowledged, over all engines, is what the durable total
lacks; where no answer is outstanding, the whole deltas are. -/
theorem spend_conserved [Fintype ι] (c : Config) (evs : List (Event ι)) (e : String)
    (hevs : Along (Fleet.step c) (Careful e) (.empty : Fleet ι) evs) :
    let f := run (Fleet.step c) (.empty : Fleet ι) evs
    durable f.db e + ∑ i, f.owed e i = f.recorded e ∧
      (f.Settled → durable f.db e + ∑ i, f.unpersisted e i = f.recorded e) := by
  have hconserves : (run (Fleet.step c) (.empty : Fleet ι) evs).Conserves e :=
    run_invariant_along (I := fun f => f.Conserves e)
      (fun f ev h hcareful => h.step hcareful) (Fleet.empty_conserves e) hevs
  generalize run (Fleet.step c) (.empty : Fleet ι) evs = f at hconserves
  refine ⟨hconserves.balance, ?_⟩
  intro hsettled
  rw [← hconserves.balance]
  congr 1
  apply Finset.sum_congr rfl
  intro i _
  unfold Fleet.unpersisted Fleet.owed
  cases hn : f.engines i with
  | none => rfl
  | some n =>
    have hnone : ∀ t, (n.cycle t).unacknowledged e = 0 := by
      intro t
      cases hk : n.cycle t with
      | saved acks => exact absurd hk (hsettled i n t acks hn)
      | idle | exported | conflicted | loaded => rfl
    simp only [Engine.owed, hnone, add_zero, sub_zero]

/-- Two engines spend on `a`; the second save meets the first one's version,
rebases and goes through. -/
def twoEngines : List (Event Bool) :=
  [.start true rosterAB 1000, .start false rosterAB 1000,
   .call true 1001 ⟨.recordSpend "a" 2000000000, rfl⟩,
   .call false 1001 ⟨.recordSpend "a" 3000000000, rfl⟩,
   .exportState true .persistLoop, .exportState false .persistLoop,
   .save true .persistLoop true, .save false .persistLoop true,
   .load false .persistLoop, .merge false .persistLoop,
   .exportState false .persistLoop, .save false .persistLoop true,
   .accept false .persistLoop]

/-- What the two spent is in the database. -/
theorem spend_conserved_twoEngines :
    let f := run (Fleet.step plainConfig) .empty twoEngines
    Along (Fleet.step plainConfig) (Careful "a") .empty twoEngines ∧
      durable f.db "a" = 5 ∧ durable f.db "a" + ∑ i, f.owed "a" i = f.recorded "a" := by
  have hcareful : Along (Fleet.step plainConfig) (Careful "a") .empty twoEngines := by
    decide +kernel
  have hdurable : durable (run (Fleet.step plainConfig) .empty twoEngines).db "a" = 5 := by
    decide +kernel
  exact ⟨hcareful, hdurable, (spend_conserved plainConfig twoEngines "a" hcareful).1⟩

/-! ## Where the plain sum fails -/

def callOnly (now : Int) (op : Op) (h : op.served = true := by rfl) : Event Unit :=
  .call () now ⟨op, h⟩

/-- The engine starts and spends two dollars on `a`. -/
def spendTwo : List (Event Unit) :=
  [.start () rosterAB 1000, callOnly 1001 (.recordSpend "a" 2000000000)]

/-- The two dollars are saved and the answer is on its way. -/
def unanswered : List (Event Unit) :=
  spendTwo ++ [.exportState () .persistLoop, .save () .persistLoop true]

/-- `a` leaves the roster before its two dollars are saved. -/
def droppedEntry : List (Event Unit) :=
  spendTwo ++ [callOnly 1002 (.replaceSubs .empty)]

/-- The flush at shutdown overtakes the persist loop's answer. -/
def overtaken : List (Event Unit) :=
  spendTwo ++
    [.exportState () .persistLoop, .exportState () .shutdownFlush,
     .save () .persistLoop true, .save () .shutdownFlush true,
     .load () .shutdownFlush, .merge () .shutdownFlush,
     .exportState () .shutdownFlush, .save () .shutdownFlush true,
     .accept () .persistLoop, .accept () .shutdownFlush]

/-- Durable total, sum of the deltas and recorded sum of `a` after a run. -/
def accountsOf (evs : List (Event Unit)) : ℚ × ℚ × ℚ :=
  let f := run (Fleet.step plainConfig) .empty evs
  (durable f.db "a", f.unpersisted "a" (), f.recorded "a")

/-- While an answer is on its way its dollars are in both sums; a reload
loses the delta of an entry it drops; overlapping saves add a delta twice. -/
theorem plain_sum_fails :
    accountsOf unanswered = (2, 2, 2) ∧ accountsOf droppedEntry = (0, 0, 2) ∧
      accountsOf overtaken = (4, 0, 2) ∧
      ∀ evs ∈ [unanswered, droppedEntry, overtaken],
        durable (run (Fleet.step plainConfig) .empty evs).db "a"
          + ∑ i, (run (Fleet.step plainConfig) .empty evs).unpersisted "a" i
          ≠ (run (Fleet.step plainConfig) .empty evs).recorded "a" := by
  have h1 : accountsOf unanswered = (2, 2, 2) := by decide +kernel
  have h2 : accountsOf droppedEntry = (0, 0, 2) := by decide +kernel
  have h3 : accountsOf overtaken = (4, 0, 2) := by decide +kernel
  refine ⟨h1, h2, h3, ?_⟩
  have hsum : ∀ evs, (accountsOf evs).1 + (accountsOf evs).2.1 ≠ (accountsOf evs).2.2 →
      durable (run (Fleet.step plainConfig) .empty evs).db "a"
        + ∑ i, (run (Fleet.step plainConfig) .empty evs).unpersisted "a" i
        ≠ (run (Fleet.step plainConfig) .empty evs).recorded "a" := by
    intro evs hne
    rw [Fintype.sum_unique]
    exact hne
  intro evs hevs
  apply hsum
  simp only [mem_cons, not_mem_nil, or_false] at hevs
  rcases hevs with rfl | rfl | rfl
  · rw [h1]
    norm_num
  · rw [h2]
    norm_num
  · rw [h3]
    norm_num

end ApiToken.Pool
