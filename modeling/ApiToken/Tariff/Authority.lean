import ApiToken.Lib.Run
import ApiToken.Lib.Selection
import ApiToken.Tariff.Payload

/-!
# The tariff override table

`insert_tariff_override` and `resolve_tariff_override` over the rows of
`pricing_tariff_overrides` (migrations `0036` and `0037`). An insert holds the
advisory lock of its family from before it reads to its commit, and reads and
writes rows of that family only, so it is one step; its clock was read before
the lock, so the clocks of a run come in any order.
-/

namespace ApiToken.Tariff

open Meter (Value)

variable {env : Env} {now : Nat}

structure TariffOverride where
  tariffFamily : String
  version : Int
  effectiveFrom : Int
  payload : Value
  payloadDigest : String
  createdTs : Int
  createdBy : String
  reason : String

structure TariffOverrideInsert where
  tariffFamily : String
  version : Int
  effectiveFrom : Int
  payload : Value
  createdBy : String
  reason : String

inductive TariffOverrideRejection where
  | invalid (reason : String)
  | conflict (existingDigest : String) (existingEffectiveFrom : Int)
  | sequenceViolation (expectedNext : Int)

inductive TariffOverrideInsertOutcome where
  | inserted (row : TariffOverride)
  | unchanged (row : TariffOverride)
  | rejected (rejection : TariffOverrideRejection)

def clockSkewGraceSecs : Int := 60

/-! ## Checks of an insert -/

def familyChar (c : Char) : Bool :=
  c.isLower || c.isDigit || c == '/' || c == '_' || c == '-' || c == '.'

def validateTariffFamily (family : String) : Except String Unit := do
  failIf (family.utf8ByteSize == 0 || family.utf8ByteSize > 128)
    "tariff family must be 1..=128 bytes"
  failIf (!(family.toList.head?.any fun c => c.isLower || c.isDigit))
    "tariff family must start with a lowercase ascii letter or digit"
  failIf (!family.toList.all familyChar)
    "tariff family allows only lowercase ascii letters, digits and / . _ -"

def requireId (label value : String) : Except String Unit :=
  failIf (value.isEmpty || trim value.toList != value.toList)
    (label ++ " must be non-empty and contain no surrounding whitespace")

def validateTariffOverrideInsert (insert : TariffOverrideInsert) : Except String Unit := do
  validateTariffFamily insert.tariffFamily
  failIf (insert.version < 2)
    "tariff override version must be >= 2 (compiled constants are version 1)"
  failIf (insert.effectiveFrom < 0) "tariff override effective_from must be non-negative"
  requireId "tariff override operator" insert.createdBy
  requireId "tariff override reason" insert.reason

/-! ## Reads -/

def ofFamily (rows : List TariffOverride) (family : String) : List TariffOverride :=
  rows.filter (fun row => row.tariffFamily == family)

/-- The override that prices a family: `filter` and `max_by_key`. -/
def resolveTariffOverride (rows : List TariffOverride) (family : String) (pricedTs : Int) :
    Option TariffOverride :=
  maxBy (fun x y => compare x.version y.version)
    (rows.filter (fun row => row.tariffFamily == family && decide (row.effectiveFrom ≤ pricedTs)))

def tariffOverrideFromRow (env : Env) (row : TariffOverride) :
    Except String TariffOverride :=
  if tariffOverridePayloadValueDigest env row.payload = row.payloadDigest then .ok row
  else .error "stored tariff override failed canonical payload digest verification"

/-- `ORDER BY tariff_family,version`. -/
def rowLe (x y : TariffOverride) : Bool :=
  x.tariffFamily < y.tariffFamily
    || (x.tariffFamily == y.tariffFamily && decide (x.version ≤ y.version))

def postgresListTariffOverrides (env : Env) (rows : List TariffOverride) :
    Except String (List TariffOverride) :=
  (rows.insertionSort (fun x y => rowLe x y = true)).mapM (tariffOverrideFromRow env)

/-- `SELECT MAX(version)` of a family, or the compiled version. -/
def expectedNext (rows : List TariffOverride) (family : String) : Int :=
  ((ofFamily rows family).map (·.version)).max?.getD 1 + 1

/-! ## The insert -/

/-- What is left when the checks before the transaction have passed. -/
def insertRow (env : Env) (rows : List TariffOverride) (insert : TariffOverrideInsert)
    (row : TariffOverride) :
    List TariffOverride × Except String TariffOverrideInsertOutcome :=
  if insert.version ≥ 2 ^ 31 then (rows, .error "tariff override version overflow")
  else
    match (ofFamily rows insert.tariffFamily).find? (fun r => r.version == insert.version) with
    | some stored =>
      match tariffOverrideFromRow env stored with
      | .error e => (rows, .error e)
      | .ok existing =>
        if existing.payloadDigest = row.payloadDigest
            ∧ existing.effectiveFrom = insert.effectiveFrom then
          (rows, .ok (.unchanged existing))
        else
          (rows, .ok (.rejected (.conflict existing.payloadDigest existing.effectiveFrom)))
    | none =>
      if insert.version ≠ expectedNext rows insert.tariffFamily then
        (rows, .ok (.rejected (.sequenceViolation (expectedNext rows insert.tariffFamily))))
      else (rows ++ [row], .ok (.inserted row))

/-- `postgres_insert_tariff_override` at a clock. -/
def postgresInsertTariffOverride (env : Env) (rows : List TariffOverride) (now : Nat)
    (insert : TariffOverrideInsert) :
    List TariffOverride × Except String TariffOverrideInsertOutcome :=
  match validateTariffOverrideInsert insert with
  | .error e => (rows, .ok (.rejected (.invalid e)))
  | .ok _ =>
    match parseTariffOverridePayload insert.tariffFamily insert.payload with
    | .error e => (rows, .ok (.rejected (.invalid e)))
    | .ok payload =>
      if insert.version > 2 ∧ insert.effectiveFrom < (now : Int) - clockSkewGraceSecs then
        (rows, .ok (.rejected (.invalid
          "tariff override effective_from must be >= created_ts - 60s for version > 2")))
      else
        insertRow env rows insert
          { tariffFamily := insert.tariffFamily, version := insert.version
            effectiveFrom := insert.effectiveFrom
            payload := payload.toCanonicalValue
            payloadDigest := tariffOverridePayloadDigest env payload
            createdTs := now, createdBy := insert.createdBy, reason := insert.reason }

def insertStep (env : Env) (rows : List TariffOverride) (op : Nat × TariffOverrideInsert) :
    List TariffOverride :=
  (postgresInsertTariffOverride env rows op.1 op.2).1

/-! ## What an insert does -/

/-- The row may be inserted next. -/
structure Extends (env : Env) (rows : List TariffOverride) (now : Nat)
    (row : TariffOverride) : Prop where
  version : row.version = expectedNext rows row.tariffFamily
  created : row.createdTs = now
  dated : 2 < row.version → (now : Int) - clockSkewGraceSecs ≤ row.effectiveFrom
  parsed : ∃ v p, parseTariffOverridePayload row.tariffFamily v = .ok p ∧
    row.payload = p.toCanonicalValue
  digest : tariffOverridePayloadValueDigest env row.payload = row.payloadDigest

theorem insert_cases (env : Env) (rows : List TariffOverride) (now : Nat)
    (insert : TariffOverrideInsert) :
    (∃ row, postgresInsertTariffOverride env rows now insert
        = (rows ++ [row], .ok (.inserted row)) ∧ Extends env rows now row) ∨
      (postgresInsertTariffOverride env rows now insert).1 = rows ∧
        ∀ row, (postgresInsertTariffOverride env rows now insert).2 ≠ .ok (.inserted row) := by
  unfold postgresInsertTariffOverride
  split
  · exact .inr ⟨rfl, fun row h => by cases h⟩
  split
  · exact .inr ⟨rfl, fun row h => by cases h⟩
  rename_i payload hparse
  split
  · exact .inr ⟨rfl, fun row h => by cases h⟩
  rename_i hdate
  unfold insertRow
  split
  · exact .inr ⟨rfl, fun row h => by cases h⟩
  split
  · split
    · exact .inr ⟨rfl, fun row h => by cases h⟩
    · split
      · exact .inr ⟨rfl, fun row h => by cases h⟩
      · exact .inr ⟨rfl, fun row h => by cases h⟩
  split
  · exact .inr ⟨rfl, fun row h => by cases h⟩
  · rename_i hnext
    refine .inl ⟨_, rfl, not_not.mp hnext, rfl, fun hv => ?_, ⟨_, payload, hparse, rfl⟩, rfl⟩
    exact not_lt.mp fun hlt => hdate ⟨hv, hlt⟩

/-! ## The table -/

/-- Versions from 2 on, in the order of the inserts, and payloads that parse. -/
structure TableOk (env : Env) (rows : List TariffOverride) : Prop where
  versions : ∀ family, (ofFamily rows family).map (·.version)
    = (List.range (ofFamily rows family).length).map (fun i : Nat => (i : Int) + 2)
  parsed : ∀ row ∈ rows, ∃ v p, parseTariffOverridePayload row.tariffFamily v = .ok p ∧
    row.payload = p.toCanonicalValue
  digest : ∀ row ∈ rows,
    tariffOverridePayloadValueDigest env row.payload = row.payloadDigest

theorem ofFamily_append (rows : List TariffOverride) (row : TariffOverride)
    (family : String) : ofFamily (rows ++ [row]) family =
      if row.tariffFamily = family then ofFamily rows family ++ [row]
      else ofFamily rows family := by
  unfold ofFamily
  rw [filter_append]
  split
  · rename_i h
    simp [h]
  · rename_i h
    simp [h]

theorem max_range (n : Nat) :
    ((List.range n).map (fun i : Nat => (i : Int) + 2)).max?.getD 1 = (n : Int) + 1 := by
  cases n with
  | zero => rfl
  | succ n =>
    have hmax : ((List.range (n + 1)).map (fun i : Nat => (i : Int) + 2)).max?
        = some ((n : Int) + 2) := by
      refine List.max?_eq_some_iff.mpr ⟨?_, fun b hb => ?_⟩
      · exact mem_map.mpr ⟨n, List.mem_range.mpr (Nat.lt_succ_self n), rfl⟩
      · obtain ⟨i, hi, rfl⟩ := mem_map.mp hb
        have hle := List.mem_range.mp hi
        omega
    rw [hmax, getD_some]
    omega

variable {rows : List TariffOverride} {row : TariffOverride}

theorem TableOk.expectedNext_eq (h : TableOk env rows) (family : String) :
    expectedNext rows family = (ofFamily rows family).length + 2 := by
  rw [expectedNext, h.versions, max_range]
  omega

theorem TableOk.insert {env : Env} (h : TableOk env rows) (now : Nat)
    (insert : TariffOverrideInsert) :
    TableOk env (postgresInsertTariffOverride env rows now insert).1 := by
  rcases insert_cases env rows now insert with ⟨row, heq, hrow⟩ | ⟨heq, -⟩
  · rw [heq]
    refine ⟨fun family => ?_, fun r hr => ?_, fun r hr => ?_⟩
    · dsimp only
      rw [ofFamily_append]
      split
      · rename_i hfamily
        subst hfamily
        rw [map_append, h.versions, length_append, List.length_singleton,
          List.range_succ, map_append, List.map_singleton, List.map_singleton,
          hrow.version, h.expectedNext_eq]
      · exact h.versions family
    · rcases mem_append.mp hr with hr | hr
      · exact h.parsed r hr
      · rw [mem_singleton.mp hr]
        exact hrow.parsed
    · rcases mem_append.mp hr with hr | hr
      · exact h.digest r hr
      · rw [mem_singleton.mp hr]
        exact hrow.digest
  · rw [heq]
    exact h

theorem tableOk_run (env : Env) (ops : List (Nat × TariffOverrideInsert)) :
    TableOk env (run (insertStep env) [] ops) :=
  run_invariant (fun _ op h => h.insert op.1 op.2) ⟨fun _ => rfl, nofun, nofun⟩ ops

/-! ## Resolution -/

section Resolve

variable {rows : List TariffOverride} {family : String} {t : Int} {row : TariffOverride}

theorem mem_of_resolve (h : resolveTariffOverride rows family t = some row) :
    row ∈ rows ∧ row.tariffFamily = family ∧ row.effectiveFrom ≤ t := by
  have hmem := maxBy_mem h
  simp only [mem_filter, guard_iffs] at hmem
  exact hmem

theorem le_of_resolve (h : resolveTariffOverride rows family t = some row)
    {r : TariffOverride} (hmem : r ∈ rows) (hfamily : r.tariffFamily = family)
    (ht : r.effectiveFrom ≤ t) : r.version ≤ row.version := by
  refine le_of_maxBy (fun x : TariffOverride => x.version) h ?_
  simp [mem_filter, hmem, hfamily, ht]

theorem resolve_eq_none : resolveTariffOverride rows family t = none ↔
    ∀ r ∈ rows, r.tariffFamily = family → t < r.effectiveFrom := by
  rw [resolveTariffOverride, maxBy_eq_none, filter_eq_nil_iff]
  simp

def Keyed (rows : List TariffOverride) : Prop :=
  ∀ r ∈ rows, ∀ r' ∈ rows, r.tariffFamily = r'.tariffFamily → r.version = r'.version → r = r'

theorem TableOk.keyed (h : TableOk env rows) : Keyed rows := by
  intro r hr r' hr' hfamily hversion
  have hnodup : ((ofFamily rows r.tariffFamily).map (·.version)).Nodup := by
    rw [h.versions]
    refine (List.nodup_range).map fun i j hij => ?_
    omega
  have hmem : r ∈ ofFamily rows r.tariffFamily := by simp [ofFamily, hr]
  have hmem' : r' ∈ ofFamily rows r.tariffFamily := by simp [ofFamily, hr', hfamily]
  exact List.inj_on_of_nodup_map hnodup hmem hmem' hversion

theorem resolve_congr {rows' : List TariffOverride} (hkeyed : Keyed rows)
    (hsame : ∀ r, r.tariffFamily = family → r.effectiveFrom ≤ t → (r ∈ rows' ↔ r ∈ rows)) :
    resolveTariffOverride rows' family t = resolveTariffOverride rows family t := by
  cases hnew : resolveTariffOverride rows' family t with
  | none =>
    symm
    rw [resolve_eq_none] at hnew ⊢
    intro r hr hfamily
    by_contra hlt
    have hle := not_lt.mp hlt
    exact hlt (hnew r ((hsame r hfamily hle).mpr hr) hfamily)
  | some row =>
    obtain ⟨hmem, hfamily, hle⟩ := mem_of_resolve hnew
    have hmem' := (hsame row hfamily hle).mp hmem
    cases hold : resolveTariffOverride rows family t with
    | none =>
      have hlt := resolve_eq_none.mp hold row hmem' hfamily
      omega
    | some row' =>
      obtain ⟨hin, hfamily', hle'⟩ := mem_of_resolve hold
      have hup := le_of_resolve hold hmem' hfamily hle
      have hdown := le_of_resolve hnew ((hsame row' hfamily' hle').mpr hin) hfamily' hle'
      have hsameRow := hkeyed row hmem' row' hin (hfamily.trans hfamily'.symm)
        (le_antisymm hup hdown)
      rw [hsameRow]

end Resolve

theorem mapM_fromRow
    (h : ∀ row ∈ rows, tariffOverridePayloadValueDigest env row.payload = row.payloadDigest) :
    rows.mapM (tariffOverrideFromRow env) = .ok rows := by
  induction rows with
  | nil => rfl
  | cons row _ ih =>
    have hhead : tariffOverrideFromRow env row = .ok row := by
      rw [tariffOverrideFromRow, if_pos (h row (mem_cons_self ..))]
    have hrest := ih fun r hr => h r (mem_cons_of_mem _ hr)
    rw [mapM_cons, hhead, hrest]
    rfl

theorem TableOk.list (h : TableOk env rows) :
    ∃ listed, postgresListTariffOverrides env rows = .ok listed ∧ ∀ r, r ∈ listed ↔ r ∈ rows := by
  have hperm := rows.perm_insertionSort (fun x y => rowLe x y = true)
  exact ⟨_, mapM_fromRow fun row hrow => h.digest row (hperm.mem_iff.mp hrow),
    fun r => hperm.mem_iff⟩

theorem resolve_extends (h : TableOk env rows) (hrow : Extends env rows now row)
    (hversion : 2 < row.version) {listed listed' : List TariffOverride}
    (hlisted : ∀ r, r ∈ listed ↔ r ∈ rows) (hlisted' : ∀ r, r ∈ listed' ↔ r ∈ rows ++ [row])
    {family : String} {t : Int} (ht : t < row.createdTs - clockSkewGraceSecs) :
    resolveTariffOverride listed' family t = resolveTariffOverride listed family t := by
  have hkeyed : Keyed listed := fun r hr r' hr' =>
    h.keyed r ((hlisted r).mp hr) r' ((hlisted r').mp hr')
  refine resolve_congr hkeyed fun r _ hr => ?_
  rw [hlisted', hlisted, mem_append, mem_singleton]
  refine or_iff_left fun heq => ?_
  have hdated := hrow.dated hversion
  rw [heq] at hr
  rw [hrow.created] at ht
  omega

/-- Over every run of inserts: the versions of a family are 2, 3, … in the
order they were accepted; the table only grows at its end; an accepted version
above 2 changes no resolution at a time before its creation less the grace;
and for every family a parsed payload is parsed again from its canonical text,
so equal digests mean equal payloads. -/
theorem tariff_history_immutable (env : Env) (ops : List (Nat × TariffOverrideInsert)) :
    (∀ family, (ofFamily (run (insertStep env) [] ops) family).map (·.version)
      = (List.range (ofFamily (run (insertStep env) [] ops) family).length).map
          (fun i : Nat => (i : Int) + 2)) ∧
    (∀ op, run (insertStep env) [] ops <+: run (insertStep env) [] (ops ++ [op])) ∧
    (∀ now insert row,
      (postgresInsertTariffOverride env (run (insertStep env) [] ops) now insert).2
        = .ok (.inserted row) → 2 < row.version →
      ∃ listed listed',
        postgresListTariffOverrides env (run (insertStep env) [] ops) = .ok listed ∧
        postgresListTariffOverrides env
          (run (insertStep env) [] (ops ++ [(now, insert)])) = .ok listed' ∧
        ∀ family t, t < row.createdTs - clockSkewGraceSecs →
          resolveTariffOverride listed' family t = resolveTariffOverride listed family t) ∧
    (∀ family v p, parseTariffOverridePayload family v = .ok p →
      env.Reads p.toCanonicalValue →
      (env.fromText (env.toText p.toCanonicalValue)).map (parseTariffOverridePayload family)
        = some (.ok p)) ∧ (∀ family v v' p p', parseTariffOverridePayload family v = .ok p →
      parseTariffOverridePayload family v' = .ok p' → env.Reads p.toCanonicalValue →
      env.Reads p'.toCanonicalValue →
      env.Distinguishes (payloadDigestDomain ++ env.toText p.toCanonicalValue)
        (payloadDigestDomain ++ env.toText p'.toCanonicalValue) →
      tariffOverridePayloadDigest env p = tariffOverridePayloadDigest env p' → p = p') := by
  have hok := tableOk_run env ops
  refine ⟨hok.versions, fun op => ?_, fun now insert row hinserted hversion => ?_,
    fun family v p hparse hreads => parse_text env hparse hreads,
    fun family v v' p p' hparse hparse' => payload_of_digest env hparse hparse'⟩
  · rw [run_append, run_cons, run_nil, insertStep]
    rcases insert_cases env (run (insertStep env) [] ops) op.1 op.2 with
      ⟨row, heq, -⟩ | ⟨heq, -⟩
    · rw [heq]
      exact prefix_append ..
    · simp [heq]
  · rcases insert_cases env (run (insertStep env) [] ops) now insert with
      ⟨row', heq, hrow⟩ | ⟨-, hnot⟩
    · rw [heq] at hinserted
      cases hinserted
      have hok' := hok.insert now insert
      obtain ⟨listed, hlist, hmem⟩ := hok.list
      obtain ⟨listed', hlist', hmem'⟩ := hok'.list
      rw [heq] at hmem'
      refine ⟨listed, listed', hlist, ?_, fun family t ht =>
        resolve_extends hok hrow hversion hmem hmem' ht⟩
      rw [run_append]
      exact hlist'
    · exact absurd hinserted (hnot row)

/-! ## A seeded family -/

def kimiK3Prices : Value :=
  .object [("cache_write", .string "3000"), ("cached_input", .string "300"),
    ("input", .string "3000"), ("output", .string "15000")]

def kimiK3Payload : TariffOverridePayload :=
  { variant := .kimi, legs := [.money 300, .money 3000, .money 3000, .money 15000] }

/-- The libraries at these prices. -/
def kimiK3Env : Env where
  toText _ := "\x7b\"cache_write\":\"3000\",\"cached_input\":\"300\",\"input\":\"3000\",\"output\":\"15000\"\x7d"
  fromText _ := some kimiK3Prices
  sha256 _ := "d213ced239a62b0f5f1241ec1341e300bf56ede1c327710de8e2c6ea80c6e37d"

def kimiK3Insert (version effectiveFrom : Int) : TariffOverrideInsert :=
  { tariffFamily := "moonshot/kimi/kimi-k3", version, effectiveFrom
    payload := kimiK3Prices, createdBy := "operator", reason := "seed" }

/-- Version 3 follows version 2, whose payload is read back. -/
theorem tariff_history_immutable_kimiK3 :
    (∃ row, (postgresInsertTariffOverride kimiK3Env
        (run (insertStep kimiK3Env) [] [(1000, kimiK3Insert 2 0)]) 1100
        (kimiK3Insert 3 1040)).2 = .ok (.inserted row) ∧ 2 < row.version) ∧
      (kimiK3Env.fromText (kimiK3Env.toText kimiK3Payload.toCanonicalValue)).map
        (parseTariffOverridePayload "moonshot/kimi/kimi-k3") = some (.ok kimiK3Payload) :=
  ⟨⟨_, rfl, by decide⟩,
    (tariff_history_immutable kimiK3Env [(1000, kimiK3Insert 2 0)]).2.2.2.1
      "moonshot/kimi/kimi-k3" kimiK3Prices kimiK3Payload rfl rfl⟩

/-! ## Resubmission -/

/-- What an inserted row has of its insert. -/
structure Accepted (env : Env) (insert : TariffOverrideInsert) (row : TariffOverride)
    (payload : TariffOverridePayload) : Prop where
  valid : ∃ u, validateTariffOverrideInsert insert = .ok u
  parsed : parseTariffOverridePayload insert.tariffFamily insert.payload = .ok payload
  small : ¬insert.version ≥ 2 ^ 31
  family : row.tariffFamily = insert.tariffFamily
  version : row.version = insert.version
  effective : row.effectiveFrom = insert.effectiveFrom
  digest : row.payloadDigest = tariffOverridePayloadDigest env payload

theorem accepted_of_inserted {insert : TariffOverrideInsert}
    (h : (postgresInsertTariffOverride env rows now insert).2 = .ok (.inserted row)) :
    ∃ payload, Accepted env insert row payload := by
  unfold postgresInsertTariffOverride at h
  split at h
  · cases h
  · next u hvalid =>
    split at h
    · cases h
    · next payload hparsed =>
      split at h
      · cases h
      · unfold insertRow at h
        split at h
        · cases h
        · next hsmall =>
          split at h
          · split at h
            · cases h
            · split at h <;> cases h
          · split at h
            · cases h
            · cases h
              exact ⟨payload, ⟨u, hvalid⟩, hparsed, hsmall, rfl, rfl, rfl, rfl⟩

theorem find?_stored (hkeyed : Keyed rows) (hmem : row ∈ rows) :
    (ofFamily rows row.tariffFamily).find? (fun r => r.version == row.version) = some row := by
  cases hfind : (ofFamily rows row.tariffFamily).find? (fun r => r.version == row.version) with
  | none =>
    have hnone := List.find?_eq_none.mp hfind row (by simp [ofFamily, hmem])
    simp at hnone
  | some found =>
    have hin := mem_of_find?_eq_some hfind
    have hversion := find?_some hfind
    simp only [ofFamily, mem_filter, beq_iff_eq] at hin hversion
    rw [hkeyed found hin.1 row hmem hin.2 hversion]

theorem resubmit_eq (h : TableOk env rows) {insert : TariffOverrideInsert}
    {payload : TariffOverridePayload} (haccepted : Accepted env insert row payload)
    (hmem : row ∈ rows) (now : Nat) :
    postgresInsertTariffOverride env rows now insert =
      if insert.version > 2 ∧ insert.effectiveFrom < (now : Int) - clockSkewGraceSecs then
        (rows, .ok (.rejected (.invalid
          "tariff override effective_from must be >= created_ts - 60s for version > 2")))
      else (rows, .ok (.unchanged row)) := by
  obtain ⟨u, hvalid⟩ := haccepted.valid
  have hfind := find?_stored h.keyed hmem
  rw [haccepted.family, haccepted.version] at hfind
  have hread : tariffOverrideFromRow env row = .ok row := by
    rw [tariffOverrideFromRow, if_pos (h.digest row hmem)]
  simp only [postgresInsertTariffOverride, hvalid, haccepted.parsed, insertRow,
    if_neg haccepted.small, hfind, hread]
  rw [if_pos (show row.payloadDigest = _ ∧ _ from ⟨haccepted.digest, haccepted.effective⟩)]

/-- An accepted insert that is submitted again at any later time, after any
other inserts, changes nothing; and it is `Unchanged` exactly where it is the
seed of its family or its date is still within the grace. -/
theorem resubmit_unchanged_iff (env : Env) (before between : List (Nat × TariffOverrideInsert))
    (first again : Nat) (insert : TariffOverrideInsert) (row : TariffOverride)
    (haccepted : (postgresInsertTariffOverride env (run (insertStep env) [] before) first
      insert).2 = .ok (.inserted row)) :
    let book := run (insertStep env) [] (before ++ (first, insert) :: between)
    (postgresInsertTariffOverride env book again insert).1 = book ∧
      ((∃ stored, (postgresInsertTariffOverride env book again insert).2 =
          .ok (.unchanged stored)) ↔
        insert.version = 2 ∨ (again : Int) - clockSkewGraceSecs ≤ insert.effectiveFrom) := by
  intro book
  obtain ⟨payload, hpassed⟩ := accepted_of_inserted haccepted
  have hstored : row ∈ insertStep env (run (insertStep env) [] before) (first, insert) := by
    rcases insert_cases env (run (insertStep env) [] before) first insert with
      ⟨row', heq, -⟩ | ⟨-, hnot⟩
    · rw [heq] at haccepted
      cases haccepted
      rw [insertStep, heq]
      exact mem_append_right _ (mem_singleton_self _)
    · exact absurd haccepted (hnot row)
  have hmem : row ∈ book := by
    show row ∈ run (insertStep env) [] (before ++ (first, insert) :: between)
    rw [run_append, run_cons]
    refine run_invariant (I := fun rows => row ∈ rows) (fun rows op hrows => ?_) hstored between
    rcases insert_cases env rows op.1 op.2 with ⟨row', heq, -⟩ | ⟨heq, -⟩
    · rw [insertStep, heq]
      exact mem_append_left _ hrows
    · rw [insertStep, heq]
      exact hrows
  have hversion : 2 ≤ insert.version := by
    obtain ⟨u, hvalid⟩ := hpassed.valid
    simp only [validateTariffOverrideInsert, ok_steps, guard_iffs, not_lt] at hvalid
    exact hvalid.2.1
  rw [resubmit_eq (tableOk_run env _) hpassed hmem again]
  split
  · next hlate =>
    refine ⟨rfl, iff_of_false (by simp) ?_⟩
    omega
  · next hearly =>
    refine ⟨rfl, iff_of_true ⟨row, rfl⟩ ?_⟩
    omega

/-- The same third version, first within the grace and then after it. -/
theorem resubmit_kimiK3 :
    (∃ stored, (postgresInsertTariffOverride kimiK3Env
        (run (insertStep kimiK3Env) []
          ([(1000, kimiK3Insert 2 0)] ++ (1100, kimiK3Insert 3 1040) :: []))
        1100 (kimiK3Insert 3 1040)).2 = .ok (.unchanged stored)) :=
  (resubmit_unchanged_iff kimiK3Env [(1000, kimiK3Insert 2 0)] [] 1100 1100
    (kimiK3Insert 3 1040) _ rfl).2.mpr (.inr (by decide))

/-- A minute later the retry is refused as invalid. -/
theorem resubmit_refused :
    (∃ row, (postgresInsertTariffOverride kimiK3Env
        (run (insertStep kimiK3Env) [] [(1000, kimiK3Insert 2 0)]) 1100
        (kimiK3Insert 3 1040)).2 = .ok (.inserted row)) ∧
      (postgresInsertTariffOverride kimiK3Env
        (run (insertStep kimiK3Env) []
          ([(1000, kimiK3Insert 2 0)] ++ (1100, kimiK3Insert 3 1040) :: []))
        1101 (kimiK3Insert 3 1040)).2 = .ok (.rejected (.invalid
          "tariff override effective_from must be >= created_ts - 60s for version > 2")) :=
  ⟨⟨_, rfl⟩, rfl⟩

end ApiToken.Tariff
