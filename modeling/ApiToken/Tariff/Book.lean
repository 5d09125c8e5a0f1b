import ApiToken.Tariff.Authority

/-!
# Reserve and charge

`forward/src/pricing/tariff_book.rs`: the process reads the table of overrides
into a snapshot, admission prices a turn from one snapshot and pins the
version, and settlement prices the turn from a later one. The kill switch is
set once at startup, so both see the same value of it.
-/

namespace ApiToken.Tariff

open Meter (Value)

structure PinnedTariff where
  family : String
  version : Int
  scheduleId : String

def PinnedTariff.of (row : TariffOverride) : PinnedTariff :=
  { family := row.tariffFamily, version := row.version
    scheduleId := row.tariffFamily ++ "/v" ++ toString row.version }

/-- The rows, and the map of their payloads with the last insert first. -/
structure TariffBookSnapshot where
  rows : List TariffOverride
  payloads : List ((String × Int) × TariffOverridePayload)

def TariffBookSnapshot.empty : TariffBookSnapshot := { rows := [], payloads := [] }

/-- One row of `from_rows`. -/
def insertPayload (payloads : List ((String × Int) × TariffOverridePayload))
    (row : TariffOverride) :
    Except String (List ((String × Int) × TariffOverridePayload)) :=
  match parseTariffOverridePayload row.tariffFamily row.payload with
  | .error e =>
    .error ("tariff override row " ++ row.tariffFamily ++ "/v" ++ toString row.version
      ++ " failed typed parsing: " ++ e)
  | .ok payload => .ok (((row.tariffFamily, row.version), payload) :: payloads)

def TariffBookSnapshot.fromRows (rows : List TariffOverride) :
    Except String TariffBookSnapshot := do
  let payloads ← rows.foldlM insertPayload []
  .ok { rows, payloads }

def TariffBookSnapshot.versionPayload (book : TariffBookSnapshot) (family : String)
    (version : Int) : Option TariffOverridePayload :=
  book.payloads.lookup (family, version)

def TariffBookSnapshot.resolve (book : TariffBookSnapshot) (family : String)
    (pricedTs : Int) : Option (PinnedTariff × TariffOverridePayload) := do
  let row ← resolveTariffOverride book.rows family pricedTs
  let payload ← book.payloads.lookup (row.tariffFamily, row.version)
  some (PinnedTariff.of row, payload)

/-- `refresh_once`: the table is listed and parsed. -/
def refreshOnce (env : Env) (table : List TariffOverride) :
    Except String TariffBookSnapshot := do
  let rows ← postgresListTariffOverrides env table
  TariffBookSnapshot.fromRows rows

def snapshot (enabled : Bool) (current : TariffBookSnapshot) : TariffBookSnapshot :=
  if !enabled then .empty else current

/-! ## The two decisions -/

section Decisions

variable {T : Type}

structure ReserveBase (T : Type) where
  prices : T
  pin : Option PinnedTariff

def reserveBase (book : TariffBookSnapshot) (family : String) (pricedTs : Int)
    (compiled : T) (convert : TariffOverridePayload → Option T) : ReserveBase T :=
  match book.resolve family pricedTs with
  | some (pin, payload) =>
    match convert payload with
    | some prices => { prices, pin := some pin }
    | none => { prices := compiled, pin := none }
  | none => { prices := compiled, pin := none }

inductive ChargeBase (T : Type) where
  | compiled (prices : T)
  | override (prices : T) (scheduleId : String)
  | missingPinned

def ChargeBase.prices : ChargeBase T → Option T
  | .compiled prices => some prices
  | .override prices _ => some prices
  | .missingPinned => none

def chargeBase (book : TariffBookSnapshot) (pinned : Option PinnedTariff)
    (servedFamily : Option String) (pricedTs : Int) (compiled : T)
    (convert : TariffOverridePayload → Option T) : ChargeBase T :=
  match servedFamily with
  | none => .compiled compiled
  | some family =>
    match pinned.filter (fun pin => pin.family == family) with
    | some pin =>
      match book.versionPayload pin.family pin.version with
      | some payload =>
        match convert payload with
        | some prices => .override prices pin.scheduleId
        | none => .missingPinned
      | none => .missingPinned
    | none =>
      match book.resolve family pricedTs with
      | some (pin, payload) =>
        match convert payload with
        | some prices => .override prices pin.scheduleId
        | none => .compiled compiled
      | none => .compiled compiled

def turn (admitted settled : TariffBookSnapshot) (family : String) (pricedTs : Int)
    (compiled : T) (convert : TariffOverridePayload → Option T) :
    ReserveBase T × ChargeBase T :=
  let reserve := reserveBase admitted family pricedTs compiled convert
  (reserve, chargeBase settled reserve.pin (some family) pricedTs compiled convert)

end Decisions

/-- The extractors of the price structs: a payload of its own variant. The
structs of `metering` have the fields of the mirror structs. -/
def asVariant (v : Variant) (p : TariffOverridePayload) : Option (List Leg) :=
  if p.variant = v then some p.legs else none

def asAnthropic := asVariant .anthropic
def asCodex := asVariant .codex
def asCodexCredits := asVariant .codexCredits
def asGemini := asVariant .gemini
def asGlm := asVariant .glm
def asGlmCredits := asVariant .glmCredits
def asKimi := asVariant .kimi
def asOpenaiImage := asVariant .openAiImage

/-! ## Snapshots of the table -/

def Entered (rows : List TariffOverride) (x : (String × Int) × TariffOverridePayload) :
    Prop :=
  ∃ row ∈ rows, x.1 = (row.tariffFamily, row.version) ∧
    parseTariffOverridePayload row.tariffFamily row.payload = .ok x.2

theorem foldlM_insertPayload {rows : List TariffOverride}
    {payloads : List ((String × Int) × TariffOverridePayload)} (hparsed : ∀ row ∈ rows, ∃ p,
      parseTariffOverridePayload row.tariffFamily row.payload = .ok p) :
    ∃ payloads', rows.foldlM insertPayload payloads = .ok payloads' ∧
      ∀ x, x ∈ payloads' ↔ x ∈ payloads ∨ Entered rows x := by
  induction rows generalizing payloads with
  | nil => exact ⟨payloads, rfl, fun x => by simp [Entered]⟩
  | cons row _ ih =>
    obtain ⟨p, hp⟩ := hparsed row (mem_cons_self ..)
    obtain ⟨payloads', hfold, hmem⟩ :=
      @ih (((row.tariffFamily, row.version), p) :: payloads)
        fun r hr => hparsed r (mem_cons_of_mem _ hr)
    refine ⟨payloads', ?_, fun x => ?_⟩
    · rw [foldlM_cons, insertPayload, hp]
      exact hfold
    · rw [hmem, mem_cons, or_assoc, or_left_comm]
      refine or_congr_right ?_
      constructor
      · rintro (rfl | ⟨r, hr, hkey, hpayload⟩)
        · exact ⟨row, mem_cons_self .., rfl, hp⟩
        · exact ⟨r, mem_cons_of_mem _ hr, hkey, hpayload⟩
      · rintro ⟨r, hr, hkey, hpayload⟩
        rcases mem_cons.mp hr with rfl | hr
        · rw [hp] at hpayload
          cases hpayload
          exact .inl (Prod.ext hkey rfl)
        · exact .inr ⟨r, hr, hkey, hpayload⟩

/-- The book is read from this table. -/
structure Snapshots (table : List TariffOverride) (book : TariffBookSnapshot) : Prop where
  rows : ∀ r, r ∈ book.rows ↔ r ∈ table
  payloads : ∀ row ∈ table, ∀ p,
    parseTariffOverridePayload row.tariffFamily row.payload = .ok p →
    book.payloads.lookup (row.tariffFamily, row.version) = some p
  parsed : ∀ row ∈ table, ∃ p,
    parseTariffOverridePayload row.tariffFamily row.payload = .ok p

theorem TableOk.refresh {env : Env} {table : List TariffOverride} (h : TableOk env table) :
    ∃ book, refreshOnce env table = .ok book ∧ Snapshots table book := by
  have hparsed : ∀ row ∈ table, ∃ p,
      parseTariffOverridePayload row.tariffFamily row.payload = .ok p := by
    intro row hrow
    obtain ⟨v, p, hp, hpayload⟩ := h.parsed row hrow
    exact ⟨p, by rw [hpayload]; exact parse_canonical hp⟩
  obtain ⟨rows, hlist, hrows⟩ := h.list
  obtain ⟨payloads, hfold, hmem⟩ := @foldlM_insertPayload rows []
    fun row hrow => hparsed row ((hrows row).mp hrow)
  refine ⟨{ rows, payloads }, ?_, hrows, fun row hrow p hp => ?_, hparsed⟩
  · rw [refreshOnce, hlist]
    show TariffBookSnapshot.fromRows rows = _
    rw [TariffBookSnapshot.fromRows, hfold]
    rfl
  · refine lookup_of_unique ((hmem _).mpr (.inr ⟨row, (hrows row).mpr hrow, rfl, hp⟩))
      fun p' hp' => ?_
    rcases (hmem _).mp hp' with hnil | ⟨r, hr, hkey, hpayload⟩
    · cases hnil
    · have hsame := h.keyed row hrow r ((hrows r).mp hr) (congrArg Prod.fst hkey)
        (congrArg Prod.snd hkey)
      rw [← hsame, hp] at hpayload
      exact (Except.ok.inj hpayload).symm

/-! ## The turn -/

/-- The override that governs a timestamp: the greatest version of the family
among those in effect. -/
def Governs (table : List TariffOverride) (family : String) (pricedTs : Int)
    (row : TariffOverride) : Prop :=
  row ∈ table ∧ row.tariffFamily = family ∧ row.effectiveFrom ≤ pricedTs ∧
    ∀ other ∈ table, other.tariffFamily = family → other.effectiveFrom ≤ pricedTs →
      other.version ≤ row.version

section Turn

variable {T : Type} {table₁ table₂ : List TariffOverride}
  {book₁ book₂ : TariffBookSnapshot} {family : String} {pricedTs : Int} {compiled : T}
  {convert : TariffOverridePayload → Option T}

theorem Snapshots.resolve (h : Snapshots table₁ book₁) (family : String) (pricedTs : Int) :
    book₁.resolve family pricedTs = none ∧
        (∀ row ∈ table₁, row.tariffFamily = family → pricedTs < row.effectiveFrom) ∨
      ∃ row p, Governs table₁ family pricedTs row ∧
        parseTariffOverridePayload family row.payload = .ok p ∧
        book₁.resolve family pricedTs = some (PinnedTariff.of row, p) := by
  unfold TariffBookSnapshot.resolve
  cases hrow : resolveTariffOverride book₁.rows family pricedTs with
  | none => exact .inl ⟨rfl, fun r hr => resolve_eq_none.mp hrow r ((h.rows r).mpr hr)⟩
  | some row =>
    obtain ⟨hmem, hfamily, hle⟩ := mem_of_resolve hrow
    have htable := (h.rows row).mp hmem
    obtain ⟨p, hp⟩ := h.parsed row htable
    refine .inr ⟨row, p, ⟨htable, hfamily, hle, fun r hr => ?_⟩, hfamily ▸ hp, ?_⟩
    · exact le_of_resolve hrow ((h.rows r).mpr hr)
    · simp only [bind_eq_bind, bind_some, h.payloads row htable p hp]

theorem turn_pinned (h1 : Snapshots table₁ book₁) (h2 : Snapshots table₂ book₂)
    (hgrows : ∀ r ∈ table₁, r ∈ table₂) {pin : PinnedTariff}
    (hpin : (turn book₁ book₂ family pricedTs compiled convert).1.pin = some pin) :
    (turn book₁ book₂ family pricedTs compiled convert).2 =
      .override (turn book₁ book₂ family pricedTs compiled convert).1.prices pin.scheduleId := by
  simp only [turn] at hpin ⊢
  rcases h1.resolve family pricedTs with ⟨hnone, -⟩ | ⟨row, p, ⟨hmem, rfl, -⟩, hp, hresolve⟩
  · rw [reserveBase, hnone] at hpin
    cases hpin
  · cases hconvert : convert p with
    | none =>
      simp only [reserveBase, hresolve, hconvert] at hpin
      cases hpin
    | some =>
      simp only [reserveBase, hresolve, hconvert, some.injEq] at hpin ⊢
      subst hpin
      have hpayload := h2.payloads row (hgrows row hmem) p hp
      have hfilter : (some (PinnedTariff.of row)).filter
          (fun pin => pin.family == row.tariffFamily) = some (PinnedTariff.of row) := by
        rw [Option.filter_some, if_pos (by simp [PinnedTariff.of])]
      have hversion : book₂.versionPayload (PinnedTariff.of row).family
          (PinnedTariff.of row).version = some p := hpayload
      simp only [chargeBase, hfilter, hversion, hconvert]

theorem turn_unpinned
    (hpin : (turn book₁ book₂ family pricedTs compiled convert).1.pin = none) :
    (turn book₁ book₂ family pricedTs compiled convert).1.prices = compiled ∧
    (turn book₁ book₂ family pricedTs compiled convert).2 =
      match book₂.resolve family pricedTs with
      | some (pin, payload) =>
        match convert payload with
        | some prices => .override prices pin.scheduleId
        | none => .compiled compiled
      | none => .compiled compiled := by
  simp only [turn] at hpin ⊢
  rw [hpin]
  refine ⟨?_, rfl⟩
  unfold reserveBase at hpin ⊢
  split at hpin
  · split at hpin
    · cases hpin
    · simp [*]
  · simp [*]

end Turn

/-- The table grows by accepted inserts between the snapshot that admits a turn
and the one that settles it. A pinned turn is charged at the prices it was
reserved at. A turn that pinned nothing was reserved at the compiled prices. It
is charged at them when no override governs its priced timestamp by then, and
at the override that does otherwise. -/
theorem charged_as_admitted {T : Type} (env : Env)
    (before between : List (Nat × TariffOverrideInsert)) (enabled : Bool) (family : String)
    (pricedTs : Int) (compiled : T) (convert : TariffOverridePayload → Option T) :
    ∃ book₁ book₂, refreshOnce env (run (insertStep env) [] before) = .ok book₁ ∧
      refreshOnce env (run (insertStep env) [] (before ++ between)) = .ok book₂ ∧
      let table := run (insertStep env) [] (before ++ between)
      let t := turn (snapshot enabled book₁) (snapshot enabled book₂) family pricedTs compiled
        convert
      (∀ pin, t.1.pin = some pin → t.2 = .override t.1.prices pin.scheduleId) ∧
      (t.1.pin = none → t.1.prices = compiled ∧
        (t.2 = .compiled compiled ∧
            (enabled = false ∨
              ∀ row ∈ table, row.tariffFamily = family → pricedTs < row.effectiveFrom) ∨
          enabled = true ∧ ∃ row payload, Governs table family pricedTs row ∧
            parseTariffOverridePayload family row.payload = .ok payload ∧
            t.2 = match convert payload with
              | some prices => .override prices (PinnedTariff.of row).scheduleId
              | none => .compiled compiled)) := by
  obtain ⟨book₁, hrefresh₁, h₁⟩ := (tableOk_run env before).refresh
  obtain ⟨book₂, hrefresh₂, h₂⟩ := (tableOk_run env (before ++ between)).refresh
  have hgrows : ∀ r ∈ run (insertStep env) [] before,
      r ∈ run (insertStep env) [] (before ++ between) := by
    rw [run_append]
    refine run_invariant (I := fun rows => ∀ r ∈ run (insertStep env) [] before, r ∈ rows)
      (fun rows op hrows r hr => ?_) (fun r hr => hr) between
    rcases insert_cases env rows op.1 op.2 with ⟨row, heq, -⟩ | ⟨heq, -⟩
    · rw [insertStep, heq]
      exact mem_append_left _ (hrows r hr)
    · rw [insertStep, heq]
      exact hrows r hr
  refine ⟨book₁, book₂, hrefresh₁, hrefresh₂, fun pin hpin => ?_, fun hpin => ?_⟩
  · cases enabled with
    | true => exact turn_pinned h₁ h₂ hgrows hpin
    | false => cases hpin
  · obtain ⟨hprices, hcharge⟩ := turn_unpinned hpin
    refine ⟨hprices, ?_⟩
    rw [hcharge]
    cases enabled with
    | false => exact .inl ⟨rfl, .inl rfl⟩
    | true =>
      have hbook : snapshot true book₂ = book₂ := rfl
      rw [hbook]
      rcases h₂.resolve family pricedTs with ⟨hnone, hlater⟩ | ⟨row, p, hgoverns, hp, hsome⟩
      · rw [hnone]
        exact .inl ⟨rfl, .inr hlater⟩
      · rw [hsome]
        exact .inr ⟨rfl, row, p, hgoverns, hp, rfl⟩

/-- Two overrides appear between the reserve and the charge of a turn that
pinned nothing: the newer one governs. -/
theorem charged_as_admitted_newest :
    ∃ book row, refreshOnce kimiK3Env (run (insertStep kimiK3Env) []
        [(1000, kimiK3Insert 2 0), (1100, kimiK3Insert 3 1040)]) = .ok book ∧
      Governs (run (insertStep kimiK3Env) []
        [(1000, kimiK3Insert 2 0), (1100, kimiK3Insert 3 1040)])
        "moonshot/kimi/kimi-k3" 1040 row ∧ 3 ≤ row.version ∧
      ∃ prices, (turn .empty book "moonshot/kimi/kimi-k3" 1040
        [.money 100, .money 1000, .money 1000, .money 5000] asKimi).2
        = .override prices (PinnedTariff.of row).scheduleId := by
  obtain ⟨_, book, hadmitted, hsettled, -, hunpinned⟩ :=
    charged_as_admitted kimiK3Env [] [(1000, kimiK3Insert 2 0), (1100, kimiK3Insert 3 1040)]
      true "moonshot/kimi/kimi-k3" 1040 [.money 100, .money 1000, .money 1000, .money 5000] asKimi
  cases hadmitted
  have hpin := (hunpinned rfl).2
  rcases hpin with ⟨-, hoff | hlater⟩ | ⟨-, row, payload, hgoverns, hparse, hcharge⟩
  · cases hoff
  · exact absurd (hlater _ (mem_cons_self ..) rfl) (by decide)
  · refine ⟨book, row, hsettled, hgoverns, ?_, ?_⟩
    · exact hgoverns.2.2.2 _ (mem_cons_of_mem _ (mem_cons_self ..)) rfl (by decide)
    · have hpayload : payload = kimiK3Payload := by
        rcases hgoverns.1 with _ | ⟨_, _ | ⟨_, hnil⟩⟩
        · exact Except.ok.inj hparse.symm
        · exact Except.ok.inj hparse.symm
        · cases hnil
      subst hpayload
      exact ⟨_, hcharge⟩

/-- A turn reserved before a family was seeded is charged at the seed: an
override of version 2 may be effective from the beginning. -/
theorem unpinned_turn_repriced :
    ∃ book₁ book₂, refreshOnce kimiK3Env (run (insertStep kimiK3Env) [] []) = .ok book₁ ∧
      refreshOnce kimiK3Env (run (insertStep kimiK3Env) [] [(1000, kimiK3Insert 2 0)])
        = .ok book₂ ∧
      (turn (snapshot true book₁) (snapshot true book₂) "moonshot/kimi/kimi-k3" 990
        [.money 100, .money 1000, .money 1000, .money 5000] asKimi).2.prices
      ≠ some (turn (snapshot true book₁) (snapshot true book₂) "moonshot/kimi/kimi-k3" 990
        [.money 100, .money 1000, .money 1000, .money 5000] asKimi).1.prices :=
  ⟨_, _, rfl, rfl, by decide⟩

end ApiToken.Tariff
