import Mathlib.Data.List.Infix
import ApiToken.Meter.Usage

/-!
# The Anthropic tariffs

`anthropic_matched_tariff_at`, `model_prices_for_speed_at` and
`anthropic_compiled_tariffs_at`: the ordered rules over the name of a model,
the prices a turn is charged at, and the list that tariff overrides are seeded
from. `lower` is `str::to_lowercase`; its Unicode tables are the library's.
-/

namespace ApiToken.Meter

structure Prices where
  input : Int
  output : Int
  cacheRead : Int
  cacheWrite5m : Int
  cacheWrite1h : Int
deriving DecidableEq

def opusCurrentPrices : Prices := ⟨5000, 25000, 500, 6250, 10000⟩
def maxPrices : Prices := ⟨15000, 75000, 1500, 18750, 30000⟩
def fastOpusCurrentPrices : Prices := ⟨10000, 50000, 1000, 12500, 20000⟩
def fastOpus47Prices : Prices := ⟨30000, 150000, 3000, 37500, 60000⟩
def fable5Prices : Prices := ⟨10000, 50000, 1000, 12500, 20000⟩
def opusLegacyPrices : Prices := ⟨15000, 75000, 1500, 18750, 30000⟩
def sonnetStandardPrices : Prices := ⟨3000, 15000, 300, 3750, 6000⟩
def sonnet5IntroPrices : Prices := ⟨2000, 10000, 200, 2500, 4000⟩
def haiku45Prices : Prices := ⟨1000, 5000, 100, 1250, 2000⟩
def haiku35Prices : Prices := ⟨800, 4000, 80, 1000, 1600⟩
def haiku3Prices : Prices := ⟨250, 1250, 25, 313, 500⟩

/-- 2026-09-01T00:00:00Z. -/
def sonnet5StdStart : Int := 1788220800

def contains (s part : String) : Bool := decide (part.toList <:+: s.toList)

/-- `str::to_ascii_lowercase`. -/
def asciiLower (s : String) : String := String.ofList (s.toList.map Char.toLower)

/-! ## The rules -/

section

variable (lower : String → String)

def anthropicTariffBranchAt (model : String) (nowUnix : Int) : Option (String × Prices) :=
  let m := lower model
  if contains m "fable" || contains m "mythos" then
    some ("anthropic/standard/fable-5", fable5Prices)
  else if m = "claude-opus-5" || contains m "opus-4-8" || contains m "opus-4-7"
      || contains m "opus-4-6" || contains m "opus-4-5" then
    some ("anthropic/standard/opus-current", opusCurrentPrices)
  else if contains m "opus-4-1" || m = "claude-opus-4-20250514" || m = "claude-opus-4"
      || contains m "opus-3" || contains m "3-opus" then
    some ("anthropic/standard/opus-legacy", opusLegacyPrices)
  else if contains m "sonnet-5" then
    some (if nowUnix < sonnet5StdStart then
        ("anthropic/standard/sonnet-5-intro", sonnet5IntroPrices)
      else ("anthropic/standard/sonnet-current", sonnetStandardPrices))
  else if contains m "sonnet" then
    some ("anthropic/standard/sonnet-current", sonnetStandardPrices)
  else if contains m "haiku" then
    if contains m "haiku-4-5" then some ("anthropic/standard/haiku-4-5", haiku45Prices)
    else if contains m "haiku-3-5" || contains m "3-5-haiku" then
      some ("anthropic/standard/haiku-3-5", haiku35Prices)
    else some ("anthropic/standard/haiku-3", haiku3Prices)
  else none

def modelPricesMatchedAt (model : String) (nowUnix : Int) : Option Prices :=
  (anthropicTariffBranchAt lower model nowUnix).map Prod.snd

def modelPricesAt (model : String) (nowUnix : Int) : Prices :=
  (modelPricesMatchedAt lower model nowUnix).getD maxPrices

def modelPricesForSpeedAt (model : String) (nowUnix : Int) (fast : Bool) : Prices :=
  if !fast then modelPricesAt lower model nowUnix
  else
    let m := asciiLower model
    if m = "claude-opus-5" || contains m "opus-4-8" then fastOpusCurrentPrices
    else fastOpus47Prices

def anthropicMatchedTariffAt (model : String) (nowUnix : Int) (fast : Bool) :
    Option (String × Prices) :=
  if !fast then anthropicTariffBranchAt lower model nowUnix
  else
    let m := asciiLower model
    if m = "claude-opus-5" || contains m "opus-4-8" then
      some ("anthropic/fast/opus-current", fastOpusCurrentPrices)
    else some ("anthropic/fast/opus-4-7-conservative", fastOpus47Prices)

end

/-! ## The enumeration -/

def anthropicCompiledTariffsAt (nowUnix : Int) : List (String × Prices) :=
  [("anthropic/standard/fable-5", fable5Prices),
    ("anthropic/standard/opus-current", opusCurrentPrices),
    ("anthropic/standard/opus-legacy", opusLegacyPrices),
    ("anthropic/standard/sonnet-current", sonnetStandardPrices),
    ("anthropic/standard/haiku-4-5", haiku45Prices),
    ("anthropic/standard/haiku-3-5", haiku35Prices),
    ("anthropic/standard/haiku-3", haiku3Prices),
    ("anthropic/fast/opus-current", fastOpusCurrentPrices),
    ("anthropic/fast/opus-4-7-conservative", fastOpus47Prices)] ++
  if nowUnix < sonnet5StdStart then
    [("anthropic/standard/sonnet-5-intro", sonnet5IntroPrices)]
  else []

def ofTariffFamily (tariffs : List (String × Prices)) (family : String) :
    List (String × Prices) :=
  tariffs.filter (fun tariff => tariff.1 = family)

theorem compiledTariffs_nodup (nowUnix : Int) :
    ((anthropicCompiledTariffsAt nowUnix).map Prod.fst).Nodup := by
  unfold anthropicCompiledTariffsAt
  split <;> decide +kernel

variable {tariff : String × Prices}

theorem ofTariffFamily_of_mem {tariffs : List (String × Prices)}
    (hnodup : (tariffs.map Prod.fst).Nodup) (hmem : tariff ∈ tariffs) :
    ofTariffFamily tariffs tariff.1 = [tariff] := by
  induction tariffs with
  | nil => simp at hmem
  | cons head rest ih =>
    rw [map_cons, nodup_cons] at hnodup
    rcases mem_cons.mp hmem with rfl | hrest
    · have hnone : ofTariffFamily rest tariff.1 = [] := by
        refine filter_eq_nil_iff.mpr (fun other hother => ?_)
        simp only [guard_iffs]
        exact fun heq => hnodup.1 (heq ▸ mem_map_of_mem hother)
      have hcons : ofTariffFamily (tariff :: rest) tariff.1 =
          tariff :: ofTariffFamily rest tariff.1 := List.filter_cons_of_pos (by simp)
      rw [hcons, hnone]
    · have hne : head.1 ≠ tariff.1 := fun heq => hnodup.1 (heq ▸ mem_map_of_mem hrest)
      have hcons : ofTariffFamily (head :: rest) tariff.1 =
          ofTariffFamily rest tariff.1 := List.filter_cons_of_neg (by simpa using hne)
      rw [hcons, ih hnodup.2 hrest]

/-! ## Agreement -/

section

variable (lower : String → String) (model : String) (nowUnix : Int)

theorem branch_mem_compiled (h : anthropicTariffBranchAt lower model nowUnix = some tariff) :
    tariff ∈ anthropicCompiledTariffsAt nowUnix := by
  have hstatic : ∀ tariff ∈ anthropicCompiledTariffsAt sonnet5StdStart,
      tariff ∈ anthropicCompiledTariffsAt nowUnix := by
    intro tariff hmem
    unfold anthropicCompiledTariffsAt at hmem ⊢
    rw [if_neg (lt_irrefl _), append_nil] at hmem
    exact mem_append_left _ hmem
  simp only [anthropicTariffBranchAt] at h
  split at h
  · cases h
    exact hstatic _ (by decide +kernel)
  split at h
  · cases h
    exact hstatic _ (by decide +kernel)
  split at h
  · cases h
    exact hstatic _ (by decide +kernel)
  split at h
  · -- the introductory prices are enumerated for as long as they are charged
    split at h
    · next hintro =>
      cases h
      unfold anthropicCompiledTariffsAt
      rw [if_pos hintro]
      exact mem_append_right _ (mem_singleton_self _)
    · cases h
      exact hstatic _ (by decide +kernel)
  split at h
  · cases h
    exact hstatic _ (by decide +kernel)
  split at h
  · split at h
    · cases h
      exact hstatic _ (by decide +kernel)
    split at h
    · cases h
      exact hstatic _ (by decide +kernel)
    · cases h
      exact hstatic _ (by decide +kernel)
  · cases h

theorem matched_mem_compiled {fast : Bool}
    (h : anthropicMatchedTariffAt lower model nowUnix fast = some tariff) :
    tariff ∈ anthropicCompiledTariffsAt nowUnix := by
  cases fast with
  | false =>
    simp only [anthropicMatchedTariffAt, Bool.not_false, if_true] at h
    exact branch_mem_compiled lower model nowUnix h
  | true =>
    unfold anthropicCompiledTariffsAt
    simp only [anthropicMatchedTariffAt, Bool.not_true, if_bool] at h
    split at h
    · cases h
      exact mem_append_left _ (by decide +kernel)
    · cases h
      exact mem_append_left _ (by decide +kernel)

theorem pricesForSpeed_eq (fast : Bool) :
    modelPricesForSpeedAt lower model nowUnix fast =
      ((anthropicMatchedTariffAt lower model nowUnix fast).map Prod.snd).getD maxPrices := by
  cases fast with
  | false =>
    simp only [modelPricesForSpeedAt, anthropicMatchedTariffAt, Bool.not_false, if_true,
      modelPricesAt, modelPricesMatchedAt]
  | true =>
    simp only [modelPricesForSpeedAt, anthropicMatchedTariffAt, Bool.not_true, if_bool]
    split <;> simp only [map_some, getD_some]

/-- The prices a turn is charged at are always there. They are those of the
matched tariff, which is the one member of the enumeration with its family; or
no tariff matches, which a fast turn never meets, and they are the highest. -/
theorem matched_tariff_agrees (fast : Bool) :
    (∃ family prices,
      anthropicMatchedTariffAt lower model nowUnix fast = some (family, prices) ∧
      modelPricesForSpeedAt lower model nowUnix fast = prices ∧
      ofTariffFamily (anthropicCompiledTariffsAt nowUnix) family = [(family, prices)]) ∨
    (anthropicMatchedTariffAt lower model nowUnix fast = none ∧ fast = false ∧
      modelPricesForSpeedAt lower model nowUnix fast = maxPrices) := by
  cases hmatched : anthropicMatchedTariffAt lower model nowUnix fast with
  | some tariff =>
    refine .inl ⟨tariff.1, tariff.2, rfl, ?_, ?_⟩
    · rw [pricesForSpeed_eq, hmatched, map_some, getD_some]
    · exact ofTariffFamily_of_mem (compiledTariffs_nodup nowUnix)
        (matched_mem_compiled lower model nowUnix hmatched)
  | none =>
    refine .inr ⟨rfl, ?_, ?_⟩
    · cases fast with
      | false => rfl
      | true =>
        simp only [anthropicMatchedTariffAt, Bool.not_true, if_bool]
          at hmatched
        split at hmatched <;> cases hmatched
    · rw [pricesForSpeed_eq, hmatched, map_none, getD_none]

end

/-- A model that no rule knows has no tariff, and a price all the same. -/
theorem unmatched_model_priced :
    anthropicMatchedTariffAt asciiLower "claude-opus-4-0" 0 false = none ∧
      modelPricesForSpeedAt asciiLower "claude-opus-4-0" 0 false = maxPrices := by
  decide +kernel

end ApiToken.Meter
