import ApiToken.Lib.Fallible
import Mathlib.Algebra.Ring.Nat

/-!
# Rows of settled usage

The terminal pricing of a KIMI or GLM turn and the usage event that is built
from the priced legs. Prices are the ones `require_non_negative` admits.
-/

namespace ApiToken.Forward.UsageRow

/-! ## Pricing a turn -/

/-- `KimiUsage` and `GlmUsage`. -/
structure Usage where
  inputTokens : Nat
  cacheReadTokens : Nat
  cacheWriteTokens : Nat
  outputTokens : Nat
  reasoningOutputTokens : Nat

/-- `KimiPrices` and `GlmPrices`, nanodollars per token. -/
structure Prices where
  cachedInput : Nat
  input : Nat
  cacheWrite : Nat
  output : Nat

structure GlmCreditRates where
  inputTenths : Nat
  cachedInputTenths : Nat
  outputTenths : Nat

inductive UsageError where
  | reasoningExceedsOutput
  | overflow

/-- A step of `i128` arithmetic on values that are not negative. -/
def checkedI128 (x : Nat) : Except UsageError Nat :=
  if x < 2 ^ 127 then .ok x else .error .overflow

def Usage.validate (u : Usage) : Except UsageError Unit :=
  failIf (decide (u.outputTokens < u.reasoningOutputTokens)) .reasoningExceedsOutput

def Usage.isZero (u : Usage) : Bool :=
  u.inputTokens + u.cacheReadTokens + u.cacheWriteTokens + u.outputTokens == 0

def costNanodollars (u : Usage) (p : Prices) : Except UsageError Nat := do
  u.validate
  let total ← checkedI128 (u.inputTokens * p.input)
  let cacheRead ← checkedI128 (u.cacheReadTokens * p.cachedInput)
  let cacheWrite ← checkedI128 (u.cacheWriteTokens * p.cacheWrite)
  let output ← checkedI128 (u.outputTokens * p.output)
  let total ← checkedI128 (total + cacheRead)
  let total ← checkedI128 (total + cacheWrite)
  checkedI128 (total + output)

structure PricedTurn where
  prices : Prices
  tariffScheduleId : String
  input : Nat
  cacheRead : Nat
  cacheWrite : Nat
  output : Nat
  total : Nat

/-- The legs of a turn; `provider` names it in the errors. -/
def priceLegs (provider : String) (usage : Usage) (prices : Prices) (tariffScheduleId : String) :
    Except String PricedTurn := do
  let overflow := s!"{provider} cost overflow"
  usage.validate.mapError fun _ => s!"invalid {provider} usage"
  failIf usage.isZero s!"empty {provider} usage is not terminal evidence"
  let leg := fun tokens rate => (checkedI128 (tokens * rate)).mapError fun _ => overflow
  let input ← leg usage.inputTokens prices.input
  let cacheRead ← leg usage.cacheReadTokens prices.cachedInput
  let cacheWrite ← leg usage.cacheWriteTokens prices.cacheWrite
  let output ← leg usage.outputTokens prices.output
  let total ← (costNanodollars usage prices).mapError fun _ => overflow
  return { prices, tariffScheduleId, input, cacheRead, cacheWrite, output, total }

/-- `price_turn_with_prices` of KIMI. -/
def priceTurnWithPrices (usage : Usage) (prices : Prices) (tariffScheduleId : String) :
    Except String PricedTurn :=
  priceLegs "KIMI" usage prices tariffScheduleId

def glmCreditCostMicro (u : Usage) (rates : GlmCreditRates) (offPeak : Bool) :
    Except UsageError Nat := do
  u.validate
  let weighted ← checkedI128 (u.inputTokens * rates.inputTenths)
  let cacheRead ← checkedI128 (u.cacheReadTokens * rates.cachedInputTenths)
  let output ← checkedI128 (u.outputTokens * rates.outputTenths)
  let weighted ← checkedI128 (weighted + cacheRead)
  let weighted ← checkedI128 (weighted + output)
  checkedI128 (weighted * if offPeak then 5 else 10)

structure GlmPricedTurn extends PricedTurn where
  creditScheduleId : String
  nativeInput : Nat
  nativeCacheRead : Nat
  nativeOutput : Nat
  nativeTotal : Nat
  offPeak : Bool

/-- `price_turn_with_rates` of GLM; `offPeak` is read off the clock. -/
def priceTurnWithRates (usage : Usage) (prices : Prices) (creditRates : GlmCreditRates)
    (offPeak : Bool) (apiScheduleId creditScheduleId : String) :
    Except String GlmPricedTurn := do
  let turn ← priceLegs "GLM" usage prices apiScheduleId
  let overflow := "GLM credit overflow"
  let nativeLeg := fun tokens tenths =>
    (checkedI128 (tokens * tenths) >>= fun weighted =>
      checkedI128 (weighted * if offPeak then 5 else 10)).mapError fun _ => overflow
  let nativeInput ← nativeLeg usage.inputTokens creditRates.inputTenths
  let nativeCacheRead ← nativeLeg usage.cacheReadTokens creditRates.cachedInputTenths
  let nativeOutput ← nativeLeg usage.outputTokens creditRates.outputTenths
  let nativeTotal ← (glmCreditCostMicro usage creditRates offPeak).mapError fun _ => overflow
  return { turn with
    creditScheduleId, nativeInput, nativeCacheRead, nativeOutput, nativeTotal, offPeak }

/-! ## The row -/

structure UsageEventInput where
  model : String
  provider : String
  inputTokens : Nat
  outputTokens : Nat
  cacheReadTokens : Nat
  cacheWrite5mTokens : Nat
  cacheWrite1hTokens : Nat
  webSearchRequests : Nat
  realNano : Nat
  chargeBasisNano : Nat
  speed : String
  inferenceGeo : String
  inputNano : Nat
  outputNano : Nat
  cacheReadNano : Nat
  cacheWrite5mNano : Nat
  cacheWrite1hNano : Nat
  webSearchNano : Nat
  pricedTs : Int

def i64Max : Nat := 2 ^ 63 - 1

def clamp (value : Nat) : Nat := min value i64Max

def PricedTurn.usageEvent (turn : PricedTurn) (provider speed servedModel : String)
    (pricedTs : Int) : UsageEventInput where
  model := servedModel
  provider
  inputTokens := if turn.prices.input = 0 then 0 else clamp (turn.input / turn.prices.input)
  outputTokens := if turn.prices.output = 0 then 0 else clamp (turn.output / turn.prices.output)
  cacheReadTokens :=
    if turn.prices.cachedInput = 0 then 0 else clamp (turn.cacheRead / turn.prices.cachedInput)
  cacheWrite5mTokens := 0
  cacheWrite1hTokens :=
    if turn.prices.cacheWrite = 0 then 0 else clamp (turn.cacheWrite / turn.prices.cacheWrite)
  webSearchRequests := 0
  realNano := clamp turn.total
  chargeBasisNano := clamp turn.total
  speed
  inferenceGeo := ""
  inputNano := clamp turn.input
  outputNano := clamp turn.output
  cacheReadNano := clamp turn.cacheRead
  cacheWrite5mNano := 0
  cacheWrite1hNano := clamp turn.cacheWrite
  webSearchNano := 0
  pricedTs

def kimiUsageEvent (turn : PricedTurn) (servedModel : String) (pricedTs : Int) :
    UsageEventInput :=
  let highspeed := servedModel.map Char.toLower == "kimi-k2.7-code-highspeed"
  turn.usageEvent "kimi" (if highspeed then "highspeed" else "standard") servedModel pricedTs

def glmUsageEvent (turn : GlmPricedTurn) (servedModel : String) (pricedTs : Int) :
    UsageEventInput :=
  turn.usageEvent "glm" "standard" servedModel pricedTs

/-! ## What the row reports -/

/-- The row says what the turn used and cost. -/
structure Reports (usage : Usage) (row : UsageEventInput) : Prop where
  input : row.inputTokens = clamp usage.inputTokens
  cacheRead : row.cacheReadTokens = clamp usage.cacheReadTokens
  cacheWrite : row.cacheWrite5mTokens + row.cacheWrite1hTokens = clamp usage.cacheWriteTokens
  output : row.outputTokens = clamp usage.outputTokens
  legs : row.inputNano + row.outputNano + row.cacheReadNano + row.cacheWrite5mNano +
    row.cacheWrite1hNano + row.webSearchNano = row.chargeBasisNano

def legs (usage : Usage) (prices : Prices) : List (Nat × Nat) :=
  [(usage.inputTokens, prices.input), (usage.cacheReadTokens, prices.cachedInput),
    (usage.cacheWriteTokens, prices.cacheWrite), (usage.outputTokens, prices.output)]

/-- No leg with tokens is free, and the cost fits a row, or is all of one leg. -/
def Representable (usage : Usage) (prices : Prices) : Prop :=
  (∀ leg ∈ legs usage prices, leg.2 = 0 → leg.1 = 0) ∧
    (((legs usage prices).map fun leg => leg.1 * leg.2).sum ≤ i64Max ∨
      ((legs usage prices).map fun leg => leg.1 * leg.2).Pairwise fun a b => a = 0 ∨ b = 0)

theorem mapError_eq_ok {ε ε' α : Type} {x : Except ε α} {f : ε → ε'} {a : α} :
    x.mapError f = .ok a ↔ x = .ok a := by
  cases x <;> constructor <;> intro h <;> cases h <;> rfl

theorem checkedI128_eq_ok {x y : Nat} : checkedI128 x = .ok y ↔ x < 2 ^ 127 ∧ x = y := by
  rw [checkedI128]
  split
  · rename_i h
    exact ⟨fun hx => ⟨h, Except.ok.inj hx⟩, fun hx => by rw [hx.2]⟩
  · rename_i h
    constructor
    · intro hx
      cases hx
    · intro hx
      exact absurd hx.1 h

theorem priceLegs_eq_ok {provider scheduleId : String} {usage : Usage} {prices : Prices}
    {turn : PricedTurn} (h : priceLegs provider usage prices scheduleId = .ok turn) :
    turn.prices = prices ∧ turn.input = usage.inputTokens * prices.input ∧
      turn.cacheRead = usage.cacheReadTokens * prices.cachedInput ∧
      turn.cacheWrite = usage.cacheWriteTokens * prices.cacheWrite ∧
      turn.output = usage.outputTokens * prices.output ∧
      turn.total = turn.input + turn.cacheRead + turn.cacheWrite + turn.output := by
  simp only [priceLegs, costNanodollars, ok_steps, mapError_eq_ok, checkedI128_eq_ok] at h
  obtain ⟨-, -, _, ⟨-, rfl⟩, _, ⟨-, rfl⟩, _, ⟨-, rfl⟩, _, ⟨-, rfl⟩, _, ⟨-, _, ⟨-, rfl⟩, _,
    ⟨-, rfl⟩, _, ⟨-, rfl⟩, _, ⟨-, rfl⟩, _, ⟨-, rfl⟩, _, ⟨-, rfl⟩, -, rfl⟩, rfl⟩ := h
  exact ⟨rfl, rfl, rfl, rfl, rfl, rfl⟩

theorem counter_eq_iff (tokens price : Nat) :
    (if price = 0 then 0 else clamp (tokens * price / price)) = clamp tokens ↔
      (price = 0 → tokens = 0) := by
  split
  · rename_i h
    simp only [h, clamp, i64Max, true_imp_iff]
    omega
  · rename_i h
    rw [Nat.mul_div_cancel _ (Nat.pos_of_ne_zero h)]
    simp [h]

theorem clamp_sum_iff (a b c d : Nat) :
    clamp a + clamp d + clamp b + 0 + clamp c + 0 = clamp (a + b + c + d) ↔
      [a, b, c, d].sum ≤ i64Max ∨ [a, b, c, d].Pairwise fun x y => x = 0 ∨ y = 0 := by
  simp only [sum_cons, sum_nil, pairwise_cons, mem_cons, not_mem_nil,
    or_false, forall_eq_or_imp, forall_eq, clamp, i64Max]
  simp
  omega

theorem PricedTurn.reports_iff {provider scheduleId : String} {usage : Usage} {prices : Prices}
    {turn : PricedTurn} (h : priceLegs provider usage prices scheduleId = .ok turn)
    (name speed servedModel : String) (pricedTs : Int) :
    Reports usage (turn.usageEvent name speed servedModel pricedTs) ↔
      Representable usage prices := by
  obtain ⟨hprices, hinput, hread, hwrite, houtput, htotal⟩ := priceLegs_eq_ok h
  have hsum := clamp_sum_iff turn.input turn.cacheRead turn.cacheWrite turn.output
  rw [← htotal, hinput, hread, hwrite, houtput] at hsum
  simp only [Representable, legs, forall_mem_cons, map_cons, map_nil]
  constructor
  · rintro ⟨input, cacheRead, cacheWrite, output, sum⟩
    simp only [PricedTurn.usageEvent, hprices, hinput, hread, hwrite, houtput, Nat.zero_add,
      counter_eq_iff] at input cacheRead cacheWrite output sum
    exact ⟨⟨input, cacheRead, cacheWrite, output, List.forall_mem_nil _⟩, hsum.mp sum⟩
  · rintro ⟨⟨input, cacheRead, cacheWrite, output, -⟩, sum⟩
    constructor <;>
      simp only [PricedTurn.usageEvent, hprices, hinput, hread, hwrite, houtput, Nat.zero_add,
        counter_eq_iff]
    · exact input
    · exact cacheRead
    · exact cacheWrite
    · exact output
    · exact hsum.mpr sum

/-- A settled KIMI or GLM turn has a row that reports it exactly when no leg
with tokens is free and the clamped legs keep their sum. -/
theorem usage_row_reports_iff (usage : Usage) (prices : Prices) (servedModel : String)
    (pricedTs : Int) :
    (∀ scheduleId turn, priceTurnWithPrices usage prices scheduleId = .ok turn →
      (Reports usage (kimiUsageEvent turn servedModel pricedTs) ↔ Representable usage prices)) ∧
    ∀ rates offPeak apiScheduleId creditScheduleId turn,
      priceTurnWithRates usage prices rates offPeak apiScheduleId creditScheduleId = .ok turn →
      (Reports usage (glmUsageEvent turn servedModel pricedTs) ↔ Representable usage prices) := by
  constructor
  · intro scheduleId turn h
    exact turn.reports_iff h _ _ _ _
  · intro rates offPeak apiScheduleId creditScheduleId turn h
    rw [priceTurnWithRates] at h
    obtain ⟨priced, hpriced, h⟩ := bind_eq_ok.mp h
    simp only [ok_steps, mapError_eq_ok] at h
    obtain ⟨_, -, _, -, _, -, _, -, rfl⟩ := h
    exact priced.reports_iff hpriced _ _ _ _

def freeCache : Prices := ⟨0, 3, 3, 15⟩

def cachedTurn : Usage := ⟨10, 100, 0, 20, 0⟩

/-- A row of a turn with free cached input: a hundred cached tokens are
reported as none. -/
theorem usage_row_free_cache :
    ∃ turn, priceTurnWithPrices cachedTurn freeCache "moonshot/kimi/kimi-k3/v2" = .ok turn ∧
      ¬ Reports cachedTurn (kimiUsageEvent turn "kimi-k3" 0) :=
  ⟨⟨freeCache, _, 30, 0, 0, 300, 330⟩, rfl, fun h => absurd h.cacheRead (by decide)⟩

def paidCache : Prices := { freeCache with cachedInput := 1 }

/-- At a price of one, the same hundred tokens are reported. -/
theorem usage_row_paid_cache :
    Reports cachedTurn
      (kimiUsageEvent ⟨paidCache, "compiled", 30, 100, 0, 300, 430⟩ "kimi-k3" 0) :=
  (usage_row_reports_iff cachedTurn paidCache "kimi-k3" 0).1 "compiled" _ rfl |>.mpr
    ⟨by decide, .inl (by decide)⟩

end ApiToken.Forward.UsageRow
