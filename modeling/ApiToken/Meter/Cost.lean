import ApiToken.Meter.Tariffs

/-!
# Totals and costs of a usage

`Usage::total_tokens`, `is_zero`, `cost_nanodollars` and `cost_breakdown`, and
the price of a turn that `TeeMeter::finalize` takes from them. Token counters
are `u64` and added with the plain operator, which wraps in a release build;
amounts are `i128`.
-/

namespace ApiToken.Meter

/-! ## Tokens -/

def Usage.totalTokens (u : Usage) : UInt64 :=
  u.inputTokens + u.outputTokens + u.cacheReadTokens + u.cacheWrite5mTokens + u.cacheWrite1hTokens

def Usage.isZero (u : Usage) : Bool :=
  u.totalTokens = 0 && u.webSearchRequests = 0

/-- The operands of the four additions of `total_tokens`. -/
def Usage.totalAdditions (u : Usage) : List (UInt64 × UInt64) :=
  [(u.inputTokens, u.outputTokens),
    (u.inputTokens + u.outputTokens, u.cacheReadTokens),
    (u.inputTokens + u.outputTokens + u.cacheReadTokens, u.cacheWrite5mTokens),
    (u.inputTokens + u.outputTokens + u.cacheReadTokens + u.cacheWrite5mTokens,
      u.cacheWrite1hTokens)]

/-- The operands of the addition of `usage_from_value`: the two halves of the
cache write split. -/
def splitAddition (u : Value) : UInt64 × UInt64 :=
  let split := u.get "cache_creation"
  ((split.bind (counter "ephemeral_5m_input_tokens")).getD 0,
    (split.bind (counter "ephemeral_1h_input_tokens")).getD 0)

/-! ## Amounts -/

/-- What `i128` keeps of a result. -/
def i128 (x : Int) : Int := x.bmod (2 ^ 128)

def addI128 (a b : Int) : Int := i128 (a + b)

/-- `(n as i128) * price`. -/
def priced (n : UInt64) (price : Int) : Int := i128 (n.toNat * price)

def webSearchNano : Int := 10000000

def costNanodollars (u : Usage) (p : Prices) : Int :=
  addI128
    (addI128
      (addI128
        (addI128
          (addI128 (priced u.inputTokens p.input) (priced u.outputTokens p.output))
          (priced u.cacheReadTokens p.cacheRead))
        (priced u.cacheWrite5mTokens p.cacheWrite5m))
      (priced u.cacheWrite1hTokens p.cacheWrite1h))
    (priced u.webSearchRequests webSearchNano)

structure CostBreakdown where
  input : Int := 0
  output : Int := 0
  cacheRead : Int := 0
  cacheWrite5m : Int := 0
  cacheWrite1h : Int := 0
  webSearch : Int := 0

def CostBreakdown.total (b : CostBreakdown) : Int :=
  addI128
    (addI128
      (addI128 (addI128 (addI128 b.input b.output) b.cacheRead) b.cacheWrite5m)
      b.cacheWrite1h)
    b.webSearch

def costBreakdown (u : Usage) (p : Prices) : CostBreakdown where
  input := priced u.inputTokens p.input
  output := priced u.outputTokens p.output
  cacheRead := priced u.cacheReadTokens p.cacheRead
  cacheWrite5m := priced u.cacheWrite5mTokens p.cacheWrite5m
  cacheWrite1h := priced u.cacheWrite1hTokens p.cacheWrite1h
  webSearch := priced u.webSearchRequests webSearchNano

/-- The breakdown `finalize` charges a turn at. -/
def baseBreakdown (u : Usage) (p : Prices) : CostBreakdown :=
  if u.isZero then {} else costBreakdown u p

/-! ## The texts of a provider -/

/-- The event of a line that `usage_from_sse` handles. -/
def sseEvent (env : Env) (raw : List Char) : Option Value :=
  match dataJson raw with
  | none => none
  | some json => if json = [] ∨ json = "[DONE]".toList then none else env.fromStr json

/-- The object an event has `usage_from_value` read. -/
def startObject (v : Value) : Option Value :=
  match eventType v with
  | some "message_start" => (v.get "message").bind (Value.get "usage")
  | _ => none

inductive Answer where
  | json (body : List UInt8)
  | sse (text : List Char)

section

variable (env : Env) (fromSlice : List UInt8 → Option Value)

/-- `usage_from_response_json`; `fromSlice` is `serde_json::from_slice`. -/
def usageFromResponseJson (body : List UInt8) : Usage :=
  match fromSlice body with
  | some v => ((v.get "usage").map usageFromValue).getD {}
  | none => {}

def Answer.usage : Answer → Usage
  | .json body => usageFromResponseJson fromSlice body
  | .sse text => usageFromSse env text

/-- The objects that `usage_from_value` is called with meanwhile. -/
def Answer.usageObjects : Answer → List Value
  | .json body => ((fromSlice body).bind (Value.get "usage")).toList
  | .sse text => ((lines text).filterMap (sseEvent env)).filterMap startObject

def Answer.additions (answer : Answer) : List (UInt64 × UInt64) :=
  (answer.usageObjects env fromSlice).map splitAddition
    ++ (answer.usage env fromSlice).totalAdditions

end

/-! ## What the parsers read -/

variable {env : Env} {fromSlice : List UInt8 → Option Value}

/-! ## Totals -/

def Usage.tokenSum (u : Usage) : Nat :=
  u.inputTokens.toNat + u.outputTokens.toNat + u.cacheReadTokens.toNat
    + u.cacheWrite5mTokens.toNat + u.cacheWrite1hTokens.toNat

/-- An addition of counters that does not overflow. -/
def Exact (operands : UInt64 × UInt64) : Prop :=
  operands.1.toNat + operands.2.toNat < 2 ^ 64

instance (operands : UInt64 × UInt64) : Decidable (Exact operands) :=
  inferInstanceAs (Decidable (_ < _))

theorem Exact.toNat_add {a b : UInt64} (h : Exact (a, b)) :
    (a + b).toNat = a.toNat + b.toNat := by
  rw [UInt64.toNat_add]
  exact Nat.mod_eq_of_lt h

theorem totalAdditions_exact_iff (u : Usage) :
    (∀ operands ∈ u.totalAdditions, Exact operands) ↔ u.tokenSum < 2 ^ 64 := by
  unfold Usage.totalAdditions Usage.tokenSum
  simp only [forall_mem_cons, not_mem_nil, false_implies, implies_true, and_true]
  constructor
  · rintro ⟨h1, h2, h3, h4⟩
    have hlast : _ < _ := h4
    rwa [h3.toNat_add, h2.toNat_add, h1.toNat_add] at hlast
  · intro hsum
    have h1 : Exact (u.inputTokens, u.outputTokens) := by
      show u.inputTokens.toNat + u.outputTokens.toNat < 2 ^ 64
      omega
    have h2 : Exact (u.inputTokens + u.outputTokens, u.cacheReadTokens) := by
      show (u.inputTokens + u.outputTokens).toNat + u.cacheReadTokens.toNat < 2 ^ 64
      rw [h1.toNat_add]
      omega
    have h3 : Exact (u.inputTokens + u.outputTokens + u.cacheReadTokens,
        u.cacheWrite5mTokens) := by
      show (u.inputTokens + u.outputTokens + u.cacheReadTokens).toNat
        + u.cacheWrite5mTokens.toNat < 2 ^ 64
      rw [h2.toNat_add, h1.toNat_add]
      omega
    refine ⟨h1, h2, h3, ?_⟩
    show _ + _ < _
    rw [h3.toNat_add, h2.toNat_add, h1.toNat_add]
    exact hsum

theorem totalTokens_toNat (u : Usage) : u.totalTokens.toNat = u.tokenSum % 2 ^ 64 := by
  unfold Usage.totalTokens Usage.tokenSum
  simp only [UInt64.toNat_add]
  omega

theorem isZero_iff (u : Usage) :
    u.isZero = true ↔ 2 ^ 64 ∣ u.tokenSum ∧ u.webSearchRequests = 0 := by
  unfold Usage.isZero
  rw [Bool.and_eq_true, decide_eq_true_eq, decide_eq_true_eq, ← UInt64.toNat_inj,
    totalTokens_toNat, Nat.dvd_iff_mod_eq_zero]
  rfl

theorem eq_default_iff (u : Usage) : u = {} ↔ u.tokenSum = 0 ∧ u.webSearchRequests = 0 := by
  constructor
  · rintro rfl
    exact ⟨rfl, rfl⟩
  · rintro ⟨hsum, hweb⟩
    unfold Usage.tokenSum at hsum
    obtain ⟨input, output, read, write5m, write1h, web⟩ := u
    have hzero : ∀ n : UInt64, n.toNat = 0 → n = 0 := fun n h => UInt64.toNat_inj.mp h
    simp only at hsum hweb
    rw [hweb, hzero input (by omega), hzero output (by omega), hzero read (by omega),
      hzero write5m (by omega), hzero write1h (by omega)]

theorem isZero_of_exact {u : Usage} (hsum : u.tokenSum < 2 ^ 64) : u.isZero = true ↔ u = {} := by
  rw [isZero_iff, eq_default_iff]
  constructor
  · rintro ⟨hdvd, hweb⟩
    exact ⟨Nat.eq_zero_of_dvd_of_lt hdvd hsum, hweb⟩
  · rintro ⟨hzero, hweb⟩
    exact ⟨hzero ▸ Nat.dvd_zero _, hweb⟩

/-! ## Costs -/

/-- Prices of at most `2 ^ 60` nanodollars for one token. -/
def Prices.Bounded (p : Prices) : Prop :=
  ∀ price ∈ [p.input, p.output, p.cacheRead, p.cacheWrite5m, p.cacheWrite1h],
    -2 ^ 60 ≤ price ∧ price ≤ 2 ^ 60

instance (p : Prices) : Decidable p.Bounded := List.decidableBAll ..

theorem i128_of_range {x : Int} (hlow : -2 ^ 127 ≤ x) (hhigh : x < 2 ^ 127) : i128 x = x :=
  Int.bmod_eq_of_le (by omega) (by omega)

theorem priced_exact (n : UInt64) {price : Int} (hlow : -2 ^ 60 ≤ price)
    (hhigh : price ≤ 2 ^ 60) :
    priced n price = n.toNat * price ∧ -2 ^ 124 ≤ priced n price ∧ priced n price ≤ 2 ^ 124 := by
  have hn : (n.toNat : Int) ≤ 2 ^ 64 := by
    have := n.toNat_lt
    omega
  have hup : (n.toNat : Int) * price ≤ 2 ^ 64 * 2 ^ 60 := by
    calc (n.toNat : Int) * price ≤ n.toNat * 2 ^ 60 :=
          Int.mul_le_mul_of_nonneg_left hhigh (Int.natCast_nonneg _)
      _ ≤ 2 ^ 64 * 2 ^ 60 := Int.mul_le_mul_of_nonneg_right hn (by decide)
  have hdown : -((2 : Int) ^ 64 * 2 ^ 60) ≤ (n.toNat : Int) * price := by
    calc -((2 : Int) ^ 64 * 2 ^ 60) = 2 ^ 64 * -2 ^ 60 := by decide
      _ ≤ (n.toNat : Int) * -2 ^ 60 := Int.mul_le_mul_of_nonpos_right hn (by decide)
      _ ≤ n.toNat * price := Int.mul_le_mul_of_nonneg_left hlow (Int.natCast_nonneg _)
  have heq : priced n price = n.toNat * price := i128_of_range (by omega) (by omega)
  refine ⟨heq, ?_, ?_⟩ <;> omega

def exactCost (u : Usage) (p : Prices) : Int :=
  u.inputTokens.toNat * p.input + u.outputTokens.toNat * p.output
    + u.cacheReadTokens.toNat * p.cacheRead + u.cacheWrite5mTokens.toNat * p.cacheWrite5m
    + u.cacheWrite1hTokens.toNat * p.cacheWrite1h
    + u.webSearchRequests.toNat * webSearchNano

def CostBreakdown.partSum (b : CostBreakdown) : Int :=
  b.input + b.output + b.cacheRead + b.cacheWrite5m + b.cacheWrite1h + b.webSearch

theorem costBreakdown_exact (u : Usage) {p : Prices} (hp : p.Bounded) :
    (costBreakdown u p).total = exactCost u p ∧ (costBreakdown u p).partSum = exactCost u p := by
  simp only [Prices.Bounded, forall_mem_cons, not_mem_nil, false_implies,
    implies_true, and_true] at hp
  obtain ⟨hin, hout, hread, h5m, h1h⟩ := hp
  obtain ⟨ein, lin, uin⟩ := priced_exact u.inputTokens hin.1 hin.2
  obtain ⟨eout, lout, uout⟩ := priced_exact u.outputTokens hout.1 hout.2
  obtain ⟨eread, lread, uread⟩ := priced_exact u.cacheReadTokens hread.1 hread.2
  obtain ⟨e5m, l5m, u5m⟩ := priced_exact u.cacheWrite5mTokens h5m.1 h5m.2
  obtain ⟨e1h, l1h, u1h⟩ := priced_exact u.cacheWrite1hTokens h1h.1 h1h.2
  obtain ⟨eweb, lweb, uweb⟩ :=
    priced_exact u.webSearchRequests (show -2 ^ 60 ≤ webSearchNano by decide) (by decide)
  have hparts : (costBreakdown u p).partSum = exactCost u p := by
    unfold CostBreakdown.partSum costBreakdown exactCost
    simp only [ein, eout, eread, e5m, e1h, eweb]
  refine ⟨?_, hparts⟩
  rw [← hparts]
  unfold CostBreakdown.partSum CostBreakdown.total addI128 costBreakdown
  simp only
  generalize priced u.inputTokens p.input = a at *
  generalize priced u.outputTokens p.output = b at *
  generalize priced u.cacheReadTokens p.cacheRead = c at *
  generalize priced u.cacheWrite5mTokens p.cacheWrite5m = d at *
  generalize priced u.cacheWrite1hTokens p.cacheWrite1h = e at *
  generalize priced u.webSearchRequests webSearchNano = f at *
  rw [i128_of_range (x := a + b) (by omega) (by omega),
    i128_of_range (x := a + b + c) (by omega) (by omega),
    i128_of_range (x := a + b + c + d) (by omega) (by omega),
    i128_of_range (x := a + b + c + d + e) (by omega) (by omega),
    i128_of_range (x := a + b + c + d + e + f) (by omega) (by omega)]

/-! ## Every usage of an answer -/

structure Lawful (u : Usage) (p : Prices) : Prop where
  /-- No turn that used anything looks unmetered. -/
  zero : u.isZero = true ↔ u = {}
  cost : (costBreakdown u p).total = costNanodollars u p
  /-- The total is what `i128` keeps of the sum of the parts. -/
  parts : (costBreakdown u p).total = i128 (costBreakdown u p).partSum
  /-- Which is all of it, and the exact cost, unless a price is absurd. -/
  exact : p.Bounded →
    (costBreakdown u p).total = (costBreakdown u p).partSum ∧
      (costBreakdown u p).total = exactCost u p

theorem total_costBreakdown (u : Usage) (p : Prices) :
    (costBreakdown u p).total = costNanodollars u p := by
  simp only [CostBreakdown.total, costBreakdown, costNanodollars]

theorem total_parts (b : CostBreakdown) : b.total = i128 b.partSum := by
  unfold CostBreakdown.total CostBreakdown.partSum addI128 i128
  simp only [Int.bmod_add_bmod]

/-- The counters are in order if and only if no object splits its cache writes
into halves that overflow, and the tokens reported fit the counter of the
total. -/
theorem totals_lawful_iff (env : Env) (fromSlice : List UInt8 → Option Value)
    (answer : Answer) (p : Prices) :
    (Lawful (answer.usage env fromSlice) p ∧
        ∀ operands ∈ answer.additions env fromSlice, Exact operands) ↔
      (∀ object ∈ answer.usageObjects env fromSlice, Exact (splitAddition object)) ∧
        (answer.usage env fromSlice).tokenSum < 2 ^ 64 := by
  unfold Answer.additions
  rw [List.forall_mem_append, totalAdditions_exact_iff, List.forall_mem_map]
  constructor
  · rintro ⟨-, hsplits, hsum⟩
    exact ⟨hsplits, hsum⟩
  · rintro ⟨hsplits, hsum⟩
    refine ⟨⟨isZero_of_exact hsum, total_costBreakdown _ _, total_parts _, fun hp => ?_⟩,
      hsplits, hsum⟩
    obtain ⟨htotal, hparts⟩ := costBreakdown_exact (answer.usage env fromSlice) hp
    exact ⟨htotal.trans hparts.symm, htotal⟩

/-- Half of the range of a counter, as input and again as output. -/
def wrappingUsage : Usage where
  inputTokens := 9223372036854775808
  outputTokens := 9223372036854775808

def wrappingBody : List UInt8 :=
  utf8 ("\x7b\"usage\":\x7b\"input_tokens\":9223372036854775808,".toList
    ++ "\"output_tokens\":9223372036854775808\x7d\x7d".toList)

/-- The libraries, as they read that body; no stream is read. -/
def sampleCostEnv : Env where
  fromStr _ := none
  replaced _ := []

/-- `serde_json` on it. -/
def wrappingFromSlice (body : List UInt8) : Option Value :=
  if body = wrappingBody then
    some (.object [("usage", .object
      [("input_tokens", .number (.posInt 9223372036854775808)),
        ("output_tokens", .number (.posInt 9223372036854775808))])])
  else none

/-- Two to the sixty-four tokens make an empty usage and a turn that costs
nothing. -/
theorem wrapped_usage_unmetered :
    (Answer.json wrappingBody).usage sampleCostEnv wrappingFromSlice = wrappingUsage ∧
      wrappingUsage.isZero = true ∧ wrappingUsage ≠ {} ∧
      (baseBreakdown wrappingUsage haiku3Prices).total = 0 ∧
      0 < costNanodollars wrappingUsage haiku3Prices ∧
      ¬ ∀ operands ∈ (Answer.json wrappingBody).additions sampleCostEnv wrappingFromSlice,
        Exact operands := by
  have hinput : (9223372036854775808, 9223372036854775808) ∈
      (Answer.json wrappingBody).additions sampleCostEnv wrappingFromSlice := by
    decide +kernel
  have hwraps : ¬ Exact (9223372036854775808, 9223372036854775808) := by decide +kernel
  refine ⟨?_, ?_, ?_, ?_, ?_, fun hall => hwraps (hall _ hinput)⟩ <;> decide +kernel

end ApiToken.Meter
