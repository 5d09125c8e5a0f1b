import ApiToken.Schema.Scalar

/-!
# The keywords for one kind of value

Strings, numbers, arrays and objects: what a node's keywords say of a value of
its type is what the output's keywords say of it. The numbers need the doubles
to stand for the bounds; the others need nothing.
-/

namespace ApiToken.GeminiSchema

variable {object : Object} {keyword : String} {path : SchemaPath} {count : Option Nat}
  {move : F64 → Option F64} {lower : Bool} {current : Option NumericBound} {q x : Rat}
  {n : Number} {type : Option SchemaType} {values output fields : GoogleFields}
  {R : Reading} {child : Json → Instance → Bool}

/-! ## Counts -/

theorem asU64_eq {value : Json} {k : Nat} (h : value.asU64 = some k) :
    ∃ n, value = .num n ∧ n.value = (k : Rat) := by
  cases value with
  | num n => exact ⟨n, rfl, Number.value_of_asU64 h⟩
  | _ => simp [Json.asU64] at h

theorem countField_spec (h : countField object keyword path = .ok count) (size : Nat) :
    atLeast object keyword size = count.all (· ≤ size) ∧
      atMost object keyword size = count.all (size ≤ ·) := by
  unfold countField at h
  split at h
  · next hget =>
    simp only [pure_eq_ok] at h
    simp [atLeast, atMost, bounded, hget, ← h]
  · next value hget =>
    simp only [ok_steps] at h
    obtain ⟨k, hk, rfl⟩ := h
    obtain ⟨n, rfl, hn⟩ := asU64_eq hk
    simp [atLeast, atMost, bounded, hget, hn]

theorem countField_isSome (h : countField object keyword path = .ok count) :
    count.isSome = object.has keyword := by
  unfold countField at h
  split at h
  · next hget =>
    simp only [pure_eq_ok] at h
    simp [Object.has, hget, ← h]
  · next value hget =>
    simp only [ok_steps] at h
    obtain ⟨k, -, rfl⟩ := h
    simp [Object.has, hget]

theorem mergeCount_lower (current : Option Nat) (value size : Nat) :
    (mergeCount current value true).all (· ≤ size) =
      (current.all (· ≤ size) && decide (value ≤ size)) := by
  cases current with
  | none => simp [mergeCount]
  | some =>
    simp only [mergeCount, if_true, all_some, ← Bool.decide_and]
    congr 1
    exact propext max_le_iff

theorem mergeCount_upper (current : Option Nat) (value size : Nat) :
    (mergeCount current value false).all (size ≤ ·) =
      (current.all (size ≤ ·) && decide (size ≤ value)) := by
  cases current with
  | none => simp [mergeCount]
  | some =>
    simp only [mergeCount, if_bool, all_some, ← Bool.decide_and]
    congr 1
    exact propext le_min_iff

/-! ## Numbers -/

section

variable {dec : Decimals}

def meetsDouble (dec : Decimals) (lower : Bool) (q : Rat) (x : F64) : Bool :=
  if lower then decide (dec.text x ≤ q) else decide (q ≤ dec.text x)

theorem mergeNumericBound_meets (current : Option NumericBound) (candidate : NumericBound)
    (lower : Bool) (q : Rat) :
    ((mergeNumericBound current candidate lower).map NumericBound.value).all
        (meetsDouble dec lower q) =
      ((current.map NumericBound.value).all (meetsDouble dec lower q) &&
        meetsDouble dec lower q candidate.value) := by
  cases current with
  | none => simp [mergeNumericBound]
  | some =>
    have hle := dec.text_le
    simp only [mergeNumericBound]
    split
    · next hkeep =>
      simp only [map_some, all_some]
      cases lower with
      | true =>
        simp only [Bool.true_and, Bool.not_true, Bool.false_and, Bool.or_false, F64.ge,
          guard_iffs, ← hle] at hkeep
        simp only [meetsDouble, if_true, ← Bool.decide_and]
        exact decide_eq_decide.mpr ⟨fun h => ⟨h, hkeep.trans h⟩, And.left⟩
      | false =>
        simp only [Bool.not_false, Bool.true_and, Bool.false_and, Bool.false_or, F64.ge,
          guard_iffs, ← hle] at hkeep
        simp only [meetsDouble, if_bool, ← Bool.decide_and]
        exact decide_eq_decide.mpr ⟨fun h => ⟨h, h.trans hkeep⟩, And.left⟩
    · next htake =>
      simp only [map_some, all_some]
      cases lower with
      | true =>
        simp only [Bool.true_and, Bool.not_true, Bool.false_and, Bool.or_false, F64.ge,
          guard_iffs, ← hle, not_le] at htake
        simp only [meetsDouble, if_true, ← Bool.decide_and]
        exact decide_eq_decide.mpr ⟨fun h => ⟨htake.le.trans h, h⟩, And.right⟩
      | false =>
        simp only [Bool.not_false, Bool.true_and, Bool.false_and, Bool.false_or, F64.ge,
          guard_iffs, ← hle, not_le] at htake
        simp only [meetsDouble, if_bool, ← Bool.decide_and]
        exact decide_eq_decide.mpr ⟨fun h => ⟨h.trans htake.le, h⟩, And.right⟩

theorem addBound_spec {moved : String} {bound : Option NumericBound}
    (h : addBound dec object keyword move moved lower current path = .ok bound) :
    (object.get keyword = none ∧ bound = current) ∨
    ∃ n x y, object.get keyword = some (.num n) ∧ dec.parse n = some x ∧ move x = some y ∧
      ∀ q, (bound.map NumericBound.value).all (meetsDouble dec lower q) =
        ((current.map NumericBound.value).all (meetsDouble dec lower q) &&
          meetsDouble dec lower q y) := by
  simp only [addBound, bind_eq_ok] at h
  obtain ⟨x?, hx, h⟩ := h
  unfold optionalNumber at hx
  split at hx
  · next hget =>
    simp only [pure_eq_ok] at hx
    subst hx
    simp only [pure_eq_ok] at h
    exact .inl ⟨hget, h.symm⟩
  · next n hget =>
    simp only [ok_steps, finiteNumber] at hx
    obtain ⟨x, hx, rfl⟩ := hx
    simp only [ok_steps] at h
    obtain ⟨y, hy, rfl⟩ := h
    exact .inr ⟨n, x, y, hget, hx, hy, mergeNumericBound_meets current ⟨y, keyword⟩ lower⟩
  · simp only [throw_eq_ok] at hx

def ofType (type : Option SchemaType) (q : Rat) : Prop := type = some .integer → q.den = 1

theorem le_iff_ceil_le (hq : q.den = 1) : x ≤ q ↔ ⌈x⌉ ≤ q.num := by
  rw [Int.ceil_le, (Rat.den_eq_one_iff q).mp hq]

theorem le_iff_le_floor (hq : q.den = 1) : q ≤ x ↔ q.num ≤ ⌊x⌋ := by
  rw [Int.le_floor, (Rat.den_eq_one_iff q).mp hq]

theorem lt_iff_floor_lt (hq : q.den = 1) : x < q ↔ ⌊x⌋ + 1 ≤ q.num := by
  rw [Int.add_one_le_iff, Int.floor_lt, (Rat.den_eq_one_iff q).mp hq]

theorem lt_iff_lt_ceil (hq : q.den = 1) : q < x ↔ q.num ≤ ⌈x⌉ - 1 := by
  rw [Int.le_sub_one_iff, Int.lt_ceil, (Rat.den_eq_one_iff q).mp hq]

def asks (lower : Bool) (q bound : Rat) : Bool :=
  if lower then decide (bound ≤ q) else decide (q ≤ bound)

def asksStrictly (lower : Bool) (q bound : Rat) : Bool :=
  if lower then decide (bound < q) else decide (q < bound)

structure KeepsSide (dec : Decimals) (object : Object) (type : Option SchemaType)
    (lower : Bool) (keyword exclusive : String) (move : F64 → Option F64) : Prop where
  bound : ∀ n x, object.get keyword = some (.num n) → dec.parse n = some x →
    ∀ q, ofType type q → meetsDouble dec lower q x = asks lower q n.value
  /-- An exclusive bound is a whole number away, or an inclusive one implies it. -/
  exclusive : ∀ n x y, object.get exclusive = some (.num n) → dec.parse n = some x →
    move x = some y →
    (∀ q, ofType type q → meetsDouble dec lower q y = asksStrictly lower q n.value) ∨
    ∃ b ∈ inclusive object keyword, ∀ q, asks lower q b.value = true →
      meetsDouble dec lower q y = true ∧ asksStrictly lower q n.value = true

theorem numberKeyword_of_get (h : object.get keyword = some (.num n)) :
    numberKeyword object keyword = some n := by
  simp [numberKeyword, h]

theorem exactLower_keeps (ht : type = nodeType object) (h : exactLower dec object = true) :
    KeepsSide dec object type true "minimum" "exclusiveMinimum" F64.nextUp := by
  simp only [exactLower, guard_iffs] at h
  obtain ⟨hbound, hexclusive⟩ := h
  rw [← ht] at hbound hexclusive
  constructor
  · intro n x hget hx q hq
    simp only [numberKeyword_of_get hget, all_some, hx] at hbound
    simp only [meetsDouble, asks, if_true]
    apply decide_eq_decide.mpr
    by_cases hi : type = some .integer
    · simp only [hi, if_true, guard_iffs] at hbound
      rw [le_iff_ceil_le (hq hi), le_iff_ceil_le (hq hi), hbound]
    · simp only [guard_iffs, hi, if_false] at hbound
      rw [hbound]
  · intro n x y hget hx hy
    simp only [numberKeyword_of_get hget, all_some, hx, bind_some, hy, guard_iffs,
      List.any_eq_true] at hexclusive
    rcases hexclusive with ⟨hi, hceil⟩ | ⟨b, hmem, hlt, hle⟩
    · refine .inl (fun q hq => ?_)
      simp only [meetsDouble, asksStrictly, if_true]
      apply decide_eq_decide.mpr
      rw [le_iff_ceil_le (hq hi), lt_iff_floor_lt (hq hi), hceil]
    · refine .inr ⟨b, hmem, fun q hq => ?_⟩
      simp only [asks, meetsDouble, asksStrictly, if_true, guard_iffs] at hq ⊢
      exact ⟨hle.trans hq, hlt.trans_le hq⟩

theorem exactUpper_keeps (ht : type = nodeType object) (h : exactUpper dec object = true) :
    KeepsSide dec object type false "maximum" "exclusiveMaximum" F64.nextDown := by
  simp only [exactUpper, guard_iffs] at h
  obtain ⟨hbound, hexclusive⟩ := h
  rw [← ht] at hbound hexclusive
  constructor
  · intro n x hget hx q hq
    simp only [numberKeyword_of_get hget, all_some, hx] at hbound
    simp only [meetsDouble, asks, if_bool]
    apply decide_eq_decide.mpr
    by_cases hi : type = some .integer
    · simp only [hi, if_true, guard_iffs] at hbound
      rw [le_iff_le_floor (hq hi), le_iff_le_floor (hq hi), hbound]
    · simp only [guard_iffs, hi, if_false] at hbound
      rw [hbound]
  · intro n x y hget hx hy
    simp only [numberKeyword_of_get hget, all_some, hx, bind_some, hy, guard_iffs,
      List.any_eq_true] at hexclusive
    rcases hexclusive with ⟨hi, hfloor⟩ | ⟨b, hmem, hlt, hle⟩
    · refine .inl (fun q hq => ?_)
      simp only [meetsDouble, asksStrictly, if_bool]
      apply decide_eq_decide.mpr
      rw [le_iff_le_floor (hq hi), lt_iff_lt_ceil (hq hi), hfloor]
    · refine .inr ⟨b, hmem, fun q hq => ?_⟩
      simp only [asks, meetsDouble, asksStrictly, if_bool, guard_iffs] at hq ⊢
      exact ⟨hq.trans hle, hq.trans_lt hlt⟩

theorem side_exact {exclusive moved1 moved2 : String} {first last : Option NumericBound}
    (hkeeps : KeepsSide dec object type lower keyword exclusive move)
    (hfirst : addBound dec object keyword some moved1 lower current path = .ok first)
    (hlast : addBound dec object exclusive move moved2 lower first path = .ok last)
    (hq : ofType type q)
    (hfixed : (current.map NumericBound.value).all (meetsDouble dec lower q) = true →
      ∀ n, fixedNumber object = some n → asks lower q n.value = true) :
    (last.map NumericBound.value).all (meetsDouble dec lower q) =
      ((current.map NumericBound.value).all (meetsDouble dec lower q) &&
        bounded object keyword (asks lower q) &&
        bounded object exclusive (asksStrictly lower q)) := by
  have hone : (first.map NumericBound.value).all (meetsDouble dec lower q) =
      ((current.map NumericBound.value).all (meetsDouble dec lower q) &&
        bounded object keyword (asks lower q)) := by
    rcases addBound_spec hfirst with ⟨hget, rfl⟩ | ⟨n, x, y, hget, hx, hy, hboth⟩
    · simp [bounded, hget]
    · cases hy
      rw [hboth, hkeeps.bound n x hget hx q hq]
      simp [bounded, hget]
  rcases addBound_spec hlast with ⟨hget, rfl⟩ | ⟨n, x, y, hget, hx, hy, hboth⟩
  · rw [hone]
    simp [bounded, hget]
  · rw [hboth, hone]
    simp only [bounded, hget]
    rcases hkeeps.exclusive n x y hget hx hy with hsame | ⟨b, hmem, himplied⟩
    · rw [hsame q hq]
    · -- under the inclusive bounds both are true
      cases hcurrent : (current.map NumericBound.value).all (meetsDouble dec lower q) with
      | false => rfl
      | true =>
        cases hbound : bounded object keyword (asks lower q) with
        | false => simp only [bounded] at hbound; simp [hbound]
        | true =>
          have hb : asks lower q b.value = true := by
            rcases mem_append.mp hmem with hb | hb
            · exact hfixed hcurrent b (by simpa using hb)
            · simp only [numberKeyword, mem_toList] at hb
              split at hb
              · next m hm =>
                cases hb
                simpa [bounded, hm] using hbound
              · simp at hb
          rw [(himplied q hb).1, (himplied q hb).2]

theorem fixed_asks (hs : ScalarSpec dec object type values)
    (hfixed : exactFixed dec object = true) (hn : fixedNumber object = some n)
    (h : ((fixedNumber object).bind dec.parse).all (meetsDouble dec lower q) = true) :
    asks lower q n.value = true := by
  obtain ⟨x, hx⟩ := isSome_iff_exists.mp (hs.parsed n hn)
  have htext : dec.text x = n.value := by simpa [exactFixed, hn, hx] using hfixed
  simpa [hn, hx, meetsDouble, asks, htext] using h

theorem translateNumericBounds_spec (hs : ScalarSpec dec object type values)
    (hout : output.minimum = values.minimum ∧ output.maximum = values.maximum)
    (h : translateNumericBounds dec object type output path = .ok fields)
    (ht : type = some .number ∨ type = some .integer)
    (hfixed : exactFixed dec object = true) (hlower : exactLower dec object = true)
    (hupper : exactUpper dec object = true) :
    fields = { output with minimum := fields.minimum, maximum := fields.maximum } ∧
    ∀ q, ofType type q → boundsAccept dec fields q =
      (boundsAccept dec values q &&
        (atLeast object "minimum" q && atMost object "maximum" q &&
          bounded object "exclusiveMinimum" (fun bound => decide (bound < q)) &&
          bounded object "exclusiveMaximum" (fun bound => decide (q < bound)))) := by
  simp only [translateNumericBounds, if_pos ht, bind_eq_ok] at h
  obtain ⟨low, hlow, high, hhigh, lowest, hlowest, highest, hhighest, h⟩ := h
  have hfields : fields = { output with
      minimum := lowest.map NumericBound.value
      maximum := highest.map NumericBound.value } := by
    split at h
    · simp only [bind_eq_ok, pure_eq_ok] at h
      obtain ⟨-, -, h⟩ := h
      exact h.symm
    · simp only [pure_eq_ok] at h
      exact h.symm
  refine ⟨by rw [hfields], fun q hq => ?_⟩
  have hcurrent : ∀ (bound : Option F64) (keyword : String),
      (bound.map (fun x => NumericBound.mk x keyword)).map NumericBound.value = bound := by
    intro bound keyword
    cases bound <;> rfl
  have hlo := side_exact (exactLower_keeps hs.nodeType hlower) hlow hlowest hq
    (fun hall n hn => by
      rw [hcurrent, hout.1, hs.minimum] at hall
      exact fixed_asks hs hfixed hn hall)
  have hhi := side_exact (exactUpper_keeps hs.nodeType hupper) hhigh hhighest hq
    (fun hall n hn => by
      rw [hcurrent, hout.2, hs.maximum] at hall
      exact fixed_asks hs hfixed hn hall)
  rw [hcurrent, hout.1] at hlo
  rw [hcurrent, hout.2] at hhi
  have hsides : ∀ fields : GoogleFields, boundsAccept dec fields q =
      (fields.minimum.all (meetsDouble dec true q) &&
        fields.maximum.all (meetsDouble dec false q)) := fun _ => rfl
  have hbelow : asks true q = fun bound => decide (bound ≤ q) := rfl
  have habove : asks false q = fun bound => decide (q ≤ bound) := rfl
  have hstrictly : asksStrictly true q = fun bound => decide (bound < q) := rfl
  have hstrictlyAbove : asksStrictly false q = fun bound => decide (q < bound) := rfl
  rw [hsides, hsides, hfields, hlo, hhi, hbelow, habove, hstrictly, hstrictlyAbove]
  simp only [atLeast, atMost]
  ac_rfl

end

/-! ## Keywords without a counterpart -/

theorem onlyNoOp_eq_ok {noOp : Json → Bool} {u : Unit} :
    onlyNoOp object keyword noOp path = .ok u ↔ (object.get keyword).all noOp = true := by
  simp [onlyNoOp]

def AcceptsAll (child : Json → Instance → Bool) : Prop :=
  ∀ schema v, schema.isTrueSchema = true → child schema v = true

/-- What the rejection leaves: on an object nothing is restricted, on a number
there is no step but 1, and only an array changes. -/
structure Unrestricted (object : Object) (type : Option SchemaType)
    (output fields : GoogleFields) (path : SchemaPath) : Prop where
  objects : type = some .object →
    (object.get "additionalProperties").all Json.isTrueSchema = true ∧
    (object.get "unevaluatedProperties").all Json.isTrueSchema = true ∧
    (object.get "patternProperties").all isEmptyObject = true ∧
    (object.get "dependentRequired").all requiresNothing = true ∧
    (object.get "propertyNames").all Json.isTrueSchema = true
  arrays : type = some .array → arrayKeywords object output path = .ok fields
  others : type ≠ some .array → fields = output
  numbers : type = some .number ∨ type = some .integer →
    (object.get "multipleOf").all (isUnitStep type) = true
  refused : refusedKeywords.find? object.has = none

theorem rejectOrDropUnsupported_spec
    (h : rejectOrDropUnsupported object type output path = .ok fields) :
    Unrestricted object type output fields path := by
  simp only [rejectOrDropUnsupported, ok_steps] at h
  obtain ⟨hobject, array, harray, hnumber, h⟩ := h
  have hrest : refusedKeywords.find? object.has = none ∧ array = fields := by
    split at h
    · simp only [throw_eq_ok] at h
    · next hnone =>
      simp only [pure_eq_ok] at h
      exact ⟨hnone, h⟩
  obtain ⟨hrefused, rfl⟩ := hrest
  refine ⟨fun ht => ?_, fun ht => ?_, fun ht => ?_, fun ht => ?_, hrefused⟩
  · simpa only [checkWhen, if_pos ht, objectKeywords, ok_steps, onlyNoOp_eq_ok] using hobject
  · simpa only [arrayOutput, if_pos ht] using harray
  · simp only [arrayOutput, if_neg ht, pure_eq_ok] at harray
    exact harray.symm
  · simpa only [checkWhen, if_pos ht, onlyNoOp_eq_ok] using hnumber

variable {dec : Decimals}

theorem boundFields_cases (h : boundFields dec object type output path = .ok fields) :
    ∃ numeric cardinal,
      translateNumericBounds dec object type output path = .ok numeric ∧
      translateCardinalityFields object type numeric path = .ok cardinal ∧
      Unrestricted object type cardinal fields path := by
  simp only [boundFields, ok_steps] at h
  obtain ⟨numeric, hnumeric, cardinal, hcardinal, last, hlast, -, -, rfl⟩ := h
  exact ⟨numeric, cardinal, hnumeric, hcardinal, rejectOrDropUnsupported_spec hlast⟩

theorem translateNumericBounds_other
    (h : translateNumericBounds dec object type output path = .ok fields)
    (ht : ¬(type = some .number ∨ type = some .integer)) : fields = output := by
  simp only [translateNumericBounds, if_neg ht, pure_eq_ok] at h
  exact h.symm

/-! ## Number types -/

theorem multipleOf_of_unrestricted
    (h : (object.get "multipleOf").all (isUnitStep type) = true) (hq : ofType type q) :
    bounded object "multipleOf" (fun step => decide (step ≠ 0 ∧ (q / step).den = 1)) = true := by
  unfold bounded
  split
  · next n hget =>
    simp only [hget, all_some, isUnitStep, guard_iffs] at h
    have hone : n.value = 1 := by simpa using Number.value_of_asU64 (n := n) h.2
    simp [hone, hq h.1]
  · rfl

theorem number_exact (hs : ScalarSpec dec object type values)
    (hout : output.minimum = values.minimum ∧ output.maximum = values.maximum)
    (h : boundFields dec object type output path = .ok fields)
    (ht : type = some .number ∨ type = some .integer) (hexact : exactNumbers dec object = true) :
    fields = { output with minimum := fields.minimum, maximum := fields.maximum } ∧
    ∀ q, ofType type q → kindAccepts R dec fields (.num q) =
      (boundsAccept dec values q && numberValid object q) := by
  obtain ⟨numeric, cardinal, hnumeric, hcardinal, hrest⟩ := boundFields_cases h
  have hnot : type ≠ some .array := by rintro rfl; simp at ht
  obtain rfl := hrest.others hnot
  have hsame : numeric = fields := by
    rcases ht with rfl | rfl <;>
      simpa only [translateCardinalityFields, pure_eq_ok] using hcardinal
  subst hsame
  simp only [exactNumbers, guard_iffs] at hexact
  obtain ⟨hfixed, hsides⟩ := hexact
  have hboth : exactLower dec object = true ∧ exactUpper dec object = true := by
    rw [← hs.nodeType] at hsides
    rcases ht with rfl | rfl <;> simpa using hsides
  obtain ⟨hkeep, hbounds⟩ :=
    translateNumericBounds_spec hs hout hnumeric ht hfixed hboth.1 hboth.2
  refine ⟨hkeep, fun q hq => ?_⟩
  rw [kindAccepts, hbounds q hq, numberValid,
    multipleOf_of_unrestricted (hrest.numbers ht) hq, Bool.and_true]

/-! ## Strings -/

theorem string_exact (h : boundFields dec object (some .string) output path = .ok fields)
    (hpattern : output.pattern = stringKeyword object "pattern") :
    fields = { output with minLength := fields.minLength, maxLength := fields.maxLength } ∧
    ∀ s, kindAccepts R dec fields (.str s) = stringValid R object s := by
  obtain ⟨numeric, cardinal, hnumeric, hcardinal, hrest⟩ := boundFields_cases h
  obtain rfl := translateNumericBounds_other hnumeric (by simp)
  obtain rfl := hrest.others (by simp)
  simp only [translateCardinalityFields, ok_steps] at hcardinal
  obtain ⟨low, hlow, high, hhigh, rfl⟩ := hcardinal
  refine ⟨rfl, fun s => ?_⟩
  simp only [kindAccepts, stringValid, sizeAccepts, hpattern,
    (countField_spec hlow s.length).1, (countField_spec hhigh s.length).2, Bool.and_assoc]

/-! ## Arrays -/

theorem filter_true (hall : AcceptsAll child) {schema : Json}
    (ht : schema.isTrueSchema = true) (items : List Instance) :
    items.filter (child schema) = items :=
  List.filter_eq_self.mpr (fun item _ => hall schema item ht)

theorem arrayKeywords_spec (hall : AcceptsAll child)
    (h : arrayKeywords object output path = .ok fields) :
    fields = { output with minItems := fields.minItems, maxItems := fields.maxItems } ∧
    (∀ items, (!(object.get "uniqueItems").any (fun value => value.asBool == some true) ||
      Instance.distinct items) = true) ∧
    ∀ items : List Instance, sizeAccepts fields.minItems fields.maxItems items.length =
      (sizeAccepts output.minItems output.maxItems items.length &&
        containsValid child object items) := by
  simp only [arrayKeywords, ok_steps, uniqueItemsField] at h
  obtain ⟨hunique, h⟩ := h
  have hdistinct : ∀ items, (!(object.get "uniqueItems").any
      (fun value => value.asBool == some true) || Instance.distinct items) = true := by
    intro items
    split at hunique
    · next hget => simp [hget]
    · next hget => simp [hget, Json.asBool]
    · simp only [throw_eq_ok] at hunique
    · simp only [throw_eq_ok] at hunique
  refine ⟨?_, hdistinct, ?_⟩
  · split at h
    · simp only [pure_eq_ok] at h
      rw [h]
    · simp only [ok_steps] at h
      obtain ⟨-, low, -, high, -, h⟩ := h
      cases high <;> simp only [pure_eq_ok] at h <;> rw [← h]
  · intro items
    split at h
    · next hget =>
      simp only [pure_eq_ok] at h
      simp [containsValid, hget, h]
    · next schema hget =>
      simp only [ok_steps, guard_iffs] at h
      obtain ⟨htrue, low, hlow, high, hhigh, h⟩ := h
      have hcount : containsValid child object items =
          (decide (low.getD 1 ≤ items.length) && high.all (items.length ≤ ·)) := by
        have hhas := countField_isSome hlow
        simp only [containsValid, hget, filter_true hall htrue,
          (countField_spec hhigh items.length).2, ← hhas, (countField_spec hlow items.length).1]
        cases low <;> simp
      rw [hcount]
      cases high with
      | none =>
        simp only [pure_eq_ok] at h
        simp only [← h, sizeAccepts, mergeCount_lower, Option.all_none, Bool.and_true]
        ac_rfl
      | some =>
        simp only [pure_eq_ok] at h
        simp only [← h, sizeAccepts, mergeCount_lower, mergeCount_upper, all_some]
        ac_rfl

theorem array_exact (hall : AcceptsAll child)
    (h : boundFields dec object (some .array) output path = .ok fields) :
    fields = { output with minItems := fields.minItems, maxItems := fields.maxItems } ∧
    ∀ items, ((object.get "items").all (fun schema => items.all (child schema)) &&
      kindAccepts R dec fields (.arr items)) = arrayValid child object items := by
  obtain ⟨numeric, cardinal, hnumeric, hcardinal, hrest⟩ := boundFields_cases h
  obtain rfl := translateNumericBounds_other hnumeric (by simp)
  simp only [translateCardinalityFields, ok_steps] at hcardinal
  obtain ⟨low, hlow, high, hhigh, rfl⟩ := hcardinal
  obtain ⟨hkeep, hdistinct, hsize⟩ := arrayKeywords_spec hall (hrest.arrays rfl)
  refine ⟨by rw [hkeep], fun items => ?_⟩
  rw [kindAccepts, hsize]
  simp only [arrayValid, hdistinct, sizeAccepts,
    (countField_spec hlow items.length).1, (countField_spec hhigh items.length).2,
    Bool.and_true]
  ac_rfl

/-! ## Objects -/

theorem stringItems_eq {index : Nat} {values : List Json} {strings : List String}
    (h : stringItems path index values = .ok strings) :
    strings = values.filterMap Json.asStr := by
  induction values generalizing index strings with
  | nil =>
    simp only [stringItems, pure_eq_ok] at h
    simp [← h]
  | cons _ _ ih =>
    simp only [stringItems, ok_steps] at h
    obtain ⟨s, hs, rest, hrest, rfl⟩ := h
    rw [filterMap_cons_some hs, ih hrest]

theorem stringArrayField_eq {strings : Option (List String)}
    (h : stringArrayField object keyword path = .ok strings) :
    strings = (object.get keyword).map nameList := by
  unfold stringArrayField at h
  split at h
  · next hget =>
    simp only [pure_eq_ok] at h
    simp [hget, ← h]
  · next value hget =>
    simp only [ok_steps] at h
    obtain ⟨values, hvalues, names, hnames, rfl⟩ := h
    simp [hget, nameList, hvalues, stringItems_eq hnames]

theorem restrictionsValid_of_unrestricted (hall : AcceptsAll child)
    (h : Unrestricted object (some .object) output fields path)
    (members : List (String × Instance)) :
    restrictionsValid R child object members = true := by
  obtain ⟨hadditional, hunevaluated, hpattern, hdependent, hnames⟩ := h.objects rfl
  have hnopattern : memberList object "patternProperties" = [] := by
    unfold memberList
    cases hget : object.get "patternProperties" with
    | none => rfl
    | some value =>
      rw [hget, all_some] at hpattern
      cases value <;> simp_all [isEmptyObject, Json.asObj]
  have hnodependent : ∀ y ∈ memberList object "dependentRequired", nameList y.2 = [] := by
    unfold memberList
    cases hget : object.get "dependentRequired" with
    | none => simp
    | some value =>
      rw [hget, all_some] at hdependent
      intro y hy
      cases value with
      | obj dependencies =>
        have hempty : y.2.asArr.any List.isEmpty = true :=
          all_eq_true.mp (show dependencies.all _ = true from hdependent) y hy
        cases harr : y.2.asArr with
        | none => simp [harr] at hempty
        | some =>
          simp only [harr, any_some, List.isEmpty_iff] at hempty
          simp [nameList, harr, hempty]
      | _ => simp [Json.asObj] at hy
  have hschema : ∀ (keyword : String) (v : Instance),
      (object.get keyword).all Json.isTrueSchema = true →
      (object.get keyword).all (fun schema => child schema v) = true := by
    intro keyword v hk
    cases hget : object.get keyword with
    | none => rfl
    | some schema => exact hall schema v (by simpa [hget] using hk)
  unfold restrictionsValid
  simp only [guard_iffs]
  refine ⟨⟨⟨⟨?_, ?_⟩, ?_⟩, ?_⟩, ?_⟩
  · cases hget : object.get "additionalProperties" with
    | none => rfl
    | some schema =>
      have hs : schema.isTrueSchema = true := by simpa [hget] using hadditional
      simp [hall schema _ hs]
  · simp [hnopattern]
  · rw [all_eq_true]
    intro y hy
    simp [hnodependent y hy]
  · cases hget : object.get "propertyNames" with
    | none => rfl
    | some schema =>
      have hs : schema.isTrueSchema = true := by simpa [hget] using hnames
      simp [hall schema _ hs]
  · cases hget : object.get "unevaluatedProperties" with
    | none => rfl
    | some schema =>
      have hs : schema.isTrueSchema = true := by simpa [hget] using hunevaluated
      simp [hs]

theorem object_exact (hall : AcceptsAll child)
    (h : boundFields dec object (some .object) output path = .ok fields) :
    fields = { output with
      minProperties := fields.minProperties
      maxProperties := fields.maxProperties
      required := fields.required
      propertyOrdering := fields.propertyOrdering } ∧
    ∀ members, (propertiesValid child object members &&
      kindAccepts R dec fields (.obj members)) = objectValid R child object members := by
  obtain ⟨numeric, cardinal, hnumeric, hcardinal, hrest⟩ := boundFields_cases h
  obtain rfl := translateNumericBounds_other hnumeric (by simp)
  obtain rfl := hrest.others (by simp)
  simp only [translateCardinalityFields, ok_steps] at hcardinal
  obtain ⟨low, hlow, high, hhigh, required, hrequired, ordering, -, rfl⟩ := hcardinal
  refine ⟨rfl, fun members => ?_⟩
  have hnames : requiredValid object members =
      required.all (fun names => names.all (has members)) := by
    rw [stringArrayField_eq hrequired]
    cases hget : object.get "required" <;> simp [requiredValid, hget]
  simp only [kindAccepts, objectValid, sizeAccepts, hnames,
    restrictionsValid_of_unrestricted hall hrest, Bool.and_true,
    (countField_spec hlow members.length).1, (countField_spec hhigh members.length).2]
  ac_rfl

end ApiToken.GeminiSchema
