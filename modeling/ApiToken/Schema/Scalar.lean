import ApiToken.Schema.Exact

/-!
# The type, the `const` and the `enum` of a node

What `scalar_fields` makes of them: the declared type, the type that a `const`
or an `enum` leaves, and the instances that the three keywords let through,
in the words of the output.
-/

namespace ApiToken.GeminiSchema

variable {path here : SchemaPath} {object : Object} {type declared : Option SchemaType}
  {value : Json} {v : Instance} {dec : Decimals} {fields output : GoogleFields}
  {allowsNull : Bool} {values : List Json}

@[simp] theorem Instance.hasType_null (v : Instance) : v.hasType .null = v.isNull := by
  cases v <;> rfl

/-! ## The declared type -/

theorem lowercase_eq_null {name : String} :
    lowercase name = "null" ↔ typeNamed name = some .null := by
  unfold typeNamed
  split <;> simp_all

theorem typeAllowsNull_arr (names : List Json) :
    typeAllowsNull (some (.arr names)) = true ↔ SchemaType.null ∈ declaredTypes (.arr names) := by
  simp only [typeAllowsNull, declaredTypes, List.any_eq_true, mem_filterMap]
  constructor
  · rintro ⟨name, hmem, hnull⟩
    refine ⟨name, hmem, ?_⟩
    cases hs : name.asStr with
    | none => simp [hs] at hnull
    | some => simpa [hs, lowercase_eq_null] using hnull
  · rintro ⟨name, hmem, hnull⟩
    refine ⟨name, hmem, ?_⟩
    cases hs : name.asStr with
    | none => simp [hs] at hnull
    | some => simpa [hs, lowercase_eq_null] using hnull

/-- What the loop over the names adds: each type other than `null`, and
whether `null` is there. -/
theorem normalizeTypeList_spec {names : List Json} {index : Nat}
    {known nonNull : List SchemaType} {seen hasNull : Bool}
    (h : normalizeTypeList path index names known seen = .ok (nonNull, hasNull)) :
    (∀ type, type ∈ nonNull ↔ type ∈ known ∨ (type ≠ .null ∧ type ∈ declaredTypes (.arr names))) ∧
    (hasNull = true ↔ seen = true ∨ SchemaType.null ∈ declaredTypes (.arr names)) := by
  induction names generalizing index known seen with
  | nil =>
    simp only [normalizeTypeList, ok_steps] at h
    obtain ⟨rfl, rfl⟩ := h
    simp [declaredTypes]
  | cons name names ih =>
    simp only [normalizeTypeList, ok_steps, normalizeTypeName] at h
    obtain ⟨s, hs, first, hfirst, h⟩ := h
    have hcons : declaredTypes (.arr (name :: names)) =
        first :: declaredTypes (.arr names) := by
      simp [declaredTypes, hs, hfirst]
    rw [hcons]
    split at h
    · next hnull =>
      obtain ⟨h1, h2⟩ := ih h
      subst hnull
      refine ⟨fun type => ?_, by simp [h2]⟩
      rw [h1]
      by_cases ht : type = .null <;> simp [ht]
    · next hnull =>
      split at h
      · next hmem =>
        obtain ⟨h1, h2⟩ := ih h
        refine ⟨fun type => ?_, by simp [h2, Ne.symm hnull]⟩
        rw [h1]
        by_cases ht : type = first
        · simp [ht, hmem]
        · simp [ht]
      · obtain ⟨h1, h2⟩ := ih h
        refine ⟨fun type => ?_, by simp [h2, Ne.symm hnull]⟩
        rw [h1]
        by_cases ht : type = first
        · simp [ht, hnull]
        · simp [ht]

theorem normalizeType_spec (h : normalizeType (object.get "type") path = .ok type) :
    type = declaredType object ∧
    (typeAllowsNull (object.get "type") = true → type ≠ none ∧ type ≠ some .null) ∧
    ∀ v, typeValid object v = type.all (fun type => v.hasType type ||
      (v.isNull && (typeAllowsNull (object.get "type") || nullableIs object true))) := by
  unfold normalizeType at h
  split at h
  · next hget =>
    simp only [pure_eq_ok] at h
    subst h
    simp [declaredType, typeAllowsNull, typeValid, hget]
  · next name hget =>
    simp only [ok_steps, normalizeTypeName] at h
    obtain ⟨named, hnamed, rfl⟩ := h
    refine ⟨?_, by simp [typeAllowsNull, hget], fun v => ?_⟩
    · by_cases hnull : named = .null <;> simp [declaredType, hget, declaredTypes, hnamed, hnull]
    · simp [typeValid, hget, declaredTypes, hnamed, typeAllowsNull]
  · next names hget =>
    simp only [bind_eq_ok] at h
    obtain ⟨⟨nonNull, hasNull⟩, hlist, h⟩ := h
    split at h
    · next named hone hnull =>
      simp only [pure_eq_ok] at h
      obtain ⟨h1, h2⟩ := normalizeTypeList_spec hlist
      simp only at hone hnull
      subst h
      have hmem : ∀ type, type ∈ declaredTypes (.arr names) ↔
          type = named ∨ type = .null := by
        intro type
        have := h1 type
        simp only [hone, mem_singleton, not_mem_nil, false_or] at this
        by_cases ht : type = .null
        · simpa [ht] using h2.mp hnull
        · simpa [ht] using this.symm
      have hnamed : named ≠ .null := by
        have := (h1 named).mp (by simp [hone])
        simpa using And.left (by simpa using this)
      have hallows : typeAllowsNull (some (.arr names)) = true :=
        (typeAllowsNull_arr names).mpr ((hmem _).mpr (.inr rfl))
      refine ⟨?_, by simp [hnamed], fun v => ?_⟩
      · have hfind : (declaredTypes (.arr names)).find? (· ≠ .null) = some named := by
          cases hf : (declaredTypes (.arr names)).find? (· ≠ .null) with
          | none =>
            have := List.find?_eq_none.mp hf named ((hmem _).mpr (.inl rfl))
            simp [hnamed] at this
          | some found =>
            have hin := mem_of_find?_eq_some hf
            have hne := find?_some hf
            rcases (hmem found).mp hin with rfl | rfl
            · rfl
            · simp at hne
        simp only [declaredType, hget, bind_some, hfind, some_or]
      · simp only [typeValid, hget, hallows, Bool.true_or, Bool.and_true, all_some]
        rw [Bool.eq_iff_iff]
        simp only [Bool.or_eq_true, List.any_eq_true, hmem]
        constructor
        · rintro (⟨type, rfl | rfl, ht⟩ | hn)
          · exact .inl ht
          · exact .inr (by simpa using ht)
          · exact .inr (Bool.and_eq_true_iff.mp hn).1
        · rintro (ht | hn)
          · exact .inl ⟨named, .inl rfl, ht⟩
          · exact .inl ⟨.null, .inr rfl, by simpa using hn⟩
    · simp only [throw_eq_ok] at h
  · simp only [throw_eq_ok] at h

/-! ## One value -/

def fixedAccepts (dec : Decimals) (fields : GoogleFields) : Instance → Bool
  | .num q => boundsAccept dec fields q
  | _ => true

theorem denotes_hasType {type : SchemaType} (hd : value.denotes v = true)
    (ht : valueType value = some type) : v.hasType type = true := by
  cases value with
  | num n =>
    cases v with
    | num =>
      simp only [Json.denotes, beq_iff_eq] at hd
      subst hd
      simp only [valueType] at ht
      split at ht
      · next hint =>
        have hn : n.isInteger = true := by
          rcases Bool.or_eq_true_iff.mp hint with h | h
          · exact (Bool.and_eq_true_iff.mp h).1
          · exact Number.isInteger_of_asU64 h
        cases ht
        simp [Instance.hasType, Number.whole_of_isInteger hn]
      · cases ht
        rfl
    | _ => simp [Json.denotes] at hd
  | null | bool b | str s => cases ht; cases v <;> simp_all [Json.denotes, Instance.hasType]
  | arr items | obj members => simp [valueType] at ht

theorem typeValid_of_compatible {inferred : SchemaType}
    (hd : normalizeType (object.get "type") path = .ok declared)
    (hc : requireCompatibleType declared inferred (typeAllowsNull (object.get "type")) here =
      .ok ()) (hv : v.hasType inferred = true) : typeValid object v = true := by
  rw [(normalizeType_spec hd).2.2]
  simp only [requireCompatibleType, failIf_eq_ok, guard_iffs] at hc
  cases declared with
  | none => rfl
  | some =>
    simp only [all_some, guard_iffs] at hc ⊢
    rcases hc with (rfl | ⟨rfl, rfl⟩) | ⟨rfl, hallows⟩
    · exact .inl hv
    · cases v <;> simp_all [Instance.hasType]
    · exact .inr ⟨by simpa using hv, .inl hallows⟩

theorem same_denotes {a b : Json} {type : SchemaType} (hs : a.same b = true)
    (ht : valueType b = some type) (v : Instance) : a.denotes v = b.denotes v := by
  cases b <;> cases a <;> simp_all [Json.same, valueType]

/-- The output of one value. -/
inductive Emits (dec : Decimals) : Json → SchemaType → GoogleFields → Prop where
  | str (s : String) : Emits dec (.str s) .string { enum := some [s] }
  | num {n : Number} {x : F64} {type : SchemaType} (ht : valueType (.num n) = some type)
      (hx : dec.parse n = some x) :
      Emits dec (.num n) type { minimum := some x, maximum := some x }
  | null : Emits dec .null .null {}

theorem Emits.inferred {type : SchemaType} (h : Emits dec value type fields) :
    valueType value = some type := by
  cases h with
  | str s | null => rfl
  | num ht => exact ht

theorem Emits.accepts {type : SchemaType} (h : Emits dec value type fields)
    (hk : ∀ n x, value = .num n → dec.parse n = some x → dec.text x = n.value)
    (v : Instance) :
    (v.hasType type && enumAccepts fields v && fixedAccepts dec fields v) = value.denotes v := by
  cases h with
  | str =>
    cases v with
    | str => simp [Instance.hasType, enumAccepts, fixedAccepts, Json.denotes, eq_comm,
        Bool.beq_eq_decide_eq]
    | _ => simp [Instance.hasType, Json.denotes]
  | null => cases v <;> simp [enumAccepts, fixedAccepts, Json.denotes, Instance.isNull]
  | num ht hx =>
    next n x =>
    rw [Bool.eq_iff_iff]
    constructor
    · intro h
      simp only [guard_iffs] at h
      obtain ⟨⟨htype, -⟩, hb⟩ := h
      cases v with
      | num =>
        simp only [fixedAccepts, boundsAccept, all_some, guard_iffs, hk n x rfl hx] at hb
        simp only [Json.denotes, beq_iff_eq]
        exact le_antisymm hb.1 hb.2
      | _ =>
        simp only [valueType] at ht
        split at ht <;> cases ht <;> simp [Instance.hasType] at htype
    · intro h
      have htype := denotes_hasType h ht
      cases v with
      | num =>
        simp only [Json.denotes, beq_iff_eq] at h
        simp [htype, enumAccepts, fixedAccepts, boundsAccept, hk n x rfl hx, h]
      | _ => simp [Json.denotes] at h

theorem applyConst_spec
    (h : applyConst dec value declared allowsNull {} path = .ok (type, fields)) :
    ∃ inferred, valueType value = some inferred ∧ type = some inferred ∧
      requireCompatibleType declared inferred allowsNull (path.child "const") = .ok () ∧
      Emits dec value inferred fields := by
  simp only [applyConst, ok_steps] at h
  obtain ⟨inferred, hinferred, hc, h⟩ := h
  refine ⟨inferred, hinferred, ?_⟩
  split at h
  · simp only [ok_steps] at h
    cases hinferred
    exact ⟨h.1.symm, hc, h.2 ▸ .str _⟩
  · simp only [ok_steps, finiteNumber] at h
    obtain ⟨x, hx, rfl, rfl⟩ := h
    exact ⟨rfl, hc, .num hinferred hx⟩
  · simp only [ok_steps] at h
    cases hinferred
    exact ⟨h.1.symm, hc, h.2 ▸ .null⟩
  · simp only [throw_eq_ok] at h

/-! ## Several values -/

/-- The strings, and one `null`, among the values. -/
def stringsAndNull (values : List Json) : Nat :=
  (values.filterMap Json.asStr).length + if values.any Json.isNull then 1 else 0

theorem stringsAndNull_cons_le (value : Json) (values : List Json) :
    stringsAndNull (value :: values) ≤ stringsAndNull values + 1 := by
  unfold stringsAndNull
  cases hs : value.asStr with
  | none =>
    rw [filterMap_cons_none hs]
    split <;> split <;> omega
  | some =>
    have hn : value.isNull = false := by cases value <;> simp_all [Json.asStr, Json.isNull]
    rw [filterMap_cons_some hs, any_cons, hn, Bool.false_or, length_cons]
    omega

theorem stringsAndNull_cons_other (hs : value.asStr = none) (hn : value.isNull = false)
    (values : List Json) : stringsAndNull (value :: values) = stringsAndNull values := by
  simp [stringsAndNull, filterMap_cons_none hs, hn]

theorem stringsAndNull_le (values : List Json) : stringsAndNull values ≤ values.length := by
  induction values with
  | nil => simp [stringsAndNull]
  | cons value values =>
    have := stringsAndNull_cons_le value values
    simp only [length_cons]
    omega

theorem stringsAndNull_lt (hmem : value ∈ values) (hs : value.asStr = none)
    (hn : value.isNull = false) : stringsAndNull values < values.length := by
  induction values with
  | nil => simp at hmem
  | cons head values ih =>
    simp only [length_cons]
    rcases mem_cons.mp hmem with rfl | hmem
    · rw [stringsAndNull_cons_other hs hn]
      have := stringsAndNull_le values
      omega
    · have := stringsAndNull_cons_le head values
      have := ih hmem
      omega

/-- Where the strings and one `null` are as many as the values, there is
nothing else among them. -/
theorem strings_and_null (h : stringsAndNull values = values.length) :
    ∀ value ∈ values, (∃ s, value = .str s) ∨ value = .null := by
  intro value hmem
  by_contra hother
  have := stringsAndNull_lt hmem
    (by cases value <;> simp_all [Json.asStr]) (by cases value <;> simp_all [Json.isNull])
  omega

/-- What remains of `null` among the values. -/
def effectiveNull (values : List Json) (declared : Option SchemaType) (allowsNull : Bool) :
    Bool :=
  values.any Json.isNull && (declared.isNone || declared = some .null || allowsNull)

/-- The output of an `enum`. -/
inductive EmitsEnum (dec : Decimals) (declared : Option SchemaType) (allowsNull : Bool) :
    List Json → SchemaType → GoogleFields → Prop where
  | one {value : Json} {type : SchemaType} {fields : GoogleFields} {n : Number}
      {here : SchemaPath} (hv : value = .num n) (he : Emits dec value type fields)
      (hc : requireCompatibleType declared type allowsNull here = .ok ()) :
      EmitsEnum dec declared allowsNull [value] type fields
  | strings {values : List Json}
      (honly : ∀ value ∈ values, (∃ s, value = .str s) ∨ value = .null)
      (htype : declared.all (· = .string) = true)
      (hsome : values.any (fun value => value.asStr.isSome) = true) :
      EmitsEnum dec declared allowsNull values .string
        { enum := some (values.filterMap Json.asStr)
          nullable := if effectiveNull values declared allowsNull then some true else none }
  | null {values : List Json}
      (honly : ∀ value ∈ values, (∃ s, value = .str s) ∨ value = .null)
      (hnone : (declared.all (· = .string) &&
        values.any (fun value => value.asStr.isSome)) = false)
      (hnull : effectiveNull values declared allowsNull = true) :
      EmitsEnum dec declared allowsNull values .null {}

theorem filterMap_asStr_isEmpty (values : List Json) :
    (values.filterMap Json.asStr).isEmpty = !values.any (fun value => value.asStr.isSome) := by
  induction values with
  | nil => rfl
  | cons value _ ih =>
    cases hs : value.asStr with
    | none => simp [filterMap_cons_none hs, hs, ih]
    | some => simp [filterMap_cons_some hs, hs]

theorem applyStringEnum_spec (hcount : stringsAndNull values = values.length)
    (h : applyStringEnum (values.filterMap Json.asStr) (values.any Json.isNull) declared
      allowsNull {} path = .ok (type, fields)) :
    ∃ enumType, type = some enumType ∧
      EmitsEnum dec declared allowsNull values enumType fields := by
  have honly := strings_and_null hcount
  have hempty := filterMap_asStr_isEmpty values
  simp only [applyStringEnum, ok_steps] at h
  obtain ⟨hne, h⟩ := h
  by_cases hd : declared.all (· = .string) = true
  · simp only [hd, if_true, hempty, Bool.not_eq_true'] at hne h
    cases hany : values.any (fun value => value.asStr.isSome) with
    | true =>
      simp only [hany, Bool.true_eq_false, if_false, pure_eq_ok, Prod.mk.injEq] at h
      exact ⟨.string, h.1.symm, h.2 ▸ .strings honly hd hany⟩
    | false =>
      simp only [hany, if_true, ok_steps] at h
      simp only [hany, Bool.not_false, Bool.true_and, Bool.not_eq_false'] at hne
      exact ⟨.null, h.1.symm, h.2 ▸ .null honly (by simp [hany]) hne⟩
  · simp only [hd, List.isEmpty_nil, if_true, Bool.false_eq_true, if_false, ok_steps,
      Bool.true_and, Bool.not_eq_false'] at hne h
    exact ⟨.null, h.1.symm, h.2 ▸ .null honly (by simp [hd]) hne⟩

theorem applyEnum_spec
    (h : applyEnum dec value declared allowsNull {} path = .ok (type, fields)) :
    ∃ values enumType, value = .arr values ∧ type = some enumType ∧
      EmitsEnum dec declared allowsNull values enumType fields := by
  simp only [applyEnum, ok_steps] at h
  obtain ⟨values, hvalues, h⟩ := h
  have harr : value = .arr values := by cases value <;> simp_all [Json.asArr]
  change (if stringsAndNull values = values.length then _ else _) = _ at h
  by_cases hcount : stringsAndNull values = values.length
  · rw [if_pos hcount] at h
    obtain ⟨enumType, ht, he⟩ := applyStringEnum_spec hcount h
    exact ⟨values, enumType, harr, ht, he⟩
  · rw [if_neg hcount] at h
    split at h
    · next single =>
      simp only [ok_steps] at h
      obtain ⟨inferred, hinferred, hc, h⟩ := h
      split at h
      · simp only [ok_steps, finiteNumber] at h
        obtain ⟨x, hx, rfl, rfl⟩ := h
        exact ⟨_, inferred, harr, rfl, .one rfl (.num hinferred hx) hc⟩
      · -- a single `null` is taken by the count before
        simp [stringsAndNull, Json.asStr, Json.isNull] at hcount
      · simp only [throw_eq_ok] at h
    · simp only [throw_eq_ok] at h

/-! ## `const`, `enum` and `nullable` -/

/-- What a node's `const` or `enum` becomes. -/
inductive EmitsValues (dec : Decimals) (object : Object) (declared : Option SchemaType) :
    Option SchemaType → GoogleFields → Prop where
  | const {value : Json} {type : SchemaType} {fields : GoogleFields} {here : SchemaPath}
      (hget : object.get "const" = some value) (he : Emits dec value type fields)
      (hc : requireCompatibleType declared type (typeAllowsNull (object.get "type")) here =
        .ok ())
      (henum : ∀ v, value.denotes v = true → enumValid object v = true) :
      EmitsValues dec object declared (some type) fields
  | enum {values : List Json} {type : SchemaType} {fields : GoogleFields}
      (hconst : object.get "const" = none) (hget : object.get "enum" = some (.arr values))
      (he : EmitsEnum dec declared (typeAllowsNull (object.get "type")) values type fields) :
      EmitsValues dec object declared (some type) fields
  | none (hconst : object.get "const" = none) (henum : object.get "enum" = none) :
      EmitsValues dec object declared declared {}

theorem constOrEnum_spec
    (h : constOrEnum dec object declared (typeAllowsNull (object.get "type")) path =
      .ok (type, fields)) : EmitsValues dec object declared type fields := by
  unfold constOrEnum at h
  split at h
  · next value enumValue hconst henum =>
    simp only [ok_steps, guard_iffs] at h
    obtain ⟨values, hvalues, -, hsame, h⟩ := h
    obtain ⟨inferred, hinferred, rfl, hc, he⟩ := applyConst_spec h
    refine .const hconst he hc (fun v hv => ?_)
    obtain ⟨candidate, hmem, hcandidate⟩ := List.any_eq_true.mp hsame
    have harr : enumValue = .arr values := by cases enumValue <;> simp_all [Json.asArr]
    simp only [enumValid, henum, harr, List.any_eq_true]
    exact ⟨candidate, hmem, by rw [same_denotes hcandidate hinferred, hv]⟩
  · next value hconst henum =>
    obtain ⟨inferred, hinferred, rfl, hc, he⟩ := applyConst_spec h
    exact .const hconst he hc (fun v _ => by simp [enumValid, henum])
  · next value hconst henum =>
    obtain ⟨values, enumType, rfl, rfl, he⟩ := applyEnum_spec h
    exact .enum hconst henum he
  · next hconst henum =>
    simp only [ok_steps] at h
    obtain ⟨rfl, rfl⟩ := h
    exact .none hconst henum

/-- `nullable` of a node: given by the type and the keyword, or, beside a
`const` or an `enum`, at most taken back. -/
theorem nullableField_spec
    (h : nullableField object type allowsNull output path = .ok fields) :
    fields = { output with nullable := fields.nullable } ∧
    (object.get "const" = none → object.get "enum" = none → output.nullable = none →
      (fields.nullable == some true) = (allowsNull || nullableIs object true)) ∧
    (object.get "const" ≠ none ∨ object.get "enum" ≠ none →
      (fields.nullable == some true) =
        (output.nullable == some true && !nullableIs object false)) := by
  simp only [nullableField, bind_eq_ok] at h
  obtain ⟨explicit, hexplicit, h⟩ := h
  have hread : ∀ b, nullableIs object b = decide (explicit = some b) := by
    intro b
    unfold optionalBool at hexplicit
    split at hexplicit
    · next hget =>
      simp only [pure_eq_ok] at hexplicit
      simp [nullableIs, hget, ← hexplicit]
    · next c hget =>
      simp only [pure_eq_ok] at hexplicit
      simp [nullableIs, hget, ← hexplicit, Json.asBool, Bool.beq_eq_decide_eq]
    · simp only [throw_eq_ok] at hexplicit
  simp only [hread]
  by_cases hhas : (!object.has "const" && !object.has "enum") = true
  · rw [if_pos hhas] at h
    simp only [Object.has, guard_iffs, isSome_eq_false_iff, isNone_iff_eq_none] at hhas
    simp only [hhas, ne_eq, not_true_eq_false, or_self, false_imp_iff, and_true, forall_const]
    split at h
    · next hreq =>
      simp only [pure_eq_ok] at h
      subst h
      simpa using fun _ => hreq
    · next hreq =>
      simp only [guard_iffs, not_or, Bool.not_eq_true] at hreq
      split at h
      · simp only [pure_eq_ok] at h
        subst h
        simp [hreq]
      · simp only [pure_eq_ok] at h
        subst h
        simp +contextual [hreq]
  · rw [if_neg hhas] at h
    have hone : ¬(object.get "const" = none ∧ object.get "enum" = none) := by
      intro hnone
      simp [Object.has, hnone] at hhas
    refine ⟨?_, fun h1 h2 => absurd ⟨h1, h2⟩ hone, fun _ => ?_⟩
    · split at h
      · split at h
        · simp only [throw_eq_ok] at h
        · simp only [pure_eq_ok] at h
          subst h
          rfl
      · split at h
        · simp only [pure_eq_ok] at h
          subst h
          rfl
        · simp only [pure_eq_ok] at h
          subst h
          rfl
    · split at h
      · next hfalse =>
        split at h
        · simp only [throw_eq_ok] at h
        · simp only [pure_eq_ok] at h
          subst h
          simp [hfalse]
      · next hfalse =>
        split at h
        · next hreq =>
          simp only [pure_eq_ok] at h
          subst h
          have hout : output.nullable ≠ some true := by
            simpa using (Bool.and_eq_true_iff.mp hreq).2
          simp [hout]
        · simp only [pure_eq_ok] at h
          subst h
          simp [hfalse]

/-! ## The three keywords together -/

/-- What `scalarFields` leaves of the values, before the annotations. -/
structure ScalarSpec (dec : Decimals) (object : Object) (type : Option SchemaType)
    (fields : GoogleFields) : Prop where
  nodeType : type = nodeType object
  /-- A fixed number is both bounds. -/
  minimum : fields.minimum = (fixedNumber object).bind dec.parse
  maximum : fields.maximum = (fixedNumber object).bind dec.parse
  parsed : ∀ n, fixedNumber object = some n → (dec.parse n).isSome = true
  /-- Nothing else is set. -/
  plain : fields =
    { enum := fields.enum
      nullable := fields.nullable
      minimum := fields.minimum
      maximum := fields.maximum }
  adds : fields.nullable = some true → addsNull object = true
  valid : ∀ v, (typeValid object v && constValid object v && enumValid object v) =
    ((fields.nullable == some true && v.isNull) ||
      (type.all (fun type => v.hasType type) && enumAccepts fields v &&
        fixedAccepts dec fields v))

theorem Emits.plain {type : SchemaType} (h : Emits dec value type fields) :
    fields.nullable = none ∧ fields =
      { enum := fields.enum
        nullable := fields.nullable
        minimum := fields.minimum
        maximum := fields.maximum } := by
  cases h <;> exact ⟨rfl, rfl⟩

theorem Emits.bounds {type : SchemaType} (h : Emits dec value type fields) :
    (∀ n, value = .num n → fields.minimum = dec.parse n ∧ fields.maximum = dec.parse n) ∧
    ((∀ n, value ≠ .num n) → fields.minimum = none ∧ fields.maximum = none) := by
  cases h with
  | str s | null => exact ⟨nofun, fun _ => ⟨rfl, rfl⟩⟩
  | num _ hx =>
    refine ⟨fun n hn => ?_, fun hne => absurd rfl (hne _)⟩
    cases hn
    exact ⟨hx.symm, hx.symm⟩

theorem scalar_value {type : SchemaType}
    (hd : normalizeType (object.get "type") path = .ok declared)
    (he : Emits dec value type fields)
    (hc : requireCompatibleType declared type (typeAllowsNull (object.get "type")) here =
      .ok ()) (hnode : nodeType object = some type)
    (hnum : fixedNumber object = match value with | .num n => some n | _ => none)
    (hvalues : ∀ v, (constValid object v && enumValid object v) = value.denotes v)
    (hkeep : output = { fields with nullable := output.nullable })
    (hnull : (output.nullable == some true) =
      (fields.nullable == some true && !nullableIs object false))
    (hfixed : exactFixed dec object = true) :
    ScalarSpec dec object (some type) output := by
  have hnot : (output.nullable == some true) = false := by simp [hnull, he.plain.1]
  have hbounds := he.bounds
  have hparts : output.enum = fields.enum ∧ output.minimum = fields.minimum ∧
      output.maximum = fields.maximum := by
    rw [hkeep]
    exact ⟨rfl, rfl, rfl⟩
  have hside : output.minimum = (fixedNumber object).bind dec.parse ∧
      output.maximum = (fixedNumber object).bind dec.parse := by
    rw [hparts.2.1, hparts.2.2, hnum]
    cases value with
    | num n => simpa using hbounds.1 n rfl
    | _ => simpa using hbounds.2 nofun
  refine ⟨hnode.symm, hside.1, hside.2, fun n hn => ?_, ?_, ?_, fun v => ?_⟩
  · rw [hnum] at hn
    cases he with
    | num _ hx =>
      cases hn
      simp [hx]
    | _ => simp at hn
  · rw [hkeep, he.plain.2]
  · intro h
    simp [h] at hnot
  · have haccepts := he.accepts (fun n x hv hx => by
      subst hv
      simpa [exactFixed, hnum, hx] using hfixed) v
    have henum : enumAccepts output v = enumAccepts fields v := by
      simp only [enumAccepts, hparts.1]
    have hfixed : fixedAccepts dec output v = fixedAccepts dec fields v := by
      cases v <;> simp [fixedAccepts, boundsAccept, hparts.2.1, hparts.2.2]
    rw [hnot, Bool.false_and, Bool.false_or, all_some, henum, hfixed, haccepts,
      Bool.and_assoc, hvalues]
    cases hv : value.denotes v with
    | false => rw [Bool.and_false]
    | true => rw [typeValid_of_compatible hd hc (denotes_hasType hv he.inferred), Bool.and_self]

/-! ### Strings and `null` -/

section

variable (honly : ∀ value ∈ values, (∃ s, value = .str s) ∨ value = .null)
include honly

theorem any_denotes (v : Instance) :
    values.any (fun value => value.denotes v) =
      match v with
      | .null => values.any Json.isNull
      | .str s => (values.filterMap Json.asStr).contains s
      | _ => false := by
  induction values with
  | nil => cases v <;> rfl
  | cons value values ih =>
    have ih := ih (fun other hmem => honly other (mem_cons_of_mem _ hmem))
    rcases honly value mem_cons_self with ⟨s, rfl⟩ | rfl
    · have hcons : (Json.str s :: values).filterMap Json.asStr =
          s :: values.filterMap Json.asStr := filterMap_cons_some rfl
      rw [any_cons, ih, hcons, any_cons]
      cases v <;> simp [Json.denotes, Json.isNull, eq_comm, Bool.beq_eq_decide_eq]
    · have hcons : (Json.null :: values).filterMap Json.asStr =
          values.filterMap Json.asStr := filterMap_cons_none rfl
      rw [any_cons, ih, hcons, any_cons]
      cases v <;> simp [Json.denotes, Json.isNull]

theorem not_one_number (n : Number) : values ≠ [.num n] := by
  rintro rfl
  simpa using honly (.num n) mem_cons_self

theorem enumType_of_strings :
    enumType declared values =
      if declared.all (· = .string) && values.any (fun value => value.asStr.isSome) then
        some .string
      else some .null := by
  unfold enumType
  split
  · next n => exact absurd rfl (not_one_number honly n)
  · rfl

theorem fixedNumber_of_strings (hconst : object.get "const" = none)
    (hget : object.get "enum" = some (.arr values)) :
    fixedNumber object = none := by
  unfold fixedNumber
  rw [hconst, hget]
  split
  · simp_all
  · simp_all
  · next n _ heq =>
    simp only [some.injEq, Json.arr.injEq] at heq
    exact absurd heq (not_one_number honly n)
  · rfl

end

theorem scalar_enum_strings (hd : normalizeType (object.get "type") path = .ok declared)
    (hconst : object.get "const" = none) (hget : object.get "enum" = some (.arr values))
    (honly : ∀ value ∈ values, (∃ s, value = .str s) ∨ value = .null)
    (htype : declared.all (· = .string) = true)
    (hsome : values.any (fun value => value.asStr.isSome) = true)
    (hkeep : output = { enum := some (values.filterMap Json.asStr),
                        nullable := output.nullable })
    (hnull : (output.nullable == some true) =
      (effectiveNull values declared (typeAllowsNull (object.get "type")) &&
        !nullableIs object false)) (hexact : exactEnum object = true) :
    ScalarSpec dec object (some .string) output := by
  obtain ⟨hdeclared, -, htypeValid⟩ := normalizeType_spec hd
  have hnode : nodeType object = some .string := by
    simp [nodeType, hconst, hget, enumType_of_strings honly, ← hdeclared, htype, hsome]
  have hfixed := fixedNumber_of_strings honly hconst hget
  have hparts : output.enum = some (values.filterMap Json.asStr) ∧
      output.minimum = none ∧ output.maximum = none := by
    rw [hkeep]
    exact ⟨rfl, rfl, rfl⟩
  have hcases : declared = none ∨ declared = some .string := by
    cases declared with
    | none => exact .inl rfl
    | some => exact .inr (congrArg some (by simpa using htype))
  refine ⟨hnode.symm, by simp [hparts, hfixed], by simp [hparts, hfixed], by simp [hfixed],
    ?_, ?_, fun v => ?_⟩
  · rw [hkeep]
  · intro h
    have heff : effectiveNull values declared (typeAllowsNull (object.get "type")) = true := by
      simp only [h, beq_self_eq_true] at hnull
      exact (Bool.and_eq_true_iff.mp hnull.symm).1
    have hnotNull : declared ≠ some .null := by rcases hcases with rfl | rfl <;> simp
    simp only [effectiveNull, guard_iffs, hnotNull, or_false] at heff
    simp only [addsNull, hconst, hget, hnode, beq_self_eq_true, Bool.and_true, ← hdeclared,
      heff.1, Bool.true_and, guard_iffs]
    exact heff.2
  · have hvalues : (constValid object v && enumValid object v) =
        values.any (fun value => value.denotes v) := by
      simp [constValid, hconst, enumValid, hget]
    rw [Bool.and_assoc, hvalues, any_denotes honly, htypeValid]
    cases v with
    | str s =>
      have hs : declared.all (fun type => (Instance.str s).hasType type ||
          ((Instance.str s).isNull && (typeAllowsNull (object.get "type") ||
            nullableIs object true))) = true := by
        rcases hcases with rfl | rfl <;> rfl
      rw [hs]
      simp [Instance.isNull, Instance.hasType, enumAccepts, fixedAccepts, hparts]
    | null =>
      -- `exactEnum`: `nullable` does not change what the type says of `null`
      simp only [exactEnum, enumValues, Object.has, hconst, hget, hnode, ← hdeclared,
        isSome_none, if_bool, bind_some, Json.asArr, all_some, beq_self_eq_true,
        Bool.and_true] at hexact
      rw [hnull]
      unfold effectiveNull
      generalize values.any Json.isNull = hasNull at hexact ⊢
      generalize typeAllowsNull (object.get "type") = allowsNull at hexact ⊢
      rcases hcases with hcase | hcase <;> rw [hcase] at hexact ⊢
      · simp only [isSome_none, Bool.false_and] at hexact
        revert hexact
        cases hasNull <;> simp +contextual [Instance.isNull, Instance.hasType]
      · simp only [isSome_some, Bool.true_and] at hexact
        revert hexact
        cases hasNull <;> cases allowsNull <;>
          simp +contextual [Instance.isNull, Instance.hasType]
    | _ => simp [Instance.isNull, Instance.hasType]

theorem scalar_enum_null (hd : normalizeType (object.get "type") path = .ok declared)
    (hconst : object.get "const" = none) (hget : object.get "enum" = some (.arr values))
    (honly : ∀ value ∈ values, (∃ s, value = .str s) ∨ value = .null)
    (hnone : (declared.all (· = .string) && values.any (fun value => value.asStr.isSome)) = false)
    (heff : effectiveNull values declared (typeAllowsNull (object.get "type")) = true)
    (hkeep : output = { nullable := output.nullable })
    (hnull : (output.nullable == some true) = false) :
    ScalarSpec dec object (some .null) output := by
  obtain ⟨hdeclared, -, htypeValid⟩ := normalizeType_spec hd
  have hnode : nodeType object = some .null := by
    simp [nodeType, hconst, hget, enumType_of_strings honly, ← hdeclared, hnone]
  have hfixed := fixedNumber_of_strings honly hconst hget
  have hparts : output.enum = none ∧ output.minimum = none ∧ output.maximum = none := by
    rw [hkeep]
    exact ⟨rfl, rfl, rfl⟩
  refine ⟨hnode.symm, by simp [hparts, hfixed], by simp [hparts, hfixed], by simp [hfixed],
    ?_, ?_, fun v => ?_⟩
  · rw [hkeep]
  · intro h
    simp [h] at hnull
  · have hvalues : (constValid object v && enumValid object v) =
        values.any (fun value => value.denotes v) := by
      simp [constValid, hconst, enumValid, hget]
    simp only [effectiveNull, guard_iffs] at heff
    rw [Bool.and_assoc, hvalues, any_denotes honly, htypeValid, hnull]
    clear hkeep
    cases v with
    | str s =>
      have hs : (values.filterMap Json.asStr).contains s = false ∨
          declared.all (fun type => (Instance.str s).hasType type) = false := by
        rcases Bool.and_eq_false_iff.mp hnone with h | h
        · refine .inr ?_
          clear htypeValid hdeclared
          cases declared with
          | none => simp at h
          | some type => cases type <;> simp [Instance.hasType] at h ⊢
        · have hempty := filterMap_asStr_isEmpty values
          rw [h] at hempty
          simp [List.isEmpty_iff.mp hempty]
      simp only [Instance.isNull, Bool.false_and, Bool.or_false, Bool.and_false,
        all_some, Instance.hasType]
      rcases hs with h | h
      · rw [h, Bool.and_false]
      · exact Bool.and_eq_false_iff.mpr (.inl h)
    | null =>
      have hs : declared.all (fun type => Instance.null.hasType type ||
          (Instance.null.isNull && (typeAllowsNull (object.get "type") ||
            nullableIs object true))) = true := by
        cases declared with
        | none => rfl
        | some =>
          rcases heff.2 with (h | h) | h
          · simp at h
          · cases h
            rfl
          · simp [Instance.isNull, h]
      rw [hs, heff.1]
      simp [Instance.isNull, enumAccepts, fixedAccepts, hparts]
    | _ => simp [Instance.isNull]

/-! ### Any node -/

theorem stringField_eq {keyword : String} {value : Option String}
    (h : stringField object keyword path = .ok value) :
    value = stringKeyword object keyword := by
  unfold stringField at h
  split at h
  · next hget =>
    simp only [pure_eq_ok] at h
    simp [stringKeyword, hget, ← h]
  · next s hget =>
    simp only [pure_eq_ok] at h
    simp [stringKeyword, hget, Json.asStr, ← h]
  · simp only [throw_eq_ok] at h

theorem scalar_none (hd : normalizeType (object.get "type") path = .ok declared)
    (hconst : object.get "const" = none) (henum : object.get "enum" = none)
    (hkeep : output = { nullable := output.nullable })
    (hnull : (output.nullable == some true) =
      (typeAllowsNull (object.get "type") || nullableIs object true)) :
    ScalarSpec dec object declared output := by
  obtain ⟨hdeclared, -, htypeValid⟩ := normalizeType_spec hd
  have hfixed : fixedNumber object = none := by simp [fixedNumber, hconst, henum]
  have hparts : output.enum = none ∧ output.minimum = none ∧ output.maximum = none := by
    rw [hkeep]
    exact ⟨rfl, rfl, rfl⟩
  refine ⟨?_, by simp [hparts, hfixed], by simp [hparts, hfixed], by simp [hfixed],
    ?_, ?_, fun v => ?_⟩
  · simp [nodeType, hconst, henum, hdeclared]
  · rw [hkeep]
  · intro h
    rw [h] at hnull
    simpa [addsNull, hconst, henum] using hnull.symm
  · have hvalues : (constValid object v && enumValid object v) = true := by
      simp [constValid, hconst, enumValid, henum]
    have hopen : (enumAccepts output v && fixedAccepts dec output v) = true := by
      cases v <;> simp [enumAccepts, fixedAccepts, boundsAccept, hparts]
    rw [Bool.and_assoc, hvalues, Bool.and_assoc, hopen, htypeValid, hnull]
    cases declared with
    | none => simp
    | some =>
      simp only [all_some, Bool.and_true]
      rw [Bool.or_comm, Bool.and_comm v.isNull]

theorem scalarFields_spec (h : scalarFields dec object path = .ok (type, fields))
    (hfixed : exactFixed dec object = true) (henum : exactEnum object = true) :
    ∃ values, ScalarSpec dec object type values ∧ fields =
      { values with
        type := type
        title := fields.title
        description := fields.description
        format := stringKeyword object "format"
        pattern := if type = some .string then stringKeyword object "pattern" else none
        default := fields.default
        example_ := fields.example_ } := by
  simp only [scalarFields, ok_steps] at h
  obtain ⟨declared, hd, ⟨emitted, output⟩, hvalues, nullable, hnullable, annotated,
    hannotated, rfl, rfl⟩ := h
  obtain ⟨hkeep, hplain, hvaluesNull⟩ := nullableField_spec hnullable
  refine ⟨{ output with nullable := nullable.nullable }, ?_, ?_⟩
  · cases constOrEnum_spec hvalues with
    | const hget he hc hall =>
      next value T here =>
      refine scalar_value hd he hc (by simp [nodeType, hget, he.inferred]) ?_
        (fun v => ?_) rfl (hvaluesNull (.inl (by simp [hget]))) hfixed
      · cases value <;> simp [fixedNumber, hget]
      · cases hv : value.denotes v with
        | false => simp [constValid, hget, hv]
        | true => simp [constValid, hget, hv, hall v hv]
    | enum hconst hget he =>
      have hnull := hvaluesNull (.inr (by simp [hget]))
      cases he with
      | one hv he hc =>
        next value n here =>
        subst hv
        exact scalar_value hd he hc
          (by simp [nodeType, hconst, hget, enumType, he.inferred])
          (by simp [fixedNumber, hconst, hget])
          (fun v => by simp [constValid, hconst, enumValid, hget]) rfl hnull hfixed
      | strings honly htype hsome =>
        refine scalar_enum_strings hd hconst hget honly htype hsome rfl ?_ henum
        rw [hnull]
        cases effectiveNull _ declared (typeAllowsNull (object.get "type")) <;> simp
      | null honly hnone heff =>
        exact scalar_enum_null hd hconst hget honly hnone heff rfl (by simpa using hnull)
    | none hconst hnone => exact scalar_none hd hconst hnone rfl (hplain hconst hnone rfl)
  · simp only [annotations, ok_steps] at hannotated
    obtain ⟨title, htitle, description, hdescription, format, hformat, pattern, hpattern,
      rfl⟩ := hannotated
    rw [stringField_eq hformat, stringField_eq hpattern, hkeep]

end ApiToken.GeminiSchema
