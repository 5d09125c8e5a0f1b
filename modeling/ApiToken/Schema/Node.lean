import ApiToken.Schema.Kinds

/-!
# One node

A translated node accepts what the schema's node does, given that its
translated subschemas do.
-/

namespace ApiToken.GeminiSchema

variable {dec : Decimals} {object : Object} {path : SchemaPath}
  {type : Option SchemaType} {output fields : GoogleFields} {R : Reading}
  {child : Json → Instance → Bool} {childOut : GoogleSchema → Instance → Bool}
  {properties : Option (List (String × GoogleSchema))} {items : Option GoogleSchema}
  {anyOf : Option (List GoogleSchema)}

/-- The translated subschemas of a node accept what its subschemas do. -/
structure PartsAgree (child : Json → Instance → Bool) (childOut : GoogleSchema → Instance → Bool)
    (object : Object) (type : Option SchemaType)
    (properties : Option (List (String × GoogleSchema))) (items : Option GoogleSchema)
    (anyOf : Option (List GoogleSchema)) : Prop where
  properties : ∀ members : List (String × Instance),
    properties.all (fun properties => properties.all (fun property =>
      (members.lookup property.1).all (childOut property.2))) =
    (type != some .object || propertiesValid child object members)
  items : ∀ values : List Instance,
    items.all (fun schema => values.all (childOut schema)) =
    (type != some .array ||
      (object.get "items").all (fun schema => values.all (child schema)))
  anyOf : ∀ v, anyOfAccepts childOut anyOf v = anyOfValid child object v

/-- The output before its bounds: the values, the annotations, no bound. -/
structure Unbounded (object : Object) (type : Option SchemaType)
    (values output : GoogleFields) : Prop where
  typed : output.type = type
  enum : output.enum = values.enum
  nullable : output.nullable = values.nullable
  format : output.format = stringKeyword object "format"
  pattern : output.pattern =
    if type = some .string then stringKeyword object "pattern" else none
  minimum : output.minimum = values.minimum
  maximum : output.maximum = values.maximum
  sizes : output.minLength = none ∧ output.maxLength = none ∧ output.minItems = none ∧
    output.maxItems = none ∧ output.minProperties = none ∧ output.maxProperties = none
  required : output.required = none

theorem unbounded_of_scalarFields (h : scalarFields dec object path = .ok (type, output))
    (hfixed : exactFixed dec object = true) (henum : exactEnum object = true) :
    ∃ values, ScalarSpec dec object type values ∧ Unbounded object type values output := by
  obtain ⟨values, hs, hout⟩ := scalarFields_spec h hfixed henum
  refine ⟨values, hs, ?_⟩
  rw [hout, hs.plain]
  exact ⟨rfl, rfl, rfl, rfl, rfl, rfl, rfl, ⟨rfl, rfl, rfl, rfl, rfl, rfl⟩, rfl⟩

theorem kindValid_of_no_keyword (h : kindKeywords.find? object.has = none) (v : Instance) :
    kindValid R child object v = true := by
  have hget : ∀ keyword ∈ kindKeywords, object.get keyword = none := by
    intro keyword hmem
    have := List.find?_eq_none.mp h keyword hmem
    simpa [Object.has] using this
  simp only [kindKeywords, forall_mem_cons, not_mem_nil, false_imp_iff, forall_const] at hget
  obtain ⟨h1, h2, h3, h4, h5, h6, h7, h8, h9, h10, h11, h12, h13, h14, h15, h16, h17, h18,
    h19, h20, h21, h22, -⟩ := hget
  cases v with
  | str => simp [kindValid, stringValid, stringKeyword, atLeast, atMost, bounded, h1, h2, h3]
  | num => simp [kindValid, numberValid, atLeast, atMost, bounded, h4, h5, h6, h7, h8]
  | arr =>
    simp [kindValid, arrayValid, containsValid, atLeast, atMost, bounded, h9, h10, h11, h12, h13]
  | obj =>
    simp [kindValid, objectValid, propertiesValid, requiredValid, restrictionsValid,
      memberList, atLeast, atMost, bounded, h14, h15, h16, h17, h18, h19, h20, h21, h22]
  | _ => rfl

theorem fixedNumber_of_no_type (h : nodeType object = none) : fixedNumber object = none := by
  unfold nodeType at h
  unfold fixedNumber
  split
  · next n hget =>
    simp only [hget, valueType] at h
    split at h <;> cases h
  · rfl
  · next n hconst henum =>
    simp only [hconst, henum, enumType, valueType] at h
    split at h <;> cases h
  · rfl

theorem boundFields_plain (h : boundFields dec object type output path = .ok fields)
    (ht : type = none ∨ type = some .boolean ∨ type = some .null) : fields = output := by
  obtain ⟨numeric, cardinal, hnumeric, hcardinal, hrest⟩ := boundFields_cases h
  rcases ht with rfl | rfl | rfl <;>
  · have hsame : numeric = cardinal := by
      simpa only [translateCardinalityFields, pure_eq_ok] using hcardinal
    rw [hrest.others (by simp), ← hsame, translateNumericBounds_other hnumeric (by simp)]

/-- The keywords before the bounds stay. -/
structure SameHead (output fields : GoogleFields) : Prop where
  type : fields.type = output.type
  enum : fields.enum = output.enum
  nullable : fields.nullable = output.nullable
  format : fields.format = output.format

theorem kind_exact {values : GoogleFields} (hs : ScalarSpec dec object type values)
    (hu : Unbounded object type values output)
    (hb : boundFields dec object type output path = .ok fields) (hall : AcceptsAll child)
    (hkinds : exactKinds object = true) (hnumbers : exactNumbers dec object = true)
    (hparts : PartsAgree child childOut object type properties items anyOf) :
    SameHead output fields ∧
    ∀ v, type.all (fun type => v.hasType type) = true →
      (fixedAccepts dec values v && kindValid R child object v) =
        (kindAccepts R dec fields v && insideAccepts childOut properties items v) := by
  cases type with
  | none =>
    obtain rfl := boundFields_plain hb (by simp)
    refine ⟨⟨rfl, rfl, rfl, rfl⟩, fun v _ => ?_⟩
    have hnone : kindKeywords.find? object.has = none := by
      simpa [exactKinds, ← hs.nodeType] using hkinds
    have hfixed := fixedNumber_of_no_type hs.nodeType.symm
    have hmin : values.minimum = none := by rw [hs.minimum, hfixed, bind_none]
    have hmax : values.maximum = none := by rw [hs.maximum, hfixed, bind_none]
    rw [kindValid_of_no_keyword hnone, Bool.and_true]
    obtain ⟨h1, h2, h3, h4, h5, h6⟩ := hu.sizes
    have hpattern := hu.pattern
    rw [if_neg (by simp)] at hpattern
    cases v with
    | obj members =>
      simp [fixedAccepts, kindAccepts, insideAccepts, sizeAccepts, h5, h6, hu.required,
        hparts.properties members]
    | arr values =>
      simp [fixedAccepts, kindAccepts, insideAccepts, sizeAccepts, h3, h4, hparts.items values]
    | str => simp [fixedAccepts, kindAccepts, insideAccepts, sizeAccepts, h1, h2, hpattern]
    | num =>
      simp [fixedAccepts, kindAccepts, insideAccepts, boundsAccept, hmin, hmax, hu.minimum,
        hu.maximum]
    | _ => rfl
  | some type =>
    cases type with
    | string =>
      obtain ⟨hkeep, hkind⟩ := string_exact (R := R) hb (by simpa using hu.pattern)
      refine ⟨by rw [hkeep]; exact ⟨rfl, rfl, rfl, rfl⟩, fun v hv => ?_⟩
      cases v with
      | str => simp [fixedAccepts, kindValid, insideAccepts, hkind]
      | _ => simp [Instance.hasType] at hv
    | array =>
      obtain ⟨hkeep, hkind⟩ := array_exact (R := R) hall hb
      refine ⟨by rw [hkeep]; exact ⟨rfl, rfl, rfl, rfl⟩, fun v hv => ?_⟩
      cases v with
      | arr =>
        simp only [fixedAccepts, kindValid, insideAccepts, ← hkind, hparts.items,
          Bool.true_and, bne_self_eq_false, Bool.false_or]
        exact Bool.and_comm _ _
      | _ => simp [Instance.hasType] at hv
    | object =>
      obtain ⟨hkeep, hkind⟩ := object_exact (R := R) hall hb
      refine ⟨by rw [hkeep]; exact ⟨rfl, rfl, rfl, rfl⟩, fun v hv => ?_⟩
      cases v with
      | obj =>
        simp only [fixedAccepts, kindValid, insideAccepts, ← hkind, hparts.properties,
          Bool.true_and, bne_self_eq_false, Bool.false_or]
        exact Bool.and_comm _ _
      | _ => simp [Instance.hasType] at hv
    | number =>
      obtain ⟨hkeep, hkind⟩ := number_exact (R := R) hs ⟨hu.minimum, hu.maximum⟩ hb
        (.inl rfl) hnumbers
      refine ⟨by rw [hkeep]; exact ⟨rfl, rfl, rfl, rfl⟩, fun v hv => ?_⟩
      cases v with
      | num q => simp [fixedAccepts, kindValid, insideAccepts, hkind q (by simp [ofType])]
      | _ => simp [Instance.hasType] at hv
    | integer =>
      obtain ⟨hkeep, hkind⟩ := number_exact (R := R) hs ⟨hu.minimum, hu.maximum⟩ hb
        (.inr rfl) hnumbers
      refine ⟨by rw [hkeep]; exact ⟨rfl, rfl, rfl, rfl⟩, fun v hv => ?_⟩
      cases v with
      | num q =>
        have hq : ofType (some .integer) q := fun _ => by simpa [Instance.hasType] using hv
        simp [fixedAccepts, kindValid, insideAccepts, hkind q hq]
      | _ => simp [Instance.hasType] at hv
    | boolean =>
      obtain rfl := boundFields_plain hb (by simp)
      refine ⟨⟨rfl, rfl, rfl, rfl⟩, fun v hv => ?_⟩
      cases v <;> first | rfl | simp [Instance.hasType] at hv
    | null =>
      obtain rfl := boundFields_plain hb (by simp)
      refine ⟨⟨rfl, rfl, rfl, rfl⟩, fun v hv => ?_⟩
      cases v <;> first | rfl | simp [Instance.isNull] at hv

theorem node_exact (hscalar : scalarFields dec object path = .ok (type, output))
    (hb : boundFields dec object type output path = .ok fields) (hall : AcceptsAll child)
    (hexact : exactNode dec child object = true)
    (hparts : PartsAgree child childOut object type properties items anyOf) (v : Instance) :
    nodeAccepts R dec childOut fields properties items anyOf v = nodeValid R child object v := by
  simp only [exactNode, guard_iffs] at hexact
  obtain ⟨⟨⟨hkinds, henum⟩, hnull⟩, hnumbers⟩ := hexact
  have hfixed : exactFixed dec object = true := by
    simp only [exactNumbers, guard_iffs] at hnumbers
    exact hnumbers.1
  obtain ⟨values, hs, hu⟩ := unbounded_of_scalarFields hscalar hfixed henum
  obtain ⟨hhead, hkind⟩ := kind_exact (R := R) hs hu hb hall hkinds hnumbers hparts
  obtain ⟨numeric, cardinal, -, -, hrest⟩ := boundFields_cases hb
  have henumAccepts : enumAccepts fields v = enumAccepts values v := by
    simp only [enumAccepts, hhead.enum, hu.enum]
  have hformat : fields.format.all (fun format => R.format format v) =
      formatValid R object v := by
    rw [hhead.format, hu.format]
    rfl
  rw [nodeAccepts, nodeValid, hs.valid, R.composed_none child object v hrest.refused,
    hhead.type, hu.typed, hhead.nullable, hu.nullable, henumAccepts, hformat, hparts.anyOf]
  cases hadds : values.nullable == some true && v.isNull with
  | true =>
    -- `null` that the node adds: nothing else of the node says anything of it
    obtain ⟨hn, hv⟩ := Bool.and_eq_true_iff.mp hadds
    have hv : v = .null := by cases v <;> simp [Instance.isNull] at hv ⊢
    subst hv
    have hany : anyOfValid child object .null = true := by
      have hadd := hs.adds (by simpa using hn)
      simpa [exactNull, hadd] using hnull
    have hformatNull : formatValid R object .null = true := by
      unfold formatValid
      cases stringKeyword object "format" with
      | none => rfl
      | some name => exact R.format_null name
    simp [hany, hformatNull, kindValid]
  | false =>
    cases htype : type.all (fun type => v.hasType type) with
    | false => simp
    | true =>
      have hkind := hkind v htype
      simp only [Bool.false_or, Bool.true_and, Bool.and_true]
      calc (enumAccepts values v && formatValid R object v && kindAccepts R dec fields v &&
              insideAccepts childOut properties items v && anyOfValid child object v)
          = (enumAccepts values v && formatValid R object v &&
              (kindAccepts R dec fields v && insideAccepts childOut properties items v) &&
              anyOfValid child object v) := by ac_rfl
        _ = (enumAccepts values v && formatValid R object v &&
              (fixedAccepts dec values v && kindValid R child object v) &&
              anyOfValid child object v) := by rw [hkind]
        _ = (enumAccepts values v && fixedAccepts dec values v && formatValid R object v &&
              kindValid R child object v && anyOfValid child object v) := by ac_rfl

end ApiToken.GeminiSchema
