import ApiToken.Schema.Reading

/-!
# Where a translation is exact

What a schema must avoid for its translation to accept the same instances,
read off the schema alone: at a node without a type every keyword for one kind
of value is dropped, a double cannot stand for every bound, and `null` is
added to the whole node where the schema adds it to the type only.
-/

namespace ApiToken.GeminiSchema

/-- The declared type; `null` is one only where it stands alone. -/
def declaredType (object : Object) : Option SchemaType :=
  (object.get "type").bind (fun type =>
    ((declaredTypes type).find? (· ≠ .null)).or (declaredTypes type).head?)

/-- The type that an `enum` leaves. -/
def enumType (declared : Option SchemaType) : List Json → Option SchemaType
  | [.num n] => valueType (.num n)
  | values =>
    if declared.all (· = .string) && values.any (fun value => value.asStr.isSome) then
      some .string
    else some .null

/-- The type of a node: that of its `const`, of its `enum`, or the declared one. -/
def nodeType (object : Object) : Option SchemaType :=
  match object.get "const", object.get "enum" with
  | some value, _ => valueType value
  | none, some (.arr values) => enumType (declaredType object) values
  | none, _ => declaredType object

def kindKeywords : List String :=
  ["pattern", "minLength", "maxLength", "minimum", "maximum", "exclusiveMinimum",
    "exclusiveMaximum", "multipleOf", "items", "minItems", "maxItems", "uniqueItems",
    "contains", "properties", "required", "minProperties", "maxProperties",
    "additionalProperties", "unevaluatedProperties", "patternProperties",
    "dependentRequired", "propertyNames"]

def exactKinds (object : Object) : Bool :=
  (nodeType object).isSome || (kindKeywords.find? object.has).isNone

/-! ## Null -/

/-- The values of an `enum` without a `const` beside it. -/
def enumValues (object : Object) : Option (List Json) :=
  if object.has "const" then none else (object.get "enum").bind Json.asArr

/-- An `enum` with `null` beside strings: `nullable` agrees with the type on
whether `null` stays. -/
def exactEnum (object : Object) : Bool :=
  (enumValues object).all (fun values =>
    !(values.any Json.isNull && nodeType object == some .string) ||
      !nullableIs object ((declaredType object).isSome && !typeAllowsNull (object.get "type")))

/-- The type or the `enum` has `null` beside other values. -/
def addsNull (object : Object) : Bool :=
  match object.get "const", object.get "enum" with
  | some _, _ => false
  | none, some (.arr values) =>
    values.any Json.isNull && nodeType object == some .string &&
      ((declaredType object).isNone || typeAllowsNull (object.get "type"))
  | none, _ => typeAllowsNull (object.get "type") || nullableIs object true

/-- Where `null` is added, `anyOf` accepts it, given the validity of its
alternatives. -/
def exactNull (child : Json → Instance → Bool) (object : Object) : Bool :=
  !addsNull object || anyOfValid child object .null

/-! ## Numbers -/

section

variable (dec : Decimals)

/-- The one number that a `const` or an `enum` leaves. -/
def fixedNumber (object : Object) : Option Number :=
  match object.get "const", object.get "enum" with
  | some (.num n), _ => some n
  | some _, _ => none
  | none, some (.arr [.num n]) => some n
  | none, _ => none

def numberKeyword (object : Object) (keyword : String) : Option Number :=
  match object.get keyword with
  | some (.num n) => some n
  | _ => none

def exactFixed (object : Object) : Bool :=
  (fixedNumber object).all (fun n => (dec.parse n).all (fun x => dec.text x = n.value))

def inclusive (object : Object) (keyword : String) : List Number :=
  (fixedNumber object).toList ++ (numberKeyword object keyword).toList

def exactLower (object : Object) : Bool :=
  let integer := nodeType object == some .integer
  (numberKeyword object "minimum").all (fun n => (dec.parse n).all (fun x =>
      if integer then decide (⌈dec.text x⌉ = ⌈n.value⌉) else decide (dec.text x = n.value))) &&
    (numberKeyword object "exclusiveMinimum").all (fun n =>
      ((dec.parse n).bind F64.nextUp).all (fun x =>
        (integer && decide (⌈dec.text x⌉ = ⌊n.value⌋ + 1)) ||
          (inclusive object "minimum").any (fun bound =>
            decide (n.value < bound.value ∧ dec.text x ≤ bound.value))))

def exactUpper (object : Object) : Bool :=
  let integer := nodeType object == some .integer
  (numberKeyword object "maximum").all (fun n => (dec.parse n).all (fun x =>
      if integer then decide (⌊dec.text x⌋ = ⌊n.value⌋) else decide (dec.text x = n.value))) &&
    (numberKeyword object "exclusiveMaximum").all (fun n =>
      ((dec.parse n).bind F64.nextDown).all (fun x =>
        (integer && decide (⌊dec.text x⌋ = ⌈n.value⌉ - 1)) ||
          (inclusive object "maximum").any (fun bound =>
            decide (bound.value < n.value ∧ bound.value ≤ dec.text x))))

def exactNumbers (object : Object) : Bool :=
  exactFixed dec object &&
    (!(nodeType object == some .number || nodeType object == some .integer) ||
      (exactLower dec object && exactUpper dec object))

/-! ## Schemas -/

def exactNode (child : Json → Instance → Bool) (object : Object) : Bool :=
  exactKinds object && exactEnum object && exactNull child object && exactNumbers dec object

/-- The subschemas that are translated. -/
def parts (object : Object) : List Json :=
  (if nodeType object = some .object then (memberList object "properties").map Prod.snd
    else []) ++
    (if nodeType object = some .array then (object.get "items").toList else []) ++
    ((object.get "anyOf").bind Json.asArr).getD []

/-- Every node of the expanded schema. -/
def exact (R : Reading) (root : Json) : Nat → Json → Bool
  | left + 1, .obj object =>
    if Object.has object "$ref" then
      (((Object.get object "$ref").bind Json.asStr).bind (resolve root)).all (exact R root left)
    else
      exactNode dec (valid R root left) object && (parts object).all (exact R root left)
  | _, _ => true

end

end ApiToken.GeminiSchema
