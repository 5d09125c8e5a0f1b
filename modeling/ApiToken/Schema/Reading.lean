import ApiToken.Schema.Translate

/-!
# What schemas accept

The reading of a JSON Schema and the reading of a Google `Schema`, both on
instances whose numbers are rationals. A keyword for one kind of value says
nothing about the others. In a JSON Schema `nullable: true` adds `null` to the
declared types; in a Google `Schema` it adds `null` to what the other keywords
accept together. References are read as pointers into the document, and a
schema is unfolded to a given depth.
-/

namespace ApiToken.GeminiSchema

/-- What both readings leave open: regular expressions, formats,
`unevaluatedProperties` where it is a constraint, and what the keywords that
no translated node has (`allOf`, `not` and so on) say of an instance, given
the validity of their subschemas. -/
structure Reading where
  pattern : String → String → Bool
  format : String → Instance → Bool
  format_null : ∀ name, format name .null = true
  unevaluated : Object → List (String × Instance) → Bool
  composed : (Json → Instance → Bool) → Object → Instance → Bool
  composed_none : ∀ child object v, refusedKeywords.find? object.has = none →
    composed child object v = true

namespace Instance

def hasType : Instance → SchemaType → Bool
  | .null, .null => true
  | .bool _, .boolean => true
  | .num _, .number => true
  | .num q, .integer => q.den = 1
  | .str _, .string => true
  | .arr _, .array => true
  | .obj _, .object => true
  | _, _ => false

mutual

def same : Instance → Instance → Bool
  | .null, .null => true
  | .bool a, .bool b => a == b
  | .num a, .num b => a == b
  | .str a, .str b => a == b
  | .arr xs, .arr ys => sameItems xs ys
  | .obj xs, .obj ys => xs.length == ys.length && sameMembers xs ys
  | _, _ => false

def sameItems : List Instance → List Instance → Bool
  | [], [] => true
  | x :: xs, y :: ys => same x y && sameItems xs ys
  | _, _ => false

def sameMembers : List (String × Instance) → List (String × Instance) → Bool
  | [], _ => true
  | (k, x) :: xs, ys =>
    (match ys.lookup k with
      | some y => same x y
      | none => false) && sameMembers xs ys

end

/-- No two items are the same. -/
def distinct : List Instance → Bool
  | [] => true
  | x :: xs => !xs.any x.same && distinct xs

end Instance

namespace Json

mutual

def denotes : Json → Instance → Bool
  | .null, .null => true
  | .bool a, .bool b => a == b
  | .num a, .num q => a.value == q
  | .str a, .str b => a == b
  | .arr xs, .arr ys => denotesItems xs ys
  | .obj xs, .obj ys => xs.length == ys.length && denotesMembers xs ys
  | _, _ => false

def denotesItems : List Json → List Instance → Bool
  | [], [] => true
  | x :: xs, y :: ys => denotes x y && denotesItems xs ys
  | _, _ => false

def denotesMembers : List (String × Json) → List (String × Instance) → Bool
  | [], _ => true
  | (k, x) :: xs, ys =>
    (match ys.lookup k with
      | some y => denotes x y
      | none => false) && denotesMembers xs ys

end

end Json

/-! ## JSON Schema -/

/-- The types a `type` keyword names. -/
def declaredTypes : Json → List SchemaType
  | .str name => (typeNamed name).toList
  | .arr names => names.filterMap (fun name => name.asStr.bind typeNamed)
  | _ => []

def nullableIs (object : Object) (b : Bool) : Bool :=
  (object.get "nullable").any (fun value => value.asBool == some b)

def typeValid (object : Object) (v : Instance) : Bool :=
  match object.get "type" with
  | none => true
  | some type =>
    (declaredTypes type).any (fun type => v.hasType type) || (v.isNull && nullableIs object true)

def constValid (object : Object) (v : Instance) : Bool :=
  (object.get "const").all (fun value => value.denotes v)

def enumValid (object : Object) (v : Instance) : Bool :=
  match object.get "enum" with
  | some (.arr values) => values.any (fun value => value.denotes v)
  | _ => true

/-- `q` meets the bound of a keyword, in the sense of `meets`. -/
def bounded (object : Object) (keyword : String) (meets : Rat → Bool) : Bool :=
  match object.get keyword with
  | some (.num n) => meets n.value
  | _ => true

def atLeast (object : Object) (keyword : String) (q : Rat) : Bool :=
  bounded object keyword (fun bound => decide (bound ≤ q))

def atMost (object : Object) (keyword : String) (q : Rat) : Bool :=
  bounded object keyword (fun bound => decide (q ≤ bound))

def stringKeyword (object : Object) (keyword : String) : Option String :=
  (object.get keyword).bind Json.asStr

def stringValid (R : Reading) (object : Object) (s : String) : Bool :=
  (stringKeyword object "pattern").all (fun pattern => R.pattern pattern s) &&
    atLeast object "minLength" s.length && atMost object "maxLength" s.length

def numberValid (object : Object) (q : Rat) : Bool :=
  atLeast object "minimum" q && atMost object "maximum" q &&
    bounded object "exclusiveMinimum" (fun bound => decide (bound < q)) &&
    bounded object "exclusiveMaximum" (fun bound => decide (q < bound)) &&
    bounded object "multipleOf" (fun step => decide (step ≠ 0 ∧ (q / step).den = 1))

/-- The number of items that `contains` asks for. -/
def containsValid (child : Json → Instance → Bool) (object : Object)
    (items : List Instance) : Bool :=
  match object.get "contains" with
  | none => true
  | some schema =>
    let count := (items.filter (child schema)).length
    (if object.has "minContains" then atLeast object "minContains" count else 1 ≤ count) &&
      atMost object "maxContains" count

def arrayValid (child : Json → Instance → Bool) (object : Object)
    (items : List Instance) : Bool :=
  (object.get "items").all (fun schema => items.all (child schema)) &&
    atLeast object "minItems" items.length && atMost object "maxItems" items.length &&
    (!(object.get "uniqueItems").any (fun value => value.asBool == some true) ||
      Instance.distinct items) &&
    containsValid child object items

def memberList (object : Object) (keyword : String) : Object :=
  ((object.get keyword).bind Json.asObj).getD []

def nameList (value : Json) : List String := (value.asArr.getD []).filterMap Json.asStr

def has (members : List (String × Instance)) (name : String) : Bool :=
  (members.lookup name).isSome

def propertiesValid (child : Json → Instance → Bool) (object : Object)
    (members : List (String × Instance)) : Bool :=
  (memberList object "properties").all (fun property =>
    (members.lookup property.1).all (child property.2))

def requiredValid (object : Object) (members : List (String × Instance)) : Bool :=
  (object.get "required").all (fun value => (nameList value).all (has members))

/-- The keywords of an object that no Google `Schema` has. -/
def restrictionsValid (R : Reading) (child : Json → Instance → Bool) (object : Object)
    (members : List (String × Instance)) : Bool :=
  (object.get "additionalProperties").all (fun schema =>
    members.all (fun x => (memberList object "properties").any (·.1 = x.1) ||
      (memberList object "patternProperties").any (fun y => R.pattern y.1 x.1) ||
      child schema x.2)) &&
    (memberList object "patternProperties").all (fun y =>
      members.all (fun x => !R.pattern y.1 x.1 || child y.2 x.2)) &&
    (memberList object "dependentRequired").all (fun y =>
      !has members y.1 || (nameList y.2).all (has members)) &&
    (object.get "propertyNames").all (fun schema =>
      members.all (fun x => child schema (.str x.1))) &&
    (object.get "unevaluatedProperties").all (fun schema =>
      schema.isTrueSchema || R.unevaluated object members)

def objectValid (R : Reading) (child : Json → Instance → Bool) (object : Object)
    (members : List (String × Instance)) : Bool :=
  propertiesValid child object members && requiredValid object members &&
    atLeast object "minProperties" members.length &&
    atMost object "maxProperties" members.length &&
    restrictionsValid R child object members

def kindValid (R : Reading) (child : Json → Instance → Bool) (object : Object) :
    Instance → Bool
  | .str s => stringValid R object s
  | .num q => numberValid object q
  | .arr items => arrayValid child object items
  | .obj members => objectValid R child object members
  | _ => true

def formatValid (R : Reading) (object : Object) (v : Instance) : Bool :=
  (stringKeyword object "format").all (fun format => R.format format v)

def anyOfValid (child : Json → Instance → Bool) (object : Object) (v : Instance) : Bool :=
  match object.get "anyOf" with
  | some (.arr alternatives) => alternatives.any (fun schema => child schema v)
  | _ => true

def nodeValid (R : Reading) (child : Json → Instance → Bool) (object : Object)
    (v : Instance) : Bool :=
  typeValid object v && constValid object v && enumValid object v &&
    formatValid R object v && kindValid R child object v && anyOfValid child object v &&
    R.composed child object v

/-- Validity for a schema of the document `root`, unfolded `depth` levels. -/
def valid (R : Reading) (root : Json) : Nat → Json → Instance → Bool
  | 0, schema, _ => schema.isTrueSchema
  | depth + 1, schema, v =>
    match schema with
    | .bool b => b
    | .obj object =>
      (Object.get object "$ref").all (fun reference =>
        ((reference.asStr.bind (resolve root)).any
          (fun target => valid R root depth target v))) &&
        nodeValid R (valid R root depth) object v
    | _ => false

/-! ## Google `Schema` -/

section

variable (R : Reading) (dec : Decimals)

def enumAccepts (fields : GoogleFields) (v : Instance) : Bool :=
  fields.enum.all (fun names =>
    match v with
    | .str s => names.contains s
    | _ => false)

def boundsAccept (fields : GoogleFields) (q : Rat) : Bool :=
  fields.minimum.all (fun x => decide (dec.text x ≤ q)) &&
    fields.maximum.all (fun x => decide (q ≤ dec.text x))

def sizeAccepts (low high : Option Nat) (size : Nat) : Bool :=
  low.all (· ≤ size) && high.all (size ≤ ·)

def kindAccepts (fields : GoogleFields) : Instance → Bool
  | .str s =>
    fields.pattern.all (fun pattern => R.pattern pattern s) &&
      sizeAccepts fields.minLength fields.maxLength s.length
  | .num q => boundsAccept dec fields q
  | .arr items => sizeAccepts fields.minItems fields.maxItems items.length
  | .obj members =>
    sizeAccepts fields.minProperties fields.maxProperties members.length &&
      fields.required.all (fun names => names.all (has members))
  | _ => true

/-- The subschemas for the members of an object and the items of an array. -/
def insideAccepts (child : GoogleSchema → Instance → Bool)
    (properties : Option (List (String × GoogleSchema))) (items : Option GoogleSchema) :
    Instance → Bool
  | .obj members => properties.all (fun properties => properties.all (fun property =>
    (members.lookup property.1).all (child property.2)))
  | .arr values => items.all (fun schema => values.all (child schema))
  | _ => true

def anyOfAccepts (child : GoogleSchema → Instance → Bool)
    (anyOf : Option (List GoogleSchema)) (v : Instance) : Bool :=
  anyOf.all (fun alternatives => alternatives.any (fun schema => child schema v))

/-- The conjunction of the keywords, with `nullable` adding `null`. -/
def nodeAccepts (child : GoogleSchema → Instance → Bool) (fields : GoogleFields)
    (properties : Option (List (String × GoogleSchema))) (items : Option GoogleSchema)
    (anyOf : Option (List GoogleSchema)) (v : Instance) : Bool :=
  (fields.nullable == some true && v.isNull) ||
    (fields.type.all (fun type => v.hasType type) && enumAccepts fields v &&
      fields.format.all (fun format => R.format format v) && kindAccepts R dec fields v &&
      insideAccepts child properties items v && anyOfAccepts child anyOf v)

def googleAccepts : Nat → GoogleSchema → Instance → Bool
  | 0, _, _ => false
  | depth + 1, .mk fields properties items anyOf, v =>
    nodeAccepts R dec (googleAccepts depth) fields properties items anyOf v

end

def Accepts (R : Reading) (root : Json) (v : Instance) : Prop :=
  ∃ depth, ∀ n ≥ depth, valid R root n root v = true

def GoogleAccepts (R : Reading) (dec : Decimals) (schema : GoogleSchema) (v : Instance) :
    Prop :=
  ∃ depth, ∀ n ≥ depth, googleAccepts R dec n schema v = true

end ApiToken.GeminiSchema
