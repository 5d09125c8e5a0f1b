import ApiToken.Schema.Json

/-!
# The translation of a JSON Schema

`forward/src/gemini_schema.rs`. The output is a `GoogleSchema`, one field for
each keyword of the output map; a field that is `none` is a keyword that the
map does not have. The recursion is bounded by the nesting the source allows
(`left` counts the levels that are left of `MAX_REFERENCE_DEPTH`), and the
budget of nodes is passed along.
-/

namespace ApiToken.GeminiSchema

def maxTranslatedNodes : Nat := 4096
def maxReferenceDepth : Nat := 64

structure SchemaPath where
  root : String
  segments : List String

namespace SchemaPath

def child (path : SchemaPath) (segment : String) : SchemaPath :=
  { path with segments := path.segments ++ [segment] }

def escape (segment : String) : String := (segment.replace "~" "~0").replace "/" "~1"

def render (path : SchemaPath) : String :=
  path.segments.foldl (fun rendered segment => rendered ++ "/" ++ escape segment) path.root

end SchemaPath

structure SchemaError where
  path : String
  detail : String

def SchemaError.new (path : SchemaPath) (detail : String) : SchemaError :=
  ⟨path.render, detail⟩

def SchemaError.message (e : SchemaError) : String :=
  "Invalid JSON Schema at " ++ e.path ++ ": " ++ e.detail

def quoted (s : String) : String :=
  "\"" ++ (s.replace "\\" "\\\\").replace "\"" "\\\"" ++ "\""

abbrev Outcome := Except SchemaError

inductive SchemaType where
  | string
  | number
  | integer
  | boolean
  | array
  | object
  | null
  deriving DecidableEq

/-- The keywords of an output map whose values are no schemas. -/
structure GoogleFields where
  type : Option SchemaType := none
  enum : Option (List String) := none
  nullable : Option Bool := none
  title : Option String := none
  description : Option String := none
  format : Option String := none
  pattern : Option String := none
  default : Option Json := none
  example_ : Option Json := none
  minimum : Option F64 := none
  maximum : Option F64 := none
  minLength : Option Nat := none
  maxLength : Option Nat := none
  minItems : Option Nat := none
  maxItems : Option Nat := none
  minProperties : Option Nat := none
  maxProperties : Option Nat := none
  required : Option (List String) := none
  propertyOrdering : Option (List String) := none

inductive GoogleSchema where
  | mk (fields : GoogleFields) (properties : Option (List (String × GoogleSchema)))
      (items : Option GoogleSchema) (anyOf : Option (List GoogleSchema))

/-! ## Types -/

/-- `to_ascii_lowercase`. -/
def lowercase (s : String) : String := String.ofList (s.toList.map Char.toLower)

def typeNamed (value : String) : Option SchemaType :=
  match lowercase value with
  | "string" => some .string
  | "number" => some .number
  | "integer" => some .integer
  | "boolean" => some .boolean
  | "array" => some .array
  | "object" => some .object
  | "null" => some .null
  | _ => none

def normalizeTypeName (value : String) (path : SchemaPath) : Outcome SchemaType :=
  orFail (typeNamed value) (.new path ("unsupported type " ++ quoted value))

/-- The loop of `normalize_type` over a list of names: the types other than
`null`, each once, and whether `null` was among them. -/
def normalizeTypeList (path : SchemaPath) :
    Nat → List Json → List SchemaType → Bool → Outcome (List SchemaType × Bool)
  | _, [], nonNull, hasNull => pure (nonNull, hasNull)
  | index, value :: values, nonNull, hasNull => do
      let here := (path.child "type").child (toString index)
      let name ← orFail value.asStr (.new here "must be a string")
      let type ← normalizeTypeName name here
      if type = .null then normalizeTypeList path (index + 1) values nonNull true
      else if type ∈ nonNull then normalizeTypeList path (index + 1) values nonNull hasNull
      else normalizeTypeList path (index + 1) values (nonNull ++ [type]) hasNull

def normalizeType (value : Option Json) (path : SchemaPath) : Outcome (Option SchemaType) :=
  match value with
  | none => pure none
  | some (.str value) => do
      let type ← normalizeTypeName value (path.child "type")
      pure (some type)
  | some (.arr values) => do
      let (nonNull, hasNull) ← normalizeTypeList path 0 values [] false
      match nonNull, hasNull with
      | [type], true => pure (some type)
      | _, _ =>
        throw (.new (path.child "type")
          "only a single type optionally unioned with null is representable")
  | some _ => throw (.new (path.child "type") "must be a string or array")

def typeAllowsNull (value : Option Json) : Bool :=
  match value with
  | some (.arr values) =>
    values.any (fun value => value.asStr.any (fun name => lowercase name = "null"))
  | _ => false

def valueType : Json → Option SchemaType
  | .null => some .null
  | .bool _ => some .boolean
  | .num n => if n.isI64 || n.asU64.isSome then some .integer else some .number
  | .str _ => some .string
  | .arr _ => none
  | .obj _ => none

def requireCompatibleType (type : Option SchemaType) (inferred : SchemaType)
    (allowsNull : Bool) (path : SchemaPath) : Outcome Unit :=
  failIf (!(type.all (fun declared => declared = inferred ||
      (declared = .number && inferred = .integer) || (inferred = .null && allowsNull))))
    (.new path "value conflicts with the declared type")

/-! ## Const and enum -/

section

variable (dec : Decimals)

def finiteNumber (n : Number) (path : SchemaPath) : Outcome F64 :=
  orFail (dec.parse n) (.new path "must be a finite IEEE-754 number")

def optionalNumber (value : Option Json) (path : SchemaPath) : Outcome (Option F64) :=
  match value with
  | none => pure none
  | some (.num n) => do
      let x ← finiteNumber dec n path
      pure (some x)
  | some _ => throw (.new path "must be a number")

def applyConst (value : Json) (type : Option SchemaType) (allowsNull : Bool)
    (output : GoogleFields) (path : SchemaPath) :
    Outcome (Option SchemaType × GoogleFields) := do
  let here := path.child "const"
  let inferred ← orFail (valueType value)
    (.new here "object and array const values are not representable")
  requireCompatibleType type inferred allowsNull here
  match value with
  | .str s => pure (some inferred, { output with enum := some [s] })
  | .num n =>
    let x ← finiteNumber dec n here
    pure (some inferred, { output with minimum := some x, maximum := some x })
  | .null => pure (some inferred, output)
  | _ => throw (.new here "this const value is not representable")

/-- An `enum` of strings, optionally with `null`. -/
def applyStringEnum (strings : List String) (hasNull : Bool) (type : Option SchemaType)
    (allowsNull : Bool) (output : GoogleFields) (path : SchemaPath) :
    Outcome (Option SchemaType × GoogleFields) := do
  let effectiveNull := hasNull && (type.isNone || type = some .null || allowsNull)
  let effective := if type.all (· = .string) then strings else []
  failIf (effective.isEmpty && !effectiveNull)
    (.new (path.child "enum") "enum and the declared type have an empty intersection")
  if effective.isEmpty then pure (some .null, output)
  else
    pure (some .string,
      { output with
        enum := some effective
        nullable := if effectiveNull then some true else output.nullable })

def applyEnum (value : Json) (type : Option SchemaType) (allowsNull : Bool)
    (output : GoogleFields) (path : SchemaPath) :
    Outcome (Option SchemaType × GoogleFields) := do
  let here := path.child "enum"
  let values ← orFail (value.asArr.filter (fun values => !values.isEmpty))
    (.new here "must be a non-empty array")
  let strings := values.filterMap Json.asStr
  let hasNull := values.any Json.isNull
  if strings.length + (if hasNull then 1 else 0) = values.length then
    applyStringEnum strings hasNull type allowsNull output path
  else
    match values with
    | [single] => do
        let inferred ← orFail (valueType single)
          (.new (here.child "0") "object and array enum values are not representable")
        requireCompatibleType type inferred allowsNull (here.child "0")
        match single with
        | .num n =>
          let x ← finiteNumber dec n (here.child "0")
          pure (some inferred, { output with minimum := some x, maximum := some x })
        | .null => pure (some .null, output)
        | _ =>
          throw (.new here "only string enums, optionally including null, are representable")
    | _ =>
      throw (.new here "only string enums, optionally including null, are representable")

/-- The `const` and `enum` of a node: its effective type and the keywords
they become. -/
def constOrEnum (object : Object) (type : Option SchemaType) (allowsNull : Bool)
    (path : SchemaPath) : Outcome (Option SchemaType × GoogleFields) :=
  match object.get "const", object.get "enum" with
  | some value, some enumValue => do
      let values ← orFail enumValue.asArr (.new (path.child "enum") "must be a non-empty array")
      failIf values.isEmpty (.new (path.child "enum") "must be a non-empty array")
      failIf (!(values.any (fun candidate => candidate.same value)))
        (.new (path.child "const") "const and enum have an empty intersection")
      applyConst dec value type allowsNull {} path
  | some value, none => applyConst dec value type allowsNull {} path
  | none, some value => applyEnum dec value type allowsNull {} path
  | none, none => pure (type, {})

end

def optionalBool (value : Option Json) (path : SchemaPath) : Outcome (Option Bool) :=
  match value with
  | none => pure none
  | some (.bool b) => pure (some b)
  | some _ => throw (.new path "must be a boolean")

/-- What becomes of `nullable`: a `const` or an `enum` is never widened. -/
def nullableField (object : Object) (type : Option SchemaType) (allowsNull : Bool)
    (output : GoogleFields) (path : SchemaPath) : Outcome GoogleFields := do
  let explicit ← optionalBool (object.get "nullable") (path.child "nullable")
  let requested := allowsNull || explicit = some true
  if !object.has "const" && !object.has "enum" then
    if requested then pure { output with nullable := some true }
    else if explicit.isSome then pure { output with nullable := explicit }
    else pure output
  else if explicit = some false then
    if type = some .null then
      throw (.new (path.child "nullable")
        "nullable:false conflicts with a null-only const or enum")
    else pure { output with nullable := some false }
  else if type ≠ some .null && requested && output.nullable ≠ some true then
    pure { output with nullable := some false }
  else pure output

/-! ## Annotations and plain keywords -/

def stringField (object : Object) (keyword : String) (path : SchemaPath) :
    Outcome (Option String) :=
  match object.get keyword with
  | none => pure none
  | some (.str s) => pure (some s)
  | some _ => throw (.new (path.child keyword) "must be a string")

/-- `title`, `description`, `format`, `pattern`, `default` and `example`. -/
def annotations (object : Object) (type : Option SchemaType) (output : GoogleFields)
    (path : SchemaPath) : Outcome GoogleFields := do
  let title ← stringField object "title" path
  let description ← stringField object "description" path
  let format ← stringField object "format" path
  let pattern ← stringField object "pattern" path
  pure { output with
    title := title
    description := description
    format := format
    pattern := if type = some .string then pattern else none
    default := object.get "default"
    example_ := object.get "example" }

/-! ## Numeric bounds -/

structure NumericBound where
  value : F64
  keyword : String

/-- `>=` and `<=` on finite doubles. -/
def F64.ge (x y : F64) : Bool := decide (y.signed ≤ x.signed)

def mergeNumericBound (current : Option NumericBound) (candidate : NumericBound)
    (lower : Bool) : Option NumericBound :=
  match current with
  | some current =>
    if (lower && current.value.ge candidate.value) ||
        (!lower && candidate.value.ge current.value) then some current
    else some candidate
  | none => some candidate

section

variable (dec : Decimals)

def addBound (object : Object) (keyword : String)
    (move : F64 → Option F64) (moved : String) (lower : Bool)
    (current : Option NumericBound) (path : SchemaPath) : Outcome (Option NumericBound) := do
  match ← optionalNumber dec (object.get keyword) (path.child keyword) with
  | none => pure current
  | some x =>
    let value ← orFail (move x) (.new (path.child keyword) moved)
    pure (mergeNumericBound current ⟨value, keyword⟩ lower)

def translateNumericBounds (object : Object) (type : Option SchemaType)
    (output : GoogleFields) (path : SchemaPath) : Outcome GoogleFields := do
  if type = some .number ∨ type = some .integer then
    let synthesized := if object.has "const" then "const" else "enum"
    let minimum := output.minimum.map (fun x => NumericBound.mk x synthesized)
    let minimum ← addBound dec object "minimum" some "" true minimum path
    let maximum := output.maximum.map (fun x => NumericBound.mk x synthesized)
    let maximum ← addBound dec object "maximum" some "" false maximum path
    let minimum ← addBound dec object "exclusiveMinimum" F64.nextUp
      "exclusive bound has no finite inclusive successor" true minimum path
    let maximum ← addBound dec object "exclusiveMaximum" F64.nextDown
      "exclusive bound has no finite inclusive predecessor" false maximum path
    let output := { output with
      minimum := minimum.map NumericBound.value
      maximum := maximum.map NumericBound.value }
    match minimum, maximum with
    | some low, some high =>
      failIf (!(high.value.ge low.value))
        (.new (path.child (if high.keyword = synthesized then low.keyword else high.keyword))
          "numeric constraints have an empty intersection")
      pure output
    | _, _ => pure output
  else pure output

end

/-! ## Cardinality -/

/-- A keyword whose value is a `u64`. -/
def countField (object : Object) (keyword : String) (path : SchemaPath) :
    Outcome (Option Nat) :=
  match object.get keyword with
  | none => pure none
  | some value => do
      let n ← orFail value.asU64 (.new (path.child keyword) "must be a non-negative integer")
      pure (some n)

/-- The strings of an array, each checked in turn. -/
def stringItems (path : SchemaPath) : Nat → List Json → Outcome (List String)
  | _, [] => pure []
  | index, value :: values => do
      let s ← orFail value.asStr (.new (path.child (toString index)) "must be a string")
      let rest ← stringItems path (index + 1) values
      pure (s :: rest)

/-- `string_array` of a keyword. -/
def stringArrayField (object : Object) (keyword : String) (path : SchemaPath) :
    Outcome (Option (List String)) :=
  match object.get keyword with
  | none => pure none
  | some value => do
      let values ← orFail value.asArr (.new (path.child keyword) "must be an array of strings")
      let strings ← stringItems (path.child keyword) 0 values
      pure (some strings)

def translateCardinalityFields (object : Object) (type : Option SchemaType)
    (output : GoogleFields) (path : SchemaPath) : Outcome GoogleFields :=
  match type with
  | some .string => do
      let low ← countField object "minLength" path
      let high ← countField object "maxLength" path
      pure { output with minLength := low, maxLength := high }
  | some .array => do
      let low ← countField object "minItems" path
      let high ← countField object "maxItems" path
      pure { output with minItems := low, maxItems := high }
  | some .object => do
      let low ← countField object "minProperties" path
      let high ← countField object "maxProperties" path
      let required ← stringArrayField object "required" path
      let ordering ← stringArrayField object "propertyOrdering" path
      pure { output with
        minProperties := low
        maxProperties := high
        required := required
        propertyOrdering := ordering }
  | _ => pure output

/-- `validate_cardinality_intersections`; the error names the keyword that the
upper bound comes from. -/
def validateCardinality (object : Object) (type : Option SchemaType)
    (output : GoogleFields) (path : SchemaPath) : Outcome Unit :=
  let check (low high : Option Nat) (keyword : String) : Outcome Unit :=
    match low, high with
    | some low, some high =>
      failIf (high < low) (.new (path.child keyword)
        "cardinality constraints have an empty intersection")
    | _, _ => pure ()
  match type with
  | some .string => check output.minLength output.maxLength "maxLength"
  | some .array =>
    let asCount (keyword : String) := (object.get keyword).bind Json.asU64
    check output.minItems output.maxItems
      (if asCount "maxContains" = output.maxItems ∧ asCount "maxItems" ≠ output.maxItems
        then "maxContains" else "maxItems")
  | some .object => check output.minProperties output.maxProperties "maxProperties"
  | _ => pure ()

/-! ## Keywords without a counterpart -/

def unsupported (path : SchemaPath) (keyword : String) : SchemaError :=
  .new (path.child keyword)
    ("keyword " ++ quoted keyword ++ " cannot be represented by Code Assist")

def onlyNoOp (object : Object) (keyword : String) (noOp : Json → Bool) (path : SchemaPath) :
    Outcome Unit :=
  failIf (!((object.get keyword).all noOp)) (unsupported path keyword)

def isEmptyObject (value : Json) : Bool := value.asObj.any List.isEmpty

/-- No property of `dependentRequired` requires anything. -/
def requiresNothing (value : Json) : Bool :=
  value.asObj.any (fun dependencies =>
    dependencies.all (fun dependency => dependency.2.asArr.any List.isEmpty))

/-- `merge_u64_bound`. -/
def mergeCount (current : Option Nat) (value : Nat) (lower : Bool) : Option Nat :=
  match current with
  | none => some value
  | some current => some (if lower then max current value else min current value)

def uniqueItemsField (object : Object) (path : SchemaPath) : Outcome Unit :=
  match object.get "uniqueItems" with
  | none => pure ()
  | some (.bool false) => pure ()
  | some (.bool true) => throw (unsupported path "uniqueItems")
  | some _ => throw (.new (path.child "uniqueItems") "must be a boolean")

/-- The keywords of an array that have no counterpart; `contains` with a
schema that accepts everything is a bound on the number of items. -/
def arrayKeywords (object : Object) (output : GoogleFields) (path : SchemaPath) :
    Outcome GoogleFields := do
  uniqueItemsField object path
  match object.get "contains" with
  | none => pure output
  | some contains =>
    failIf (!contains.isTrueSchema) (unsupported path "contains")
    let low ← countField object "minContains" path
    let high ← countField object "maxContains" path
    let output := { output with minItems := mergeCount output.minItems (low.getD 1) true }
    match high with
    | none => pure output
    | some high => pure { output with maxItems := mergeCount output.maxItems high false }

def refusedKeywords : List String :=
  ["allOf", "oneOf", "not", "if", "then", "else", "dependentSchemas", "dependencies",
    "prefixItems", "additionalItems", "unevaluatedItems", "contentSchema", "$dynamicRef",
    "$recursiveRef"]

def objectKeywords (object : Object) (path : SchemaPath) : Outcome Unit := do
  onlyNoOp object "additionalProperties" Json.isTrueSchema path
  onlyNoOp object "unevaluatedProperties" Json.isTrueSchema path
  onlyNoOp object "patternProperties" isEmptyObject path
  onlyNoOp object "dependentRequired" requiresNothing path
  onlyNoOp object "propertyNames" Json.isTrueSchema path

def isUnitStep (type : Option SchemaType) (value : Json) : Bool :=
  decide (type = some .integer) && value.asU64 == some 1

def checkWhen (condition : Prop) [Decidable condition] (check : Outcome Unit) :
    Outcome Unit :=
  if condition then check else pure ()

def arrayOutput (object : Object) (type : Option SchemaType) (output : GoogleFields)
    (path : SchemaPath) : Outcome GoogleFields :=
  if type = some .array then arrayKeywords object output path else pure output

def rejectOrDropUnsupported (object : Object) (type : Option SchemaType)
    (output : GoogleFields) (path : SchemaPath) : Outcome GoogleFields := do
  checkWhen (type = some .object) (objectKeywords object path)
  let output ← arrayOutput object type output path
  checkWhen (type = some .number ∨ type = some .integer)
    (onlyNoOp object "multipleOf" (isUnitStep type) path)
  match refusedKeywords.find? object.has with
  | some keyword => throw (unsupported path keyword)
  | none => pure output

/-- The keywords `reject_unknown_keywords` knows. -/
def knownKeywords : List String :=
  ["type", "title", "description", "format", "pattern", "nullable", "default", "example",
    "examples", "enum", "const", "minimum", "maximum", "exclusiveMinimum",
    "exclusiveMaximum", "minLength", "maxLength", "minItems", "maxItems", "minProperties",
    "maxProperties", "properties", "required", "propertyOrdering", "items", "anyOf",
    "$schema", "$id", "$anchor", "$dynamicAnchor", "$recursiveAnchor", "$comment",
    "deprecated", "readOnly", "writeOnly", "$defs", "definitions", "additionalProperties",
    "unevaluatedProperties", "patternProperties", "dependentRequired", "propertyNames",
    "contains", "minContains", "maxContains", "uniqueItems", "multipleOf", "allOf", "oneOf",
    "not", "if", "then", "else", "dependentSchemas", "dependencies", "prefixItems",
    "additionalItems", "unevaluatedItems", "contentEncoding", "contentMediaType",
    "contentSchema", "$dynamicRef", "$recursiveRef"]

def rejectUnknownKeywords (object : Object) (path : SchemaPath) : Outcome Unit :=
  match object.find? (fun x => !(knownKeywords.contains x.1 || x.1.startsWith "x-")) with
  | some x =>
    throw (.new (path.child x.1) ("unknown keyword " ++ quoted x.1 ++ " is not allowed"))
  | none => pure ()

/-! ## Nodes -/

/-- Everything of a node before its subschemas: the effective type and the
plain keywords. -/
def scalarFields (dec : Decimals) (object : Object) (path : SchemaPath) :
    Outcome (Option SchemaType × GoogleFields) := do
  let allowsNull := typeAllowsNull (object.get "type")
  let type ← normalizeType (object.get "type") path
  let (type, output) ← constOrEnum dec object type allowsNull path
  let output ← nullableField object type allowsNull { output with type := type } path
  let output ← annotations object type output path
  pure (type, output)

/-- Everything of a node after its subschemas. -/
def boundFields (dec : Decimals) (object : Object) (type : Option SchemaType)
    (output : GoogleFields) (path : SchemaPath) : Outcome GoogleFields := do
  let output ← translateNumericBounds dec object type output path
  let output ← translateCardinalityFields object type output path
  let output ← rejectOrDropUnsupported object type output path
  validateCardinality object type output path
  rejectUnknownKeywords object path
  pure output

def eachNode {α β : Type} (node : Nat → α → Outcome (β × Nat)) :
    Nat → List α → Outcome (List β × Nat)
  | budget, [] => pure ([], budget)
  | budget, x :: xs => do
      let (y, budget) ← node budget x
      let (ys, budget) ← eachNode node budget xs
      pure (y :: ys, budget)

/-- `decode_pointer_segment`. -/
def decodeSegment : List Char → Option (List Char)
  | [] => some []
  | '~' :: '0' :: rest => (decodeSegment rest).map ('~' :: ·)
  | '~' :: '1' :: rest => (decodeSegment rest).map ('/' :: ·)
  | '~' :: _ => none
  | c :: rest => (decodeSegment rest).map (c :: ·)

/-- What stands between the slashes of a reference, after `#/`. -/
def segments (reference : String) : List (List Char) :=
  (reference.toList.drop 2).splitOn '/'

/-- `replace` of two characters by one, from the left. -/
def replacePair (first second into : Char) : List Char → List Char
  | c :: d :: rest =>
    if c = first ∧ d = second then into :: replacePair first second into rest
    else c :: replacePair first second into (d :: rest)
  | rest => rest

/-- The reference tokens as `Value::pointer` reads them: an escape that is
none stays. -/
def pointerTokens (reference : String) : List String :=
  (segments reference).map (fun token =>
    String.ofList (replacePair '~' '0' '~' (replacePair '~' '1' '/' token)))

/-- `Value::pointer`. -/
def resolve (root : Json) (reference : String) : Option Json :=
  (pointerTokens reference).foldlM (fun value token => value.member token) root

def pointerPath (root : String) (reference : String) : Outcome SchemaPath := do
  let segments ← orFail
    ((segments reference).mapM (fun token => (decodeSegment token).map String.ofList))
    (.new ⟨root, []⟩ "reference contains an invalid JSON Pointer escape")
  pure ⟨root, segments⟩

/-- What may stand beside a `$ref`. -/
def referenceSiblings : List String :=
  ["$ref", "$schema", "$id", "$comment", "$defs", "definitions", "title", "description",
    "default", "example", "examples"]

/-- The loop over the keywords beside a `$ref`. -/
def onlyAnnotations (object : Object) (path : SchemaPath) : Outcome Unit :=
  match object.find? (fun x => !referenceSiblings.contains x.1) with
  | some x =>
    throw (.new (path.child x.1) "$ref siblings with validation semantics are not representable")
  | none => pure ()

/-- The annotations beside a `$ref` replace those of its target. -/
def overrideAnnotations (object : Object) (path : SchemaPath) (target : GoogleSchema) :
    Outcome GoogleSchema := do
  let title ← stringField object "title" path
  let description ← stringField object "description" path
  match target with
  | .mk fields properties items anyOf =>
    pure (.mk { fields with
      title := title.orElse (fun _ => fields.title)
      description := description.orElse (fun _ => fields.description)
      default := (object.get "default").orElse (fun _ => fields.default)
      example_ := (object.get "example").orElse (fun _ => fields.example_) }
      properties items anyOf)

/-- The checks of `translate_reference`: the reference, and its target with
the path that errors in it are reported at. -/
def referenceTarget (root : Json) (active : List String) (isRoot : Bool) (object : Object)
    (path : SchemaPath) : Outcome (String × Json × SchemaPath) := do
  let reference ← orFail ((object.get "$ref").bind Json.asStr)
    (.new (path.child "$ref") "must be a string")
  failIf (!isRoot && object.has "$id")
    (.new (path.child "$id") "nested $id changes reference scope and is not representable")
  failIf (!reference.startsWith "#/")
    (.new (path.child "$ref") "only local JSON Pointer references are supported")
  failIf (active.contains reference)
    (.new (path.child "$ref") "recursive references are not representable")
  onlyAnnotations object path
  let target ← orFail (resolve root reference)
    (.new (path.child "$ref") "reference target does not exist")
  let targetPath ← pointerPath path.root reference
  pure (reference, target, targetPath)

/-- `properties`, under the effective type `object`. -/
def propertyMembers (object : Object) (type : Option SchemaType) (path : SchemaPath) :
    Outcome (Option Object) :=
  match object.get "properties" with
  | none => pure none
  | some value =>
    if type = some .object then do
      let members ← orFail value.asObj (.new (path.child "properties") "must be an object")
      pure (some members)
    else pure none

/-- The alternatives of `anyOf`. -/
def alternatives (object : Object) (path : SchemaPath) : Outcome (Option (List Json)) :=
  match object.get "anyOf" with
  | none => pure none
  | some value => do
      let values ← orFail (value.asArr.filter (fun values => !values.isEmpty))
        (.new (path.child "anyOf") "must be a non-empty array")
      pure (some values)

def ifThere {α β : Type} (part : Option α) (budget : Nat)
    (f : α → Outcome (β × Nat)) : Outcome (Option β × Nat) :=
  match part with
  | none => pure (none, budget)
  | some x => do
      let (y, budget) ← f x
      pure (some y, budget)

/-- `translate_structural_fields`, over the translation of a subschema. -/
def structuralFields (node : Nat → Json → SchemaPath → Outcome (GoogleSchema × Nat))
    (object : Object) (type : Option SchemaType) (path : SchemaPath) (budget : Nat) :
    Outcome ((Option (List (String × GoogleSchema)) × Option GoogleSchema ×
      Option (List GoogleSchema)) × Nat) := do
  let members ← propertyMembers object type path
  let (properties, budget) ← ifThere members budget (fun members =>
    eachNode (fun budget x => do
      let (schema, budget) ← node budget x.2 ((path.child "properties").child x.1)
      pure ((x.1, schema), budget)) budget members)
  let (items, budget) ← ifThere (if type = some .array then object.get "items" else none)
    budget (fun items => node budget items (path.child "items"))
  let choices ← alternatives object path
  let (anyOf, budget) ← ifThere choices budget (fun choices =>
    eachNode (fun budget (x : Json × Nat) =>
      node budget x.1 ((path.child "anyOf").child (toString x.2))) budget choices.zipIdx)
  pure ((properties, items, anyOf), budget)

/-- `translate_node`; `left` is how many levels of nesting are left, counting
the one that is refused. -/
def translateNode (dec : Decimals) (root : Json) :
    Nat → List String → Nat → Json → SchemaPath → Outcome (GoogleSchema × Nat)
  | _, _, 0, _, path => throw (.new path "expanded schema exceeds 4096 nodes")
  | 0, _, _, _, path => throw (.new path "schema nesting exceeds 64")
  | left + 1, active, budget + 1, schema, path => do
      let isRoot := left = maxReferenceDepth
      let object ← orFail schema.asObj
        (.new path "boolean and non-object schemas are not representable")
      if object.has "$ref" then
        let (reference, target, targetPath) ← referenceTarget root active isRoot object path
        let (translated, budget) ←
          translateNode dec root left (reference :: active) budget target targetPath
        let translated ← overrideAnnotations object path translated
        pure (translated, budget)
      else
        failIf (!isRoot && object.has "$id") (.new (path.child "$id")
          "nested $id changes reference scope and is not representable")
        let (type, output) ← scalarFields dec object path
        let ((properties, items, anyOf), budget) ←
          structuralFields (translateNode dec root left active) object type path budget
        failIf (type.isNone && anyOf.isNone)
          (.new path "a schema without type or anyOf has no exact Code Assist representation")
        let output ← boundFields dec object type output path
        pure (.mk output properties items anyOf, budget)

def translate (dec : Decimals) (schema : Json) (rootPath : String) : Outcome GoogleSchema := do
  let (translated, _) ← translateNode dec schema (maxReferenceDepth + 1) []
    maxTranslatedNodes schema ⟨rootPath, []⟩
  pure translated

end ApiToken.GeminiSchema
