import ApiToken.Schema.Node

/-!
# The translation accepts the same instances

Along the recursion of the translator: a schema that is accepted and exact is
accepted by the same instances as its translation, however deep both are
unfolded beyond the nesting that is left.
-/

namespace ApiToken.GeminiSchema

variable {α β : Type} {budget rest left : Nat} {object : Object}
  {type : Option SchemaType}
  {node : Nat → Json → SchemaPath → Outcome (GoogleSchema × Nat)} {path : SchemaPath}
  {properties : Option (List (String × GoogleSchema))} {items : Option GoogleSchema}
  {anyOf : Option (List GoogleSchema)} {child : Json → Instance → Bool} {R : Reading}
  {dec : Decimals} {out : GoogleSchema} {root target : Json} {active : List String}
  {reference : String}

/-! ## Subschemas -/

variable {P : α → β → Prop} {xs : List α} {ys : List β}

theorem eachNode_forall₂ {node : Nat → α → Outcome (β × Nat)}
    (h : eachNode node budget xs = .ok (ys, rest))
    (hnode : ∀ x ∈ xs, ∀ budget y rest, node budget x = .ok (y, rest) → P x y) :
    List.Forall₂ P xs ys := by
  induction xs generalizing ys budget with
  | nil =>
    simp only [eachNode, ok_steps] at h
    rw [← h.1]
    exact .nil
  | cons x _ ih =>
    simp only [eachNode, ok_steps] at h
    obtain ⟨⟨y, left⟩, hy, ⟨others, last⟩, hrest, rfl, rfl⟩ := h
    exact .cons (hnode x mem_cons_self budget y left hy)
      (ih hrest (fun x hx => hnode x (mem_cons_of_mem _ hx)))

theorem ifThere_cases {part : Option α} {f : α → Outcome (β × Nat)} {out : Option β}
    (h : ifThere part budget f = .ok (out, rest)) :
    (part = none ∧ out = none) ∨ ∃ x y, part = some x ∧ out = some y ∧ f x = .ok (y, rest) := by
  unfold ifThere at h
  split at h
  · simp only [ok_steps] at h
    exact .inl ⟨rfl, h.1.symm⟩
  · next x =>
    simp only [ok_steps] at h
    obtain ⟨⟨y, left⟩, hy, rfl, rfl⟩ := h
    exact .inr ⟨x, y, rfl, rfl, hy⟩

theorem forall₂_all {f : α → Bool} {g : β → Bool} (h : List.Forall₂ P xs ys)
    (hfg : ∀ x y, P x y → g y = f x) :
    ys.all g = xs.all f := by
  induction h with
  | nil => rfl
  | cons hxy _ ih => rw [all_cons, all_cons, hfg _ _ hxy, ih]

theorem forall₂_any {f : α → Bool} {g : β → Bool} (h : List.Forall₂ P xs ys)
    (hfg : ∀ x y, P x y → g y = f x) :
    ys.any g = xs.any f := by
  induction h with
  | nil => rfl
  | cons hxy _ ih => rw [any_cons, any_cons, hfg _ _ hxy, ih]

theorem any_zipIdx (f : α → Bool) (xs : List α) : xs.zipIdx.any (fun x => f x.1) = xs.any f := by
  have h := List.any_map (f := Prod.fst) (l := xs.zipIdx) (p := f)
  rw [List.zipIdx_map_fst] at h
  exact h.symm

theorem structuralFields_agree {childOut : GoogleSchema → Instance → Bool}
    (h : structuralFields node object type path budget =
      .ok ((properties, items, anyOf), rest)) (htype : type = nodeType object)
    (hnode : ∀ schema ∈ parts object, ∀ budget path out rest,
      node budget schema path = .ok (out, rest) → ∀ v, childOut out v = child schema v) :
    PartsAgree child childOut object type properties items anyOf := by
  simp only [structuralFields, ok_steps] at h
  obtain ⟨members, hmembers, ⟨ps, b1⟩, hps, ⟨is, b2⟩, his, choices, hchoices, ⟨as, b3⟩, has,
    ⟨rfl, rfl, rfl⟩, -⟩ := h
  constructor
  · intro values
    unfold propertyMembers at hmembers
    split at hmembers
    · next hget =>
      simp only [pure_eq_ok] at hmembers
      subst hmembers
      rcases ifThere_cases hps with ⟨-, rfl⟩ | ⟨x, y, hx, -⟩
      · simp [propertiesValid, memberList, hget]
      · cases hx
    · next value hget =>
      split at hmembers
      · next ht =>
        simp only [ok_steps] at hmembers
        obtain ⟨schemas, hschemas, rfl⟩ := hmembers
        rcases ifThere_cases hps with ⟨hx, -⟩ | ⟨x, y, hx, rfl, hy⟩
        · cases hx
        · cases hx
          have hlist : memberList object "properties" = schemas := by
            simp [memberList, hget, hschemas]
          have hpart : ∀ x ∈ schemas, x.2 ∈ parts object := by
            intro x hx
            simp only [parts, ← htype, ht, if_true, mem_append, hlist]
            exact .inl (.inl (mem_map_of_mem hx))
          have hforall := eachNode_forall₂ (P := fun (x : String × Json)
              (y : String × GoogleSchema) =>
              x.1 = y.1 ∧ ∀ v, childOut y.2 v = child x.2 v) hy (by
            intro x hx budget y rest hnodeX
            simp only [ok_steps] at hnodeX
            obtain ⟨⟨out, left⟩, hout, rfl, -⟩ := hnodeX
            exact ⟨rfl, hnode x.2 (hpart x hx) _ _ _ _ hout⟩)
          simp only [all_some, ht, bne_self_eq_false, Bool.false_or, propertiesValid, hlist]
          refine forall₂_all hforall (fun x y hxy => ?_)
          rw [hxy.1]
          cases values.lookup y.1 with
          | none => rfl
          | some v => exact hxy.2 v
      · next ht =>
        simp only [pure_eq_ok] at hmembers
        subst hmembers
        rcases ifThere_cases hps with ⟨-, rfl⟩ | ⟨x, y, hx, -⟩
        · simp [ht]
        · cases hx
  · intro values
    by_cases ht : type = some .array
    · simp only [ht, if_true] at his
      rcases ifThere_cases his with ⟨hget, rfl⟩ | ⟨schema, y, hget, rfl, hy⟩
      · simp [hget]
      · have hmem : schema ∈ parts object := by
          simp only [parts, ← htype, ht, hget, if_true, mem_append, mem_toList]
          exact .inl (.inr trivial)
        simp only [all_some, ht, bne_self_eq_false, Bool.false_or, hget]
        exact congrArg _ (funext (hnode schema hmem _ _ _ _ hy))
    · simp only [ht, if_false] at his
      rcases ifThere_cases his with ⟨-, rfl⟩ | ⟨x, y, hx, -⟩
      · simp [ht]
      · cases hx
  · intro v
    unfold alternatives at hchoices
    split at hchoices
    · next hget =>
      simp only [pure_eq_ok] at hchoices
      subst hchoices
      rcases ifThere_cases has with ⟨-, rfl⟩ | ⟨x, y, hx, -⟩
      · simp [anyOfAccepts, anyOfValid, hget]
      · cases hx
    · next value hget =>
      simp only [ok_steps] at hchoices
      obtain ⟨schemas, hschemas, rfl⟩ := hchoices
      have harr : value = .arr schemas := by cases value <;> simp_all [Json.asArr]
      subst harr
      rcases ifThere_cases has with ⟨hx, -⟩ | ⟨x, y, hx, rfl, hy⟩
      · cases hx
      · cases hx
        have hforall := eachNode_forall₂ (P := fun (x : Json × Nat) (y : GoogleSchema) =>
            ∀ v, childOut y v = child x.1 v) hy (by
          intro x hx budget y rest hout
          refine hnode x.1 ?_ _ _ _ _ hout
          have hmem : x.1 ∈ schemas := List.fst_mem_of_mem_zipIdx hx
          simp only [parts, hget, bind_some, Json.asArr, getD_some, mem_append]
          exact .inr hmem)
        simp only [anyOfAccepts, anyOfValid, hget, all_some]
        rw [forall₂_any hforall (fun x y hxy => hxy v)]
        exact any_zipIdx (fun schema => child schema v) schemas

/-! ## Nodes -/

theorem nodeValid_of_annotations
    (h : object.find? (fun x => !referenceSiblings.contains x.1) = none) (v : Instance) :
    nodeValid R child object v = true := by
  have hnone : ∀ keyword, referenceSiblings.contains keyword = false →
      object.get keyword = none := by
    intro keyword hkeyword
    cases hget : object.get keyword with
    | none => rfl
    | some value =>
      have hmem : (keyword, value) ∈ object := by
        obtain ⟨before, after, rfl, -⟩ := List.lookup_eq_some_iff.mp hget
        simp
      have := List.find?_eq_none.mp h _ hmem
      simp only [guard_iffs, Bool.not_eq_false] at this
      rw [hkeyword] at this
      cases this
  have hkinds : kindKeywords.find? object.has = none := by
    rw [List.find?_eq_none]
    intro keyword hmem
    have hout : ∀ keyword ∈ kindKeywords, referenceSiblings.contains keyword = false := by
      decide
    simp [Object.has, hnone keyword (hout keyword hmem)]
  have hrefused : refusedKeywords.find? object.has = none := by
    rw [List.find?_eq_none]
    intro keyword hmem
    have hout : ∀ keyword ∈ refusedKeywords, referenceSiblings.contains keyword = false := by
      decide
    simp [Object.has, hnone keyword (hout keyword hmem)]
  simp [nodeValid, typeValid, constValid, enumValid, formatValid, stringKeyword, anyOfValid,
    kindValid_of_no_keyword hkinds, R.composed_none child object v hrefused,
    hnone "type" (by decide), hnone "const" (by decide), hnone "enum" (by decide),
    hnone "format" (by decide), hnone "anyOf" (by decide)]

theorem acceptsAll_valid (R : Reading) (root : Json) (depth : Nat) :
    AcceptsAll (valid R root depth) := by
  intro schema v ht
  cases depth with
  | zero => exact ht
  | succ depth =>
    cases schema with
    | bool => exact ht
    | obj object =>
      have hempty : object = [] := by simpa [Json.isTrueSchema] using ht
      subst hempty
      have hnode : nodeValid R (valid R root depth) [] v = true :=
        nodeValid_of_annotations rfl v
      rw [valid, hnode]
      rfl
    | _ => simp [Json.isTrueSchema] at ht

theorem overrideAnnotations_accepts {target : GoogleSchema}
    (h : overrideAnnotations object path target = .ok out) (depth : Nat) (v : Instance) :
    googleAccepts R dec depth out v = googleAccepts R dec depth target v := by
  simp only [overrideAnnotations, bind_eq_ok] at h
  obtain ⟨title, -, description, -, h⟩ := h
  cases target with
  | mk =>
    simp only [pure_eq_ok] at h
    subst h
    cases depth with
    | zero => rfl
    | succ => cases v <;> rfl

def Agree (R : Reading) (dec : Decimals) (root : Json) (left : Nat) (schema : Json)
    (out : GoogleSchema) : Prop :=
  ∀ n ≥ left, ∀ v, valid R root n schema v = valid R root left schema v ∧
    googleAccepts R dec n out v = valid R root left schema v

theorem referenceTarget_spec {isRoot : Bool} {targetPath : SchemaPath}
    (h : referenceTarget root active isRoot object path = .ok (reference, target, targetPath)) :
    (object.get "$ref").bind Json.asStr = some reference ∧
      resolve root reference = some target ∧
      object.find? (fun x => !referenceSiblings.contains x.1) = none := by
  simp only [referenceTarget, ok_steps] at h
  obtain ⟨found, hfound, -, -, -, honly, pointed, hpointed, at', -, rfl, rfl, rfl⟩ := h
  refine ⟨hfound, hpointed, ?_⟩
  unfold onlyAnnotations at honly
  split at honly
  · simp only [throw_eq_ok] at honly
  · next hsiblings => exact hsiblings

theorem agree_reference {translated : GoogleSchema}
    (href : (object.get "$ref").bind Json.asStr = some reference)
    (hresolve : resolve root reference = some target)
    (hsiblings : object.find? (fun x => !referenceSiblings.contains x.1) = none)
    (hout : overrideAnnotations object path translated = .ok out)
    (hagree : Agree R dec root left target translated) :
    Agree R dec root (left + 1) (.obj object) out := by
  have hget : object.get "$ref" = some (.str reference) := by
    cases hget : object.get "$ref" with
    | none => simp [hget] at href
    | some value => cases value <;> simp_all [Json.asStr]
  have hvalid : ∀ n v, valid R root (n + 1) (.obj object) v = valid R root n target v := by
    intro n v
    have hnode : nodeValid R (valid R root n) object v = true :=
      nodeValid_of_annotations hsiblings v
    rw [valid, hnode, hget]
    simp [Json.asStr, hresolve]
  intro n hn v
  rw [hvalid left v, overrideAnnotations_accepts hout]
  refine ⟨?_, (hagree n (by omega) v).2⟩
  cases n with
  | zero => omega
  | succ n => rw [hvalid n v, (hagree n (by omega) v).1]

theorem agree_node {output fields : GoogleFields} (href : object.get "$ref" = none)
    (hscalar : scalarFields dec object path = .ok (type, output))
    (hstructural : structuralFields node object type path budget =
      .ok ((properties, items, anyOf), rest))
    (hb : boundFields dec object type output path = .ok fields)
    (hexact : exactNode dec (valid R root left) object = true)
    (hnode : ∀ schema ∈ parts object, ∀ budget path out rest,
      node budget schema path = .ok (out, rest) → Agree R dec root left schema out) :
    Agree R dec root (left + 1) (.obj object) (.mk fields properties items anyOf) := by
  have hfixed : exactFixed dec object = true ∧ exactEnum object = true := by
    simp only [exactNode, exactNumbers, guard_iffs] at hexact
    exact ⟨hexact.2.1, hexact.1.1.2⟩
  obtain ⟨values, hs, -⟩ := unbounded_of_scalarFields hscalar hfixed.1 hfixed.2
  have hparts : ∀ n ≥ left, ∀ m ≥ left, PartsAgree (valid R root n)
      (googleAccepts R dec m) object type properties items anyOf := by
    intro n hn m hm
    refine structuralFields_agree hstructural hs.nodeType (fun schema hmem b p out r hout v => ?_)
    have hagree := hnode schema hmem b p out r hout
    rw [(hagree m hm v).2, (hagree n hn v).1]
  have hboth : ∀ n ≥ left, ∀ m ≥ left, ∀ v,
      nodeAccepts R dec (googleAccepts R dec m) fields properties items anyOf v =
        nodeValid R (valid R root n) object v := by
    intro n hn m hm v
    refine node_exact hscalar hb (acceptsAll_valid R root n) ?_ (hparts n hn m hm) v
    -- whether `anyOf` accepts `null` does not depend on the depth
    have hnull : anyOfValid (valid R root n) object .null =
        anyOfValid (valid R root left) object .null := by
      rw [← (hparts n hn m hm).anyOf, ← (hparts left (Nat.le_refl _) m hm).anyOf]
    simpa only [exactNode, exactNull, hnull] using hexact
  have hvalid : ∀ n v, valid R root (n + 1) (.obj object) v =
      nodeValid R (valid R root n) object v := by
    intro n v
    rw [valid, href]
    rfl
  intro n hn v
  cases n with
  | zero => omega
  | succ n =>
    have hleft := hboth left (Nat.le_refl _) left (Nat.le_refl _) v
    rw [hvalid n v, hvalid left v, googleAccepts, hboth left (Nat.le_refl _) n (by omega) v]
    refine ⟨?_, rfl⟩
    rw [← hboth n (by omega) left (Nat.le_refl _) v, hleft]

theorem translateNode_agree {schema : Json}
    (h : translateNode dec root left active budget schema path = .ok (out, rest))
    (hexact : exact dec R root left schema = true) : Agree R dec root left schema out := by
  induction left generalizing active budget rest schema path out with
  | zero => cases budget <;> simp [translateNode] at h
  | succ _ ih =>
    cases budget with
    | zero => simp [translateNode] at h
    | succ =>
      simp only [translateNode, ok_steps] at h
      obtain ⟨object, hobject, h⟩ := h
      have hobj : schema = .obj object := by cases schema <;> simp_all [Json.asObj]
      subst hobj
      simp only [exact] at hexact
      split at h
      · next href =>
        simp only [ok_steps] at h
        obtain ⟨⟨reference, target, targetPath⟩, htarget, ⟨translated, left'⟩, htranslated,
          overridden, hout, rfl, -⟩ := h
        obtain ⟨hreference, hresolve, hsiblings⟩ := referenceTarget_spec htarget
        simp only [href, if_true, hreference, bind_some, hresolve, all_some] at hexact
        exact agree_reference hreference hresolve hsiblings hout (ih htranslated hexact)
      · next href =>
        have hget : object.get "$ref" = none := by simpa [Object.has] using href
        simp only [ok_steps] at h
        obtain ⟨-, ⟨type, output⟩, hscalar, ⟨⟨properties, items, anyOf⟩, left'⟩, hstructural,
          -, fields, hb, rfl, -⟩ := h
        simp only [href, if_bool, guard_iffs, all_eq_true] at hexact
        exact agree_node hget hscalar hstructural hb hexact.1
          (fun schema hmem _ _ _ _ hout => ih hout (hexact.2 schema hmem))

/-! ## Documents -/

/-- A schema that the translator accepts, without a keyword at a node without
a type, with bounds that doubles keep and with `null` in the types only where
`anyOf` has it, is accepted by the same instances as what it becomes. -/
theorem translate_exact {R : Reading} {dec : Decimals} {schema : Json} {rootPath : String}
    {out : GoogleSchema} (h : translate dec schema rootPath = .ok out)
    (hexact : exact dec R schema (maxReferenceDepth + 1) schema = true) (v : Instance) :
    Accepts R schema v ↔ GoogleAccepts R dec out v := by
  simp only [translate, ok_steps] at h
  obtain ⟨⟨translated, rest⟩, htranslated, rfl⟩ := h
  have hagree := translateNode_agree htranslated hexact
  constructor
  · rintro ⟨depth, hvalid⟩
    refine ⟨maxReferenceDepth + 1, fun n hn => ?_⟩
    have hboth := hagree n hn v
    have hdeep := hagree (max n depth) (hn.trans (le_max_left n depth)) v
    rw [hboth.2, ← hdeep.1]
    exact hvalid _ (le_max_right n depth)
  · rintro ⟨depth, haccepts⟩
    refine ⟨maxReferenceDepth + 1, fun n hn => ?_⟩
    have hboth := hagree n hn v
    have hdeep := hagree (max n depth) (hn.trans (le_max_left n depth)) v
    rw [hboth.1, ← hdeep.2]
    exact haccepts _ (le_max_right n depth)

def permissive : Reading where
  pattern := fun _ _ => true
  format := fun _ _ => true
  format_null := fun _ => rfl
  unevaluated := fun _ _ => true
  composed := fun _ _ _ => true
  composed_none := fun _ _ _ _ => rfl

def wholeDecimals : Decimals where
  parse := fun n =>
    if h : n.value.den = 1 ∧ n.value.num.natAbs < 2 ^ 53 then
      some ⟨decide (n.value.num < 0), n.value.num.natAbs, h.2.trans (by decide)⟩
    else none
  text := fun x => x.signed
  text_le := fun x y => by simp

/-- An object with a reference, a type with `null` and a `const`. -/
def modeSchema : Json :=
  .obj [
    ("$defs", .obj [("Mode", .obj [("const", .str "fast"), ("type", .str "string")])]),
    ("properties", .obj [
      ("mode", .obj [("$ref", .str "#/$defs/Mode")]),
      ("note", .obj [("type", .arr [.str "string", .str "null"])])]),
    ("required", .arr [.str "mode"]),
    ("type", .str "object")]

def modeSchemaOut : GoogleSchema :=
  .mk { type := some .object, required := some ["mode"] }
    (some [
      ("mode", .mk { type := some .string, enum := some ["fast"] } none none none),
      ("note", .mk { type := some .string, nullable := some true } none none none)])
    none none

/-- One of the two properties is null. -/
theorem translate_modeSchema :
    Accepts permissive modeSchema (.obj [("mode", .str "fast"), ("note", .null)]) ↔
      GoogleAccepts permissive wholeDecimals modeSchemaOut
        (.obj [("mode", .str "fast"), ("note", .null)]) := by
  have hout : translate wholeDecimals modeSchema "schema" = .ok modeSchemaOut := by
    with_unfolding_all rfl
  exact translate_exact hout (by decide +kernel) _

/-- Alternatives without a type beside them: `minLength` is dropped. -/
def looseSchema : Json :=
  .obj [("anyOf", .arr [.obj [("type", .str "string")]]),
    ("minLength", .num { minus := false, digits := [3] })]

def looseSchemaOut : GoogleSchema :=
  .mk {} none none (some [.mk { type := some .string } none none none])

/-- A string that is too short is accepted after the translation. -/
theorem looseSchema_widened :
    translate wholeDecimals looseSchema "schema" = .ok looseSchemaOut ∧
      GoogleAccepts permissive wholeDecimals looseSchemaOut (.str "ab") ∧
      ¬Accepts permissive looseSchema (.str "ab") := by
  refine ⟨by with_unfolding_all rfl, ⟨2, fun n hn => ?_⟩, ?_⟩
  · obtain ⟨k, rfl⟩ := Nat.exists_eq_add_of_le' hn
    rfl
  · rintro ⟨depth, hvalid⟩
    have hlength : ∀ object, looseSchema = .obj object →
        stringValid permissive object "ab" = false := by
      intro object hobject
      cases hobject
      decide +kernel
    have hdeep := hvalid (depth + 1) (Nat.le_succ depth)
    simp [looseSchema, valid, nodeValid, kindValid, hlength _ rfl] at hdeep

end ApiToken.GeminiSchema
