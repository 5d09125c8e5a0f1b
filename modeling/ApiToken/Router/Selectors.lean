import ApiToken.Lib.Fallible
import ApiToken.Lib.Members
import ApiToken.Meter.Usage

/-!
# Routing selectors

`extract_routing_selectors` of `router/src/selectors.rs` reads the top level of
a body member by member; a body with `models` or `provider` is then parsed
whole. What `serde_json` finds in the bytes is a parameter.
-/

namespace ApiToken.Router

open Meter (Value)

/-! ## JSON texts -/

structure Key where
  text : String
  escaped : Bool

structure Member where
  key : Key
  value : Value

/-- How a text goes on behind the last readable member of its object. -/
inductive Ending where
  | whole
  /-- Something follows the closing brace. -/
  | trailing (message : String)
  /-- The text is no JSON, behind a last key if there is one. -/
  | broken (key : Option Key) (message : String)

inductive Reading where
  | object (members : List Member) (ending : Ending)
  /-- Another value, and what the object visitor says of it. -/
  | other (v : Value) (message : String)
  | malformed (message : String)

/-- `serde_json`: what it reads, and what it says of a key that cannot be
borrowed from the text. -/
structure Serde where
  read : List UInt8 → Reading
  borrowed : String → String

def fieldsOf (members : List Member) : List (String × Value) :=
  members.foldl (fun fields m => setMember m.key.text m.value fields) []

/-- `serde_json::from_slice::<Value>`. -/
def Serde.fullParse (serde : Serde) (bytes : List UInt8) : Option Value :=
  match serde.read bytes with
  | .object members .whole => some (.object (fieldsOf members))
  | .other v _ => some v
  | _ => none

/-! ## Extraction -/

structure RoutingSelectors where
  model : String
  hasModels : Bool
  hasProvider : Bool
  hasServiceTierAlias : Bool
deriving DecidableEq

inductive SelectorError where
  | invalidJson | duplicateField | missingModel | invalidModel
deriving DecidableEq

/-- The variables of `visit_map`. -/
structure Seen where
  model : Option String
  seenModel : Bool
  hasModels : Bool
  hasProvider : Bool
  hasServiceTierAlias : Bool

def Seen.nothing : Seen := ⟨none, false, false, false, false⟩

def Seen.has (s : Seen) (key : String) : Bool :=
  if key = "model" then s.seenModel
  else if key = "models" then s.hasModels
  else if key = "provider" then s.hasProvider
  else if key = "serviceTier" then s.hasServiceTierAlias
  else false

/-- `next_key`, and the check for a duplicate. -/
def Serde.admit (serde : Serde) (s : Seen) (key : Key) : Except String Unit := do
  failIf key.escaped (serde.borrowed key.text)
  failIf (s.has key.text) "duplicate routing field"

def modelOf : Value → Option String
  | .string model => if model.isEmpty then none else some model
  | _ => none

def Seen.note (s : Seen) (m : Member) : Except String Seen :=
  if m.key.text = "model" then do
    let model ← orFail (modelOf m.value) "invalid model"
    return { s with model := some model, seenModel := true }
  else if m.key.text = "models" then .ok { s with hasModels := true }
  else if m.key.text = "provider" then .ok { s with hasProvider := true }
  else if m.key.text = "serviceTier" then .ok { s with hasServiceTierAlias := true }
  else .ok s

def Serde.visit (serde : Serde) (s : Seen) (m : Member) : Except String Seen := do
  serde.admit s m.key
  s.note m

def Seen.selectors (s : Seen) : Except String RoutingSelectors := do
  let model ← orFail s.model "missing model"
  return ⟨model, s.hasModels, s.hasProvider, s.hasServiceTierAlias⟩

/-- `visit_map`, and what the end of the text makes of its answer. -/
def Serde.deserialize (serde : Serde) (bytes : List UInt8) :
    Except String RoutingSelectors :=
  match serde.read bytes with
  | .object members .whole => do
      let s ← members.foldlM serde.visit Seen.nothing
      s.selectors
  | .object members (.trailing message) => do
      let s ← members.foldlM serde.visit Seen.nothing
      let _ ← s.selectors
      throw message
  | .object members (.broken none message) => do
      let _ ← members.foldlM serde.visit Seen.nothing
      throw message
  | .object members (.broken (some key) message) => do
      let s ← members.foldlM serde.visit Seen.nothing
      serde.admit s key
      throw message
  | .other _ message => throw message
  | .malformed message => throw message

def contains (text part : String) : Bool :=
  text.toList.tails.any (part.toList.isPrefixOf ·)

def classify (message : String) : SelectorError :=
  if contains message "duplicate routing field" then .duplicateField
  else if contains message "missing model" then .missingModel
  else if contains message "invalid model" then .invalidModel
  else .invalidJson

def extractRoutingSelectors (serde : Serde) (bytes : List UInt8) :
    Except SelectorError RoutingSelectors :=
  match serde.deserialize bytes with
  | .ok selectors => .ok selectors
  | .error message => .error (classify message)

/-! ## Agreement -/

def routingKeys : List String := ["model", "models", "provider", "serviceTier"]

def reported (v : Value) : Option RoutingSelectors :=
  (v.get "model").bind fun model => (modelOf model).map fun model =>
    ⟨model, (v.get "models").isSome, (v.get "provider").isSome, (v.get "serviceTier").isSome⟩

def keysOf (members : List Member) : List String := members.map (·.key.text)

/-- No routing key twice, and a non-empty string as the model. -/
structure Routable (members : List Member) : Prop where
  once : ∀ key ∈ routingKeys, (keysOf members).count key ≤ 1
  model : ∃ model, model ≠ "" ∧ (fieldsOf members).lookup "model" = some (.string model)

/-- The extraction gives what the whole value says, for the bodies that can be
routed and for no others. -/
def Agrees (serde : Serde) (bytes : List UInt8) : Prop :=
  ∀ selectors, extractRoutingSelectors serde bytes = .ok selectors ↔
    ∃ members, serde.read bytes = .object members .whole ∧ Routable members ∧
      (serde.fullParse bytes).bind reported = some selectors

/-! ## Members and their map -/

theorem fieldsOf_concat (members : List Member) (m : Member) :
    fieldsOf (members ++ [m]) = setMember m.key.text m.value (fieldsOf members) := by
  rw [fieldsOf, foldl_append]
  rfl

theorem keysOf_concat (members : List Member) (m : Member) :
    keysOf (members ++ [m]) = keysOf members ++ [m.key.text] :=
  map_append

theorem lookup_isSome_iff (members : List Member) (key : String) :
    ((fieldsOf members).lookup key).isSome = true ↔ key ∈ keysOf members := by
  induction members using List.reverseRecOn with
  | nil => simp [fieldsOf, keysOf]
  | append_singleton _ m ih =>
    rw [fieldsOf_concat, keysOf_concat, mem_append, mem_singleton]
    by_cases hkey : key = m.key.text
    · simp [hkey]
    · rw [lookup_setMember_ne hkey, ih]
      simp [hkey]

variable {members : List Member}

theorem lookup_of_mem {m : Member} (hm : m ∈ members)
    (honce : (keysOf members).count m.key.text ≤ 1) :
    (fieldsOf members).lookup m.key.text = some m.value := by
  induction members using List.reverseRecOn with
  | nil => cases hm
  | append_singleton members last ih =>
    rw [keysOf_concat, count_append, List.count_singleton] at honce
    rw [fieldsOf_concat]
    by_cases hkey : m.key.text = last.key.text
    · have hnone : m.key.text ∉ keysOf members := by
        rw [← List.count_eq_zero]
        simp only [hkey, beq_self_eq_true, if_true] at honce ⊢
        omega
      rcases mem_append.mp hm with hm | hm
      · exact absurd (mem_map_of_mem hm) hnone
      · rw [mem_singleton] at hm
        subst hm
        exact lookup_setMember_self
    · rw [lookup_setMember_ne hkey]
      refine ih ?_ (by omega)
      rcases mem_append.mp hm with hm | hm
      · exact hm
      · rw [mem_singleton] at hm
        exact absurd (by rw [hm]) hkey

/-! ## The loop -/

def seenOf (members : List Member) : Seen where
  model := ((fieldsOf members).lookup "model").bind modelOf
  seenModel := ((fieldsOf members).lookup "model").isSome
  hasModels := ((fieldsOf members).lookup "models").isSome
  hasProvider := ((fieldsOf members).lookup "provider").isSome
  hasServiceTierAlias := ((fieldsOf members).lookup "serviceTier").isSome

structure Clean (members : List Member) : Prop where
  plain : ∀ m ∈ members, m.key.escaped = false
  once : ∀ key ∈ routingKeys, (keysOf members).count key ≤ 1
  model : ∀ m ∈ members, m.key.text = "model" → (modelOf m.value).isSome = true

theorem clean_concat (members : List Member) (m : Member) :
    Clean (members ++ [m]) ↔ Clean members ∧ m.key.escaped = false ∧
      (m.key.text ∈ routingKeys → m.key.text ∉ keysOf members) ∧
      (m.key.text = "model" → (modelOf m.value).isSome = true) := by
  constructor
  · intro ⟨hplain, honce, hmodel⟩
    have honce' : ∀ key ∈ routingKeys, (keysOf members).count key
        + (if m.key.text == key then 1 else 0) ≤ 1 := by
      intro key hkey
      have := honce key hkey
      rwa [keysOf_concat, count_append, List.count_singleton] at this
    refine ⟨⟨fun x hx => hplain x (mem_append_left _ hx), fun key hkey => ?_,
      fun x hx => hmodel x (mem_append_left _ hx)⟩, hplain m (by simp), fun hkey => ?_,
      hmodel m (by simp)⟩
    · have := honce' key hkey
      omega
    · have := honce' _ hkey
      simp only [beq_self_eq_true, if_true] at this
      rw [← List.count_eq_zero]
      omega
  · intro ⟨⟨hplain, honce, hmodel⟩, hm, hnew, hvalue⟩
    refine ⟨fun x hx => ?_, fun key hkey => ?_, fun x hx => ?_⟩
    · rcases mem_append.mp hx with hx | hx
      · exact hplain x hx
      · rw [mem_singleton.mp hx]
        exact hm
    · rw [keysOf_concat, count_append, List.count_singleton]
      by_cases heq : m.key.text = key
      · subst heq
        simp [List.count_eq_zero.mpr (hnew hkey)]
      · simpa [heq] using honce key hkey
    · rcases mem_append.mp hx with hx | hx
      · exact hmodel x hx
      · rw [mem_singleton.mp hx]
        exact hvalue

theorem has_seenOf (members : List Member) (key : String) :
    (seenOf members).has key = true ↔ key ∈ routingKeys ∧ key ∈ keysOf members := by
  rw [← lookup_isSome_iff]
  unfold Seen.has
  by_cases h1 : key = "model"
  · subst h1; simp [seenOf, routingKeys]
  by_cases h2 : key = "models"
  · subst h2; simp [seenOf, routingKeys]
  by_cases h3 : key = "provider"
  · subst h3; simp [seenOf, routingKeys]
  by_cases h4 : key = "serviceTier"
  · subst h4; simp [seenOf, routingKeys]
  simp [h1, h2, h3, h4, routingKeys]

theorem note_seenOf (members : List Member) (m : Member) (s : Seen) :
    (seenOf members).note m = .ok s ↔
      (m.key.text = "model" → (modelOf m.value).isSome = true) ∧ seenOf (members ++ [m]) = s := by
  have hne {key : String} (h : key ≠ m.key.text) :
      (fieldsOf (members ++ [m])).lookup key = (fieldsOf members).lookup key := by
    rw [fieldsOf_concat, lookup_setMember_ne h]
  have hself : (fieldsOf (members ++ [m])).lookup m.key.text = some m.value := by
    rw [fieldsOf_concat, lookup_setMember_self]
  unfold Seen.note
  split
  · next hkey =>
    rw [hkey] at hne hself
    simp only [ok_steps, seenOf, hself, hne (show "models" ≠ "model" by decide),
      hne (show "provider" ≠ "model" by decide), hne (show "serviceTier" ≠ "model" by decide)]
    cases hmodel : modelOf m.value <;> simp [hkey, hmodel]
  · next h1 =>
    have hmodel := hne (Ne.symm h1)
    split
    · next hkey =>
      rw [hkey] at hne hself
      simp [seenOf, hself, hmodel, hkey, hne (show "provider" ≠ "models" by decide),
        hne (show "serviceTier" ≠ "models" by decide)]
    · next h2 =>
      split
      · next hkey =>
        rw [hkey] at hne hself
        simp [seenOf, hself, hmodel, hkey, hne (show "models" ≠ "provider" by decide),
          hne (show "serviceTier" ≠ "provider" by decide)]
      · next h3 =>
        split
        · next hkey =>
          rw [hkey] at hne hself
          simp [seenOf, hself, hmodel, hkey, hne (show "models" ≠ "serviceTier" by decide),
            hne (show "provider" ≠ "serviceTier" by decide)]
        · next h4 =>
          simp [seenOf, hmodel, h1, hne (Ne.symm h2), hne (Ne.symm h3), hne (Ne.symm h4)]

theorem visit_eq_ok_iff (serde : Serde) (members : List Member) (s : Seen) :
    members.foldlM serde.visit Seen.nothing = .ok s ↔ Clean members ∧ seenOf members = s := by
  induction members using List.reverseRecOn generalizing s with
  | nil =>
    have hclean : Clean [] := ⟨nofun, by simp [keysOf], nofun⟩
    simp only [List.foldlM_nil, pure_eq_ok, hclean, true_and]
    rfl
  | append_singleton members m ih =>
    rw [List.foldlM_append, clean_concat]
    simp only [foldlM_cons, ok_steps, ih, Serde.visit, Serde.admit, List.foldlM_nil]
    constructor
    · rintro ⟨_, ⟨hclean, rfl⟩, _, ⟨⟨hplain, hnew⟩, hnote⟩, rfl⟩
      obtain ⟨hmodel, hs⟩ := (note_seenOf members m _).mp hnote
      refine ⟨⟨hclean, hplain, fun hkey hmem => ?_, hmodel⟩, hs⟩
      simp [(has_seenOf members m.key.text).mpr ⟨hkey, hmem⟩] at hnew
    · rintro ⟨⟨hclean, hplain, hnew, hmodel⟩, hs⟩
      refine ⟨_, ⟨hclean, rfl⟩, s, ⟨⟨hplain, ?_⟩, (note_seenOf members m s).mpr ⟨hmodel, hs⟩⟩,
        rfl⟩
      rw [Bool.eq_false_iff]
      exact fun hhas => hnew ((has_seenOf _ _).mp hhas).1 ((has_seenOf _ _).mp hhas).2

/-! ## When they agree -/

theorem modelOf_eq_some {v : Value} {model : String} :
    modelOf v = some model ↔ v = .string model ∧ model ≠ "" := by
  cases v with
  | string =>
    simp only [modelOf]
    split
    · next h => simp_all
    · next h => simp_all; grind
  | _ => simp [modelOf]

theorem selectors_seenOf (members : List Member) (selectors : RoutingSelectors) :
    (seenOf members).selectors = .ok selectors
      ↔ reported (.object (fieldsOf members)) = some selectors := by
  simp only [Seen.selectors, ok_steps, seenOf, reported, Value.get, bind_eq_some_iff,
    map_eq_some_iff]
  grind

theorem reported_of_routable (h : Routable members) :
    ∃ selectors, reported (.object (fieldsOf members)) = some selectors := by
  obtain ⟨model, hne, hlookup⟩ := h.model
  simp only [reported, Value.get, hlookup, bind_some,
    modelOf_eq_some.mpr ⟨rfl, hne⟩, map_some, some.injEq, exists_eq']

theorem clean_iff_routable {selectors : RoutingSelectors}
    (h : reported (.object (fieldsOf members)) = some selectors) :
    Clean members ↔ Routable members ∧ ∀ m ∈ members, m.key.escaped = false := by
  simp only [reported, Value.get, bind_eq_some_iff, map_eq_some_iff] at h
  obtain ⟨v, hlookup, model, hmodel, -⟩ := h
  constructor
  · intro hclean
    obtain ⟨rfl, hne⟩ := modelOf_eq_some.mp hmodel
    exact ⟨⟨hclean.once, model, hne, hlookup⟩, hclean.plain⟩
  · intro ⟨hroutable, hplain⟩
    refine ⟨hplain, hroutable.once, fun m hm hkey => ?_⟩
    have hvalue := lookup_of_mem hm (hroutable.once _ (by rw [hkey]; decide))
    rw [hkey, hlookup] at hvalue
    cases hvalue
    rw [hmodel]
    rfl

theorem extract_eq_ok_iff (serde : Serde) (bytes : List UInt8) (selectors : RoutingSelectors) :
    extractRoutingSelectors serde bytes = .ok selectors ↔
      ∃ members, serde.read bytes = .object members .whole ∧ Routable members ∧
        (∀ m ∈ members, m.key.escaped = false) ∧
        (serde.fullParse bytes).bind reported = some selectors := by
  have hextract : extractRoutingSelectors serde bytes = .ok selectors
      ↔ serde.deserialize bytes = .ok selectors := by
    unfold extractRoutingSelectors
    split <;> simp_all
  rw [hextract]
  unfold Serde.deserialize Serde.fullParse
  split
  · next members hread =>
    simp only [bind_eq_ok, visit_eq_ok_iff, hread, bind_some, Reading.object.injEq,
      and_true, exists_eq_left']
    constructor
    · rintro ⟨_, ⟨hclean, rfl⟩, hselectors⟩
      have hreported := (selectors_seenOf members selectors).mp hselectors
      obtain ⟨hroutable, hplain⟩ := (clean_iff_routable hreported).mp hclean
      exact ⟨hroutable, hplain, hreported⟩
    · rintro ⟨hroutable, hplain, hreported⟩
      exact ⟨_, ⟨(clean_iff_routable hreported).mpr ⟨hroutable, hplain⟩, rfl⟩,
        (selectors_seenOf members selectors).mpr hreported⟩
  all_goals next hread => simp [hread, bind_eq_ok]

/-- The extraction agrees with the full parse exactly when no routable body
writes a top-level key with an escape. -/
theorem extract_agrees_iff (serde : Serde) (bytes : List UInt8) :
    Agrees serde bytes ↔ ∀ members, serde.read bytes = .object members .whole →
      Routable members → ∀ m ∈ members, m.key.escaped = false := by
  constructor
  · intro hagrees members hread hroutable
    obtain ⟨selectors, hreported⟩ := reported_of_routable hroutable
    have hok := (hagrees selectors).mpr ⟨members, hread, hroutable, by
      simpa [Serde.fullParse, hread] using hreported⟩
    obtain ⟨members', hread', -, hplain, -⟩ := (extract_eq_ok_iff _ _ _).mp hok
    rw [hread] at hread'
    cases hread'
    exact hplain
  · intro hplain selectors
    rw [extract_eq_ok_iff]
    constructor
    · rintro ⟨members, hread, hroutable, -, hreported⟩
      exact ⟨members, hread, hroutable, hreported⟩
    · intro ⟨members, hread, hroutable, hreported⟩
      exact ⟨members, hread, hroutable, hplain members hread hroutable, hreported⟩

/-- `\x7b"model":"a","\u0078":true\x7d`, which is JSON. -/
def escapedKeyText : List UInt8 :=
  [123, 34, 109, 111, 100, 101, 108, 34, 58, 34, 97, 34, 44, 34, 92, 117, 48, 48, 55, 56, 34,
    58, 116, 114, 117, 101, 125]

/-- A body with an escaped key is refused as invalid JSON. -/
theorem escaped_key_refused :
    let members : List Member := [⟨⟨"model", false⟩, .string "a"⟩, ⟨⟨"x", true⟩, .bool true⟩]
    let serde : Serde :=
      { read := fun bytes => if bytes = escapedKeyText then .object members .whole
          else .malformed "expected value"
        borrowed := fun key => "invalid type: string \"" ++ key
          ++ "\", expected a borrowed string" }
    extractRoutingSelectors serde escapedKeyText = .error .invalidJson
      ∧ Routable members ∧ ¬ Agrees serde escapedKeyText := by
  intro members serde
  have hroutable : Routable members := ⟨by decide, "a", by decide, rfl⟩
  have hrefused : extractRoutingSelectors serde escapedKeyText = .error .invalidJson := by
    decide +kernel
  refine ⟨hrefused, hroutable, fun hagrees => ?_⟩
  obtain ⟨selectors, hreported⟩ := reported_of_routable hroutable
  have hok := (hagrees selectors).mpr ⟨members, rfl, hroutable, hreported⟩
  rw [hrefused] at hok
  cases hok

end ApiToken.Router
