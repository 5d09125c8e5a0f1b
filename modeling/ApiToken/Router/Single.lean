import Mathlib.Data.List.ReduceOption
import ApiToken.Router.Plan

/-!
# The single-model path

`proxy_single` of `router/src/routing.rs` beside the chain path, over a catalog
parsed by `router/src/catalog.rs`. A model with a known namespace is routed by
its prefix alone; the chain asks the catalog and forwards the requested
spelling.
-/

namespace ApiToken.Router

open Meter (Value)

variable {model requested ns : String} {x : String × CatalogEntry}
  {entry : CatalogEntry} {fields : List (String × Value)}

/-! ## The planes' answers -/

def Plane.provider : Plane → ProviderNamespace
  | .anthropic => .anthropic
  | .openAi => .openAi
  | .gemini => .google
  | .kimi => .kimi

def Plane.namespaceName (plane : Plane) : String := plane.provider.asStr

inductive ModelAnswer where
  | notObject
  | object (id : Option String) (metadataValid : Bool)

def maxModelsPerPlane : Nat := 1024

def maxModelStringBytes : Nat := 256

/-- `char::is_control`. -/
def isControl (c : Char) : Bool := c.toNat < 32 || (127 ≤ c.toNat && c.toNat < 160)

def boundedModelId (value : Option String) : Except Unit (Option String) :=
  match value with
  | none => .ok none
  | some value => do
      if (trim value.toList).isEmpty then return none
      failIf (trim value.toList != value.toList || maxModelStringBytes < value.utf8ByteSize
        || value.toList.any isControl) ()
      return some value

def namespacedId (namespaceName nativeId : String) : Except Unit String := do
  let id := namespaceName ++ "/" ++ nativeId
  failIf (maxModelStringBytes < id.utf8ByteSize) ()
  return id

/-- The id a plane's parser reads: the Gemini one has its `models/` cut. -/
def Plane.idOf (plane : Plane) (id : String) : String :=
  if plane = .gemini then
    ((stripPrefix "models/".toList id.toList).map String.ofList).getD id
  else id

def anthropicAliases (id : String) : List String :=
  if id = "claude-haiku-4-5-20251001" then [id, "claude-haiku-4-5"] else [id]

def parseModel (plane : Plane) : ModelAnswer → Except Unit (Option CatalogEntry)
  | .notObject => .error ()
  | .object id metadataValid => do
      let some nativeId ← boundedModelId (id.map plane.idOf) | return none
      failIf (!metadataValid) ()
      let id ← namespacedId plane.namespaceName nativeId
      return some {
        id
        nativeId
        aliases := if plane = .anthropic then anthropicAliases nativeId else [nativeId] }

/-- `parse_anthropic`, `parse_openai`, `parse_gemini` and `parse_kimi`. -/
def parsePlane (plane : Plane) (models : List ModelAnswer) : Except Unit (List CatalogEntry) := do
  failIf (maxModelsPerPlane < models.length) ()
  let entries := (← models.mapM (parseModel plane)).reduceOption
  failIf (decide (¬ (entries.map (·.id)).Nodup)) ()
  return entries

/-- `aggregate` where no plane rejects the key: each plane gives the entries of
the answer it holds, if that parses. -/
def catalogOf (answers : Plane → Option (List ModelAnswer)) : Aggregate where
  authRejected := false
  entries := Plane.all.flatMap fun plane =>
    match (answers plane).map (parsePlane plane) with
    | some (.ok entries) => entries.map (fun entry => (plane.namespaceName, entry))
    | _ => []

/-! ## The route -/

def providerForNamespacedModel (model : String) : Option ProviderNamespace :=
  match model.toList.dropWhile (· != '/') with
  | _ :: _ :: _ => providerForNamespace (String.ofList (model.toList.takeWhile (· != '/')))
  | _ => none

inductive SingleRefusal where
  | authRejected
  | catalogUnavailable
  | modelNotFound (model : String)
deriving DecidableEq

/-- Where `proxy_single` sends a request; the origin is the provider's plane. -/
structure SingleRoute where
  provider : ProviderNamespace
  rewriteNativeModel : Option String
deriving DecidableEq

def resolveSingle (aggregate : Aggregate) (model : String) :
    Except SingleRefusal SingleRoute :=
  match providerForNamespacedModel model with
  | some provider => .ok ⟨provider, none⟩
  | none => do
      failIf aggregate.authRejected .authRejected
      let entries := dedup aggregate.entries
      failIf entries.isEmpty .catalogUnavailable
      let (namespaceOf, entry) ← orFail (find entries model) (.modelNotFound model)
      let provider ← orFail (providerForNamespace namespaceOf) (.modelNotFound model)
      return ⟨provider, if entry.nativeId != model then some entry.nativeId else none⟩

/-- The body `proxy_single` forwards. -/
def SingleRoute.body (route : SingleRoute) (fields : List (String × Value)) :
    List (String × Value) :=
  match route.rewriteNativeModel with
  | some nativeModel => insertField fields "model" (.string nativeModel)
  | none => fields

def ResolvedAttempt.body (attempt : ResolvedAttempt) (fields : List (String × Value)) :
    List (String × Value) :=
  insertField fields "model" (.string attempt.bodyModelValue)

/-- The model a plane runs for a body: its own namespace is cut from `model`. -/
def executedModel (provider : ProviderNamespace) (fields : List (String × Value)) :
    Option String :=
  match fields.lookup "model" with
  | some (.string model) =>
    some (((stripPrefix (provider.asStr ++ "/").toList model.toList).map
      String.ofList).getD model)
  | _ => none

/-- Both paths send the model to one provider under one spelling, and the
model that runs is the one the policy is asked about. -/
def SameResolution (aggregate : Aggregate) (fields : List (String × Value))
    (requested : String) : Prop :=
  ∃ attempt route, resolveOne (dedup aggregate.entries) requested = .ok attempt ∧
    resolveSingle aggregate requested = .ok route ∧
    route.provider = attempt.provider ∧
    (route.body fields).lookup "model" = (attempt.body fields).lookup "model" ∧
    executedModel attempt.provider (attempt.body fields) = some attempt.canonicalModelId

/-! ## Namespaced models -/

variable {provider : ProviderNamespace}

theorem asStr_of_providerForNamespace {name : String}
    (h : providerForNamespace name = some provider) : name = provider.asStr := by
  unfold providerForNamespace at h
  split at h
  · cases h; assumption
  · split at h
    · cases h; assumption
    · split at h
      · cases h; assumption
      · split at h
        · cases h; assumption
        · cases h

theorem asStr_plain (provider : ProviderNamespace) :
    ∀ c ∈ provider.asStr.toList, (c != '/') = true := by
  rw [← all_eq_true]
  cases provider <;> rfl

theorem providerForNamespacedModel_eq_some :
    providerForNamespacedModel model = some provider ↔
      ∃ rest, rest ≠ [] ∧ model.toList = (provider.asStr ++ "/").toList ++ rest := by
  unfold providerForNamespacedModel
  rw [String.toList_append]
  constructor
  · intro h
    have hsplit := List.takeWhile_append_dropWhile (p := (· != '/')) (l := model.toList)
    split at h
    · rename_i c d rest hrest
      have hslash : c = '/' := by
        have := List.head_dropWhile_not (p := (· != '/')) (l := model.toList)
          (by rw [hrest]; simp)
        simpa [hrest] using this
      rw [hrest, hslash, ← String.toList_ofList (l := List.takeWhile _ _),
        asStr_of_providerForNamespace h] at hsplit
      exact ⟨d :: rest, by simp, by simpa using hsplit.symm⟩
    · cases h
  · intro ⟨rest, hne, hmodel⟩
    obtain ⟨d, rest, rfl⟩ := List.exists_cons_of_ne_nil hne
    have hlead := asStr_plain provider
    have hslash : "/".toList = ['/'] := by decide
    simp only [hmodel, hslash, append_assoc, cons_append, nil_append,
      List.takeWhile_append_of_pos hlead, List.dropWhile_append_of_pos hlead,
      List.takeWhile_cons, List.dropWhile_cons, bne_self_eq_false, if_bool, append_nil,
      String.ofList_toList]
    cases provider <;> rfl

/-! ## Entries of a catalog -/

theorem mem_firstById {entries : List (String × CatalogEntry)}
    (hx : x ∈ firstById entries) : x ∈ entries := by
  induction entries with
  | nil => exact hx
  | cons _ _ ih =>
    rcases mem_cons.mp hx with rfl | hrest
    · exact mem_cons_self
    · exact mem_cons_of_mem _ (ih (List.mem_of_mem_filter hrest))

structure Published (namespaceName : String) (entry : CatalogEntry) : Prop where
  known : ∃ provider, providerForNamespace namespaceName = some provider ∧
    namespaceName = provider.asStr
  id_eq : entry.id = namespaceName ++ "/" ++ entry.nativeId
  nonempty : entry.nativeId.toList ≠ []

theorem published_of_parseModel {plane : Plane} {answer : ModelAnswer}
    (h : parseModel plane answer = .ok (some entry)) :
    Published plane.namespaceName entry := by
  cases answer with
  | notObject => cases h
  | object id metadataValid =>
    simp only [parseModel, bind_eq_ok] at h
    obtain ⟨bounded, hbounded, h⟩ := h
    cases bounded with
    | none => cases h
    | some nativeId =>
      simp only [namespacedId, ok_steps, some.injEq] at h
      obtain ⟨-, _, ⟨-, rfl⟩, rfl⟩ := h
      refine ⟨⟨plane.provider, by cases plane <;> rfl, rfl⟩, rfl, fun hempty => ?_⟩
      cases hid : id.map plane.idOf with
      | none =>
        rw [hid] at hbounded
        cases hbounded
      | some value =>
        rw [hid, boundedModelId] at hbounded
        split at hbounded
        · cases hbounded
        · rename_i hblank
          simp only [ok_steps, some.injEq] at hbounded
          obtain ⟨-, rfl⟩ := hbounded
          exact hblank (by rw [hempty]; rfl)

theorem published_of_find {answers : Plane → Option (List ModelAnswer)}
    (h : find (dedup (catalogOf answers).entries) requested = some (ns, entry)) :
    Published ns entry := by
  have hmem : (ns, entry) ∈ dedup (catalogOf answers).entries := by
    rcases Option.or_eq_some_iff.mp h with h | ⟨-, h⟩ <;> exact mem_of_find?_eq_some h
  obtain ⟨⟨ns', entry'⟩, hfirst, heq⟩ := mem_map.mp hmem
  cases heq
  obtain ⟨plane, -, hplane⟩ := mem_flatMap.mp (mem_firstById hfirst)
  split at hplane
  · rename_i entries hanswer
    obtain ⟨models, -, hparse⟩ := map_eq_some_iff.mp hanswer
    obtain ⟨entry'', hentry, heq⟩ := mem_map.mp hplane
    cases heq
    simp only [parsePlane, ok_steps] at hparse
    obtain ⟨-, parsed, hmodels, -, rfl⟩ := hparse
    rw [List.reduceOption_mem_iff] at hentry
    obtain ⟨answer, -, hanswer⟩ := exists_of_mem_mapM hmodels hentry
    have hparsed := published_of_parseModel hanswer
    exact ⟨hparsed.known, hparsed.id_eq, hparsed.nonempty⟩
  · cases hplane

theorem requested_of_find {entries : List (String × CatalogEntry)}
    (h : find entries requested = some x) : entries ≠ [] := by
  rintro rfl
  cases h

theorem Published.provider_of_id (h : Published ns entry) :
    providerForNamespacedModel entry.id = providerForNamespace ns := by
  obtain ⟨provider, hns, rfl⟩ := h.known
  rw [hns, providerForNamespacedModel_eq_some, h.id_eq]
  exact ⟨entry.nativeId.toList, h.nonempty, String.toList_append ..⟩

/-! ## The model that runs -/

theorem executedModel_named {nativeId : String}
    (hfields : fields.lookup "model" = some (.string model))
    (hmodel : model = provider.asStr ++ "/" ++ nativeId) :
    executedModel provider fields = some nativeId := by
  simp [executedModel, hfields, stripPrefix, hmodel, String.toList_append]

theorem executedModel_unnamed (hfields : fields.lookup "model" = some (.string model))
    (hmodel : ¬ (provider.asStr ++ "/").toList <+: model.toList) :
    executedModel provider fields = some model := by
  simp only [executedModel, hfields, stripPrefix, if_neg hmodel, map_none, getD_none]

/-- Both paths resolve a model the same way exactly when it is the id of its
entry, or a native id which no known namespace leads. -/
theorem same_resolution_iff (answers : Plane → Option (List ModelAnswer))
    (fields : List (String × Value)) (requested ns : String) (entry : CatalogEntry)
    (hfind : find (dedup (catalogOf answers).entries) requested = some (ns, entry))
    (hfields : fields.lookup "model" = some (.string requested)) :
    SameResolution (catalogOf answers) fields requested ↔
      requested = entry.id ∨ (requested = entry.nativeId ∧
        providerForNamespacedModel requested = none ∧
        ¬ (ns ++ "/").toList <+: requested.toList) := by
  have hpublished := published_of_find hfind
  obtain ⟨provider, hprovider, rfl⟩ := hpublished.known
  have hid := hpublished.id_eq
  let attempt : ResolvedAttempt := ⟨requested, entry.id, provider, entry.nativeId, provider.lane⟩
  have hattempt : resolveOne (dedup (catalogOf answers).entries) requested = .ok attempt := by
    simp only [resolveOne, ok_steps]
    exact ⟨_, hfind, provider, hprovider, rfl⟩
  have hbody : (attempt.body fields).lookup "model" = some (.string requested) :=
    lookup_insertField_self ..
  constructor
  · rintro ⟨attempt', route, hattempt', hroute, hsame, -, hexecuted⟩
    rw [hattempt] at hattempt'
    cases hattempt'
    by_cases hlead : (provider.asStr ++ "/").toList <+: requested.toList
    · left
      obtain ⟨rest, hrest⟩ := hlead
      have hrequested : requested = provider.asStr ++ "/" ++ String.ofList rest := by
        rw [← String.toList_inj, ← hrest]
        simp [String.toList_append]
      rw [executedModel_named hbody hrequested] at hexecuted
      rw [hid, hrequested, some.inj hexecuted]
    · right
      rw [executedModel_unnamed hbody hlead] at hexecuted
      refine ⟨some.inj hexecuted, ?_, hlead⟩
      by_contra hnamespaced
      obtain ⟨other, hother⟩ := Option.ne_none_iff_exists'.mp hnamespaced
      simp only [resolveSingle, hother, Except.ok.injEq] at hroute
      subst hroute
      obtain rfl : other = provider := hsame
      obtain ⟨rest, -, hrest⟩ := providerForNamespacedModel_eq_some.mp hother
      exact hlead ⟨rest, hrest.symm⟩
  · rintro (hrequested | ⟨hrequested, hnone, hlead⟩)
    · refine ⟨attempt, ⟨provider, none⟩, hattempt, ?_, rfl, by rw [hbody]; exact hfields, ?_⟩
      · simp only [resolveSingle, hrequested, hpublished.provider_of_id, hprovider]
      · exact executedModel_named hbody (hrequested.trans hid)
    · refine ⟨attempt, ⟨provider, none⟩, hattempt, ?_, rfl, by rw [hbody]; exact hfields, ?_⟩
      · have hentries := requested_of_find hfind
        simp only [resolveSingle, hnone, ok_steps]
        refine ⟨rfl, by simpa using hentries, _, hfind, provider, hprovider, ?_⟩
        simp [hrequested]
      · rw [executedModel_unnamed hbody hlead, hrequested]

/-- A catalog with one model, which Anthropic lists. -/
def listing (id : String) : Plane → Option (List ModelAnswer)
  | .anthropic => some [.object (some id) true]
  | _ => none

/-- Both paths run the listed id of the dated model, and its native id. -/
theorem same_resolution_haiku :
    SameResolution (catalogOf (listing "claude-haiku-4-5-20251001"))
        [("model", .string "anthropic/claude-haiku-4-5-20251001")]
        "anthropic/claude-haiku-4-5-20251001" ∧
      SameResolution (catalogOf (listing "claude-haiku-4-5-20251001"))
        [("model", .string "claude-haiku-4-5-20251001")] "claude-haiku-4-5-20251001" := by
  constructor
  · exact (same_resolution_iff (listing "claude-haiku-4-5-20251001") _ _ "anthropic"
      ⟨"anthropic/claude-haiku-4-5-20251001", "claude-haiku-4-5-20251001",
        ["claude-haiku-4-5-20251001", "claude-haiku-4-5"]⟩
      (by decide +kernel) rfl).mpr (.inl rfl)
  · exact (same_resolution_iff (listing "claude-haiku-4-5-20251001") _ _ "anthropic"
      ⟨"anthropic/claude-haiku-4-5-20251001", "claude-haiku-4-5-20251001",
        ["claude-haiku-4-5-20251001", "claude-haiku-4-5"]⟩
      (by decide +kernel) rfl).mpr (.inr ⟨rfl, by decide +kernel, by decide +kernel⟩)

/-- The alias of the dated model is rewritten on the single path only. A native
id that a namespace leads goes to that namespace's plane on the single path
only. -/
theorem haiku_alias_differs :
    resolveSingle (catalogOf (listing "claude-haiku-4-5-20251001")) "claude-haiku-4-5" =
        .ok ⟨.anthropic, some "claude-haiku-4-5-20251001"⟩ ∧
      ¬ SameResolution (catalogOf (listing "claude-haiku-4-5-20251001"))
        [("model", .string "claude-haiku-4-5")] "claude-haiku-4-5" ∧
      resolveSingle (catalogOf (listing "openai/o3")) "openai/o3" = .ok ⟨.openAi, none⟩ ∧
      ¬ SameResolution (catalogOf (listing "openai/o3"))
        [("model", .string "openai/o3")] "openai/o3" := by
  have hroute : resolveSingle (catalogOf (listing "claude-haiku-4-5-20251001"))
      "claude-haiku-4-5" = .ok ⟨.anthropic, some "claude-haiku-4-5-20251001"⟩ := by
    decide +kernel
  have hattempt : resolveOne (dedup (catalogOf (listing "claude-haiku-4-5-20251001")).entries)
      "claude-haiku-4-5" = .ok ⟨"claude-haiku-4-5", "anthropic/claude-haiku-4-5-20251001",
        .anthropic, "claude-haiku-4-5-20251001", .anthropic⟩ := by decide +kernel
  have hled : resolveSingle (catalogOf (listing "openai/o3")) "openai/o3" =
      .ok ⟨.openAi, none⟩ := by decide +kernel
  have hlisted : resolveOne (dedup (catalogOf (listing "openai/o3")).entries) "openai/o3" =
      .ok ⟨"openai/o3", "anthropic/openai/o3", .anthropic, "openai/o3", .anthropic⟩ := by
    decide +kernel
  refine ⟨hroute, ?_, hled, ?_⟩
  · rintro ⟨attempt, route, hattempt', hroute', -, hmodel, -⟩
    rw [hattempt] at hattempt'
    rw [hroute] at hroute'
    cases hattempt'
    cases hroute'
    simp [SingleRoute.body, ResolvedAttempt.body, insertField, hasField] at hmodel
  · rintro ⟨attempt, route, hattempt', hroute', hsame, -⟩
    rw [hlisted] at hattempt'
    rw [hled] at hroute'
    cases hattempt'
    cases hroute'
    cases hsame

end ApiToken.Router
