import ApiToken.Lib.Fallible
import ApiToken.Router.Policy

/-!
# The plan of a request

`proxy_universal` of `router/src/routing.rs` up to its first attempt, for a
request that has `models` or `provider`: the models it names are resolved in
one catalog snapshot, filtered and ordered by its provider preferences, and
filtered by the account's policy. Every check that fails answers the client
and sends nothing.
-/

namespace ApiToken.Router

open Meter (Value)

variable {attempts : List ResolvedAttempt} {env : Env} {r : Request} {p : Plan}

/-! ## The catalog -/

structure CatalogEntry where
  id : String
  nativeId : String
  aliases : List String
deriving DecidableEq

/-- What the catalog planes gave: entries with their namespaces. -/
structure Aggregate where
  authRejected : Bool
  entries : List (String × CatalogEntry)

def firstById : List (String × CatalogEntry) → List (String × CatalogEntry)
  | [] => []
  | entry :: rest =>
    entry :: (firstById rest).filter (fun other => other.2.id != entry.2.id)

/-- `dedup`: an alias stays when it is the alias of one entry, once, and no
id. -/
def dedup (entries : List (String × CatalogEntry)) : List (String × CatalogEntry) :=
  let out := firstById entries
  let ids := out.map (·.2.id)
  let aliases := out.flatMap (·.2.aliases)
  out.map (fun entry => (entry.1,
    { entry.2 with
      aliases := entry.2.aliases.filter (fun a => aliases.count a == 1 && !ids.contains a) }))

/-- `find`: by id, else by alias. -/
def find (entries : List (String × CatalogEntry)) (requested : String) :
    Option (String × CatalogEntry) :=
  (entries.find? (fun entry => entry.2.id == requested)).or
    (entries.find? (fun entry => entry.2.aliases.contains requested))

/-! ## The request -/

inductive Surface where
  | chat | responses | messages
deriving DecidableEq

/-- The answers that send nothing. -/
inductive Refusal where
  | invalid (message : String) (param : Option String)
  | authRejected
  | catalogUnavailable
  | policyUnavailable
  | policyRestricted
deriving DecidableEq

/-- A request whose body is an object with `models` or `provider`; its fields
have distinct names. `serviceTier` are the values of the
compatibility header. -/
structure Request where
  surface : Surface
  path : String
  fields : List (String × Value)
  serviceTier : List String

def hasField (fields : List (String × Value)) (key : String) : Bool :=
  (fields.lookup key).isSome

def removeField (fields : List (String × Value)) (key : String) :
    List (String × Value) :=
  fields.filter (·.1 != key)

def insertField (fields : List (String × Value)) (key : String) (v : Value) :
    List (String × Value) :=
  if hasField fields key then
    fields.map (fun x => if x.1 = key then (key, v) else x)
  else fields ++ [(key, v)]

/-- The rest of the world, as one request meets it. -/
structure Env where
  fallbackEnabled : Bool
  aggregate : Aggregate
  policyBodyLen : List PolicyCandidate → Nat
  policy : Plane → PolicyAnswer
  /-- `LogicalRequestId::fresh`. -/
  logicalRequestId : Option String
  /-- `fresh_execution_group_id`. -/
  executionGroupId : Option String

def invalid {α : Type} (message : String) (param : Option String) : Except Refusal α :=
  .error (.invalid message param)

/-- The `model` of `extract_routing_selectors`. -/
def requiredModel (fields : List (String × Value)) : Except Refusal String :=
  match fields.lookup "model" with
  | some (.string model) =>
    if model = "" then
      invalid "Missing or invalid required parameter: model." (some "model")
    else .ok model
  | _ => invalid "Missing or invalid required parameter: model." (some "model")

def takeFastServiceTierHeader (r : Request) : Except Refusal Bool :=
  let valid := match r.serviceTier with
    | [value] => value == "fast" || value == "priority"
    | _ => false
  if r.serviceTier = [] then .ok false
  else if !valid then
    invalid
      "Header `x-apitoken-service-tier` must occur once with value `fast` or `priority`."
      (some "x-apitoken-service-tier")
  else if r.path = "/v1/messages/count_tokens" then
    invalid "Header `x-apitoken-service-tier` is not supported for token counting."
      (some "x-apitoken-service-tier")
  else .ok true

def requestedPreferences (fields : List (String × Value)) :
    Except Refusal ProviderPreferences :=
  match fields.lookup "provider" with
  | none => .ok {}
  | some provider =>
    orFail (ProviderPreferences.parse provider)
      (.invalid "Parameter `provider` contains invalid routing preferences." (some "provider"))

/-- An entry of `models`. -/
def modelName : Value → Option String
  | .string name => if (trim name.toList).isEmpty then none else some name
  | _ => none

/-- `model`, then `models`. -/
def requestedModels (model : String) (fields : List (String × Value)) :
    Except Refusal (List String) :=
  match fields.lookup "models" with
  | none => .ok [model]
  | some (.array (first :: rest)) => do
      let names ← orFail ((first :: rest).mapM modelName)
        (.invalid "Every entry in `models` must be a non-empty string." (some "models"))
      return model :: names
  | some _ =>
    invalid "Parameter `models` must be a non-empty array of model IDs." (some "models")

/-! ## The plan -/

structure ResolvedAttempt where
  bodyModelValue : String
  catalogId : String
  provider : ProviderNamespace
  canonicalModelId : String
  lane : Lane
deriving DecidableEq

def unknownModel (requested : String) : Refusal :=
  .invalid ("Unknown model in routing chain: `" ++ requested ++ "`.") (some "models")

def resolveOne (entries : List (String × CatalogEntry)) (requested : String) :
    Except Refusal ResolvedAttempt := do
  let (namespaceOf, entry) ← orFail (find entries requested) (unknownModel requested)
  let provider ← orFail (providerForNamespace namespaceOf) (unknownModel requested)
  return {
    bodyModelValue := requested
    catalogId := entry.id
    provider
    canonicalModelId := entry.nativeId
    lane := provider.lane }

/-- The loop over the requested models; `seen` are the catalog ids so far. -/
def resolve (entries : List (String × CatalogEntry)) (seen : List String) :
    List String → Except Refusal (List ResolvedAttempt)
  | [] => .ok []
  | requested :: rest => do
      let (_, entry) ← orFail (find entries requested) (unknownModel requested)
      failIf (seen.contains entry.id)
        (.invalid "The routing chain must not contain duplicate models." (some "models"))
      let attempt ← resolveOne entries requested
      let attempts ← resolve entries (entry.id :: seen) rest
      return attempt :: attempts

def normalizeFastServiceTier (fields : List (String × Value)) (surface : Surface)
    (headerPresent : Bool) : Except Refusal (List (String × Value)) :=
  let isFast (v : Value) : Bool := v.asStr == some "fast" || v.asStr == some "priority"
  let serviceTier := fields.lookup "serviceTier"
  if !headerPresent && serviceTier.isNone then .ok fields
  else do
    failIf (serviceTier.isSome && surface == .messages)
      (.invalid ("Body parameter `serviceTier` is supported only on "
        ++ "OpenAI-compatible Chat and Responses surfaces.") (some "serviceTier"))
    failIf (serviceTier.any (fun v => !isFast v))
      (.invalid "Body parameter `serviceTier` must be `fast` or `priority`." (some "serviceTier"))
    failIf ((fields.lookup "service_tier").any (fun v => !isFast v))
      (.invalid ("Fast service-tier compatibility selector conflicts with body "
        ++ "parameter `service_tier`.") (some "service_tier"))
    failIf (headerPresent && surface == .messages
        && (fields.lookup "speed").any (fun v => v.asStr != some "fast"))
      (.invalid "Header `x-apitoken-service-tier` conflicts with body parameter `speed`." none)
    return insertField (removeField fields "serviceTier") "service_tier" (.string "priority")

def policyFilter (env : Env) (attempts : List ResolvedAttempt) :
    Except Refusal (List ResolvedAttempt) :=
  let candidates := attempts.map (fun attempt =>
    { id := attempt.catalogId, provider := attempt.provider
      canonicalModelId := attempt.canonicalModelId : PolicyCandidate })
  match preflight env.policyBodyLen env.policy candidates with
  | .ok allowed => .ok (attempts.filter (fun attempt => allowed.contains attempt.catalogId))
  | .error .unauthorized => .error .authRejected
  | .error .unavailable => .error .policyUnavailable
  | .error .restricted => .error .policyRestricted

/-- What the loop over the attempts runs on. -/
structure Plan where
  attempts : List ResolvedAttempt
  /-- The body of every attempt, before its `model` is put in. -/
  template : List (String × Value)
  logicalRequestId : String
  groupId : Option String

def orderedChain (preferences : ProviderPreferences) (kept : List ResolvedAttempt) :
    List ResolvedAttempt :=
  let sorted := sortByKey (fun attempt => preferences.orderRank attempt.provider) kept
  if preferences.allowFallbacks then sorted else sorted.take 1

def executionGroup (env : Env) (attempts : List ResolvedAttempt) :
    Except Refusal (Option String) :=
  if 1 < attempts.length then do
    let groupId ← orFail env.executionGroupId .catalogUnavailable
    return some groupId
  else .ok none

/-- The body, with the service tier the compatibility selectors ask for. -/
def fastFields (r : Request) (fastHeader fast : Bool) :
    Except Refusal (List (String × Value)) :=
  if fast then normalizeFastServiceTier r.fields r.surface fastHeader else .ok r.fields

/-- `proxy_universal` up to its first attempt. -/
def plan (env : Env) (r : Request) : Except Refusal Plan := do
  let model ← requiredModel r.fields
  let fastHeader ← takeFastServiceTierHeader r
  let fastBodyAlias := hasField r.fields "serviceTier"
  failIf (!env.fallbackEnabled)
    (if hasField r.fields "models" then
      .invalid "Parameter `models` is disabled on this router." (some "models")
    else
      .invalid "Parameter `provider` is disabled on this router." (some "provider"))
  let preferences ← requestedPreferences r.fields
  let requested ← requestedModels model r.fields
  failIf (decide (¬ requested.Nodup))
    (.invalid "The fallback chain must not contain duplicate models." (some "models"))
  failIf (maxCandidates < requested.length)
    (.invalid "The routing chain must contain at most 32 models." (some "models"))
  failIf env.aggregate.authRejected .authRejected
  let entries := dedup env.aggregate.entries
  failIf entries.isEmpty .catalogUnavailable
  let resolved ← resolve entries [] requested
  let kept := resolved.filter (fun attempt => preferences.allows attempt.provider)
  failIf kept.isEmpty
    (.invalid "Provider preferences removed every model from the routing chain."
      (some "provider"))
  let attempts ← policyFilter env (orderedChain preferences kept)
  let fast := fastHeader || fastBodyAlias
  failIf (fast && attempts.any (fun attempt => attempt.lane != .openAi))
    (.invalid "Fast service-tier compatibility selectors are supported only for GPT models."
      (some (if fastHeader then "x-apitoken-service-tier" else "serviceTier")))
  let fields ← fastFields r fastHeader fast
  failIf attempts.isEmpty (.invalid "The fallback chain is empty." (some "models"))
  let logicalRequestId ← orFail env.logicalRequestId .catalogUnavailable
  let groupId ← executionGroup env attempts
  return {
    attempts
    template := removeField (removeField fields "models") "provider"
    logicalRequestId
    groupId }

/-! ## Fields of a body -/

theorem lookup_insertField_self (fields : List (String × Value)) (key : String) (v : Value) :
    (insertField fields key v).lookup key = some v := by
  unfold insertField hasField
  split
  · rename_i h
    induction fields with
    | nil => cases h
    | cons row _ ih =>
      obtain ⟨k, w⟩ := row
      by_cases hk : k = key
      · simp [hk]
      · simp only [lookup_cons, beq_false_of_ne (Ne.symm hk)] at h
        simpa [hk, lookup_cons, beq_false_of_ne (Ne.symm hk)] using ih h
  · rename_i h
    rw [Bool.not_eq_true, isSome_eq_false_iff, isNone_iff_eq_none] at h
    simp [List.lookup_append, h]

theorem lookup_insertField_ne (fields : List (String × Value)) {key other : String} (v : Value)
    (hne : other ≠ key) : (insertField fields key v).lookup other = fields.lookup other := by
  unfold insertField
  split
  · clear * - hne
    induction fields with
    | nil => rfl
    | cons row _ ih =>
      obtain ⟨k, w⟩ := row
      by_cases hk : k = key
      · simpa [hk, lookup_cons, beq_false_of_ne hne] using ih
      · cases hother : other == k with
        | true => simp [hk, lookup_cons, hother]
        | false => simpa [hk, lookup_cons, hother] using ih
  · rw [List.lookup_append]
    simp [lookup_cons, beq_false_of_ne hne]

theorem lookup_removeField (fields : List (String × Value)) (key other : String) :
    (removeField fields key).lookup other =
      if other = key then none else fields.lookup other := by
  induction fields with
  | nil => simp [removeField]
  | cons row _ ih =>
    obtain ⟨k, w⟩ := row
    unfold removeField at ih ⊢
    by_cases hk : k = key
    · by_cases hother : other = key
      · simpa [hk, hother] using ih
      · simpa [hk, hother, lookup_cons, beq_false_of_ne hother] using ih
    · cases hsame : other == k with
      | true =>
        have hother : other ≠ key := fun h => hk (eq_of_beq hsame ▸ h)
        simp [hk, hother, lookup_cons, hsame]
      | false => simpa [hk, lookup_cons, hsame] using ih

/-- The fields the plan itself reads or writes. -/
def routingFields : List String :=
  ["model", "models", "provider", "serviceTier", "service_tier"]

theorem lookup_fastFields {fastHeader fast : Bool} {fields : List (String × Value)}
    {key : String} (h : fastFields r fastHeader fast = .ok fields) (hkey : key ∉ routingFields) :
    fields.lookup key = r.fields.lookup key := by
  simp only [routingFields, mem_cons, not_mem_nil, or_false, not_or] at hkey
  unfold fastFields at h
  split at h
  · simp only [normalizeFastServiceTier] at h
    split at h
    · cases h
      rfl
    · simp only [ok_steps] at h
      obtain ⟨-, -, -, -, rfl⟩ := h
      rw [lookup_insertField_ne _ _ hkey.2.2.2.2, lookup_removeField, if_neg hkey.2.2.2.1]
  · cases h
    rfl

/-! ## What a plan is -/

def ProviderPreferences.ranks (p : ProviderPreferences) : Nat :=
  (p.order.getD []).length + 1

theorem orderRank_lt (p : ProviderPreferences) (provider : ProviderNamespace) :
    p.orderRank provider < p.ranks := by
  unfold ProviderPreferences.orderRank ProviderPreferences.ranks
  cases p.order with
  | none => exact Nat.lt_succ_self 0
  | some => exact Nat.lt_succ_of_le List.idxOf_le_length

/-- The chain the preferences ask for: of the resolved models those they
allow, the providers of `order` one after the other and then the rest, each
provider's models as they were requested, and only the first when they allow
no fallback. -/
def chosenChain (preferences : ProviderPreferences) (resolved : List ResolvedAttempt) :
    List ResolvedAttempt :=
  let kept := resolved.filter (fun attempt => preferences.allows attempt.provider)
  let byOrder := (List.range preferences.ranks).flatMap (fun rank =>
    kept.filter (fun attempt => decide (preferences.orderRank attempt.provider = rank)))
  if preferences.allowFallbacks then byOrder else byOrder.take 1

theorem orderedChain_eq (preferences : ProviderPreferences)
    (resolved : List ResolvedAttempt) :
    orderedChain preferences
        (resolved.filter (fun attempt => preferences.allows attempt.provider)) =
      chosenChain preferences resolved := by
  unfold orderedChain chosenChain
  rw [sortByKey_eq_classes (fun attempt _ => orderRank_lt preferences attempt.provider)]
  rfl

def Env.entries (env : Env) : List (String × CatalogEntry) := dedup env.aggregate.entries

/-- The plan is the chain that the request asks for. -/
structure Planned (env : Env) (r : Request) (p : Plan) : Prop where
  chain : ∃ preferences model requested resolved allowed,
    requestedPreferences r.fields = .ok preferences ∧
    requiredModel r.fields = .ok model ∧
    requestedModels model r.fields = .ok requested ∧
    List.Forall₂ (fun name attempt => resolveOne env.entries name = .ok attempt)
      requested resolved ∧
    (resolved.map (·.catalogId)).Nodup ∧
    p.attempts = (chosenChain preferences resolved).filter
      (fun attempt => allowed.contains attempt.catalogId) ∧
    (∃ plane status mode, env.policy plane =
      .reply status (some ⟨schemaVersion, mode, allowed⟩) ∧ isSuccess status = true) ∧
    allowed.Sublist ((chosenChain preferences resolved).map (·.catalogId))
  nonempty : p.attempts ≠ []
  group : p.groupId = if 1 < p.attempts.length then env.executionGroupId else none
  grouped : 1 < p.attempts.length → p.groupId.isSome
  logical : env.logicalRequestId = some p.logicalRequestId
  selectors : p.template.lookup "models" = none ∧ p.template.lookup "provider" = none
  rest : ∀ key ∉ routingFields, p.template.lookup key = r.fields.lookup key

theorem resolve_ok {entries : List (String × CatalogEntry)} {requested : List String}
    {seen : List String} (h : resolve entries seen requested = .ok attempts) :
    List.Forall₂ (fun name attempt => resolveOne entries name = .ok attempt)
      requested attempts ∧ (attempts.map (·.catalogId)).Nodup ∧
    ∀ attempt ∈ attempts, attempt.catalogId ∉ seen := by
  induction requested generalizing seen attempts with
  | nil =>
    cases h
    exact ⟨.nil, nodup_nil, by simp⟩
  | cons _ _ ih =>
    simp only [resolve, ok_steps] at h
    obtain ⟨⟨namespaceOf, entry⟩, hfind, hseen, attempt, hone, others, hrest, rfl⟩ := h
    obtain ⟨hall, hnodup, hfresh⟩ := ih hrest
    have hid : attempt.catalogId = entry.id := by
      simp only [resolveOne, ok_steps] at hone
      obtain ⟨found, hfound, provider, -, rfl⟩ := hone
      rw [hfind] at hfound
      cases hfound
      rfl
    refine ⟨.cons hone hall, ?_, ?_⟩
    · rw [map_cons, nodup_cons]
      refine ⟨fun hmem => ?_, hnodup⟩
      obtain ⟨other, hother, hsame⟩ := mem_map.mp hmem
      exact hfresh other hother (by rw [hsame, hid]; exact mem_cons_self ..)
    · intro other hother
      rcases mem_cons.mp hother with rfl | hother
      · rw [hid]
        simpa using hseen
      · exact fun hmem => hfresh other hother (mem_cons_of_mem _ hmem)

theorem policyFilter_ok {chain : List ResolvedAttempt}
    (h : policyFilter env chain = .ok attempts) :
    ∃ allowed, attempts = chain.filter (fun attempt => allowed.contains attempt.catalogId) ∧
      allowed.Sublist (chain.map (·.catalogId)) ∧
      ∃ plane status mode, env.policy plane =
        .reply status (some ⟨schemaVersion, mode, allowed⟩) ∧ isSuccess status = true := by
  simp only [policyFilter] at h
  split at h
  · rename_i allowed hpreflight
    cases h
    refine ⟨allowed, rfl, ?_⟩
    simp only [preflight] at hpreflight
    split at hpreflight
    · cases hpreflight
    · split at hpreflight
      · cases hpreflight
      · obtain ⟨-, plane, -, status, response, hask, hstatus, hvalid⟩ :=
          askPlanes_ok hpreflight
        have hsub := sublist_of_validateResponse hvalid
        rw [List.map_map] at hsub
        obtain ⟨hversion, hallowed⟩ := response_of_validateResponse hvalid
        refine ⟨hsub, plane, status, response.mode, ?_, hstatus⟩
        rw [hask, ← hversion, ← hallowed]
  · cases h
  · cases h
  · cases h

theorem executionGroup_ok {groupId : Option String}
    (h : executionGroup env attempts = .ok groupId) :
    groupId = (if 1 < attempts.length then env.executionGroupId else none) ∧
      (1 < attempts.length → groupId.isSome) := by
  unfold executionGroup at h
  split at h
  · rename_i hmany
    simp only [ok_steps] at h
    obtain ⟨id, hid, rfl⟩ := h
    rw [if_pos hmany, hid]
    exact ⟨rfl, fun _ => rfl⟩
  · rename_i hone
    cases h
    rw [if_neg hone]
    exact ⟨rfl, fun hmany => absurd hmany hone⟩

theorem planned_of_plan (h : plan env r = .ok p) : Planned env r p := by
  simp only [plan, ok_steps] at h
  obtain ⟨model, hmodel, fastHeader, -, -, preferences, hpreferences, requested,
    hrequested, -, -, -, -, resolved, hresolved, -, attempts, hpolicy, -, fields, hfields,
    hnonempty, logicalRequestId, hlogical, groupId, hgroup, rfl⟩ := h
  obtain ⟨hall, hnodup, -⟩ := resolve_ok hresolved
  rw [orderedChain_eq] at hpolicy
  obtain ⟨allowed, hattempts, hsub, hanswer⟩ := policyFilter_ok hpolicy
  obtain ⟨hid, hsome⟩ := executionGroup_ok hgroup
  exact
    { chain := ⟨preferences, model, requested, resolved, allowed, hpreferences, hmodel,
        hrequested, hall, hnodup, hattempts, hanswer, hsub⟩
      nonempty := by simpa using hnonempty
      group := hid
      grouped := hsome
      logical := hlogical
      selectors := by simp [lookup_removeField]
      rest := by
        intro key hkey
        rw [← lookup_fastFields hfields hkey]
        simp only [routingFields, mem_cons, not_or] at hkey
        rw [lookup_removeField, if_neg hkey.2.2.1, lookup_removeField, if_neg hkey.2.1] }

theorem Planned.nodup (h : Planned env r p) : (p.attempts.map (·.catalogId)).Nodup := by
  obtain ⟨preferences, -, -, resolved, allowed, -, -, -, -, hnodup, hattempts, -⟩ := h.chain
  rw [hattempts, ← orderedChain_eq]
  have hkept : ((resolved.filter (fun attempt =>
      preferences.allows attempt.provider)).map (·.catalogId)).Nodup :=
    hnodup.sublist (filter_sublist.map _)
  refine List.Nodup.sublist (filter_sublist.map _) ?_
  unfold orderedChain
  simp only
  split
  · exact ((perm_sortByKey _).map _).nodup_iff.mpr hkept
  · exact (((perm_sortByKey _).map _).nodup_iff.mpr hkept).sublist ((List.take_sublist _ _).map _)

end ApiToken.Router
