import ApiToken.Lib.StableSort
import ApiToken.Meter.Usage

/-!
# Provider preferences and the policy preflight

`router/src/policy.rs`: what a request may say about providers, and the one
question about the account's policy that goes to the provider runtimes
before anything is sent. The first runtime that gives a valid answer
decides.
-/

namespace ApiToken.Router

open Meter (Value)

variable {allowed : List String} {candidates : List PolicyCandidate}
  {response : PreflightResponse}

inductive ProviderNamespace where
  | anthropic | openAi | google | kimi
deriving DecidableEq

def ProviderNamespace.asStr : ProviderNamespace → String
  | .anthropic => "anthropic"
  | .openAi => "openai"
  | .google => "google"
  | .kimi => "kimi"

/-- `provider_for_namespace`, and the names serde reads. -/
def providerForNamespace (name : String) : Option ProviderNamespace :=
  if name = "anthropic" then some .anthropic
  else if name = "openai" then some .openAi
  else if name = "google" then some .google
  else if name = "kimi" then some .kimi
  else none

/-- The wire envelope. -/
inductive Lane where
  | anthropic | openAi | gemini
deriving DecidableEq

/-- The serving origin. -/
inductive Plane where
  | anthropic | openAi | gemini | kimi
deriving DecidableEq

def ProviderNamespace.lane : ProviderNamespace → Lane
  | .anthropic => .anthropic
  | .openAi => .openAi
  | .google => .gemini
  | .kimi => .anthropic

def ProviderNamespace.plane : ProviderNamespace → Plane
  | .anthropic => .anthropic
  | .openAi => .openAi
  | .google => .gemini
  | .kimi => .kimi

def Plane.all : List Plane := [.anthropic, .openAi, .gemini, .kimi]

/-! ## Preferences -/

structure ProviderPreferences where
  order : Option (List ProviderNamespace) := none
  only : Option (List ProviderNamespace) := none
  ignore : Option (List ProviderNamespace) := none
  allowFallbacks : Bool := true

def providerOf : Value → Option ProviderNamespace
  | .string name => providerForNamespace name
  | .object [(name, .null)] => providerForNamespace name
  | _ => none

def providerList : Value → Option (List ProviderNamespace)
  | .array items => items.mapM providerOf
  | _ => none

def boolOf : Value → Option Bool
  | .bool b => some b
  | _ => none

def optionalField {α : Type} (parse : Value → Option α) (missing : α) :
    Option Value → Option α
  | none => some missing
  | some v => parse v

def preferenceFields (value : Value) : Option (String → Option Value) :=
  match value with
  | .object fields =>
    if fields.all (fun x => x.1 ∈ ["order", "only", "ignore", "allow_fallbacks"]) then
      some (fun key => fields.lookup key)
    else none
  | .array items =>
    if items.length ≤ 4 then
      some (fun key =>
        (["order", "only", "ignore", "allow_fallbacks"].zip items).lookup key)
    else none
  | _ => none

def hasDuplicates (values : List ProviderNamespace) : Bool := decide (¬ values.Nodup)

def ProviderPreferences.parse (value : Value) : Option ProviderPreferences := do
  let field ← preferenceFields value
  let list := fun v => (providerList v).map some
  let order ← optionalField list none (field "order")
  let only ← optionalField list none (field "only")
  let ignore ← optionalField list none (field "ignore")
  let allowFallbacks ← optionalField boolOf true (field "allow_fallbacks")
  if [order, only, ignore].any (·.any hasDuplicates) then none
  else if only.any (fun only => ignore.any (fun ignore => only.any (· ∈ ignore))) then
    none
  else some { order, only, ignore, allowFallbacks }

def ProviderPreferences.allows (p : ProviderPreferences) (provider : ProviderNamespace) :
    Bool :=
  if p.only.any (fun only => decide (provider ∉ only)) then false
  else !p.ignore.any (fun ignore => decide (provider ∈ ignore))

def ProviderPreferences.orderRank (p : ProviderPreferences)
    (provider : ProviderNamespace) : Nat :=
  match p.order with
  | none => 0
  | some order => order.idxOf provider

/-! ## The preflight -/

structure PolicyCandidate where
  id : String
  provider : ProviderNamespace
  canonicalModelId : String

inductive PreflightError where
  | unauthorized | unavailable | restricted

inductive PolicyMode where
  | unrestricted | strict
deriving DecidableEq

structure PreflightResponse where
  schemaVersion : Nat
  mode : PolicyMode
  allowed : List String

/-- What a runtime's policy endpoint answers; `none` for a body that is too
long or no preflight response. -/
inductive PolicyAnswer where
  | failed
  | reply (status : Nat) (body : Option PreflightResponse)

def schemaVersion : Nat := 1

def maxCandidates : Nat := 32

def maxBodyBytes : Nat := 64 * 1024

/-- The ids stand at increasing positions after `previous`. -/
def ordered (ids : List String) : Option Nat → List String → Bool
  | _, [] => true
  | previous, id :: rest =>
    match ids.idxOf? id with
    | none => false
    | some index => previous.all (· < index) && ordered ids (some index) rest

def validateResponse (candidates : List PolicyCandidate) (response : PreflightResponse) :
    Option (List String) :=
  let ids := candidates.map (·.id)
  if response.schemaVersion ≠ schemaVersion
      ∨ candidates.length < response.allowed.length then none
  else if !ordered ids none response.allowed then none
  else if response.mode = .unrestricted ∧ response.allowed ≠ ids then none
  else some response.allowed

/-- `origin_order`: the planes of the candidates, then the others. -/
def originOrder (candidates : List PolicyCandidate) : List Plane :=
  (candidates.map (·.provider.plane) ++ Plane.all).foldl
    (fun order plane => if plane ∈ order then order else order ++ [plane]) []

/-- HTTP `2xx`. -/
def isSuccess (status : Nat) : Bool := 200 ≤ status && status < 300

/-- HTTP `4xx`. -/
def isClientError (status : Nat) : Bool := 400 ≤ status && status < 500

/-- The loop of `preflight` over the planes. -/
def askPlanes (candidates : List PolicyCandidate) (ask : Plane → PolicyAnswer) :
    List Plane → Except PreflightError (List String)
  | [] => .error .unavailable
  | plane :: rest =>
    match ask plane with
    | .failed => askPlanes candidates ask rest
    | .reply status body =>
      if status = 401 then .error .unauthorized
      else if !isSuccess status then askPlanes candidates ask rest
      else match body.bind (validateResponse candidates) with
        | none => askPlanes candidates ask rest
        | some allowed => if allowed = [] then .error .restricted else .ok allowed

/-- `preflight`; `bodyLen` is the length of the serialised question. -/
def preflight (bodyLen : List PolicyCandidate → Nat) (ask : Plane → PolicyAnswer)
    (candidates : List PolicyCandidate) : Except PreflightError (List String) :=
  if candidates = [] ∨ maxCandidates < candidates.length then .error .unavailable
  else if maxBodyBytes < bodyLen candidates then .error .unavailable
  else askPlanes candidates ask (originOrder candidates)

/-! ## What an answer can be -/

/-- Where the next id may stand. -/
def afterIndex (previous : Option Nat) : Nat := (previous.map (· + 1)).getD 0

theorem sublist_of_ordered {ids : List String} {previous : Option Nat}
    (h : ordered ids previous allowed = true) :
    allowed.Sublist (ids.drop (afterIndex previous)) := by
  induction allowed generalizing previous with
  | nil => exact List.nil_sublist _
  | cons id rest ih =>
    simp only [ordered] at h
    split at h
    · cases h
    · rename_i index hindex
      rw [Bool.and_eq_true] at h
      obtain ⟨hlt, hget, -⟩ := List.idxOf?_eq_some_iff.mp hindex
      have hafter : afterIndex previous ≤ index := by
        cases previous with
        | none => exact Nat.zero_le index
        | some i =>
          have hi : i < index := by simpa using h.1
          exact hi
      have hhere : (id :: rest).Sublist (ids.drop index) := by
        rw [List.drop_eq_getElem_cons hlt, hget]
        exact (ih h.2).cons_cons id
      exact hhere.trans (List.drop_sublist_drop_left ids hafter)

theorem sublist_of_validateResponse
    (h : validateResponse candidates response = some allowed) :
    allowed.Sublist (candidates.map (·.id)) := by
  simp only [validateResponse] at h
  split at h
  · cases h
  · split at h
    · cases h
    · rename_i hordered
      split at h
      · cases h
      · cases h
        simp only [Bool.not_eq_eq_eq_not, Bool.not_true, Bool.not_eq_false] at hordered
        exact sublist_of_ordered hordered

theorem response_of_validateResponse
    (h : validateResponse candidates response = some allowed) :
    response.schemaVersion = schemaVersion ∧ response.allowed = allowed := by
  simp only [validateResponse] at h
  split at h
  · cases h
  · rename_i hversion
    split at h
    · cases h
    · split at h
      · cases h
      · cases h
        exact ⟨Decidable.not_not.mp (not_or.mp hversion).1, rfl⟩

theorem askPlanes_ok {ask : Plane → PolicyAnswer} {planes : List Plane}
    (h : askPlanes candidates ask planes = .ok allowed) :
    allowed ≠ [] ∧ ∃ plane ∈ planes, ∃ status response,
      ask plane = .reply status (some response) ∧ isSuccess status = true ∧
        validateResponse candidates response = some allowed := by
  induction planes with
  | nil => cases h
  | cons plane rest ih =>
    have hrest : askPlanes candidates ask rest = .ok allowed →
        allowed ≠ [] ∧ ∃ p ∈ plane :: rest, ∃ status response,
          ask p = .reply status (some response) ∧ isSuccess status = true ∧
            validateResponse candidates response = some allowed := by
      intro hrest
      obtain ⟨hne, p, hp, hanswer⟩ := ih hrest
      exact ⟨hne, p, mem_cons_of_mem _ hp, hanswer⟩
    rw [askPlanes] at h
    split at h
    · exact hrest h
    · rename_i status body hask
      split at h
      · cases h
      · split at h
        · exact hrest h
        · rename_i hstatus
          split at h
          · exact hrest h
          · rename_i allowed' hvalid
            split at h
            · cases h
            · rename_i hne
              cases h
              obtain ⟨response, hbody, hresponse⟩ := bind_eq_some_iff.mp hvalid
              rw [hbody] at hask
              refine ⟨hne, plane, mem_cons_self .., status, response, hask, ?_, hresponse⟩
              simpa using hstatus

end ApiToken.Router
