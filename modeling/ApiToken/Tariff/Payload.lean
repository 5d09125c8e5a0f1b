import Mathlib.Data.List.Sort
import ApiToken.Lib.Decimal
import ApiToken.Lib.Fallible
import ApiToken.Meter.Usage

/-!
# Tariff override payloads

`registry/src/pricing/tariffs.rs`: the price vector of a tariff family as JSON.
The eight mirror structs differ in their fields only, so a struct is a
`Schema` and its value the list of its legs in the order of the fields. Money
legs are `i128` in canonical decimal strings. JSON text and SHA-256 are
libraries of their own and are parameters.
-/

namespace ApiToken.Tariff

open Meter (Value Number)

variable {v : Value} {n : Int} {leg : Leg} {members : List (String × Value)}
  {fields : List (String × Kind)} {legs : List Leg} {family : String}
  {p : TariffOverridePayload}

/-! ## Legs -/

/-- `GeminiTariffSearchBilling` without its rate. -/
inductive SearchBilling where
  | perQuery | perGroundedPrompt
deriving DecidableEq

def SearchBilling.tag : SearchBilling → String
  | .perQuery => "per_query"
  | .perGroundedPrompt => "per_grounded_prompt"

def SearchBilling.ofTag (tag : String) : Option SearchBilling :=
  if tag = "per_query" then some .perQuery
  else if tag = "per_grounded_prompt" then some .perGroundedPrompt
  else none

/-- The type of a field. -/
inductive Kind where
  | money | u64 | i64 | search

/-- The value of a field. -/
inductive Leg where
  | money (n : Int)
  | u64 (n : UInt64)
  | i64 (n : Int64)
  | search (billing : SearchBilling) (nano : Int)
deriving DecidableEq

def fitsI128 (n : Int) : Bool := -2 ^ 127 ≤ n && n < 2 ^ 127

/-- `i128_string::deserialize`: the canonical decimal string of an `i128`. -/
def moneyOf : Value → Option Int
  | .string raw => (parseInteger raw).filter (fun n => fitsI128 n && raw == toString n)
  | _ => none

def searchOf : Value → Option Leg
  | .object fields =>
    if fields.all (fun x => x.1 == "kind" || x.1 == "nano") then do
      let billing ← ((fields.lookup "kind").bind Value.asStr).bind SearchBilling.ofTag
      let nano ← (fields.lookup "nano").bind moneyOf
      some (.search billing nano)
    else none
  | .array [.string tag, rate] => do
      let billing ← SearchBilling.ofTag tag
      let nano ← moneyOf rate
      some (.search billing nano)
  | _ => none

def i64Of : Value → Option Int64
  | .number (.posInt n) => if n.toNat < 2 ^ 63 then some (Int64.ofInt n.toNat) else none
  | .number (.negInt n) => some n
  | _ => none

/-- A field is deserialized. -/
def legOf (kind : Kind) (v : Value) : Option Leg :=
  match kind with
  | .money => (moneyOf v).map .money
  | .u64 => v.asU64.map .u64
  | .i64 => (i64Of v).map .i64
  | .search => searchOf v

def i64ToValue (n : Int64) : Value :=
  if 0 ≤ n.toInt then .number (.posInt (UInt64.ofNat n.toInt.toNat))
  else .number (.negInt n)

/-- A field is serialized. -/
def Leg.toValue : Leg → Value
  | .money n => .string (toString n)
  | .u64 n => .number (.posInt n)
  | .i64 n => i64ToValue n
  | .search billing nano =>
    .object [("kind", .string billing.tag), ("nano", .string (toString nano))]

/-! ## Structs -/

/-- A mirror struct: its name and its fields. -/
structure Schema where
  name : String
  fields : List (String × Kind)

def anthropicTariffPrices : Schema :=
  { name := "AnthropicTariffPrices"
    fields := [("input", .money), ("output", .money), ("cache_read", .money),
      ("cache_write_5m", .money), ("cache_write_1h", .money)] }

def geminiTariffPrices : Schema :=
  { name := "GeminiTariffPrices"
    fields := [("input", .money), ("audio_input", .money), ("cached_input", .money),
      ("cached_audio_input", .money), ("output", .money), ("image_output", .money),
      ("long_context_threshold", .u64), ("long_input", .money),
      ("long_audio_input", .money), ("long_cached_input", .money),
      ("long_cached_audio_input", .money), ("long_output", .money),
      ("search", .search)] }

def codexTariffPrices : Schema :=
  { name := "CodexTariffPrices"
    fields := [("input", .money), ("cached_input", .money),
      ("cache_write_input", .money), ("output", .money),
      ("api_fast_multiplier_basis_points", .i64), ("long_context_threshold", .u64),
      ("long_input_basis_points", .i64), ("long_output_basis_points", .i64)] }

def codexTariffCreditRates : Schema :=
  { name := "CodexTariffCreditRates"
    fields := [("input", .money), ("cached_input", .money), ("output", .money)] }

def glmTariffPrices : Schema :=
  { name := "GlmTariffPrices"
    fields := [("cached_input", .money), ("input", .money), ("cache_write", .money),
      ("output", .money)] }

def glmTariffCreditRates : Schema :=
  { name := "GlmTariffCreditRates"
    fields := [("input_tenths", .money), ("cached_input_tenths", .money),
      ("output_tenths", .money)] }

def kimiTariffPrices : Schema :=
  { name := "KimiTariffPrices"
    fields := [("cached_input", .money), ("input", .money), ("cache_write", .money),
      ("output", .money)] }

def openAiImageTariffPrices : Schema :=
  { name := "OpenAiImageTariffPrices"
    fields := [("fresh_text_input", .money), ("cached_text_input", .money),
      ("fresh_image_input", .money), ("cached_image_input", .money),
      ("image_output", .money)] }

def decodeFields (members : List (String × Value)) :
    List (String × Kind) → Option (List Leg)
  | [] => some []
  | (name, kind) :: rest => do
      let leg ← (members.lookup name).bind (legOf kind)
      let legs ← decodeFields members rest
      some (leg :: legs)

/-- `serde_json::from_value`, with `deny_unknown_fields`. -/
def decode (s : Schema) (members : List (String × Value)) : Option (List Leg) :=
  if members.all (fun x => s.fields.any (fun f => f.1 == x.1)) then
    decodeFields members s.fields
  else none

/-- `serde_json::to_value`: a map in the order of its keys. -/
def encode (s : Schema) (legs : List Leg) : Value :=
  .object (((s.fields.map Prod.fst).zip (legs.map Leg.toValue)).insertionSort
    (fun x y => x.1 ≤ y.1))

/-- `require_non_negative!`: the money legs in the order of the fields. -/
def requireNonNegative (s : Schema) (legs : List Leg) : Except String Unit :=
  (s.fields.zip legs).forM fun x =>
    match x.2 with
    | .money n =>
      failIf (n < 0)
        ("tariff override " ++ s.name ++ " field " ++ x.1.1 ++ " must be non-negative")
    | _ => .ok ()

/-! ## Payloads -/

inductive Variant where
  | anthropic | gemini | codex | codexCredits | glm | glmCredits | kimi | openAiImage
deriving DecidableEq

def Variant.schema : Variant → Schema
  | .anthropic => anthropicTariffPrices
  | .gemini => geminiTariffPrices
  | .codex => codexTariffPrices
  | .codexCredits => codexTariffCreditRates
  | .glm => glmTariffPrices
  | .glmCredits => glmTariffCreditRates
  | .kimi => kimiTariffPrices
  | .openAiImage => openAiImageTariffPrices

/-- What the error of a malformed payload begins with. -/
def Variant.context : Variant → String
  | .anthropic => "anthropic tariff override payload"
  | .gemini => "gemini tariff override payload"
  | .codex => "codex tariff override payload"
  | .codexCredits => "codex credit override payload"
  | .glm => "glm tariff override payload"
  | .glmCredits => "glm credit override payload"
  | .kimi => "kimi tariff override payload"
  | .openAiImage => "openai image tariff override payload"

structure TariffOverridePayload where
  variant : Variant
  legs : List Leg

def TariffOverridePayload.toCanonicalValue (p : TariffOverridePayload) : Value :=
  encode p.variant.schema p.legs

/-- The checks that only one family has. -/
def Variant.further : Variant → List Leg → Except String Unit
  | .gemini, legs =>
    failIf (legs.any fun
      | .search _ nano => nano < 0
      | _ => false) "tariff override Gemini search billing must be non-negative"
  | .codex, legs =>
    failIf (legs.any fun
      | .i64 n => n < 0
      | _ => false) "tariff override Codex multipliers must be non-negative"
  | _, _ => .ok ()

def Variant.parse (v : Variant) (members : List (String × Value)) :
    Except String TariffOverridePayload := do
  let legs ← orFail (decode v.schema members) v.context
  requireNonNegative v.schema legs
  v.further legs
  .ok { variant := v, legs }

def hasLead (lead family : String) : Bool := lead.toList.isPrefixOf family.toList

def requireFamilySegment (family lead : String) : Except String Unit :=
  failIf (family.utf8ByteSize == lead.utf8ByteSize)
    ("tariff family \"" ++ family ++ "\" is missing its model segment")

def variantOf (family : String) : Except String Variant :=
  if hasLead "anthropic/" family then do
    requireFamilySegment family "anthropic/"
    .ok .anthropic
  else if hasLead "google/gemini/" family then do
    requireFamilySegment family "google/gemini/"
    .ok .gemini
  else if hasLead "openai/codex/" family then do
    requireFamilySegment family "openai/codex/"
    .ok .codex
  else if family == "chatgpt/codex-credits" || hasLead "chatgpt/codex-credits/" family then
    .ok .codexCredits
  else if hasLead "zhipu/glm-credits/" family then do
    requireFamilySegment family "zhipu/glm-credits/"
    .ok .glmCredits
  else if hasLead "zhipu/glm/" family then do
    requireFamilySegment family "zhipu/glm/"
    .ok .glm
  else if hasLead "moonshot/kimi/" family then do
    requireFamilySegment family "moonshot/kimi/"
    .ok .kimi
  else if family == "openai/gpt-image-2" then .ok .openAiImage
  else .error ("tariff family \"" ++ family ++ "\" has no known payload schema")

def parseTariffOverridePayload (family : String) :
    Value → Except String TariffOverridePayload
  | .object members => do
      let v ← variantOf family
      v.parse members
  | _ => .error "tariff override payload must be a JSON object"

/-- The libraries: JSON text both ways, and SHA-256 in hexadecimal. -/
structure Env where
  toText : Value → String
  fromText : String → Option Value
  sha256 : String → String

def Env.Reads (env : Env) (v : Value) : Prop := env.fromText (env.toText v) = some v

/-- SHA-256 tells two texts apart. -/
def Env.Distinguishes (env : Env) (s s' : String) : Prop :=
  env.sha256 s = env.sha256 s' → s = s'

def payloadDigestDomain : String := "apitoken:pricing-tariff-override-payload:v2\x00"

def tariffOverridePayloadValueDigest (env : Env) (v : Value) : String :=
  "sha256:v2:" ++ env.sha256 (payloadDigestDomain ++ env.toText v)

def tariffOverridePayloadDigest (env : Env) (p : TariffOverridePayload) : String :=
  tariffOverridePayloadValueDigest env p.toCanonicalValue

/-! ## Round trip -/

section RoundTrip

theorem moneyOf_eq_some (h : moneyOf v = some n) :
    v = .string (toString n) ∧ fitsI128 n = true := by
  unfold moneyOf at h
  split at h
  · rename_i raw
    obtain ⟨-, hn⟩ := filter_eq_some_iff.mp h
    rw [Bool.and_eq_true] at hn
    exact ⟨congrArg Value.string (eq_of_beq hn.2), hn.1⟩
  · cases h

theorem moneyOf_toString (h : fitsI128 n = true) : moneyOf (.string (toString n)) = some n := by
  rw [moneyOf, parseInteger_toString]
  simp [h]

theorem ofTag_tag (b : SearchBilling) : SearchBilling.ofTag b.tag = some b := by
  cases b with
  | perQuery | perGroundedPrompt => rfl

theorem searchOf_eq_some (h : searchOf v = some leg) :
    ∃ billing nano, leg = .search billing nano ∧ fitsI128 nano = true := by
  unfold searchOf at h
  split at h
  · split at h
    · simp only [bind_eq_bind, bind_eq_some_iff, some.injEq] at h
      obtain ⟨billing, -, nano, ⟨rate, -, hrate⟩, rfl⟩ := h
      exact ⟨billing, nano, rfl, (moneyOf_eq_some hrate).2⟩
    · cases h
  · simp only [bind_eq_bind, bind_eq_some_iff, some.injEq] at h
    obtain ⟨billing, -, nano, hrate, rfl⟩ := h
    exact ⟨billing, nano, rfl, (moneyOf_eq_some hrate).2⟩
  · cases h

theorem searchOf_toValue {billing : SearchBilling} {nano : Int} (h : fitsI128 nano = true) :
    searchOf (Leg.search billing nano).toValue = some (.search billing nano) := by
  have hkind : List.lookup "kind" [("kind", Value.string billing.tag),
      ("nano", Value.string (toString nano))] = some (.string billing.tag) := rfl
  have hnano : List.lookup "nano" [("kind", Value.string billing.tag),
      ("nano", Value.string (toString nano))] = some (.string (toString nano)) := rfl
  rw [Leg.toValue, searchOf, if_pos (by rfl), hkind, hnano]
  simp only [bind_some, Value.asStr, ofTag_tag, moneyOf_toString h, bind_eq_bind]

theorem i64Of_i64ToValue (n : Int64) : i64Of (i64ToValue n) = some n := by
  unfold i64ToValue
  split
  · rename_i hn
    have hlt := n.toInt_lt
    have hsmall : n.toInt.toNat < 2 ^ 63 := by omega
    have hback : (UInt64.ofNat n.toInt.toNat).toNat = n.toInt.toNat := by
      rw [UInt64.toNat_ofNat']
      omega
    rw [i64Of, hback, if_pos hsmall, Int.toNat_of_nonneg hn, Int64.ofInt_toInt]
  · rfl

theorem legOf_toValue {kind : Kind} (h : legOf kind v = some leg) :
    legOf kind leg.toValue = some leg := by
  cases kind with
  | money =>
    obtain ⟨n, hn, rfl⟩ := map_eq_some_iff.mp h
    rw [legOf, Leg.toValue, moneyOf_toString (moneyOf_eq_some hn).2, map_some]
  | u64 =>
    obtain ⟨n, -, rfl⟩ := map_eq_some_iff.mp h
    rfl
  | i64 =>
    obtain ⟨n, -, rfl⟩ := map_eq_some_iff.mp h
    rw [legOf, Leg.toValue, i64Of_i64ToValue, map_some]
  | search =>
    obtain ⟨billing, nano, rfl, hfits⟩ := searchOf_eq_some h
    exact searchOf_toValue hfits

theorem lookup_of_unique {κ ρ : Type} [BEq κ] [LawfulBEq κ] {entries : List (κ × ρ)}
    {k : κ} {v : ρ} (hmem : (k, v) ∈ entries) (honly : ∀ v', (k, v') ∈ entries → v' = v) :
    entries.lookup k = some v := by
  induction entries with
  | nil => cases hmem
  | cons x _ ih =>
    obtain ⟨k', v'⟩ := x
    rw [lookup_cons]
    cases hk : k == k' with
    | true =>
      have hsame := honly v' (eq_of_beq hk ▸ mem_cons_self ..)
      rw [hsame]
    | false =>
      have hne : k ≠ k' := ne_of_beq_false hk
      refine ih ?_ fun v'' hv'' => honly v'' (mem_cons_of_mem _ hv'')
      rcases mem_cons.mp hmem with heq | hmem
      · exact absurd (congrArg Prod.fst heq) hne
      · exact hmem

theorem decodeFields_length (h : decodeFields members fields = some legs) :
    legs.length = fields.length := by
  induction fields generalizing legs with
  | nil => cases h; rfl
  | cons _ _ ih =>
    simp only [decodeFields, bind_eq_bind, bind_eq_some_iff] at h
    obtain ⟨leg, -, legs', hlegs, heq⟩ := h
    cases heq
    rw [length_cons, length_cons, ih hlegs]

theorem decodeFields_again {members' : List (String × Value)}
    (h : decodeFields members fields = some legs)
    (hmembers : ∀ x ∈ (fields.map Prod.fst).zip (legs.map Leg.toValue),
      members'.lookup x.1 = some x.2) : decodeFields members' fields = some legs := by
  induction fields generalizing legs with
  | nil => exact h
  | cons f _ ih =>
    simp only [decodeFields, bind_eq_bind, bind_eq_some_iff] at h
    obtain ⟨leg, ⟨v, -, hleg⟩, legs', hlegs, heq⟩ := h
    cases heq
    have hhead : members'.lookup f.1 = some leg.toValue :=
      hmembers (f.1, leg.toValue) (mem_cons_self ..)
    have hrest := ih hlegs fun x hx => hmembers x (mem_cons_of_mem _ hx)
    simp only [decodeFields, hhead, hrest, bind_eq_bind, bind_some, legOf_toValue hleg]

theorem decode_encode {s : Schema} (hs : (s.fields.map Prod.fst).Nodup)
    (h : decode s members = some legs) :
    ∃ members', encode s legs = .object members' ∧ decode s members' = some legs := by
  unfold decode at h
  split at h
  · have hlength := decodeFields_length h
    have hperm := ((s.fields.map Prod.fst).zip (legs.map Leg.toValue)).perm_insertionSort
      (fun x y => x.1 ≤ y.1)
    have hkeys : ((s.fields.map Prod.fst).zip (legs.map Leg.toValue)).map Prod.fst
        = s.fields.map Prod.fst := by
      apply List.map_fst_zip
      simp [hlength]
    refine ⟨_, rfl, ?_⟩
    rw [decode, if_pos]
    · refine decodeFields_again h fun x hx => ?_
      refine lookup_of_unique (hperm.mem_iff.mpr hx) fun v' hv' => ?_
      rw [← hkeys] at hs
      have hsame := List.inj_on_of_nodup_map hs (hperm.mem_iff.mp hv') hx rfl
      exact congrArg Prod.snd hsame
    · refine all_eq_true.mpr fun x hx => ?_
      have hmem := mem_map_of_mem (f := Prod.fst) (hperm.mem_iff.mp hx)
      rw [hkeys] at hmem
      obtain ⟨f, hf, heq⟩ := mem_map.mp hmem
      exact List.any_eq_true.mpr ⟨f, hf, by simp [heq]⟩
  · cases h

theorem Variant.fields_nodup (v : Variant) : (v.schema.fields.map Prod.fst).Nodup := by
  cases v <;> decide

theorem parse_canonical (h : parseTariffOverridePayload family v = .ok p) :
    parseTariffOverridePayload family p.toCanonicalValue = .ok p := by
  unfold parseTariffOverridePayload at h
  split at h
  · rename_i members
    simp only [bind_eq_ok, Variant.parse, orFail_eq_ok] at h
    obtain ⟨variant, hvariant, legs, hlegs, u, hmoney, u', hfurther, heq⟩ := h
    cases heq
    obtain ⟨members', hcanonical, hagain⟩ := decode_encode variant.fields_nodup hlegs
    rw [TariffOverridePayload.toCanonicalValue, hcanonical, parseTariffOverridePayload]
    simp only [bind_eq_ok, Variant.parse, orFail_eq_ok]
    exact ⟨variant, hvariant, legs, hagain, u, hmoney, u', hfurther, rfl⟩
  · cases h

theorem parse_text (env : Env) (h : parseTariffOverridePayload family v = .ok p)
    (hreads : env.Reads p.toCanonicalValue) :
    (env.fromText (env.toText p.toCanonicalValue)).map (parseTariffOverridePayload family)
      = some (.ok p) := by
  rw [hreads, map_some, parse_canonical h]

theorem payload_of_digest (env : Env) {v' : Value} {p' : TariffOverridePayload}
    (h : parseTariffOverridePayload family v = .ok p)
    (h' : parseTariffOverridePayload family v' = .ok p')
    (hreads : env.Reads p.toCanonicalValue) (hreads' : env.Reads p'.toCanonicalValue)
    (hsha : env.Distinguishes (payloadDigestDomain ++ env.toText p.toCanonicalValue)
      (payloadDigestDomain ++ env.toText p'.toCanonicalValue))
    (hdigest : tariffOverridePayloadDigest env p = tariffOverridePayloadDigest env p') :
    p = p' := by
  have hhash := hsha (String.append_right_inj _ |>.mp hdigest)
  have htext : env.toText p.toCanonicalValue = env.toText p'.toCanonicalValue :=
    String.append_right_inj _ |>.mp hhash
  have hparsed := parse_text env h hreads
  rw [htext, parse_text env h' hreads'] at hparsed
  cases hparsed
  rfl

end RoundTrip

end ApiToken.Tariff
