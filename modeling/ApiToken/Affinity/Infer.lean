import ApiToken.Meter.Usage

/-!
# Inferring a cache lineage

`AffinityStore::infer` of `forward/src/affinity.rs`: the aliases of a request
are keyed digests, first of its native session id, if it has one, then of the
prefixes of its transcript. The keyed hash of each process and the library's
text of a number are parameters. What only places a request (its cache root,
its size) is left out.
-/

namespace ApiToken.Affinity

open Meter (Value Number)

variable {m n process : Nat} {a b value header : String} {r : Request} {env : Env}
  {input : AffinityInput}

/-! ## Digests -/

/-- The keyed hash of each process, and the text of a JSON number. -/
structure Env where
  keyed : Nat → List UInt8 → List UInt8
  numberText : Number → String

def bytes (s : String) : List UInt8 := utf8 s.toList

/-- `u64::to_le_bytes`. -/
def le64 (n : Nat) : List UInt8 := (List.range 8).map (fun i => UInt8.ofNat (n / 256 ^ i))

def hexDigit (n : Nat) : Char := Char.ofNat (if n < 10 then 48 + n else 87 + n)

def hexDigest (digest : List UInt8) : String :=
  String.ofList
    (digest.flatMap (fun byte => [hexDigit (byte.toNat / 16), hexDigit (byte.toNat % 16)]))

/-- What `digest_with_key` hashes. -/
def framed (domain : String) (parts : List String) : List UInt8 :=
  bytes domain ++ parts.flatMap (fun part => le64 (bytes part).length ++ bytes part)

def Env.digestParts (env : Env) (process : Nat) (domain : String) (parts : List String) :
    String :=
  hexDigest (env.keyed process (framed domain parts))

mutual

/-- `feed_canonical_json`: the bytes it feeds to the hasher. -/
def Env.feedCanonicalJson (env : Env) : Value → List UInt8
  | .null => bytes "n"
  | .bool value => bytes "b" ++ [if value then 1 else 0]
  | .number value => bytes "d" ++ bytes (env.numberText value)
  | .string value => bytes "s" ++ le64 (bytes value).length ++ bytes value
  | .array values => bytes "[" ++ le64 values.length ++ env.feedItems values ++ bytes "]"
  | .object values =>
    let fields := (env.feedFields values).mergeSort (fun a b => decide (a.1 ≤ b.1))
    bytes "\x7b" ++ le64 values.length
      ++ fields.flatMap (fun (key, fed) => le64 (bytes key).length ++ bytes key ++ fed)
      ++ bytes "\x7d"

def Env.feedItems (env : Env) : List Value → List UInt8
  | [] => []
  | value :: rest => env.feedCanonicalJson value ++ env.feedItems rest

def Env.feedFields (env : Env) : List (String × Value) → List (String × List UInt8)
  | [] => []
  | (key, value) :: rest => (key, env.feedCanonicalJson value) :: env.feedFields rest

end

/-! ## Native session ids -/

/-- A header map: the names in lower case, each with its first value. -/
abbrev HeaderMap := List (String × List UInt8)

/-- `HeaderValue::to_str`: visible ASCII and tabs only. -/
def toStr (value : List UInt8) : Option String :=
  if value.all (fun b => (32 ≤ b && b < 127) || b == 9) then
    some (String.ofList (value.map (fun b => Char.ofNat b.toNat)))
  else none

def validNativeId (value : String) : Bool :=
  !value.isEmpty && decide ((bytes value).length ≤ 512)

def nativeValue (value : String) : Option String :=
  let value := String.ofList (trim value.toList)
  if validNativeId value then some value else none

def nativeHeaders : List String :=
  ["x-claude-code-session-id", "x-conversation-id", "x-session-id", "session-id",
    "x-thread-id", "x-session-affinity"]

def nativeFields : List String := ["session_id", "conversation_id", "thread_id"]

def nativeHeader (headers : HeaderMap) : Option (String × String) :=
  nativeHeaders.findSome? (fun header =>
    ((headers.lookup header).bind toStr).bind
      (fun value => (nativeValue value).map (fun value => (header, value))))

def nativeField (body : Value) : Option String :=
  nativeFields.findSome? (fun field =>
    (((body.get field).bind Value.asStr).or
      (((body.get "metadata").bind (Value.get field)).bind Value.asStr)).bind nativeValue)

structure Request where
  accountScope : String
  headers : HeaderMap
  body : Value

def Request.nativeId (r : Request) : Option String :=
  ((nativeHeader r.headers).map (·.2)).or (nativeField r.body)

/-! ## Aliases -/

inductive AliasKind where
  | native | transcript
deriving DecidableEq

structure Alias where
  digest : String
  kind : AliasKind

/-- `AffinityInput`: construction requires at least one message and therefore
at least one alias. -/
structure AffinityInput where
  accountTag : String
  aliases : List Alias
  nonempty : aliases ≠ []

namespace AffinityInput

def primary (input : AffinityInput) : Alias := input.aliases.head input.nonempty

/-- `resolution_aliases`: a native id is an isolation boundary. -/
def resolutionAliases (input : AffinityInput) : List Alias :=
  if input.primary.kind = .native then
    input.aliases.takeWhile (fun a => decide (a.kind = .native))
  else input.aliases

end AffinityInput

def Env.nativeAliases (env : Env) (process : Nat) (headers : HeaderMap) (body : Value) :
    List Alias :=
  match nativeHeader headers with
  | some (header, value) =>
    [⟨env.digestParts process "native" [value], .native⟩,
      ⟨env.digestParts process "native" [header, value], .native⟩]
  | none =>
    match nativeField body with
    | some value => [⟨env.digestParts process "native" [value], .native⟩]
    | none => []

def Env.cacheBase (env : Env) (process : Nat) (body : Value) : List UInt8 :=
  env.keyed process
    (bytes "cache-base-v1"
      ++ ["model", "system", "tools", "thinking", "context_management"].flatMap (fun field =>
        bytes field ++ [0]
          ++ ((body.get field).elim (bytes "missing") env.feedCanonicalJson) ++ [0xff]))

/-- The digests of the prefixes of the transcript. -/
def Env.messageChain (env : Env) (process : Nat) (chain : List UInt8) :
    List Value → List Alias
  | [] => []
  | message :: rest =>
    let next := env.keyed process
      (bytes "message-chain-v1" ++ chain ++ env.feedCanonicalJson message)
    ⟨hexDigest next, .transcript⟩ :: env.messageChain process next rest

/-- `infer`: the longest transcript comes first, after the native id. -/
def Env.infer (env : Env) (process : Nat) (r : Request) : Option AffinityInput :=
  match r.body.get "messages" with
  | some (.array (message :: rest)) =>
    let transcript := env.messageChain process (env.cacheBase process r.body) (message :: rest)
    some {
      accountTag := env.digestParts process "account" [r.accountScope]
      aliases := env.nativeAliases process r.headers r.body ++ transcript.reverse
      nonempty := by simp [transcript, Env.messageChain] }
  | _ => none

/-! ## Digests are told apart -/

/-- A digest of one process and a digest of another are only the same for the
same bytes. -/
def Env.Injective (env : Env) : Prop :=
  ∀ process process' m m', env.keyed process m = env.keyed process' m' → m = m'

theorem bytes_inj {s t : String} (h : bytes s = bytes t) : s = t := by
  have h := congrArg fromUtf8 h
  simp only [bytes, fromUtf8_utf8, some.injEq] at h
  exact String.toList_inj.mp h

theorem length_le64 (n : Nat) : (le64 n).length = 8 := by
  simp [le64]

theorem le64_inj (hm : m ≤ 512) (hn : n ≤ 512) (h : le64 m = le64 n) : m = n := by
  have hbyte : ∀ i, i < 8 → m / 256 ^ i % 256 = n / 256 ^ i % 256 := by
    intro i hi
    have h := congrArg (fun l => (l.getD i 0).toNat) h
    simpa [le64, List.getD, hi] using h
  have h0 := hbyte 0 (by decide)
  have h1 := hbyte 1 (by decide)
  omega

theorem hexDigit_inj (hm : m < 16) (hn : n < 16) (h : hexDigit m = hexDigit n) : m = n := by
  have key : ∀ a : Fin 16, ∀ b : Fin 16, hexDigit a = hexDigit b → a = b := by decide
  exact congrArg Fin.val (key ⟨m, hm⟩ ⟨n, hn⟩ h)

theorem hexDigest_cons (x : UInt8) (a : List UInt8) :
    (hexDigest (x :: a)).toList =
      hexDigit (x.toNat / 16) :: hexDigit (x.toNat % 16) :: (hexDigest a).toList := by
  simp [hexDigest]

theorem hexDigest_inj {a b : List UInt8} (h : hexDigest a = hexDigest b) : a = b := by
  replace h := congrArg String.toList h
  induction a generalizing b with
  | nil =>
    cases b with
    | nil => rfl
    | cons =>
      rw [hexDigest_cons] at h
      cases h
  | cons x _ ih =>
    cases b with
    | nil =>
      rw [hexDigest_cons] at h
      cases h
    | cons y =>
      rw [hexDigest_cons, hexDigest_cons] at h
      simp only [List.cons.injEq] at h
      obtain ⟨hhigh, hlow, hrest⟩ := h
      have hx := x.toNat_lt
      have hy := y.toNat_lt
      have hhigh := hexDigit_inj (by omega) (by omega) hhigh
      have hlow := hexDigit_inj (by omega) (by omega) hlow
      have hxy : x = y := UInt8.toNat_inj.mp (by omega)
      rw [hxy, ih hrest]

theorem mem_hexDigest {d : List UInt8} {c : Char} (h : c ∈ (hexDigest d).toList) :
    c ≠ ':' ∧ c ≠ '\x7d' := by
  have key : ∀ n : Fin 16, hexDigit n ≠ ':' ∧ hexDigit n ≠ '\x7d' := by decide
  simp only [hexDigest, String.toList_ofList, mem_flatMap, mem_cons, not_mem_nil, or_false] at h
  obtain ⟨byte, -, rfl | rfl⟩ := h
  · have hlt := byte.toNat_lt
    exact key ⟨byte.toNat / 16, by omega⟩
  · exact key ⟨byte.toNat % 16, Nat.mod_lt _ (by decide)⟩

def NativeFrame (value : String) (m : List UInt8) : Prop :=
  m = framed "native" [value] ∨ ∃ header ∈ nativeHeaders, m = framed "native" [header, value]

/-- What it hashes for a prefix of a transcript. -/
def ChainFrame (m : List UInt8) : Prop := ∃ rest, m = bytes "message-chain-v1" ++ rest

theorem framed_inj {domain : String} (h : framed domain [a] = framed domain [b]) : a = b := by
  simp only [framed, flatMap_cons, flatMap_nil, append_nil, append_cancel_left_eq] at h
  exact bytes_inj (append_inj_right h (by rw [length_le64, length_le64]))

theorem validNativeId_length (h : validNativeId value = true) : (bytes value).length ≤ 512 := by
  simp only [validNativeId, guard_iffs] at h
  exact h.2

theorem length_nativeHeader (h : header ∈ nativeHeaders) : (bytes header).length ≤ 512 := by
  have key : ∀ header ∈ nativeHeaders, (bytes header).length ≤ 512 := by decide
  exact key header h

theorem framed_header_ne (hheader : header ∈ nativeHeaders) (ha : validNativeId a = true) :
    framed "native" [a] ≠ framed "native" [header, b] := by
  intro h
  simp only [framed, flatMap_cons, flatMap_nil, append_nil,
    append_cancel_left_eq, append_assoc] at h
  have hsize := le64_inj (validNativeId_length ha) (length_nativeHeader hheader)
    (append_inj_left h (by rw [length_le64, length_le64]))
  have hlength := congrArg List.length h
  simp only [length_append, length_le64] at hlength
  omega

theorem framed_headers_inj {header' : String} (hheader : header ∈ nativeHeaders)
    (hheader' : header' ∈ nativeHeaders)
    (h : framed "native" [header, a] = framed "native" [header', b]) : a = b := by
  simp only [framed, flatMap_cons, flatMap_nil, append_nil,
    append_cancel_left_eq, append_assoc] at h
  have hsize := le64_inj (length_nativeHeader hheader) (length_nativeHeader hheader')
    (append_inj_left h (by rw [length_le64, length_le64]))
  have hrest := append_inj_right (append_inj_right h (by rw [length_le64, length_le64])) hsize
  exact bytes_inj (append_inj_right hrest (by rw [length_le64, length_le64]))

theorem NativeFrame.inj {m : List UInt8} (ha : validNativeId a = true)
    (hb : validNativeId b = true) (h : NativeFrame a m) (h' : NativeFrame b m) : a = b := by
  rcases h with h | ⟨header, hheader, h⟩
  · rcases h' with h' | ⟨header', hheader', h'⟩
    · exact framed_inj (h.symm.trans h')
    · exact absurd (h.symm.trans h') (framed_header_ne hheader' ha)
  · rcases h' with h' | ⟨header', hheader', h'⟩
    · exact absurd (h'.symm.trans h) (framed_header_ne hheader hb)
    · exact framed_headers_inj hheader hheader' (h.symm.trans h')

theorem ChainFrame.not_native {m : List UInt8} (h : ChainFrame m) : ¬ NativeFrame a m := by
  have hnative : (bytes "native").head? = some 110 := by decide
  have hchain : m.head? = some 109 := by
    obtain ⟨rest, rfl⟩ := h
    rfl
  rintro (h' | ⟨header, -, h'⟩)
  · rw [h', framed, List.head?_append, hnative] at hchain
    cases hchain
  · rw [h', framed, List.head?_append, hnative] at hchain
    cases hchain

/-! ## What is inferred -/

theorem nativeValue_valid {value' : String} (h : nativeValue value = some value') :
    validNativeId value' = true := by
  simp only [nativeValue] at h
  split at h
  · rename_i hvalid
    cases h
    exact hvalid
  · cases h

theorem nativeHeader_spec {headers : HeaderMap}
    (h : nativeHeader headers = some (header, value)) :
    header ∈ nativeHeaders ∧ validNativeId value = true := by
  obtain ⟨header', hmem, h⟩ := List.exists_of_findSome?_eq_some h
  obtain ⟨text, -, h⟩ := bind_eq_some_iff.mp h
  obtain ⟨value', hvalue, h⟩ := map_eq_some_iff.mp h
  cases h
  exact ⟨hmem, nativeValue_valid hvalue⟩

theorem nativeField_valid {body : Value} (h : nativeField body = some value) :
    validNativeId value = true := by
  obtain ⟨field, -, h⟩ := List.exists_of_findSome?_eq_some h
  obtain ⟨text, -, h⟩ := bind_eq_some_iff.mp h
  exact nativeValue_valid h

theorem nativeId_valid (h : r.nativeId = some value) : validNativeId value = true := by
  cases hheader : nativeHeader r.headers with
  | some found =>
    have hfound : some found.2 = some value := by
      rw [← h, Request.nativeId, hheader]
      rfl
    cases hfound
    exact (nativeHeader_spec hheader).2
  | none =>
    simp only [Request.nativeId, hheader, map_none, none_or] at h
    exact nativeField_valid h

/-- An alias and the part of the request that it is the hash of. -/
inductive Stems (env : Env) (process : Nat) (r : Request) : Alias → Prop
  | native {value : String} {m : List UInt8} (h : r.nativeId = some value)
      (hvalid : validNativeId value = true) (hm : NativeFrame value m) :
      Stems env process r ⟨hexDigest (env.keyed process m), .native⟩
  | transcript {m : List UInt8} (hm : ChainFrame m) :
      Stems env process r ⟨hexDigest (env.keyed process m), .transcript⟩

theorem messageChain_stems {chain : List UInt8} {messages : List Value} {a : Alias}
    (h : a ∈ env.messageChain process chain messages) : Stems env process r a := by
  induction messages generalizing chain with
  | nil => cases h
  | cons _ _ ih =>
    rcases mem_cons.mp h with rfl | h
    · exact .transcript ⟨_, append_assoc _ _ _⟩
    · exact ih h

theorem nativeAliases_stems {a : Alias}
    (h : a ∈ env.nativeAliases process r.headers r.body) : Stems env process r a := by
  unfold Env.nativeAliases at h
  cases hheader : nativeHeader r.headers with
  | some found =>
    obtain ⟨header, value⟩ := found
    obtain ⟨hmem, hvalid⟩ := nativeHeader_spec hheader
    have hid : r.nativeId = some value := by simp [Request.nativeId, hheader]
    simp only [hheader, mem_cons, not_mem_nil, or_false] at h
    rcases h with rfl | rfl
    · exact .native hid hvalid (.inl rfl)
    · exact .native hid hvalid (.inr ⟨header, hmem, rfl⟩)
  | none =>
    cases hfield : nativeField r.body with
    | none => simp [hheader, hfield] at h
    | some value =>
      have hid : r.nativeId = some value := by simp [Request.nativeId, hheader, hfield]
      simp only [hheader, hfield, mem_singleton] at h
      rw [h]
      exact .native hid (nativeField_valid hfield) (.inl rfl)

theorem nativeAliases_head (h : r.nativeId = some value) :
    (env.nativeAliases process r.headers r.body).head? =
      some ⟨env.digestParts process "native" [value], .native⟩ := by
  unfold Env.nativeAliases
  cases hheader : nativeHeader r.headers with
  | some found =>
    have hfound : some found.2 = some value := by
      rw [← h, Request.nativeId, hheader]
      rfl
    cases hfound
    rfl
  | none =>
    simp only [Request.nativeId, hheader, map_none, none_or] at h
    rw [h]
    rfl

/-- What the aliases of a request are made of. -/
structure Inferred (env : Env) (process : Nat) (r : Request) (input : AffinityInput) : Prop where
  accountTag : input.accountTag = env.digestParts process "account" [r.accountScope]
  aliases : ∀ a ∈ input.aliases, Stems env process r a
  native : ∀ {value}, r.nativeId = some value →
    input.primary = ⟨env.digestParts process "native" [value], .native⟩

theorem infer_inferred (h : env.infer process r = some input) : Inferred env process r input := by
  unfold Env.infer at h
  split at h
  · rename_i message rest hmessages
    cases h
    refine ⟨rfl, ?_, ?_⟩
    · intro a ha
      rcases mem_append.mp ha with ha | ha
      · exact nativeAliases_stems ha
      · exact messageChain_stems (List.mem_reverse.mp ha)
    · intro value hvalue
      have hhead : (env.nativeAliases process r.headers r.body).head? =
          some ⟨env.digestParts process "native" [value], .native⟩ :=
        nativeAliases_head hvalue
      simp only [AffinityInput.primary, ← some.injEq, ← List.head?_eq_some_head,
        List.head?_append, hhead, some_or]
  · cases h

theorem Inferred.resolutionAliases (h : Inferred env process r input)
    (hvalue : r.nativeId = some value) {a : Alias} (ha : a ∈ input.resolutionAliases) :
    validNativeId value = true ∧
      ∃ m, NativeFrame value m ∧ a.digest = hexDigest (env.keyed process m) := by
  unfold AffinityInput.resolutionAliases at ha
  rw [h.native hvalue, if_pos rfl] at ha
  have hkind : decide (a.kind = .native) = true :=
    List.mem_takeWhile_imp (p := fun a : Alias => decide (a.kind = .native)) ha
  have hstems := h.aliases a ((List.takeWhile_prefix _).subset ha)
  cases hstems with
  | native hid hvalid hm =>
    rw [hvalue, some.injEq] at hid
    exact ⟨hid ▸ hvalid, _, hid ▸ hm, rfl⟩
  | transcript => simp at hkind

end ApiToken.Affinity
