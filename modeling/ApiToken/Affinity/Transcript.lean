import ApiToken.Affinity.Canonical

/-!
# The aliases of a transcript

Each message of a request has an alias: the keyed hash of the alias before it,
or of the shape of the cache, and of the message. Two aliases are the same for
the same prefixes of the same cache only, as long as no number of the hashed
values runs into the length of a key.
-/

namespace ApiToken.Affinity

open Meter (Value Number)

variable {chain : List UInt8} {i : Nat} {a : Alias} {body v w : Value}

/-! ## What is hashed -/

def baseFields : List String := ["model", "system", "tools", "thinking", "context_management"]

def Env.baseField (env : Env) (body : Value) (field : String) : List UInt8 :=
  bytes field ++ [0] ++ ((body.get field).elim (bytes "missing") env.feedCanonicalJson) ++ [0xff]

def Env.baseInput (env : Env) (body : Value) : List UInt8 :=
  bytes "cache-base-v1" ++ baseFields.flatMap (env.baseField body)

def Env.chainInput (env : Env) (chain : List UInt8) (message : Value) : List UInt8 :=
  bytes "message-chain-v1" ++ chain ++ env.feedCanonicalJson message

def Request.messages (r : Request) : List Value :=
  match r.body.get "messages" with
  | some (.array messages) => messages
  | _ => []

def Env.digestOf (env : Env) (process : Nat) (r : Request) (messages : List Value) :
    List UInt8 :=
  messages.foldl (fun chain m => env.keyed process (env.chainInput chain m))
    (env.cacheBase process r.body)

def Env.messageAliases (env : Env) (process : Nat) (r : Request) : List Alias :=
  (env.infer process r).elim [] fun input =>
    (input.aliases.filter (fun a => decide (a.kind = .transcript))).reverse

def Env.hashed (env : Env) (process : Nat) (r : Request) : Set (List UInt8) :=
  { m | m = env.baseInput r.body ∨ ∃ before message, before ++ [message] <+: r.messages ∧
      m = env.chainInput (env.digestOf process r before) message }

/-- The keyed hash gives 32 bytes, and tells apart what is hashed. -/
structure Env.Collisionless (env : Env) (process : Nat) (inputs : Set (List UInt8)) : Prop where
  length : ∀ m, (env.keyed process m).length = 32
  inj : Set.InjOn (env.keyed process) inputs

def Request.parts (r : Request) : List Value := baseFields.filterMap r.body.get ++ r.messages

/-! ## Aliases by their prefixes -/

variable {env : Env} {process : Nat}

theorem messageChain_getElem? {messages : List Value}
    (h : (env.messageChain process chain messages)[i]? = some a) :
    i < messages.length ∧ a.digest = hexDigest ((messages.take (i + 1)).foldl
      (fun chain m => env.keyed process (env.chainInput chain m)) chain) := by
  induction messages generalizing chain i with
  | nil => cases h
  | cons _ _ ih =>
    cases i with
    | zero =>
      simp only [Env.messageChain, List.getElem?_cons_zero, some.injEq] at h
      subst h
      exact ⟨Nat.succ_pos _, rfl⟩
    | succ =>
      simp only [Env.messageChain, List.getElem?_cons_succ] at h
      obtain ⟨hlt, hdigest⟩ := ih h
      exact ⟨Nat.succ_lt_succ hlt, hdigest⟩

theorem messageChain_kind {messages : List Value} :
    ∀ a ∈ env.messageChain process chain messages, a.kind = .transcript := by
  induction messages generalizing chain with
  | nil => nofun
  | cons _ _ ih =>
    intro a ha
    rcases mem_cons.mp ha with rfl | ha
    · rfl
    · exact ih a ha

theorem nativeAliases_kind {headers : HeaderMap} :
    ∀ a ∈ env.nativeAliases process headers body, a.kind = .native := by
  intro a ha
  unfold Env.nativeAliases at ha
  split at ha
  · simp only [mem_cons, not_mem_nil, or_false] at ha
    rcases ha with rfl | rfl <;> rfl
  · split at ha
    · rw [mem_singleton] at ha
      subst ha
      rfl
    · cases ha

theorem messageAliases_eq (env : Env) (process : Nat) (r : Request) :
    env.messageAliases process r
      = env.messageChain process (env.cacheBase process r.body) r.messages := by
  unfold Env.messageAliases Env.infer Request.messages
  split
  · next message rest hmessages =>
    have hnative : (env.nativeAliases process r.headers r.body).filter
        (fun a => decide (a.kind = .transcript)) = [] := by
      rw [filter_eq_nil_iff]
      intro a ha
      simp [nativeAliases_kind a ha]
    have hchain : ∀ chain messages, (env.messageChain process chain messages).reverse.filter
        (fun a => decide (a.kind = .transcript))
        = (env.messageChain process chain messages).reverse := by
      intro chain messages
      rw [List.filter_eq_self]
      intro a ha
      simp [messageChain_kind a (List.mem_reverse.mp ha)]
    simp only [hmessages, elim_some, filter_append, hnative, hchain,
      nil_append, List.reverse_reverse]
  · next hnone =>
    split
    · next messages hmessages =>
      cases messages with
      | nil => rfl
      | cons message rest => exact absurd hmessages (hnone message rest)
    · rfl

theorem messageAlias_digest {r : Request} (h : (env.messageAliases process r)[i]? = some a) :
    i < r.messages.length ∧
      a.digest = hexDigest (env.digestOf process r (r.messages.take (i + 1))) := by
  rw [messageAliases_eq] at h
  exact messageChain_getElem? h

theorem digestOf_concat (env : Env) (process : Nat) (r : Request) (messages : List Value)
    (message : Value) : env.digestOf process r (messages ++ [message])
      = env.keyed process (env.chainInput (env.digestOf process r messages) message) := by
  rw [Env.digestOf, foldl_append]
  rfl

/-! ## The same hash, the same values -/

section Same

variable {env : Env} {process : Nat} {N : Set Number} {r r' : Request}

theorem feed_append_inj {b : UInt8} {xs ys : List UInt8} (htext : env.WritesNumbers N)
    (hv : each (env.Fits N) (canonical v)) (hw : each (env.Fits N) (canonical w))
    (hb : numberByte b = false)
    (h : env.feedCanonicalJson v ++ b :: xs = env.feedCanonicalJson w ++ b :: ys) :
    canonical v = canonical w ∧ xs = ys := by
  rw [feed_eq, feed_eq] at h
  have hends : ∀ n n', canonical v = .number n → canonical w = .number n' →
      bytes (env.numberText n) ++ b :: xs = bytes (env.numberText n') ++ b :: ys → n = n' := by
    intro n n' hn hn' heq
    rw [hn] at hv
    rw [hn'] at hw
    exact number_before_stop htext hv.2.1 hw.2.1 hb hb heq
  obtain ⟨hsame, hrest⟩ := encode_append_inj htext _ _ hv hw hends h
  exact ⟨hsame, (List.cons.inj hrest).2⟩

theorem feed_inj (htext : env.WritesNumbers N) (hv : each (env.Fits N) (canonical v))
    (hw : each (env.Fits N) (canonical w))
    (h : env.feedCanonicalJson v = env.feedCanonicalJson w) :
    canonical v = canonical w := by
  have hstop : env.feedCanonicalJson v ++ 0xff :: [] = env.feedCanonicalJson w ++ 0xff :: [] := by
    rw [h]
  exact (feed_append_inj htext hv hw (by decide) hstop).1

theorem missing_ne_feed (v : Value) (xs ys : List UInt8) :
    bytes "missing" ++ xs ≠ env.feedCanonicalJson v ++ ys := by
  obtain ⟨b, tail, hfeed, -, hne, -⟩ := encode_tag env (canonical v)
  rw [feed_eq, hfeed]
  intro h
  exact hne (List.cons.inj h).1.symm

theorem baseFields_inj (htext : env.WritesNumbers N) {fields : List String} {body' : Value}
    (hbody : ∀ f ∈ fields, ∀ v ∈ body.get f, each (env.Fits N) (canonical v))
    (hbody' : ∀ f ∈ fields, ∀ v ∈ body'.get f, each (env.Fits N) (canonical v))
    (h : fields.flatMap (env.baseField body) = fields.flatMap (env.baseField body')) :
    ∀ f ∈ fields, (body.get f).map canonical = (body'.get f).map canonical := by
  induction fields with
  | nil => nofun
  | cons f rest ih =>
    simp only [flatMap_cons, Env.baseField, append_assoc, cons_append,
      nil_append, append_cancel_left_eq, List.cons.injEq, true_and] at h
    have hself := hbody f mem_cons_self
    have hself' := hbody' f mem_cons_self
    have hsplit : (body.get f).map canonical = (body'.get f).map canonical ∧
        rest.flatMap (env.baseField body) = rest.flatMap (env.baseField body') := by
      cases hv : body.get f with
      | none =>
        cases hw : body'.get f with
        | none =>
          simp only [hv, hw, elim_none] at h
          exact ⟨rfl, (List.cons.inj (append_cancel_left h)).2⟩
        | some w =>
          simp only [hv, hw, elim_none, elim_some] at h
          exact absurd h (missing_ne_feed w _ _)
      | some v =>
        cases hw : body'.get f with
        | none =>
          simp only [hv, hw, elim_none, elim_some] at h
          exact absurd h.symm (missing_ne_feed v _ _)
        | some w =>
          simp only [hv, hw, elim_some] at h
          obtain ⟨hsame, hrest⟩ := feed_append_inj htext (hself v hv) (hself' w hw) (by decide) h
          exact ⟨by simp [hsame], hrest⟩
    intro g hg
    rcases mem_cons.mp hg with rfl | hg
    · exact hsplit.1
    · exact ih (fun f hf => hbody f (mem_cons_of_mem _ hf))
        (fun f hf => hbody' f (mem_cons_of_mem _ hf)) hsplit.2 g hg

theorem baseInput_ne_chainInput (body message : Value) (chain : List UInt8) :
    env.baseInput body ≠ env.chainInput chain message := by
  intro h
  have hhead : (env.baseInput body).head? = some 99 := rfl
  rw [h] at hhead
  cases hhead

theorem digestOf_inj (htext : env.WritesNumbers N)
    (hhash : env.Collisionless process (env.hashed process r ∪ env.hashed process r'))
    (hr : ∀ v ∈ r.parts, each (env.Fits N) (canonical v))
    (hr' : ∀ v ∈ r'.parts, each (env.Fits N) (canonical v)) (p p' : List Value)
    (hp : p <+: r.messages) (hp' : p' <+: r'.messages)
    (h : env.digestOf process r p = env.digestOf process r' p') :
    env.baseInput r.body = env.baseInput r'.body ∧ p.map canonical = p'.map canonical := by
  have hbase : env.baseInput r.body ∈ env.hashed process r ∪ env.hashed process r' :=
    .inl (.inl rfl)
  have hbase' : env.baseInput r'.body ∈ env.hashed process r ∪ env.hashed process r' :=
    .inr (.inl rfl)
  induction p using List.reverseRecOn generalizing p' with
  | nil =>
    rcases p'.eq_nil_or_concat' with rfl | ⟨before, message, rfl⟩
    · exact ⟨hhash.inj hbase hbase' h, rfl⟩
    · rw [digestOf_concat] at h
      have hmem : env.chainInput (env.digestOf process r' before) message
          ∈ env.hashed process r ∪ env.hashed process r' := .inr (.inr ⟨_, _, hp', rfl⟩)
      exact absurd (hhash.inj hbase hmem h) (baseInput_ne_chainInput _ _ _)
  | append_singleton before message ih =>
    rw [digestOf_concat] at h
    have hmem : env.chainInput (env.digestOf process r before) message
        ∈ env.hashed process r ∪ env.hashed process r' := .inl (.inr ⟨_, _, hp, rfl⟩)
    rcases p'.eq_nil_or_concat' with rfl | ⟨before', message', rfl⟩
    · exact absurd (hhash.inj hbase' hmem h.symm) (baseInput_ne_chainInput _ _ _)
    · rw [digestOf_concat] at h
      have hmem' : env.chainInput (env.digestOf process r' before') message'
          ∈ env.hashed process r ∪ env.hashed process r' := .inr (.inr ⟨_, _, hp', rfl⟩)
      have hinput := hhash.inj hmem hmem' h
      simp only [Env.chainInput, append_assoc, append_cancel_left_eq] at hinput
      -- a digest of fixed length comes off the front
      have hlength : ∀ (r : Request) (messages : List Value),
          (env.digestOf process r messages).length = 32 := by
        intro r messages
        rcases messages.eq_nil_or_concat' with rfl | ⟨_, _, rfl⟩
        · exact hhash.length _
        · rw [digestOf_concat]
          exact hhash.length _
      have hlen := (hlength r before).trans (hlength r' before').symm
      obtain ⟨hsame, hmessages⟩ := ih before' ((prefix_append _ _).trans hp)
        ((prefix_append _ _).trans hp') (append_inj_left hinput hlen)
      have hmessage := feed_inj htext
        (hr message (mem_append_right _ (hp.subset (by simp))))
        (hr' message' (mem_append_right _ (hp'.subset (by simp))))
        (append_inj_right hinput hlen)
      exact ⟨hsame, by rw [map_append, map_append, hmessages]; simp [hmessage]⟩

theorem digestOf_congr {p p' : List Value}
    (hfields : ∀ f ∈ baseFields, (r.body.get f).map canonical = (r'.body.get f).map canonical)
    (h : p.map canonical = p'.map canonical) :
    env.digestOf process r p = env.digestOf process r' p' := by
  have hfeed : ∀ {v w : Value}, canonical v = canonical w →
      env.feedCanonicalJson v = env.feedCanonicalJson w := by
    intro v w hsame
    rw [feed_eq, feed_eq, hsame]
  have hbase : env.cacheBase process r.body = env.cacheBase process r'.body := by
    show env.keyed process (env.baseInput r.body) = env.keyed process (env.baseInput r'.body)
    have hfield : ∀ f ∈ baseFields, env.baseField r.body f = env.baseField r'.body f := by
      intro f hf
      have hsame := hfields f hf
      unfold Env.baseField
      cases hv : r.body.get f <;> cases hw : r'.body.get f <;> simp [hv, hw] at hsame
      · rfl
      · simp only [elim_some, hfeed hsame]
    rw [Env.baseInput, Env.baseInput]
    congr 2
    exact List.flatMap_congr hfield
  unfold Env.digestOf
  rw [hbase]
  generalize env.cacheBase process r'.body = chain
  induction p generalizing p' chain with
  | nil =>
    rw [map_nil, eq_comm, List.map_eq_nil_iff] at h
    rw [h]
  | cons _ _ ih =>
    cases p' with
    | nil => cases h
    | cons =>
      simp only [map_cons, List.cons.injEq] at h
      simp only [foldl_cons, Env.chainInput, hfeed h.1]
      exact ih h.2 _

end Same

/-! ## The law of the aliases -/

section Conditions

variable {P Q : Value → Prop}

mutual

theorem each_and (v : Value) (hp : each P v) (hq : each Q v) : each (fun v => P v ∧ Q v) v := by
  match v with
  | .null | .bool _ | .number _ | .string _ => exact ⟨hp, hq⟩
  | .array values => exact ⟨⟨hp.1, hq.1⟩, eachItem_and values hp.2 hq.2⟩
  | .object fields => exact ⟨⟨hp.1, hq.1⟩, eachField_and fields hp.2 hq.2⟩

theorem eachItem_and (values : List Value) (hp : eachItem P values) (hq : eachItem Q values) :
    eachItem (fun v => P v ∧ Q v) values := by
  match values with
  | [] => trivial
  | v :: rest => exact ⟨each_and v hp.1 hq.1, eachItem_and rest hp.2 hq.2⟩

theorem eachField_and (fields : List (String × Value)) (hp : eachField P fields)
    (hq : eachField Q fields) : eachField (fun v => P v ∧ Q v) fields := by
  match fields with
  | [] => trivial
  | (_, v) :: rest => exact ⟨each_and v hp.1 hq.1, eachField_and rest hp.2 hq.2⟩

end

end Conditions

/-- The values that are hashed for a request are JSON with short strings and
the numbers of `N`. -/
def Request.Plain (r : Request) (N : Set Number) : Prop :=
  ∀ v ∈ r.parts, each Sized (canonical v) ∧ each (NumberIn N) (canonical v)

def Env.Separates (env : Env) (N : Set Number) (r : Request) : Prop :=
  ∀ v ∈ r.parts, each (env.Apart N) (canonical v)

/-- Two aliases are the same for the same prefix of the same cache. -/
def Env.AliasLaw (env : Env) (process : Nat) (r r' : Request) : Prop :=
  ∀ i j a b, (env.messageAliases process r)[i]? = some a →
    (env.messageAliases process r')[j]? = some b →
    (a.digest = b.digest ↔ i = j ∧
      (∀ f ∈ baseFields, (r.body.get f).map canonical = (r'.body.get f).map canonical) ∧
      (r.messages.take (i + 1)).map canonical = (r'.messages.take (j + 1)).map canonical)

/-- The law holds where no number runs into the length of a key. -/
theorem alias_law_of_separates {env : Env} {process : Nat} {N : Set Number} {r r' : Request}
    (htext : env.WritesNumbers N)
    (hhash : env.Collisionless process (env.hashed process r ∪ env.hashed process r'))
    (hplain : r.Plain N) (hplain' : r'.Plain N)
    (hsep : env.Separates N r) (hsep' : env.Separates N r') : env.AliasLaw process r r' := by
  have hfits : ∀ {q : Request}, q.Plain N → env.Separates N q →
      ∀ v ∈ q.parts, each (env.Fits N) (canonical v) := by
    intro q hq hs v hv
    exact each_and _ (hq v hv).1 (each_and _ (hq v hv).2 (hs v hv))
  have hr := hfits hplain hsep
  have hr' := hfits hplain' hsep'
  intro i j a b ha hb
  obtain ⟨hi, ha⟩ := messageAlias_digest ha
  obtain ⟨hj, hb⟩ := messageAlias_digest hb
  rw [ha, hb]
  constructor
  · intro h
    obtain ⟨hbase, hmessages⟩ := digestOf_inj htext hhash hr hr' _ _
      (List.take_prefix _ _) (List.take_prefix _ _) (hexDigest_inj h)
    have hlength := congrArg List.length hmessages
    simp only [List.length_map, List.length_take] at hlength
    have hpart : ∀ {q : Request}, (∀ v ∈ q.parts, each (env.Fits N) (canonical v)) →
        ∀ f ∈ baseFields, ∀ v ∈ q.body.get f, each (env.Fits N) (canonical v) :=
      fun hq f hf v hv => hq v (mem_append_left _ (mem_filterMap.mpr ⟨f, hf, hv⟩))
    exact ⟨by omega, baseFields_inj htext (hpart hr) (hpart hr')
      (append_cancel_left hbase), hmessages⟩
  · rintro ⟨-, hfields, hmessages⟩
    rw [digestOf_congr hfields hmessages]

/-! ### Requests with one message -/

theorem mergeSort_pair {α : Type} (le : α → α → Bool) (a b : α) :
    [a, b].mergeSort le = if le a b then [a, b] else [b, a] := by
  rw [List.mergeSort]
  simp [List.MergeSort.Internal.splitInTwo, List.merge]

/-- A hash that tells apart what differs in length. -/
def sampleEnv : Env where
  keyed _ m := le64 m.length ++ List.replicate 24 0
  numberText
    | .posInt n => if n = 12 then "12" else "1"
    | _ => "0"

def requestOf (message : Value) : Request :=
  ⟨"account", [], .object [("messages", .array [message])]⟩

def sampleNumbers : Set Number := {.posInt 1, .posInt 12}

theorem sampleEnv_writesNumbers : sampleEnv.WritesNumbers sampleNumbers where
  inj := by
    rintro _ (rfl | rfl) _ (rfl | rfl) h
    · rfl
    · exact absurd h (by decide)
    · exact absurd h (by decide)
    · rfl
  bytes := by
    rintro _ (rfl | rfl) b hb
    · obtain rfl : b = 49 := mem_singleton.mp hb
      rfl
    · have hb : b = 49 ∨ b = 50 := by
        simpa only [mem_cons, not_mem_nil, or_false] using (show b ∈ [49, 50] from hb)
      rcases hb with rfl | rfl <;> rfl

theorem sampleEnv_collisionless {n : Nat}
    (hfeed : sampleEnv.feedCanonicalJson v = sampleEnv.feedCanonicalJson w)
    (hlen : (sampleEnv.feedCanonicalJson v).length = n) (hne : n ≠ 52)
    (hhigh : n < 2 ^ 32) :
    sampleEnv.Collisionless 0
      (sampleEnv.hashed 0 (requestOf v) ∪ sampleEnv.hashed 0 (requestOf w)) := by
  have hlength : ∀ m, (sampleEnv.keyed 0 m).length = 32 := by
    intro m
    simp [sampleEnv, length_le64]
  have hbase : (sampleEnv.baseInput (requestOf v).body).length = 100 := by
    show (sampleEnv.baseInput (requestOf .null).body).length = 100
    decide +kernel
  -- everything hashed is the base, or the message behind it
  have hinputs : ∀ u, sampleEnv.feedCanonicalJson v = sampleEnv.feedCanonicalJson u →
      ∀ x ∈ sampleEnv.hashed 0 (requestOf u), x = sampleEnv.baseInput (requestOf v).body ∨
        x = sampleEnv.chainInput (sampleEnv.cacheBase 0 (requestOf v).body) v := by
    rintro u hu x (rfl | ⟨before, message, hbefore, rfl⟩)
    · exact .inl rfl
    · have hshort := hbefore.length_le
      rw [length_append, List.length_singleton] at hshort
      obtain rfl : before = [] := List.length_eq_zero_iff.mp
        (Nat.le_zero.mp (Nat.le_of_succ_le_succ hshort))
      obtain rfl : message = u := (List.cons_prefix_cons.mp hbefore).1
      exact .inr (by rw [Env.chainInput, Env.chainInput, hu]; rfl)
  have hchain : (sampleEnv.chainInput (sampleEnv.cacheBase 0 (requestOf v).body) v).length
      = 48 + n := by
    have hdomain : (bytes "message-chain-v1").length = 16 := by decide
    rw [Env.chainInput, length_append, length_append, hdomain, hlen, Env.cacheBase, hlength]
  refine ⟨hlength, fun x hx y hy hxy => ?_⟩
  have hx := hx.elim (hinputs v rfl x) (hinputs w hfeed x)
  have hy := hy.elim (hinputs v rfl y) (hinputs w hfeed y)
  have hxy : x.length = y.length := by
    refine le64_inj_of_lt ?_ ?_ (append_inj_left hxy (by rw [length_le64, length_le64]))
    · rcases hx with rfl | rfl <;> omega
    · rcases hy with rfl | rfl <;> omega
  rcases hx with rfl | rfl <;> rcases hy with rfl | rfl
  · rfl
  · omega
  · omega
  · rfl

def orderedMessage : Value := .object [("a", .number (.posInt 1)), ("b", .null)]

def swappedMessage : Value := .object [("b", .null), ("a", .number (.posInt 1))]

/-- The keys of a message in one order and in the other. -/
theorem alias_law_of_keys_swapped :
    sampleEnv.AliasLaw 0 (requestOf orderedMessage) (requestOf swappedMessage) := by
  have hab : decide ("a" ≤ "b") = true := by decide
  have hba : decide ("b" ≤ "a") = false := by decide
  have hordered : canonical orderedMessage = orderedMessage := by
    simp [orderedMessage, canonical, canonicalFields, mergeSort_pair]
  have hswapped : canonical swappedMessage = orderedMessage := by
    simp [orderedMessage, swappedMessage, canonical, canonicalFields, mergeSort_pair]
  have hfeed : sampleEnv.feedCanonicalJson orderedMessage
      = sampleEnv.feedCanonicalJson swappedMessage := by
    rw [feed_eq, feed_eq, hordered, hswapped]
  have hlen : (sampleEnv.feedCanonicalJson orderedMessage).length = 31 := by
    rw [feed_eq, hordered]
    decide +kernel
  have hplain : each Sized orderedMessage ∧ each (NumberIn sampleNumbers) orderedMessage :=
    ⟨⟨⟨by decide, by decide⟩, trivial, trivial, trivial⟩, ⟨trivial, .inl rfl, trivial, trivial⟩⟩
  have hapart : each (sampleEnv.Apart sampleNumbers) orderedMessage := by
    refine ⟨List.isChain_cons_cons.mpr ⟨?_, List.isChain_singleton _⟩, trivial, trivial, trivial⟩
    rintro n hn ⟨n', hn', j, hj, htext, -⟩
    cases hn
    obtain ⟨i, rfl⟩ := Nat.exists_eq_succ_of_ne_zero hj.ne'
    have hbyte : (bytes (sampleEnv.numberText n'))[1]? = some 1 := by rw [htext]; rfl
    rcases hn' with rfl | rfl <;> exact absurd hbyte (by decide)
  have hparts : ∀ m, ∀ v ∈ (requestOf m).parts, v = m := fun _ _ hv => mem_singleton.mp hv
  exact alias_law_of_separates sampleEnv_writesNumbers
    (sampleEnv_collisionless hfeed hlen (by decide) (by decide))
    (fun v hv => by rw [hparts _ v hv, hordered]; exact hplain)
    (fun v hv => by rw [hparts _ v hv, hswapped]; exact hplain)
    (fun v hv => by rw [hparts _ v hv, hordered]; exact hapart)
    (fun v hv => by rw [hparts _ v hv, hswapped]; exact hapart)

/-! ### A number that runs into a key -/

def textOf (bs : List UInt8) : String := String.ofList (bs.map fun b => Char.ofNat b.toNat)

theorem bytes_textOf {bs : List UInt8} (h : ∀ b ∈ bs, b < 128) : bytes (textOf bs) = bs := by
  have hchar : ∀ n : Fin 128, String.utf8EncodeChar (Char.ofNat n) = [UInt8.ofNat n] := by
    decide
  simp only [bytes, textOf, String.toList_ofList, utf8]
  induction bs with
  | nil => rfl
  | cons b _ ih =>
    have hb : b.toNat < 128 := h b mem_cons_self
    rw [map_cons, flatMap_cons, ih fun c hc => h c (mem_cons_of_mem _ hc), hchar ⟨b.toNat, hb⟩]
    simp

theorem empty_le (s : String) : decide ("" ≤ s) = true :=
  decide_eq_true fun h => List.not_lt_nil s.toList h

def longKey : List UInt8 := 0 :: 107 :: 115 :: (le64 296 ++ List.replicate 295 97)

def longText : List UInt8 := List.replicate 295 97 ++ [110]

def numberThenKey : Value := .object [("", .number (.posInt 1)), (textOf longKey, .null)]

def longerNumber : Value := .object [("", .number (.posInt 12)), ("k", .string (textOf longText))]

theorem bytes_longKey : bytes (textOf longKey) = longKey := by
  refine bytes_textOf fun b hb => ?_
  have hlength : (le64 296).all (· < 128) = true := by decide
  simp only [longKey, mem_cons, mem_append, List.mem_replicate] at hb
  rcases hb with rfl | rfl | rfl | hb | ⟨-, rfl⟩
  · decide
  · decide
  · decide
  · exact of_decide_eq_true (all_eq_true.mp hlength b hb)
  · decide

theorem bytes_longText : bytes (textOf longText) = longText := by
  refine bytes_textOf fun b hb => ?_
  simp only [longText, mem_append, List.mem_replicate, mem_singleton] at hb
  rcases hb with ⟨-, rfl⟩ | rfl <;> decide

def sharedEncoding : List UInt8 :=
  123 :: (le64 2 ++ le64 0 ++ [100, 49] ++ le64 306 ++ longKey ++ [110, 125])

theorem feed_numberThenKey : sampleEnv.feedCanonicalJson numberThenKey = sharedEncoding := by
  simp only [numberThenKey, Env.feedCanonicalJson, Env.feedFields, mergeSort_pair, empty_le,
    if_true, flatMap_cons, flatMap_nil, bytes_longKey]
  decide +kernel

theorem feed_longerNumber : sampleEnv.feedCanonicalJson longerNumber = sharedEncoding := by
  simp only [longerNumber, Env.feedCanonicalJson, Env.feedFields, mergeSort_pair, empty_le,
    if_true, flatMap_cons, flatMap_nil, bytes_longText]
  decide +kernel

/-- Two different messages whose encodings, and so whose aliases, are the
same. -/
theorem number_runs_into_key :
    sampleEnv.WritesNumbers sampleNumbers
    ∧ sampleEnv.Collisionless 0 (sampleEnv.hashed 0 (requestOf numberThenKey)
        ∪ sampleEnv.hashed 0 (requestOf longerNumber))
    ∧ sampleEnv.feedCanonicalJson numberThenKey = sampleEnv.feedCanonicalJson longerNumber
    ∧ canonical numberThenKey ≠ canonical longerNumber
    ∧ ¬ sampleEnv.AliasLaw 0 (requestOf numberThenKey) (requestOf longerNumber) := by
  have hfeed := feed_numberThenKey.trans feed_longerNumber.symm
  have hne : canonical numberThenKey ≠ canonical longerNumber := by
    simp [numberThenKey, longerNumber, canonical, canonicalFields, mergeSort_pair, empty_le]
  refine ⟨sampleEnv_writesNumbers, sampleEnv_collisionless (n := 335) hfeed ?_ (by decide)
    (by decide), hfeed, hne, fun hlaw => ?_⟩
  · rw [feed_numberThenKey]
    decide +kernel
  · have hsame := (hlaw 0 0 ⟨_, .transcript⟩ ⟨_, .transcript⟩ rfl rfl).mp (by
      show hexDigest (sampleEnv.keyed 0 (sampleEnv.chainInput _ numberThenKey))
        = hexDigest (sampleEnv.keyed 0 (sampleEnv.chainInput _ longerNumber))
      rw [Env.chainInput, Env.chainInput, hfeed]
      rfl)
    exact hne (List.cons.inj hsame.2.2).1

end ApiToken.Affinity
