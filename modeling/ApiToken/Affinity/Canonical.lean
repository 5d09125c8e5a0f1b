import Mathlib.Data.List.Chain
import ApiToken.Affinity.Infer

/-!
# The canonical encoding

What `feed_canonical_json` feeds is the encoding of the value with its keys in
order. The encoding of a value is told apart from all others where no number
runs into the length of the key behind it: a number's text has neither a
length nor an end of its own.
-/

namespace ApiToken.Affinity

open Meter (Value Number)

/-! ## Values with their keys in order -/

mutual

def canonical : Value → Value
  | .array values => .array (canonicalItems values)
  | .object fields =>
    .object ((canonicalFields fields).mergeSort (fun a b => decide (a.1 ≤ b.1)))
  | v => v

def canonicalItems : List Value → List Value
  | [] => []
  | value :: rest => canonical value :: canonicalItems rest

def canonicalFields : List (String × Value) → List (String × Value)
  | [] => []
  | (key, value) :: rest => (key, canonical value) :: canonicalFields rest

end

section Encode

variable (env : Env)

mutual

def Env.encode : Value → List UInt8
  | .null => [110]
  | .bool value => [98, if value then 1 else 0]
  | .number value => 100 :: bytes (env.numberText value)
  | .string value => 115 :: (le64 (bytes value).length ++ bytes value)
  | .array values => 91 :: (le64 values.length ++ (Env.encodeItems values ++ [93]))
  | .object fields => 123 :: (le64 fields.length ++ (Env.encodeFields fields ++ [125]))

def Env.encodeItems : List Value → List UInt8
  | [] => []
  | value :: rest => Env.encode value ++ Env.encodeItems rest

def Env.encodeFields : List (String × Value) → List UInt8
  | [] => []
  | (key, value) :: rest =>
    le64 (bytes key).length ++ (bytes key ++ (Env.encode value ++ Env.encodeFields rest))

end

theorem length_canonicalItems (values : List Value) :
    (canonicalItems values).length = values.length := by
  induction values with
  | nil => rfl
  | cons _ _ ih => simp [canonicalItems, ih]

theorem length_canonicalFields (fields : List (String × Value)) :
    (canonicalFields fields).length = fields.length := by
  induction fields with
  | nil => rfl
  | cons _ _ ih => simp [canonicalFields, ih]

theorem encodeFields_eq (fields : List (String × Value)) : env.encodeFields fields
    = (fields.map fun f => (f.1, env.encode f.2)).flatMap
      (fun (key, fed) => le64 (bytes key).length ++ bytes key ++ fed) := by
  induction fields with
  | nil => rfl
  | cons field _ ih =>
    obtain ⟨key, value⟩ := field
    simp only [Env.encodeFields, map_cons, flatMap_cons, ih, append_assoc]

mutual

theorem feed_eq (v : Value) : env.feedCanonicalJson v = env.encode (canonical v) := by
  match v with
  | .null => rfl
  | .bool value => rfl
  | .number value => rfl
  | .string value => rfl
  | .array values =>
    simp only [Env.feedCanonicalJson, canonical, Env.encode, feedItems_eq values,
      length_canonicalItems, append_assoc]
    rfl
  | .object fields =>
    have hsort := List.map_mergeSort (f := fun f : String × Value => (f.1, env.encode f.2))
      (r := fun a b => decide (a.1 ≤ b.1)) (s := fun a b => decide (a.1 ≤ b.1))
      (l := canonicalFields fields) (fun _ _ _ _ => rfl)
    simp only [Env.feedCanonicalJson, canonical, Env.encode, feedFields_eq fields,
      List.length_mergeSort, length_canonicalFields, encodeFields_eq, hsort,
      append_assoc]
    rfl

theorem feedItems_eq (values : List Value) :
    env.feedItems values = env.encodeItems (canonicalItems values) := by
  match values with
  | [] => rfl
  | value :: rest =>
    rw [Env.feedItems, canonicalItems, Env.encodeItems, feed_eq value, feedItems_eq rest]

theorem feedFields_eq (fields : List (String × Value)) : env.feedFields fields
    = (canonicalFields fields).map (fun f => (f.1, env.encode f.2)) := by
  match fields with
  | [] => rfl
  | (key, value) :: rest =>
    rw [Env.feedFields, canonicalFields, map_cons, feed_eq value, feedFields_eq rest]

end

end Encode

/-! ## Conditions on all parts of a value -/

section Each

variable (P : Value → Prop)

mutual

def each : Value → Prop
  | .array values => P (.array values) ∧ eachItem values
  | .object fields => P (.object fields) ∧ eachField fields
  | v => P v

def eachItem : List Value → Prop
  | [] => True
  | value :: rest => each value ∧ eachItem rest

def eachField : List (String × Value) → Prop
  | [] => True
  | (_, value) :: rest => each value ∧ eachField rest

end

end Each

/-- Strings and keys below `2 ^ 48` bytes, and counts that a `u64` holds. -/
def Sized : Value → Prop
  | .string s => (bytes s).length < 2 ^ 48
  | .array values => values.length < 2 ^ 64
  | .object fields => fields.length < 2 ^ 64 ∧ ∀ f ∈ fields, (bytes f.1).length < 2 ^ 48
  | _ => True

def NumberIn (N : Set Number) : Value → Prop
  | .number n => n ∈ N
  | _ => True

def numberByte (b : UInt8) : Bool :=
  decide (48 ≤ b ∧ b ≤ 57) || b == 43 || b == 45 || b == 46 || b == 69 || b == 101

structure Env.WritesNumbers (env : Env) (N : Set Number) : Prop where
  inj : Set.InjOn env.numberText N
  bytes : ∀ n ∈ N, ∀ b ∈ bytes (env.numberText n), numberByte b = true

/-- The text of `n`, with bytes of the length of the key behind it, is again a
number's, and the eight bytes that follow are again a key's length. -/
def Env.RunsInto (env : Env) (N : Set Number) (n : Number) (key : String) : Prop :=
  ∃ n' ∈ N, ∃ j, 0 < j ∧
    bytes (env.numberText n') = bytes (env.numberText n) ++ (le64 (bytes key).length).take j ∧
    ∃ m < 2 ^ 48, ((le64 (bytes key).length ++ bytes key).drop j).take 8 = le64 m

def Env.Apart (env : Env) (N : Set Number) : Value → Prop
  | .object fields => fields.IsChain fun a b => ∀ n, a.2 = .number n → ¬ env.RunsInto N n b.1
  | _ => True

/-! ## Lengths -/

theorem le64_inj_of_lt {m n : Nat} (hm : m < 2 ^ 64) (hn : n < 2 ^ 64)
    (h : le64 m = le64 n) : m = n := by
  have hbyte : ∀ i, i < 8 → m / 256 ^ i % 256 = n / 256 ^ i % 256 := by
    intro i hi
    have h := congrArg (fun l => (l.getD i 0).toNat) h
    simpa [le64, List.getD, hi] using h
  have h0 := hbyte 0 (by decide)
  have h1 := hbyte 1 (by decide)
  have h2 := hbyte 2 (by decide)
  have h3 := hbyte 3 (by decide)
  have h4 := hbyte 4 (by decide)
  have h5 := hbyte 5 (by decide)
  have h6 := hbyte 6 (by decide)
  have h7 := hbyte 7 (by decide)
  omega

theorem le64_getElem? {n i : Nat} (h : i < 8) :
    (le64 n)[i]? = some (UInt8.ofNat (n / 256 ^ i)) := by
  simp [le64, h]

theorem le64_append_inj {m n : Nat} {xs ys : List UInt8} (hm : m < 2 ^ 64) (hn : n < 2 ^ 64)
    (h : le64 m ++ xs = le64 n ++ ys) : m = n ∧ xs = ys := by
  have hlen : (le64 m).length = (le64 n).length := by rw [length_le64, length_le64]
  exact ⟨le64_inj_of_lt hm hn (append_inj_left h hlen), append_inj_right h hlen⟩

theorem text_append_inj {s t : String} {xs ys : List UInt8}
    (hs : (bytes s).length < 2 ^ 48) (ht : (bytes t).length < 2 ^ 48)
    (h : le64 (bytes s).length ++ (bytes s ++ xs) = le64 (bytes t).length ++ (bytes t ++ ys)) :
    s = t ∧ xs = ys := by
  obtain ⟨hlen, h⟩ := le64_append_inj (by omega) (by omega) h
  exact ⟨bytes_inj (append_inj_left h hlen), append_inj_right h hlen⟩

/-! ## Where a number ends -/

theorem run_of_append {d xs ys : List UInt8} {key : String} {m : Nat} (hne : d ≠ [])
    (hd : ∀ b ∈ d, numberByte b = true) (hkey : (bytes key).length < 2 ^ 48)
    (h : le64 (bytes key).length ++ (bytes key ++ xs) = d ++ (le64 m ++ ys)) :
    d = (le64 (bytes key).length).take d.length ∧
      ((le64 (bytes key).length ++ bytes key).drop d.length).take 8 = le64 m := by
  have hget : ∀ i < 8, i < d.length →
      numberByte (UInt8.ofNat ((bytes key).length / 256 ^ i)) = true := by
    intro i hi hlt
    have hbyte : (le64 (bytes key).length ++ (bytes key ++ xs))[i]?
        = (d ++ (le64 m ++ ys))[i]? := by rw [h]
    rw [List.getElem?_append_left (by rw [length_le64]; exact hi), le64_getElem? hi,
      List.getElem?_append_left hlt, List.getElem?_eq_getElem hlt, some.injEq] at hbyte
    rw [hbyte]
    exact hd _ (List.getElem_mem hlt)
  have hlong : d.length ≤ 6 := by
    by_contra hgt
    have hzero : (bytes key).length / 256 ^ 6 = 0 := by omega
    have := hget 6 (by decide) (by omega)
    rw [hzero] at this
    exact absurd this (by decide)
  have hfirst := hget 0 (by decide) (List.length_pos_of_ne_nil hne)
  have hkeylong : 8 ≤ (bytes key).length := by
    by_contra hlt
    have hsmall : ∀ n < 8, numberByte (UInt8.ofNat n) = false := by decide
    rw [Nat.pow_zero, Nat.div_one, hsmall _ (by omega)] at hfirst
    cases hfirst
  constructor
  · have htake := congrArg (List.take d.length) h
    rw [List.take_left, List.take_append_of_le_length (by rw [length_le64]; omega)] at htake
    exact htake.symm
  · have hdrop := congrArg (fun l => (l.drop d.length).take 8) h
    have hroom : 8 ≤ ((le64 (bytes key).length ++ bytes key).drop d.length).length := by
      rw [length_drop, length_append, length_le64]
      omega
    simp only [List.drop_left] at hdrop
    rw [← append_assoc, List.drop_append_of_le_length
      (by rw [length_append, length_le64]; omega),
      List.take_append_of_le_length hroom] at hdrop
    rw [hdrop, List.take_append_of_le_length (by rw [length_le64]), ← length_le64 m,
      List.take_length]

section Numbers

variable {env : Env} {N : Set Number} {n n' : Number} {xs ys : List UInt8}

theorem number_before_stop {b b' : UInt8} (htext : env.WritesNumbers N) (hn : n ∈ N)
    (hn' : n' ∈ N) (hb : numberByte b = false) (hb' : numberByte b' = false)
    (h : bytes (env.numberText n) ++ b :: xs = bytes (env.numberText n') ++ b' :: ys) :
    n = n' := by
  have hspan : ∀ (c : UInt8) (zs : List UInt8), ∀ m ∈ N, numberByte c = false →
      (bytes (env.numberText m) ++ c :: zs).takeWhile numberByte = bytes (env.numberText m) := by
    intro c zs m hm hc
    rw [List.takeWhile_append_of_pos (htext.bytes m hm), List.takeWhile_cons, hc]
    simp
  have heq := congrArg (List.takeWhile numberByte) h
  rw [hspan b xs n hn hb, hspan b' ys n' hn' hb'] at heq
  exact htext.inj hn hn' (bytes_inj heq)

theorem number_before_key {key key' : String} (htext : env.WritesNumbers N) (hn : n ∈ N)
    (hn' : n' ∈ N) (hkey : (bytes key).length < 2 ^ 48) (hkey' : (bytes key').length < 2 ^ 48)
    (hruns : ¬ env.RunsInto N n key) (hruns' : ¬ env.RunsInto N n' key')
    (h : bytes (env.numberText n) ++ (le64 (bytes key).length ++ (bytes key ++ xs))
      = bytes (env.numberText n') ++ (le64 (bytes key').length ++ (bytes key' ++ ys))) :
    n = n' := by
  have hcase : ∀ {a a' : Number} {k k' : String} {us vs d : List UInt8}, a ∈ N → a' ∈ N →
      (bytes k).length < 2 ^ 48 → (bytes k').length < 2 ^ 48 → ¬ env.RunsInto N a k →
      bytes (env.numberText a') = bytes (env.numberText a) ++ d →
      le64 (bytes k).length ++ (bytes k ++ us) = d ++ (le64 (bytes k').length ++ (bytes k' ++ vs))
      → a = a' := by
    intro a a' k k' us vs d ha ha' hk hk' hnot hd hrest
    by_cases hnil : d = []
    · subst hnil
      rw [append_nil] at hd
      exact htext.inj ha ha' (bytes_inj hd.symm)
    · have hbytes : ∀ b ∈ d, numberByte b = true := fun b hb =>
        htext.bytes a' ha' b (by rw [hd]; exact mem_append_right _ hb)
      obtain ⟨hlead, hnext⟩ := run_of_append hnil hbytes hk hrest
      exact absurd ⟨a', ha', d.length, List.length_pos_of_ne_nil hnil, by rw [← hlead, hd],
        _, hk', hnext⟩ hnot
  rcases List.append_eq_append_iff.mp h with ⟨d, hd, hrest⟩ | ⟨d, hd, hrest⟩
  · exact hcase hn hn' hkey hkey' hruns hd hrest
  · exact (hcase hn' hn hkey' hkey hruns' hd hrest).symm

end Numbers

/-! ## The encoding is told apart -/

section Injective

variable {env : Env} {N : Set Number}

theorem encode_tag (env : Env) (v : Value) :
    ∃ b xs, env.encode v = b :: xs ∧ numberByte b = false ∧ b ≠ 109 ∧ b ≠ 93 := by
  cases v <;> exact ⟨_, _, rfl, by decide, by decide, by decide⟩

def Env.Fits (env : Env) (N : Set Number) (v : Value) : Prop :=
  Sized v ∧ NumberIn N v ∧ env.Apart N v

mutual

theorem encode_append_inj (htext : env.WritesNumbers N) (v w : Value) {xs ys : List UInt8}
    (hv : each (env.Fits N) v) (hw : each (env.Fits N) w)
    (hends : ∀ n n', v = .number n → w = .number n' →
      bytes (env.numberText n) ++ xs = bytes (env.numberText n') ++ ys → n = n')
    (h : env.encode v ++ xs = env.encode w ++ ys) : v = w ∧ xs = ys := by
  match v, w with
  | .null, .null => exact ⟨rfl, by simpa [Env.encode] using h⟩
  | .bool a, .bool b =>
    simp only [Env.encode, cons_append, nil_append, List.cons.injEq] at h
    refine ⟨?_, h.2.2⟩
    cases a <;> cases b <;> simp_all
  | .number n, .number n' =>
    simp only [Env.encode, cons_append, List.cons.injEq, true_and] at h
    have hn := hends n n' rfl rfl h
    subst hn
    exact ⟨rfl, append_cancel_left h⟩
  | .string s, .string t =>
    simp only [Env.encode, cons_append, List.cons.injEq, true_and, append_assoc] at h
    obtain ⟨rfl, hrest⟩ := text_append_inj hv.1 hw.1 h
    exact ⟨rfl, hrest⟩
  | .array vs, .array ws =>
    simp only [Env.encode, cons_append, List.cons.injEq, true_and, append_assoc] at h
    obtain ⟨hlen, h⟩ := le64_append_inj hv.1.1 hw.1.1 h
    obtain ⟨rfl, hrest⟩ := encodeItems_append_inj htext vs ws hv.2 hw.2 hlen h
    exact ⟨rfl, hrest⟩
  | .object fs, .object gs =>
    simp only [Env.encode, cons_append, List.cons.injEq, true_and, append_assoc] at h
    obtain ⟨hlen, h⟩ := le64_append_inj hv.1.1.1 hw.1.1.1 h
    obtain ⟨rfl, hrest⟩ := encodeFields_append_inj htext fs gs hv.2 hw.2
      hv.1.1.2 hw.1.1.2 hv.1.2.2 hw.1.2.2 hlen h
    exact ⟨rfl, hrest⟩
  | .null, .bool _ | .null, .number _ | .null, .string _ | .null, .array _ | .null, .object _
  | .bool _, .null | .bool _, .number _ | .bool _, .string _ | .bool _, .array _
  | .bool _, .object _ | .number _, .null | .number _, .bool _ | .number _, .string _
  | .number _, .array _ | .number _, .object _ | .string _, .null | .string _, .bool _
  | .string _, .number _ | .string _, .array _ | .string _, .object _ | .array _, .null
  | .array _, .bool _ | .array _, .number _ | .array _, .string _ | .array _, .object _
  | .object _, .null | .object _, .bool _ | .object _, .number _ | .object _, .string _
  | .object _, .array _ => simp [Env.encode] at h

theorem encodeItems_append_inj (htext : env.WritesNumbers N) (vs ws : List Value)
    {xs ys : List UInt8} (hv : eachItem (env.Fits N) vs) (hw : eachItem (env.Fits N) ws)
    (hlen : vs.length = ws.length)
    (h : env.encodeItems vs ++ 93 :: xs = env.encodeItems ws ++ 93 :: ys) :
    vs = ws ∧ xs = ys := by
  match vs, ws with
  | [], [] => exact ⟨rfl, by simpa [Env.encodeItems] using h⟩
  | v :: vs, w :: ws =>
    simp only [Env.encodeItems, append_assoc] at h
    -- behind an item comes a tag or the closing bracket
    have hstop : ∀ us zs, ∃ b rest, env.encodeItems us ++ 93 :: zs = b :: rest
        ∧ numberByte b = false := by
      intro us zs
      cases us with
      | nil => exact ⟨_, _, rfl, by decide⟩
      | cons u =>
        obtain ⟨b, rest, hu, hb, -⟩ := encode_tag env u
        exact ⟨b, _, by rw [Env.encodeItems, hu]; rfl, hb⟩
    have hends : ∀ n n', v = .number n → w = .number n' →
        bytes (env.numberText n) ++ (env.encodeItems vs ++ 93 :: xs)
          = bytes (env.numberText n') ++ (env.encodeItems ws ++ 93 :: ys) → n = n' := by
      intro n n' hn hn' heq
      subst hn hn'
      obtain ⟨b, rest, heq1, hb⟩ := hstop vs xs
      obtain ⟨b', rest', heq2, hb'⟩ := hstop ws ys
      rw [heq1, heq2] at heq
      exact number_before_stop htext hv.1.2.1 hw.1.2.1 hb hb' heq
    obtain ⟨rfl, hitems⟩ := encode_append_inj htext v w hv.1 hw.1 hends h
    obtain ⟨rfl, hrest⟩ := encodeItems_append_inj htext vs ws hv.2 hw.2 (Nat.succ.inj hlen) hitems
    exact ⟨rfl, hrest⟩

theorem encodeFields_append_inj (htext : env.WritesNumbers N) (fs gs : List (String × Value))
    {xs ys : List UInt8} (hv : eachField (env.Fits N) fs) (hw : eachField (env.Fits N) gs)
    (hkeys : ∀ f ∈ fs, (bytes f.1).length < 2 ^ 48)
    (hkeys' : ∀ f ∈ gs, (bytes f.1).length < 2 ^ 48)
    (hapart : fs.IsChain fun a b => ∀ n, a.2 = .number n → ¬ env.RunsInto N n b.1)
    (hapart' : gs.IsChain fun a b => ∀ n, a.2 = .number n → ¬ env.RunsInto N n b.1)
    (hlen : fs.length = gs.length)
    (h : env.encodeFields fs ++ 125 :: xs = env.encodeFields gs ++ 125 :: ys) :
    fs = gs ∧ xs = ys := by
  match fs, gs with
  | [], [] => exact ⟨rfl, by simpa [Env.encodeFields] using h⟩
  | (key, v) :: fs, (key', w) :: gs =>
    simp only [Env.encodeFields, append_assoc] at h
    obtain ⟨rfl, hmember⟩ := text_append_inj (hkeys _ mem_cons_self) (hkeys' _ mem_cons_self) h
    -- behind a member comes the closing brace, or a key in both
    have hends : ∀ n n', v = .number n → w = .number n' →
        bytes (env.numberText n) ++ (env.encodeFields fs ++ 125 :: xs)
          = bytes (env.numberText n') ++ (env.encodeFields gs ++ 125 :: ys) → n = n' := by
      intro n n' hn hn' heq
      subst hn hn'
      match fs, gs with
      | [], [] =>
        exact number_before_stop htext hv.1.2.1 hw.1.2.1 (by decide) (by decide) heq
      | (next, _) :: _, (next', _) :: _ =>
        simp only [Env.encodeFields, append_assoc] at heq
        rw [List.isChain_cons_cons] at hapart hapart'
        exact number_before_key htext hv.1.2.1 hw.1.2.1 (hkeys (next, _) (by simp))
          (hkeys' (next', _) (by simp)) (hapart.1 n rfl) (hapart'.1 n' rfl) heq
    obtain ⟨rfl, hfields⟩ := encode_append_inj htext v w hv.1 hw.1 hends hmember
    obtain ⟨rfl, hrest⟩ := encodeFields_append_inj htext fs gs hv.2 hw.2
      (fun f hf => hkeys f (mem_cons_of_mem _ hf))
      (fun f hf => hkeys' f (mem_cons_of_mem _ hf)) hapart.tail hapart'.tail
      (Nat.succ.inj hlen) hfields
    exact ⟨rfl, hrest⟩

end

end Injective

end ApiToken.Affinity
