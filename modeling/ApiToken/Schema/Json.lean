import Mathlib.Data.Rat.Floor
import ApiToken.Lib.Decimal
import ApiToken.Lib.Fallible

/-!
# Schemas, instances and doubles

A schema is a `serde_json::Value`: a number keeps its text (the library is
built with arbitrary precision), an object its members in the order of the
map. An instance is what a schema is about: a JSON value whose numbers are
rationals.

The translator computes on doubles. A finite double is its sign and the rest
of its bits. How a decimal becomes a double and what decimal is printed for a
double is the library's business: `Decimals` has the two functions, and that
printing keeps the order.
-/

namespace ApiToken.GeminiSchema

structure Exponent where
  capital : Bool
  minus : Option Bool
  digits : List (Fin 10)
  deriving DecidableEq

/-- `serde_json::Number`: the parts of its text. -/
structure Number where
  minus : Bool
  digits : List (Fin 10)
  fraction : Option (List (Fin 10)) := none
  exponent : Option Exponent := none
  deriving DecidableEq

def decimal (digits : List (Fin 10)) : Nat := digits.foldl (fun n d => n * 10 + d.val) 0

def Exponent.value (e : Exponent) : Int :=
  if e.minus = some true then -(decimal e.digits : Int) else decimal e.digits

namespace Number

/-- An optional minus sign and digits. -/
def isInteger (n : Number) : Bool := n.fraction.isNone && n.exponent.isNone

def signed (n : Number) (magnitude : Nat) : Int :=
  if n.minus then -(magnitude : Int) else magnitude

/-- The rational that the text says. -/
def value (n : Number) : Rat :=
  let decimals := n.fraction.getD []
  let exponent := (n.exponent.map Exponent.value).getD 0
  n.signed (decimal (n.digits ++ decimals)) * (10 : Rat) ^ (exponent - decimals.length)

def isI64 (n : Number) : Bool :=
  n.isInteger && decide (-2 ^ 63 ≤ n.signed (decimal n.digits) ∧
    n.signed (decimal n.digits) < 2 ^ 63)

/-- `as_u64`; a minus sign is refused even before a zero. -/
def asU64 (n : Number) : Option Nat :=
  if n.isInteger && !n.minus && decide (decimal n.digits < 2 ^ 64) then
    some (decimal n.digits)
  else none

theorem value_of_isInteger {n : Number} (h : n.isInteger = true) :
    n.value = (n.signed (decimal n.digits) : Rat) := by
  simp only [isInteger, guard_iffs, isNone_iff_eq_none] at h
  simp [value, h.1, h.2]

theorem value_of_asU64 {n : Number} {k : Nat} (h : n.asU64 = some k) : n.value = (k : Rat) := by
  unfold asU64 at h
  split at h
  · next hc =>
    simp only [guard_iffs] at hc
    rw [value_of_isInteger hc.1.1, ← some.inj h]
    simp [signed, hc.1.2]
  · cases h

theorem whole_of_isInteger {n : Number} (h : n.isInteger = true) : n.value.den = 1 := by
  rw [value_of_isInteger h]
  exact Rat.den_intCast _

theorem isInteger_of_asU64 {n : Number} (h : n.asU64.isSome = true) : n.isInteger = true := by
  unfold asU64 at h
  split at h
  · next hc => simp only [guard_iffs] at hc; exact hc.1.1
  · cases h

end Number

/-- `serde_json::Value`. -/
inductive Json where
  | null
  | bool (b : Bool)
  | num (n : Number)
  | str (s : String)
  | arr (items : List Json)
  | obj (members : List (String × Json))

abbrev Object := List (String × Json)

def Object.get (object : Object) (key : String) : Option Json := List.lookup key object

def Object.has (object : Object) (key : String) : Bool := (object.get key).isSome

namespace Json

def asStr : Json → Option String
  | .str s => some s
  | _ => none

def asArr : Json → Option (List Json)
  | .arr items => some items
  | _ => none

def asObj : Json → Option Object
  | .obj members => some members
  | _ => none

def asBool : Json → Option Bool
  | .bool b => some b
  | _ => none

def asU64 : Json → Option Nat
  | .num n => n.asU64
  | _ => none

def isNull : Json → Bool
  | .null => true
  | _ => false

mutual

/-- `==` on values: two numbers are equal when their texts are. -/
def same : Json → Json → Bool
  | .null, .null => true
  | .bool a, .bool b => a == b
  | .num a, .num b => a == b
  | .str a, .str b => a == b
  | .arr xs, .arr ys => sameItems xs ys
  | .obj xs, .obj ys => sameMembers xs ys
  | _, _ => false

def sameItems : List Json → List Json → Bool
  | [], [] => true
  | x :: xs, y :: ys => same x y && sameItems xs ys
  | _, _ => false

def sameMembers : List (String × Json) → List (String × Json) → Bool
  | [], [] => true
  | (k, x) :: xs, (l, y) :: ys => k == l && same x y && sameMembers xs ys
  | _, _ => false

end

def isTrueSchema : Json → Bool
  | .bool b => b
  | .obj members => members.isEmpty
  | _ => false

/-- `Value::pointer` for one reference token. -/
def member (token : String) : Json → Option Json
  | .obj members => Object.get members token
  | .arr items => (parseIndex token).bind (fun i => items[i]?)
  | _ => none
where
  /-- Digits alone, and no zero before others. -/
  parseIndex (token : String) : Option Nat :=
    if token.startsWith "+" || (token.startsWith "0" && token.length != 1) then none
    else parseDigits token.toList

end Json

/-- What a schema is read on. -/
inductive Instance where
  | null
  | bool (b : Bool)
  | num (q : Rat)
  | str (s : String)
  | arr (items : List Instance)
  | obj (members : List (String × Instance))

def Instance.isNull : Instance → Bool
  | .null => true
  | _ => false

/-! ## Doubles -/

/-- A finite double: its sign, and the bits below it. -/
structure F64 where
  neg : Bool
  bits : Nat
  finite : bits < 0x7FF0000000000000

namespace F64

/-- The order of the finite doubles, with one zero. -/
def signed (x : F64) : Int := if x.neg then -(x.bits : Int) else x.bits

/-- `f64::MAX`, below the sign. -/
def maxBits : Nat := 0x7FEFFFFFFFFFFFFF

def nextUp (x : F64) : Option F64 :=
  if h : x.neg = false ∧ x.bits = maxBits then none
  else if x.bits = 0 then some ⟨false, 1, by decide⟩
  else if hn : x.neg = true then some ⟨true, x.bits - 1, by have := x.finite; omega⟩
  else some ⟨false, x.bits + 1, by
    have := x.finite
    have hne : x.bits ≠ maxBits := fun e => h ⟨by simpa using hn, e⟩
    unfold maxBits at hne
    omega⟩

def nextDown (x : F64) : Option F64 :=
  if h : x.neg = true ∧ x.bits = maxBits then none
  else if x.bits = 0 then some ⟨true, 1, by decide⟩
  else if hn : x.neg = true then some ⟨true, x.bits + 1, by
    have := x.finite
    have hne : x.bits ≠ maxBits := fun e => h ⟨hn, e⟩
    unfold maxBits at hne
    omega⟩
  else some ⟨false, x.bits - 1, by have := x.finite; omega⟩

end F64

/-- `as_f64` (none where the double is not finite) and the value of the
shortest decimal that `from_f64` prints. -/
structure Decimals where
  parse : Number → Option F64
  text : F64 → Rat
  text_le : ∀ x y, text x ≤ text y ↔ x.signed ≤ y.signed

end ApiToken.GeminiSchema
