import Mathlib.Data.Option.Basic

/-!
# Decimal text

Integers read from a sign and decimal digits, as `str::parse` reads them, and
the one text of each integer that `toString` writes.
-/

namespace ApiToken

def parseDigits (ds : List Char) : Option Nat :=
  if ds ≠ [] ∧ ds.all Char.isDigit = true then some (Nat.ofDigitChars 10 ds 0) else none

/-- An optional sign and digits. -/
def parseInteger (raw : String) : Option Int :=
  match raw.toList with
  | '-' :: ds => (parseDigits ds).map (fun n : Nat => -(n : Int))
  | '+' :: ds => (parseDigits ds).map (fun n : Nat => (n : Int))
  | ds => (parseDigits ds).map (fun n : Nat => (n : Int))

theorem parseDigits_toDigits (n : Nat) : parseDigits (Nat.toDigits 10 n) = some n := by
  have hdigits : (Nat.toDigits 10 n).all Char.isDigit = true :=
    List.all_eq_true.mpr fun _ hc => Nat.isDigit_of_mem_toDigits (by decide) (by decide) hc
  rw [parseDigits, if_pos ⟨Nat.toDigits_ne_nil, hdigits⟩, Nat.ofDigitChars_ten_toDigits]

theorem parseInteger_toString (n : Int) : parseInteger (toString n) = some n := by
  rw [Int.toString_eq_repr, Int.repr_eq_if]
  split
  · rename_i hn
    have hparse := parseDigits_toDigits n.toNat
    have hdigit : ∀ c ∈ Nat.toDigits 10 n.toNat, c.isDigit = true := fun _ hc =>
      Nat.isDigit_of_mem_toDigits (by decide) (by decide) hc
    rw [parseInteger, Nat.toList_repr]
    split
    · rename_i ds hds
      have hsign := hdigit '-' (by rw [hds]; exact List.mem_cons_self ..)
      cases hsign
    · rename_i ds hds
      have hsign := hdigit '+' (by rw [hds]; exact List.mem_cons_self ..)
      cases hsign
    · rw [hparse, Option.map_some, Int.toNat_of_nonneg hn]
  · rename_i hn
    have hparse := parseDigits_toDigits (-n).toNat
    have hlist : ("-" ++ (-n).toNat.repr).toList = '-' :: Nat.toDigits 10 (-n).toNat := by
      simp
    rw [parseInteger, hlist]
    simp only [hparse, Option.map_some, Option.some.injEq]
    omega

end ApiToken
