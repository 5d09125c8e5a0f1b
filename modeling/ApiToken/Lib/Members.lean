import Mathlib.Data.List.Defs

/-!
# Members of an object

A list of keyed values in which a key is set in place, or added behind the
others.
-/

namespace ApiToken

universe u v

variable {κ : Type u} {β : Type v} [DecidableEq κ]

/-- Sets the value of `key`, where it stands or at the end. -/
def setMember (key : κ) (x : β) : List (κ × β) → List (κ × β)
  | [] => [(key, x)]
  | (k, y) :: rest => if k = key then (key, x) :: rest else (k, y) :: setMember key x rest

variable {key k : κ} {x y : β} {fields : List (κ × β)}

@[simp] theorem lookup_setMember_self : (setMember key x fields).lookup key = some x := by
  induction fields with
  | nil => simp [setMember]
  | cons row _ ih =>
    obtain ⟨k, y⟩ := row
    by_cases hk : k = key
    · simp [setMember, hk]
    · simpa [setMember, hk, List.lookup_cons, beq_false_of_ne (Ne.symm hk)] using ih

theorem lookup_setMember_ne (hne : k ≠ key) :
    (setMember key x fields).lookup k = fields.lookup k := by
  induction fields with
  | nil => simp [setMember, hne]
  | cons row _ ih =>
    obtain ⟨k', y⟩ := row
    by_cases hk : k' = key
    · simp [setMember, hk, List.lookup_cons, beq_false_of_ne hne]
    · simp only [setMember, if_neg hk, List.lookup_cons, ih]

theorem setMember_setMember : setMember key y (setMember key x fields)
    = setMember key y fields := by
  induction fields with
  | nil => simp [setMember]
  | cons row _ ih =>
    obtain ⟨k, z⟩ := row
    by_cases hk : k = key
    · simp [setMember, hk]
    · simp [setMember, hk, ih]

end ApiToken
