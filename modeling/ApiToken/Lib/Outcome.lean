import ApiToken.Lib.Fallible

/-!
# What a fallible body ends in

`EndsIn E Q x`: the body `x` ends in a value with `Q` or in an error with `E`.
Where `E` names the errors a body is meant to have, this is a postcondition
that also says that it has no others; the rules below follow the code.
-/

namespace ApiToken

universe u v

variable {ε : Type u} {α β : Type v}

def EndsIn (E : ε → Prop) (Q : α → Prop) : Except ε α → Prop
  | .ok a => Q a
  | .error e => E e

namespace EndsIn

variable {E : ε → Prop} {Q : α → Prop} {R : β → Prop}

@[simp] theorem ok_iff {a : α} : EndsIn E Q (.ok a) ↔ Q a := Iff.rfl

@[simp] theorem pure_iff {a : α} : EndsIn E Q (pure a : Except ε α) ↔ Q a := Iff.rfl

@[simp] theorem error_iff {e : ε} : EndsIn E Q (.error e) ↔ E e := Iff.rfl

variable {x : Except ε α}

theorem bind {f : α → Except ε β} (hx : EndsIn E Q x) (hf : ∀ a, Q a → EndsIn E R (f a)) :
    EndsIn E R (x >>= f) := by
  cases x with
  | ok a => exact hf a hx
  | error => exact hx

theorem bind_eq {f : α → Except ε β} {a : α} (hx : EndsIn E (· = a) x) (hf : EndsIn E R (f a)) :
    EndsIn E R (x >>= f) :=
  hx.bind fun _ h => h ▸ hf

theorem mono {F : ε → Prop} {Q' : α → Prop} (h : EndsIn E Q x) (he : ∀ e, E e → F e)
    (hq : ∀ a, Q a → Q' a) : EndsIn F Q' x := by
  cases x with
  | ok a => exact hq a h
  | error e => exact he e h

theorem orFail {o : Option α} {e : ε} (he : o = none → E e) :
    EndsIn E (fun a => o = some a) (orFail o e) := by
  cases o with
  | none => exact he rfl
  | some => rfl

theorem orFail_of {o : Option α} {e : ε} (he : E e) (hq : ∀ a, o = some a → Q a) :
    EndsIn E Q (ApiToken.orFail o e) :=
  (orFail fun _ => he).mono (fun _ h => h) hq

theorem failIf {bad : Bool} {e : ε} (he : bad = true → E e) :
    EndsIn E (fun _ => bad = false) (failIf bad e) := by
  cases bad with
  | true => exact he rfl
  | false => rfl

theorem of_eq_ok {a : α} (h : EndsIn E Q x) (hx : x = .ok a) : Q a := by
  rw [hx] at h
  exact h

theorem of_eq_error {e : ε} (h : EndsIn E Q x) (hx : x = .error e) : E e := by
  rw [hx] at h
  exact h

end EndsIn

theorem map_bind {γ : Type v} {x : Except ε α} {f : α → Except ε β} {g : β → γ} :
    (x >>= f).map g = x >>= fun a => (f a).map g := by
  cases x <;> rfl

theorem endsIn_foldlM {ι : Type v} {E : ε → Prop} {I : List ι → α → Prop}
    {f : α → ι → Except ε α} {l : List ι} {a : α} (h0 : I [] a)
    (hf : ∀ done x rest a, l = done ++ x :: rest → I done a →
      EndsIn E (I (done ++ [x])) (f a x)) : EndsIn E (I l) (l.foldlM f a) := by
  suffices hrest : ∀ rest done a, l = done ++ rest → I done a →
      EndsIn E (I l) (rest.foldlM f a) from hrest l [] a rfl h0
  intro rest
  induction rest with
  | nil =>
    intro done a hl ha
    rw [append_nil] at hl
    rw [hl]
    exact ha
  | cons x rest ih =>
    intro done a hl ha
    rw [foldlM_cons]
    refine EndsIn.bind (hf done x rest a hl ha) (fun a' ha' => ?_)
    exact ih (done ++ [x]) a' (by simpa using hl) ha'

end ApiToken
