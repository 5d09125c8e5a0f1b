import ApiToken.Lib.Basic

/-!
# Fallible transactions

A transaction body is a value of `Except ε α`: an error stands for a
rollback. Bodies are sequences of guards and reads, so two equations are
enough to take a successful body apart: a bind succeeds exactly when both
halves do, and a guard succeeds exactly when it lets the call through.
-/

namespace ApiToken

universe u v

variable {ε : Type u} {α β : Type v}

/-- `if bad { return Err(e) }`. -/
def failIf (bad : Bool) (e : ε) : Except ε Unit :=
  if bad then .error e else .ok ()

/-- `Option::context`: the value, or the error when there is none. -/
def orFail (o : Option α) (e : ε) : Except ε α :=
  match o with
  | some a => .ok a
  | none => .error e

@[simp] theorem failIf_eq_ok {bad : Bool} {e : ε} {u : Unit} :
    failIf bad e = .ok u ↔ bad = false := by
  cases bad <;> simp [failIf]

@[simp] theorem orFail_eq_ok {o : Option α} {e : ε} {a : α} :
    orFail o e = .ok a ↔ o = some a := by
  cases o <;> simp [orFail]

@[simp] theorem bind_eq_ok {x : Except ε α} {f : α → Except ε β} {b : β} :
    (x >>= f) = .ok b ↔ ∃ a, x = .ok a ∧ f a = .ok b := by
  cases x with
  | error e | ok a => simp [bind, Except.bind]

@[simp] theorem exists_unit {p : Unit → Prop} : (∃ u, p u) ↔ p () :=
  ⟨fun ⟨(), h⟩ => h, fun h => ⟨(), h⟩⟩

@[simp] theorem pure_eq_ok {a b : α} : (pure a : Except ε α) = .ok b ↔ a = b := by
  simp [pure, Except.pure]

@[simp] theorem throw_eq_ok {e : ε} {b : α} : (throw e : Except ε α) = .ok b ↔ False := by
  simp [throw, throwThe, MonadExceptOf.throw]

/-- What the steps of a successful body say. -/
theorem ok_steps :
    (∀ {ε α β : Type} {x : Except ε α} {f : α → Except ε β} {b : β},
      (x >>= f) = .ok b ↔ ∃ a, x = .ok a ∧ f a = .ok b) ∧
    (∀ {ε α : Type} {a b : α}, (pure a : Except ε α) = .ok b ↔ a = b) ∧
    (∀ {ε : Type} {bad : Bool} {e : ε} {u : Unit}, failIf bad e = .ok u ↔ bad = false) ∧
    (∀ {ε α : Type} {o : Option α} {e : ε} {a : α}, orFail o e = .ok a ↔ o = some a) ∧
    (∀ {p : Unit → Prop}, (∃ u, p u) ↔ p ()) ∧
    (∀ {α β : Type} {a a' : α} {b b' : β}, (a, b) = (a', b') ↔ a = a' ∧ b = b') :=
  ⟨bind_eq_ok, pure_eq_ok, failIf_eq_ok, orFail_eq_ok, exists_unit, Prod.mk.injEq .. ▸ .rfl⟩

variable {ι : Type v} {l : List ι}

theorem forM_eq_ok {f : ι → Except ε PUnit} {u : PUnit} :
    l.forM f = .ok u ↔ ∀ x ∈ l, f x = .ok () := by
  induction l with
  | nil => simp
  | cons x _ ih =>
    simp only [List.forM_eq_forM, List.forM_cons, forall_mem_cons] at ih ⊢
    cases hx : f x with
    | error => simp [bind, Except.bind]
    | ok => simpa [bind, Except.bind] using ih

theorem exists_of_mem_mapM {f : ι → Except ε β} {ys : List β} {y : β} (h : l.mapM f = .ok ys)
    (hy : y ∈ ys) : ∃ x ∈ l, f x = .ok y := by
  induction l generalizing ys with
  | nil =>
    cases h
    exact absurd hy not_mem_nil
  | cons x _ ih =>
    simp only [mapM_cons, bind_eq_ok, pure_eq_ok] at h
    obtain ⟨z, hz, zs, hzs, rfl⟩ := h
    rcases mem_cons.mp hy with rfl | hy
    · exact ⟨x, mem_cons_self, hz⟩
    · obtain ⟨x', hx', hfx'⟩ := ih hzs hy
      exact ⟨x', mem_cons_of_mem _ hx', hfx'⟩

theorem foldlM_keeps {α γ : Type v} {f : α → ι → Except ε α} (view : α → γ)
    (hf : ∀ a x a', f a x = .ok a' → view a' = view a) {a a' : α} (h : l.foldlM f a = .ok a') :
    view a' = view a := by
  induction l generalizing a with
  | nil =>
    simp only [List.foldlM_nil, pure_eq_ok] at h
    rw [h]
  | cons x _ ih =>
    simp only [foldlM_cons, bind_eq_ok] at h
    obtain ⟨a1, hstep, hrest⟩ := h
    rw [ih hrest, hf a x a1 hstep]

end ApiToken
