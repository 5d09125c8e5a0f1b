import ApiToken.Lib.Fallible

/-!
# Work on a connection

A call that runs its statements on an open connection leaves the database as
the statements left it, also when it fails half way. A statement that fails
undoes itself only; what came before it is undone by a savepoint or by the
transaction, if the call is wrapped in one.
-/

namespace ApiToken

universe u v w

/-- What the work answers, and the database it leaves. -/
def Conn (σ : Type u) (ε : Type v) (α : Type w) := σ → Except ε α × σ

namespace Conn

variable {σ : Type u} {ε : Type v} {α β : Type w}

def bind (x : Conn σ ε α) (f : α → Conn σ ε β) : Conn σ ε β := fun s =>
  match x s with
  | (.ok a, s') => f a s'
  | (.error e, s') => (.error e, s')

instance : Monad (Conn σ ε) where
  pure a := fun s => (.ok a, s)
  bind := bind

/-- A computation that touches no database. -/
def ofExcept (x : Except ε α) : Conn σ ε α := fun s => (x, s)

/-- One statement, which fails by itself or because of `fault`. A fault that rolls
back the whole transaction is not one of these. -/
def statement (fault : Option ε) (exec : σ → Except ε (α × σ)) : Conn σ ε α := fun s =>
  match fault with
  | some e => (.error e, s)
  | none =>
    match exec s with
    | .ok (a, s') => (.ok a, s')
    | .error e => (.error e, s)

/-- `SAVEPOINT`: anything but an accepted answer rolls back to it. -/
def savepoint (body : Conn σ ε (Option α)) : Conn σ ε (Option α) := fun s =>
  match body s with
  | (.ok (some a), s') => (.ok (some a), s')
  | (answer, _) => (answer, s)

def transaction (body : Conn σ ε α) : Conn σ ε α := fun s =>
  match body s with
  | (.ok a, s') => (.ok a, s')
  | (.error e, _) => (.error e, s)

def ignored (body : Conn σ ε α) : Conn σ ε Unit := fun s => (.ok (), (body s).2)

/-! ## Rules -/

variable {s s' : σ} {x : Conn σ ε α} {y : Except ε α} {f : α → Conn σ ε β}

@[simp] theorem pure_apply (a : α) : (pure a : Conn σ ε α) s = (.ok a, s) := rfl

variable {a : α} {e : ε} {exec : σ → Except ε (α × σ)} {body : Conn σ ε (Option α)}

theorem bind_of_ok (h : x s = (.ok a, s')) : (x >>= f) s = f a s' := by
  show bind x f s = _
  rw [bind, h]

theorem bind_of_error (h : x s = (.error e, s')) : (x >>= f) s = (.error e, s') := by
  show bind x f s = _
  rw [bind, h]

theorem ofExcept_bind_ok (h : y = .ok a) : (ofExcept y >>= f) s = f a s := by
  rw [h]
  rfl

theorem ofExcept_bind_error (h : y = .error e) : (ofExcept y >>= f) s = (.error e, s) := by
  rw [h]
  rfl

theorem statement_of_fault (exec : σ → Except ε (α × σ)) :
    statement (some e) exec s = (.error e, s) := rfl

theorem statement_of_ok (h : exec s = .ok (a, s')) : statement none exec s = (.ok a, s') := by
  rw [statement, h]

theorem statement_of_error (h : exec s = .error e) : statement none exec s = (.error e, s) := by
  rw [statement, h]

theorem statement_cases (fault : Option ε) (exec : σ → Except ε (α × σ)) (s : σ) :
    (∃ e, statement fault exec s = (.error e, s)) ∨
      ∃ a s', fault = none ∧ exec s = .ok (a, s') ∧ statement fault exec s = (.ok a, s') := by
  cases fault with
  | some e => exact .inl ⟨e, rfl⟩
  | none =>
    cases h : exec s with
    | error e => exact .inl ⟨e, statement_of_error h⟩
    | ok answered => exact .inr ⟨answered.1, answered.2, rfl, rfl, statement_of_ok h⟩

theorem bind_eq_ok {b : β} {s'' : σ} : (x >>= f) s = (.ok b, s'') ↔
    ∃ a s', x s = (.ok a, s') ∧ f a s' = (.ok b, s'') := by
  constructor
  · intro h
    cases hx : x s with
    | mk answer s' =>
      cases answer with
      | error =>
        rw [bind_of_error hx] at h
        cases h
      | ok a =>
        rw [bind_of_ok hx] at h
        exact ⟨a, s', rfl, h⟩
  · rintro ⟨a, s', hx, hf⟩
    rw [bind_of_ok hx, hf]

theorem ofExcept_eq_ok : ofExcept y s = (.ok a, s') ↔ y = .ok a ∧ s' = s := by
  rw [ofExcept, Prod.mk.injEq, eq_comm (a := s)]

theorem statement_eq_ok {fault : Option ε} :
    statement fault exec s = (.ok a, s') ↔ fault = none ∧ exec s = .ok (a, s') := by
  constructor
  · intro h
    rcases statement_cases fault exec s with ⟨e, hstatement⟩ | ⟨a', t, hfault, hexec, hstatement⟩
    · rw [hstatement] at h
      cases h
    · rw [hstatement] at h
      cases h
      exact ⟨hfault, hexec⟩
  · rintro ⟨rfl, h⟩
    exact statement_of_ok h

theorem savepoint_of_some (h : body s = (.ok (some a), s')) :
    savepoint body s = (.ok (some a), s') := by
  rw [savepoint, h]

theorem savepoint_of_none (h : body s = (.ok none, s')) : savepoint body s = (.ok none, s) := by
  rw [savepoint, h]

theorem savepoint_of_error (h : body s = (.error e, s')) : savepoint body s = (.error e, s) := by
  rw [savepoint, h]

theorem transaction_of_ok (h : x s = (.ok a, s')) : transaction x s = (.ok a, s') := by
  rw [transaction, h]

theorem transaction_of_error (h : x s = (.error e, s')) : transaction x s = (.error e, s) := by
  rw [transaction, h]

end Conn

end ApiToken
