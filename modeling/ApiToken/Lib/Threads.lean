import ApiToken.Lib.Run
import ApiToken.Lib.Table

/-!
# Threads that share a state

A program is the tree of the primitive actions it takes, each followed by what
it does with the reply. A machine has threads, each with what it keeps between
its calls, and performs one action of one thread at a time; its surroundings
may change the shared state in between, and a call may be dropped at any
action.

`Program.Keeps` is the rule for one program: as long as the others keep the
invariant and only move forward in `later`, every action of the program does so
too. `kept_run` puts the programs together.
-/

namespace ApiToken

universe u v w x y z

/-- A program over the actions `π` with the replies `ρ`, that answers an `α`. -/
inductive Program (π : Type u) (ρ : Type v) (α : Type w) where
  | ret (a : α)
  | act (p : π) (k : ρ → Program π ρ α)

namespace Program

variable {π : Type u} {ρ : Type v} {α β : Type w}

def bind : Program π ρ α → (α → Program π ρ β) → Program π ρ β
  | ret a, f => f a
  | act p k, f => act p (fun r => (k r).bind f)

instance : Monad (Program π ρ) where
  pure := ret
  bind := bind

/-- A single action. -/
def call (p : π) : Program π ρ ρ := act p ret

/-! ## The rule -/

variable {σ : Type x} {χ : Type y}

/-- What the actions and the surroundings keep: an invariant, and an order in
which the state only moves forward. -/
structure Protocol (σ : Type x) where
  inv : σ → Prop
  later : σ → σ → Prop
  refl : ∀ s, later s s
  trans : ∀ {s t u}, later s t → later t u → later s u

/-- From a state on, whatever state the program is resumed in, its actions
keep the protocol, whatever they come to, and its answer satisfies `Q`. -/
def Keeps (perform : σ → π → χ → σ × ρ) (P : Protocol σ) (Q : α → σ → Prop) :
    Program π ρ α → σ → Prop
  | ret a, s => ∀ t, P.later s t → Q a t
  | act p k, s => ∀ t, P.later s t → P.inv t → ∀ c,
      P.inv (perform t p c).1 ∧ P.later t (perform t p c).1 ∧
        (k (perform t p c).2).Keeps perform P Q (perform t p c).1

variable {perform : σ → π → χ → σ × ρ} {P : Protocol σ} {Q : α → σ → Prop}

theorem Keeps.later {t : Program π ρ α} {s s' : σ} (h : t.Keeps perform P Q s)
    (hs : P.later s s') : t.Keeps perform P Q s' := by
  cases t with
  | ret a | act p k => exact fun u hu => h u (P.trans hs hu)

theorem keeps_bind {R : β → σ → Prop} {t : Program π ρ α} {f : α → Program π ρ β} {s : σ}
    (h : t.Keeps perform P (fun a s => (f a).Keeps perform P R s) s) :
    (t >>= f).Keeps perform P R s := by
  show (t.bind f).Keeps perform P R s
  induction t generalizing s with
  | ret => exact h s (P.refl s)
  | act _ _ ih =>
    intro u hu hinv c
    obtain ⟨hinv', hlater, hrest⟩ := h u hu hinv c
    exact ⟨hinv', hlater, ih _ hrest⟩

theorem Keeps.mono {R : α → σ → Prop} {t : Program π ρ α} {s : σ} (h : t.Keeps perform P Q s)
    (hQR : ∀ a s, Q a s → R a s) : t.Keeps perform P R s := by
  induction t generalizing s with
  | ret a => exact fun u hu => hQR a u (h u hu)
  | act _ _ ih =>
    intro u hu hinv c
    obtain ⟨hinv', hlater, hrest⟩ := h u hu hinv c
    exact ⟨hinv', hlater, ih _ hrest⟩

theorem Keeps.and_later {t : Program π ρ α} {s : σ} (h : t.Keeps perform P Q s) :
    t.Keeps perform P (fun a u => P.later s u ∧ Q a u) s := by
  have key : ∀ {t : Program π ρ α} {u : σ}, P.later s u → t.Keeps perform P Q u →
      t.Keeps perform P (fun a v => P.later s v ∧ Q a v) u := by
    intro t
    induction t with
    | ret => exact fun hu h v hv => ⟨P.trans hu hv, h v hv⟩
    | act _ _ ih =>
      intro u hu h v hv hinv c
      obtain ⟨hinv', hlater, hrest⟩ := h v hv hinv c
      exact ⟨hinv', hlater, ih _ (P.trans (P.trans hu hv) hlater) hrest⟩
  exact key (P.refl s) h

end Program

/-! ## The machine -/

structure Thread (μ : Type z) (π : Type u) (ρ : Type v) (α : Type w) where
  mine : μ
  running : Option (Program π ρ α)

structure Threads (σ : Type x) (μ : Type z) (π : Type u) (ρ : Type v) (α : Type w) where
  shared : σ
  threads : Table Nat (Thread μ π ρ α)

namespace Threads

variable {σ : Type x} {μ : Type z} {π : Type u} {ρ : Type v} {α : Type w} {χ : Type y}
  {β ι ε : Type*}

/-- A thread begins, calls an operation, takes the next action of its call, or
has its call dropped; or the surroundings change the state. -/
inductive Event (β ι χ ε : Type*) where
  | begin (thread : Nat) (b : β)
  | call (thread : Nat) (op : ι)
  | step (thread : Nat) (choice : χ)
  | drop (thread : Nat)
  | outside (e : ε)

/-- How the threads work: their programs, what they make of an answer, the
actions and the surroundings. -/
structure Code (σ : Type x) (μ : Type z) (π : Type u) (ρ : Type v) (α : Type w) (χ : Type y)
    (β ι ε : Type*) where
  start : β → μ
  prog : μ → ι → Program π ρ α
  finish : μ → α → μ
  perform : σ → π → χ → σ × ρ
  outside : σ → ε → σ

variable (C : Code σ μ π ρ α χ β ι ε)

def Code.turn (s : σ) (t : Thread μ π ρ α) : Event β ι χ ε → Option (σ × Thread μ π ρ α)
  | .call _ op =>
    match t.running with
    | none => some (s, { t with running := some (C.prog t.mine op) })
    | some _ => none
  | .step _ choice =>
    match t.running with
    | none => none
    | some (.ret a) => some (s, ⟨C.finish t.mine a, none⟩)
    | some (.act p k) =>
      let (s', r) := C.perform s p choice
      some (s', { t with running := some (k r) })
  | .drop _ => some (s, { t with running := none })
  | _ => none

def exec (m : Threads σ μ π ρ α) (e : Event β ι χ ε) : Threads σ μ π ρ α :=
  match e with
  | .begin thread b =>
    if (m.threads.find? thread).isSome then m
    else { m with threads := m.threads.put thread ⟨C.start b, none⟩ }
  | .outside e => { m with shared := C.outside m.shared e }
  | .call thread _ | .step thread _ | .drop thread =>
    match (m.threads.find? thread).bind (fun t => C.turn m.shared t e) with
    | none => m
    | some (s, t) => { shared := s, threads := m.threads.put thread t }

/-- What has to hold of the programs and the surroundings. `Own` is what a
thread knows of the state between its calls. -/
structure Respects (P : Program.Protocol σ) (Own : μ → σ → Prop) (C : Code σ μ π ρ α χ β ι ε) :
    Prop where
  stable : ∀ {mine s s'}, Own mine s → P.later s s' → Own mine s'
  start : ∀ b s, Own (C.start b) s
  prog : ∀ {mine op s}, P.inv s → Own mine s →
    (C.prog mine op).Keeps C.perform P (fun a s => Own (C.finish mine a) s) s
  outside : ∀ {s e}, P.inv s → P.inv (C.outside s e) ∧ P.later s (C.outside s e)

/-- The invariant of a machine. -/
structure Kept (P : Program.Protocol σ) (Own : μ → σ → Prop) (C : Code σ μ π ρ α χ β ι ε)
    (m : Threads σ μ π ρ α) : Prop where
  inv : P.inv m.shared
  own : ∀ thread t, m.threads.find? thread = some t → Own t.mine m.shared
  running : ∀ thread t task, m.threads.find? thread = some t → t.running = some task →
    task.Keeps C.perform P (fun a s => Own (C.finish t.mine a) s) m.shared

variable {C} {P : Program.Protocol σ} {Own : μ → σ → Prop} {m : Threads σ μ π ρ α}

theorem Kept.put (h : Kept P Own C m) (hC : Respects P Own C) {s : σ} (hinv : P.inv s)
    (hlater : P.later m.shared s) {thread : Nat} {t : Thread μ π ρ α} (hown : Own t.mine s)
    (hrunning : ∀ task, t.running = some task →
      task.Keeps C.perform P (fun a s => Own (C.finish t.mine a) s) s) :
    Kept P Own C { shared := s, threads := m.threads.put thread t } where
  inv := hinv
  own := by
    intro thread' t' ht'
    rcases find?_put_cases ht' with ⟨-, rfl⟩ | hold
    · exact hown
    · exact hC.stable (h.own thread' t' hold) hlater
  running := by
    intro thread' t' task ht' htask
    rcases find?_put_cases ht' with ⟨-, rfl⟩ | hold
    · exact hrunning task htask
    · exact (h.running thread' t' task hold htask).later hlater

theorem turn_kept (hC : Respects P Own C) {s s' : σ} (hinv : P.inv s)
    {t t' : Thread μ π ρ α} (hown : Own t.mine s)
    (hrunning : ∀ task, t.running = some task →
      task.Keeps C.perform P (fun a s => Own (C.finish t.mine a) s) s)
    {e : Event β ι χ ε} (h : C.turn s t e = some (s', t')) :
    P.inv s' ∧ P.later s s' ∧ Own t'.mine s' ∧
      ∀ task, t'.running = some task →
        task.Keeps C.perform P (fun a s => Own (C.finish t'.mine a) s) s' := by
  have hsame := P.refl s
  cases e with
  | begin thread b | outside e => cases h
  | drop =>
    cases h
    exact ⟨hinv, hsame, hown, nofun⟩
  | call =>
    simp only [Code.turn] at h
    split at h
    · cases h
      refine ⟨hinv, hsame, hown, ?_⟩
      rintro task ⟨⟩
      exact hC.prog hinv hown
    · cases h
  | step thread choice =>
    simp only [Code.turn] at h
    split at h
    · cases h
    · rename_i a htask
      cases h
      exact ⟨hinv, hsame, hrunning _ htask s hsame, nofun⟩
    · rename_i p k htask
      cases h
      obtain ⟨hinv', hlater, hrest⟩ := hrunning _ htask s hsame hinv choice
      refine ⟨hinv', hlater, hC.stable hown hlater, ?_⟩
      rintro task ⟨⟩
      exact hrest

theorem Kept.step (h : Kept P Own C m) (hC : Respects P Own C) (e : Event β ι χ ε) :
    Kept P Own C (exec C m e) := by
  have hturn : ∀ thread, Kept P Own C
      (match (m.threads.find? thread).bind (fun t => C.turn m.shared t e) with
      | none => m
      | some (s, t) => { shared := s, threads := m.threads.put thread t }) := by
    intro thread
    cases hfind : (m.threads.find? thread).bind (fun t => C.turn m.shared t e) with
    | none => exact h
    | some =>
      obtain ⟨t, ht, hdone⟩ := bind_eq_some_iff.mp hfind
      obtain ⟨hinv, hlater, hown, hrunning⟩ :=
        turn_kept hC h.inv (h.own thread t ht) (fun task => h.running thread t task ht) hdone
      exact h.put hC hinv hlater hown hrunning
  cases e with
  | begin _ b =>
    simp only [exec]
    split
    · exact h
    · exact h.put hC h.inv (P.refl _) (hC.start b m.shared) (by simp)
  | call thread op | step thread choice | drop thread => exact hturn thread
  | outside e =>
    obtain ⟨hinv, hlater⟩ := hC.outside (e := e) h.inv
    exact {
      inv := hinv
      own := fun thread t ht => hC.stable (h.own thread t ht) hlater
      running := fun thread t task ht htask => (h.running thread t task ht htask).later hlater }

theorem kept_start {s : σ} (hinv : P.inv s) :
    Kept P Own C { shared := s, threads := .empty } where
  inv := hinv
  own := nofun
  running := nofun

/-- The rule: programs that keep a protocol keep it in any order of their
actions, and what a thread knows stays true. -/
theorem kept_run (hC : Respects P Own C) {s : σ} (hinv : P.inv s)
    (events : List (Event β ι χ ε)) :
    Kept P Own C (run (exec C) { shared := s, threads := .empty } events) :=
  run_invariant (fun _ e hm => hm.step hC e) (kept_start hinv) events

end Threads

end ApiToken
