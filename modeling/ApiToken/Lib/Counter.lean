import ApiToken.Lib.Run
import ApiToken.Lib.Table

/-!
# Programs over a shared counter

Calls that run at the same time, share one atomic 64-bit counter and may each
be given one cell. A step on the counter is atomic; a cell belongs to one call
while the call runs, so no other call reads or writes it. A program is the
tree of its steps, and a machine takes the steps of its calls in any order.

`Prog.Holds` is the rule for one call. Beside the value of its cell a call has
a share of the counter, and may take no more off the counter than that. The
shares and the cells at rest always add up to the counter.
-/

namespace ApiToken

universe u v

variable {h : Hand} {thread : Nat} {cells' : Table Nat Nat}

/-- The steps of a call that answers an `α`. -/
inductive Prog (α : Type u) where
  | ret (a : α)
  /-- The counter is set to what `f` gives of it, or left alone; the answer is
  the value before. -/
  | fetchUpdate (f : Nat → Option Nat) (k : Option Nat → Prog α)
  /-- The counter goes down, modulo `2^64`. -/
  | fetchSub (n : Nat) (k : Nat → Prog α)
  | readCell (k : Nat → Prog α)
  | writeCell (n : Nat) (k : Prog α)
  /-- A new cell, which belongs to no call. -/
  | newCell (n : Nat) (k : Prog α)
  /-- The end of the call's cell. -/
  | freeCell (k : Prog α)

namespace Prog

variable {α : Type u} {β : Type u}

def bind : Prog α → (α → Prog β) → Prog β
  | ret a, f => f a
  | fetchUpdate g k, f => fetchUpdate g (fun n => (k n).bind f)
  | fetchSub n k, f => fetchSub n (fun prev => (k prev).bind f)
  | readCell k, f => readCell (fun n => (k n).bind f)
  | writeCell n k, f => writeCell n (k.bind f)
  | newCell n k, f => newCell n (k.bind f)
  | freeCell k, f => freeCell (k.bind f)

instance : Monad Prog where
  pure := ret
  bind := bind

/-! ## The rule -/

/-- What a call has: its share of the counter, its cell, and whether it has
moved the counter. -/
structure Hand where
  share : Nat
  cell : Option Nat
  moved : Bool

/-- Every run of the program from a hand keeps to its share and the bound of
the counter, and ends in `Q`. -/
def Holds (bound : Nat) (Q : α → Hand → Prop) : Prog α → Hand → Prop
  | ret a, h => Q a h
  | fetchUpdate f k, h => ∀ n, h.share ≤ n → n ≤ bound →
      match f n with
      | none => (k none).Holds bound Q h
      | some v => v ≤ bound ∧ n ≤ v + h.share ∧ (k (some n)).Holds bound Q
          { h with share := h.share + v - n, moved := h.moved || v != n }
  | fetchSub d k, h => d ≤ h.share ∧ ∀ n, (k n).Holds bound Q
      { h with share := h.share - d, moved := h.moved || d != 0 }
  | readCell k, h => ∃ n, h.cell = some n ∧ (k n).Holds bound Q h
  | writeCell n k, h => h.cell.isSome = true ∧ k.Holds bound Q { h with cell := some n }
  | newCell n k, h => n ≤ h.share ∧ k.Holds bound Q { h with share := h.share - n }
  | freeCell k, h => h.cell.isSome = true ∧ k.Holds bound Q { h with cell := none }

variable {bound : Nat}

theorem holds_bind {Q : β → Hand → Prop} {p : Prog α} {f : α → Prog β} :
    (p >>= f).Holds bound Q h ↔ p.Holds bound (fun a => (f a).Holds bound Q) h := by
  show (p.bind f).Holds bound Q h ↔ _
  induction p generalizing h with
  | ret => exact Iff.rfl
  | fetchUpdate g _ ih =>
    refine forall_congr' fun n => forall_congr' fun _ => forall_congr' fun _ => ?_
    cases hg : g n with
    | none => exact ih none
    | some => exact and_congr_right fun _ => and_congr_right fun _ => ih (some n)
  | fetchSub _ _ ih => exact and_congr_right fun _ => forall_congr' fun n => ih n
  | readCell _ ih => exact exists_congr fun n => and_congr_right fun _ => ih n
  | writeCell n k ih | newCell n k ih | freeCell k ih => exact and_congr_right fun _ => ih

theorem holds_exceptT_bind {ε : Type u} {Q : Except ε β → Hand → Prop}
    {p : ExceptT ε Prog α} {f : α → ExceptT ε Prog β} :
    Prog.Holds bound Q (p >>= f).run h ↔
      Prog.Holds bound (fun r h => match r with
        | .ok a => Prog.Holds bound Q (f a).run h
        | .error e => Q (.error e) h) p.run h := by
  show Prog.Holds bound Q (Prog.bind p.run _) h ↔ _
  refine holds_bind.trans (iff_of_eq ?_)
  congr
  funext r h
  cases r with
  | ok a | error e => rfl

theorem Holds.mono {Q R : α → Hand → Prop} {p : Prog α} (hp : p.Holds bound Q h)
    (hQR : ∀ a h, Q a h → R a h) : p.Holds bound R h := by
  induction p generalizing h with
  | ret a => exact hQR a h hp
  | fetchUpdate g _ ih =>
    intro n hshare hbound
    have hn := hp n hshare hbound
    cases hg : g n with
    | none =>
      rw [hg] at hn
      exact ih none hn
    | some =>
      rw [hg] at hn
      exact ⟨hn.1, hn.2.1, ih (some n) hn.2.2⟩
  | fetchSub _ _ ih => exact ⟨hp.1, fun n => ih n (hp.2 n)⟩
  | readCell _ ih =>
    obtain ⟨n, hcell, hn⟩ := hp
    exact ⟨n, hcell, ih n hn⟩
  | writeCell n k ih | newCell n k ih | freeCell k ih => exact ⟨hp.1, ih hp.2⟩

end Prog

/-! ## The machine -/

/-- A call under way: the cell it was given, by name and value, and its
value at the start; its share of the counter; whether it has moved the
counter; and what is left of it. -/
structure Running (α : Type u) where
  cell : Option (Nat × Nat)
  start : Option Nat
  share : Nat
  moved : Bool
  prog : Prog α

namespace Running

/-- What the call has. -/
def hand {α : Type u} (c : Running α) : Prog.Hand :=
  { share := c.share, cell := c.cell.map Prod.snd, moved := c.moved }

end Running

/-- The counter, the cells at rest and the calls under way. -/
structure Machine (α : Type u) where
  counter : Nat
  cells : Table Nat Nat
  calls : Table Nat (Running α)
  /-- The name of the next cell. -/
  next : Nat

namespace Machine

variable {α : Type u} {ι : Type v}

/-- A thread calls an operation, or its call takes the next step. -/
inductive Event (ι : Type v) where
  | call (thread : Nat) (op : ι)
  | step (thread : Nat)

def fresh : Machine α := { counter := 0, cells := .empty, calls := .empty, next := 0 }

def begin (m : Machine α) (thread : Nat) (cell : Option Nat) (p : Prog α) : Machine α :=
  if (m.calls.find? thread).isSome then m
  else
    match cell with
    | none =>
      { m with
        calls := m.calls.put thread
          { cell := none, start := none, share := 0, moved := false, prog := p } }
    | some name =>
      match m.cells.find? name with
      | none => m
      | some n =>
        { m with
          cells := m.cells.delete (fun name' _ => name' == name)
          calls := m.calls.put thread
            { cell := some (name, n), start := some n, share := n, moved := false
              prog := p } }

def putBack (cells : Table Nat Nat) : Option (Nat × Nat) → Table Nat Nat
  | none => cells
  | some (name, n) => cells.put name n

/-- One step of a call. -/
def advance (m : Machine α) (thread : Nat) (c : Running α) : Machine α :=
  match c.prog with
  | .ret _ =>
    { m with
      cells := putBack m.cells c.cell
      calls := m.calls.delete (fun thread' _ => thread' == thread) }
  | .fetchUpdate f k =>
    match f m.counter with
    | none => { m with calls := m.calls.put thread { c with prog := k none } }
    | some v =>
      { m with
        counter := v
        calls := m.calls.put thread
          { c with
            share := c.share + v - m.counter
            moved := c.moved || v != m.counter
            prog := k (some m.counter) } }
  | .fetchSub d k =>
    { m with
      counter := (m.counter + 2 ^ 64 - d) % 2 ^ 64
      calls := m.calls.put thread
        { c with
          share := c.share - d, moved := c.moved || d != 0, prog := k m.counter } }
  | .readCell k =>
    { m with
      calls := m.calls.put thread { c with prog := k ((c.cell.map Prod.snd).getD 0) } }
  | .writeCell n k =>
    { m with
      calls := m.calls.put thread { c with cell := c.cell.map (fun x => (x.1, n)), prog := k } }
  | .newCell n k =>
    { m with
      cells := m.cells.put m.next n, next := m.next + 1
      calls := m.calls.put thread { c with share := c.share - n, prog := k } }
  | .freeCell k => { m with calls := m.calls.put thread { c with cell := none, prog := k } }

variable (target : ι → Option Nat) (prog : ι → Prog α)

/-- One event. `target` is the cell that an operation is called on. -/
def exec (m : Machine α) : Event ι → Machine α
  | .call thread op => m.begin thread (target op) (prog op)
  | .step thread =>
    match m.calls.find? thread with
    | none => m
    | some c => m.advance thread c

end Machine

/-! ## The shares add up -/

section Conserved

open Machine

variable {α : Type u} {ι : Type v} {m : Machine α} {bound : Nat}

/-- How a call ends: what it has is the value of its cell, and an answer that
`fails` leaves the counter and the cell as they were. -/
def Ends (fails : α → Prop) (start : Option Nat) (a : α) (h : Prog.Hand) : Prop :=
  h.share = h.cell.getD 0 ∧ (fails a → h.moved = false ∧ h.cell = start)

/-- The counter is what the cells at rest and the calls have, and every call
keeps to its share. -/
structure Conserved (bound : Nat) (fails : α → Prop) (m : Machine α) : Prop where
  total : (m.counter : Int) =
    m.cells.sumBy (fun _ n => (n : Int)) + m.calls.sumBy (fun _ c => (c.share : Int))
  bounded : m.counter ≤ bound
  named : ∀ name n, m.cells.find? name = some n → name < m.next
  cells : ∀ thread c name n, m.calls.find? thread = some c → c.cell = some (name, n) →
    name < m.next ∧ m.cells.find? name = none
  apart : ∀ thread thread' c c' name n n', m.calls.find? thread = some c →
    m.calls.find? thread' = some c' → c.cell = some (name, n) →
    c'.cell = some (name, n') → thread = thread'
  calls : ∀ thread c, m.calls.find? thread = some c →
    c.prog.Holds bound (Ends fails c.start) c.hand

variable {fails : α → Prop} {c : Running α}

theorem conserved_fresh : Conserved bound fails (fresh : Machine α) where
  total := rfl
  bounded := Nat.zero_le _
  named := by
    intro name n h
    cases h
  cells := by
    intro thread c name n h
    cases h
  apart := by
    intro thread thread' c c' name n n' h
    cases h
  calls := by
    intro thread c h
    cases h

theorem Conserved.share_le (h : Conserved bound fails m) (hc : m.calls.find? thread = some c) :
    c.share ≤ m.counter := by
  have hcells : 0 ≤ m.cells.sumBy (fun _ n => (n : Int)) :=
    Table.sumBy_nonneg fun _ n _ => Int.natCast_nonneg n
  have hrest : 0 ≤ m.calls.sumBy (fun thread' c' =>
      if thread' = thread then 0 else (c'.share : Int)) := by
    refine Table.sumBy_nonneg fun thread' c' _ => ?_
    split <;> omega
  have hsum := Table.sumBy_except (fun _ (c : Running α) => (c.share : Int)) hc
  have htotal := h.total
  omega

theorem Conserved.step (h : Conserved bound fails m) {c' : Running α}
    (hc : m.calls.find? thread = some c) {counter' next' : Nat}
    (hcell : ∀ name n', c'.cell = some (name, n') → ∃ n, c.cell = some (name, n))
    (hstart : c'.start = c.start) (hbound : counter' ≤ bound) (hnext : m.next ≤ next')
    (hcells : ∀ name n, cells'.find? name = some n →
      name < next' ∧ (name = m.next ∨ m.cells.find? name = some n))
    (htotal : (counter' : Int) - c'.share - cells'.sumBy (fun _ n => (n : Int)) =
      m.counter - c.share - m.cells.sumBy (fun _ n => (n : Int)))
    (hholds : c'.prog.Holds bound (Ends fails c.start) c'.hand) :
    Conserved bound fails
      { counter := counter', cells := cells', calls := m.calls.put thread c'
        next := next' } where
  total := by
    have hput := sumBy_put (fun _ (c : Running α) => (c.share : Int)) c' hc
    have hold := h.total
    show (counter' : Int) = cells'.sumBy _ + (m.calls.put thread c').sumBy _
    rw [hput]
    omega
  bounded := hbound
  named := fun name n hn => (hcells name n hn).1
  cells := by
    intro thread1 c1 name n hc1 hn
    -- the owner had the cell before the step
    have howner : ∃ thread0 c0 n0, m.calls.find? thread0 = some c0 ∧
        c0.cell = some (name, n0) := by
      rcases find?_put_cases hc1 with ⟨rfl, rfl⟩ | hold
      · obtain ⟨n0, hn0⟩ := hcell name n hn
        exact ⟨thread1, c, n0, hc, hn0⟩
      · exact ⟨thread1, c1, n, hold, hn⟩
    obtain ⟨thread0, c0, n0, hc0, hn0⟩ := howner
    obtain ⟨hlt, hnone⟩ := h.cells thread0 c0 name n0 hc0 hn0
    refine ⟨lt_of_lt_of_le hlt hnext, ?_⟩
    cases hfind : cells'.find? name with
    | none => rfl
    | some n' =>
      rcases (hcells name n' hfind).2 with rfl | hrest
      · exact absurd hlt (lt_irrefl _)
      · rw [hnone] at hrest
        cases hrest
  apart := by
    intro thread1 thread2 c1 c2 name n1 n2 hc1 hc2 hn1 hn2
    rcases find?_put_cases hc1 with ⟨rfl, rfl⟩ | hold1
    · rcases find?_put_cases hc2 with ⟨rfl, -⟩ | hold2
      · rfl
      · obtain ⟨n, hn⟩ := hcell name n1 hn1
        exact h.apart _ _ c c2 name n n2 hc hold2 hn hn2
    · rcases find?_put_cases hc2 with ⟨rfl, rfl⟩ | hold2
      · obtain ⟨n, hn⟩ := hcell name n2 hn2
        exact h.apart _ _ c1 c name n1 n hold1 hc hn1 hn
      · exact h.apart _ _ c1 c2 name n1 n2 hold1 hold2 hn1 hn2
  calls := by
    intro thread1 c1 hc1
    rcases find?_put_cases hc1 with ⟨rfl, rfl⟩ | hold
    · rw [hstart]
      exact hholds
    · exact h.calls thread1 c1 hold

theorem Conserved.add (h : Conserved bound fails m) (hthread : m.calls.find? thread = none)
    (hcells : ∀ name n, cells'.find? name = some n → m.cells.find? name = some n)
    (hcell : ∀ name n, c.cell = some (name, n) →
      m.cells.find? name = some n ∧ cells'.find? name = none)
    (htotal : cells'.sumBy (fun _ n => (n : Int)) + c.share =
      m.cells.sumBy (fun _ n => (n : Int)))
    (hholds : c.prog.Holds bound (Ends fails c.start) c.hand) :
    Conserved bound fails { m with cells := cells', calls := m.calls.put thread c } where
  total := by
    have hput := sumBy_put_new (fun _ (c : Running α) => (c.share : Int)) c hthread
    have hold := h.total
    show (m.counter : Int) = cells'.sumBy _ + (m.calls.put thread c).sumBy _
    rw [hput]
    omega
  bounded := h.bounded
  named := fun name n hn => h.named name n (hcells name n hn)
  cells := by
    intro thread1 c1 name n hc1 hn
    rcases find?_put_cases hc1 with ⟨-, rfl⟩ | hold
    · obtain ⟨hrest, hnone⟩ := hcell name n hn
      exact ⟨h.named name n hrest, hnone⟩
    · obtain ⟨hlt, hnone⟩ := h.cells thread1 c1 name n hold hn
      refine ⟨hlt, ?_⟩
      cases hfind : cells'.find? name with
      | none => rfl
      | some n' =>
        rw [hcells name n' hfind] at hnone
        cases hnone
  apart := by
    intro thread1 thread2 c1 c2 name n1 n2 hc1 hc2 hn1 hn2
    -- a cell at rest has no owner yet
    have hfree : ∀ {thread0 c0 n0 n}, m.calls.find? thread0 = some c0 →
        c0.cell = some (name, n0) → c.cell ≠ some (name, n) := by
      intro thread0 c0 n0 n hc0 hn0 hn
      have hnone := (h.cells thread0 c0 name n0 hc0 hn0).2
      rw [(hcell name n hn).1] at hnone
      cases hnone
    rcases find?_put_cases hc1 with ⟨rfl, rfl⟩ | hold1
    · rcases find?_put_cases hc2 with ⟨rfl, -⟩ | hold2
      · rfl
      · exact absurd hn1 (hfree hold2 hn2)
    · rcases find?_put_cases hc2 with ⟨rfl, rfl⟩ | hold2
      · exact absurd hn2 (hfree hold1 hn1)
      · exact h.apart _ _ c1 c2 name n1 n2 hold1 hold2 hn1 hn2
  calls := by
    intro thread1 c1 hc1
    rcases find?_put_cases hc1 with ⟨rfl, rfl⟩ | hold
    · exact hholds
    · exact h.calls thread1 c1 hold

theorem Conserved.begin (h : Conserved bound fails m) (thread : Nat) (target : Option Nat)
    {p : Prog α}
    (hp : ∀ cell : Option Nat, cell.isSome = target.isSome →
      p.Holds bound (Ends fails cell) { share := cell.getD 0, cell := cell, moved := false }) :
    Conserved bound fails (m.begin thread target p) := by
  unfold Machine.begin
  cases hthread : m.calls.find? thread with
  | some => exact h
  | none =>
    cases target with
    | none => exact h.add hthread (fun _ _ hn => hn) nofun (by simp) (hp none rfl)
    | some name =>
      cases hfind : m.cells.find? name with
      | none =>
        simp only [hfind]
        exact h
      | some n =>
        simp only [hfind]
        refine h.add hthread (fun name' n' hn' => (find?_delete.mp hn').1) ?_ ?_ (hp (some n) rfl)
        · rintro name' n' ⟨⟩
          refine ⟨hfind, Option.eq_none_iff_forall_ne_some.mpr fun n' hn' => ?_⟩
          have hne := (find?_delete.mp hn').2
          simp at hne
        · rw [Table.sumBy_remove _ hfind]
          simp

theorem Conserved.ret (h : Conserved bound fails m) (hc : m.calls.find? thread = some c) {a : α}
    (hprog : c.prog = .ret a) :
    Conserved bound fails
      { m with
        cells := putBack m.cells c.cell
        calls := m.calls.delete (fun thread' _ => thread' == thread) } := by
  have hends := h.calls thread c hc
  rw [hprog] at hends
  have hshare : c.share = (c.cell.map Prod.snd).getD 0 := hends.1
  have hsum := Table.sumBy_remove (fun _ (c : Running α) => (c.share : Int)) hc
  have hother : ∀ {thread' c'},
      (m.calls.delete (fun thread' _ => thread' == thread)).find? thread' = some c' →
      m.calls.find? thread' = some c' ∧ thread' ≠ thread := by
    intro thread' c' hc'
    obtain ⟨hfind, hne⟩ := find?_delete.mp hc'
    exact ⟨hfind, by simpa using hne⟩
  -- what comes to rest is the cell of the call
  have hback : ∀ name n, (putBack m.cells c.cell).find? name = some n →
      m.cells.find? name = some n ∨ ∃ n', c.cell = some (name, n') := by
    intro name n hn
    cases hcell : c.cell with
    | none =>
      rw [hcell] at hn
      exact .inl hn
    | some x =>
      rw [hcell] at hn
      rcases find?_put_cases hn with ⟨rfl, -⟩ | hrest
      · exact .inr ⟨x.2, rfl⟩
      · exact .inl hrest
  refine ⟨?_, h.bounded, fun name n hn => ?_, fun thread1 c1 name n hc1 hn => ?_,
    fun thread1 thread2 c1 c2 name n1 n2 hc1 hc2 => ?_, fun thread1 c1 hc1 => ?_⟩
  · have hold := h.total
    dsimp only
    rw [hsum, hold, hshare]
    cases hcell : c.cell with
    | none => simp [putBack]
    | some x =>
      have hnone := (h.cells thread c x.1 x.2 hc hcell).2
      simp only [putBack, sumBy_put_new _ _ hnone, map_some, getD_some]
      ring
  · rcases hback name n hn with hrest | ⟨n', hcell⟩
    · exact h.named name n hrest
    · exact (h.cells thread c name n' hc hcell).1
  · obtain ⟨hc1, hne⟩ := hother hc1
    obtain ⟨hlt, hnone⟩ := h.cells thread1 c1 name n hc1 hn
    refine ⟨hlt, Option.eq_none_iff_forall_ne_some.mpr fun n' hn' => ?_⟩
    rcases hback name n' hn' with hrest | ⟨n'', hcell⟩
    · rw [hnone] at hrest
      cases hrest
    · exact hne (h.apart _ _ c1 c name n n'' hc1 hc hn hcell)
  · exact h.apart _ _ c1 c2 name n1 n2 (hother hc1).1 (hother hc2).1
  · exact h.calls thread1 c1 (hother hc1).1

theorem Conserved.advance (h : Conserved bound fails m) (hbound : bound < 2 ^ 64)
    (hc : m.calls.find? thread = some c) :
    Conserved bound fails (m.advance thread c) := by
  have hholds := h.calls thread c hc
  have hshare := h.share_le hc
  have hcounter := h.bounded
  have hsame : ∀ name n, m.cells.find? name = some n →
      name < m.next ∧ (name = m.next ∨ m.cells.find? name = some n) :=
    fun name n hn => ⟨h.named name n hn, .inr hn⟩
  unfold Machine.advance
  cases hprog : c.prog with
  | ret => exact h.ret hc hprog
  | fetchUpdate f =>
    rw [hprog] at hholds
    have hn := hholds m.counter hshare hcounter
    cases hf : f m.counter with
    | none =>
      rw [hf] at hn
      simp only [hf]
      exact h.step hc (fun _ n hn => ⟨n, hn⟩) rfl hcounter (le_refl _) hsame rfl hn
    | some v =>
      rw [hf] at hn
      simp only [hf]
      obtain ⟨hv, hle, hrest⟩ := hn
      refine h.step hc (fun _ n hn => ⟨n, hn⟩) rfl hv (le_refl _) hsame ?_ hrest
      have hle' : m.counter ≤ c.share + v := by
        rw [Nat.add_comm]
        exact hle
      push_cast [Nat.cast_sub hle']
      ring
  | fetchSub d =>
    rw [hprog] at hholds
    obtain ⟨hd, hrest⟩ := hholds
    have hd' : d ≤ c.share := hd
    -- the counter does not wrap: it is below the bound and has the share
    have hsub : (m.counter + 2 ^ 64 - d) % 2 ^ 64 = m.counter - d := by omega
    dsimp only
    rw [hsub]
    refine h.step hc (fun _ n hn => ⟨n, hn⟩) rfl ?_ (le_refl _) hsame ?_ (hrest m.counter)
    · omega
    · push_cast [Nat.cast_sub hd', Nat.cast_sub (hd'.trans hshare)]
      ring
  | readCell =>
    rw [hprog] at hholds
    obtain ⟨n, hcell, hrest⟩ := hholds
    have hcell' : c.cell.map Prod.snd = some n := hcell
    dsimp only
    rw [hcell', getD_some]
    exact h.step hc (fun _ n hn => ⟨n, hn⟩) rfl hcounter (le_refl _) hsame rfl hrest
  | writeCell =>
    rw [hprog] at hholds
    obtain ⟨hsome, hrest⟩ := hholds
    refine h.step hc ?_ rfl hcounter (le_refl _) hsame rfl ?_
    · intro name n' hn'
      obtain ⟨x, hx, heq⟩ := map_eq_some_iff.mp hn'
      cases heq
      exact ⟨x.2, hx⟩
    · obtain ⟨x, hx⟩ := isSome_iff_exists.mp hsome
      obtain ⟨y, hy, -⟩ := map_eq_some_iff.mp hx
      simpa only [Running.hand, hy, map_some] using hrest
  | newCell n =>
    rw [hprog] at hholds
    obtain ⟨hn, hrest⟩ := hholds
    have hn' : n ≤ c.share := hn
    have hnone : m.cells.find? m.next = none :=
      Option.eq_none_iff_forall_ne_some.mpr fun n' hn' =>
        absurd (h.named _ n' hn') (lt_irrefl _)
    refine h.step hc (fun _ n hn => ⟨n, hn⟩) rfl hcounter (Nat.le_succ _) ?_ ?_ hrest
    · intro name n' hfind
      rcases find?_put_cases hfind with ⟨rfl, -⟩ | hold
      · exact ⟨Nat.lt_succ_self _, .inl rfl⟩
      · exact ⟨Nat.lt_succ_of_lt (h.named name n' hold), .inr hold⟩
    · rw [sumBy_put_new _ _ hnone]
      push_cast [Nat.cast_sub hn']
      ring
  | freeCell =>
    rw [hprog] at hholds
    exact h.step hc nofun rfl hcounter (le_refl _) hsame rfl hholds.2

variable {target : ι → Option Nat} {prog : ι → Prog α}

/-- The rule: operations that keep to what they have keep the sum, whatever
the order of their steps. -/
theorem conserved_run (hbound : bound < 2 ^ 64)
    (hprog : ∀ op, ∀ cell : Option Nat, cell.isSome = (target op).isSome →
      (prog op).Holds bound (Ends fails cell)
        { share := cell.getD 0, cell := cell, moved := false }) (events : List (Event ι)) :
    Conserved bound fails (run (exec target prog) fresh events) := by
  refine run_invariant ?_ conserved_fresh events
  intro m e h
  cases e with
  | call thread op => exact h.begin thread (target op) (hprog op)
  | step thread =>
    unfold Machine.exec
    cases hc : m.calls.find? thread with
    | none => simpa only [hc] using h
    | some => simpa only [hc] using h.advance hbound hc

end Conserved

end ApiToken
