import ApiToken.Lib.Run
import ApiToken.Lib.Table

/-!
# Sequence numbers under a row lock

Concurrent transactions that append rows to one shared log. A row gets its
number from a global sequence when it is inserted, but readers see it only
when its transaction commits, so numbers can become visible out of order.
They cannot, for the rows of one key, when every transaction locks the key
before it inserts a row of that key: locks are held to the end of the
transaction, so the inserts of two transactions on one key do not overlap.

A `Session` is an open transaction with the statements it has left, and an
`Event` is one statement of one session. `Ordered` is the invariant.
-/

namespace ApiToken.RowLock

universe u

/-- The statements that matter to the log. -/
inductive Stmt (κ ρ : Type u) where
  /-- `UPDATE … WHERE id = k` or `SELECT … FOR UPDATE`. -/
  | lock (k : κ)
  /-- `INSERT INTO` the log; the row takes the next number. -/
  | insert (row : ρ)

/-- An open transaction. -/
structure Session (κ ρ : Type u) where
  /-- The statements it still has to run. -/
  script : List (Stmt κ ρ)
  /-- The keys it has locked. -/
  locked : List κ
  /-- The rows it has inserted, which nobody else sees. -/
  written : List (Nat × ρ)

/-- The shared state. -/
structure World (κ ρ : Type u) where
  /-- The last number the sequence gave out. -/
  seq : Nat
  /-- The committed rows, in the order in which they became visible. -/
  log : List (Nat × ρ)
  sessions : Table Nat (Session κ ρ)

inductive Event (κ ρ : Type u) where
  | start (sid : Nat) (script : List (Stmt κ ρ))
  /-- The next statement of the session; it waits for a lock held by
  another. -/
  | step (sid : Nat)
  | commit (sid : Nat)
  /-- A rollback, by an error or by a crash, at any point. -/
  | abort (sid : Nat)

variable {κ ρ : Type u}

def World.empty : World κ ρ := { seq := 0, log := [], sessions := .empty }

variable [DecidableEq κ]

def World.heldByOther (w : World κ ρ) (sid : Nat) (k : κ) : Bool :=
  w.sessions.any (fun sid' s => sid' != sid && s.locked.contains k)

/-- One statement. A sequence number is never given back. -/
def World.runStmt (w : World κ ρ) (sid : Nat) (s : Session κ ρ) :
    Stmt κ ρ → List (Stmt κ ρ) → World κ ρ
  | .lock k, rest =>
    if w.heldByOther sid k then w
    else
      { w with
        sessions := w.sessions.put sid { s with script := rest, locked := k :: s.locked } }
  | .insert row, rest =>
    { w with
      seq := w.seq + 1
      sessions := w.sessions.put sid
        { s with script := rest, written := s.written ++ [(w.seq + 1, row)] } }

/-- The end of a session: its locks go with it. -/
def World.close (w : World κ ρ) (sid : Nat) : World κ ρ :=
  { w with sessions := w.sessions.delete (fun sid' _ => sid' == sid) }

def exec (w : World κ ρ) : Event κ ρ → World κ ρ
  | .start sid script =>
    match w.sessions.find? sid with
    | some _ => w
    | none => { w with sessions := w.sessions.put sid ⟨script, [], []⟩ }
  | .step sid =>
    match w.sessions.find? sid with
    | none => w
    | some s =>
      match s.script with
      | [] => w
      | stmt :: rest => w.runStmt sid s stmt rest
  | .commit sid =>
    match w.sessions.find? sid with
    | none => w
    | some s =>
      match s.script with
      | [] => { w.close sid with log := w.log ++ s.written }
      | _ :: _ => w
  | .abort sid => w.close sid

/-! ## Locking first -/

variable (owner : ρ → κ)

def LocksFirst : List κ → List (Stmt κ ρ) → Prop
  | _, [] => True
  | held, .lock k :: rest => LocksFirst (k :: held) rest
  | held, .insert row :: rest => owner row ∈ held ∧ LocksFirst held rest

instance LocksFirst.decidable :
    (held : List κ) → (script : List (Stmt κ ρ)) → Decidable (LocksFirst owner held script)
  | _, [] => inferInstanceAs (Decidable True)
  | held, .lock k :: rest => LocksFirst.decidable (k :: held) rest
  | held, .insert row :: rest =>
    have := LocksFirst.decidable held rest
    inferInstanceAs (Decidable (owner row ∈ held ∧ LocksFirst owner held rest))

def Event.Disciplined : Event κ ρ → Prop
  | .start _ script => LocksFirst owner [] script
  | _ => True

/-! ## The invariant -/

/-- What holds of an open session. -/
structure SessionOk (w : World κ ρ) (s : Session κ ρ) : Prop where
  locksFirst : LocksFirst owner s.locked s.script
  covered : ∀ x ∈ s.written, owner x.2 ∈ s.locked
  bounded : ∀ x ∈ s.written, 0 < x.1 ∧ x.1 ≤ w.seq
  increasing : s.written.Pairwise (fun x y => x.1 < y.1)
  /-- What the session has written is newer than what is visible of its
  keys. -/
  newer : ∀ x ∈ s.written, ∀ y ∈ w.log, owner y.2 = owner x.2 → y.1 < x.1
  fresh : ∀ x ∈ s.written, ∀ y ∈ w.log, y.1 ≠ x.1

/-- What every statement keeps. -/
structure Ordered (w : World κ ρ) : Prop where
  sessions : ∀ sid s, w.sessions.find? sid = some s → SessionOk owner w s
  /-- A key is locked by one session. -/
  exclusive : ∀ sid s sid' s' k, w.sessions.find? sid = some s →
    w.sessions.find? sid' = some s' → k ∈ s.locked → k ∈ s'.locked → sid = sid'
  /-- No two sessions were given the same number. -/
  distinct : ∀ sid s sid' s', w.sessions.find? sid = some s →
    w.sessions.find? sid' = some s' → sid ≠ sid' →
      ∀ x ∈ s.written, ∀ y ∈ s'.written, x.1 ≠ y.1
  bounded : ∀ x ∈ w.log, 0 < x.1 ∧ x.1 ≤ w.seq
  /-- The rows of a key became visible in the order of their numbers. -/
  increasing : w.log.Pairwise (fun x y => owner x.2 = owner y.2 → x.1 < y.1)
  unique : w.log.Pairwise (fun x y => x.1 ≠ y.1)

variable {owner} {w : World κ ρ} {sid : Nat}

omit [DecidableEq κ] in
theorem ordered_empty : Ordered owner (World.empty : World κ ρ) where
  sessions := by
    intro sid s h
    cases h
  exclusive := by
    intro sid s sid' s' k h
    cases h
  distinct := by
    intro sid s sid' s' h
    cases h
  bounded := by
    intro x hx
    cases hx
  increasing := List.Pairwise.nil
  unique := List.Pairwise.nil

theorem heldByOther_eq_false {k : κ} (h : w.heldByOther sid k = false)
    {sid' : Nat} {s : Session κ ρ} (hs : w.sessions.find? sid' = some s)
    (hne : sid' ≠ sid) : k ∉ s.locked := by
  intro hk
  have hheld : w.heldByOther sid k = true :=
    any_eq_true_iff.mpr ⟨sid', s, hs, by simp [hne, hk]⟩
  rw [h] at hheld
  cases hheld

omit [DecidableEq κ] in
theorem Ordered.put (h : Ordered owner w) {seq : Nat} (hseq : w.seq ≤ seq)
    {s : Session κ ρ} (hs : SessionOk owner { w with seq := seq } s)
    (hlocked : ∀ sid' s', w.sessions.find? sid' = some s' → sid' ≠ sid →
      ∀ k ∈ s.locked, k ∉ s'.locked)
    (hwritten : ∀ sid' s', w.sessions.find? sid' = some s' → sid' ≠ sid →
      ∀ x ∈ s.written, ∀ y ∈ s'.written, x.1 ≠ y.1) :
    Ordered owner { w with seq := seq, sessions := w.sessions.put sid s } where
  sessions := by
    intro sid' s' hs'
    simp only [find?_put] at hs'
    split at hs'
    · cases hs'
      exact { hs with }
    · have hold := h.sessions sid' s' hs'
      exact { hold with
        bounded := fun x hx =>
          ⟨(hold.bounded x hx).1, Nat.le_trans (hold.bounded x hx).2 hseq⟩ }
  exclusive := by
    intro a sa b sb k ha hb hka hkb
    simp only [find?_put] at ha hb
    by_contra hne
    split at ha <;> split at hb
    · rename_i h₁ h₂
      exact hne (h₁.symm.trans h₂)
    · rename_i h₁ h₂
      cases ha
      exact hlocked b sb hb (fun e => h₂ e.symm) k hka hkb
    · rename_i h₁ h₂
      cases hb
      exact hlocked a sa ha (fun e => h₁ e.symm) k hkb hka
    · exact hne (h.exclusive a sa b sb k ha hb hka hkb)
  distinct := by
    intro a sa b sb ha hb hne x hx y hy
    simp only [find?_put] at ha hb
    split at ha <;> split at hb
    · rename_i h₁ h₂
      exact absurd (h₁.symm.trans h₂) hne
    · rename_i h₁ h₂
      cases ha
      exact hwritten b sb hb (fun e => h₂ e.symm) x hx y hy
    · rename_i h₁ h₂
      cases hb
      exact (hwritten a sa ha (fun e => h₁ e.symm) y hy x hx).symm
    · exact h.distinct a sa b sb ha hb hne x hx y hy
  bounded := fun x hx =>
    ⟨(h.bounded x hx).1, Nat.le_trans (h.bounded x hx).2 hseq⟩
  increasing := h.increasing
  unique := h.unique

omit [DecidableEq κ] in
theorem find?_close {sid' : Nat} {s : Session κ ρ} :
    (w.close sid).sessions.find? sid' = some s ↔
      w.sessions.find? sid' = some s ∧ sid' ≠ sid := by
  simp only [World.close, find?_delete, beq_eq_false_iff_ne, ne_eq]

omit [DecidableEq κ] in
theorem Ordered.close (h : Ordered owner w) : Ordered owner (w.close sid) where
  sessions := by
    intro sid' s hs
    have hold := h.sessions sid' s (find?_close.mp hs).1
    exact { hold with }
  exclusive := fun a sa b sb k ha hb =>
    h.exclusive a sa b sb k (find?_close.mp ha).1 (find?_close.mp hb).1
  distinct := fun a sa b sb ha hb =>
    h.distinct a sa b sb (find?_close.mp ha).1 (find?_close.mp hb).1
  bounded := h.bounded
  increasing := h.increasing
  unique := h.unique

omit [DecidableEq κ] in
theorem Ordered.commit (h : Ordered owner w) {s : Session κ ρ}
    (hs : w.sessions.find? sid = some s) :
    Ordered owner { w.close sid with log := w.log ++ s.written } where
  sessions := by
    intro sid' s' hs'
    obtain ⟨hs', hne⟩ := find?_close.mp hs'
    have hold := h.sessions sid' s' hs'
    have hself := h.sessions sid s hs
    refine { hold with newer := ?_, fresh := ?_ }
    · intro x hx y hy howner
      rcases mem_append.mp hy with hy | hy
      · exact hold.newer x hx y hy howner
      · have hk := hself.covered y hy
        rw [howner] at hk
        exact absurd (h.exclusive sid' s' sid s _ hs' hs (hold.covered x hx) hk) hne
    · intro x hx y hy
      rcases mem_append.mp hy with hy | hy
      · exact hold.fresh x hx y hy
      · exact (h.distinct sid' s' sid s hs' hs hne x hx y hy).symm
  exclusive := h.close.exclusive
  distinct := h.close.distinct
  bounded := by
    intro x hx
    rcases mem_append.mp hx with hx | hx
    · exact h.bounded x hx
    · exact (h.sessions sid s hs).bounded x hx
  increasing := by
    have hself := h.sessions sid s hs
    refine pairwise_append.mpr ⟨h.increasing, ?_, ?_⟩
    · refine hself.increasing.imp ?_
      intro x y hlt _
      exact hlt
    · intro x hx y hy howner
      exact hself.newer y hy x hx howner
  unique := by
    have hself := h.sessions sid s hs
    refine pairwise_append.mpr ⟨h.unique, ?_, ?_⟩
    · exact hself.increasing.imp (fun hlt => Nat.ne_of_lt hlt)
    · intro x hx y hy
      exact hself.fresh y hy x hx

theorem Ordered.runStmt (h : Ordered owner w) {s : Session κ ρ}
    (hs : w.sessions.find? sid = some s) {stmt : Stmt κ ρ}
    {rest : List (Stmt κ ρ)} (hscript : s.script = stmt :: rest) :
    Ordered owner (w.runStmt sid s stmt rest) := by
  have hself := h.sessions sid s hs
  have hfirst := hself.locksFirst
  rw [hscript] at hfirst
  cases stmt with
  | lock k =>
    simp only [World.runStmt]
    split
    · exact h
    rename_i hfree
    rw [Bool.not_eq_true] at hfree
    refine h.put (Nat.le_refl _) ?_ ?_ ?_
    · exact
        { locksFirst := hfirst
          covered := fun x hx => mem_cons_of_mem _ (hself.covered x hx)
          bounded := hself.bounded
          increasing := hself.increasing
          newer := hself.newer
          fresh := hself.fresh }
    · intro sid' s' hs' hne k' hk'
      rcases mem_cons.mp hk' with rfl | hk'
      · exact heldByOther_eq_false hfree hs' hne
      · intro hother
        exact hne (h.exclusive sid' s' sid s k' hs' hs hother hk')
    · intro sid' s' hs' hne
      exact h.distinct sid s sid' s' hs hs' (Ne.symm hne)
  | insert =>
    refine h.put (Nat.le_succ _) ?_ ?_ ?_
    · have hnew : ∀ y ∈ w.log, y.1 < w.seq + 1 := fun y hy =>
        Nat.lt_succ_of_le (h.bounded y hy).2
      refine
        { locksFirst := hfirst.2
          covered := ?_, bounded := ?_, increasing := ?_, newer := ?_, fresh := ?_ }
      · intro x hx
        rcases mem_append.mp hx with hx | hx
        · exact hself.covered x hx
        · rw [mem_singleton] at hx
          subst hx
          exact hfirst.1
      · intro x hx
        rcases mem_append.mp hx with hx | hx
        · exact ⟨(hself.bounded x hx).1, Nat.le_succ_of_le (hself.bounded x hx).2⟩
        · rw [mem_singleton] at hx
          subst hx
          exact ⟨Nat.succ_pos _, Nat.le_refl _⟩
      · refine pairwise_append.mpr
          ⟨hself.increasing, List.pairwise_singleton _ _, ?_⟩
        intro x hx y hy
        rw [mem_singleton] at hy
        subst hy
        exact Nat.lt_succ_of_le (hself.bounded x hx).2
      · intro x hx y hy howner
        rcases mem_append.mp hx with hx | hx
        · exact hself.newer x hx y hy howner
        · rw [mem_singleton] at hx
          subst hx
          exact hnew y hy
      · intro x hx y hy
        rcases mem_append.mp hx with hx | hx
        · exact hself.fresh x hx y hy
        · rw [mem_singleton] at hx
          subst hx
          exact Nat.ne_of_lt (hnew y hy)
    · intro sid' s' hs' hne k hk hother
      exact hne (h.exclusive sid' s' sid s k hs' hs hother hk)
    · intro sid' s' hs' hne x hx y hy
      rcases mem_append.mp hx with hx | hx
      · exact h.distinct sid s sid' s' hs hs' (Ne.symm hne) x hx y hy
      · rw [mem_singleton] at hx
        subst hx
        exact Nat.ne_of_gt (Nat.lt_succ_of_le ((h.sessions sid' s' hs').bounded y hy).2)

theorem ordered_exec {e : Event κ ρ} (h : Ordered owner w)
    (he : e.Disciplined owner) : Ordered owner (exec w e) := by
  unfold exec
  split
  · rename_i sid script
    split
    · exact h
    · refine h.put (Nat.le_refl _) ?_ ?_ ?_
      · exact
          { locksFirst := he
            covered := fun x hx => absurd hx not_mem_nil
            bounded := fun x hx => absurd hx not_mem_nil
            increasing := List.Pairwise.nil
            newer := fun x hx => absurd hx not_mem_nil
            fresh := fun x hx => absurd hx not_mem_nil }
      · intro sid' s' hs' hne k hk
        cases hk
      · intro sid' s' hs' hne x hx
        cases hx
  · rename_i sid
    split
    · exact h
    · rename_i s hs
      split
      · exact h
      · rename_i stmt rest hscript
        exact h.runStmt hs hscript
  · rename_i sid
    split
    · exact h
    · rename_i s hs
      split
      · exact h.commit hs
      · exact h
  · exact h.close

theorem log_exec (h : Ordered owner w) (e : Event κ ρ) :
    ∃ rows, (exec w e).log = w.log ++ rows ∧
      ∀ x ∈ rows, 0 < x.1 ∧ ∀ y ∈ w.log, owner y.2 = owner x.2 → y.1 < x.1 := by
  have hsame : ∃ rows, w.log = w.log ++ rows ∧
      ∀ x ∈ rows, 0 < x.1 ∧ ∀ y ∈ w.log, owner y.2 = owner x.2 → y.1 < x.1 :=
    ⟨[], by simp, by simp⟩
  unfold exec
  split
  · split
    · exact hsame
    · exact hsame
  · split
    · exact hsame
    · split
      · exact hsame
      · rename_i stmt rest _
        cases stmt with
        | lock =>
          simp only [World.runStmt]
          split
          · exact hsame
          · exact hsame
        | insert => exact hsame
  · rename_i sid
    split
    · exact hsame
    · rename_i s hs
      split
      · have hself := h.sessions sid s hs
        exact ⟨s.written, rfl, fun x hx => ⟨(hself.bounded x hx).1, hself.newer x hx⟩⟩
      · exact hsame
  · exact hsame

end ApiToken.RowLock
