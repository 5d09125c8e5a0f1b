import ApiToken.Lib.Run
import ApiToken.Pool.Availability
import ApiToken.Pool.Frames

/-!
# In-flight slots

Routing calls take a slot of what they return, and whoever got it gives it
back once with `mark_done` or `end_stream`. Beside the pool a run keeps the
slots that are out. The counter of an email is their number as long as no
reload drops its entry while slots of it are out: the counter lives in the
entry, and a reload drops the entry of a subscription that left the roster
unless it is cooling.
-/

namespace ApiToken.Pool

variable {c : Config} {g : Inner} {now : Int}

/-! ## Runs -/

/-- The pool, and whose slots are out. -/
structure Slots where
  pool : Inner
  out : List String

def Slots.step (c : Config) (s : Slots) (t : Int × Op) : Slots where
  pool := exec c s.pool t.1 t.2
  out :=
    match handedOut c s.pool t.1 t.2 with
    | some e => e :: s.out
    | none =>
      match t.2.released with
      | some e => s.out.erase e
      | none => s.out

def Slots.new (r : Roster) : Slots := ⟨.new r, []⟩

def GivesBackOwn (e : String) (s : Slots) (t : Int × Op) : Prop :=
  t.2.released = some e → e ∈ s.out

def KeepsEntry (e : String) (s : Slots) (t : Int × Op) : Prop :=
  Drops s.pool t.1 e t.2 → e ∉ s.out

def HasRoom (e : String) (s : Slots) (_ : Int × Op) : Prop :=
  (s.out.count e : Int) < i64Max

def Counts (e : String) (s : Slots) : Prop :=
  inflightOf s.pool e = s.out.count e

theorem handedOut_eq_none_of_released {op : Op} {e : String}
    (h : op.released = some e) : handedOut c g now op = none := by
  cases op <;> first | rfl | exact nomatch h

theorem saturate_of_le {x : Int} (h0 : 0 ≤ x) (hle : x ≤ i64Max) : saturate x = x := by
  unfold saturate i64Max at *
  omega

theorem Counts.step {e : String} {s : Slots} {t : Int × Op} (h : Counts e s)
    (hown : GivesBackOwn e s t) (hkept : KeepsEntry e s t)
    (hroom : HasRoom e s t) : Counts e (s.step c t) := by
  unfold Counts at h ⊢
  rw [inflightOf_eq] at h ⊢
  have hzero : Drops s.pool t.1 e t.2 → (s.pool.entry e).inflight = 0 := by
    intro hdrops
    rw [h, List.count_eq_zero.mpr (hkept hdrops)]
    rfl
  have hcounter := exec_inflight (c := c) hzero
  simp only [Slots.step, hcounter, h]
  have hroom : (s.out.count e : Int) + 1 ≤ i64Max := hroom
  cases hout : handedOut c s.pool t.1 t.2 with
  | some e' =>
    have hrel : t.2.released = none := by
      cases hr : t.2.released with
      | none => rfl
      | some => exact nomatch hout.symm.trans (handedOut_eq_none_of_released hr)
    by_cases heq : e' = e
    · subst heq
      rw [if_pos rfl, saturate_of_le (by omega) hroom]
      dsimp only
      rw [List.count_cons_self]
      push_cast
      rfl
    · simp [heq, hrel]
  | none =>
    cases hrel : t.2.released with
    | some e' =>
      by_cases heq : e' = e
      · subst heq
        have hpos : 0 < s.out.count e' := count_pos_iff.mpr (hown hrel)
        simp only [reduceCtorEq, if_false, if_true, List.count_erase_self]
        omega
      · simp [heq, List.count_erase_of_ne (Ne.symm heq)]
    | none => simp

def ExactStep (e : String) (s : Slots) (t : Int × Op) : Prop :=
  GivesBackOwn e s t ∧ KeepsEntry e s t ∧ HasRoom e s t

theorem Counts.release {e : String} {s : Slots} {t : Int × Op} (h : Counts e s)
    (hstep : ExactStep e s t) (hrel : t.2.released = some e) :
    1 ≤ inflightOf s.pool e ∧ inflightOf (s.step c t).pool e = inflightOf s.pool e - 1 := by
  obtain ⟨hown, hkept, hroom⟩ := hstep
  have hafter : Counts e (s.step c t) := h.step hown hkept hroom
  have hpos : 0 < s.out.count e := count_pos_iff.mpr (hown hrel)
  unfold Counts at h hafter
  have hout : (s.step c t).out = s.out.erase e := by
    simp only [Slots.step, handedOut_eq_none_of_released hrel, hrel]
  rw [hout, List.count_erase_self] at hafter
  omega

/-- Along a run that never drops the entry of an email under its slots, the
counter of the email is the number of its slots that are out, and the clamp
at zero never bites. -/
theorem inflight_counts_slots (c : Config) (r : Roster) (ops : List (Int × Op))
    (e : String) (hops : Along (Slots.step c) (ExactStep e) (.new r) ops) :
    Counts e (run (Slots.step c) (.new r) ops) ∧
      Along (Slots.step c) (fun s t => t.2.released = some e →
        1 ≤ inflightOf s.pool e ∧ inflightOf (s.step c t).pool e = inflightOf s.pool e - 1)
        (.new r) ops := by
  have h0 : Counts e (.new r) := rfl
  generalize Slots.new r = s at h0 hops
  induction ops generalizing s with
  | nil => exact ⟨h0, trivial⟩
  | cons _ _ ih =>
    obtain ⟨ht, hops⟩ := hops
    obtain ⟨hcounts, halong⟩ := ih _ (h0.step ht.1 ht.2.1 ht.2.2) hops
    exact ⟨hcounts, h0.release ht, halong⟩

/-! ## Where the counter goes wrong -/

def rosterA : Roster := ⟨[subA], by decide⟩

instance (e : String) (s : Slots) (t : Int × Op) : Decidable (GivesBackOwn e s t) :=
  inferInstanceAs (Decidable (t.2.released = some e → e ∈ s.out))

instance (e : String) (s : Slots) (t : Int × Op) : Decidable (ExactStep e s t) :=
  inferInstanceAs (Decidable ((t.2.released = some e → e ∈ s.out) ∧
    (Drops s.pool t.1 e t.2 → e ∉ s.out) ∧ (s.out.count e : Int) < i64Max))

/-- `a` leaves the roster under a slot and comes back; the slot is given back
after another request took one. -/
def forgetfulRun : List (Int × Op) :=
  [(1000, .pick [] true), (1001, .replaceSubs .empty),
   (1002, .replaceSubs rosterA), (1003, .pick [] true), (1004, .markDone "a")]

/-- A pool of the one subscription `a`, which is not dead. -/
def OnlyA (s : Slots) : Prop :=
  s.pool.roster = rosterA ∧ isDead s.pool "a" = false

theorem OnlyA.pick {s : Slots} (h : OnlyA s) (now : Int) :
    handedOut c s.pool now (.pick [] true) = some "a" ∧
      OnlyA (s.step c (now, .pick [] true)) := by
  obtain ⟨hroster, halive⟩ := h
  have hsel : selectBest c s.pool [] now .full = some subA := by
    simp [selectBest, selectBestWithPolicy, hroster, rosterA,
      show isDead s.pool subA.email = false from halive, minBy]
  have hpick : Pool.pick c s.pool [] true now
      = (some subA, s.pool.takeSlot "a" now) := by
    unfold Pool.pick
    simp only [if_true, hsel]
    rfl
  refine ⟨by simp only [handedOut, hpick]; rfl, ?_, ?_⟩
  · simp only [Slots.step, exec, hpick]
    exact hroster
  · rw [isDead_eq] at halive ⊢
    simp only [Slots.step, exec, hpick, Inner.takeSlot, Inner.entry_modify_self]
    exact halive

/-- The state after `n` picks of the one subscription. -/
def afterPicks (c : Config) (n : Nat) : Slots :=
  run (Slots.step c) (.new rosterA) (List.replicate n (0, .pick [] true))

/-- Under `n` picks the counter stops at the largest `i64`. -/
theorem afterPicks_saturates (c : Config) (n : Nat) :
    OnlyA (afterPicks c n) ∧ (afterPicks c n).out.count "a" = n ∧
      inflightOf (afterPicks c n).pool "a" = min (n : Int) i64Max := by
  induction n with
  | zero => exact ⟨⟨rfl, rfl⟩, rfl, rfl⟩
  | succ n ih =>
    obtain ⟨honly, hcount, hcounter⟩ := ih
    have hlast : afterPicks c (n + 1)
        = (afterPicks c n).step c (0, .pick [] true) := by
      rw [afterPicks, List.replicate_succ', run_append]
      rfl
    obtain ⟨hout, honly'⟩ := honly.pick (c := c) 0
    refine ⟨hlast ▸ honly', ?_, ?_⟩
    · rw [hlast]
      simp only [Slots.step, hout, List.count_cons_self, hcount]
    · rw [inflightOf_eq] at hcounter ⊢
      rw [hlast]
      have hkept : Drops (afterPicks c n).pool 0 "a" (.pick [] true) →
          ((afterPicks c n).pool.entry "a").inflight = 0 := False.elim
      simp only [Slots.step]
      rw [exec_inflight hkept, if_pos hout, hcounter]
      push_cast
      unfold saturate i64Max
      omega

/-- After the run one slot of `a` is out and its counter is at zero, so that
the next release meets the clamp; and with `2 ^ 63` slots out the counter is
one short. -/
theorem inflight_misses_slots :
    (Along (Slots.step plainConfig) (GivesBackOwn "a") (.new rosterA) forgetfulRun ∧
      (run (Slots.step plainConfig) (.new rosterA) forgetfulRun).pool.roster.emails = ["a"] ∧
      (run (Slots.step plainConfig) (.new rosterA) forgetfulRun).out = ["a"] ∧
      inflightOf (run (Slots.step plainConfig) (.new rosterA) forgetfulRun).pool "a" = 0) ∧
      ¬ Counts "a" (run (Slots.step plainConfig) (.new rosterA) forgetfulRun) ∧
      ¬ Counts "a" (afterPicks plainConfig (2 ^ 63)) := by
  have hrun : Along (Slots.step plainConfig) (GivesBackOwn "a") (.new rosterA)
      forgetfulRun ∧
      (run (Slots.step plainConfig) (.new rosterA) forgetfulRun).pool.roster.emails = ["a"] ∧
      (run (Slots.step plainConfig) (.new rosterA) forgetfulRun).out = ["a"] ∧
      inflightOf (run (Slots.step plainConfig) (.new rosterA) forgetfulRun).pool "a"
        = 0 := by decide +kernel
  refine ⟨hrun, ?_, ?_⟩
  · unfold Counts
    rw [hrun.2.2.1, hrun.2.2.2]
    decide
  · obtain ⟨-, hcount, hcounter⟩ := afterPicks_saturates plainConfig (2 ^ 63)
    unfold Counts
    rw [hcount, hcounter]
    unfold i64Max
    push_cast
    omega

/-- `a` is picked twice across a reload that keeps it, and both slots come
back. -/
def keptRun : List (Int × Op) :=
  [(1000, .pick [] true), (1001, .replaceSubs rosterAB), (1003, .pick ["b"] true),
   (1004, .markDone "a"), (1005, .endStream "a"), (1006, .route 7)]

/-- Each step of it is exact: the counter of `a` is the number of its open slots. -/
theorem inflight_counts_slots_keptRun :
    Along (Slots.step plainConfig) (ExactStep "a") (.new rosterA) keptRun ∧
      Counts "a" (run (Slots.step plainConfig) (.new rosterA) keptRun) := by
  have hsteps : Along (Slots.step plainConfig) (ExactStep "a") (.new rosterA)
      keptRun := by decide +kernel
  exact ⟨hsteps, (inflight_counts_slots plainConfig rosterA keptRun "a" hsteps).1⟩

end ApiToken.Pool
