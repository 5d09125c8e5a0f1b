import ApiToken.Billing.Handoff

/-!
# What one call sees of the handoff

What concerns one call (`View`) steps as its own caller and its own writer
(`view_step`). Its invariant `Sound` has two sides: where the writer is
says what the byte, the channel and the commands under way can be, and
where the caller is says what the byte can be. A cancel call is owed by
exactly one of them: the writer on its way to it, or a `CancelReserve` that
is queued, detached or about to be dispatched.
-/

namespace ApiToken.Billing

/-! ## One call at a time -/

/-- What concerns one call: its own record, where the writer is in a
command for it, and how many commands for it are on their way. -/
structure View where
  call : Call
  pc : Option WriterPc
  reserves : Nat
  cancelReserves : Nat

namespace World

variable {ρ : Type} [DecidableEq ρ]

def commands (w : World ρ) : List (Cmd ρ) := w.queue ++ w.detached

def pcOf (w : World ρ) (r : ρ) : Option WriterPc :=
  match w.writer with
  | some (r', pc) => if r' = r then some pc else none
  | none => none

def view (w : World ρ) (r : ρ) : View :=
  { call := w.calls r
    pc := w.pcOf r
    reserves := w.commands.count ⟨.reserve, r⟩
    cancelReserves := w.commands.count ⟨.cancelReserve, r⟩ }

end World

namespace View

def called (v : View) (next : Call × Option CmdKind) : View :=
  { v with
    call := next.1
    reserves := v.reserves + if next.2 = some .reserve then 1 else 0
    cancelReserves := v.cancelReserves + if next.2 = some .cancelReserve then 1 else 0 }

def write (backend : Backend) (v : View) (registry : Outcome) (pc : WriterPc) :
    View :=
  let next := v.call.writerStep backend registry pc
  { v with
    call := next.1
    pc := next.2 }

def take (v : View) : CmdKind → View
  | .reserve =>
    { v with
      pc := some .reserve
      reserves := v.reserves - 1 }
  | .cancelReserve =>
    { v with
      pc := some .cancelReserve
      cancelReserves := v.cancelReserves - 1 }

def waiting (v : View) : CmdKind → Nat
  | .reserve => v.reserves
  | .cancelReserve => v.cancelReserves

inductive Step (backend : Backend) (v : View) : View → Prop where
  | other : Step backend v v
  | caller (act : CallerAct) : Step backend v (v.called (v.call.callerStep act))
  | take (kind : CmdKind) (idle : v.pc = none) (queued : 0 < v.waiting kind) :
      Step backend v (v.take kind)
  | write (registry : Outcome) (pc : WriterPc) (at_pc : v.pc = some pc) :
      Step backend v (v.write backend registry pc)

end View

namespace World

variable {ρ : Type} [DecidableEq ρ]

theorem count_dispatch (w : World ρ) (full : Bool) (cmd cmd' : Cmd ρ) :
    (w.dispatch full cmd).commands.count cmd' =
      w.commands.count cmd' + if cmd = cmd' then 1 else 0 := by
  cases full
  · simp only [dispatch, commands, if_bool, count_append, List.count_singleton, beq_iff_eq]
    omega
  · simp only [dispatch, commands, if_true, count_append,
      List.count_singleton, beq_iff_eq]
    omega

theorem count_emit (w : World ρ) (r : ρ) (full : Bool) (e : Option CmdKind)
    (kind : CmdKind) (r' : ρ) :
    (w.emit r full e).commands.count ⟨kind, r'⟩ =
      w.commands.count ⟨kind, r'⟩ + if e = some kind ∧ r = r' then 1 else 0 := by
  rcases e with _ | _ | _
  · simp [emit]
  · simp [emit, count_dispatch, Cmd.mk.injEq]
  · simp [emit, count_dispatch, Cmd.mk.injEq]

omit [DecidableEq ρ] in
theorem calls_emit (w : World ρ) (r : ρ) (full : Bool) (e : Option CmdKind) :
    (w.emit r full e).calls = w.calls ∧ (w.emit r full e).writer = w.writer := by
  rcases e with _ | _ | _
  · exact ⟨rfl, rfl⟩
  · exact ⟨rfl, rfl⟩
  · cases full <;> exact ⟨rfl, rfl⟩

section

variable (backend : Backend) (w : World ρ)
include backend w

theorem view_caller (r r' : ρ) (act : CallerAct) (full : Bool) :
    (w.step backend (.caller r' act full)).view r =
      if r' = r then (w.view r).called ((w.calls r).callerStep act)
      else w.view r := by
  obtain ⟨hcalls, hwriter⟩ := calls_emit
    (w.setCall r' ((w.calls r').callerStep act).1) r' full
    ((w.calls r').callerStep act).2
  by_cases hr : r' = r
  · subst hr
    simp only [step, view, pcOf, count_emit, hcalls, hwriter, if_true, and_true]
    simp [View.called, setCall, commands]
  · simp only [step, view, pcOf, count_emit, hcalls, hwriter, hr, if_false, and_false]
    simp [setCall, commands, Function.update_of_ne (Ne.symm hr)]

theorem view_queued (r : ρ) (i : Nat) : (w.step backend (.queued i)).view r = w.view r := by
  simp only [step]
  split
  · rename_i cmd hcmd
    obtain ⟨hi, hget⟩ := List.getElem?_eq_some_iff.mp hcmd
    have hperm : (w.queue ++ [cmd] ++ w.detached.eraseIdx i).Perm
        (w.queue ++ w.detached) := by
      have hrest : (w.detached.eraseIdx i).Perm (w.detached.erase cmd) :=
        hget ▸ (List.erase_getElem hi).symm
      rw [append_assoc, List.perm_append_left_iff]
      exact (hrest.cons cmd).trans (List.perm_cons_erase (hget ▸ List.getElem_mem hi)).symm
    simp only [view, pcOf, commands, hperm.count_eq]
  · rfl

theorem view_take (r : ρ) : View.Step backend (w.view r) ((w.step backend .take).view r) := by
  simp only [step]
  split
  · rename_i cmd rest hidle hqueue
    obtain ⟨kind, r'⟩ := cmd
    have hcount : ∀ k, w.commands.count ⟨k, r⟩ =
        (rest ++ w.detached).count ⟨k, r⟩ + if kind = k ∧ r' = r then 1 else 0 := by
      intro k
      simp [commands, hqueue, count_cons, Cmd.mk.injEq]
    have hpc : (w.view r).pc = none := by simp [view, pcOf, hidle]
    by_cases hr : r' = r
    · subst hr
      have hqueued : 0 < (w.view r').waiting kind := by
        cases kind <;> simp [View.waiting, view, hcount]
      have hstep : View.Step backend (w.view r') ((w.view r').take kind) :=
        .take kind hpc hqueued
      convert hstep using 1
      cases kind <;>
        simp [view, View.take, pcOf, CmdKind.start, commands, hqueue]
    · have hstep : View.Step backend (w.view r) (w.view r) := .other
      convert hstep using 1
      simp only [view, pcOf, hidle, hcount, hr]
      simp [commands]
  · exact .other

theorem view_write (r : ρ) (registry : Outcome) :
    View.Step backend (w.view r) ((w.step backend (.write registry)).view r) := by
  simp only [step]
  split
  · rename_i r' pc hwriter
    by_cases hr : r' = r
    · subst hr
      have hpc : (w.view r').pc = some pc := by simp [view, pcOf, hwriter]
      have hstep : View.Step backend (w.view r')
          ((w.view r').write backend registry pc) := .write registry pc hpc
      convert hstep using 1
      simp only [view, View.write, setCall, Function.update_self, commands, pcOf]
      cases (w.calls r').writerStep backend registry pc with
      | mk _ next => cases next <;> simp
    · have hstep : View.Step backend (w.view r) (w.view r) := .other
      convert hstep using 1
      simp only [view, setCall, Function.update_of_ne (Ne.symm hr), commands, pcOf, hwriter]
      cases ((w.calls r').writerStep backend registry pc).2 <;> simp [hr]
  · exact .other

/-- One call sees the system as its own caller and its own writer. -/
theorem view_step (r : ρ) (act : Act ρ) :
    View.Step backend (w.view r) ((w.step backend act).view r) := by
  cases act with
  | caller _ act =>
    rw [view_caller]
    split
    · exact .caller act
    · exact .other
  | queued =>
    rw [view_queued]
    exact .other
  | take => exact view_take backend w r
  | write registry => exact view_write backend w r registry

end

end World

/-- What the call returns, once that is known. -/
def Phase.answer : Phase → Option Answer
  | .guard _ answer => answer
  | .ended answer => answer
  | _ => none

/-- The guard owes the writer a `CancelReserve`. -/
def Phase.undispatched : Phase → Nat
  | .guard .dispatch _ => 1
  | _ => 0

/-- The caller got, or is about to return, `Ok(Some(_))`. -/
def Call.SawReservation (c : Call) : Prop :=
  ∃ balance, c.phase.answer = some (.ok (some balance))

def Answer.Refuses (answer : Answer) : Prop := ∀ balance, answer ≠ .ok (some balance)

namespace View

/-- The `CancelReserve` commands of the call that are still to be served. -/
def owed (v : View) : Nat := v.cancelReserves + v.call.phase.undispatched

/-- The writer has not touched the byte, and nothing was cancelled. -/
structure Unanswered (v : View) : Prop where
  handoff : v.call.handoff = .pending ∨
    (v.call.handoff = .canceled ∧ v.call.receiving = false)
  reply : v.call.reply = .empty
  owed : v.owed = 0
  cancels : v.call.cancels = 0

/-- The reservation was offered and the offer is not taken up: it stands, or
the guard withdrew it and owes a `CancelReserve`. -/
structure Offered (v : View) : Prop where
  reserved : v.call.reserved = true
  reserves : v.reserves = 0
  cancels : v.call.cancels = 0
  handoff : (v.call.handoff = .committed ∧ v.owed = 0) ∨
    (v.call.handoff = .canceled ∧ v.call.receiving = false ∧ v.owed = 1)

/-- The caller is gone and at most one `CancelReserve` is on its way. -/
structure Abandoned (v : View) : Prop where
  receiving : v.call.receiving = false
  reserves : v.reserves = 0
  owed : v.owed ≤ 1

def Serving (v : View) : WriterPc → Prop
  | .reserve => v.Unanswered ∧ v.reserves = 0 ∧ v.call.reserved = false
  | .refuse answer =>
    v.Unanswered ∧ v.reserves = 0 ∧ v.call.reserved = false ∧ answer.Refuses
  | .offer _ => v.Unanswered ∧ v.reserves = 0 ∧ v.call.reserved = true
  | .replyRefusal answer =>
    v.call.handoff = .failed ∧ v.call.reply = .empty ∧ v.reserves = 0 ∧
      v.owed = 0 ∧ v.call.cancels = 0 ∧ v.call.reserved = false ∧
      answer.Refuses
  | .reply _ => v.Offered ∧ v.call.reply = .empty
  | .withdraw => v.Offered ∧ v.call.receiving = false
  | .refund => v.Abandoned ∧ v.call.handoff = .canceled ∧ v.call.cancels = 0
  | .cancelReserve =>
    v.Abandoned ∧ ((v.call.handoff = .canceled ∧ v.call.cancels = 0) ∨
      (v.call.handoff = .refunded ∧ v.call.cancels = 1))
  | .cancel =>
    v.Abandoned ∧ v.call.cancels = 0 ∧ (v.call.handoff = .canceled ∨ v.call.handoff = .refunding)
  | .finish =>
    v.Abandoned ∧ v.call.cancels = 1 ∧ (v.call.handoff = .canceled ∨ v.call.handoff = .refunding)

/-- What the byte says while the writer is not in a command of the call. -/
def Resting (v : View) : Prop :=
  match v.call.handoff with
  | .pending => v.Unanswered ∧ v.reserves ≤ 1 ∧ v.call.reserved = false
  | .committed => v.Offered ∧ ∃ balance, v.call.reply = .sent (.ok (some balance))
  | .claimed => v.reserves = 0 ∧ v.owed = 0 ∧ v.call.cancels = 0 ∧ v.call.SawReservation
  | .canceled => (v.Unanswered ∧ v.reserves ≤ 1 ∧ v.call.reserved = false) ∨ v.Offered
  | .refunding => False
  | .refunded => v.Abandoned ∧ v.call.cancels = 1
  | .failed =>
    v.reserves = 0 ∧ v.owed = 0 ∧ v.call.cancels = 0 ∧
      v.call.reserved = false ∧
      (v.call.reply = .empty ∨ ∃ answer : Answer, answer.Refuses ∧ v.call.reply = .sent answer)

def WriterSide (v : View) : Prop :=
  match v.pc with
  | some pc => v.Serving pc
  | none => v.Resting

def Settled (v : View) : Option Answer → Prop
  | some (.ok (some _)) => v.call.handoff = .claimed
  | some _ => v.call.handoff = .failed
  | none => v.call.receiving = false ∧ v.call.handoff ≠ .claimed

def CallerAt (v : View) : Phase → Prop
  | .idle | .sending =>
    v.call.handoff = .pending ∧ v.call.receiving = true ∧ v.pc = none ∧ v.reserves = 0
  | .waiting =>
    v.call.receiving = true ∧
      (v.call.handoff = .pending ∨ v.call.handoff = .committed ∨ v.call.handoff = .failed)
  | .claiming _ => v.call.receiving = true ∧ v.call.handoff = .committed ∧ v.pc = none
  | .guard .load answer => v.Settled answer
  | .guard (.swap seen) answer =>
    answer = none ∧ v.Settled none ∧ (seen = .pending ∨ seen = .committed)
  | .guard .dispatch answer =>
    answer = none ∧ v.Settled none ∧ v.call.handoff ≠ .pending ∧ v.call.handoff ≠ .committed
  | .ended answer =>
    v.Settled answer ∧ v.call.handoff ≠ .pending ∧ v.call.handoff ≠ .committed

/-- The protocol's invariant, for one call. -/
structure Sound (v : View) : Prop where
  writer : v.WriterSide
  caller : v.CallerAt v.call.phase

theorem sound_new : Sound { call := .new, pc := none, reserves := 0, cancelReserves := 0 } := by
  constructor
  · refine ⟨⟨.inl rfl, rfl, rfl, rfl⟩, Nat.zero_le 1, rfl⟩
  · exact ⟨rfl, rfl, rfl, rfl⟩

end View

end ApiToken.Billing
