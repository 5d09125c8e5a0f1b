import Mathlib.Data.List.Basic
import Mathlib.Order.Basic
import ApiToken.Lib.Run

/-!
# The reserve handoff

`reserve_request_for_execution_with_pricing` sends a `Reserve` command to the
one billing writer and waits for its reply. Between the commit of the reservation
and the moment the caller owns it stands an atomic byte: the writer offers
(`PENDING` to `COMMITTED`), the caller claims (`COMMITTED` to `CLAIMED`), and the
guard of a dropped caller withdraws (to `CANCELED`), after which somebody has to
refund. One step is one atomic action: a load, a compare-and-swap or a store of
the byte, one use of a channel, or one registry call. Any number of calls run at
once, and a caller's future can be dropped wherever it awaits.
-/

namespace ApiToken.Billing

/-- `RESERVE_HANDOFF_*`. -/
inductive Handoff where
  | pending
  | committed
  | claimed
  | canceled
  | refunding
  | refunded
  | failed
  deriving DecidableEq

/-- `anyhow::Result<Option<i64>>`: the reply, and what the call returns. -/
abbrev Answer := Except String (Option Int)

/-- How a reserve call ends for the writer. A PostgreSQL call can have committed
when `run_pg_with_retry` gives up on it; an SQLite call that fails has not. -/
inductive Outcome where
  | answered (answer : Answer)
  | lost (error : String)

inductive Reply where
  | empty
  | sent (answer : Answer)
  /-- The sending half is gone and nothing was sent. -/
  | closed

/-- Where `Drop for ReserveHandoffGuard` is in its loop. -/
inductive GuardPc where
  | load
  | swap (seen : Handoff)
  /-- `COMMITTED` was swapped for `CANCELED`: about to dispatch a
  `CancelReserve`. -/
  | dispatch

/-- Where the caller is. The answer of `guard` and `ended` is what the call
returns; `none` when its future was dropped. -/
inductive Phase where
  | idle
  | sending
  | waiting
  | claiming (balance : Int)
  | guard (pc : GuardPc) (answer : Option Answer)
  | ended (answer : Option Answer)

/-- A reserve call, with what the registry did for it. -/
structure Call where
  handoff : Handoff
  reply : Reply
  /-- Is the receiving half of the channel open? -/
  receiving : Bool
  phase : Phase
  /-- The registry committed a reservation for the request id, and said so. -/
  reserved : Bool
  /-- It committed one, and the answer was lost. -/
  lost : Bool
  /-- Cancel calls issued to the registry for the request id. -/
  cancels : Nat

/-- A request id nobody has used. -/
def Call.new : Call :=
  { handoff := .pending, reply := .empty, receiving := true, phase := .idle,
    reserved := false, lost := false, cancels := 0 }

/-- The commands of `WriteCmd` the handoff uses. -/
inductive CmdKind where
  | reserve
  | cancelReserve
  deriving DecidableEq

/-! ## The caller -/

inductive CallerAct where
  /-- The call is made: the guard exists, the send is awaited. -/
  | begin
  /-- `writer.send(WriteCmd::Reserve …)` completes. -/
  | send
  /-- `result.await` completes. -/
  | receive
  /-- `guard.claim()`. -/
  | claim
  /-- One step of the guard's loop. -/
  | guard
  /-- The future is dropped. -/
  | drop

/-- `match result.await`: what the call goes on with. -/
def Reply.next : Reply → Phase
  | .empty => .waiting
  | .sent (.ok (some balance)) => .claiming balance
  | .sent (.ok none) => .guard .load (some (.ok none))
  | .sent (.error e) => .guard .load (some (.error e))
  | .closed => .guard .load (some (.error "billing writer stopped"))

/-- `guard.claim()` and the arms that follow it. -/
def Call.claim (c : Call) (balance : Int) : Call :=
  if c.handoff = .committed then
    { c with
      handoff := .claimed
      phase := .guard .load (some (.ok (some balance))) }
  else
    { c with
      phase := .guard .load (some (.error "reservation handoff was canceled")) }

/-- One step of `Drop for ReserveHandoffGuard`, with the command it
dispatches: the loop goes round only when a swap lost a race. -/
def Call.guardStep (c : Call) (pc : GuardPc) (answer : Option Answer) :
    Call × Option CmdKind :=
  match pc with
  | .load =>
    if c.handoff = .pending ∨ c.handoff = .committed then
      ({ c with phase := .guard (.swap c.handoff) answer }, none)
    else ({ c with phase := .ended answer }, none)
  | .swap seen =>
    if c.handoff = seen then
      ({ c with
         handoff := .canceled
         phase :=
           if seen = .committed then .guard .dispatch answer
           else .ended answer }, none)
    else ({ c with phase := .guard .load answer }, none)
  | .dispatch => ({ c with phase := .ended answer }, some .cancelReserve)

def Call.callerStep (c : Call) : CallerAct → Call × Option CmdKind
  | .begin =>
    match c.phase with
    | .idle => ({ c with phase := .sending }, none)
    | _ => (c, none)
  | .send =>
    match c.phase with
    | .sending => ({ c with phase := .waiting }, some .reserve)
    | _ => (c, none)
  | .receive =>
    match c.phase with
    | .waiting => ({ c with phase := c.reply.next }, none)
    | _ => (c, none)
  | .claim =>
    match c.phase with
    | .claiming balance => (c.claim balance, none)
    | _ => (c, none)
  | .guard =>
    match c.phase with
    | .guard pc answer => c.guardStep pc answer
    | _ => (c, none)
  | .drop =>
    match c.phase with
    -- the unsent command goes first, and with it the sending half, so
    -- nobody sees when the receiver follows
    | .sending => ({ c with receiving := false, phase := .guard .load none }, none)
    -- the receiver is a temporary of the match and is dropped before the
    -- guard
    | .waiting => ({ c with receiving := false, phase := .guard .load none }, none)
    | _ => (c, none)

/-! ## The writer -/

/-- Which writer serves the calls. -/
inductive Backend where
  | sqlite
  | postgres
  deriving DecidableEq

inductive WriterPc where
  /-- `Reserve`: about to call the registry. -/
  | reserve
  /-- The registry refused or failed: about to store `FAILED`. -/
  | refuse (answer : Answer)
  | replyRefusal (answer : Answer)
  /-- Committed: about to swap `PENDING` for `COMMITTED`. -/
  | offer (balance : Int)
  | reply (balance : Int)
  /-- The reply found no receiver: about to swap `COMMITTED` for
  `CANCELED`. -/
  | withdraw
  /-- About to refund what this `Reserve` committed. -/
  | refund
  /-- `CancelReserve`: about to swap `CANCELED` for `REFUNDING`. -/
  | cancelReserve
  /-- About to issue the cancel call. -/
  | cancel
  /-- The cancel call succeeded: about to store `REFUNDED`. -/
  | finish

def CmdKind.start : CmdKind → WriterPc
  | .reserve => .reserve
  | .cancelReserve => .cancelReserve

/-- The swap of `CANCELED` for `REFUNDING` that goes before a cancel
call. -/
def Call.refunding (c : Call) : Call × Option WriterPc :=
  if c.handoff = .canceled then
    ({ c with handoff := .refunding }, some .cancel)
  else (c, none)

/-- One step of the writer. `registry` is how the call ends when the step is
a reserve call; a cancel call succeeds. -/
def Call.writerStep (backend : Backend) (registry : Outcome) (c : Call) :
    WriterPc → Call × Option WriterPc
  | .reserve =>
    match registry with
    | .answered (.ok (some balance)) => ({ c with reserved := true }, some (.offer balance))
    | .answered answer => (c, some (.refuse answer))
    | .lost e => ({ c with lost := c.lost || backend == .postgres }, some (.refuse (.error e)))
  | .refuse answer => ({ c with handoff := .failed }, some (.replyRefusal answer))
  | .replyRefusal answer =>
    (if c.receiving then { c with reply := .sent answer } else c, none)
  | .offer balance =>
    match c.handoff with
    | .pending => ({ c with handoff := .committed }, some (.reply balance))
    | .canceled => ({ c with reply := .closed }, some .refund)
    -- an unexpected state is logged and left alone
    | _ => ({ c with reply := .closed }, none)
  | .reply balance =>
    if c.receiving then ({ c with reply := .sent (.ok (some balance)) }, none)
    else (c, some .withdraw)
  | .withdraw =>
    (if c.handoff = .committed then { c with handoff := .canceled } else c, some .refund)
  | .refund =>
    match backend with
    | .sqlite => c.refunding
    | .postgres => (c, some .cancel)
  | .cancelReserve => c.refunding
  | .cancel => ({ c with cancels := c.cancels + 1 }, some .finish)
  | .finish => ({ c with handoff := .refunded }, none)

/-! ## All calls and the one writer -/

/-- A command names the call it is for by its request id. -/
structure Cmd (ρ : Type) where
  kind : CmdKind
  request : ρ
  deriving DecidableEq

/-- All calls, the writer's queue and the writer. -/
structure World (ρ : Type) where
  calls : ρ → Call
  queue : List (Cmd ρ)
  /-- Commands whose senders wait for room in the queue. -/
  detached : List (Cmd ρ)
  /-- The command the writer serves, and where it is in it. -/
  writer : Option (ρ × WriterPc)

inductive Act (ρ : Type) where
  /-- A step of the caller of `request`; `full` is whether a command it
  dispatches finds the queue full. -/
  | caller (request : ρ) (act : CallerAct) (full : Bool)
  /-- A detached sender finds room. -/
  | queued (index : Nat)
  /-- The writer takes the next command. -/
  | take
  /-- The writer's next step. -/
  | write (registry : Outcome)

namespace World

variable {ρ : Type} [DecidableEq ρ]

/-- Nothing has been called. -/
def init : World ρ :=
  { calls := fun _ => .new, queue := [], detached := [], writer := none }

/-- `dispatch_detached`, or a completed send. -/
def dispatch (w : World ρ) (full : Bool) (cmd : Cmd ρ) : World ρ :=
  if full then { w with detached := w.detached ++ [cmd] }
  else { w with queue := w.queue ++ [cmd] }

/-- A `Reserve` is sent with `send`, which waits for room; only a
`CancelReserve` can be detached. -/
def emit (w : World ρ) (r : ρ) (full : Bool) : Option CmdKind → World ρ
  | none => w
  | some .reserve => w.dispatch false ⟨.reserve, r⟩
  | some .cancelReserve => w.dispatch full ⟨.cancelReserve, r⟩

def setCall (w : World ρ) (r : ρ) (c : Call) : World ρ :=
  { w with calls := Function.update w.calls r c }

def step (backend : Backend) (w : World ρ) : Act ρ → World ρ
  | .caller r act full =>
    let next := (w.calls r).callerStep act
    (w.setCall r next.1).emit r full next.2
  | .queued i =>
    match w.detached[i]? with
    | some cmd =>
      { w with
        queue := w.queue ++ [cmd]
        detached := w.detached.eraseIdx i }
    | none => w
  | .take =>
    match w.writer, w.queue with
    | none, cmd :: rest =>
      { w with
        queue := rest
        writer := some (cmd.request, cmd.kind.start) }
    | _, _ => w
  | .write registry =>
    match w.writer with
    | some (r, pc) =>
      let next := (w.calls r).writerStep backend registry pc
      { w.setCall r next.1 with writer := next.2.map (r, ·) }
    | none => w

/-- The writer has nothing left to do. -/
def Drained (w : World ρ) : Prop :=
  w.queue = [] ∧ w.detached = [] ∧ w.writer = none

end World

end ApiToken.Billing
