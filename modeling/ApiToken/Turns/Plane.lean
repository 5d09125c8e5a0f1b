import ApiToken.Turns.Delivery
import ApiToken.Lib.Table

/-!
# Turns, leases and quota polls of one provider plane

`forward/src/{kimi,glm,tripo3d}/gateway.rs`, as threads that run one atomic
action at a time: a turn from the lease of its profile object to the drop of
that lease, and a poll from its first epoch read to the hand-over of its
snapshot. Profile objects are the `Arc<RuntimeProfile>`s of the process, not the
accounts: a roster reload puts a new one beside the one that running turns hold.

The provider keeps, for each subject, the turns whose consumption its meter
has counted. A snapshot is that set at the moment of the read.
-/

namespace ApiToken.Turns

structure Plane where
  /-- `enqueue_turn` writes inline while the FIFO is empty. -/
  directWrite : Bool
  /-- The turn takes a snapshot of its own before it is enqueued. -/
  wakeRead : Bool
  /-- The provider has counted a turn before its terminal record is read. -/
  countsFirst : Bool
  /-- `finalize_turn` may be awaited in a request handler, which a departing
  client drops. -/
  cancellable : Bool
  deriving DecidableEq

def kimi : Plane := ⟨true, false, false, true⟩
def glm : Plane := ⟨false, false, false, true⟩
def tripo3d : Plane := ⟨false, true, true, false⟩

/-- `RuntimeProfile`: the live leases, and how many were ever taken. -/
structure RuntimeProfile where
  subject : Nat
  inflight : Nat
  turnEpoch : Nat

inductive TurnPc where
  /-- In `ProfileLease::new`, between its two increments. -/
  | leasing
  /-- Upstream, up to the classification of its usage. -/
  | running
  /-- The calibration event is built. -/
  | finalizing
  /-- In `enqueue_turn`, before the barrier. -/
  | enqueueing
  /-- The barrier is held, the FIFO not yet touched. -/
  | locked
  /-- The inline write is on its way. -/
  | writing
  /-- In `drain_turn_queue_locked`. -/
  | draining
  /-- `finalize_turn` has returned. -/
  | finished
  /-- The lease is dropped. -/
  | gone
  deriving DecidableEq

inductive PollPc where
  | begun
  | idle
  | firstDrain
  | fetching
  | fetched
  | sameEpoch
  | idleAgain
  | locked
  | lockedEpoch
  | lastDrain
  | drained
  | over
  deriving DecidableEq

structure Turn where
  profile : Nat
  subject : Nat
  ticket : Nat
  metered : Bool
  balance : Option (List TurnEvent)
  pc : TurnPc
  deriving DecidableEq

structure Poll where
  profile : Nat
  turnEpoch : Nat
  snapshot : List TurnEvent
  pc : PollPc

/-- Who holds `turn_drain`. -/
inductive Holder where
  | turn (turn : Nat)
  | poll (poll : Nat)

/-- A subject's plane, with all turns and polls so far. -/
structure World where
  profiles : Table Nat RuntimeProfile
  turns : Table Nat Turn
  polls : Table Nat Poll
  counted : List TurnEvent
  turnDrain : Option Holder
  delivery : Delivery

/-- What an action leaves open: whether a read succeeds (for a running turn,
whether it ends exactly metered), and how a write goes. -/
structure Choice where
  ok : Bool
  write : Write

/-- One atomic step of a turn, a poll or the provider. -/
inductive Event where
  /-- A roster reload brings a new object for a subject. -/
  | reload (profile subject : Nat)
  | lease (turn profile : Nat)
  /-- The provider counts the consumption of a turn. -/
  | count (turn : Nat)
  | turn (turn : Nat) (choice : Choice)
  /-- The handler that carries the turn is dropped. -/
  | cancel (turn : Nat) (write : Write)
  | poll (poll profile : Nat)
  | pollStep (poll : Nat) (choice : Choice)

def TurnPc.holdsBarrier : TurnPc → Bool
  | .locked | .writing | .draining => true
  | _ => false

/-- The event has been written, pushed or refused. -/
def TurnPc.delivered : TurnPc → Bool
  | .draining | .finished | .gone => true
  | _ => false

def PollPc.holdsBarrier : PollPc → Bool
  | .firstDrain | .locked | .lockedEpoch | .lastDrain | .drained => true
  | _ => false

namespace World

def new (capacity : Nat) : World :=
  ⟨.empty, .empty, .empty, [], none, .new capacity⟩

def snapshot (w : World) (subject : Nat) : List TurnEvent :=
  w.counted.filter (fun event => event.subject = subject)

def heldTurns (w : World) : List Nat :=
  (w.turns.rows.filter (fun row => row.2.pc ≠ .gone)).map Prod.fst

def setTurn (w : World) (t : Nat) (turn : Turn) : World :=
  { w with turns := w.turns.put t turn }

def setPoll (w : World) (p : Nat) (poll : Poll) : World :=
  { w with polls := w.polls.put p poll }

def setProfile (w : World) (o : Nat) (profile : RuntimeProfile) : World :=
  { w with profiles := w.profiles.put o profile }

/-- `turn_drain.lock()` goes through only while no one holds it. -/
def lockTurnDrain (w : World) (holder : Holder) : Option World :=
  if w.turnDrain = none then some { w with turnDrain := some holder } else none

def unlockTurnDrain (w : World) : World := { w with turnDrain := none }

/-! ## A turn -/

/-- The first half of `ProfileLease::new`. -/
def lease (w : World) (t o : Nat) : World :=
  match w.turns.find? t, w.profiles.find? o with
  | none, some profile =>
    (w.setProfile o { profile with inflight := profile.inflight + 1 }).setTurn t
      ⟨o, profile.subject, 0, false, none, .leasing⟩
  | _, _ => w

/-- The second half of `ProfileLease::new`. -/
def publishEpoch (w : World) (t : Nat) (turn : Turn) : World :=
  match w.profiles.find? turn.profile with
  | none => w
  | some profile =>
    (w.setProfile turn.profile
      { profile with turnEpoch := profile.turnEpoch + 1 }).setTurn t
      { turn with ticket := profile.turnEpoch + 1, pc := .running }

/-- `Drop for ProfileLease`. -/
def dropLease (w : World) (t : Nat) (turn : Turn) : World :=
  match w.profiles.find? turn.profile with
  | none => w
  | some profile =>
    (w.setProfile turn.profile
      { profile with inflight := profile.inflight - 1 }).setTurn t
      { turn with pc := .gone }

def eventOf (t : Nat) (turn : Turn) : TurnEvent := ⟨t, turn.subject⟩

/-- `finalize_turn` up to the event: only an exactly metered turn has one. -/
def finalizeTurn (plane : Plane) (w : World) (t : Nat) (turn : Turn)
    (exact : Bool) : World :=
  if exact then
    if plane.countsFirst && !decide (eventOf t turn ∈ w.counted) then w
    else w.setTurn t { turn with metered := true, pc := .finalizing }
  else w.setTurn t { turn with pc := .finished }

def readWake (plane : Plane) (w : World) (t : Nat) (turn : Turn) (ok : Bool) :
    World :=
  let balance := if plane.wakeRead && ok then some (w.snapshot turn.subject) else none
  w.setTurn t { turn with balance := balance, pc := .enqueueing }

def pendingOf (t : Nat) (turn : Turn) : PendingTurn :=
  ⟨eventOf t turn, turn.balance⟩

/-- `enqueue_turn` returns, and its guard with it. -/
def leaveQueue (w : World) (t : Nat) (turn : Turn) : World :=
  (w.setTurn t { turn with pc := .finished }).unlockTurnDrain

/-- The drain of the FIFO follows, or `enqueue_turn` returns. -/
def afterPush (w : World) (t : Nat) (turn : Turn) (step : Delivery × Bool) : World :=
  if step.2 then
    { w with delivery := step.1 }.setTurn t { turn with pc := .draining }
  else { w with delivery := step.1 }.leaveQueue t turn

/-- `enqueue_turn`, from the lock to its first write. -/
def enqueueTurn (plane : Plane) (w : World) (t : Nat) (turn : Turn) : World :=
  if plane.directWrite && w.delivery.queue.mayPoll then
    w.setTurn t { turn with pc := .writing }
  else w.afterPush t turn (w.delivery.pushTurn (pendingOf t turn))

def turnStep (plane : Plane) (w : World) (t : Nat) (turn : Turn)
    (choice : Choice) : World :=
  match turn.pc with
  | .leasing => w.publishEpoch t turn
  | .running => w.finalizeTurn plane t turn choice.ok
  | .finalizing => w.readWake plane t turn choice.ok
  | .enqueueing =>
    match w.lockTurnDrain (.turn t) with
    | none => w
    | some locked => locked.setTurn t { turn with pc := .locked }
  | .locked => w.enqueueTurn plane t turn
  | .writing => w.afterPush t turn (w.delivery.writeDirect (pendingOf t turn) choice.write)
  | .draining => w.afterPush t turn (w.delivery.drainOnce choice.write)
  | .finished => w.dropLease t turn
  | .gone => w

def abandon (w : World) (t : Nat) (turn : Turn) (write : Write) : Delivery :=
  let written :=
    if turn.pc = .writing then (w.delivery.recordTurn (pendingOf t turn) write).1
    else w.delivery
  if turn.metered && !turn.pc.delivered then written.lose (eventOf t turn) .cancelled
  else written

def cancelTurn (plane : Plane) (w : World) (t : Nat) (turn : Turn) (write : Write) :
    World :=
  if plane.cancellable && turn.pc != .leasing && turn.pc != .gone then
    let left := ({ w with delivery := w.abandon t turn write } : World).dropLease t turn
    if turn.pc.holdsBarrier then left.unlockTurnDrain else left
  else w

/-! ## A poll -/

def startPoll (w : World) (p o : Nat) : World :=
  match w.polls.find? p, w.profiles.find? o with
  | none, some profile => w.setPoll p ⟨o, profile.turnEpoch, [], .begun⟩
  | _, _ => w

def pollOn (w : World) (p : Nat) (poll : Poll) (ok : Bool) (pc : PollPc) : World :=
  if ok then w.setPoll p { poll with pc := pc }
  else
    let stopped := w.setPoll p { poll with pc := .over }
    if poll.pc.holdsBarrier then stopped.unlockTurnDrain else stopped

/-- A pass of the drain under the barrier; at its end the poll goes on to
`pc` when the FIFO is empty. -/
def pollDrain (w : World) (p : Nat) (poll : Poll) (step : Delivery × Bool)
    (pc : PollPc) : World :=
  if step.2 then { w with delivery := step.1 }
  else ({ w with delivery := step.1 } : World).pollOn p poll step.1.queue.mayPoll pc

def observation (w : World) (poll : Poll) (profile : RuntimeProfile) : Observation :=
  ⟨.poll poll.profile, profile.subject, poll.snapshot,
    w.delivery.subjectSpend profile.subject, w.heldTurns⟩

/-- `observe_kimi_windows`, `observe_glm_windows`, `observe_tripo3d_balance`. -/
def observeWindows (w : World) (poll : Poll) (profile : RuntimeProfile) : World :=
  { w with delivery := w.delivery.observe (w.observation poll profile) }

/-- One action of `poll_profile_quota`, `poll_profile_balance`. -/
def pollProfile (w : World) (p : Nat) (poll : Poll) (profile : RuntimeProfile)
    (choice : Choice) : World :=
  match poll.pc with
  | .begun => w.pollOn p poll (profile.inflight = 0) .idle
  | .idle =>
    match w.lockTurnDrain (.poll p) with
    | none => w
    | some locked => locked.setPoll p { poll with pc := .firstDrain }
  | .firstDrain =>
    let step := w.delivery.drainOnce choice.write
    let w' := w.pollDrain p poll step .fetching
    if step.2 then w' else w'.unlockTurnDrain
  | .fetching =>
    w.pollOn p { poll with snapshot := w.snapshot profile.subject } choice.ok .fetched
  | .fetched => w.pollOn p poll (profile.turnEpoch = poll.turnEpoch) .sameEpoch
  | .sameEpoch => w.pollOn p poll (profile.inflight = 0) .idleAgain
  | .idleAgain =>
    match w.lockTurnDrain (.poll p) with
    | none => w
    | some locked => locked.setPoll p { poll with pc := .locked }
  | .locked => w.pollOn p poll (profile.turnEpoch = poll.turnEpoch) .lockedEpoch
  | .lockedEpoch => w.pollOn p poll (profile.inflight = 0) .lastDrain
  | .lastDrain => w.pollDrain p poll (w.delivery.drainOnce choice.write) .drained
  | .drained => (w.observeWindows poll profile).pollOn p poll false .over
  | .over => w

/-! ## The plane -/

def count (w : World) (t : Nat) (turn : Turn) : World :=
  if turn.pc = .leasing ∨ eventOf t turn ∈ w.counted then w
  else { w with counted := w.counted ++ [eventOf t turn] }

def reloadProfile (w : World) (o subject : Nat) : World :=
  match w.profiles.find? o with
  | none => w.setProfile o ⟨subject, 0, 0⟩
  | some _ => w

def exec (plane : Plane) (w : World) : Event → World
  | .reload o subject => w.reloadProfile o subject
  | .lease t o => w.lease t o
  | .count t =>
    match w.turns.find? t with
    | none => w
    | some turn => w.count t turn
  | .turn t choice =>
    match w.turns.find? t with
    | none => w
    | some turn => w.turnStep plane t turn choice
  | .cancel t write =>
    match w.turns.find? t with
    | none => w
    | some turn => w.cancelTurn plane t turn write
  | .poll p o => w.startPoll p o
  | .pollStep p choice =>
    match w.polls.find? p with
    | none => w
    | some poll =>
      match w.profiles.find? poll.profile with
      | none => w
      | some profile => w.pollProfile p poll profile choice

end World

def runPlane (plane : Plane) (capacity : Nat) (events : List Event) : World :=
  run (World.exec plane) (World.new capacity) events

end ApiToken.Turns
