import ApiToken.Turns.Queue
import ApiToken.Lib.Run

/-!
# The delivery of turns to the durable ledger

What stands under the `turn_drain` barrier of one provider plane: the FIFO
of turns still to be written, the durable ledger, and the observations that
were handed to the serial writer. `enqueue_turn` and
`drain_turn_queue_locked` are the two ways a turn gets from the first to the
second; `billing.rs` writes a turn first and then the snapshot it carries.

Three things are kept that the code forgets: which turns never reach the
ledger, with the reason, what each observation was paired with, and the order
in which the FIFO took its events.
-/

namespace ApiToken.Turns

structure TurnEvent where
  request : Nat
  subject : Nat
  deriving DecidableEq

/-- `PendingTurn`: an event, and the turns counted in the snapshot that was
read in its wake. -/
structure PendingTurn where
  event : TurnEvent
  balance : Option (List TurnEvent)

inductive ObservationSource where
  | response (request : Nat)
  | poll (profile : Nat)
  deriving DecidableEq

/-- A snapshot and the ledger it was paired with, each as the turns it
reflects; `held` are the turns that still had a lease at that moment. -/
structure Observation where
  source : ObservationSource
  subject : Nat
  snapshot : List TurnEvent
  ledger : List TurnEvent
  held : List Nat
  deriving DecidableEq

/-- Why a metered turn does not reach the ledger. -/
inductive Loss where
  /-- The full FIFO refused it. -/
  | overflow
  /-- Another payload stands under its request id. -/
  | conflict
  /-- Its handler was dropped before the event was handed over. -/
  | cancelled

/-- The FIFO and what was written of it. -/
structure Delivery where
  queue : TurnQueue PendingTurn
  ledger : List TurnEvent
  lost : List (TurnEvent × Loss)
  observations : List Observation
  /-- The events that the FIFO accepted, in order. -/
  handed : List TurnEvent

/-- How one write of a turn goes. A transient failure may come after the
turn, or the turn and its snapshot, were stored. -/
inductive Write where
  | durable
  | conflict
  | transient (recorded observed : Bool)

namespace Delivery

def new (capacity : Nat) : Delivery := ⟨TurnQueue.new capacity, [], [], [], []⟩

/-- `…_subject_spend`: the turns in the cumulative ledger of a subject. -/
def subjectSpend (d : Delivery) (subject : Nat) : List TurnEvent :=
  d.ledger.filter (fun event => event.subject = subject)

def record (d : Delivery) (event : TurnEvent) : Delivery :=
  { d with ledger := if event ∈ d.ledger then d.ledger else d.ledger ++ [event] }

def observe (d : Delivery) (observation : Observation) : Delivery :=
  { d with observations := d.observations ++ [observation] }

def lose (d : Delivery) (event : TurnEvent) (reason : Loss) : Delivery :=
  { d with lost := d.lost ++ [(event, reason)] }

def observeWake (d : Delivery) (turn : PendingTurn) : Delivery :=
  match turn.balance with
  | none => d
  | some snapshot =>
    d.observe ⟨.response turn.event.request, turn.event.subject, snapshot,
      d.subjectSpend turn.event.subject, []⟩

/-- `record_kimi_turn`, `record_glm_turn`, `record_tripo3d_turn`: the turn
lands first, then its snapshot. -/
def recordTurn (d : Delivery) (turn : PendingTurn) :
    Write → Delivery × WriteOutcome
  | .durable => ((d.record turn.event).observeWake turn, .durable)
  | .conflict => (d.lose turn.event .conflict, .conflict)
  | .transient false _ => (d, .transient)
  | .transient true false => (d.record turn.event, .transient)
  | .transient true true => ((d.record turn.event).observeWake turn, .transient)

/-- The push of `enqueue_turn`, and whether the drain follows. -/
def pushTurn (d : Delivery) (turn : PendingTurn) : Delivery × Bool :=
  match d.queue.push turn with
  | (queue, true) => ({ d with queue := queue, handed := d.handed ++ [turn.event] }, true)
  | (queue, false) => (({ d with queue := queue } : Delivery).lose turn.event .overflow, false)

/-- The inline write of `enqueue_turn` on an empty FIFO; only a transient
failure goes on to the push. -/
def writeDirect (d : Delivery) (turn : PendingTurn) (write : Write) :
    Delivery × Bool :=
  match d.recordTurn turn write with
  | (d', .transient) => d'.pushTurn turn
  | (d', _) => (d', false)

/-- One pass of the loop of `drain_turn_queue_locked`, and whether another
one follows. -/
def drainOnce (d : Delivery) (write : Write) : Delivery × Bool :=
  match d.queue.head with
  | none => (d, false)
  | some turn =>
    let written := d.recordTurn turn write
    ({ written.1 with queue := written.1.queue.resolveHead written.2 }, written.2 != .transient)

/-! ## What a delivery step keeps -/

def queued (d : Delivery) : List TurnEvent := d.queue.queue.map PendingTurn.event

def Knows (d : Delivery) (event : TurnEvent) : Prop :=
  event ∈ d.queued ∨ event ∈ d.ledger

def Accounts (d : Delivery) (event : TurnEvent) : Prop :=
  d.Knows event ∨ ∃ reason, (event, reason) ∈ d.lost

end Delivery

def Observation.HasOwnTurn (o : Observation) : Prop :=
  ∃ event ∈ o.ledger, o.source = .response event.request

/-- A step of the delivery that brings in the events `fresh`: everything
accounted for stays so, and nothing else turns up. -/
structure Delivers (fresh : List TurnEvent) (d d' : Delivery) : Prop where
  accounts : ∀ event, d.Accounts event ∨ event ∈ fresh → d'.Accounts event
  knows : ∀ event, d'.Knows event → d.Knows event ∨ event ∈ fresh
  lost : ∀ loss ∈ d.lost, loss ∈ d'.lost
  observed : ∀ o ∈ d'.observations, o ∈ d.observations ∨ o.HasOwnTurn

namespace Delivers

variable {d d' : Delivery}

protected theorem refl (d : Delivery) : Delivers [] d d where
  accounts _ h := h.resolve_right not_mem_nil
  knows _ h := .inl h
  lost _ h := h
  observed _ h := .inl h

end Delivers

namespace Delivery

variable (d : Delivery)

theorem mem_record {event e : TurnEvent} :
    e ∈ (d.record event).ledger ↔ e ∈ d.ledger ∨ e = event := by
  unfold record
  by_cases h : event ∈ d.ledger
  · simp only [h, if_true]
    constructor
    · exact .inl
    · rintro (hold | rfl)
      · exact hold
      · exact h
  · simp [h]

theorem observeWake_frame (turn : PendingTurn) :
    (d.observeWake turn).queue = d.queue ∧ (d.observeWake turn).ledger = d.ledger ∧
      (d.observeWake turn).lost = d.lost := by
  unfold observeWake
  cases turn.balance <;> exact ⟨rfl, rfl, rfl⟩

theorem observeWake_observed {turn : PendingTurn} {o : Observation}
    (hin : turn.event ∈ d.ledger) (h : o ∈ (d.observeWake turn).observations) :
    o ∈ d.observations ∨ o.HasOwnTurn := by
  unfold observeWake at h
  cases hb : turn.balance with
  | none => rw [hb] at h; exact .inl h
  | some =>
    rw [hb] at h
    rcases mem_append.mp h with hold | hnew
    · exact .inl hold
    · rw [mem_singleton] at hnew
      subst hnew
      exact .inr ⟨turn.event, mem_filter.mpr ⟨hin, by simp⟩, rfl⟩

/-- What a write of the first turn in the FIFO does. -/
structure Wrote (turn : PendingTurn) (d d' : Delivery) (outcome : WriteOutcome) :
    Prop where
  queue : d'.queue.queue = d.queue.queue
  kept : ∀ e ∈ d.ledger, e ∈ d'.ledger
  added : ∀ e ∈ d'.ledger, e ∈ d.ledger ∨ e = turn.event
  lost : ∀ loss ∈ d.lost, loss ∈ d'.lost
  observed : ∀ o ∈ d'.observations, o ∈ d.observations ∨ o.HasOwnTurn
  landed : outcome ≠ .transient → turn.event ∈ d'.ledger ∨
    ∃ reason, (turn.event, reason) ∈ d'.lost

theorem record_wrote (turn : PendingTurn) (outcome : WriteOutcome) :
    Wrote turn d (d.record turn.event) outcome where
  queue := rfl
  kept _ h := d.mem_record.mpr (.inl h)
  added _ h := d.mem_record.mp h
  lost _ h := h
  observed _ h := .inl h
  landed _ := .inl (d.mem_record.mpr (.inr rfl))

theorem observeWake_wrote (turn : PendingTurn) (outcome : WriteOutcome) :
    Wrote turn d ((d.record turn.event).observeWake turn) outcome := by
  obtain ⟨hqueue, hledger, hlost⟩ := (d.record turn.event).observeWake_frame turn
  have hbase := d.record_wrote turn outcome
  exact {
    queue := congrArg TurnQueue.queue hqueue
    kept := fun e h => by rw [hledger]; exact hbase.kept e h
    added := fun e h => by rw [hledger] at h; exact hbase.added e h
    lost := fun loss h => by rw [hlost]; exact h
    observed := fun o h =>
      (d.record turn.event).observeWake_observed (d.mem_record.mpr (.inr rfl)) h
    landed := fun _ => .inl (by rw [hledger]; exact d.mem_record.mpr (.inr rfl)) }

theorem untried_wrote (turn : PendingTurn) : Wrote turn d d .transient where
  queue := rfl
  kept _ h := h
  added _ h := .inl h
  lost _ h := h
  observed _ h := .inl h
  landed h := absurd rfl h

theorem recordTurn_wrote (turn : PendingTurn) (write : Write) :
    Wrote turn d (d.recordTurn turn write).1 (d.recordTurn turn write).2 := by
  cases write with
  | durable => exact d.observeWake_wrote turn _
  | conflict =>
    exact {
      queue := rfl
      kept := fun _ h => h
      added := fun _ h => .inl h
      lost := fun _ h => mem_append_left _ h
      observed := fun _ h => .inl h
      landed := fun _ => .inr ⟨.conflict, by simp [recordTurn, lose]⟩ }
  | transient recorded observed =>
    cases recorded with
    | false => exact d.untried_wrote turn
    | true =>
      cases observed with
      | false => exact d.record_wrote turn _
      | true => exact d.observeWake_wrote turn _

end Delivery

namespace Delivers

variable {d d' : Delivery} {turn : PendingTurn} {outcome : WriteOutcome}

theorem of_wrote (h : Delivery.Wrote turn d d' outcome) (hout : outcome ≠ .transient) :
    Delivers [turn.event] d d' where
  accounts event hevent := by
    rcases hevent with ((hq | hl) | ⟨reason, hlost⟩) | hfresh
    · exact .inl (.inl (by unfold Delivery.queued; rw [h.queue]; exact hq))
    · exact .inl (.inr (h.kept event hl))
    · exact .inr ⟨reason, h.lost _ hlost⟩
    · rw [mem_singleton] at hfresh
      subst hfresh
      rcases h.landed hout with hin | hlost
      · exact .inl (.inr hin)
      · exact .inr hlost
  knows event hevent := by
    rcases hevent with hq | hl
    · exact .inl (.inl (by unfold Delivery.queued at hq; rw [h.queue] at hq; exact hq))
    · rcases h.added event hl with hold | hnew
      · exact .inl (.inr hold)
      · exact .inr (mem_singleton.mpr hnew)
  lost := h.lost
  observed := h.observed

theorem lose_after (h : Delivery.Wrote turn d d' outcome) (reason : Loss) :
    Delivers [turn.event] d (d'.lose turn.event reason) where
  accounts := by
    rintro event (((hold | hl) | ⟨reason', hlost⟩) | hfresh)
    · refine .inl (.inl ?_)
      unfold Delivery.queued Delivery.lose
      rw [h.queue]
      exact hold
    · exact .inl (.inr (h.kept event hl))
    · exact .inr ⟨reason', mem_append_left _ (h.lost _ hlost)⟩
    · rw [mem_singleton] at hfresh
      subst hfresh
      exact .inr ⟨reason, by simp [Delivery.lose]⟩
  knows := by
    rintro event (hin | hl)
    · unfold Delivery.queued Delivery.lose at hin
      rw [h.queue] at hin
      exact .inl (.inl hin)
    · rcases h.added event hl with hold | hnew
      · exact .inl (.inr hold)
      · exact .inr (mem_singleton.mpr hnew)
  lost := fun loss hloss => mem_append_left _ (h.lost loss hloss)
  observed := h.observed

theorem push_after (h : Delivery.Wrote turn d d' outcome) :
    Delivers [turn.event] d (d'.pushTurn turn).1 := by
  unfold Delivery.pushTurn
  split
  · rename_i queue hpush
    have hqueue := TurnQueue.push_accepted hpush
    have hq : ∀ e, e ∈ queue.queue.map PendingTurn.event ↔
        e ∈ d.queued ∨ e = turn.event := by
      intro e
      rw [hqueue, h.queue]
      simp [Delivery.queued]
    exact {
      accounts := by
        rintro event (((hold | hl) | ⟨reason, hlost⟩) | hfresh)
        · exact .inl (.inl ((hq event).mpr (.inl hold)))
        · exact .inl (.inr (h.kept event hl))
        · exact .inr ⟨reason, h.lost _ hlost⟩
        · exact .inl (.inl ((hq event).mpr (.inr (mem_singleton.mp hfresh))))
      knows := by
        rintro event (hin | hl)
        · rcases (hq event).mp hin with hold | hnew
          · exact .inl (.inl hold)
          · exact .inr (mem_singleton.mpr hnew)
        · rcases h.added event hl with hold | hnew
          · exact .inl (.inr hold)
          · exact .inr (mem_singleton.mpr hnew)
      lost := h.lost
      observed := h.observed }
  · rename_i queue hpush
    have hsame : Delivery.Wrote turn d { d' with queue := queue } outcome :=
      { h with queue := (TurnQueue.push_refused hpush).trans h.queue }
    exact lose_after hsame .overflow

theorem pushTurn (d : Delivery) (turn : PendingTurn) :
    Delivers [turn.event] d (d.pushTurn turn).1 :=
  push_after (d.untried_wrote turn)

theorem writeDirect (d : Delivery) (turn : PendingTurn) (write : Write) :
    Delivers [turn.event] d (d.writeDirect turn write).1 := by
  have hwrote := d.recordTurn_wrote turn write
  unfold Delivery.writeDirect
  split
  · rename_i d' hrec
    rw [hrec] at hwrote
    exact push_after hwrote
  · rename_i d' outcome hout hrec
    rw [hrec] at hwrote
    exact of_wrote hwrote hout

theorem drainOnce (d : Delivery) (write : Write) : Delivers [] d (d.drainOnce write).1 := by
  unfold Delivery.drainOnce
  split
  · exact .refl d
  · rename_i turn hhead
    have hsplit := TurnQueue.head_some hhead
    have hwrote := d.recordTurn_wrote turn write
    generalize d.recordTurn turn write = written at hwrote ⊢
    obtain ⟨d', outcome⟩ := written
    simp only at hwrote ⊢
    have hmem : turn.event ∈ d.queued := by
      unfold Delivery.queued
      rw [hsplit]
      exact mem_cons_self ..
    have hqueue : (d'.queue.resolveHead outcome).queue =
        if outcome = .transient then d.queue.queue else d.queue.queue.tail := by
      rw [TurnQueue.resolveHead_queue, hwrote.queue]
    have hsub : ∀ e, e ∈ (d'.queue.resolveHead outcome).queue.map PendingTurn.event →
        e ∈ d.queued := by
      intro e he
      rw [hqueue] at he
      unfold Delivery.queued
      split at he
      · exact he
      · rw [hsplit]
        exact mem_cons_of_mem _ he
    exact {
      accounts := by
        rintro event (((hq | hl) | ⟨reason, hlost⟩) | hfresh)
        · by_cases hout : outcome = .transient
          · refine .inl (.inl ?_)
            unfold Delivery.queued
            rw [hqueue, if_pos hout]
            exact hq
          · unfold Delivery.queued at hq
            rw [hsplit, map_cons] at hq
            rcases mem_cons.mp hq with rfl | htail
            · rcases hwrote.landed hout with hin | hlost
              · exact .inl (.inr hin)
              · exact .inr hlost
            · refine .inl (.inl ?_)
              unfold Delivery.queued
              rw [hqueue, if_neg hout]
              exact htail
        · exact .inl (.inr (hwrote.kept event hl))
        · exact .inr ⟨reason, hwrote.lost _ hlost⟩
        · cases hfresh
      knows := by
        rintro event (hin | hl)
        · exact .inl (.inl (hsub event hin))
        · rcases hwrote.added event hl with hold | rfl
          · exact .inl (.inr hold)
          · exact .inl (.inl hmem)
      lost := hwrote.lost
      observed := hwrote.observed }

end Delivers

end ApiToken.Turns
