import ApiToken.Turns.Paired

/-!
# Balance observations of Tripo3D

A balance comes to the ledger in two ways. The read in the wake of a task
rides the task's own FIFO entry, and the writer records the task before it
pairs the balance: the ledger has what was handed over up to that task,
whatever else the balance already reflects. An idle poll is fenced like a quota
poll, and since a task's terminal record is read only after the balance has
fallen, its snapshot and its ledger have the same tasks of the polled object.
-/

namespace ApiToken.Turns

open World

/-! ## The order of hand-over -/

/-- The observation in a turn's wake: its snapshot has the turn, and its ledger
what the FIFO took up to that turn, but for replay conflicts. -/
def Observation.InOrder (handed : List TurnEvent) (lost : List (TurnEvent × Loss))
    (o : Observation) (request : Nat) : Prop :=
  ∃ earlier later, handed = earlier ++ ⟨request, o.subject⟩ :: later ∧
    ⟨request, o.subject⟩ ∈ o.snapshot ∧ ⟨request, o.subject⟩ ∈ o.ledger ∧
    (∀ e ∈ earlier, e.subject = o.subject → e ∈ o.ledger ∨ (e, .conflict) ∈ lost) ∧
    ∀ e ∈ o.ledger, e ∈ earlier ∨ e = ⟨request, o.subject⟩

theorem Observation.InOrder.extend {handed : List TurnEvent}
    {lost lost' : List (TurnEvent × Loss)} {o : Observation} {request : Nat}
    (h : o.InOrder handed lost request) (more : List TurnEvent)
    (hlost : ∀ loss ∈ lost, loss ∈ lost') : o.InOrder (handed ++ more) lost' request := by
  obtain ⟨earlier, later, hhanded, hsnapshot, hown, hearlier, hledger⟩ := h
  refine ⟨earlier, later ++ more, ?_, hsnapshot, hown, fun e he hsubject => ?_, hledger⟩
  · rw [hhanded, append_assoc, cons_append]
  · exact (hearlier e he hsubject).imp_right (hlost _)

/-- What the FIFO took is written, for the part `done`, and then queued. -/
structure Delivery.InOrder (d : Delivery) (done : List TurnEvent) : Prop where
  handed : d.handed = done ++ d.queued
  written : ∀ e ∈ done, e ∈ d.ledger ∨ (e, .conflict) ∈ d.lost
  ledger : ∀ e ∈ d.ledger, e ∈ done ∨ d.queued.head? = some e
  balances : ∀ x ∈ d.queue.queue, ∀ s, x.balance = some s → x.event ∈ s
  observations : ∀ o ∈ d.observations, ∀ request, o.source = .response request →
    o.InOrder d.handed d.lost request

namespace Delivery.InOrder

variable {d : Delivery} {done : List TurnEvent} {turn : PendingTurn}

section

variable (h : d.InOrder done)
include h

theorem observe {o : Observation}
    (ho : ∀ request, o.source = .response request → o.InOrder d.handed d.lost request) :
    (d.observe o).InOrder done where
  handed := h.handed
  written := h.written
  ledger := h.ledger
  balances := h.balances
  observations o' ho' := by
    rcases mem_append.mp ho' with hold | hnew
    · exact h.observations o' hold
    · rw [mem_singleton.mp hnew]
      exact ho

theorem pushTurn (hturn : ∀ s, turn.balance = some s → turn.event ∈ s) :
    (d.pushTurn turn).1.InOrder done := by
  unfold Delivery.pushTurn
  split
  · rename_i queue hpush
    have hqueue := TurnQueue.push_accepted hpush
    constructor
    case handed => simp [h.handed, Delivery.queued, hqueue]
    case written => exact h.written
    case ledger =>
      intro e he
      refine (h.ledger e he).imp_right fun hhead => ?_
      rw [Delivery.queued, hqueue, map_append, List.head?_append, ← Delivery.queued, hhead]
      rfl
    case balances =>
      intro x hx
      rw [hqueue] at hx
      rcases mem_append.mp hx with hold | hnew
      · exact h.balances x hold
      · rw [mem_singleton.mp hnew]
        exact hturn
    case observations =>
      exact fun o ho request hsource =>
        (h.observations o ho request hsource).extend _ (fun _ hloss => hloss)
  · rename_i queue hpush
    have hqueue := TurnQueue.push_refused hpush
    constructor
    case handed => simp [h.handed, Delivery.queued, Delivery.lose, hqueue]
    case written => exact fun e he => (h.written e he).imp_right (mem_append_left _)
    case ledger => simpa [Delivery.queued, Delivery.lose, hqueue] using h.ledger
    case balances => simpa [Delivery.lose, hqueue] using h.balances
    case observations =>
      intro o ho request hsource
      have hkept : o.InOrder (d.handed ++ []) (d.lost ++ [(turn.event, .overflow)]) request :=
        (h.observations o ho request hsource).extend [] (fun _ => mem_append_left _)
      rwa [append_nil] at hkept

/-- The head of the FIFO reaches the ledger. -/
theorem record {rest : List TurnEvent} (hqueued : d.queued = turn.event :: rest) :
    (d.record turn.event).InOrder done where
  handed := h.handed
  written e he := (h.written e he).imp_left fun hin => d.mem_record.mpr (.inl hin)
  ledger e he := by
    rcases d.mem_record.mp he with hold | rfl
    · exact h.ledger e hold
    · exact .inr (by rw [show (d.record turn.event).queued = d.queued from rfl, hqueued]; rfl)
  balances := h.balances
  observations := h.observations

theorem observeWake {rest : List TurnEvent} (hqueued : d.queued = turn.event :: rest)
    (hin : turn.event ∈ d.ledger) (hturn : ∀ s, turn.balance = some s → turn.event ∈ s) :
    (d.observeWake turn).InOrder done := by
  unfold Delivery.observeWake
  cases hbalance : turn.balance with
  | none => exact h
  | some snapshot =>
    refine h.observe fun request hsource => ?_
    cases hsource
    have hspend : ∀ e, e ∈ d.subjectSpend turn.event.subject ↔
        e ∈ d.ledger ∧ e.subject = turn.event.subject := by simp [Delivery.subjectSpend]
    refine ⟨done, rest, hqueued ▸ h.handed, hturn snapshot hbalance,
      (hspend _).mpr ⟨hin, rfl⟩, fun e he hsubject => ?_, fun e he => ?_⟩
    · exact (h.written e he).imp_left fun hledger => (hspend e).mpr ⟨hledger, hsubject⟩
    · rcases h.ledger e ((hspend e).mp he).1 with hdone | hhead
      · exact .inl hdone
      · rw [hqueued] at hhead
        exact .inr (some.inj hhead).symm

/-- The head leaves the FIFO, written or in conflict. -/
theorem popFront {queue : TurnQueue PendingTurn} {lost : List (TurnEvent × Loss)}
    (hqueue : d.queue.queue = turn :: queue.queue) (hlost : ∀ loss ∈ d.lost, loss ∈ lost)
    (hturn : turn.event ∈ d.ledger ∨ (turn.event, .conflict) ∈ lost) :
    ({ d with queue := queue, lost := lost } : Delivery).InOrder (done ++ [turn.event]) := by
  have hqueued : d.queued = turn.event :: queue.queue.map PendingTurn.event := by
    rw [Delivery.queued, hqueue, map_cons]
  constructor
  case handed =>
    show d.handed = _
    rw [h.handed, hqueued]
    simp [Delivery.queued]
  case written =>
    intro e he
    rcases mem_append.mp he with hdone | hnew
    · exact (h.written e hdone).imp_right (hlost _)
    · rw [mem_singleton.mp hnew]
      exact hturn
  case ledger =>
    intro e he
    rcases h.ledger e he with hdone | hhead
    · exact .inl (mem_append_left _ hdone)
    · rw [hqueued] at hhead
      cases hhead
      exact .inl (mem_append_right _ (mem_singleton.mpr rfl))
  case balances =>
    intro x hx
    exact h.balances x (by rw [hqueue]; exact mem_cons_of_mem _ hx)
  case observations =>
    intro o ho request hsource
    have hkept := (h.observations o ho request hsource).extend [] hlost
    rwa [append_nil] at hkept

theorem drainOnce (write : Write) : ∃ done', (d.drainOnce write).1.InOrder done' := by
  unfold Delivery.drainOnce
  cases hhead : d.queue.head with
  | none => exact ⟨done, h⟩
  | some turn =>
    have hqueue := TurnQueue.head_some hhead
    have hqueued : d.queued = turn.event :: d.queue.queue.tail.map PendingTurn.event := by
      rw [Delivery.queued, hqueue]
      rfl
    have hturn := h.balances turn (by rw [hqueue]; exact mem_cons_self ..)
    have hrecorded := h.record hqueued
    have hin : turn.event ∈ (d.record turn.event).ledger := d.mem_record.mpr (.inr rfl)
    have hobserved := hrecorded.observeWake hqueued hin hturn
    have hframe := (d.record turn.event).observeWake_frame turn
    cases write with
    | durable =>
      refine ⟨done ++ [turn.event], hobserved.popFront ?_ (fun _ hloss => hloss)
        (.inl (by rw [hframe.2.1]; exact hin))⟩
      show ((d.record turn.event).observeWake turn).queue.queue = turn ::
        (((d.record turn.event).observeWake turn).queue.resolveHead .durable).queue
      rw [TurnQueue.resolveHead_queue, hframe.1]
      exact hqueue
    | conflict =>
      refine ⟨done ++ [turn.event], h.popFront ?_ (fun _ => mem_append_left _)
        (.inr (mem_append_right _ (mem_singleton.mpr rfl)))⟩
      exact hqueue
    | transient recorded observed =>
      have hkeep : ∀ {d' : Delivery}, d'.InOrder done →
          ({ d' with queue := d'.queue.resolveHead .transient } : Delivery).InOrder done :=
        fun h' => { h' with }
      cases recorded with
      | false => exact ⟨done, hkeep h⟩
      | true =>
        cases observed with
        | false => exact ⟨done, hkeep hrecorded⟩
        | true => exact ⟨done, hkeep hobserved⟩

end

end Delivery.InOrder

/-- What holds between any two actions of this plane. -/
structure World.InOrder (w : World) : Prop where
  delivery : ∃ done, w.delivery.InOrder done
  balances : ∀ t r, w.turns.find? t = some r →
    r.pc ≠ .writing ∧ ∀ s, r.balance = some s → eventOf t r ∈ s

section Order

variable {w w' : World} {t : Nat} {r : Turn}

/-- An action on the FIFO, and on one turn. -/
theorem World.InOrder.of_turn (h : w.InOrder) (r' : Turn) (hturns : w'.turns = w.turns.put t r')
    (hpc : r'.pc ≠ .writing) (hbalance : ∀ s, r'.balance = some s → eventOf t r' ∈ s)
    (hdelivery : ∃ done, w'.delivery.InOrder done) : w'.InOrder where
  delivery := hdelivery
  balances t1 r1 hr1 := by
    rw [hturns] at hr1
    rcases find?_put_cases hr1 with ⟨rfl, rfl⟩ | hold
    · exact ⟨hpc, hbalance⟩
    · exact h.balances t1 r1 hold

theorem World.InOrder.of_afterPush {step : Delivery × Bool} (h : w.InOrder)
    (ht : w.turns.find? t = some r) (hdelivery : ∃ done, step.1.InOrder done) :
    (w.afterPush t r step).InOrder := by
  have hbalance := (h.balances t r ht).2
  unfold afterPush
  split
  · exact h.of_turn { r with pc := .draining } rfl (by simp) hbalance hdelivery
  · exact h.of_turn { r with pc := .finished } rfl (by simp) hbalance hdelivery

theorem turnStep_inOrder (hs : w.Sound tripo3d) (h : w.InOrder)
    (ht : w.turns.find? t = some r) (choice : Choice) :
    (w.turnStep tripo3d t r choice).InOrder := by
  obtain ⟨p, hp, -, -⟩ := (hs.turns t r ht).object
  obtain ⟨hwriting, hbalance⟩ := h.balances t r ht
  unfold turnStep
  split
  case h_1 =>
    rw [publishEpoch, hp]
    exact h.of_turn { r with ticket := p.turnEpoch + 1, pc := .running } rfl (by simp) hbalance
      h.delivery
  case h_2 =>
    unfold finalizeTurn
    split
    · split
      · exact h
      · exact h.of_turn { r with metered := true, pc := .finalizing } rfl (by simp) hbalance
          h.delivery
    · exact h.of_turn { r with pc := .finished } rfl (by simp) hbalance h.delivery
  case h_3 hpc =>
    have hm := (hs.turns t r ht).metered (by rw [hpc]; rfl)
    have hcounted := (hs.turns t r ht).counted rfl hm
    refine h.of_turn _ rfl (by simp) ?_ h.delivery
    intro s hsnapshot
    have hsnapshot : (if (tripo3d.wakeRead && choice.ok) = true then some (w.snapshot r.subject)
        else none) = some s := hsnapshot
    split at hsnapshot
    · cases hsnapshot
      exact mem_filter.mpr ⟨hcounted, by simp [eventOf]⟩
    · cases hsnapshot
  case h_4 =>
    split
    · exact h
    · rename_i locked hlock
      obtain ⟨-, rfl⟩ := lockTurnDrain_eq hlock
      exact h.of_turn { r with pc := .locked } rfl (by simp) hbalance h.delivery
  case h_5 =>
    obtain ⟨done, hdone⟩ := h.delivery
    exact h.of_afterPush ht ⟨done, hdone.pushTurn hbalance⟩
  case h_6 hpc => exact absurd hpc hwriting
  case h_7 =>
    obtain ⟨done, hdone⟩ := h.delivery
    exact h.of_afterPush ht (hdone.drainOnce choice.write)
  case h_8 =>
    rw [dropLease_eq hp]
    exact h.of_turn { r with pc := .gone } rfl (by simp) hbalance h.delivery
  case h_9 => exact h

theorem World.InOrder.of_frame (h : w.InOrder) (hturns : w'.turns = w.turns)
    (hdelivery : ∃ done, w'.delivery.InOrder done) : w'.InOrder where
  delivery := hdelivery
  balances := by
    rw [hturns]
    exact h.balances

theorem pollOn_frame (w : World) (p : Nat) (poll : Poll) (ok : Bool) (pc : PollPc) :
    (w.pollOn p poll ok pc).turns = w.turns ∧ (w.pollOn p poll ok pc).delivery = w.delivery := by
  cases ok with
  | true => exact ⟨rfl, rfl⟩
  | false =>
    simp only [pollOn, if_bool]
    split <;> exact ⟨rfl, rfl⟩

theorem World.InOrder.pollOn (h : w.InOrder) (p : Nat) (poll : Poll) (ok : Bool)
    (pc : PollPc) : (w.pollOn p poll ok pc).InOrder := by
  obtain ⟨hturns, hdelivery⟩ := pollOn_frame w p poll ok pc
  exact h.of_frame hturns (hdelivery ▸ h.delivery)

theorem World.InOrder.lock (h : w.InOrder) {p : Nat} {locked : World}
    (hlocked : w.lockTurnDrain (.poll p) = some locked) (poll : Poll) :
    (locked.setPoll p poll).InOrder := by
  obtain ⟨-, rfl⟩ := lockTurnDrain_eq hlocked
  exact h.of_frame rfl h.delivery

theorem World.InOrder.pollDrain (h : w.InOrder) (p : Nat) (poll : Poll) (write : Write)
    (pc : PollPc) : (w.pollDrain p poll (w.delivery.drainOnce write) pc).InOrder := by
  obtain ⟨done, hdone⟩ := h.delivery
  have hdrained : ({ w with delivery := (w.delivery.drainOnce write).1 } : World).InOrder :=
    h.of_frame rfl (hdone.drainOnce write)
  unfold World.pollDrain
  split
  · exact hdrained
  · exact hdrained.pollOn ..

theorem pollProfile_inOrder (h : w.InOrder) (p : Nat) (poll : Poll)
    (profile : RuntimeProfile) (choice : Choice) :
    (w.pollProfile p poll profile choice).InOrder := by
  unfold pollProfile
  split
  case h_2 =>
    split
    · exact h
    · rename_i locked hlocked
      exact h.lock hlocked _
  case h_3 =>
    have hdrained := h.pollDrain p poll choice.write .fetching
    simp only
    split
    · exact hdrained
    · exact hdrained.of_frame rfl hdrained.delivery
  case h_7 =>
    split
    · exact h
    · rename_i locked hlocked
      exact h.lock hlocked _
  case h_10 => exact h.pollDrain ..
  case h_11 =>
    obtain ⟨done, hdone⟩ := h.delivery
    have hobserved : (w.observeWindows poll profile).InOrder := by
      refine h.of_frame rfl ⟨done, hdone.observe fun request hsource => ?_⟩
      cases hsource
    exact hobserved.pollOn ..
  case h_12 => exact h
  all_goals exact h.pollOn ..

theorem exec_inOrder (hs : w.Sound tripo3d) (h : w.InOrder) (event : Event) :
    (World.exec tripo3d w event).InOrder := by
  cases event with
  | reload o subject =>
    simp only [World.exec, reloadProfile]
    split
    · exact h.of_frame rfl h.delivery
    · exact h
  | lease t o =>
    simp only [World.exec, World.lease]
    split
    · refine ⟨h.delivery, fun t1 r1 hr1 => ?_⟩
      rcases find?_put_cases hr1 with ⟨rfl, rfl⟩ | hold
      · exact ⟨by simp, by simp⟩
      · exact h.balances t1 r1 hold
    · exact h
  | count t =>
    simp only [World.exec, World.count]
    split
    · exact h
    · split
      · exact h
      · exact h.of_frame rfl h.delivery
  | turn t choice =>
    simp only [World.exec]
    split
    · exact h
    · rename_i r hr
      exact turnStep_inOrder hs h hr choice
  | cancel t write =>
    simp only [World.exec, World.cancelTurn]
    split
    · exact h
    · exact h
  | poll p o =>
    simp only [World.exec, startPoll]
    split
    · exact h.of_frame rfl h.delivery
    · exact h
  | pollStep p choice =>
    simp only [World.exec]
    split
    · exact h
    · split
      · exact h
      · exact pollProfile_inOrder h ..

end Order

theorem runPlane_inOrder (capacity : Nat) (events : List Event) :
    (runPlane tripo3d capacity events).InOrder := by
  unfold runPlane
  refine (run_invariant (I := fun w : World => w.Paired tripo3d ∧ w.InOrder)
    (fun w event h => ⟨exec_paired h.1 event, exec_inOrder h.1.sound h.2 event⟩)
    ⟨new_paired tripo3d capacity, ?_⟩ events).2
  exact ⟨⟨[], rfl, nofun, nofun, nofun, nofun⟩, nofun⟩

/-! ## The pairing -/

/-- Every observation is paired with a ledger. A turn's own snapshot has the turn, and
the ledger beside it has the turns of the subject that the FIFO took up to that turn,
but for replay conflicts. A poll's snapshot and its ledger have the same tasks of the
polled object, but for the events that were lost. -/
def World.BalancePaired (w : World) : Prop :=
  ∀ o ∈ w.delivery.observations,
    match o.source with
    | .response request => o.InOrder w.delivery.handed w.delivery.lost request
    | .poll object => ∀ t r, w.turns.find? t = some r → r.profile = object →
        (eventOf t r ∈ o.ledger → eventOf t r ∈ o.snapshot) ∧
        (r.metered = true → eventOf t r ∈ o.snapshot → eventOf t r ∈ o.ledger ∨
          ∃ reason, (eventOf t r, reason) ∈ w.delivery.lost)

/-- In every run every balance observation is paired so. -/
theorem balances_are_paired (capacity : Nat) (events : List Event) :
    (runPlane tripo3d capacity events).BalancePaired := by
  intro o ho
  have hpaired := (runPlane_paired tripo3d capacity events).observations o ho
  unfold Observation.Paired at hpaired
  cases hsource : o.source with
  | response request =>
    obtain ⟨done, hdone⟩ := (runPlane_inOrder capacity events).delivery
    exact hdone.observations o ho request hsource
  | poll =>
    rw [hsource] at hpaired
    intro t r hr hobject
    constructor
    · intro hledger
      obtain ⟨r', hr', -, hrest⟩ := hpaired.2 _ hledger
      rw [show (eventOf t r).request = t from rfl, hr] at hr'
      cases hr'
      exact hrest rfl hobject
    · intro hm hsnap
      obtain ⟨r', hr', -, hrest⟩ := hpaired.1 _ hsnap
      rw [show (eventOf t r).request = t from rfl, hr] at hr'
      cases hr'
      exact (hrest (.inl hobject)).2 hm

def twoTasks : List Event :=
  let go := Choice.mk true .durable
  [.reload 0 7, .lease 1 0, .turn 1 go, .lease 2 0, .turn 2 go, .count 1, .count 2,
    .turn 1 go, .turn 1 go, .turn 1 go, .turn 1 go, .turn 1 go]

/-- The balance read in the wake of the first task reflects the second one
too, and the ledger it is stored with does not: the two are not the same
tasks of the profile. -/
theorem wake_read_reflects_more :
    ¬ ∀ (capacity : Nat) (events : List Event),
      ∀ o ∈ (runPlane tripo3d capacity events).delivery.observations,
        ∀ t r, (runPlane tripo3d capacity events).turns.find? t = some r →
          r.subject = o.subject → (eventOf t r ∈ o.ledger ↔ eventOf t r ∈ o.snapshot) := by
  intro h
  have hiff := h 4096 twoTasks ⟨.response 1, 7, [⟨1, 7⟩, ⟨2, 7⟩], [⟨1, 7⟩], []⟩
    (by decide +kernel) 2 ⟨0, 7, 2, false, none, .running⟩ (by decide +kernel) rfl
  exact absurd (hiff.mpr (by decide)) (by decide)

end ApiToken.Turns
