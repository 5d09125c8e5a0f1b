import ApiToken.Registry.ZeroHold

/-!
# Recovery at the checkpoint

A worker checkpoints what a delivery has measured so far. When it dies, the
reconciler stores an intent for its delivering reservations, of an amount
that it takes from the checkpoint and the hold; whoever processes the intent
bills that amount, unless the group is another's.
-/

namespace ApiToken.Registry

def recoveredIntent (s : Store) (ts : Int) (chargeHoldOnUnknownUsage : Bool) (id : String)
    (r : Reservation) : Intent :=
  persistedIntent (expiredDeliveryCharge r chargeHoldOnUnknownUsage) .reconcileFullHold
    (some "expired-delivery") none
    (if (s.requestFacts.find? id).isSome then some (synthesizedTerminal ts r.state) else none)

def Billed (s : Store) (id : String) (amount : Int) : Prop :=
  ∃ r, s.reservations.find? id = some r ∧ r.state.terminal = true ∧ r.actualNano = some amount

theorem Billed.inj {s : Store} {id : String} {x y : Int} (h : Billed s id x)
    (h' : Billed s id y) : x = y := by
  obtain ⟨r, hr, -, hx⟩ := h
  obtain ⟨r', hr', -, hy⟩ := h'
  rw [hr, some.injEq] at hr'
  subst hr'
  rw [hx, some.injEq] at hy
  exact hy

section Recovery

variable {s s' s₀ : Store} {ts : Int} {id : String} {r : Reservation} {charge : Bool}

theorem stored_transitions {intent : Intent} (h : Stored s id intent)
    (hpath : Transitions s s') : Stored s' id intent :=
  reflTransGen_invariant (I := fun s => Stored s id intent) (fun _ _ => stored_transition) h hpath

theorem reconcileRows_stores {now : Nat → Int} {rows : List (String × Reservation)}
    {report report' : ReconcileReport} {k : Nat} (hrow : (id, r) ∈ rows)
    (hdelivering : r.state = .delivering)
    (h : reconcileRows s₀ ts charge now s report k rows = (.ok report', s')) :
    Stored s' id (recoveredIntent s₀ ts charge id r) := by
  induction rows generalizing s report k with
  | nil => cases hrow
  | cons x rows ih =>
    obtain ⟨id', r'⟩ := x
    unfold reconcileRows at h
    rcases mem_cons.mp hrow with heq | hrow
    · obtain ⟨rfl, rfl⟩ := Prod.mk.inj heq
      simp only [reconcileIntent, hdelivering] at h
      split at h
      · cases h
      · rename_i u s1 henqueue
        have hrest := reconcileRows_transition s₀ ts charge now rows s1
          (report.count .reconcileFullHold) (k + 1)
        rw [h] at hrest
        have hstored := enqueueOutbox_stores henqueue
        rw [← hdelivering] at hstored
        exact stored_transitions hstored hrest
    · split at h
      · exact ih hrow h
      · split at h
        · cases h
        · exact ih hrow h

theorem reconcileExpired_stores {now drainNow : Nat → Int} {drainTs : Int} {limit : Nat}
    {report : ReconcileReport} (hrow : (id, r) ∈ expiredReservations s ts limit)
    (hdelivering : r.state = .delivering)
    (h : reconcileExpired s ts now drainTs drainNow limit charge = (.ok report, s')) :
    Stored s' id (recoveredIntent s ts charge id r) := by
  unfold reconcileExpired at h
  split at h
  · cases h
  · rename_i report1 s1 hloop
    cases h
    exact stored_transitions (reconcileRows_stores hrow hdelivering hloop)
      (drainRequests_transition drainNow _ s1 0)

theorem processOutboxRequest_bills (hsound : Sound s) {o : OutboxRow} {b : Option Int}
    (ho : s.settlementOutbox.find? id = some o) (hr : s.reservations.find? id = some r)
    (h : processOutboxRequest s ts id = .ok (b, s')) :
    Billed s' id (effectiveActual s id o r) := by
  simp only [processOutboxRequest, ho, hr, ok_steps] at h
  obtain ⟨-, h⟩ := h
  split at h
  · rename_i hdone
    have hterminal : r.state.terminal = true := by
      rcases hdone with hdone | hterm
      · exact ((hsound.lifecycle id).done_committed o r ho hr hdone).terminal
      · exact hterm
    simp only [confirmSettled, ok_steps, bailIf_eq_ok, guard_iffs] at h
    obtain ⟨hactual, -, -, facts, -, -, rfl⟩ := h
    exact ⟨r, hr, hterminal, hactual⟩
  · obtain ⟨_, c, -, -, -, -, hsettled⟩ := applySettlement_eq h
    refine ⟨_, hsettled, ?_, rfl⟩
    unfold Reservation.settle
    dsimp only
    split <;> rfl

theorem effectiveActual_measured {o : OutboxRow} {r' : Reservation} {m : Int} (hm : 0 ≤ m)
    (hmeasured : r.measuredNano = some m)
    (hintent : o.intent = recoveredIntent s₀ ts charge id r)
    (hgroup : r'.groupId = r.groupId) :
    effectiveActual s id o r' = m ↔
      m = 0 ∨ m ≤ r.holdNano ∧ isLosingAttempt s id (r.effectiveGroupId id) m = false := by
  have hamount : o.intent.actualNano = max 0 (min m r.holdNano) := by
    rw [hintent]
    simp only [recoveredIntent, persistedIntent, expiredDeliveryCharge, hmeasured]
    omega
  have hsame : r'.effectiveGroupId id = r.effectiveGroupId id := by
    rw [Reservation.effectiveGroupId, hgroup]
    rfl
  unfold effectiveActual
  rw [hsame, hamount]
  rcases Int.lt_or_le r.holdNano m with hover | hwithin
  · -- past the hold, less than the checkpoint is billed
    constructor
    · intro h
      left
      split at h <;> omega
    · rintro (rfl | ⟨hle, -⟩)
      · have hnone : max 0 (min 0 r.holdNano) = 0 := by omega
        rw [hnone, ite_self]
      · omega
  · have hall : max 0 (min m r.holdNano) = m := by omega
    rw [hall]
    cases hlosing : isLosingAttempt s id (r.effectiveGroupId id) m with
    | false => simp [hwithin]
    | true => simp [eq_comm]

end Recovery

/-- In every run: a delivery interrupted at a checkpoint is billed exactly the
checkpoint, by whoever processes its intent and whatever happens until then,
exactly when the checkpoint is within the hold that admission stored and the
group is not another's. An intent that is still pending commits as soon as
its checks pass and the account collects. -/
theorem recovery_bills_checkpoint_iff (s₀ : Store) (h₀ : s₀.Initial) (ops : List Op)
    (id : String) (r : Reservation) (m : Int)
    (hr : (run exec s₀ ops).reservations.find? id = some r)
    (hdelivering : r.state = .delivering) (hmeasured : r.measuredNano = some m)
    (hm : 0 ≤ m) (ts drainTs : Int) (now drainNow : Nat → Int) (limit : Nat) (charge : Bool)
    (hexpired : (id, r) ∈ expiredReservations (run exec s₀ ops) ts limit)
    (report : ReconcileReport) (s₁ : Store)
    (hreconcile : reconcileExpired (run exec s₀ ops) ts now drainTs drainNow limit charge
      = (.ok report, s₁)) (later : List Op) (hlater : NoPrune later) :
    (∀ ts' b s₂, processOutboxRequest (run exec s₁ later) ts' id = .ok (b, s₂) →
      (Billed s₂ id m ↔
        m = 0 ∨ m ≤ r.holdNano ∧ isLosingAttempt (run exec s₁ later) id
          (r.effectiveGroupId id) m = false)) ∧
    ∃ o r', (run exec s₁ later).settlementOutbox.find? id = some o ∧
      (run exec s₁ later).reservations.find? id = some r' ∧
      (o.state ≠ .done → r'.state.terminal = false → ∀ ts',
        ((∃ x, processOutboxRequest (run exec s₁ later) ts' id = .ok x) ↔
          Appliable (run exec s₁ later) id o r' ∧
            ∃ a c, (run exec s₁ later).accounts.find? r'.accountId = some a ∧
              collectAccount a r'.holdNano
                (effectiveActual (run exec s₁ later) id o r') = .ok c)) := by
  have hsteps := reconcileExpired_transition (run exec s₀ ops) ts now drainTs drainNow
    limit charge
  rw [hreconcile] at hsteps
  have hpath := hsteps.trans (transitions_run hlater)
  have hsound : Sound (run exec s₁ later) := reflTransGen_invariant (I := Sound)
    (fun _ _ => sound_transition) (sound_run h₀ ops) hpath
  obtain ⟨o, ho, hintent⟩ := stored_transitions
    (reconcileExpired_stores hexpired hdelivering hreconcile) (transitions_run hlater)
  obtain ⟨r', hr', hgroup⟩ : ∃ r', (run exec s₁ later).reservations.find? id = some r' ∧
      r'.groupId = r.groupId := by
    refine reflTransGen_invariant (I := fun s : Store => ∃ r',
      s.reservations.find? id = some r' ∧ r'.groupId = r.groupId) ?_ ⟨r, hr, rfl⟩ hpath
    rintro s s' ⟨r₁, hr₁, hgroup₁⟩ hstep
    obtain ⟨r₂, hr₂, hgroup₂, -⟩ := reservation_transition hr₁ hstep
    exact ⟨r₂, hr₂, hgroup₂.trans hgroup₁⟩
  refine ⟨fun ts' b s₂ hprocess => ?_, o, r', ho, hr', fun hpending hlive ts' => ?_⟩
  · have hbilled := processOutboxRequest_bills hsound ho hr' hprocess
    rw [← effectiveActual_measured hm hmeasured hintent hgroup]
    constructor
    · exact fun h => hbilled.inj h
    · exact fun h => h ▸ hbilled
  · rw [← @applySettlement_iff _ ts']
    simp only [processOutboxRequest_pending ho hr' hpending hlive]
    exact exists_and_left

def interruptedRun (hold : Int) : List Op :=
  [.claimInstance 1000 "engine" 60,
   .accountTopup 1000 "acct" 1000000000 none,
   .reserve (fun _ => 1000) 1000 { instanceId := "engine", epoch := 1 } "req"
     "acct" "key" hold 60 .direct none none,
   .markDelivering 1001 { instanceId := "engine", epoch := 1 } "req" 60 false,
   .checkpointMeasured 1002 { instanceId := "engine", epoch := 1 } "req" 700]

def reconciled (hold : Int) : Except Error ReconcileReport × Store :=
  reconcileExpired (run exec soloStore (interruptedRun hold)) 2000 (fun _ => 2000) 2001
    (fun _ => 2001) 10 false

/-- Without a hold, which is what a new admission stores, the recovery bills
nothing. -/
theorem unheld_checkpoint_unbilled :
    ((run exec soloStore (interruptedRun 0)).reservations.find? "req").map
        (fun r => (r.state, r.measuredNano, r.holdNano)) = some (.delivering, some 700, 0) ∧
      (reconciled 0).1.isOk = true ∧
      Billed (reconciled 0).2 "req" 0 ∧ ¬ Billed (reconciled 0).2 "req" 700 := by
  have hzero : Billed (reconciled 0).2 "req" 0 := ⟨_, rfl, by decide +kernel, rfl⟩
  refine ⟨by decide +kernel, by decide +kernel, hzero, fun h => ?_⟩
  exact absurd (hzero.inj h) (by decide)

/-- Under a hold of a thousand, a replay of the recovered intent confirms the
checkpoint. -/
theorem held_checkpoint_billed : ∃ b s₂,
    processOutboxRequest (reconciled 1000).2 2002 "req" = .ok (b, s₂) ∧ Billed s₂ "req" 700 := by
  have hok : ∃ report, reconciled 1000 = (.ok report, (reconciled 1000).2) := ⟨_, rfl⟩
  obtain ⟨report, hreport⟩ := hok
  refine ⟨_, _, rfl, ?_⟩
  refine ((recovery_bills_checkpoint_iff soloStore soloStore_initial (interruptedRun 1000)
    "req" _ 700 rfl rfl rfl (by decide) 2000 2001 (fun _ => 2000) (fun _ => 2001) 10 false
    ?_ report _ hreport [] (by decide)).1 2002 _ _ rfl).mpr
    (.inr ⟨by decide +kernel, by decide +kernel⟩)
  decide +kernel

end ApiToken.Registry
