import ApiToken.Registry.Lifecycle

/-!
# Exactly-once settlement

However the enqueue, apply, drain and reconcile calls of several processes
interleave, a request is charged and metered at most once; replaying an
intent that is stored or applied is accepted and moves nothing; and a
replay with any other payload is refused.
-/

namespace ApiToken.Registry

variable {s s' : Store} {ts actual : Int} {r : Reservation} {intent : Intent}
  {id : String} {ops : List Op} {disposition : Disposition} {reference : Option String}
  {usage : Option UsageEventInput} {evidence : Option RequestFactTerminalEvidence}

/-! ## At most one row -/

def isChargeOf (id : String) (row : LedgerRow) : Bool :=
  row.kind == .charge && row.requestId == some id

def isUsageOf (id : String) (row : UsageEvent) : Bool :=
  row.requestId == id

/-- At most one row of a kind for each request. -/
structure OneRow (s : Store) : Prop where
  charge : ∀ id, (s.ledger.filter (isChargeOf id)).length ≤ 1
  usage : ∀ id, (s.usageEvents.filter (isUsageOf id)).length ≤ 1

theorem filter_append_le {α : Type} {l : List α} {p : α → Bool} {x : α}
    (h : (l.filter p).length ≤ 1) (hx : p x = true → l.any p = false) :
    ((l ++ [x]).filter p).length ≤ 1 := by
  rw [filter_append, length_append]
  by_cases hp : p x = true
  · have hnil : l.filter p = [] := by
      rw [filter_eq_nil_iff]
      intro a ha hpa
      have hany : l.any p = true := List.any_eq_true.mpr ⟨a, ha, hpa⟩
      rw [hx hp] at hany
      cases hany
    simp [hnil, hp]
  · simpa [hp] using h

theorem meterUsage_cases {requestId : String} {c : AccountCollection} {losing : Bool}
    {usage : List UsageEvent}
    (h : meterUsage s ts requestId r intent c actual losing = .ok usage) :
    (losing = false ∧ intent.usage.model ≠ "" ∧
      s.usageEvents.any (isUsageOf requestId) = false ∧
      usage = s.usageEvents ++ [usageRow r requestId intent c actual ts]) ∨
    usage = s.usageEvents := by
  unfold meterUsage at h
  split at h
  · rename_i hgate
    simp only [guard_iffs, bne_iff_ne, ne_eq] at hgate
    simp only [insertUsage, ok_steps] at h
    obtain ⟨hunique, rfl⟩ := h
    exact Or.inl ⟨hgate.1, hgate.2, hunique, rfl⟩
  · cases h
    exact Or.inr rfl

theorem oneRow_transition (h : OneRow s) (hstep : Transition s s') : OneRow s' := by
  cases hstep with
  | topup _ _ hkind =>
    refine ⟨fun id => filter_append_le (h.charge id) ?_, h.usage⟩
    intro hcharge
    simp [isChargeOf, hkind] at hcharge
  | settle _ _ _ _ _ _ _ _ _ hledger husage =>
    constructor
    · intro id
      rcases chargeLedger_cases hledger with ⟨-, hunique, rfl⟩ | ⟨-, rfl⟩
      · refine filter_append_le (h.charge id) ?_
        intro hcharge
        simp only [isChargeOf, chargeRow, guard_iffs, some.injEq] at hcharge
        obtain ⟨-, rfl⟩ := hcharge
        rw [← hunique]
        congr 1
        funext x
        cases hreq : x.requestId <;> simp [isChargeOf, hreq]
      · exact h.charge id
    · intro id
      rcases meterUsage_cases husage with ⟨-, -, hunique, rfl⟩ | rfl
      · refine filter_append_le (h.usage id) ?_
        intro husageOf
        simp only [isUsageOf, usageRow, beq_iff_eq] at husageOf
        subst husageOf
        exact hunique
      · exact h.usage id
  | owners | admitNew | touch | delivery | enqueue | requeue | confirm | failure => exact ⟨h.charge, h.usage⟩

theorem oneRow_exec (op : Op) (h : OneRow s) : OneRow (exec s op) := by
  rcases exec_cases s op with hpath | ⟨olderThanTs, billed, heq⟩
  · exact reflTransGen_invariant (I := OneRow) (fun _ _ => oneRow_transition) h hpath
  · rw [heq]
    exact ⟨by rw [pruned_ledger]; exact h.charge, by rw [pruned_usageEvents]; exact h.usage⟩

theorem oneRow_run (h : s.Initial) (ops : List Op) : OneRow (run exec s ops) :=
  run_invariant (fun _ op => oneRow_exec op) ⟨by simp [h.ledger], by simp [h.usageEvents]⟩ ops

/-! ## Without a retention pass -/

/-- What retention can undo: a terminal reservation still has its applied
intent, and a settled one was not asked to cancel. -/
structure Unpruned (s : Store) : Prop where
  terminal_done : ∀ id r, s.reservations.find? id = some r →
    r.state.terminal = true →
    ∃ o, s.settlementOutbox.find? id = some o ∧ o.state = .done
  settled_intent : ∀ id r o, s.reservations.find? id = some r →
    s.settlementOutbox.find? id = some o → r.state = .settled →
    o.intent.disposition ≠ .cancel

/-- The rows of other requests are carried over; the rows of this one are
shown. -/
theorem Unpruned.update (h : Unpruned s) (id : String) (hres : ∀ id', id ≠ id' →
      s'.reservations.find? id' = s.reservations.find? id') (hout : ∀ id', id ≠ id' →
      s'.settlementOutbox.find? id' = s.settlementOutbox.find? id')
    (hdone : ∀ r, s'.reservations.find? id = some r → r.state.terminal = true →
      ∃ o, s'.settlementOutbox.find? id = some o ∧ o.state = .done ∧
        (r.state = .settled → o.intent.disposition ≠ .cancel)) :
    Unpruned s' where
  terminal_done := by
    intro id' r hr hterm
    by_cases heq : id = id'
    · subst heq
      obtain ⟨o, ho, hd, -⟩ := hdone r hr hterm
      exact ⟨o, ho, hd⟩
    · rw [hres id' heq] at hr
      rw [hout id' heq]
      exact h.terminal_done id' r hr hterm
  settled_intent := by
    intro id' r o hr ho hsettled
    by_cases heq : id = id'
    · subst heq
      obtain ⟨o', ho', -, hne⟩ := hdone r hr (by rw [hsettled]; rfl)
      rw [ho] at ho'
      cases ho'
      exact hne hsettled
    · rw [hres id' heq] at hr
      rw [hout id' heq] at ho
      exact h.settled_intent id' r o hr ho hsettled

theorem Unpruned.at (h : Unpruned s) (hr : s.reservations.find? id = some r)
    (hterm : r.state.terminal = true) :
    ∃ o, s.settlementOutbox.find? id = some o ∧ o.state = .done ∧
      (r.state = .settled → o.intent.disposition ≠ .cancel) := by
  obtain ⟨o, ho, hd⟩ := h.terminal_done id r hr hterm
  exact ⟨o, ho, hd, h.settled_intent id r o hr ho⟩

theorem unpruned_transition (h : Unpruned s) (hstep : Transition s s') : Unpruned s' := by
  cases hstep with
  | owners | topup | delivery => exact ⟨h.terminal_done, h.settled_intent⟩
  | admitNew =>
    refine h.update _ (fun id' hne => find?_put_ne _ _ hne) (fun _ _ => rfl) ?_
    intro r hr hterm
    rw [find?_put_self] at hr
    cases hr
    cases hterm
  | @touch id r state _ _ _ hr hlive hstate =>
    refine h.update _ (fun id' hne => find?_put_ne _ _ hne) (fun _ _ => rfl) ?_
    intro r' hr' hterm
    rw [find?_put_self] at hr'
    cases hr'
    have hsame : state.terminal = false := by
      rcases hstate with rfl | ⟨-, rfl⟩
      · exact hlive
      · rfl
    exact absurd hterm (by simp [hsame])
  | @enqueue id r intent ts hr hnew _ _ _ _ =>
    refine h.update _ (fun id' hne => find?_put_ne _ _ hne)
      (fun id' hne => find?_put_ne _ _ hne) ?_
    intro r' hr' hterm
    rw [find?_put_self] at hr'
    cases hr'
    rcases markPending_state r intent.actualNano ts with
      ⟨hdone, -⟩ | ⟨-, hstate⟩
    · obtain ⟨o, ho, -⟩ := h.terminal_done _ r hr hdone
      rw [hnew] at ho
      cases ho
    · rw [hstate] at hterm
      cases hterm
  | @requeue id r o ts hr ho =>
    refine h.update _ (fun id' hne => find?_put_ne _ _ hne) (fun _ _ => rfl) ?_
    intro r' hr' hterm
    rw [find?_put_self] at hr'
    cases hr'
    rcases markPending_state r o.intent.actualNano ts with
      ⟨hdone, hsame⟩ | ⟨-, hstate⟩
    · rw [hsame]
      exact h.at hr hdone
    · rw [hstate] at hterm
      cases hterm
  | confirm _ ho =>
    refine h.update _ (fun _ _ => rfl) (fun id' hne => find?_put_ne _ _ hne) ?_
    intro r' hr' hterm
    have hintent := h.settled_intent _ r' _ hr' ho
    exact ⟨_, find?_put_self _ _ _, rfl, hintent⟩
  | settle =>
    refine h.update _ (fun id' hne => find?_put_ne _ _ hne)
      (fun id' hne => find?_put_ne _ _ hne) ?_
    intro r' hr' hterm
    rw [find?_put_self] at hr'
    cases hr'
    refine ⟨_, find?_put_self _ _ _, rfl, ?_⟩
    intro hsettled hcancel
    simp only [Reservation.settle, effectiveCancel, guard_iffs] at hsettled
    rw [if_pos (Or.inr hcancel)] at hsettled
    cases hsettled
  | failure ho hpending =>
    refine h.update _ (fun _ _ => rfl) (fun id' hne => find?_put_ne _ _ hne) ?_
    intro r' hr' hterm
    obtain ⟨o', ho', hdone⟩ := h.terminal_done _ r' hr' hterm
    rw [ho] at ho'
    cases ho'
    exact absurd hdone hpending

/-- No retention pass among the calls. -/
def NoPrune (ops : List Op) : Prop := ∀ op ∈ ops, op.isPrune = false

instance (ops : List Op) : Decidable (NoPrune ops) :=
  inferInstanceAs (Decidable (∀ op ∈ ops, op.isPrune = false))

theorem transitions_run (h : NoPrune ops) : Transitions s (run exec s ops) := by
  induction ops generalizing s with
  | nil => exact .refl
  | cons op _ ih =>
    have hop := h op (mem_cons_self ..)
    exact (exec_transition s op hop).trans (ih fun op' hop' => h op' (mem_cons_of_mem _ hop'))

theorem unpruned_initial (h : s.Initial) : Unpruned s := by
  constructor <;> simp [h.reservations]

theorem unpruned_run (h : s.Initial) (hops : NoPrune ops) : Unpruned (run exec s ops) := by
  refine reflTransGen_invariant (I := Unpruned) (fun _ _ => unpruned_transition)
    (unpruned_initial h) (transitions_run hops)

/-! ## Intents are kept -/

def enqueuedBy (s : Store) : Op → Option (String × Intent)
  | .enqueueSettlement ts id actual reference usage evidence =>
    match enqueueSettlement s ts id actual reference usage evidence with
    | .ok _ => some (id, persistedIntent actual .settle reference usage evidence)
    | .error _ => none
  | .enqueueCancel ts id evidence =>
    match enqueueCancel s ts id evidence with
    | .ok _ => some (id, persistedIntent 0 .cancel none none evidence)
    | .error _ => none
  | .enqueueExpired ts id actual disposition reference evidence =>
    match enqueueOutbox s ts id actual disposition reference none evidence with
    | .ok _ => some (id, persistedIntent actual disposition reference none evidence)
    | .error _ => none
  | _ => none

def Stored (s : Store) (id : String) (intent : Intent) : Prop :=
  ∃ o, s.settlementOutbox.find? id = some o ∧ o.intent = intent

theorem enqueueOutbox_stores {u : Unit}
    (h : enqueueOutbox s ts id actual disposition reference usage evidence = .ok (u, s')) :
    Stored s' id (persistedIntent actual disposition reference usage evidence) := by
  simp only [enqueueOutbox, ok_steps] at h
  obtain ⟨r, -, -, -, -, outbox, hinsert, -, rfl⟩ := h
  unfold insertIntent at hinsert
  split at hinsert
  · cases hinsert
    exact ⟨_, find?_put_self _ _ _, rfl⟩
  · rename_i o ho
    simp only [ok_steps, bailIf_eq_ok, guard_iffs] at hinsert
    obtain ⟨hsame, rfl⟩ := hinsert
    exact ⟨o, ho, hsame⟩

theorem enqueuedBy_stored {op : Op} (h : enqueuedBy s op = some (id, intent)) :
    Stored (exec s op) id intent := by
  cases op <;> simp only [enqueuedBy, reduceCtorEq] at h
  all_goals
    split at h
    · rename_i p hok
      obtain ⟨u, s'⟩ := p
      simp only [some.injEq, Prod.mk.injEq] at h
      obtain ⟨rfl, rfl⟩ := h
      simp only [exec, committed, hok]
      exact enqueueOutbox_stores hok
    · cases h

theorem stored_transition (h : Stored s id intent) (hstep : Transition s s') :
    Stored s' id intent := by
  obtain ⟨o, ho, hintent⟩ := h
  -- the steps that write the outbox keep the payload of the row they write
  have hput : ∀ {id' : String} {o1 o2 : OutboxRow},
      s.settlementOutbox.find? id' = some o1 → o2.intent = o1.intent →
      Stored { s with settlementOutbox := s.settlementOutbox.put id' o2 } id intent := by
    intro id' o1 o2 ho1 hsame
    by_cases heq : id' = id
    · subst heq
      rw [ho] at ho1
      cases ho1
      exact ⟨o2, find?_put_self _ _ _, hsame.trans hintent⟩
    · refine ⟨o, ?_, hintent⟩
      rw [← ho]
      exact find?_put_ne _ _ heq
  cases hstep with
  | @enqueue id' r _ ts _ hnew _ _ _ _ =>
    have hne : id' ≠ id := by
      rintro rfl
      rw [hnew] at ho
      cases ho
    refine ⟨o, ?_, hintent⟩
    rw [← ho]
    exact find?_put_ne _ _ hne
  | confirm _ ho1 | settle _ ho1 | failure ho1 => exact hput ho1 rfl
  | owners | topup | admitNew | touch | delivery | requeue => exact ⟨o, ho, hintent⟩

/-! ## Replays -/

def SameMoney (s s' : Store) : Prop :=
  s'.accounts = s.accounts ∧ s'.apiKeys = s.apiKeys ∧ s'.ledger = s.ledger ∧
    s'.usageEvents = s.usageEvents

theorem enqueueOutbox_replay (h : Sound s) (hstored : Stored s id
      (persistedIntent actual disposition reference usage evidence)) :
    ∃ s', enqueueOutbox s ts id actual disposition reference usage evidence
      = .ok ((), s') ∧ SameMoney s s' := by
  obtain ⟨o, ho, hintent⟩ := hstored
  obtain ⟨r, hr⟩ := (h.lifecycle id).outbox_reservation o ho
  have hevidence : validateEvidence s id evidence = .ok () := by
    have := (h.lifecycle id).evidence o ho
    rwa [hintent] at this
  have hbasis := (h.lifecycle id).basis o ho
  have hactual : (r.state.terminal && r.actualNano.isNone) = false := by
    cases hterm : r.state.terminal with
    | false => rfl
    | true =>
      obtain ⟨a, _, _, ha, -⟩ := h.money.split id r hr hterm
      simp [ha]
  refine ⟨{ s with reservations := s.reservations.put id (r.markPending
    (persistedIntent actual disposition reference usage evidence).actualNano
      ts) }, ?_, rfl, rfl, rfl, rfl⟩
  rw [hintent] at hbasis
  simp only [enqueueOutbox, bind_eq_ok, exists_unit, pure_eq_ok, orFail_eq_ok,
    bailIf_eq_ok, failIf_eq_ok, insertIntent, ho, hintent]
  exact ⟨r, hr, hevidence, hactual, hbasis, _, ⟨by simp, rfl⟩, rfl⟩

theorem enqueueOutbox_conflict (hstored : Stored s id intent)
    (hne : persistedIntent actual disposition reference usage evidence ≠ intent) :
    ∃ e, enqueueOutbox s ts id actual disposition reference usage evidence = .error e := by
  obtain ⟨o, ho, rfl⟩ := hstored
  cases h : enqueueOutbox s ts id actual disposition reference usage evidence with
  | error e => exact ⟨e, rfl⟩
  | ok =>
    exfalso
    simp only [enqueueOutbox, ok_steps, insertIntent, ho, bailIf_eq_ok, guard_iffs] at h
    obtain ⟨r, -, -, -, -, outbox, ⟨hsame, -⟩, -⟩ := h
    exact hne hsame.symm

theorem processOutboxRequest_replay (ts : Int) {o : OutboxRow}
    (ho : s.settlementOutbox.find? id = some o) (hr : s.reservations.find? id = some r)
    (hc : Committed s id o r)
    (hevidence : validateEvidence s id o.intent.terminal = .ok ()) :
    ∃ s', processOutboxRequest s ts id
        = .ok ((s.accounts.find? r.accountId).map (·.balanceNano), s') ∧
      SameMoney s s' ∧ s'.reservations = s.reservations ∧
      s'.settlementOutbox = s.settlementOutbox.put id
        { o with state := .done, committedTs := some (o.committedTs.getD ts),
                 updatedTs := ts } ∧
      s'.executionGroupWinner = s.executionGroupWinner ∧
      s'.requestFacts = s.requestFacts := by
  have hfacts : finalizeTerminal s id o.intent.terminal
      (settledOutcome s id o r) = .ok s.requestFacts := by
    unfold finalizeTerminal
    split
    · rename_i e fact he hfact
      have hvalid : e.validateWithDelivery fact.admission.admittedAt
          fact.deliveryStartedAt = .ok () := by
        simpa [validateEvidence, he, factLifecycle, hfact] using hevidence
      simp only [ok_steps, hc.fact fact e hfact he, bailIf_eq_ok]
      exact ⟨hvalid, by simp⟩
    · rfl
  refine ⟨{ s with
    settlementOutbox := s.settlementOutbox.put id
      { o with state := .done, committedTs := some (o.committedTs.getD ts),
               updatedTs := ts } },
    ?_, ⟨rfl, rfl, rfl, rfl⟩, rfl, rfl, rfl, rfl⟩
  simp only [processOutboxRequest, ho, hr, bind_eq_ok, exists_unit,
    hc.terminal, or_true, if_true, confirmSettled, bailIf_eq_ok, pure_eq_ok]
  have hactual := hc.actual
  have hsplit := hc.split
  simp only [settledOutcome, effectiveActual] at hfacts hactual hsplit
  exact ⟨hevidence, by simp [hactual], hc.pin, by simp [hsplit], s.requestFacts, hfacts, rfl⟩

/-- The request moves money at most once. In every state that the calls of
any number of processes reach (before retention removes lifecycle rows):
there is at most one charge row and one usage row for it; an intent that an
earlier call stored is still the stored one, an exact replay of it is
accepted, and so is processing it again once it is applied, with no money
or metering row changed; and a call with any other payload fails and
changes nothing. -/
theorem exactly_once_charge (s₀ : Store) (h₀ : s₀.Initial) (ops : List Op)
    (hops : NoPrune ops) (id : String) :
    let s := run exec s₀ ops
    ((s.ledger.filter (isChargeOf id)).length ≤ 1 ∧
      (s.usageEvents.filter (isUsageOf id)).length ≤ 1) ∧
    (∀ ops₁ op ops₂ intent, ops = ops₁ ++ op :: ops₂ →
      enqueuedBy (run exec s₀ ops₁) op = some (id, intent) →
      Stored s id intent) ∧
    (∀ intent, Stored s id intent →
      ∀ ts actual disposition reference usage evidence,
        (persistedIntent actual disposition reference usage evidence = intent →
          ∃ s', enqueueOutbox s ts id actual disposition reference usage
            evidence = .ok ((), s') ∧ SameMoney s s') ∧
        (persistedIntent actual disposition reference usage evidence ≠ intent →
          (∃ e, enqueueOutbox s ts id actual disposition reference usage evidence = .error e) ∧
          committed s (enqueueOutbox s ts id actual disposition reference usage evidence) = s)) ∧
    (∀ r ts, s.reservations.find? id = some r → r.state.terminal = true →
      ∃ b s', processOutboxRequest s ts id = .ok (b, s') ∧ SameMoney s s') := by
  have hsound := sound_run h₀ ops
  have hrow := oneRow_run h₀ ops
  have hunpruned := unpruned_run h₀ hops
  refine ⟨⟨hrow.charge id, hrow.usage id⟩, ?_, ?_, ?_⟩
  · intro ops₁ op ops₂ intent hsplit henq
    have hprune₂ : NoPrune ops₂ := fun op' hmem => hops op' (by rw [hsplit]; simp [hmem])
    rw [hsplit, run_append, run_cons]
    exact reflTransGen_invariant (I := fun t => Stored t id intent)
      (fun _ _ => stored_transition) (enqueuedBy_stored henq)
      (transitions_run hprune₂)
  · intro intent hstored ts actual disposition reference usage evidence
    constructor
    · rintro rfl
      exact enqueueOutbox_replay hsound hstored
    · intro hne
      obtain ⟨e, he⟩ := enqueueOutbox_conflict hstored hne
      exact ⟨⟨e, he⟩, by rw [he]; rfl⟩
  · intro r ts hr hterm
    obtain ⟨o, ho, hdone⟩ := hunpruned.terminal_done id r hr hterm
    have hc := (hsound.lifecycle id).done_committed o r ho hr hdone
    obtain ⟨s', hprocess, hmoney, -⟩ := processOutboxRequest_replay ts ho hr hc
      ((hsound.lifecycle id).evidence o ho)
    exact ⟨_, s', hprocess, hmoney⟩

def settledTwice : List Op :=
  [.claimInstance 1000 "engine" 60,
   .accountTopup 1000 "acct" 5000000000 (some "stripe:1"),
   .reserve (fun _ => 1000) 1000 { instanceId := "engine", epoch := 1 } "req"
     "acct" "key" 0 60 .direct none none,
   .enqueueSettlement 1001 "req" 700 none none none,
   .processOutboxRequest 1002 "req",
   .enqueueSettlement 1003 "req" 700 none none none,
   .processOutboxRequest 1004 "req"]

/-- The settlement is enqueued and processed twice. -/
theorem exactly_once_charge_settledTwice :
    NoPrune settledTwice ∧
    ((run exec soloStore settledTwice).ledger.filter (isChargeOf "req")).length ≤ 1 ∧
    ∃ b s', processOutboxRequest (run exec soloStore settledTwice) 1005 "req"
      = .ok (b, s') ∧ SameMoney (run exec soloStore settledTwice) s' := by
  have h := exactly_once_charge soloStore soloStore_initial settledTwice (by decide) "req"
  exact ⟨by decide, h.1.1, h.2.2.2 _ 1005 rfl rfl⟩

end ApiToken.Registry
