import ApiToken.Registry.Conservation

/-!
# The settlement lifecycle

What ties an outbox row to its reservation, its group's winner and its
request fact in every reachable state, retention passes included. The
central notion is `Committed`: everything that `process_outbox_request`
compares when a finished request is replayed. It is established by the
transaction that moves the money and never lost while the outbox row
exists.
-/

namespace ApiToken.Registry

variable {group : String} {actual ts : Int} {o' : OutboxRow}
  {e : Option RequestFactTerminalEvidence} {facts : Table String RequestFact}
  {winners : Table String GroupWinner} {account : Account} {c : AccountCollection}

def settledOutcome (s : Store) (requestId : String) (o : OutboxRow)
    (r : Reservation) : BillingOutcome :=
  billingOutcome
    (isLosingAttempt s requestId (r.effectiveGroupId requestId) o.intent.actualNano)
    o.intent.disposition (r.state == .canceled) (effectiveActual s requestId o r)

/-- What a processed intent has left of its request. -/
structure Committed (s : Store) (requestId : String) (o : OutboxRow)
    (r : Reservation) : Prop where
  terminal : r.state.terminal = true
  actual : r.actualNano = some (effectiveActual s requestId o r)
  pin : checkPricingPin r.pricing o.intent = .ok ()
  split : collectionConsistent r (effectiveActual s requestId o r) = true
  /-- A fact that is still stored carries this outcome. -/
  fact : ∀ f e, s.requestFacts.find? requestId = some f →
    o.intent.terminal = some e →
    f.terminal = some (e, settledOutcome s requestId o r)
  /-- The group of a positive amount has been decided. -/
  winner : 0 < o.intent.actualNano →
    ∃ w, s.executionGroupWinner.find? (r.effectiveGroupId requestId) = some w

/-- How the rows of one request fit together. -/
structure LifecycleAt (s : Store) (id : String) : Prop where
  /-- The foreign key of the outbox. -/
  outbox_reservation : ∀ o, s.settlementOutbox.find? id = some o →
    ∃ r, s.reservations.find? id = some r
  /-- A reservation that can still be delivered has no intent. -/
  open_no_outbox : ∀ r, s.reservations.find? id = some r →
    r.state = .reserved ∨ r.state = .delivering →
    s.settlementOutbox.find? id = none
  done_committed : ∀ o r, s.settlementOutbox.find? id = some o →
    s.reservations.find? id = some r → o.state = .done → Committed s id o r
  /-- Stored evidence stays valid against whatever fact is left. -/
  evidence : ∀ o, s.settlementOutbox.find? id = some o →
    validateEvidence s id o.intent.terminal = .ok ()
  basis : ∀ o, s.settlementOutbox.find? id = some o →
    o.intent.chargeBasisNano.any (· < 0) = false
  /-- A request that was billed is its group's winner. -/
  paid_winner : ∀ r actual, s.reservations.find? id = some r →
    r.state.terminal = true → r.actualNano = some actual → 0 < actual →
    ∃ w, s.executionGroupWinner.find? (r.effectiveGroupId id) = some w ∧
      w.winnerRequestId = id

def Lifecycle (s : Store) : Prop := ∀ id, LifecycleAt s id

/-! ## Reads of the winner and the fact -/

section Reads

variable {s s' : Store} {id : String} {o : OutboxRow} {r : Reservation}

theorem isLosingAttempt_congr (h : 0 < actual → s'.executionGroupWinner.find? group
      = s.executionGroupWinner.find? group) :
    isLosingAttempt s' id group actual = isLosingAttempt s id group actual := by
  unfold isLosingAttempt
  by_cases hpos : 0 < actual
  · rw [h hpos]
  · simp [hpos]

theorem effectiveActual_congr (h : 0 < o.intent.actualNano →
      s'.executionGroupWinner.find? (r.effectiveGroupId id)
        = s.executionGroupWinner.find? (r.effectiveGroupId id)) :
    effectiveActual s' id o r = effectiveActual s id o r := by
  unfold effectiveActual
  rw [isLosingAttempt_congr h]

theorem settledOutcome_congr (h : 0 < o.intent.actualNano →
      s'.executionGroupWinner.find? (r.effectiveGroupId id)
        = s.executionGroupWinner.find? (r.effectiveGroupId id)) :
    settledOutcome s' id o r = settledOutcome s id o r := by
  unfold settledOutcome
  rw [isLosingAttempt_congr h, effectiveActual_congr h]

theorem Committed.transport (h : Committed s id o r)
    (hwinner : ∀ w, s.executionGroupWinner.find? (r.effectiveGroupId id)
      = some w →
      s'.executionGroupWinner.find? (r.effectiveGroupId id) = some w)
    (hfact : ∀ f, s'.requestFacts.find? id = some f →
      s.requestFacts.find? id = some f) : Committed s' id o r := by
  have hsame : 0 < o.intent.actualNano →
      s'.executionGroupWinner.find? (r.effectiveGroupId id)
        = s.executionGroupWinner.find? (r.effectiveGroupId id) := by
    intro hpos
    obtain ⟨w, hw⟩ := h.winner hpos
    rw [hw, hwinner w hw]
  constructor
  · exact h.terminal
  · rw [effectiveActual_congr hsame]; exact h.actual
  · exact h.pin
  · rw [effectiveActual_congr hsame]; exact h.split
  · intro f e hf he
    rw [settledOutcome_congr hsame]
    exact h.fact f e (hfact f hf) he
  · intro hpos
    obtain ⟨w, hw⟩ := h.winner hpos
    exact ⟨w, hwinner w hw⟩

theorem Committed.of_intent (h : Committed s id o r) (hintent : o'.intent = o.intent) :
    Committed s id o' r := by
  have hlosing : isLosingAttempt s id (r.effectiveGroupId id)
      o'.intent.actualNano = isLosingAttempt s id (r.effectiveGroupId id)
        o.intent.actualNano := by rw [hintent]
  have heffective : effectiveActual s id o' r = effectiveActual s id o r := by
    unfold effectiveActual
    rw [hlosing, hintent]
  have houtcome : settledOutcome s id o' r = settledOutcome s id o r := by
    unfold settledOutcome
    rw [hlosing, heffective, hintent]
  exact
    { terminal := h.terminal
      actual := by rw [heffective]; exact h.actual
      pin := by rw [hintent]; exact h.pin
      split := by rw [heffective]; exact h.split
      fact := by rw [houtcome, hintent]; exact h.fact
      winner := by rw [hintent]; exact h.winner }

theorem validateEvidence_congr (h : factLifecycle s' id = factLifecycle s id) :
    validateEvidence s' id e = validateEvidence s id e := by
  unfold validateEvidence
  rw [h]

theorem validateEvidence_forget (hfact : ∀ f, s'.requestFacts.find? id = some f →
      s.requestFacts.find? id = some f) (h : validateEvidence s id e = .ok ()) :
    validateEvidence s' id e = .ok () := by
  cases e with
  | none => rfl
  | some =>
    unfold validateEvidence at h ⊢
    cases hf : s'.requestFacts.find? id with
    | none =>
      have hnone : factLifecycle s' id = (0, none) := by simp [factLifecycle, hf]
      rw [hnone]
      exact validateWithDelivery_forget h
    | some f =>
      have hsame : factLifecycle s' id = factLifecycle s id := by
        simp [factLifecycle, hf, hfact f hf]
      rw [hsame]
      exact h

theorem finalizeTerminal_facts {evidence : Option RequestFactTerminalEvidence}
    {outcome : BillingOutcome} (h : finalizeTerminal s id evidence outcome = .ok facts) :
    (∀ id', id ≠ id' → facts.find? id' = s.requestFacts.find? id') ∧
      (∀ f e, facts.find? id = some f → evidence = some e → f.terminal = some (e, outcome)) ∧
      (∀ s' : Store, s'.requestFacts = facts → factLifecycle s' id = factLifecycle s id) := by
  unfold finalizeTerminal at h
  split at h
  · rename_i e fact hfact
    simp only [ok_steps] at h
    obtain ⟨-, h⟩ := h
    split at h
    · simp only [pure_eq_ok] at h
      subst h
      refine ⟨fun id' hne => find?_put_ne _ _ hne, ?_, ?_⟩
      · intro f e' hf he
        cases he
        rw [find?_put_self] at hf
        cases hf
        rfl
      · intro s' hs'
        simp [factLifecycle, hs', hfact]
    · rename_i stored hstored
      simp only [ok_steps, bailIf_eq_ok, guard_iffs] at h
      obtain ⟨hsame, rfl⟩ := h
      refine ⟨fun _ _ => rfl, ?_, fun s' hs' => by simp [factLifecycle, hs']⟩
      intro f e' hf he
      cases he
      rw [hfact] at hf
      cases hf
      rw [hstored, hsame]
  · rename_i hnone
    cases h
    refine ⟨fun _ _ => rfl, ?_, fun s' hs' => by simp [factLifecycle, hs']⟩
    intro f e hf he
    exact absurd hf (hnone e f he)

theorem electWinner_keeps (h : electWinner s ts id group actual = .ok winners) :
    (∀ g w, s.executionGroupWinner.find? g = some w →
      winners.find? g = some w) ∧
      (0 < actual → ∃ w, winners.find? group = some w ∧
        (isLosingAttempt s id group actual = false → w.winnerRequestId = id)) := by
  unfold electWinner at h
  split at h
  · rename_i hpos
    simp only [ok_steps] at h
    obtain ⟨-, rfl⟩ := h
    cases hw : s.executionGroupWinner.find? group with
    | none =>
      refine ⟨?_, fun _ => ⟨_, find?_put_self _ _ _, fun _ => rfl⟩⟩
      intro g w hg
      have hne : group ≠ g := by
        rintro rfl
        rw [hw] at hg
        cases hg
      rw [find?_put_ne _ _ hne]
      exact hg
    | some w =>
      refine ⟨fun g w' hg => hg, fun _ => ⟨w, hw, ?_⟩⟩
      simp [isLosingAttempt, hpos, hw]
  · rename_i hzero
    cases h
    exact ⟨fun g w hg => hg, fun hpos => absurd hpos hzero⟩

end Reads

/-! ## Each transition keeps the lifecycle -/

section Preservation

variable {s s' : Store} {id : String}

/-- The rows of a request that a transition does not touch: decided groups
stay decided and the lookups are the same. -/
theorem LifecycleAt.congr (h : LifecycleAt s id)
    (hres : s'.reservations.find? id = s.reservations.find? id)
    (hout : s'.settlementOutbox.find? id = s.settlementOutbox.find? id)
    (hfact : s'.requestFacts.find? id = s.requestFacts.find? id)
    (hwinner : ∀ g w, s.executionGroupWinner.find? g = some w →
      s'.executionGroupWinner.find? g = some w) : LifecycleAt s' id where
  outbox_reservation := by rw [hres, hout]; exact h.outbox_reservation
  open_no_outbox := by rw [hres, hout]; exact h.open_no_outbox
  done_committed := by
    rw [hres, hout]
    intro o r ho hr hdone
    refine (h.done_committed o r ho hr hdone).transport (fun w hw => hwinner _ w hw) ?_
    intro f hf
    rwa [hfact] at hf
  evidence := by
    rw [hout]
    intro o ho
    have hsame : factLifecycle s' id = factLifecycle s id := by simp [factLifecycle, hfact]
    rw [validateEvidence_congr hsame]
    exact h.evidence o ho
  basis := by rw [hout]; exact h.basis
  paid_winner := by
    rw [hres]
    intro r actual hr hterm hactual hpos
    obtain ⟨w, hw, hid⟩ := h.paid_winner r actual hr hterm hactual hpos
    exact ⟨w, hwinner _ w hw, hid⟩

theorem Lifecycle.update (h : Lifecycle s) (id : String) (hres : ∀ id', id ≠ id' →
      s'.reservations.find? id' = s.reservations.find? id') (hout : ∀ id', id ≠ id' →
      s'.settlementOutbox.find? id' = s.settlementOutbox.find? id')
    (hfact : ∀ id', id ≠ id' → s'.requestFacts.find? id' = s.requestFacts.find? id')
    (hwinner : ∀ g w, s.executionGroupWinner.find? g = some w →
      s'.executionGroupWinner.find? g = some w)
    (hat : LifecycleAt s' id) : Lifecycle s' := by
  intro id'
  by_cases heq : id = id'
  · exact heq ▸ hat
  · exact (h id').congr (hres id' heq) (hout id' heq) (hfact id' heq) hwinner

variable {r : Reservation} {o : OutboxRow}

theorem LifecycleAt.open (hr : s.reservations.find? id = some r)
    (hout : s.settlementOutbox.find? id = none) (hlive : r.state.terminal = false) :
    LifecycleAt s id where
  outbox_reservation := by simp [hout]
  open_no_outbox := fun _ _ _ => hout
  done_committed := by simp [hout]
  evidence := by simp [hout]
  basis := by simp [hout]
  paid_winner := by
    intro r' actual hr' hterm
    rw [hr] at hr'
    cases hr'
    rw [hlive] at hterm
    cases hterm

theorem outbox_none_of_reservation_none (h : Lifecycle s)
    (hnone : s.reservations.find? id = none) : s.settlementOutbox.find? id = none := by
  cases ho : s.settlementOutbox.find? id with
  | none => rfl
  | some o =>
    obtain ⟨r, hr⟩ := (h id).outbox_reservation o ho
    rw [hnone] at hr
    cases hr

theorem AdmittedFacts.other {id' : String} (h : AdmittedFacts s id facts) (hne : id ≠ id') :
    facts.find? id' = s.requestFacts.find? id' := by
  cases h with
  | same => rfl
  | new => exact find?_put_ne _ _ hne

/-- Marking a reservation pending changes its state only to
`settlement_pending`, and a terminal one not at all. -/
theorem markPending_state (r : Reservation) (actual ts : Int) :
    (r.state.terminal = true ∧ r.markPending actual ts = r) ∨
      (r.state.terminal = false ∧ (r.markPending actual ts).state = .settlementPending) := by
  unfold Reservation.markPending
  cases hterm : r.state.terminal with
  | true | false => simp

theorem LifecycleAt.stored (hr : s.reservations.find? id = some r)
    (ho : s.settlementOutbox.find? id = some o)
    (hstate : r.state ≠ .reserved ∧ r.state ≠ .delivering)
    (hdone : o.state = .done → Committed s id o r)
    (hevidence : validateEvidence s id o.intent.terminal = .ok ())
    (hbasis : o.intent.chargeBasisNano.any (· < 0) = false)
    (hpaid : ∀ actual, r.state.terminal = true → r.actualNano = some actual →
      0 < actual →
      ∃ w, s.executionGroupWinner.find? (r.effectiveGroupId id) = some w ∧
        w.winnerRequestId = id) : LifecycleAt s id where
  outbox_reservation := fun _ _ => ⟨r, hr⟩
  open_no_outbox := by
    intro r' hr' hopen
    rw [hr] at hr'
    cases hr'
    rcases hopen with hs | hs
    · exact absurd hs hstate.1
    · exact absurd hs hstate.2
  done_committed := by
    intro o' r' ho' hr'
    rw [ho] at ho'
    rw [hr] at hr'
    cases ho'
    cases hr'
    exact hdone
  evidence := by
    intro o' ho'
    rw [ho] at ho'
    cases ho'
    exact hevidence
  basis := by
    intro o' ho'
    rw [ho] at ho'
    cases ho'
    exact hbasis
  paid_winner := by
    intro r' actual hr'
    rw [hr] at hr'
    cases hr'
    exact hpaid actual

theorem Committed.not_open (h : Committed s id o r) :
    r.state ≠ .reserved ∧ r.state ≠ .delivering := by
  have hterm := h.terminal
  constructor <;> intro hs <;> rw [hs] at hterm <;> cases hterm

theorem LifecycleAt.committed (hr : s.reservations.find? id = some r)
    (ho : s.settlementOutbox.find? id = some o) (hcommitted : Committed s id o r)
    (hevidence : validateEvidence s id o.intent.terminal = .ok ())
    (hbasis : o.intent.chargeBasisNano.any (· < 0) = false)
    (hpaid : ∀ actual, r.actualNano = some actual → 0 < actual →
      ∃ w, s.executionGroupWinner.find? (r.effectiveGroupId id) = some w ∧
        w.winnerRequestId = id) : LifecycleAt s id :=
  .stored hr ho hcommitted.not_open (fun _ => hcommitted) hevidence hbasis
    (fun actual _ => hpaid actual)

theorem LifecycleAt.not_open (h : LifecycleAt s id) (hr : s.reservations.find? id = some r)
    (ho : s.settlementOutbox.find? id = some o) :
    r.state ≠ .reserved ∧ r.state ≠ .delivering := by
  constructor <;> intro hs
  · rw [h.open_no_outbox r hr (Or.inl hs)] at ho
    cases ho
  · rw [h.open_no_outbox r hr (Or.inr hs)] at ho
    cases ho

theorem LifecycleAt.not_done (h : LifecycleAt s id) (hr : s.reservations.find? id = some r)
    (ho : s.settlementOutbox.find? id = some o) (hlive : r.state.terminal = false) :
    o.state ≠ .done := by
  intro hdone
  have hterm := (h.done_committed o r ho hr hdone).terminal
  rw [hlive] at hterm
  cases hterm

theorem lifecycle_touch (h : Lifecycle s) {r' : Reservation}
    (hr : s.reservations.find? id = some r) (hlive : r.state.terminal = false)
    (hstate : r'.state = r.state ∨ r.state = .reserved ∧ r'.state = .delivering) :
    Lifecycle { s with reservations := s.reservations.put id r' } := by
  have hlive' : r'.state.terminal = false := by
    rcases hstate with hs | ⟨-, hs⟩ <;> rw [hs]
    · exact hlive
    · rfl
  refine h.update id (fun id' hne => find?_put_ne _ _ hne)
    (fun _ _ => rfl) (fun _ _ => rfl) (fun _ _ hw => hw) ?_
  have hr' : ({ s with reservations := s.reservations.put id r' } :
      Store).reservations.find? id = some r' := find?_put_self _ _ _
  cases ho : s.settlementOutbox.find? id with
  | none => exact .open hr' ho hlive'
  | some o =>
    have hopen := (h id).not_open hr ho
    have hsame : r'.state = r.state := by
      rcases hstate with hs | ⟨hs, -⟩
      · exact hs
      · exact absurd hs hopen.1
    refine .stored hr' ho (hsame ▸ hopen) (absurd · ((h id).not_done hr ho hlive)) ?_
      ((h id).basis o ho) ?_
    · exact (h id).evidence o ho
    · intro actual hterm
      rw [hlive'] at hterm
      cases hterm

theorem lifecycle_enqueue (h : Lifecycle s) {intent : Intent}
    (hr : s.reservations.find? id = some r)
    (hevidence : validateEvidence s id intent.terminal = .ok ())
    (hbasis : intent.chargeBasisNano.any (· < 0) = false) :
    Lifecycle { s with
      settlementOutbox := s.settlementOutbox.put id (pendingRow intent ts)
      reservations := s.reservations.put id (r.markPending intent.actualNano ts) } := by
  refine h.update id (fun id' hne => find?_put_ne _ _ hne)
    (fun id' hne => find?_put_ne _ _ hne) (fun _ _ => rfl)
    (fun _ _ hw => hw) ?_
  refine .stored (find?_put_self _ _ _) (find?_put_self _ _ _) ?_
    (by simp [pendingRow]) hevidence hbasis ?_
  · rcases markPending_state r intent.actualNano ts with
      ⟨hterm, hsame⟩ | ⟨-, hstate⟩
    · rw [hsame]
      constructor <;> intro hs <;> rw [hs] at hterm <;> cases hterm
    · rw [hstate]
      decide
  · intro actual hterm hactual hpos
    rcases markPending_state r intent.actualNano ts with
      ⟨-, hsame⟩ | ⟨-, hstate⟩
    · rw [hsame] at hterm hactual ⊢
      exact (h id).paid_winner r actual hr hterm hactual hpos
    · rw [hstate] at hterm
      cases hterm

theorem lifecycle_requeue (h : Lifecycle s) (hr : s.reservations.find? id = some r)
    (ho : s.settlementOutbox.find? id = some o) :
    Lifecycle { s with
      reservations := s.reservations.put id (r.markPending o.intent.actualNano ts) } := by
  refine h.update id (fun id' hne => find?_put_ne _ _ hne)
    (fun _ _ => rfl) (fun _ _ => rfl) (fun _ _ hw => hw) ?_
  rcases markPending_state r o.intent.actualNano ts with
    ⟨-, hsame⟩ | ⟨hlive, hstate⟩
  · refine (h id).congr ?_ rfl rfl (fun _ _ hw => hw)
    rw [find?_put_self, hsame, hr]
  · refine .stored (find?_put_self _ _ _) ho ?_
      (absurd · ((h id).not_done hr ho hlive)) ?_ ((h id).basis o ho) ?_
    · rw [hstate]
      decide
    · exact (h id).evidence o ho
    · intro actual hterm
      rw [hstate] at hterm
      cases hterm

theorem lifecycle_confirm (h : Lifecycle s) (hr : s.reservations.find? id = some r)
    (ho : s.settlementOutbox.find? id = some o) (hintent : o'.intent = o.intent)
    (hdone : o.state = .done ∨ r.state.terminal = true)
    (hactual : r.actualNano = some (effectiveActual s id o r))
    (hpin : checkPricingPin r.pricing o.intent = .ok ())
    (hsplit : collectionConsistent r (effectiveActual s id o r) = true)
    (hfacts : finalizeTerminal s id o.intent.terminal (settledOutcome s id o r) = .ok facts) :
    Lifecycle { s with
      requestFacts := facts
      settlementOutbox := s.settlementOutbox.put id o' } := by
  obtain ⟨hother, hwritten, hlifecycle⟩ := finalizeTerminal_facts hfacts
  have hterm : r.state.terminal = true := by
    rcases hdone with hd | ht
    · exact ((h id).done_committed o r ho hr hd).terminal
    · exact ht
  have hpaid : ∀ actual, r.actualNano = some actual → 0 < actual →
      ∃ w, s.executionGroupWinner.find? (r.effectiveGroupId id) = some w ∧
        w.winnerRequestId = id :=
    fun actual ha hpos => (h id).paid_winner r actual hr hterm ha hpos
  refine h.update id (fun _ _ => rfl)
    (fun id' hne => find?_put_ne _ _ hne)
    (fun id' hne => hother id' hne) (fun _ _ hw => hw) ?_
  refine .committed hr (find?_put_self _ _ _) ?_ ?_ ?_ hpaid
  · refine Committed.of_intent (o := o) ?_ hintent
    refine
      { terminal := hterm
        actual := hactual
        pin := hpin
        split := hsplit
        fact := hwritten
        winner := ?_ }
    -- a winner row is there: either the attempt lost to it or it is its own
    intro hpos
    by_cases hlose : isLosingAttempt s id (r.effectiveGroupId id) o.intent.actualNano = true
    · simp only [isLosingAttempt, guard_iffs, Option.any_eq_true] at hlose
      obtain ⟨-, w, hw, -⟩ := hlose
      exact ⟨w, hw⟩
    · have hfull : r.actualNano = some o.intent.actualNano := by
        rw [hactual, effectiveActual, if_neg hlose]
      obtain ⟨w, hw, -⟩ := hpaid _ hfull hpos
      exact ⟨w, hw⟩
  · rw [hintent, validateEvidence_congr (hlifecycle _ rfl)]
    exact (h id).evidence o ho
  · rw [hintent]
    exact (h id).basis o ho

theorem collectionConsistent_settle {canceled : Bool} (hactual : 0 ≤ actual)
    (hcollect : collectAccount account r.holdNano actual = .ok c) :
    collectionConsistent (r.settle canceled actual c ts) actual = true := by
  obtain ⟨-, -, -, hsum⟩ := collectAccount_counters hcollect
  obtain ⟨h1, h2⟩ := collectAccount_nonneg hactual hcollect
  simp [collectionConsistent, Reservation.settle, h1, h2, hsum]

theorem lifecycle_settle (h : Lifecycle s) (hnonneg : 0 ≤ o.intent.actualNano)
    (ho : s.settlementOutbox.find? id = some o)
    (hwinners : electWinner s ts id (r.effectiveGroupId id) o.intent.actualNano = .ok winners)
    (hpin : checkPricingPin r.pricing o.intent = .ok ())
    (hcollect : collectAccount account r.holdNano (effectiveActual s id o r) = .ok c)
    (hfacts : finalizeTerminal s id o.intent.terminal
      (billingOutcome
        (isLosingAttempt s id (r.effectiveGroupId id) o.intent.actualNano)
        o.intent.disposition (effectiveCancel s id o r)
        (effectiveActual s id o r)) = .ok facts)
    (hres : s'.reservations = s.reservations.put id
      (r.settle (effectiveCancel s id o r) (effectiveActual s id o r) c ts))
    (hout : s'.settlementOutbox = s.settlementOutbox.put id o') (hintent : o'.intent = o.intent)
    (hwin : s'.executionGroupWinner = winners) (hfact : s'.requestFacts = facts) :
    Lifecycle s' := by
  obtain ⟨hother, hwritten, hlifecycle⟩ := finalizeTerminal_facts hfacts
  obtain ⟨hkeeps, hdecided⟩ := electWinner_keeps hwinners
  -- the settled row reads the same group, and its own election does not
  -- change whether it lost
  have hlosing : isLosingAttempt s' id (r.effectiveGroupId id)
      o.intent.actualNano = isLosingAttempt s id (r.effectiveGroupId id) o.intent.actualNano := by
    rw [← isLosingAttempt_elect hwinners]
    simp only [isLosingAttempt, hwin]
  have heffective : effectiveActual s' id o
      (r.settle (effectiveCancel s id o r) (effectiveActual s id o r) c ts)
      = effectiveActual s id o r := by
    unfold effectiveActual at hlosing ⊢
    rw [← hlosing]
    rfl
  have hstate : ((r.settle (effectiveCancel s id o r)
      (effectiveActual s id o r) c ts).state == .canceled)
      = effectiveCancel s id o r := by
    cases effectiveCancel s id o r <;> rfl
  refine h.update id ?_ ?_ ?_ ?_ ?_
  · intro id' hne
    rw [hres, find?_put_ne _ _ hne]
  · intro id' hne
    rw [hout, find?_put_ne _ _ hne]
  · intro id' hne
    rw [hfact, hother id' hne]
  · intro g w hg
    rw [hwin]
    exact hkeeps g w hg
  refine .committed (o := o') (by rw [hres, find?_put_self])
    (by rw [hout, find?_put_self]) ?_ ?_ ?_ ?_
  · refine Committed.of_intent (o := o) ?_ hintent
    refine
      { terminal := by cases effectiveCancel s id o r <;> rfl
        actual := by rw [heffective]; rfl
        pin := hpin
        split := ?_
        fact := ?_
        winner := ?_ }
    · rw [heffective]
      exact collectionConsistent_settle (effectiveActual_nonneg hnonneg) hcollect
    · intro f e hf he
      rw [hfact] at hf
      rw [hwritten f e hf he, settledOutcome, heffective, hstate]
      exact congrArg (fun b => some (e, billingOutcome b _ _ _)) hlosing.symm
    · intro hpos
      obtain ⟨w, hw, -⟩ := hdecided hpos
      exact ⟨w, by rw [hwin]; exact hw⟩
  · rw [hintent, validateEvidence_congr (hlifecycle s' hfact)]
    exact (h id).evidence o ho
  · rw [hintent]
    exact (h id).basis o ho
  · intro actual hactual hpos
    have hfull : effectiveActual s id o r = actual := some.inj hactual
    have hnot : isLosingAttempt s id (r.effectiveGroupId id)
        o.intent.actualNano = false := by
      by_contra hlose
      rw [effectiveActual, if_pos (by simpa using hlose)] at hfull
      omega
    have hpos' : 0 < o.intent.actualNano := by
      rw [effectiveActual, hnot] at hfull
      rw [show o.intent.actualNano = actual from hfull]
      exact hpos
    obtain ⟨w, hw, hself⟩ := hdecided hpos'
    exact ⟨w, by rw [hwin]; exact hw, hself hnot⟩

theorem lifecycle_transition (hmoney : Conserved s) (h : Lifecycle s)
    (hstep : Transition s s') : Lifecycle s' := by
  cases hstep with
  | owners => exact fun id => (h id).congr rfl rfl rfl (fun _ _ hw => hw)
  | topup => exact fun id => (h id).congr rfl rfl rfl (fun _ _ hw => hw)
  | admitNew hnew _ _ _ _ _ hfacts =>
    refine h.update _ (fun id' hne => find?_put_ne _ _ hne)
      (fun _ _ => rfl) (fun _ hne => hfacts.other hne) (fun _ _ hw => hw) ?_
    have hnone := outbox_none_of_reservation_none h hnew
    exact .open (find?_put_self _ _ _) hnone rfl
  | touch hr hlive hstate => exact lifecycle_touch h hr hlive hstate
  | delivery hr hstate =>
    have hnone := (h _).open_no_outbox _ hr (Or.inr hstate)
    refine h.update _ (fun _ _ => rfl) (fun _ _ => rfl)
      (fun id' hne => find?_put_ne _ _ hne) (fun _ _ hw => hw) ?_
    exact .open hr hnone (by rw [hstate]; rfl)
  | enqueue hr _ _ hbasis hevidence => exact lifecycle_enqueue h hr hevidence hbasis
  | requeue hr ho => exact lifecycle_requeue h hr ho
  | confirm hr ho hdone hactual hpin hsplit hfacts =>
    exact lifecycle_confirm h hr ho rfl hdone hactual hpin hsplit hfacts
  | settle _ ho _ _ hwinners hpin _ hcollect _ _ _ hfacts =>
    exact lifecycle_settle h (hmoney.actual_nonneg _ _ ho) ho hwinners hpin
      hcollect hfacts rfl rfl rfl rfl rfl
  | failure ho _ hstate =>
    obtain ⟨r, hr⟩ := (h _).outbox_reservation _ ho
    have hevidence := (h _).evidence _ ho
    have hbasis := (h _).basis _ ho
    refine h.update _ (fun _ _ => rfl)
      (fun id' hne => find?_put_ne _ _ hne) (fun _ _ => rfl)
      (fun _ _ hw => hw) ?_
    exact .stored hr (find?_put_self _ _ _) ((h _).not_open hr ho)
      (absurd · hstate) hevidence hbasis
      (fun actual hterm ha hpos => (h _).paid_winner r actual hr hterm ha hpos)

theorem lifecycle_pruned (h : Lifecycle s) (olderThanTs : Int) (billed : Nat) :
    Lifecycle (pruned s olderThanTs billed) := by
  have hwinner : ∀ {id r w}, (pruned s olderThanTs billed).reservations.find? id
      = some r → s.executionGroupWinner.find? (r.effectiveGroupId id) = some w →
      (pruned s olderThanTs billed).executionGroupWinner.find? (r.effectiveGroupId id) = some w :=
    fun hr hw => pruned_winner.mpr ⟨hw, _, _, hr, rfl⟩
  intro id
  constructor
  · intro o ho
    obtain ⟨r, hr⟩ := (h id).outbox_reservation o (pruned_outbox ho)
    exact ⟨r, pruned_reservation_keep hr (Or.inr (by rw [ho]; rfl))⟩
  · intro r hr hopen
    have hnone := (h id).open_no_outbox r (pruned_reservation hr) hopen
    cases ho : (pruned s olderThanTs billed).settlementOutbox.find? id with
    | none => rfl
    | some =>
      rw [pruned_outbox ho] at hnone
      cases hnone
  · intro o r ho hr hdone
    have hold := (h id).done_committed o r (pruned_outbox ho) (pruned_reservation hr) hdone
    exact hold.transport (fun w hw => hwinner hr hw) (fun f hf => pruned_fact hf)
  · intro o ho
    exact validateEvidence_forget (fun f hf => pruned_fact hf)
      ((h id).evidence o (pruned_outbox ho))
  · exact fun o ho => (h id).basis o (pruned_outbox ho)
  · intro r actual hr hterm hactual hpos
    obtain ⟨w, hw, hid⟩ := (h id).paid_winner r actual (pruned_reservation hr) hterm hactual hpos
    exact ⟨w, hwinner hr hw, hid⟩

end Preservation

/-! ## Reachable states -/

/-- The two invariants every reachable state has. -/
structure Sound (s : Store) : Prop where
  money : Conserved s
  lifecycle : Lifecycle s

theorem sound_initial {s : Store} (h : s.Initial) : Sound s where
  money := conserved_initial h
  lifecycle := by
    intro id
    constructor <;> simp [h.reservations, h.settlementOutbox]

theorem sound_transition {s s' : Store} (h : Sound s) (hstep : Transition s s') :
    Sound s' where
  money := conserved_transition h.money hstep
  lifecycle := lifecycle_transition h.money h.lifecycle hstep

theorem sound_exec {s : Store} (op : Op) (h : Sound s) : Sound (exec s op) := by
  rcases exec_cases s op with hpath | ⟨olderThanTs, billed, heq⟩
  · exact reflTransGen_invariant (I := Sound) (fun _ _ => sound_transition) h hpath
  · rw [heq]
    exact ⟨conserved_pruned h.money _ _, lifecycle_pruned h.lifecycle _ _⟩

theorem sound_run {s : Store} (h : s.Initial) (ops : List Op) : Sound (run exec s ops) :=
  run_invariant (fun _ op => sound_exec op) (sound_initial h) ops

end ApiToken.Registry
