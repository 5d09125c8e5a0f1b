import ApiToken.Registry.Winner

/-!
# Settlement without a hold

A new admission stores no hold, and its settlement is meant to collect the
whole amount, into debt if need be. `Appliable` is what the statements of
`process_outbox_request` ask beside the one on the account, so that what the
trigger on the account refuses stands apart.
-/

namespace ApiToken.Registry

/-! ## What a settlement asks -/

/-- The range of a `bigint` column. -/
def Bigint (x : Int) : Prop := -9223372036854775808 ≤ x ∧ x ≤ 9223372036854775807

instance (x : Int) : Decidable (Bigint x) := inferInstanceAs (Decidable (_ ∧ _))

theorem bigint_of {x : Int} (h : Bigint x) : bigint x = .ok x := if_pos h

theorem bigint_iff_eq {x y : Int} : bigint x = .ok y ↔ Bigint x ∧ y = x := by
  constructor
  · intro h
    refine ⟨?_, bigint_eq_ok h⟩
    unfold bigint at h
    split at h
    · assumption
    · cases h
  · rintro ⟨h, rfl⟩
    exact bigint_of h

def appliedOutcome (s : Store) (id : String) (o : OutboxRow) (r : Reservation) :
    BillingOutcome :=
  billingOutcome (isLosingAttempt s id (r.effectiveGroupId id) o.intent.actualNano)
    o.intent.disposition (effectiveCancel s id o r) (effectiveActual s id o r)

/-- The checks of a settlement, those of the account apart. -/
structure Appliable (s : Store) (id : String) (o : OutboxRow) (r : Reservation) :
    Prop where
  evidence : validateEvidence s id o.intent.terminal = .ok ()
  /-- The columns of a winner row are not empty. -/
  named : 0 < o.intent.actualNano → r.effectiveGroupId id ≠ "" ∧ id ≠ ""
  pin : checkPricingPin r.pricing o.intent = .ok ()
  key : ∀ k, s.apiKeys.find? r.key = some k →
    (k.accountId = r.accountId ∧ r.holdNano ≤ k.reservedNano) ∧
      Bigint (k.spentNano + effectiveActual s id o r) ∧
      Bigint (k.reservedNano - r.holdNano)
  /-- The request has not been charged or metered. -/
  uncharged : 0 < effectiveActual s id o r → ¬ charged s id
  unmetered : isLosingAttempt s id (r.effectiveGroupId id) o.intent.actualNano = false →
    o.intent.usage.model ≠ "" → ¬ metered s id
  /-- Its fact has no other outcome. -/
  fact : ∀ f e t, s.requestFacts.find? id = some f → o.intent.terminal = some e →
    f.terminal = some t → t = (e, appliedOutcome s id o r)

section Statements

variable {s : Store} {ts : Int} {id : String} {o : OutboxRow} {r : Reservation}
  {c : AccountCollection}

theorem electWinner_iff {group : String} {actual : Int} :
    (∃ winners, electWinner s ts id group actual = .ok winners) ↔
      (0 < actual → group ≠ "" ∧ id ≠ "") := by
  unfold electWinner
  by_cases hpos : 0 < actual
  · rw [if_pos hpos]
    simp only [ok_steps, guard_iffs, beq_eq_false_iff_ne]
    exact ⟨fun h _ => h.choose_spec.1, fun h => ⟨_, h hpos, rfl⟩⟩
  · simp [hpos]

theorem settleKey_iff {accountId key : String} {hold actual : Int} :
    (∃ keys, settleKey s accountId key hold actual = .ok keys) ↔
      ∀ k, s.apiKeys.find? key = some k →
        (k.accountId = accountId ∧ hold ≤ k.reservedNano) ∧
          Bigint (k.spentNano + actual) ∧ Bigint (k.reservedNano - hold) := by
  unfold settleKey
  cases hk : s.apiKeys.find? key with
  | none => simp
  | some k =>
    simp only [some.injEq, forall_eq']
    split
    · rename_i hmine
      simp only [ok_steps, bigint_iff_eq]
      constructor
      · rintro ⟨_, _, ⟨hspent, -⟩, _, ⟨hreserved, -⟩, -⟩
        exact ⟨hmine, hspent, hreserved⟩
      · rintro ⟨-, hspent, hreserved⟩
        exact ⟨_, _, ⟨hspent, rfl⟩, _, ⟨hreserved, rfl⟩, rfl⟩
    · rename_i hother
      constructor
      · rintro ⟨_, h⟩
        cases h
      · rintro ⟨h, -⟩
        exact absurd h hother

theorem chargeLedger_iff {intent : Intent} {actual : Int} :
    (∃ ledger, chargeLedger s ts id r intent c actual = .ok ledger) ↔
      (0 < actual → ¬ charged s id) := by
  have hsame : s.ledger.any (fun x => x.kind == (chargeRow r id intent c actual ts).kind
      && x.requestId.isSome
      && x.requestId == (chargeRow r id intent c actual ts).requestId)
        = s.ledger.any (isChargeOf id) := by
    congr 1
    funext x
    cases hreq : x.requestId <;> simp [isChargeOf, chargeRow, hreq]
  unfold chargeLedger insertCharge
  by_cases hpos : 0 < actual
  · rw [if_pos hpos]
    simp only [ok_steps, charged, Bool.not_eq_true, hsame]
    exact ⟨fun h _ => h.choose_spec.1, fun h => ⟨_, h hpos, rfl⟩⟩
  · simp [hpos]

theorem meterUsage_iff {intent : Intent} {actual : Int} {losing : Bool} :
    (∃ usage, meterUsage s ts id r intent c actual losing = .ok usage) ↔
      (losing = false → intent.usage.model ≠ "" → ¬ metered s id) := by
  unfold meterUsage insertUsage
  by_cases hgate : (!losing && intent.usage.model != "") = true
  · have hboth := hgate
    simp only [guard_iffs, bne_iff_ne, ne_eq] at hboth
    rw [if_pos hgate]
    simp only [ok_steps, metered, Bool.not_eq_true]
    exact ⟨fun h _ _ => h.choose_spec.1, fun h => ⟨_, h hboth.1 hboth.2, rfl⟩⟩
  · rw [if_neg hgate]
    refine ⟨fun _ hwin hmodel => ?_, fun _ => ⟨_, rfl⟩⟩
    exact absurd (by simp [hwin, hmodel]) hgate

theorem finalizeTerminal_iff {outcome : BillingOutcome}
    (hevidence : validateEvidence s id o.intent.terminal = .ok ()) :
    (∃ facts, finalizeTerminal s id o.intent.terminal outcome = .ok facts) ↔
      ∀ f e t, s.requestFacts.find? id = some f → o.intent.terminal = some e →
        f.terminal = some t → t = (e, outcome) := by
  unfold finalizeTerminal
  cases he : o.intent.terminal with
  | none => simp
  | some e =>
    cases hf : s.requestFacts.find? id with
    | none => simp
    | some f =>
      simp only [he, validateEvidence, factLifecycle, hf] at hevidence
      simp only [hevidence, ok_steps, true_and, some.injEq]
      cases ht : f.terminal with
      | none =>
        refine ⟨fun _ f' e' t hf' _ ht' => ?_, fun _ => ⟨_, rfl⟩⟩
        rw [← hf', ht] at ht'
        cases ht'
      | some t =>
        simp only [ok_steps, bailIf_eq_ok, guard_iffs]
        constructor
        · rintro ⟨_, hsame, -⟩ f' e' t' rfl rfl ht'
          rw [ht, some.injEq] at ht'
          rw [← ht', hsame]
        · exact fun h => ⟨_, h f e t rfl rfl ht, rfl⟩

end Statements

/-! ## Applying -/

section Apply

variable {s s' : Store} {ts : Int} {id : String} {o : OutboxRow} {r : Reservation}

theorem applySettlement_iff :
    (validateEvidence s id o.intent.terminal = .ok () ∧
      ∃ x, applySettlement s ts id o r = .ok x) ↔
      Appliable s id o r ∧ ∃ a c, s.accounts.find? r.accountId = some a ∧
        collectAccount a r.holdNano (effectiveActual s id o r) = .ok c := by
  simp only [applySettlement, ok_steps, collectAccountSettlementTx]
  constructor
  · rintro ⟨hevidence, x, winners, hwinners, hpin, c, ⟨a, ha, hcollect⟩, keys, hkeys,
      ledger, hledger, usage, husage, facts, hfacts, -⟩
    rw [isLosingAttempt_elect hwinners] at hcollect hkeys hledger husage hfacts
    exact ⟨⟨hevidence, electWinner_iff.mp ⟨_, hwinners⟩, hpin, settleKey_iff.mp ⟨_, hkeys⟩,
      chargeLedger_iff.mp ⟨_, hledger⟩, meterUsage_iff.mp ⟨_, husage⟩,
      (finalizeTerminal_iff hevidence).mp ⟨_, hfacts⟩⟩, a, c, ha, hcollect⟩
  · rintro ⟨happly, a, c, ha, hcollect⟩
    obtain ⟨winners, hwinners⟩ := (@electWinner_iff s ts _ _ _).mpr happly.named
    obtain ⟨keys, hkeys⟩ := settleKey_iff.mpr happly.key
    obtain ⟨ledger, hledger⟩ := (@chargeLedger_iff _ ts _ r c o.intent _).mpr happly.uncharged
    obtain ⟨usage, husage⟩ :=
      (@meterUsage_iff _ ts _ r c _ (effectiveActual s id o r) _).mpr happly.unmetered
    obtain ⟨facts, hfacts⟩ := (finalizeTerminal_iff happly.evidence).mpr happly.fact
    refine ⟨happly.evidence, _, winners, hwinners, happly.pin, c, ⟨a, ha, ?_⟩, keys, ?_,
      ledger, ?_, usage, ?_, facts, ?_, rfl⟩ <;> rw [isLosingAttempt_elect hwinners] <;>
      assumption

/-- What it leaves: the account collected, and the reservation terminal at
the billed amount. -/
theorem applySettlement_eq {b : Option Int}
    (h : applySettlement s ts id o r = .ok (b, s')) :
    ∃ a c, s.accounts.find? r.accountId = some a ∧
      collectAccount a r.holdNano (effectiveActual s id o r) = .ok c ∧
      b = some c.account.balanceNano ∧
      s'.accounts.find? r.accountId = some c.account ∧
      s'.reservations.find? id = some
        (r.settle (effectiveCancel s id o r) (effectiveActual s id o r) c ts) := by
  simp only [applySettlement, ok_steps, collectAccountSettlementTx] at h
  obtain ⟨winners, hwinners, -, c, ⟨a, ha, hcollect⟩, _, -, _, -, _, -, _, -, rfl, rfl⟩ := h
  rw [isLosingAttempt_elect hwinners] at hcollect
  refine ⟨a, c, ha, hcollect, rfl, find?_put_self .., ?_⟩
  rw [isLosingAttempt_elect hwinners]
  exact find?_put_self ..

theorem processOutboxRequest_pending (ho : s.settlementOutbox.find? id = some o)
    (hr : s.reservations.find? id = some r) (hpending : o.state ≠ .done)
    (hlive : r.state.terminal = false) {x : Option Int × Store} :
    processOutboxRequest s ts id = .ok x ↔
      validateEvidence s id o.intent.terminal = .ok () ∧ applySettlement s ts id o r = .ok x := by
  simp only [processOutboxRequest, ho, hr, ok_steps]
  rw [if_neg (by simp [hpending, hlive])]

end Apply

/-! ## Without a hold -/

theorem settlementFloorFence_zeroHold {a : Account} {actual : Int} (hactual : 0 ≤ actual) :
    settlementFloorFence a
        { a with balanceNano := a.balanceNano - actual, spentNano := a.spentNano + actual }
      = .ok () ↔ actual = 0 ∨ -accountOverdraftNano ≤ a.balanceNano - actual := by
  simp only [settlementFloorFence, failIf_eq_ok, Bool.and_eq_false_iff, guard_iffs]
  by_cases hzero : actual = 0
  · simp [hzero]
  · have hcharge : a.spentNano < a.spentNano + actual := by omega
    simp only [hcharge, not_true_eq_false, false_or, hzero]
    split <;> omega

theorem collectAccount_zeroHold {a : Account} {actual : Int} {c : AccountCollection}
    (hactual : 0 ≤ actual) (hbalance : Bigint (a.balanceNano - actual))
    (hspent : Bigint (a.spentNano + actual)) :
    collectAccount a 0 actual = .ok c ↔
      (actual = 0 ∨ -accountOverdraftNano ≤ a.balanceNano - actual) ∧
        c = { account := { a with
                balanceNano := a.balanceNano - actual
                spentNano := a.spentNano + actual }
              collectedNano := actual, uncollectedNano := 0 } := by
  rw [← settlementFloorFence_zeroHold hactual]
  simp only [collectAccount, if_true, ok_steps, bigint_of hbalance, bigint_of hspent,
    Except.ok.injEq, exists_eq_left']
  exact and_congr_right fun _ => eq_comm

def CollectsAll (s : Store) (ts : Int) (id : String) (o : OutboxRow) (r : Reservation)
    (a : Account) : Prop :=
  ∃ s', processOutboxRequest s ts id
      = .ok (some (a.balanceNano - o.intent.actualNano), s') ∧
    s'.accounts.find? r.accountId = some
      { a with
        balanceNano := a.balanceNano - o.intent.actualNano
        spentNano := a.spentNano + o.intent.actualNano } ∧
    ∃ r', s'.reservations.find? id = some r' ∧ r'.state = .settled ∧
      r'.actualNano = some o.intent.actualNano ∧
      r'.collectedNano = some o.intent.actualNano ∧ r'.uncollectedNano = some 0

/-- In every store, a settlement without a hold collects its amount exactly
when its other checks pass, its group is not another's, and it leaves the
account at minus one dollar or above. -/
theorem zero_hold_collects_iff (s : Store) (ts : Int) (id : String) (o : OutboxRow)
    (r : Reservation) (a : Account) (ho : s.settlementOutbox.find? id = some o)
    (hr : s.reservations.find? id = some r) (ha : s.accounts.find? r.accountId = some a)
    (hpending : o.state ≠ .done) (hsettle : o.intent.disposition = .settle)
    (hlive : r.state.terminal = false) (hhold : r.holdNano = 0)
    (hactual : 0 ≤ o.intent.actualNano)
    (hbalance : Bigint (a.balanceNano - o.intent.actualNano))
    (hspent : Bigint (a.spentNano + o.intent.actualNano)) :
    CollectsAll s ts id o r a ↔
      Appliable s id o r ∧
        isLosingAttempt s id (r.effectiveGroupId id) o.intent.actualNano = false ∧
        (o.intent.actualNano = 0 ∨
          -accountOverdraftNano ≤ a.balanceNano - o.intent.actualNano) := by
  constructor
  · rintro ⟨s', hprocess, -, r', hr', hstate, hbilled, -⟩
    have hcommit := (processOutboxRequest_pending ho hr hpending hlive).mp hprocess
    obtain ⟨happly, -⟩ := applySettlement_iff.mp ⟨hcommit.1, _, hcommit.2⟩
    obtain ⟨a', c, ha', hcollect, -, -, hsettled⟩ := applySettlement_eq hcommit.2
    rw [hr', some.injEq] at hsettled
    rw [ha, some.injEq] at ha'
    subst ha' hsettled
    -- a losing attempt ends canceled
    have hwins : isLosingAttempt s id (r.effectiveGroupId id) o.intent.actualNano = false := by
      simp only [Reservation.settle, effectiveCancel] at hstate
      cases hlosing : isLosingAttempt s id (r.effectiveGroupId id) o.intent.actualNano with
      | false => rfl
      | true => simp [hlosing] at hstate
    have heffective : effectiveActual s id o r = o.intent.actualNano := by
      simp [effectiveActual, hwins]
    rw [hhold, heffective, collectAccount_zeroHold hactual hbalance hspent] at hcollect
    exact ⟨happly, hwins, hcollect.1⟩
  · rintro ⟨happly, hwins, hfloor⟩
    have heffective : effectiveActual s id o r = o.intent.actualNano := by
      simp [effectiveActual, hwins]
    have hcollect := (collectAccount_zeroHold hactual hbalance hspent).mpr ⟨hfloor, rfl⟩
    obtain ⟨hevidence, ⟨b, s'⟩, happlied⟩ := (@applySettlement_iff _ ts _ _ _).mpr
      ⟨happly, a, _, ha, by rw [hhold, heffective]; exact hcollect⟩
    obtain ⟨a', c, ha', hcollected, hb, haccount, hsettled⟩ := applySettlement_eq happlied
    rw [ha, some.injEq] at ha'
    subst ha'
    rw [hhold, heffective, collectAccount_zeroHold hactual hbalance hspent] at hcollected
    obtain ⟨-, rfl⟩ := hcollected
    subst hb
    refine ⟨s', (processOutboxRequest_pending ho hr hpending hlive).mpr
      ⟨hevidence, happlied⟩, haccount, _, hsettled, ?_, ?_, rfl, rfl⟩
    · simp [Reservation.settle, effectiveCancel, hwins, hsettle]
    · simp [Reservation.settle, heffective]

/-- A paid request is admitted without a hold on a balance of one dollar, and
its settlement is asked to collect `actual`. -/
def unheldRun (actual : Int) : List Op :=
  [.claimInstance 1000 "engine" 60,
   .accountTopup 1000 "acct" 1000000000 none,
   .reserve (fun _ => 1000) 1000 { instanceId := "engine", epoch := 1 } "req"
     "acct" "key" 0 60 .direct none none,
   .markDelivering 1001 { instanceId := "engine", epoch := 1 } "req" 60 false,
   .enqueueSettlement 1002 "req" actual none none none]

/-- Three dollars leave the account at minus two: the trigger refuses the
write, and the settlement stays pending for another try. -/
theorem unheld_debt_refused :
    (processOutboxRequest (run exec soloStore (unheldRun 3000000000)) 1003 "req").map
        Prod.fst = .error (.sql "40001") ∧
      classifyFailure (.sql "40001") = .transient ∧
      ∃ o r a, (run exec soloStore (unheldRun 3000000000)).settlementOutbox.find? "req"
          = some o ∧
        (run exec soloStore (unheldRun 3000000000)).reservations.find? "req" = some r ∧
        (run exec soloStore (unheldRun 3000000000)).accounts.find? r.accountId = some a ∧
        r.holdNano = 0 ∧ o.intent.disposition = .settle ∧
        ¬ CollectsAll (run exec soloStore (unheldRun 3000000000)) 1003 "req" o r a := by
  have hrefused : (processOutboxRequest (run exec soloStore (unheldRun 3000000000)) 1003
      "req").map Prod.fst = .error (.sql "40001") := by
    decide +kernel
  refine ⟨hrefused, by decide +kernel, _, _, _, rfl, rfl, rfl, rfl, rfl, ?_⟩
  rintro ⟨s', hprocess, -⟩
  rw [hprocess] at hrefused
  cases hrefused

/-- Two dollars leave the account at minus one, which the trigger lets pass. -/
theorem zero_hold_collects_two : ∃ o r a,
    (run exec soloStore (unheldRun 2000000000)).settlementOutbox.find? "req" = some o ∧
      (run exec soloStore (unheldRun 2000000000)).reservations.find? "req" = some r ∧
      (run exec soloStore (unheldRun 2000000000)).accounts.find? r.accountId = some a ∧
      CollectsAll (run exec soloStore (unheldRun 2000000000)) 1003 "req" o r a := by
  refine ⟨_, _, _, rfl, rfl, rfl, ?_⟩
  refine (zero_hold_collects_iff _ 1003 "req" _ _ _ rfl rfl rfl (by decide +kernel) rfl
    (by decide +kernel) rfl (by decide +kernel) (by decide +kernel) (by decide +kernel)).mpr
    ⟨?_, by decide +kernel, .inr (by decide +kernel)⟩
  exact
    { evidence := rfl
      named := fun _ => by decide +kernel
      pin := rfl
      key := by
        intro k hk
        cases hk
        decide +kernel
      uncharged := fun _ => by decide +kernel
      unmetered := fun _ _ => by decide +kernel
      fact := fun _ _ _ _ h => by cases h }

end ApiToken.Registry
