import ApiToken.Commerce.SaleInvariant

/-!
# A payment nets to one credit or to nothing

Payment events move a sale between its phases; with the workers' steps this
covers every operation, so the invariant holds in every run. When no work is
left for a sale, what the engine applied for it adds up to the paid amount or
to zero.
-/

namespace ApiToken.Commerce

variable {status : CheckoutState} {checkout : Checkout}
  {userId account ppid proposed : String} {provider : Provider} {amountUsd : Int}
  {s' : Store} {p : Payment} {c : EngineCredit} {input : VerifiedCheckoutPaymentEvent}

variable {s : Store} {id : String} {sale sale' : Sale}
variable {engine : Table String Entry}

/-! ## Checkouts -/

theorem Phase.setStatus (h : Phase sale)
    (hiff : status = .refunded ↔ sale.checkout.status = .refunded) :
    Phase { sale with checkout := { sale.checkout with status := status } } := by
  have hrecorded : ∀ {p c}, Recorded sale p c → Recorded
      { sale with checkout := { sale.checkout with status := status } } p c :=
    fun hr => { hr with payment := hr.payment }
  cases h with
  | opened payment credit adjustment reversals =>
    exact .opened payment credit adjustment reversals
  | paid p c recorded hstatus live adjustment reversals checkout =>
    exact .paid p c (hrecorded recorded) hstatus live adjustment reversals
      (fun h => checkout (hiff.mp h))
  | voided p c recorded hstatus dead attempts adjustment reversals checkout =>
    exact .voided p c (hrecorded recorded) hstatus dead attempts adjustment
      reversals (hiff.mpr checkout)
  | compensated p c a recorded hstatus live attempts adjustment reversals
      checkout =>
    exact .compensated p c a (hrecorded recorded) hstatus live attempts
      { adjustment with adjustment := adjustment.adjustment } reversals
      (hiff.mpr checkout)

theorem EngineOk.setCheckout (h : EngineOk engine id sale)
    (haccount : checkout.engineAccountId = sale.checkout.engineAccountId)
    (hamount : checkout.amountNano = sale.checkout.amountNano) :
    EngineOk engine id { sale with checkout := checkout } where
  unpaid := h.unpaid
  entries p hp := by
    rw [h.entries p hp]
    simp [expected, Sale.creditEntry, Sale.debitEntry, haccount, hamount]
  credited := h.credited
  confirmed := h.confirmed
  debited := h.debited
  adjusted := h.adjusted

theorem Later.setCheckout (sale : Sale)
    (haccount : checkout.engineAccountId = sale.checkout.engineAccountId)
    (hamount : checkout.amountNano = sale.checkout.amountNano) :
    Later sale { sale with checkout := checkout } :=
  { Later.refl sale with account := haccount, amount := hamount }

theorem saleOk_newSale {hpos : 0 < amountUsd}
    (hunseen : ∀ state, ¬ Seen s.webhookEvents id state)
    (hnothing : entriesOf s.engine id = []) :
    SaleOk s id (newSale userId account provider amountUsd hpos) := by
  have hpayment : ∀ {p}, (newSale userId account provider amountUsd hpos).payment
      ≠ some p := by
    intro p hp
    simp [newSale] at hp
  exact
    { phase := .opened rfl rfl rfl rfl
      engine :=
        { unpaid := fun _ => hnothing
          entries := fun _ hp => absurd hp hpayment
          credited := fun _ _ hp => absurd hp hpayment
          confirmed := fun _ _ hp => absurd hp hpayment
          debited := fun _ hp => absurd hp hpayment
          adjusted := fun _ _ hp => absurd hp hpayment }
      events :=
        { refunded := ⟨fun h => absurd h (hunseen _), fun h => by
            simp [newSale] at h⟩
          recorded := fun h => by simp [newSale] at h
          paid := fun h => absurd h (hunseen _)
          creating := fun _ => hunseen } }

theorem apart_newSale {hpos : 0 < amountUsd} (sale : Sale) :
    Apart (newSale userId account provider amountUsd hpos) sale ∧
      Apart sale (newSale userId account provider amountUsd hpos) := by
  constructor <;> constructor <;> intros <;> simp_all [newSale]

theorem inv_createCheckoutSession (h : Inv s)
    (hok : createCheckoutSession s id userId account provider amountUsd = .ok s') :
    Inv s' := by
  unfold createCheckoutSession at hok
  split at hok
  · rename_i hpos
    simp only [ok_steps] at hok
    obtain ⟨hnone, rfl⟩ := hok
    rw [isSome_eq_false_iff, isNone_iff_eq_none] at hnone
    have hold : ∀ {id1 sale1}, s.sales.find? id1 = some sale1 →
        (putSale s id (newSale userId account provider amountUsd hpos)).sales.find?
          id1 = some sale1 := by
      intro id1 sale1 h1
      have hne : id ≠ id1 := by
        rintro rfl
        rw [hnone] at h1
        cases h1
      simpa [putSale, find?_put, hne] using h1
    refine { sale := ?_, apart := ?_, job := ?_, entry := ?_, event := ?_ }
    · intro id1 sale1 h1
      simp only [putSale, find?_put] at h1
      split at h1
      · rename_i heq
        subst heq
        cases h1
        have hunseen : ∀ state, ¬ Seen s.webhookEvents id state := by
          rintro state ⟨e, he, hid, -⟩
          have hsome := h.event e he
          rw [hid, hnone] at hsome
          cases hsome
        have hnothing : entriesOf s.engine id = [] := by
          rw [entriesOf, filter_eq_nil_iff]
          intro e he
          obtain ⟨x, hx, rfl⟩ := mem_map.mp he
          obtain ⟨sale1, p, h1, -⟩ := h.entry x hx
          simp only [guard_iffs]
          rintro heq
          rw [heq, hnone] at h1
          cases h1
        have hnew : SaleOk s id (newSale userId account provider amountUsd hpos) :=
          saleOk_newSale hunseen hnothing
        exact ⟨hnew.phase, hnew.engine, hnew.events⟩
      · exact ⟨(h.sale h1).phase, (h.sale h1).engine, (h.sale h1).events⟩
    · intro id1 id2 sale1 sale2 h1 h2 hne
      simp only [putSale, find?_put] at h1 h2
      split at h1
      · cases h1
        exact (apart_newSale sale2).1
      · split at h2
        · cases h2
          exact (apart_newSale sale1).2
        · exact h.apart h1 h2 hne
    · intro j hj
      obtain ⟨sale1, h1, hjob⟩ := h.job j hj
      exact ⟨sale1, hold h1, hjob⟩
    · intro x hx
      obtain ⟨sale1, p, h1, hp⟩ := h.entry x hx
      exact ⟨sale1, p, hold h1, hp⟩
    · intro e he
      obtain ⟨sale1, h1⟩ := isSome_iff_exists.mp (h.event e he)
      exact isSome_iff_exists.mpr ⟨sale1, hold h1⟩
  · cases hok

theorem inv_activateCheckoutSession (h : Inv s)
    (hok : activateCheckoutSession s id ppid = .ok s') : Inv s' := by
  simp only [activateCheckoutSession, ok_steps] at hok
  obtain ⟨sale, hsale, hcreating, hunique, rfl⟩ := hok
  have hcreating : sale.checkout.status = .creating := by simpa using hcreating
  have hevents := (h.sale hsale).events
  have hnone : sale.payment = none := by
    cases hp : sale.payment with
    | none => rfl
    | some =>
      exact absurd (hevents.recorded (by rw [hp]; rfl)) (hevents.creating hcreating _)
  have hother : ∀ {id1 sale1}, s.sales.find? id1 = some sale1 →
      sale1.checkout.provider = sale.checkout.provider →
      sale1.checkout.providerPaymentId ≠ some ppid := by
    intro id1 sale1 h1 hprovider hppid
    have hnot := any_eq_false_iff.mp hunique id1 sale1 h1
    simp [hprovider, hppid] at hnot
  refine h.putSale hsale ?_ ?_ ?_
  · exact Later.setCheckout sale rfl rfl
  · refine ⟨?_, (h.sale hsale).engine.setCheckout rfl rfl, ?_⟩
    · cases (h.sale hsale).phase with
      | opened payment credit adjustment reversals =>
        exact .opened payment credit adjustment reversals
      | paid p c recorded | voided p c recorded | compensated p c a recorded =>
        rw [recorded.payment] at hnone
        cases hnone
    · exact
        { refunded := ⟨fun hs => absurd hs (hevents.creating hcreating _), by simp⟩
          recorded := hevents.recorded
          paid := hevents.paid
          creating := by simp }
  · intro id1 sale1 h1 hne
    refine ⟨⟨fun x hx hx' hprovider => ?_, fun p p' _ hp' => ?_⟩,
      ⟨fun x hx hx' hprovider => ?_, fun p p' hp _ => ?_⟩⟩
    · exact hother h1 hprovider (hx.trans hx'.symm)
    · rw [hnone] at hp'
      cases hp'
    · exact hother h1 hprovider.symm (hx'.trans hx.symm)
    · rw [hnone] at hp
      cases hp

theorem inv_failCheckoutSession (h : Inv s) (id : String) : Inv (failCheckoutSession s id) := by
  unfold failCheckoutSession
  split
  · exact h
  · rename_i sale hsale
    split
    · rename_i hcreating
      have hevents := (h.sale hsale).events
      refine h.putSale hsale (Later.setCheckout sale rfl rfl) ?_ ?_
      · refine ⟨(h.sale hsale).phase.setStatus (by simp [hcreating]),
          (h.sale hsale).engine.setCheckout rfl rfl, ?_⟩
        exact
          { refunded := ⟨fun hs => absurd hs (hevents.creating hcreating _), nofun⟩
            recorded := hevents.recorded
            paid := hevents.paid
            creating := nofun }
      · intro id1 sale1 h1 hne
        refine h.apart_same hsale ?_ ?_ ?_ h1 hne <;> rfl
    · exact h

/-! ## Payment events -/

/-- What a step makes of a sale. -/
structure Advances (s : Store) (id : String) (sale sale' : Sale) : Prop where
  later : Later sale sale'
  phase : Phase sale'
  engine : EngineOk s.engine id sale'
  apart : ∀ {id₁ sale₁}, s.sales.find? id₁ = some sale₁ → id₁ ≠ id →
    Apart sale₁ sale' ∧ Apart sale' sale₁

def Sale.withStatus (sale : Sale) (status : CheckoutState) : Sale :=
  { sale with checkout := { sale.checkout with status := status } }

theorem advances_withStatus (h : Inv s) (hsale : s.sales.find? id = some sale)
    (hiff : status = .refunded ↔ sale.checkout.status = .refunded) :
    Advances s id sale (sale.withStatus status) where
  later := Later.setCheckout sale rfl rfl
  phase := (h.sale hsale).phase.setStatus hiff
  engine := (h.sale hsale).engine.setCheckout rfl rfl
  apart := by
    intro id1 sale1 h1 hne
    refine h.apart_same hsale ?_ ?_ ?_ h1 hne <;> rfl

theorem Inv.not_applied (h : Inv s) {ref : String}
    (href : ∀ {id1 sale1 p1}, s.sales.find? id1 = some sale1 →
      sale1.payment = some p1 → ref ≠ p1.creditRef ∧ ref ≠ p1.adjustmentRef) :
    applied s.engine ref = false := by
  cases hfind : s.engine.find? ref with
  | none => simp [applied, hfind]
  | some =>
    obtain ⟨sale1, p1, h1, hp1, heq⟩ := h.entry _ (mem_of_find? hfind)
    rcases heq with heq | heq
    · exact absurd heq (href h1 hp1).1
    · exact absurd heq (href h1 hp1).2

section

variable (h : Inv s) (hsale : s.sales.find? id = some sale)
include h hsale

theorem Inv.other_payment (hppid : sale.checkout.providerPaymentId = some ppid) {id1 : String}
    {sale1 : Sale} {p1 : Payment} (h1 : s.sales.find? id1 = some sale1)
    (hp1 : sale1.payment = some p1) (hne : id1 ≠ id) :
    ¬ (p1.provider = sale.checkout.provider ∧ p1.providerPaymentId = ppid) := by
  rintro ⟨hprovider, rfl⟩
  obtain ⟨c, hr⟩ := (h.sale h1).phase.recorded hp1
  exact (h.apart h1 hsale hne).checkout _ hr.providerPaymentId hppid
    (hr.provider.symm.trans hprovider)

theorem advances_recorded (hpayment : sale.payment = none)
    (hadjustment : sale.adjustment = none) (hreversals : sale.reversals = [])
    (hrecorded : Recorded { sale with payment := some p, credit := some c } p c)
    (hstatus : p.status = .paid) (hpending : c.status = .pending) (hattempts : c.attempts = 0)
    (hfresh : ∀ {id1 sale1 p1}, s.sales.find? id1 = some sale1 →
      sale1.payment = some p1 → p1.id ≠ p.id) :
    Advances s id sale ({ sale with payment := some p, credit := some c }.withStatus .paid) := by
  have hother : ∀ {id1 sale1 p1}, s.sales.find? id1 = some sale1 →
      sale1.payment = some p1 → id1 ≠ id := by
    rintro id1 sale1 p1 h1 hp1 rfl
    cases hsale.symm.trans h1
    rw [hpayment] at hp1
    cases hp1
  have hcredit : applied s.engine p.creditRef = false := by
    refine h.not_applied (fun {id1 sale1 p1} h1 hp1 => ⟨fun heq => ?_, p.refs_ne p1⟩)
    obtain ⟨hprovider, hppid⟩ := creditRef_inj heq
    exact h.other_payment hsale hrecorded.providerPaymentId h1 hp1
      (hother h1 hp1) ⟨hprovider.symm.trans hrecorded.provider, hppid.symm⟩
  have hdebit : applied s.engine p.adjustmentRef = false := by
    refine h.not_applied (fun {id1 sale1 p1} h1 hp1 =>
      ⟨Ne.symm (p1.refs_ne p), fun heq => ?_⟩)
    exact hfresh h1 hp1 (adjustmentRef_inj heq).symm
  have hengine := (h.sale hsale).engine
  refine ⟨?_, ?_, ?_, ?_⟩
  · exact
      { account := rfl, amount := rfl
        payment := fun p0 hp0 => by rw [hpayment] at hp0; cases hp0
        credit := fun c0 hc0 => by
          cases (h.sale hsale).phase with
          | opened _ credit =>
            rw [credit] at hc0
            cases hc0
          | paid p1 c1 recorded | voided p1 c1 recorded
          | compensated _ _ _ recorded =>
            rw [recorded.payment] at hpayment
            cases hpayment
        adjustment := fun ha => ha }
  · exact .paid p c { hrecorded with payment := rfl } hstatus
      ⟨by simp [hpending], by simp [hattempts, hpending]⟩ hadjustment hreversals
      nofun
  · refine
      { unpaid := nofun, entries := ?_, credited := ?_, confirmed := ?_,
        debited := ?_, adjusted := ?_ }
    · intro p0 hp0
      cases hp0
      rw [hengine.unpaid hpayment, expected, hcredit, hdebit]
      rfl
    · intro p0 c0 hp0 _ happ
      cases hp0
      rw [hcredit] at happ
      cases happ
    · intro p0 c0 _ hc0 hconf
      cases hc0
      rw [hpending] at hconf
      cases hconf
    · intro p0 hp0 happ
      cases hp0
      rw [hdebit] at happ
      cases happ
    · intro p0 a _ ha _
      rw [show sale.adjustment = some a from ha] at hadjustment
      cases hadjustment
  · intro id1 sale1 h1 hne
    have h12 := h.apart h1 hsale hne
    have h21 := h.apart hsale h1 (Ne.symm hne)
    refine ⟨⟨h12.checkout, fun p1 p2 hp1 hp2 => ?_⟩, ⟨h21.checkout, fun p1 p2 hp1 hp2 => ?_⟩⟩
    · cases hp2
      exact hfresh h1 hp1
    · cases hp1
      exact Ne.symm (hfresh h1 hp2)

theorem advances_applyPaid (hprovider : sale.checkout.provider = input.provider)
    (hppid : sale.checkout.providerPaymentId = some input.providerPaymentId)
    (husd : sale.checkout.amountUsd = input.amountUsd)
    (hstatus : sale.checkout.status ≠ .refunded)
    (hok : applyPaid s id sale input proposed = .ok sale') :
    Advances s id sale (sale'.withStatus .paid) ∧
      sale'.checkout = sale.checkout ∧ sale'.payment.isSome := by
  simp only [applyPaid, ok_steps] at hok
  obtain ⟨p, hp, c, hc, rfl⟩ := hok
  refine ⟨?_, rfl, rfl⟩
  simp only [upsertPayment, ok_steps] at hp
  obtain ⟨-, hp⟩ := hp
  cases (h.sale hsale).phase with
  | opened payment credit adjustment reversals =>
    simp only [payment, ok_steps] at hp
    simp only [upsertCredit, credit, ok_steps] at hc
    obtain ⟨hunused, rfl⟩ := hp
    obtain ⟨-, rfl⟩ := hc
    refine advances_recorded h hsale payment adjustment reversals ?_ rfl rfl rfl ?_
    · exact
        { payment := rfl, credit := rfl, provider := hprovider.symm
          providerPaymentId := hppid, userId := rfl
          amountMinor := by simp [husd]
          amountNano := rfl, account := rfl, creditNano := rfl, ref := rfl }
    · intro id1 sale1 p1 h1 hp1 heq
      have hnot := any_eq_false_iff.mp hunused id1 sale1 h1
      simp [hp1, heq] at hnot
  | paid p0 c0 recorded _ _ _ _ checkout =>
    simp only [recorded.payment, ok_steps] at hp
    simp only [upsertCredit, recorded.credit, ok_steps] at hc
    obtain ⟨-, -, rfl⟩ := hp
    obtain ⟨-, rfl⟩ := hc
    -- a repeated paid event finds both rows as they are
    have hsame : { sale with payment := some p0, credit := some c0 } = sale := by
      rw [← recorded.payment, ← recorded.credit]
    rw [hsame]
    exact advances_withStatus h hsale (by simp [checkout])
  | voided _ _ _ _ _ _ _ _ checkout => exact absurd checkout hstatus
  | compensated _ _ _ _ _ _ _ _ _ checkout => exact absurd checkout hstatus

end

theorem EngineOk.reversed (h : EngineOk engine id sale) {c' : EngineCredit}
    (hp : sale.payment = some p) (hc : sale.credit = some c)
    (hadj : sale.adjustment = none) (hattempts : c'.attempts = c.attempts)
    (hconfirmed : c'.status = .confirmed → c.status = .confirmed)
    (hp' : sale'.payment = some { p with status := .refunded })
    (hc' : sale'.credit = some c')
    (hadj' : ∀ a, sale'.adjustment = some a → a.status ≠ .confirmed)
    (haccount : sale'.checkout.engineAccountId = sale.checkout.engineAccountId)
    (hamount : sale'.checkout.amountNano = sale.checkout.amountNano) :
    EngineOk engine id sale' := by
  have hdebit : applied engine p.adjustmentRef = false := by
    by_contra happ
    rw [Bool.not_eq_false] at happ
    have hsome := (h.debited p hp happ).1
    rw [hadj] at hsome
    cases hsome
  refine
    { unpaid := fun h0 => by rw [hp'] at h0; cases h0
      entries := ?_, credited := ?_, confirmed := ?_, debited := ?_, adjusted := ?_ }
  · intro p0 hp0
    cases hp'.symm.trans hp0
    rw [h.entries p hp]
    simp only [expected, Sale.creditEntry, Sale.debitEntry, haccount, hamount]
    rfl
  · intro p0 c0 hp0 hc0 happ
    cases hp'.symm.trans hp0
    cases hc'.symm.trans hc0
    rw [hattempts]
    exact h.credited p c hp hc happ
  · intro p0 c0 hp0 hc0 hstatus
    cases hp'.symm.trans hp0
    cases hc'.symm.trans hc0
    exact h.confirmed p c hp hc (hconfirmed hstatus)
  · intro p0 hp0 happ
    cases hp'.symm.trans hp0
    rw [show applied engine p.adjustmentRef = true from happ] at hdebit
    cases hdebit
  · intro p0 a _ ha hstatus
    exact absurd hstatus (hadj' a ha)

theorem advances_reverse (h : Inv s) (hsale : s.sales.find? id = some sale)
    (hrecorded : Recorded sale p c) (hlive : c.Live) (hadj : sale.adjustment = none)
    (hreversals : sale.reversals = []) (hok : reverse s id sale p c input = .ok sale') :
    Advances s id sale (sale'.withStatus .refunded) ∧
      sale'.checkout = sale.checkout ∧ sale'.payment.isSome := by
  have hengine := (h.sale hsale).engine
  have hapart : ∀ {sale2 : Sale}, sale2.checkout = sale.checkout →
      sale2.payment = some { p with status := .refunded } →
      ∀ {id1 sale1}, s.sales.find? id1 = some sale1 → id1 ≠ id →
        Apart sale1 (sale2.withStatus .refunded) ∧ Apart (sale2.withStatus .refunded) sale1 := by
    intro sale2 hcheckout hpayment id1 sale1 h1 hne
    refine h.apart_same hsale ?_ ?_ ?_ h1 hne
    · simp [Sale.withStatus, hcheckout]
    · simp [Sale.withStatus, hcheckout]
    · simp [Sale.withStatus, hpayment, hrecorded.payment]
  have hlater : ∀ {sale2 : Sale} {c'}, sale2.checkout = sale.checkout →
      sale2.payment = some { p with status := .refunded } →
      sale2.credit = some c' → c.attempts ≤ c'.attempts →
      (c.status = .confirmed → c'.status = .confirmed) →
      Later sale (sale2.withStatus .refunded) := by
    intro sale2 c' hcheckout hpayment hcredit hle hconf
    refine
      { account := by simp [Sale.withStatus, hcheckout]
        amount := by simp [Sale.withStatus, hcheckout]
        payment := fun p0 hp0 => ?_, credit := fun c0 hc0 => ?_
        adjustment := fun hsome => by rw [hadj] at hsome; cases hsome }
    · cases hp0.symm.trans hrecorded.payment
      exact ⟨_, hpayment, rfl, rfl⟩
    · cases hc0.symm.trans hrecorded.credit
      exact ⟨c', hcredit, hle, hconf⟩
  unfold reverse at hok
  split at hok
  · rename_i hnever
    simp only [pure_eq_ok] at hok
    subst hok
    simp only [EngineCredit.definitelyNeverDelivered, guard_iffs] at hnever
    have hpending := hlive.2.mp hnever.1
    refine ⟨⟨?_, ?_, ?_, ?_⟩, rfl, rfl⟩
    · exact hlater rfl rfl rfl (Nat.le_refl _) (fun hconf => by
        rw [hpending] at hconf
        cases hconf)
    · exact .voided _ _ { hrecorded with payment := rfl, credit := rfl } rfl rfl
        hnever.1 hadj (by simp [Sale.withStatus, hreversals]) rfl
    · refine hengine.reversed hrecorded.payment hrecorded.credit hadj ?_ ?_ rfl rfl
        ?_ rfl rfl
      · rfl
      · simp
      · intro a ha
        rw [show sale.adjustment = some a from ha] at hadj
        cases hadj
    · intro id1 sale1 h1 hne
      refine hapart ?_ ?_ h1 hne <;> rfl
  · rename_i hdelivered
    simp only [ok_steps, upsertAdjustment, hadj] at hok
    obtain ⟨a, ⟨-, ha⟩, rfl⟩ := hok
    have hrevive : c.revive = c := by simp [EngineCredit.revive, hlive.1]
    have hattempts : 0 < c.attempts := by
      by_contra hzero
      have h0 : c.attempts = 0 := by omega
      simp [EngineCredit.definitelyNeverDelivered, h0, hlive.2.mp h0] at hdelivered
    rw [hrevive]
    refine ⟨⟨?_, ?_, ?_, ?_⟩, rfl, rfl⟩
    · exact hlater rfl rfl rfl (Nat.le_refl _) (fun hconf => hconf)
    · refine .compensated _ _ a { hrecorded with payment := rfl, credit := rfl } rfl
        hlive hattempts ?_ (by simp [Sale.withStatus, hreversals]) rfl
      subst ha
      exact
        { adjustment := rfl, kind := rfl, account := hrecorded.account
          amountNano := congrArg Neg.neg hrecorded.creditNano
          ref := rfl, alive := by simp }
    · refine hengine.reversed hrecorded.payment hrecorded.credit hadj ?_ ?_ rfl rfl
        ?_ rfl rfl
      · rfl
      · exact fun hconf => hconf
      · intro a' ha'
        cases ha'
        subst ha
        simp
    · intro id1 sale1 h1 hne
      refine hapart ?_ ?_ h1 hne <;> rfl

theorem advances_applyRefunded (h : Inv s) (hsale : s.sales.find? id = some sale)
    (hok : applyRefunded s id sale input = .ok sale') :
    Advances s id sale (sale'.withStatus .refunded) ∧
      sale'.checkout = sale.checkout ∧
      (sale'.payment.isSome ↔ sale.payment.isSome) := by
  -- a second refund of a payment changes nothing
  have hagain : ∀ {p c}, Recorded sale p c → p.status = .refunded →
      sale.checkout.status = .refunded →
      Advances s id sale (sale'.withStatus .refunded) ∧
        sale'.checkout = sale.checkout ∧
        (sale'.payment.isSome ↔ sale.payment.isSome) := by
    intro p c recorded hstatus hrefunded
    simp only [applyRefunded, recorded.payment, recorded.credit, hstatus, true_or,
      if_true, Except.ok.injEq] at hok
    have hsame : sale' = sale := by
      have hp : { p with status := .refunded } = p := by rw [← hstatus]
      rw [← hok, hp, ← recorded.payment, ← recorded.credit]
    subst hsame
    exact ⟨advances_withStatus h hsale (by simp [hrefunded]), rfl, Iff.rfl⟩
  cases (h.sale hsale).phase with
  | opened payment credit adjustment reversals =>
    simp only [applyRefunded, payment, Except.ok.injEq] at hok
    subst hok
    refine ⟨⟨Later.setCheckout sale rfl rfl, ?_, ?_, ?_⟩, rfl, Iff.rfl⟩
    · exact .opened payment credit adjustment reversals
    · exact (h.sale hsale).engine.setCheckout rfl rfl
    · intro id1 sale1 h1 hne
      refine h.apart_same hsale ?_ ?_ ?_ h1 hne <;> rfl
  | paid _ _ recorded status live adjustment reversals =>
    simp only [applyRefunded, recorded.payment, recorded.credit, status,
      reduceCtorEq, or_self, if_false] at hok
    obtain ⟨hadv, hcheckout, hsome⟩ :=
      advances_reverse h hsale recorded live adjustment reversals hok
    exact ⟨hadv, hcheckout, by simp [hsome, recorded.payment]⟩
  | voided _ _ recorded status _ _ _ _ checkout => exact hagain recorded status checkout
  | compensated _ _ _ recorded status _ _ _ _ checkout => exact hagain recorded status checkout

structure Matches (sale : Sale) (input : VerifiedCheckoutPaymentEvent) : Prop where
  provider : sale.checkout.provider = input.provider
  ppid : sale.checkout.providerPaymentId = some input.providerPaymentId
  amount : sale.checkout.amountUsd = input.amountUsd

theorem seen_cons {events : List WebhookEvent} {ev : WebhookEvent}
    {state : VerifiedPaymentState} : Seen (ev :: events) id state ↔
      (ev.checkoutId = id ∧ ev.state = state) ∨ Seen events id state := by
  simp [Seen]

theorem advances_applyState (h : Inv s) (hsale : s.sales.find? id = some sale)
    (hmatch : Matches sale input)
    (hok : applyState s id sale input proposed = .ok (sale', status)) :
    Advances s id sale
        (sale'.withStatus (nextCheckoutStatus sale'.checkout.status status)) ∧
      (nextCheckoutStatus sale'.checkout.status status = .refunded ↔
        input.state = .refunded ∨ sale.checkout.status = .refunded) ∧
      nextCheckoutStatus sale'.checkout.status status ≠ .creating ∧
      (sale'.payment.isSome ↔ sale.payment.isSome ∨
        (input.state = .paid ∧ sale.checkout.status ≠ .refunded)) := by
  unfold applyState at hok
  split at hok
  · rename_i hstate
    split at hok
    · rename_i hrefunded
      simp only [Except.ok.injEq, Prod.mk.injEq] at hok
      obtain ⟨rfl, rfl⟩ := hok
      refine ⟨?_, by simp [nextCheckoutStatus, hrefunded],
        by simp [nextCheckoutStatus], by simp [hrefunded]⟩
      exact advances_withStatus h hsale (by simp [nextCheckoutStatus, hrefunded])
    · rename_i hrefunded
      simp only [ok_steps] at hok
      obtain ⟨sale1, hpaid, rfl, rfl⟩ := hok
      obtain ⟨hadv, hcheckout, hsome⟩ := advances_applyPaid h hsale hmatch.provider
        hmatch.ppid hmatch.amount hrefunded hpaid
      have hnext : nextCheckoutStatus sale1.checkout.status .paid = .paid := by
        simp [nextCheckoutStatus]
      rw [hnext]
      exact ⟨hadv, by simp [hstate, hrefunded], by simp, by simp [hsome, hstate, hrefunded]⟩
  · rename_i hstate
    simp only [ok_steps] at hok
    obtain ⟨sale1, hrefund, rfl, rfl⟩ := hok
    obtain ⟨hadv, hcheckout, hsome⟩ := advances_applyRefunded h hsale hrefund
    have hnext : nextCheckoutStatus sale1.checkout.status .refunded = .refunded := by
      simp [nextCheckoutStatus]
    rw [hnext]
    exact ⟨hadv, by simp [hstate], by simp, by simp [hsome, hstate]⟩
  all_goals
    rename_i hstate
    simp only [Except.ok.injEq, Prod.mk.injEq, hstate, stateForCheckout] at hok
    obtain ⟨rfl, rfl⟩ := hok
    have hiff : ∀ new, new = CheckoutState.pending ∨ new = CheckoutState.canceled →
        (nextCheckoutStatus sale.checkout.status new = .refunded ↔
          sale.checkout.status = .refunded) ∧
        nextCheckoutStatus sale.checkout.status new ≠ .creating := by
      intro new hnew
      cases sale.checkout.status <;> rcases hnew with rfl | rfl <;> decide
    refine ⟨advances_withStatus h hsale (hiff _ (by simp)).1, ?_,
      (hiff _ (by simp)).2, by simp [hstate]⟩
    rw [(hiff _ (by simp)).1]
    simp [hstate]

theorem inv_applyVerifiedCheckoutPaymentEvent (h : Inv s)
    (hok : applyVerifiedCheckoutPaymentEvent s input proposed = .ok s') : Inv s' := by
  simp only [applyVerifiedCheckoutPaymentEvent, ok_steps] at hok
  obtain ⟨-, hok⟩ := hok
  split at hok
  · simp only [pure_eq_ok] at hok
    exact hok ▸ h
  · simp only [ok_steps] at hok
    obtain ⟨sale, hsale, hprovider, hppid, hamount, ⟨sale', status⟩, hstep, rfl⟩ := hok
    have hmatch : Matches sale input :=
      ⟨by simpa using hprovider, by simpa using hppid, by simpa using hamount⟩
    obtain ⟨hadv, hrefunded, hcreating, hpaid⟩ := advances_applyState h hsale hmatch hstep
    have hevents := (h.sale hsale).events
    refine h.update hsale hadv.later hadv.phase hadv.engine ?_ ?_ ?_ hadv.apart
    · refine
        { refunded := ?_, recorded := ?_, paid := ?_
          creating := fun hc => absurd hc hcreating }
      · rw [seen_cons, hevents.refunded]
        simpa [Sale.withStatus] using hrefunded.symm
      · intro hsome
        rw [seen_cons]
        rcases hpaid.mp hsome with hold | ⟨hstate, -⟩
        · exact .inr (hevents.recorded hold)
        · exact .inl ⟨rfl, hstate⟩
      · intro hseen
        rw [seen_cons] at hseen ⊢
        by_cases hr : sale.checkout.status = .refunded
        · exact .inr (.inr (hevents.refunded.mpr hr))
        · rcases hseen with ⟨-, hstate⟩ | hseen
          · exact .inl (hpaid.mpr (.inr ⟨hstate, hr⟩))
          · rcases hevents.paid hseen with hsome | hseen
            · exact .inl (hpaid.mpr (.inl hsome))
            · exact .inr (.inr hseen)
    · intro id1 state hne
      rw [seen_cons]
      simp [Ne.symm hne]
    · intro e he
      rcases mem_cons.mp he with rfl | he
      · exact .inr rfl
      · exact .inl he

/-! ## Verified events are accepted -/

theorem anyOther_eq_false {β : Type} {f : Sale → Option β} {p : β → Bool}
    (h : ∀ id1 sale1 b, s.sales.find? id1 = some sale1 → id1 ≠ id →
      f sale1 = some b → p b = false) :
    anyOther s id (fun other => (f other).any p) = false := by
  refine any_eq_false_iff.mpr (fun id1 sale1 h1 => ?_)
  by_cases hne : id1 = id
  · simp [hne]
  · cases hb : f sale1 with
    | none => simp [hb]
    | some b => simp [hb, h id1 sale1 b h1 hne hb]

theorem accepts_applyPaid (h : Inv s) (hsale : s.sales.find? id = some sale)
    (hmatch : Matches sale input) (hstatus : sale.checkout.status ≠ .refunded)
    (hfresh : ∀ {id1 sale1 p1}, s.sales.find? id1 = some sale1 →
      sale1.payment = some p1 → p1.id ≠ proposed) :
    ∃ sale', applyPaid s id sale input proposed = .ok sale' := by
  have hpayments : anyOther s id (fun other => other.payment.any (fun p =>
      p.provider == input.provider
        && p.providerPaymentId == input.providerPaymentId)) = false := by
    refine anyOther_eq_false (fun id1 sale1 p1 h1 hne hp1 => ?_)
    have hnot := h.other_payment hsale hmatch.ppid h1 hp1 hne
    rw [hmatch.provider] at hnot
    simpa using hnot
  have hcredits : anyOther s id (fun other => other.credit.any (fun c =>
      c.idempotencyRef == creditRef input.provider input.providerPaymentId)) = false := by
    refine anyOther_eq_false (fun id1 sale1 c1 h1 hne hc1 => ?_)
    obtain ⟨p1, hr1⟩ := (h.sale h1).phase.recorded_of_credit hc1
    rw [beq_eq_false_iff_ne, hr1.ref]
    intro heq
    obtain ⟨hprovider, hppid⟩ := creditRef_inj heq
    exact h.other_payment hsale hmatch.ppid h1 hr1.payment hne
      ⟨hprovider.trans hmatch.provider.symm, hppid⟩
  cases (h.sale hsale).phase with
  | opened payment credit =>
    have hunused : s.sales.any (fun _ other =>
        other.payment.any (fun p => p.id == proposed)) = false := by
      refine any_eq_false_iff.mpr (fun id1 sale1 h1 => ?_)
      cases hp1 : sale1.payment with
      | none => rfl
      | some => simpa using hfresh h1 hp1
    exact ⟨_, by
      simp only [applyPaid, upsertPayment, upsertCredit, payment, credit, hpayments, hcredits,
        hunused, failIf, if_bool]
      rfl⟩
  | paid p c recorded =>
    have hprovider : p.provider = input.provider := recorded.provider.trans hmatch.provider
    have hppid : p.providerPaymentId = input.providerPaymentId :=
      some.inj (recorded.providerPaymentId.symm.trans hmatch.ppid)
    have href : c.idempotencyRef =
        creditRef input.provider input.providerPaymentId := by
      rw [recorded.ref, Payment.creditRef, hprovider, hppid]
    exact ⟨_, by
      simp only [applyPaid, upsertPayment, upsertCredit, recorded.payment, recorded.credit,
        hpayments, hprovider, hppid, href, recorded.userId, recorded.amountMinor,
        recorded.amountNano, recorded.account, recorded.creditNano, hmatch.amount,
        bne_self_eq_false, Bool.or_false, failIf, if_bool]
      rfl⟩
  | voided _ _ _ _ _ _ _ _ checkout => exact absurd checkout hstatus
  | compensated _ _ _ _ _ _ _ _ _ checkout => exact absurd checkout hstatus

theorem accepts_applyRefunded (h : Inv s) (hsale : s.sales.find? id = some sale)
    (input : VerifiedCheckoutPaymentEvent) :
    ∃ sale', applyRefunded s id sale input = .ok sale' := by
  cases (h.sale hsale).phase with
  | opened payment => exact ⟨sale, by simp [applyRefunded, payment]⟩
  | paid p _ recorded pstatus _ adjustment =>
    have hadjustments : anyOther s id (fun other => other.adjustment.any (fun a =>
        a.idempotencyRef == adjustmentRef p.id)) = false := by
      refine anyOther_eq_false (fun id1 sale1 a1 h1 hne ha1 => ?_)
      obtain ⟨p1, c1, hr1, hadj1⟩ := (h.sale h1).phase.recorded_of_adjustment ha1
      rw [beq_eq_false_iff_ne, hadj1.ref]
      intro heq
      exact (h.apart h1 hsale hne).payment p1 p hr1.payment recorded.payment
        (adjustmentRef_inj heq)
    simp only [applyRefunded, recorded.payment, recorded.credit, pstatus,
      reduceCtorEq, or_self, if_false, reverse]
    split
    · exact ⟨_, rfl⟩
    · exact ⟨_, by
        simp only [upsertAdjustment, hadjustments, adjustment, failIf, if_bool]
        rfl⟩
  | voided p c recorded pstatus | compensated p c a recorded pstatus =>
    exact ⟨_, by
      simp only [applyRefunded, recorded.payment, recorded.credit, pstatus, true_or, if_true]
      rfl⟩

theorem accepts_event (h : Inv s) (hsale : s.sales.find? input.checkoutId = some sale)
    (hmatch : Matches sale input)
    (hfresh : ∀ {id1 sale1 p1}, s.sales.find? id1 = some sale1 →
      sale1.payment = some p1 → p1.id ≠ proposed) :
    ∃ s', applyVerifiedCheckoutPaymentEvent s input proposed = .ok s' := by
  have hpositive : ¬ input.amountUsd ≤ 0 := by
    have hpos := sale.checkout.positive
    rw [hmatch.amount] at hpos
    omega
  have hstate : ∃ r, applyState s input.checkoutId sale input proposed = .ok r := by
    unfold applyState
    split
    · split
      · exact ⟨_, rfl⟩
      · rename_i hstatus
        obtain ⟨sale', hok⟩ := accepts_applyPaid h hsale hmatch hstatus hfresh
        exact ⟨_, by rw [hok]; rfl⟩
    · obtain ⟨sale', hok⟩ := accepts_applyRefunded h hsale input
      exact ⟨_, by rw [hok]; rfl⟩
    · exact ⟨_, rfl⟩
    · exact ⟨_, rfl⟩
  obtain ⟨⟨sale', status⟩, hstate⟩ := hstate
  unfold applyVerifiedCheckoutPaymentEvent
  simp only [hpositive, decide_false, failIf, if_bool]
  split
  · exact ⟨s, rfl⟩
  · exact ⟨_, by
      simp only [orFail, hsale, bind, Except.bind, hmatch.provider, hmatch.ppid, hmatch.amount,
        bne_self_eq_false, if_bool, hstate]
      rfl⟩

/-! ## Runs -/

theorem inv_empty : Inv Store.empty where
  sale h := by simp [Store.empty] at h
  apart h := by simp [Store.empty] at h
  job j hj := by simp [Store.empty] at hj
  entry x hx := by simp [Store.empty, Table.empty] at hx
  event e he := by simp [Store.empty] at he

theorem inv_committed {result : Except Error Store} (h : Inv s)
    (hok : ∀ s', result = .ok s' → Inv s') : Inv (committed s result) := by
  unfold committed
  split
  · exact hok _ rfl
  · exact h

theorem inv_exec (s : Store) (op : Op) (h : Inv s) : Inv (exec s op) := by
  cases op with
  | createCheckoutSession => exact inv_committed h (fun _ => inv_createCheckoutSession h)
  | activateCheckoutSession =>
    exact inv_committed h (fun _ => inv_activateCheckoutSession h)
  | failCheckoutSession id => exact inv_failCheckoutSession h id
  | applyVerifiedCheckoutPaymentEvent =>
    exact inv_committed h (fun _ => inv_applyVerifiedCheckoutPaymentEvent h)
  | claimNextCredit id lease => exact inv_claimNextCredit h id lease
  | recoverStaleCredit id => exact inv_recoverStaleCredit h id
  | claimNextAdjustment id lease => exact inv_claimNextAdjustment h id lease
  | recoverStaleAdjustment id => exact inv_recoverStaleAdjustment h id
  | deliver i reaches returns => exact inv_deliver h i reaches returns
  | confirm i => exact inv_confirm h i
  | retry i => exact inv_retry h i
  | drop i => exact inv_drop h i

theorem inv_run (ops : List Op) : Inv (run exec Store.empty ops) :=
  run_invariant (fun s op h => inv_exec s op h) inv_empty ops

/-- Nothing of the sale is still to be delivered. -/
structure Sale.Settled (sale : Sale) : Prop where
  credit : ∀ c, sale.credit = some c → c.status = .confirmed ∨ c.status = .dead
  adjustment : ∀ a, sale.adjustment = some a →
    a.status = .confirmed ∨ a.status = .dead

def netNano (s : Store) (id : String) : Int :=
  ((entriesOf s.engine id).map Entry.amountNano).sum

/-- What is promised for one checkout, in one state. -/
structure NetsOnce (s : Store) (id : String) (sale : Sale) : Prop where
  /-- At most one credit, at most one debit, and the debit after its credit. -/
  entries : entriesOf s.engine id <+: [sale.creditEntry id, sale.debitEntry id]
  oneCredit : ((entriesOf s.engine id).filter
    (fun e => 0 < e.amountNano)).length ≤ 1
  oneDebit : ((entriesOf s.engine id).filter
    (fun e => e.amountNano < 0)).length ≤ 1
  /-- Paid and never refunded. -/
  kept : sale.Settled → Seen s.webhookEvents id .paid →
    ¬ Seen s.webhookEvents id .refunded → netNano s id = sale.checkout.amountNano
  /-- Never paid, or refunded. -/
  returned : sale.Settled → (¬ Seen s.webhookEvents id .paid ∨
    Seen s.webhookEvents id .refunded) → netNano s id = 0
  oneReversal : sale.reversals.length ≤ 1
  reversed : sale.reversals ≠ [] ↔
    sale.payment.isSome ∧ Seen s.webhookEvents id .refunded
  /-- A verified event for this checkout is applied, whenever it comes. -/
  accepts : ∀ (input : VerifiedCheckoutPaymentEvent) (proposed : String),
    input.checkoutId = id → Matches sale input →
    (∀ id₁ sale₁ p₁, s.sales.find? id₁ = some sale₁ → sale₁.payment = some p₁ →
      p₁.id ≠ proposed) →
    ∃ s', applyVerifiedCheckoutPaymentEvent s input proposed = .ok s'

theorem SaleOk.entries_cases (h : SaleOk s id sale) :
    entriesOf s.engine id = [] ∨ entriesOf s.engine id = [sale.creditEntry id] ∨
      entriesOf s.engine id = [sale.creditEntry id, sale.debitEntry id] := by
  cases hp : sale.payment with
  | none => exact .inl (h.engine.unpaid hp)
  | some p =>
    rw [h.engine.entries p hp, expected]
    by_cases hdebit : applied s.engine p.adjustmentRef = true
    · obtain ⟨-, c, hc, hconf⟩ := h.engine.debited p hp hdebit
      rw [h.engine.confirmed p c hp hc hconf, hdebit]
      exact .inr (.inr rfl)
    · by_cases hcredit : applied s.engine p.creditRef = true
      · simp [hcredit, hdebit]
      · simp [hcredit, hdebit]

theorem SaleOk.net (h : SaleOk s id sale) (hsettled : sale.Settled) :
    netNano s id = if sale.payment.isSome ∧ sale.checkout.status ≠ .refunded then
      sale.checkout.amountNano else 0 := by
  have hengine := h.engine
  cases h.phase with
  | opened payment => simp [netNano, hengine.unpaid payment, payment]
  | paid p c recorded status live adjustment _ checkout =>
    have hconf : c.status = .confirmed :=
      (hsettled.credit c recorded.credit).resolve_right live.1
    have hcredit := hengine.confirmed p c recorded.payment recorded.credit hconf
    have hdebit : applied s.engine p.adjustmentRef = false := by
      by_contra happ
      rw [Bool.not_eq_false] at happ
      have hsome := (hengine.debited p recorded.payment happ).1
      rw [adjustment] at hsome
      cases hsome
    simp [netNano, hengine.entries p recorded.payment, expected, hcredit, hdebit,
      recorded.payment, checkout, Sale.creditEntry]
  | voided p c recorded _ _ _ adjustment _ checkout =>
    have hcredit : applied s.engine p.creditRef = false := by
      by_contra happ
      rw [Bool.not_eq_false] at happ
      have hpos := hengine.credited p c recorded.payment recorded.credit happ
      omega
    have hdebit : applied s.engine p.adjustmentRef = false := by
      by_contra happ
      rw [Bool.not_eq_false] at happ
      have hsome := (hengine.debited p recorded.payment happ).1
      rw [adjustment] at hsome
      cases hsome
    simp [netNano, hengine.entries p recorded.payment, expected, hcredit, hdebit, checkout]
  | compensated p c a recorded status live _ adjustment _ checkout =>
    have hconf : c.status = .confirmed :=
      (hsettled.credit c recorded.credit).resolve_right live.1
    have hcredit := hengine.confirmed p c recorded.payment recorded.credit hconf
    have haconf : a.status = .confirmed :=
      (hsettled.adjustment a adjustment.adjustment).resolve_right adjustment.alive
    have hdebit := hengine.adjusted p a recorded.payment adjustment.adjustment haconf
    simp [netNano, hengine.entries p recorded.payment, expected, hcredit, hdebit,
      checkout, Sale.creditEntry, Sale.debitEntry]

theorem SaleOk.reversals (h : SaleOk s id sale) : sale.reversals.length ≤ 1 ∧
    (sale.reversals ≠ [] ↔ sale.payment.isSome ∧ Seen s.webhookEvents id .refunded) := by
  rw [h.events.refunded]
  cases h.phase with
  | opened payment _ _ reversals => simp [payment, reversals]
  | paid _ _ _ _ _ _ reversals checkout => simp [reversals, checkout]
  | voided _ _ recorded _ _ _ _ reversals checkout
  | compensated _ _ _ recorded _ _ _ _ reversals checkout =>
    have hne : sale.reversals ≠ [] := fun h0 => by simp [h0] at reversals
    simp [reversals, hne, recorded.payment, checkout]

theorem Checkout.amountNano_pos (c : Checkout) : 0 < c.amountNano := by
  rw [c.exact, nanoUsd]
  have hpos := c.positive
  omega

/-- In every run of events, workers and crashes, each checkout nets to one
credit or to nothing. -/
theorem payment_nets_once (ops : List Op) (id : String) (sale : Sale)
    (hsale : (run exec Store.empty ops).sales.find? id = some sale) :
    NetsOnce (run exec Store.empty ops) id sale := by
  have hinv := inv_run ops
  have hok := hinv.sale hsale
  have hpos := sale.checkout.amountNano_pos
  have hneg : ¬ sale.checkout.amountNano < 0 := by omega
  have hcases := hok.entries_cases
  have hevents := hok.events
  refine
    { entries := ?_, oneCredit := ?_, oneDebit := ?_, kept := ?_, returned := ?_,
      oneReversal := hok.reversals.1, reversed := hok.reversals.2, accepts := ?_ }
  · rcases hcases with h | h | h <;> simp [h]
  · rcases hcases with h | h | h <;> simp [h, Sale.creditEntry, Sale.debitEntry, hpos, hneg]
  · rcases hcases with h | h | h <;> simp [h, Sale.creditEntry, Sale.debitEntry, hpos, hneg]
  · intro hsettled hpaid hkept
    have hsome := (hevents.paid hpaid).resolve_right hkept
    rw [hevents.refunded] at hkept
    rw [hok.net hsettled, if_pos ⟨hsome, hkept⟩]
  · intro hsettled hor
    rw [hok.net hsettled, if_neg]
    rintro ⟨hsome, hkept⟩
    rcases hor with hunpaid | hrefunded
    · exact hunpaid (hevents.recorded hsome)
    · exact hkept (hevents.refunded.mp hrefunded)
  · rintro input proposed rfl hmatch hfresh
    exact accepts_event hinv hsale hmatch (fun h₁ hp₁ => hfresh _ _ _ h₁ hp₁)

/-- The first worker delivers the sale and dies; the refund comes before the second
one delivers it. -/
def refundedInFlight : List Op :=
  let event (state : VerifiedPaymentState) (eventId : String) : Op :=
    .applyVerifiedCheckoutPaymentEvent
      { provider := .platega, providerEventId := eventId, providerPaymentId := "t",
        checkoutId := "c", state, amountUsd := 20 } "p"
  [.createCheckoutSession "c" "user" "account" .platega 20,
   .activateCheckoutSession "c" "t", event .paid "1", .claimNextCredit "c" "w1",
   .deliver 0 true false, .drop 0, event .refunded "2", event .paid "3",
   .recoverStaleCredit "c", .claimNextCredit "c" "w2", .deliver 0 true true,
   .confirm 0, .drop 0, .claimNextAdjustment "c" "w3", .deliver 0 true true,
   .confirm 0, .drop 0]

/-- The sale and its refund are delivered once each. -/
theorem payment_nets_once_refundedInFlight :
    ∃ sale, (run exec Store.empty refundedInFlight).sales.find? "c" = some sale ∧
      NetsOnce (run exec Store.empty refundedInFlight) "c" sale ∧
      (entriesOf (run exec Store.empty refundedInFlight).engine "c").map
        Entry.amountNano = [20000000000, -20000000000] := by
  obtain ⟨sale, hsale⟩ := isSome_iff_exists.mp
    (show ((run exec Store.empty refundedInFlight).sales.find? "c").isSome by decide)
  exact ⟨sale, hsale, payment_nets_once _ _ _ hsale, by decide⟩

end ApiToken.Commerce
