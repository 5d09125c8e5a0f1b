import ApiToken.Commerce.Payments

/-!
# The invariant of a sale

The engine applies nothing for a checkout, or its credit, or its credit and
then its debit; which of the three is decided by the references it has seen.
A sale goes through four phases: open, paid, and from there either voided,
when its credit was never claimed, or compensated. What a worker holds about
a sale stays true while the sale moves on.
-/

namespace ApiToken.Commerce

variable {j : Job} {events : List WebhookEvent} {p : Payment} {c c' : EngineCredit}
  {a : EngineAdjustment} {status : JobStatus}

/-! ## References -/

theorem creditRef_inj {p p' : Provider} {x x' : String}
    (h : creditRef p x = creditRef p' x') : p = p' ∧ x = x' := by
  cases p <;> cases p' <;>
    simp [creditRef, Provider.code, String.ext_iff] at h ⊢
  all_goals exact h

theorem creditRef_ne_adjustmentRef (p : Provider) (x id : String) :
    creditRef p x ≠ adjustmentRef id := by
  cases p <;> simp [creditRef, adjustmentRef, Provider.code, String.ext_iff]

theorem adjustmentRef_inj {id id' : String}
    (h : adjustmentRef id = adjustmentRef id') : id = id' := by
  simp only [adjustmentRef, String.ext_iff, String.toList_append, append_cancel_left_eq] at h ⊢
  exact h

def Payment.creditRef (p : Payment) : String :=
  Commerce.creditRef p.provider p.providerPaymentId

def Payment.adjustmentRef (p : Payment) : String := Commerce.adjustmentRef p.id

theorem Payment.refs_ne (p p' : Payment) : p.creditRef ≠ p'.adjustmentRef :=
  creditRef_ne_adjustmentRef _ _ _

/-! ## The invariant -/

def applied (engine : Table String Entry) (ref : String) : Bool :=
  (engine.find? ref).isSome

def entriesOf (engine : Table String Entry) (id : String) : List Entry :=
  (engine.rows.map Prod.snd).filter (fun e => e.checkoutId = id)

def Sale.creditEntry (sale : Sale) (id : String) : Entry :=
  { accountId := sale.checkout.engineAccountId,
    amountNano := sale.checkout.amountNano, checkoutId := id }

def Sale.debitEntry (sale : Sale) (id : String) : Entry :=
  { accountId := sale.checkout.engineAccountId,
    amountNano := -sale.checkout.amountNano, checkoutId := id }

def expected (engine : Table String Entry) (id : String) (sale : Sale)
    (p : Payment) : List Entry :=
  (if applied engine p.creditRef then [sale.creditEntry id] else [])
    ++ (if applied engine p.adjustmentRef then [sale.debitEntry id] else [])

/-- The payment and the credit are the checkout's. -/
structure Recorded (sale : Sale) (p : Payment) (c : EngineCredit) : Prop where
  payment : sale.payment = some p
  credit : sale.credit = some c
  provider : p.provider = sale.checkout.provider
  providerPaymentId : sale.checkout.providerPaymentId = some p.providerPaymentId
  userId : p.userId = sale.checkout.userId
  amountMinor : p.amountMinor = sale.checkout.amountUsd * 100
  amountNano : p.amountNano = sale.checkout.amountNano
  account : c.engineAccountId = sale.checkout.engineAccountId
  creditNano : c.amountNano = sale.checkout.amountNano
  ref : c.idempotencyRef = p.creditRef

def EngineCredit.Live (c : EngineCredit) : Prop :=
  c.status ≠ .dead ∧ (c.attempts = 0 ↔ c.status = .pending)

/-- The adjustment takes back what the sale was. -/
structure AdjustmentOk (sale : Sale) (p : Payment) (a : EngineAdjustment) :
    Prop where
  adjustment : sale.adjustment = some a
  kind : a.kind = .refund
  account : a.engineAccountId = sale.checkout.engineAccountId
  amountNano : a.amountNano = -sale.checkout.amountNano
  ref : a.idempotencyRef = p.adjustmentRef
  alive : a.status ≠ .dead

/-- How far a sale has come. -/
inductive Phase (sale : Sale) : Prop where
  | opened (payment : sale.payment = none) (credit : sale.credit = none)
      (adjustment : sale.adjustment = none) (reversals : sale.reversals = [])
  | paid (p : Payment) (c : EngineCredit) (recorded : Recorded sale p c)
      (status : p.status = .paid) (live : c.Live)
      (adjustment : sale.adjustment = none) (reversals : sale.reversals = [])
      (checkout : sale.checkout.status ≠ .refunded)
  | voided (p : Payment) (c : EngineCredit) (recorded : Recorded sale p c)
      (status : p.status = .refunded) (dead : c.status = .dead)
      (attempts : c.attempts = 0) (adjustment : sale.adjustment = none)
      (reversals : sale.reversals.length = 1)
      (checkout : sale.checkout.status = .refunded)
  | compensated (p : Payment) (c : EngineCredit) (a : EngineAdjustment)
      (recorded : Recorded sale p c) (status : p.status = .refunded)
      (live : c.Live) (attempts : 0 < c.attempts)
      (adjustment : AdjustmentOk sale p a)
      (reversals : sale.reversals.length = 1)
      (checkout : sale.checkout.status = .refunded)

/-- The engine's entries are those of the sale. -/
structure EngineOk (engine : Table String Entry) (id : String) (sale : Sale) :
    Prop where
  unpaid : sale.payment = none → entriesOf engine id = []
  entries : ∀ p, sale.payment = some p →
    entriesOf engine id = expected engine id sale p
  /-- Only a claimed credit reaches the engine. -/
  credited : ∀ p c, sale.payment = some p → sale.credit = some c →
    applied engine p.creditRef = true → 0 < c.attempts
  confirmed : ∀ p c, sale.payment = some p → sale.credit = some c →
    c.status = .confirmed → applied engine p.creditRef = true
  /-- A debit reaches the engine only after the credit is confirmed. -/
  debited : ∀ p, sale.payment = some p → applied engine p.adjustmentRef = true →
    sale.adjustment.isSome ∧ ∃ c, sale.credit = some c ∧ c.status = .confirmed
  adjusted : ∀ p a, sale.payment = some p → sale.adjustment = some a →
    a.status = .confirmed → applied engine p.adjustmentRef = true

def Seen (events : List WebhookEvent) (id : String)
    (state : VerifiedPaymentState) : Prop :=
  ∃ e ∈ events, e.checkoutId = id ∧ e.state = state

/-- The events seen explain the checkout. -/
structure EventsOk (events : List WebhookEvent) (id : String) (sale : Sale) :
    Prop where
  refunded : Seen events id .refunded ↔ sale.checkout.status = .refunded
  recorded : sale.payment.isSome → Seen events id .paid
  paid : Seen events id .paid → sale.payment.isSome ∨ Seen events id .refunded
  creating : sale.checkout.status = .creating → ∀ state, ¬ Seen events id state

/-- What holds of one sale. -/
structure SaleOk (s : Store) (id : String) (sale : Sale) : Prop where
  phase : Phase sale
  engine : EngineOk s.engine id sale
  events : EventsOk s.webhookEvents id sale

/-- Two sales have different payments. -/
structure Apart (sale sale' : Sale) : Prop where
  checkout : ∀ x, sale.checkout.providerPaymentId = some x →
    sale'.checkout.providerPaymentId = some x →
    sale.checkout.provider ≠ sale'.checkout.provider
  payment : ∀ p p', sale.payment = some p → sale'.payment = some p' →
    p.id ≠ p'.id

structure JobOk (engine : Table String Entry) (sale : Sale) (j : Job) :
    Prop where
  account : j.engineAccountId = sale.checkout.engineAccountId
  amount : j.amountNano = sale.checkout.amountNano
  credit : j.kind = .credit → ∃ p c, sale.payment = some p ∧
    sale.credit = some c ∧ j.idempotencyRef = p.creditRef ∧ 0 < c.attempts
  adjustment : j.kind = .adjustment → ∃ p c, sale.payment = some p ∧
    sale.credit = some c ∧ j.idempotencyRef = p.adjustmentRef ∧
    c.status = .confirmed ∧ sale.adjustment.isSome
  answered : j.answered = true → applied engine j.idempotencyRef = true

/-- The invariant of all sales. -/
structure Inv (s : Store) : Prop where
  sale : ∀ {id sale}, s.sales.find? id = some sale → SaleOk s id sale
  apart : ∀ {id id' sale sale'}, s.sales.find? id = some sale →
    s.sales.find? id' = some sale' → id ≠ id' → Apart sale sale'
  job : ∀ j ∈ s.jobs, ∃ sale, s.sales.find? j.checkoutId = some sale ∧
    JobOk s.engine sale j
  entry : ∀ x ∈ s.engine.rows, ∃ sale p,
    s.sales.find? x.2.checkoutId = some sale ∧ sale.payment = some p ∧
      (x.1 = p.creditRef ∨ x.1 = p.adjustmentRef)
  event : ∀ e ∈ s.webhookEvents, (s.sales.find? e.checkoutId).isSome

variable {s : Store} {id : String} {sale sale' : Sale}

/-! ## Sales move on -/

/-- What stays of a sale. -/
structure Later (sale sale' : Sale) : Prop where
  account : sale'.checkout.engineAccountId = sale.checkout.engineAccountId
  amount : sale'.checkout.amountNano = sale.checkout.amountNano
  payment : ∀ p, sale.payment = some p → ∃ p', sale'.payment = some p' ∧
    p'.creditRef = p.creditRef ∧ p'.adjustmentRef = p.adjustmentRef
  credit : ∀ c, sale.credit = some c → ∃ c', sale'.credit = some c' ∧
    c.attempts ≤ c'.attempts ∧ (c.status = .confirmed → c'.status = .confirmed)
  adjustment : sale.adjustment.isSome → sale'.adjustment.isSome

theorem JobOk.later {engine : Table String Entry} (h : JobOk engine sale j)
    (hl : Later sale sale') : JobOk engine sale' j where
  account := h.account.trans hl.account.symm
  amount := h.amount.trans hl.amount.symm
  credit := by
    intro hkind
    obtain ⟨p, c, hp, hc, href, hattempts⟩ := h.credit hkind
    obtain ⟨p', hp', hcref, -⟩ := hl.payment p hp
    obtain ⟨c', hc', hle, -⟩ := hl.credit c hc
    exact ⟨p', c', hp', hc', href.trans hcref.symm, by omega⟩
  adjustment := by
    intro hkind
    obtain ⟨p, c, hp, hc, href, hstatus, hadj⟩ := h.adjustment hkind
    obtain ⟨p', hp', -, haref⟩ := hl.payment p hp
    obtain ⟨c', hc', -, hconfirmed⟩ := hl.credit c hc
    exact ⟨p', c', hp', hc', href.trans haref.symm, hconfirmed hstatus, hl.adjustment hadj⟩
  answered := h.answered

theorem Later.refl (sale : Sale) : Later sale sale where
  account := rfl
  amount := rfl
  payment p hp := ⟨p, hp, rfl, rfl⟩
  credit c hc := ⟨c, hc, Nat.le_refl _, id⟩
  adjustment h := h

theorem EventsOk.congr {events' : List WebhookEvent} (h : EventsOk events id sale)
    (hseen : ∀ state, Seen events' id state ↔ Seen events id state) :
    EventsOk events' id sale where
  refunded := (hseen _).trans h.refunded
  recorded hp := (hseen _).mpr (h.recorded hp)
  paid hp := (h.paid ((hseen _).mp hp)).imp_right (hseen _).mpr
  creating hc state hs := h.creating hc state ((hseen _).mp hs)

section

variable (h : Inv s) (hsale : s.sales.find? id = some sale)
include h hsale

theorem Inv.update (hlater : Later sale sale') (hphase : Phase sale')
    (hengine : EngineOk s.engine id sale') (hevents : EventsOk events id sale')
    (hothers : ∀ {id1 state}, id1 ≠ id → (Seen events id1 state ↔ Seen s.webhookEvents id1 state))
    (hwithin : ∀ e ∈ events, e ∈ s.webhookEvents ∨ e.checkoutId = id)
    (hapart : ∀ {id1 sale1}, s.sales.find? id1 = some sale1 → id1 ≠ id →
      Apart sale1 sale' ∧ Apart sale' sale1) :
    Inv { Commerce.putSale s id sale' with webhookEvents := events } := by
  refine { sale := ?_, apart := ?_, job := ?_, entry := ?_, event := ?_ }
  · intro id1 sale1 h1
    simp only [Commerce.putSale, find?_put] at h1
    split at h1
    · rename_i heq
      cases h1
      exact heq ▸ ⟨hphase, hengine, hevents⟩
    · rename_i hne
      have hs1 := h.sale h1
      exact ⟨hs1.phase, hs1.engine, hs1.events.congr (fun _ => hothers (Ne.symm hne))⟩
  · intro id1 id2 sale1 sale2 h1 h2 hne
    simp only [Commerce.putSale, find?_put] at h1 h2
    split at h1 <;> split at h2
    · rename_i e1 e2
      exact absurd (e1.symm.trans e2) hne
    · rename_i e1 e2
      cases h1
      exact (hapart h2 (Ne.symm e2)).2
    · rename_i e1 e2
      cases h2
      exact (hapart h1 (Ne.symm e1)).1
    · exact h.apart h1 h2 hne
  · intro j hj
    obtain ⟨sale1, h1, hjob⟩ := h.job j hj
    by_cases heq : id = j.checkoutId
    · subst heq
      cases hsale.symm.trans h1
      exact ⟨sale', by simp [Commerce.putSale], hjob.later hlater⟩
    · exact ⟨sale1, by simpa [Commerce.putSale, find?_put, heq], hjob⟩
  · intro x hx
    obtain ⟨sale1, p, h1, hp, href⟩ := h.entry x hx
    by_cases heq : id = x.2.checkoutId
    · subst heq
      cases hsale.symm.trans h1
      obtain ⟨p', hp', hcredit, hdebit⟩ := hlater.payment p hp
      exact ⟨sale', p', by simp [Commerce.putSale], hp', hcredit ▸ hdebit ▸ href⟩
    · exact ⟨sale1, p, by simpa [Commerce.putSale, find?_put, heq], hp, href⟩
  · intro e he
    simp only [Commerce.putSale, find?_put]
    split
    · rfl
    · rename_i hne
      rcases hwithin e he with he | he
      · exact h.event e he
      · exact absurd he.symm hne

theorem Inv.putSale (hlater : Later sale sale') (hok : SaleOk s id sale')
    (hapart : ∀ {id1 sale1}, s.sales.find? id1 = some sale1 → id1 ≠ id →
      Apart sale1 sale' ∧ Apart sale' sale1) : Inv (Commerce.putSale s id sale') :=
  h.update hsale hlater hok.phase hok.engine hok.events (fun _ => Iff.rfl)
    (fun _ he => .inl he) hapart

theorem Inv.apart_same (hprovider : sale'.checkout.provider = sale.checkout.provider)
    (hppid : sale'.checkout.providerPaymentId = sale.checkout.providerPaymentId)
    (hpayment : sale'.payment.map Payment.id = sale.payment.map Payment.id) {id1 : String}
    {sale1 : Sale} (h1 : s.sales.find? id1 = some sale1) (hne : id1 ≠ id) :
    Apart sale1 sale' ∧ Apart sale' sale1 := by
  have hid : ∀ p', sale'.payment = some p' →
      ∃ p, sale.payment = some p ∧ p.id = p'.id := by
    intro p' hp'
    rw [hp'] at hpayment
    obtain ⟨p, hp, heq⟩ := map_eq_some_iff.mp hpayment.symm
    exact ⟨p, hp, heq⟩
  have h12 := h.apart h1 hsale hne
  have h21 := h.apart hsale h1 (Ne.symm hne)
  refine ⟨⟨fun x hx hx' => ?_, fun p p' hp hp' => ?_⟩,
    ⟨fun x hx hx' => ?_, fun p p' hp hp' => ?_⟩⟩
  · rw [hprovider]
    exact h12.checkout x hx (hppid ▸ hx')
  · obtain ⟨p0, hp0, heq⟩ := hid p' hp'
    exact heq ▸ h12.payment p p0 hp hp0
  · rw [hprovider]
    exact h21.checkout x (hppid ▸ hx) hx'
  · obtain ⟨p0, hp0, heq⟩ := hid p hp
    exact heq ▸ h21.payment p0 p' hp0 hp'

end

/-! ## The rows of the workers -/

theorem Phase.recorded (h : Phase sale) (hp : sale.payment = some p) :
    ∃ c, Recorded sale p c := by
  cases h with
  | opened payment =>
    rw [payment] at hp
    cases hp
  | paid p0 c0 recorded | voided p0 c0 recorded | compensated p0 c0 a recorded =>
    cases hp.symm.trans recorded.payment
    exact ⟨c0, recorded⟩

theorem Phase.recorded_of_credit (h : Phase sale) (hc : sale.credit = some c) :
    ∃ p, Recorded sale p c := by
  cases h with
  | opened _ credit =>
    rw [credit] at hc
    cases hc
  | paid p0 c0 recorded | voided p0 c0 recorded | compensated p0 c0 a recorded =>
    cases hc.symm.trans recorded.credit
    exact ⟨p0, recorded⟩

theorem Phase.recorded_of_adjustment (h : Phase sale) (ha : sale.adjustment = some a) :
    ∃ p c, Recorded sale p c ∧ AdjustmentOk sale p a := by
  cases h with
  | opened payment credit adjustment | paid p c recorded status live adjustment
  | voided _ _ _ _ _ _ adjustment =>
    rw [adjustment] at ha
    cases ha
  | compensated p c _ recorded _ _ _ adjustment =>
    cases ha.symm.trans adjustment.adjustment
    exact ⟨p, c, recorded, adjustment⟩

theorem Phase.putCredit (h : Phase sale) (hc : sale.credit = some c)
    (haccount : c'.engineAccountId = c.engineAccountId)
    (hamount : c'.amountNano = c.amountNano) (href : c'.idempotencyRef = c.idempotencyRef)
    (halive : c.status ≠ .dead) (hattempts : 0 < c'.attempts) (hdead : c'.status ≠ .dead)
    (hpending : c'.status ≠ .pending) : Phase { sale with credit := some c' } := by
  have hlive : c'.Live := ⟨hdead, by
    constructor
    · intro h0
      omega
    · intro hp
      exact absurd hp hpending⟩
  have hrecorded : ∀ {p c0}, Recorded sale p c0 →
      Recorded { sale with credit := some c' } p c' := by
    intro p c0 hr
    have heq : c0 = c := some.inj (hr.credit.symm.trans hc)
    subst heq
    exact { hr with
      credit := rfl
      account := haccount.trans hr.account
      creditNano := hamount.trans hr.creditNano
      ref := href.trans hr.ref }
  cases h with
  | opened _ credit =>
    rw [credit] at hc
    cases hc
  | paid p _ recorded status _ adjustment reversals checkout =>
    exact .paid p c' (hrecorded recorded) status hlive adjustment reversals checkout
  | voided _ c0 recorded _ dead =>
    have heq : c0 = c := some.inj (recorded.credit.symm.trans hc)
    exact absurd (heq ▸ dead) halive
  | compensated p _ a recorded status _ _ adjustment reversals checkout =>
    exact .compensated p c' a (hrecorded recorded) status hlive hattempts
      { adjustment with adjustment := adjustment.adjustment } reversals checkout

theorem Inv.putCredit (h : Inv s) (hsale : s.sales.find? id = some sale)
    (hc : sale.credit = some c) (haccount : c'.engineAccountId = c.engineAccountId)
    (hamount : c'.amountNano = c.amountNano) (href : c'.idempotencyRef = c.idempotencyRef)
    (halive : c.status ≠ .dead) (hopen : c.status ≠ .confirmed)
    (hle : c.attempts ≤ c'.attempts) (hattempts : 0 < c'.attempts)
    (hdead : c'.status ≠ .dead) (hpending : c'.status ≠ .pending)
    (happlied : ∀ p, sale.payment = some p → c'.status = .confirmed →
      applied s.engine p.creditRef = true) :
    Inv (Commerce.putSale s id { sale with credit := some c' }) := by
  have hok := h.sale hsale
  have hengine := hok.engine
  refine h.putSale hsale ?_ ?_ ?_
  · exact
      { Later.refl sale with
        credit := by
          intro c0 hc0
          rw [hc] at hc0
          cases hc0
          exact ⟨c', rfl, hle, fun hconf => absurd hconf hopen⟩ }
  · refine ⟨hok.phase.putCredit hc haccount hamount href halive hattempts hdead
      hpending, ?_, { hok.events with refunded := hok.events.refunded }⟩
    refine
      { unpaid := hengine.unpaid, entries := hengine.entries, credited := ?_,
        confirmed := ?_, debited := ?_, adjusted := hengine.adjusted }
    · intro p c0 hp hc0 _
      cases hc0
      exact hattempts
    · intro p c0 hp hc0 hstatus
      cases hc0
      exact happlied p hp hstatus
    · intro p hp hdebit
      obtain ⟨-, c0, hc0, hconf⟩ := hengine.debited p hp hdebit
      rw [hc] at hc0
      cases hc0
      exact absurd hconf hopen
  · intro id1 sale1 h1 hne
    refine h.apart_same hsale ?_ ?_ ?_ h1 hne <;> rfl

theorem Inv.putAdjustment {a' : EngineAdjustment} (h : Inv s)
    (hsale : s.sales.find? id = some sale) (ha : sale.adjustment = some a)
    (hsame : { a' with
      status := a.status, attempts := a.attempts, lockedBy := a.lockedBy } = a)
    (hdead : a'.status ≠ .dead)
    (happlied : ∀ p, sale.payment = some p → a'.status = .confirmed →
      applied s.engine p.adjustmentRef = true) :
    Inv (Commerce.putSale s id { sale with adjustment := some a' }) := by
  have hok := h.sale hsale
  have hengine := hok.engine
  refine h.putSale hsale ?_ ?_ ?_
  · exact { Later.refl sale with adjustment := fun _ => rfl }
  · refine ⟨?_, ?_, { hok.events with refunded := hok.events.refunded }⟩
    · cases hok.phase with
      | opened payment credit adjustment reversals
      | paid p c recorded status live adjustment reversals checkout
      | voided _ _ _ _ _ _ adjustment =>
        rw [adjustment] at ha
        cases ha
      | compensated p c a0 recorded status live attempts adjustment reversals
          checkout =>
        have heq : a0 = a := some.inj (adjustment.adjustment.symm.trans ha)
        subst heq
        refine .compensated p c a' { recorded with payment := recorded.payment }
          status live attempts ?_ reversals checkout
        exact
          { adjustment := rfl
            kind := (congrArg EngineAdjustment.kind hsame).trans adjustment.kind
            account := (congrArg EngineAdjustment.engineAccountId hsame).trans adjustment.account
            amountNano := (congrArg EngineAdjustment.amountNano hsame).trans adjustment.amountNano
            ref := (congrArg EngineAdjustment.idempotencyRef hsame).trans adjustment.ref
            alive := hdead }
    · exact
        { hengine with
          entries := hengine.entries
          debited := fun p hp hdebit => ⟨rfl, (hengine.debited p hp hdebit).2⟩
          adjusted := fun p a0 hp ha0 hstatus => by
            cases ha0
            exact happlied p hp hstatus }
  · intro id1 sale1 h1 hne
    refine h.apart_same hsale ?_ ?_ ?_ h1 hne <;> rfl

theorem Inv.addJob (h : Inv s) (hsale : s.sales.find? j.checkoutId = some sale)
    (hj : JobOk s.engine sale j) : Inv { s with jobs := j :: s.jobs } where
  sale hsale1 := ⟨(h.sale hsale1).phase, (h.sale hsale1).engine, (h.sale hsale1).events⟩
  apart := h.apart
  job := by
    intro j' hj'
    rcases mem_cons.mp hj' with rfl | hj'
    · exact ⟨sale, hsale, hj⟩
    · exact h.job j' hj'
  entry := h.entry
  event := h.event

theorem claimable_iff : status.claimable = true ↔ status = .pending ∨ status = .retry := by
  cases status <;> simp [JobStatus.claimable]

theorem inv_claimNextCredit (h : Inv s) (id lease : String) :
    Inv (claimNextCredit s id lease) := by
  unfold claimNextCredit
  split
  · exact h
  · rename_i sale hsale
    split
    · exact h
    · rename_i c hc
      split
      · rename_i hclaim
        have hstatus := claimable_iff.mp hclaim
        have h' : Inv (Commerce.putSale s id { sale with
            credit := some { c with
              status := .processing, lockedBy := some lease,
              attempts := c.attempts + 1 } }) := by
          refine h.putCredit hsale hc rfl rfl rfl ?_ ?_ (Nat.le_succ _)
            (Nat.succ_pos _) (by simp) (by simp) (nofun)
          · rcases hstatus with h | h <;> simp [h]
          · rcases hstatus with h | h <;> simp [h]
        refine h'.addJob (find?_put_self ..) ?_
        obtain ⟨p, hrecorded⟩ := (h.sale hsale).phase.recorded_of_credit hc
        exact
          { account := hrecorded.account
            amount := hrecorded.creditNano
            credit := fun _ => ⟨p, _, hrecorded.payment, rfl, hrecorded.ref, Nat.succ_pos _⟩
            adjustment := nofun
            answered := nofun }
      · exact h

theorem Phase.claimed (h : Phase sale) (hc : sale.credit = some c)
    (hstatus : c.status = .processing) : 0 < c.attempts := by
  have hlive : ∀ {c0 : EngineCredit}, sale.credit = some c0 → c0.Live →
      0 < c.attempts := by
    intro c0 hc0 hl
    cases hc.symm.trans hc0
    have hne : c.attempts ≠ 0 := fun h0 => by
      rw [hl.2.mp h0] at hstatus
      cases hstatus
    omega
  cases h with
  | opened _ credit =>
    rw [credit] at hc
    cases hc
  | paid p c0 recorded status live | compensated p c0 a recorded status live => exact hlive recorded.credit live
  | voided _ _ recorded _ dead =>
    cases hc.symm.trans recorded.credit
    rw [hstatus] at dead
    cases dead

section

variable (h : Inv s)
include h

theorem inv_leaveCredit (hsale : s.sales.find? id = some sale) (hc : sale.credit = some c)
    (hprocessing : c.status = .processing) (hstatus : status = .retry ∨ status = .confirmed)
    (happlied : ∀ p, sale.payment = some p → status = .confirmed →
      applied s.engine p.creditRef = true) :
    Inv (Commerce.putSale s id { sale with
      credit := some { c with status := status, lockedBy := none } }) := by
  have hattempts := (h.sale hsale).phase.claimed hc hprocessing
  refine h.putCredit hsale hc rfl rfl rfl (by simp [hprocessing])
    (by simp [hprocessing]) (Nat.le_refl _) hattempts ?_ ?_ happlied
  · rcases hstatus with rfl | rfl <;> simp
  · rcases hstatus with rfl | rfl <;> simp

theorem inv_closeCredit (id lease : String) (hstatus : status = .retry ∨ status = .confirmed)
    (happlied : ∀ sale p, s.sales.find? id = some sale →
      sale.payment = some p → status = .confirmed →
      applied s.engine p.creditRef = true) : Inv (closeCredit s id lease status) := by
  unfold closeCredit
  split
  · exact h
  · rename_i sale hsale
    split
    · exact h
    · rename_i c hc
      split
      · rename_i hguard
        exact inv_leaveCredit h hsale hc hguard.1 hstatus (fun p hp => happlied sale p hsale hp)
      · exact h

theorem inv_recoverStaleCredit (id : String) : Inv (recoverStaleCredit s id) := by
  unfold recoverStaleCredit
  split
  · exact h
  · rename_i sale hsale
    split
    · exact h
    · rename_i c hc
      split
      · rename_i hstatus
        exact inv_leaveCredit h hsale hc hstatus (.inl rfl) (fun _ _ hconf => by
          cases hconf)
      · exact h

theorem inv_claimNextAdjustment (id lease : String) : Inv (claimNextAdjustment s id lease) := by
  unfold claimNextAdjustment
  split
  · exact h
  · rename_i sale hsale
    split
    · rename_i p c a hp hc ha
      split
      · rename_i hguard
        obtain ⟨-, hconfirmed, -, -⟩ := hguard
        have h' : Inv (Commerce.putSale s id { sale with
            adjustment := some { a with
              status := .processing, lockedBy := some lease,
              attempts := a.attempts + 1 } }) :=
          h.putAdjustment hsale ha rfl (by simp) (nofun)
        refine h'.addJob (find?_put_self ..) ?_
        obtain ⟨p0, c0, recorded, hadj⟩ := (h.sale hsale).phase.recorded_of_adjustment ha
        cases hp.symm.trans recorded.payment
        exact
          { account := hadj.account
            amount := by
              show -a.amountNano = sale.checkout.amountNano
              rw [hadj.amountNano, Int.neg_neg]
            credit := nofun
            adjustment := fun _ => ⟨p, c, hp, hc, hadj.ref, hconfirmed, rfl⟩
            answered := nofun }
      · exact h
    · exact h

theorem inv_leaveAdjustment (hsale : s.sales.find? id = some sale)
    (ha : sale.adjustment = some a) (hstatus : status = .retry ∨ status = .confirmed)
    (happlied : ∀ p, sale.payment = some p → status = .confirmed →
      applied s.engine p.adjustmentRef = true) :
    Inv (Commerce.putSale s id { sale with
      adjustment := some { a with status := status, lockedBy := none } }) := by
  refine h.putAdjustment hsale ha rfl ?_ happlied
  rcases hstatus with rfl | rfl <;> simp

theorem inv_closeAdjustment (id lease : String)
    (hstatus : status = .retry ∨ status = .confirmed)
    (happlied : ∀ sale p, s.sales.find? id = some sale →
      sale.payment = some p → status = .confirmed →
      applied s.engine p.adjustmentRef = true) :
    Inv (closeAdjustment s id lease status) := by
  unfold closeAdjustment
  split
  · exact h
  · rename_i sale hsale
    split
    · exact h
    · rename_i a ha
      split
      · exact inv_leaveAdjustment h hsale ha hstatus (fun p hp => happlied sale p hsale hp)
      · exact h

theorem inv_recoverStaleAdjustment (id : String) : Inv (recoverStaleAdjustment s id) := by
  unfold recoverStaleAdjustment
  split
  · exact h
  · rename_i sale hsale
    split
    · exact h
    · rename_i a ha
      split
      · exact inv_leaveAdjustment h hsale ha (.inl rfl) (fun _ _ hconf => by cases hconf)
      · exact h

theorem inv_confirm (i : Nat) : Inv (confirm s i) := by
  unfold confirm
  split
  · exact h
  · rename_i j hj
    obtain ⟨sale, hsale, hjob⟩ := h.job j (mem_of_getElem? hj)
    split
    · rename_i hanswered
      have happlied := hjob.answered hanswered
      split
      · rename_i hkind
        refine inv_closeCredit h _ _ (.inr rfl) (fun sale1 p1 hsale1 hp1 _ => ?_)
        obtain ⟨p, c, hp, -, href, -⟩ := hjob.credit hkind
        cases hsale.symm.trans hsale1
        cases hp.symm.trans hp1
        exact href ▸ happlied
      · rename_i hkind
        refine inv_closeAdjustment h _ _ (.inr rfl) (fun sale1 p1 hsale1 hp1 _ => ?_)
        obtain ⟨p, c, hp, -, href, -⟩ := hjob.adjustment hkind
        cases hsale.symm.trans hsale1
        cases hp.symm.trans hp1
        exact href ▸ happlied
    · exact h

theorem inv_retry (i : Nat) : Inv (retry s i) := by
  unfold retry
  split
  · exact h
  · split
    · exact inv_closeCredit h _ _ (.inl rfl) (fun _ _ _ _ hconf => by cases hconf)
    · exact inv_closeAdjustment h _ _ (.inl rfl) (fun _ _ _ _ hconf => by cases hconf)

theorem inv_drop (i : Nat) :
    Inv { s with jobs := s.jobs.eraseIdx i } where
  sale hsale := ⟨(h.sale hsale).phase, (h.sale hsale).engine, (h.sale hsale).events⟩
  apart := h.apart
  job j hj := h.job j (List.mem_of_mem_eraseIdx hj)
  entry := h.entry
  event := h.event

end

/-! ## The engine -/

variable {engine : Table String Entry} {ref : String} {e : Entry}

theorem entriesOf_put (h : engine.find? ref = none) (e : Entry) (id : String) :
    entriesOf (engine.put ref e) id =
      entriesOf engine id ++ if e.checkoutId = id then [e] else [] := by
  rw [entriesOf, rows_put_new e h, map_append, filter_append]
  by_cases hid : e.checkoutId = id <;> simp [entriesOf, hid]

theorem applied_put (e : Entry) (ref' : String) :
    applied (engine.put ref e) ref' = (decide (ref = ref') || applied engine ref') := by
  by_cases heq : ref = ref' <;> simp [applied, find?_put, heq]

theorem applied_put_ne {ref' : String} (e : Entry) (h : ref ≠ ref') :
    applied (engine.put ref e) ref' = applied engine ref' := by
  simp [applied_put, h]

theorem EngineOk.other (h : EngineOk engine id sale)
    (hnone : engine.find? ref = none) (hid : e.checkoutId ≠ id)
    (href : ∀ p, sale.payment = some p →
      ref ≠ p.creditRef ∧ ref ≠ p.adjustmentRef) : EngineOk (engine.put ref e) id sale := by
  have hentries : entriesOf (engine.put ref e) id = entriesOf engine id := by
    simp [entriesOf_put hnone, hid]
  have hcredit : ∀ {p}, sale.payment = some p →
      applied (engine.put ref e) p.creditRef = applied engine p.creditRef :=
    fun hp => applied_put_ne e (href _ hp).1
  have hdebit : ∀ {p}, sale.payment = some p →
      applied (engine.put ref e) p.adjustmentRef = applied engine p.adjustmentRef :=
    fun hp => applied_put_ne e (href _ hp).2
  refine
    { unpaid := fun hp => hentries.trans (h.unpaid hp), entries := ?_,
      credited := ?_, confirmed := ?_, debited := ?_, adjusted := ?_ }
  · intro p hp
    rw [hentries, h.entries p hp, expected, expected, hcredit hp, hdebit hp]
  · intro p c hp hc happ
    exact h.credited p c hp hc (hcredit hp ▸ happ)
  · intro p c hp hc hstatus
    exact (hcredit hp).trans (h.confirmed p c hp hc hstatus)
  · intro p hp happ
    exact h.debited p hp (hdebit hp ▸ happ)
  · intro p a hp ha hstatus
    exact (hdebit hp).trans (h.adjusted p a hp ha hstatus)

theorem EngineOk.credit (h : EngineOk engine id sale) (hp : sale.payment = some p)
    (hc : sale.credit = some c) (hnone : engine.find? p.creditRef = none)
    (hattempts : 0 < c.attempts) :
    EngineOk (engine.put p.creditRef (sale.creditEntry id)) id sale := by
  have hne := p.refs_ne p
  have hcredit : applied engine p.creditRef = false := by simp [applied, hnone]
  have hdebit : applied engine p.adjustmentRef = false := by
    by_contra happ
    rw [Bool.not_eq_false] at happ
    obtain ⟨-, c0, hc0, hconf⟩ := h.debited p hp happ
    rw [h.confirmed p c0 hp hc0 hconf] at hcredit
    cases hcredit
  have hdebit' : applied (engine.put p.creditRef (sale.creditEntry id))
      p.adjustmentRef = false := (applied_put_ne _ hne).trans hdebit
  have hcredit' : applied (engine.put p.creditRef (sale.creditEntry id))
      p.creditRef = true := by simp [applied_put]
  refine
    { unpaid := fun h0 => ?_, entries := ?_, credited := ?_, confirmed := ?_,
      debited := ?_, adjusted := ?_ }
  · rw [hp] at h0
    cases h0
  · intro p0 hp0
    cases hp.symm.trans hp0
    rw [entriesOf_put hnone, h.entries p hp, expected, expected, hcredit, hdebit,
      hcredit', hdebit']
    simp [Sale.creditEntry]
  · intro p0 c0 hp0 hc0 _
    cases hc.symm.trans hc0
    exact hattempts
  · intro p0 c0 hp0 _ _
    cases hp.symm.trans hp0
    exact hcredit'
  · intro p0 hp0 happ
    cases hp.symm.trans hp0
    rw [hdebit'] at happ
    cases happ
  · intro p0 a hp0 ha hstatus
    cases hp.symm.trans hp0
    rw [h.adjusted p a hp ha hstatus] at hdebit
    cases hdebit

theorem EngineOk.debit (h : EngineOk engine id sale) (hp : sale.payment = some p)
    (hc : sale.credit = some c) (hnone : engine.find? p.adjustmentRef = none)
    (hconfirmed : c.status = .confirmed) (hadj : sale.adjustment.isSome) :
    EngineOk (engine.put p.adjustmentRef (sale.debitEntry id)) id sale := by
  have hne := Ne.symm (p.refs_ne p)
  have hcredit := h.confirmed p c hp hc hconfirmed
  have hdebit : applied engine p.adjustmentRef = false := by simp [applied, hnone]
  have hcredit' : applied (engine.put p.adjustmentRef (sale.debitEntry id))
      p.creditRef = true := (applied_put_ne _ hne).trans hcredit
  have hdebit' : applied (engine.put p.adjustmentRef (sale.debitEntry id))
      p.adjustmentRef = true := by simp [applied_put]
  refine
    { unpaid := fun h0 => ?_, entries := ?_, credited := ?_, confirmed := ?_,
      debited := ?_, adjusted := ?_ }
  · rw [hp] at h0
    cases h0
  · intro p0 hp0
    cases hp.symm.trans hp0
    rw [entriesOf_put hnone, h.entries p hp, expected, expected, hcredit, hdebit,
      hcredit', hdebit']
    simp [Sale.debitEntry]
  · intro p0 c0 hp0 hc0 _
    cases hp.symm.trans hp0
    exact h.credited p c0 hp hc0 hcredit
  · intro p0 c0 hp0 _ _
    cases hp.symm.trans hp0
    exact hcredit'
  · intro p0 hp0 _
    exact ⟨hadj, c, hc, hconfirmed⟩
  · intro p0 a hp0 _ _
    cases hp.symm.trans hp0
    exact hdebit'

theorem JobOk.mono {engine' : Table String Entry} (h : JobOk engine sale j)
    (happlied : ∀ ref, applied engine ref = true → applied engine' ref = true) :
    JobOk engine' sale j :=
  { h with answered := fun hj => happlied _ (h.answered hj) }

theorem Phase.refs_ne (h : Phase sale) (h' : Phase sale') (hapart : Apart sale sale')
    {p' : Payment} (hp : sale.payment = some p) (hp' : sale'.payment = some p') :
    p.creditRef ≠ p'.creditRef ∧ p.adjustmentRef ≠ p'.adjustmentRef := by
  obtain ⟨c, hr⟩ := h.recorded hp
  obtain ⟨c', hr'⟩ := h'.recorded hp'
  constructor
  · intro heq
    obtain ⟨hprovider, hppid⟩ := creditRef_inj heq
    refine hapart.checkout p.providerPaymentId hr.providerPaymentId ?_ ?_
    · rw [hr'.providerPaymentId, hppid]
    · rw [← hr.provider, ← hr'.provider, hprovider]
  · intro heq
    exact hapart.payment p p' hp hp' (adjustmentRef_inj heq)

theorem JobOk.reference (h : JobOk engine sale j) : ∃ p,
    sale.payment = some p ∧
      (j.idempotencyRef = p.creditRef ∨ j.idempotencyRef = p.adjustmentRef) := by
  cases hkind : j.kind with
  | credit =>
    obtain ⟨p, -, hp, -, href, -⟩ := h.credit hkind
    exact ⟨p, hp, .inl href⟩
  | adjustment =>
    obtain ⟨p, -, hp, -, href, -⟩ := h.adjustment hkind
    exact ⟨p, hp, .inr href⟩

theorem EngineOk.put_job (h : EngineOk engine j.checkoutId sale)
    (hj : JobOk engine sale j) (hnone : engine.find? j.idempotencyRef = none) :
    EngineOk (engine.put j.idempotencyRef
      { accountId := j.engineAccountId, amountNano := j.signed,
        checkoutId := j.checkoutId }) j.checkoutId sale := by
  cases hkind : j.kind with
  | credit =>
    obtain ⟨p, c, hp, hc, href, hattempts⟩ := hj.credit hkind
    rw [href] at hnone ⊢
    have hentry : sale.creditEntry j.checkoutId =
        { accountId := j.engineAccountId, amountNano := j.signed,
          checkoutId := j.checkoutId } := by
      simp [Sale.creditEntry, Job.signed, hkind, hj.account, hj.amount]
    exact hentry ▸ h.credit hp hc hnone hattempts
  | adjustment =>
    obtain ⟨p, c, hp, hc, href, hconfirmed, hadj⟩ := hj.adjustment hkind
    rw [href] at hnone ⊢
    have hentry : sale.debitEntry j.checkoutId =
        { accountId := j.engineAccountId, amountNano := j.signed,
          checkoutId := j.checkoutId } := by
      simp [Sale.debitEntry, Job.signed, hkind, hj.account, hj.amount]
    exact hentry ▸ h.debit hp hc hnone hconfirmed hadj

theorem Inv.engineApply (h : Inv s) (hj : j ∈ s.jobs) :
    Inv { s with engine := engineApply s.engine j } := by
  obtain ⟨sale, hsale, hjob⟩ := h.job j hj
  unfold Commerce.engineApply
  split
  · exact h
  · rename_i hnone
    have hmono : ∀ ref, applied s.engine ref = true →
        applied (s.engine.put j.idempotencyRef
          { accountId := j.engineAccountId, amountNano := j.signed,
            checkoutId := j.checkoutId }) ref = true := by
      intro ref happ
      rw [applied_put, happ, Bool.or_true]
    refine { sale := ?_, apart := h.apart, job := ?_, entry := ?_, event := h.event }
    · intro id1 sale1 h1
      have hok := h.sale h1
      refine ⟨hok.phase, ?_, hok.events⟩
      by_cases heq : j.checkoutId = id1
      · subst heq
        cases hsale.symm.trans h1
        exact hok.engine.put_job hjob hnone
      · refine hok.engine.other hnone heq (fun p1 hp1 => ?_)
        obtain ⟨p, hp, href⟩ := hjob.reference
        have hne := (h.sale hsale).phase.refs_ne hok.phase (h.apart hsale h1 heq) hp hp1
        rcases href with href | href
        · exact ⟨href ▸ hne.1, href ▸ p.refs_ne p1⟩
        · exact ⟨href ▸ Ne.symm (p1.refs_ne p), href ▸ hne.2⟩
    · intro j' hj'
      obtain ⟨sale1, h1, hjob1⟩ := h.job j' hj'
      exact ⟨sale1, h1, hjob1.mono hmono⟩
    · intro x hx
      rw [rows_put_new _ hnone] at hx
      rcases mem_append.mp hx with hx | hx
      · exact h.entry x hx
      · rw [mem_singleton.mp hx]
        obtain ⟨p, hp, href⟩ := hjob.reference
        exact ⟨sale, p, hsale, hp, href⟩

theorem applied_engineApply (engine : Table String Entry) (j : Job) :
    applied (Commerce.engineApply engine j) j.idempotencyRef = true := by
  unfold Commerce.engineApply
  split
  · rename_i e he
    simp [applied, he]
  · simp [applied_put]

theorem inv_deliver (h : Inv s) (i : Nat) (reaches returns : Bool) :
    Inv (deliver s i reaches returns) := by
  unfold deliver
  split
  · exact h
  · rename_i j hj
    split
    · have hmem := mem_of_getElem? hj
      have h' := h.engineApply hmem
      refine
        { sale := fun hsale => ⟨(h'.sale hsale).phase, (h'.sale hsale).engine,
            (h'.sale hsale).events⟩
          apart := h'.apart, job := ?_, entry := h'.entry, event := h'.event }
      intro j' hj'
      rcases List.mem_or_eq_of_mem_set hj' with hj' | rfl
      · exact h'.job j' hj'
      · obtain ⟨sale, hsale, hjob⟩ := h'.job j hmem
        exact ⟨sale, hsale, { hjob with
          account := hjob.account
          answered := fun _ => applied_engineApply s.engine j }⟩
    · exact h

end ApiToken.Commerce
