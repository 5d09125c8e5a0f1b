import ApiToken.Payout.Commitments
import ApiToken.Payout.Sending

/-!
# Payouts within the balance

A partner's payouts are covered when they sum to no more than the commissions
earned and the adjustments. A later refund may leave them uncovered; what the
program owes is that they are covered when a payout is created and when one is
signed.

A creating transaction checks its snapshot. Since then commissions have only come
in, and payouts have only been given back (or the transaction conflicts), so the
check still holds at the commit as long as no adjustment has committed in between.
A sender holds the fence from its balance check to its broadcasts.
-/

namespace ApiToken.Payout

variable {c : Creation} {π : Proof} {l : Local} {batchId id : String}
  {request : Request} {e : Event} {rows : List Listed} {x : Listed} {earnedBefore : Int}

variable {b b' : Books} {p : String}

/-- The partner's payouts sum to no more than its balance; `before` is the
boundary of a batch. -/
def Covered (l : Ledger) (partnerId : String) (before : Option Int) : Prop :=
  l.committed partnerId ≤ l.earned partnerId before + l.adjusted partnerId

instance (l : Ledger) (partnerId : String) (before : Option Int) :
    Decidable (Covered l partnerId before) :=
  inferInstanceAs (Decidable (_ ≤ _))

/-- `earned_before` of the row's batch; a manual payout has none. -/
def Books.boundaryOf (b : Books) (row : PayoutRow) : Option Int :=
  row.batchId.bind (fun batchId => (b.boundaries.find? batchId).join)

/-- When the fence is granted, no adjustment of a partner of the request has
committed since the transaction took its snapshot. -/
def timely (b : Books) : BooksOp → Bool
  | .commit i =>
    match b.waiting[i]? with
    | none => true
    | some c => c.request.partnerIds.all (fun p =>
      b.ledger.adjustmentsOf p == c.snapshot.adjustmentsOf p)
  | _ => true

/-! ## Commissions -/

theorem earnedIn_append (new old : List CommissionEntry) (p : String)
    (before : Option Int) : earnedIn old p before ≤ earnedIn (new ++ old) p before := by
  have hnew : 0 ≤ earnedIn new p before := by
    refine List.sum_nonneg (fun x hx => ?_)
    obtain ⟨e, -, rfl⟩ := mem_map.mp hx
    exact le_of_lt e.positive
  have happend : earnedIn (new ++ old) p before =
      earnedIn new p before + earnedIn old p before := by
    simp [earnedIn]
  omega

/-! ## Steps that create and reverse nothing -/

/-- Earnings grow, and payouts settle. -/
structure Grows (b b' : Books) : Prop where
  settles : Settles b.world b'.world
  earned : ∀ p before, b.ledger.earned p before ≤ b'.ledger.earned p before
  adjustments : b'.adjustments = b.adjustments
  boundaries : b'.boundaries = b.boundaries
  createdFor : b'.createdFor = b.createdFor

theorem Grows.committed (h : Grows b b') (p : String) :
    b'.ledger.committed p ≤ b.ledger.committed p :=
  h.settles.committed p

theorem Grows.adjusted (h : Grows b b') (p : String) :
    b'.ledger.adjusted p = b.ledger.adjusted p := by
  simp only [Ledger.adjusted, Ledger.adjustmentsOf, Books.ledger, h.adjustments]

theorem Covered.grows {before : Option Int} (hc : Covered b.ledger p before)
    (h : Grows b b') : Covered b'.ledger p before := by
  have h1 := h.committed p
  have h2 := h.adjusted p
  have h3 := h.earned p before
  unfold Covered at hc ⊢
  omega

/-- What a waiting transaction can rely on: its snapshot is behind in
commissions, and ahead in commitments unless the partner got a payout. -/
structure WaitingFit (b : Books) (c : Creation) : Prop where
  earned : ∀ p before, c.snapshot.earned p before ≤ b.ledger.earned p before
  committed : ∀ p, p ∉ b.createdFor.drop c.since →
    b.ledger.committed p ≤ c.snapshot.committed p
  since : c.since ≤ b.createdFor.length

theorem WaitingFit.grows (hc : WaitingFit b c) (h : Grows b b') :
    WaitingFit b' c where
  earned p before := le_trans (hc.earned p before) (h.earned p before)
  committed p hp := by
    rw [h.createdFor] at hp
    exact le_trans (h.committed p) (hc.committed p hp)
  since := by rw [h.createdFor]; exact hc.since

def Proof.Signs (π : Proof) (id : String) (t : Transfer) : Prop :=
  ∃ x ∈ π.rows, x.1 = id ∧ Pays t x.2

/-- The latest proof is still true. -/
structure ProofHolds (b : Books) (π : Proof) : Prop where
  latest : b.proofs.head? = some π
  fenced : b.fenced = true
  adjustments : π.adjustments = b.adjustments
  row : ∀ x ∈ π.rows, b.boundaryOf x.2 = some π.earnedBefore ∧
    Covered b.ledger x.2.partnerId (some π.earnedBefore)

theorem ProofHolds.grows (hπ : ProofHolds b π) (h : Grows b b')
    (hproofs : b'.proofs = b.proofs) (hfenced : b'.fenced = true) :
    ProofHolds b' π where
  latest := by rw [hproofs]; exact hπ.latest
  fenced := hfenced
  adjustments := by rw [h.adjustments]; exact hπ.adjustments
  row x hx := by
    obtain ⟨hboundary, hcovered⟩ := hπ.row x hx
    refine ⟨?_, hcovered.grows h⟩
    rw [Books.boundaryOf, h.boundaries]
    exact hboundary

/-! ## The invariant -/

def Books.Proved (b : Books) (t : Transfer) : Prop :=
  ∃ π ∈ b.proofs, ∃ id, π.Signs id t

def SenderFit (b : Books) (l : Local) : Prop :=
  ∀ rows, l.toSend = some rows → ∃ π, ProofHolds b π ∧ rows ⊆ π.rows ∧
    ∀ id t, l.signed = some (id, t) → π.Signs id t

/-- The invariant of the books. -/
structure BooksInv (b : Books) : Prop where
  fit : RowsFit b.world
  waiting : ∀ c ∈ b.waiting, WaitingFit b c
  sender : ∀ l, b.world.holder = some l → SenderFit b l
  listed : ∀ {l batchId rows}, b.world.holder = some l →
    l.listed = some (batchId, rows) → ∀ x ∈ rows, x.2.batchId = some batchId
  traced : Traced b.Proved b.world

theorem BooksInv.toSend_unfenced (h : BooksInv b) (hfenced : b.fenced = false)
    (hl : b.world.holder = some l) : l.toSend = none := by
  cases hrows : l.toSend with
  | none => rfl
  | some rows =>
    obtain ⟨π, hπ, -⟩ := h.sender l hl rows hrows
    rw [hπ.fenced] at hfenced
    cases hfenced

theorem SenderFit.of_none (h : l.toSend = none) : SenderFit b l := by
  intro rows hrows
  rw [h] at hrows
  cases hrows

theorem SenderFit.grows (hs : SenderFit b l) (h : Grows b b')
    (hproofs : b'.proofs = b.proofs) (hfenced : b.fenced = true → b'.fenced = true) :
    SenderFit b' l := by
  intro rows hrows
  obtain ⟨π, hπ, hsub, hsigns⟩ := hs rows hrows
  exact ⟨π, hπ.grows h hproofs (hfenced hπ.fenced), hsub, hsigns⟩

theorem BooksInv.beside (h : BooksInv b) (hg : Grows b b')
    (hwaiting : ∀ c ∈ b'.waiting, c ∈ b.waiting ∨ WaitingFit b' c)
    (hholder : b'.world.holder = b.world.holder) (hproofs : b'.proofs = b.proofs)
    (hfenced : b.fenced = true → b'.fenced = true)
    (htraced : Traced b.Proved b'.world) : BooksInv b' where
  fit := hg.settles.fit
  waiting c hc := by
    rcases hwaiting c hc with hc | hfit
    · exact (h.waiting c hc).grows hg
    · exact hfit
  sender l hl := (h.sender l (hholder ▸ hl)).grows hg hproofs hfenced
  listed hl := h.listed (hholder ▸ hl)
  traced := by
    refine htraced.mono (fun t ht => ?_)
    rw [Books.Proved, hproofs]
    exact ht

/-! ## Creation -/

def Request.boundary : Request → Option Int
  | .requestPayout .. => none
  | .createPayoutBatch _ _ earnedBefore _ => earnedBefore

/-- What creating a batch does to the books. -/
structure Creates (b : Books) (snapshot : Ledger) (request : Request)
    (b' : Books) : Prop where
  fit : RowsFit b'.world
  saved : ∀ {T}, Saved T b.world → Saved T b'.world
  holder : b'.world.holder = b.world.holder
  earned : ∀ p before, b'.ledger.earned p before = b.ledger.earned p before
  adjustments : b'.adjustments = b.adjustments
  proofs : b'.proofs = b.proofs
  waiting : b'.waiting = b.waiting
  createdFor : b'.createdFor = b.createdFor ++ request.partnerIds
  others : ∀ p, p ∉ request.partnerIds →
    b'.ledger.committed p = b.ledger.committed p
  /-- A new row is of a partner of the request, and with it the partner's
  commitments grew by no more than the balance in the snapshot. -/
  row : ∀ {id row}, b'.world.payouts.find? id = some row →
    b.world.payouts.find? id = some row ∨
      row.partnerId ∈ request.partnerIds ∧
      b'.boundaryOf row = request.boundary ∧
      b'.ledger.committed row.partnerId ≤
        b.ledger.committed row.partnerId + snapshot.unpaid row.partnerId request.boundary

variable {snapshot : Ledger}

theorem requestPayout_creates (h : RowsFit b.world) {payoutId partnerId : String}
    {amountNano : Int}
    (hb : b.requestPayout snapshot payoutId partnerId amountNano = some b') :
    Creates b snapshot (.requestPayout payoutId partnerId amountNano)
      { b' with createdFor := b.createdFor ++ [partnerId] } := by
  unfold Books.requestPayout at hb
  split at hb
  · rename_i hguard
    obtain ⟨hpositive, hle, hnew⟩ := hguard
    cases hb
    have hmanual : RowFit (Books.manualRow partnerId amountNano) :=
      ⟨hpositive, nofun, fun _ => rfl⟩
    obtain ⟨hfit, hsum⟩ := @RowsFit.insert _ b.world
      { b.world with
        payouts := b.world.payouts.put payoutId (Books.manualRow partnerId amountNano)
        issued := payoutId :: b.world.issued }
      payoutId h hnew hmanual rfl rfl
    have hrow : ∀ p, (Books.manualRow partnerId amountNano).committedTo p =
        if partnerId = p then amountNano else 0 := fun p =>
      committedTo_of_not_rejected (by simp [Books.manualRow]) p
    refine
      { fit := hfit, holder := rfl, earned := fun _ _ => rfl, adjustments := rfl,
        proofs := rfl, waiting := rfl, createdFor := rfl
        saved := fun {T} hs => ?_
        others := fun p hp => ?_, row := fun {id row} hfind => ?_ }
    · have hput : Saved T (b.world.putRow payoutId
          (Books.manualRow partnerId amountNano)) := hs.putRow nofun
      exact hput.congr rfl rfl
    · have hne : partnerId ≠ p := fun heq => hp (heq ▸ mem_singleton_self _)
      have hp' := hsum p
      rw [hrow, if_neg hne, add_zero] at hp'
      exact hp'
    · simp only [find?_put] at hfind
      split at hfind
      · cases hfind
        refine .inr ⟨mem_singleton_self _, rfl, ?_⟩
        have hp' := hsum partnerId
        rw [hrow, if_pos rfl] at hp'
        refine le_trans (le_of_eq hp') ?_
        exact add_le_add_right hle _
      · exact .inl hfind
  · cases hb

theorem createPayoutBatch_creates (h : RowsFit b.world) {minNano : Int}
    {earnedBefore : Option Int} {recipients : List World.Recipient}
    (hb : b.createPayoutBatch snapshot batchId minNano earnedBefore recipients = some b') :
    Creates b snapshot (.createPayoutBatch batchId minNano earnedBefore recipients)
      { b' with
        createdFor := b.createdFor ++ recipients.map World.Recipient.partnerId } := by
  unfold Books.createPayoutBatch at hb
  split at hb
  · rename_i hguard
    obtain ⟨⟨-, hpartners, hrecipients⟩, hcan⟩ := hguard
    cases hb
    have hids := hcan.2.2.2
    -- the batch itself does not touch the payouts
    have hbatch : Settles b.world { b.world with
        batches := b.world.batches.put batchId .prepared } :=
      h.unchanged rfl rfl
    obtain ⟨hfit, hsum⟩ := hbatch.fit.insertRows batchId hids.1 hids.2
    have hworld : b.world.createPayoutBatch batchId recipients =
        recipients.foldl (World.insertRow batchId)
          { b.world with batches := b.world.batches.put batchId .prepared } :=
      if_pos hcan
    refine
      { fit := by rw [hworld]; exact hfit
        holder := ?_, earned := fun _ _ => rfl, adjustments := rfl,
        proofs := rfl, waiting := rfl, createdFor := rfl
        saved := fun {T} hs => ?_
        others := fun p hp => ?_, row := fun {id row} hfind => ?_ }
    · have hsaved : Saved T { b.world with
          batches := b.world.batches.put batchId .prepared } := hs.congr rfl rfl
      rw [hworld]
      exact hsaved.insertRows batchId recipients
    · rw [hworld]
      exact holder_insertRows batchId recipients
    · have hp' := hsum p
      rw [newlyCommitted_absent hp, add_zero, ← hworld] at hp'
      exact hp'
    · simp only [hworld] at hfind
      rcases find?_insertRows hfind with hold | ⟨r, hr, rfl⟩
      · exact .inl hold
      · refine .inr ⟨mem_map_of_mem hr, ?_, ?_⟩
        · simp [Books.boundaryOf, World.newRow, Request.boundary]
        · have hp' := hsum r.partnerId
          rw [newlyCommitted_mem hr hpartners, ← hworld, ← (hrecipients r hr).2.2] at hp'
          exact le_of_eq hp'
  · cases hb

theorem create_creates (h : RowsFit b.world) (request : Request) :
    b.create snapshot request = b ∨ Creates b snapshot request (b.create snapshot request) := by
  cases request with
  | requestPayout payoutId partnerId amountNano =>
    simp only [Books.create]
    split
    · exact .inl rfl
    · rename_i hcreated
      exact .inr (requestPayout_creates h hcreated)
  | createPayoutBatch batchId minNano earnedBefore recipients =>
    simp only [Books.create]
    split
    · exact .inl rfl
    · rename_i hcreated
      exact .inr (createPayoutBatch_creates h hcreated)

theorem Creates.covered (h : Creates b snapshot request b')
    (hearned : ∀ p before, snapshot.earned p before ≤ b.ledger.earned p before)
    (hcommitted : ∀ p ∈ request.partnerIds,
      b.ledger.committed p ≤ snapshot.committed p) (hadjusted : ∀ p ∈ request.partnerIds,
      b.ledger.adjustmentsOf p = snapshot.adjustmentsOf p) {row : PayoutRow}
    (hnone : b.world.payouts.find? id = none)
    (hrow : b'.world.payouts.find? id = some row) :
    Covered b'.ledger row.partnerId (b'.boundaryOf row) := by
  rcases h.row hrow with hold | ⟨hp, hboundary, hsum⟩
  · rw [hnone] at hold
    cases hold
  · have h1 := h.earned row.partnerId request.boundary
    have h2 := hearned row.partnerId request.boundary
    have h3 := hcommitted row.partnerId hp
    have h4 : b'.ledger.adjusted row.partnerId = snapshot.adjusted row.partnerId := by
      rw [Ledger.adjusted, Ledger.adjusted, ← hadjusted row.partnerId hp]
      simp only [Ledger.adjustmentsOf, Books.ledger, h.adjustments]
    rw [hboundary, Covered]
    unfold Ledger.unpaid at hsum
    omega

/-- Creations are made under the fence, so no sender is past its check. -/
theorem Creates.inv (h : Creates b snapshot request b') (hinv : BooksInv b)
    (hfenced : b.fenced = false) : BooksInv b' where
  fit := h.fit
  waiting c hc := by
    rw [h.waiting] at hc
    have hfit := hinv.waiting c hc
    refine ⟨fun p before => ?_, fun p hp => ?_, ?_⟩
    · rw [h.earned]
      exact hfit.earned p before
    · rw [h.createdFor, List.drop_append_of_le_length hfit.since, mem_append,
        not_or] at hp
      rw [h.others p hp.2]
      exact hfit.committed p hp.1
    · rw [h.createdFor, length_append]
      have := hfit.since
      omega
  sender l hl := .of_none (hinv.toSend_unfenced hfenced (h.holder ▸ hl))
  listed hl := hinv.listed (h.holder ▸ hl)
  traced := by
    have hT : b'.Proved = b.Proved := by
      funext t
      rw [Books.Proved, Books.Proved, h.proofs]
    rw [hT]
    exact hinv.traced.beside (h.saved hinv.traced.toSaved) h.holder

theorem BooksInv.create (h : BooksInv b) (hfenced : b.fenced = false)
    (snapshot : Ledger) (request : Request) : BooksInv (b.create snapshot request) := by
  rcases create_creates h.fit request with heq | hcreates
  · rw [heq]
    exact h
  · exact hcreates.inv h hfenced

/-! ## Steps beside the process -/

section

variable (h : BooksInv b)
include h

theorem BooksInv.grows_of_world (hworld : b'.world = b.world)
    (hearned : ∀ p before, b.ledger.earned p before ≤ b'.ledger.earned p before)
    (hadjustments : b'.adjustments = b.adjustments) (hboundaries : b'.boundaries = b.boundaries)
    (hcreatedFor : b'.createdFor = b.createdFor) : Grows b b' :=
  ⟨hworld ▸ h.fit.refl, hearned, hadjustments, hboundaries, hcreatedFor⟩

theorem BooksInv.recordReferredSpend (entries : List CommissionEntry) :
    BooksInv { b with commissionEntries := entries ++ b.commissionEntries } := by
  refine h.beside (h.grows_of_world rfl (fun p before => ?_) rfl rfl rfl)
    (fun c hc => .inl hc) rfl rfl id h.traced
  exact add_le_add_left (earnedIn_append ..) _

theorem BooksInv.recordReferredSpendV2 (entries : List CommissionEntry) :
    BooksInv { b with commissionEntriesV2 := entries ++ b.commissionEntriesV2 } := by
  refine h.beside (h.grows_of_world rfl (fun p before => ?_) rfl rfl rfl)
    (fun c hc => .inl hc) rfl rfl id h.traced
  exact add_le_add_right (earnedIn_append ..) _

theorem BooksInv.recordAdjustments (hfenced : b.fenced = false)
    (rows : List CommissionAdjustment) :
    BooksInv { b with adjustments := rows ++ b.adjustments } where
  fit := h.fit
  waiting c hc :=
    have hfit := h.waiting c hc
    ⟨hfit.earned, hfit.committed, hfit.since⟩
  sender _ hl := .of_none (h.toSend_unfenced hfenced hl)
  listed hl := h.listed hl
  traced := h.traced

theorem BooksInv.begin (request : Request) : BooksInv (b.begin request) := by
  refine h.beside (h.grows_of_world rfl (fun _ _ => le_refl _) rfl rfl rfl)
    (fun c hc => ?_) rfl rfl id h.traced
  rcases mem_cons.mp hc with rfl | hc
  · exact .inr ⟨fun _ _ => le_refl _, fun _ _ => le_refl _, le_refl _⟩
  · exact .inl hc

theorem BooksInv.abort (i : Nat) : BooksInv { b with waiting := b.waiting.eraseIdx i } :=
  h.beside (h.grows_of_world rfl (fun _ _ => le_refl _) rfl rfl rfl)
    (fun _ hc => .inl ((List.eraseIdx_sublist ..).subset hc)) rfl rfl id h.traced

theorem BooksInv.commit (i : Nat) : BooksInv (b.commit i) := by
  unfold Books.commit
  split
  · exact h
  · split
    · exact h
    · rename_i hfenced
      have habort := h.abort i
      simp only
      split
      · exact habort
      · exact habort.create (by simpa using hfenced) _ _

theorem BooksInv.prepare (request : Request) : BooksInv (b.prepare request) := by
  unfold Books.prepare
  split
  · exact h
  · rename_i hfenced
    exact h.create (by simpa using hfenced) _ _

theorem BooksInv.decidePayout (payoutId : String) : BooksInv (b.decidePayout payoutId) := by
  unfold Books.decidePayout
  split
  · exact h
  · rename_i row hrow
    split
    · rename_i hguard
      have hidle := (h.fit.row hrow).manual hguard.1
      refine h.beside ⟨h.fit.reject hrow hidle, fun _ _ => le_refl _, rfl, rfl, rfl⟩
        (fun _ hc => .inl hc) rfl rfl id ?_
      exact h.traced.beside (h.traced.toSaved.putRow (fun hraw => h.traced.raw hrow hraw)) rfl
    · exact h

theorem BooksInv.fence : BooksInv { b with fenced := true } :=
  h.beside (h.grows_of_world rfl (fun _ _ => le_refl _) rfl rfl rfl)
    (fun _ hc => .inl hc) rfl rfl (fun _ => rfl) h.traced

end

/-! ## Steps of the engine -/

/-- The fence is given back only when the process is gone. -/
theorem BooksInv.unfence (h : BooksInv b) : BooksInv b.unfence where
  fit := h.fit
  waiting c hc :=
    have hfit := h.waiting c hc
    ⟨hfit.earned, hfit.committed, hfit.since⟩
  sender l hl rows hrows := by
    obtain ⟨π, hπ, hsub, hsigns⟩ := h.sender l hl rows hrows
    have hfenced : b.unfence.fenced = true := by
      have hholder : b.world.holder = some l := hl
      simp [Books.unfence, hπ.fenced, hholder]
    exact ⟨π, ⟨hπ.latest, hfenced, hπ.adjustments, hπ.row⟩, hsub, hsigns⟩
  listed hl := h.listed hl
  traced := h.traced

theorem holder_exec {w : World} (hprepare : ∀ b recipients, e ≠ .prepare b recipients)
    (hadvance : ∀ a, e ≠ .advance a) (h : (exec w e).holder = some l) :
    w.holder = some l ∨ l.toSend = none ∧ l.listed = none := by
  cases e with
  | prepare b recipients => exact absurd rfl (hprepare b recipients)
  | release =>
    simp only [exec, World.releasePayoutRow] at h
    split at h
    · exact .inl h
    · split at h <;> exact .inl h
  | readBatchState =>
    simp only [exec, World.readBatchState] at h
    split at h <;> exact .inl h
  | writeBatchState =>
    simp only [exec, World.writeBatchState, World.transitionPayoutBatchStatus] at h
    split at h
    · exact .inl h
    · split at h <;> exact .inl h
  | finalizeStuckSendingBatches | mine t ok | mineOther | sync p v => exact .inl h
  | acquire task =>
    simp only [exec] at h
    split at h
    · exact .inl h
    · cases h
      cases task <;> exact .inr ⟨rfl, rfl⟩
  | advance a => exact absurd rfl (hadvance a)
  | crash => cases h

theorem BooksInv.exec_world (h : BooksInv b)
    (hprepare : ∀ b recipients, e ≠ .prepare b recipients)
    (hadvance : ∀ a, e ≠ .advance a) : BooksInv { b with world := exec b.world e } := by
  have hg : Grows b { b with world := exec b.world e } :=
    ⟨h.fit.exec e hprepare, fun _ _ => le_refl _, rfl, rfl, rfl⟩
  refine ⟨hg.settles.fit, fun c hc => (h.waiting c hc).grows hg, ?_, ?_,
    h.traced.exec e hprepare hadvance⟩
  · intro l hl
    rcases holder_exec hprepare hadvance hl with hl | ⟨hnone, -⟩
    · exact (h.sender l hl).grows hg rfl (fun hf => hf)
    · exact .of_none hnone
  · intro l batchId rows hl hrows
    rcases holder_exec hprepare hadvance hl with hl | ⟨-, hnone⟩
    · exact h.listed hl hrows
    · rw [hnone] at hrows
      cases hrows

theorem BooksInv.proved_of_pays (h : BooksInv b) (hl : b.world.holder = some l)
    {t : Transfer} (hrows : l.toSend = some rows) (hx : x ∈ rows) (hp : Pays t x.2) :
    b.Proved t := by
  obtain ⟨π, hπ, hsub, -⟩ := h.sender l hl rows hrows
  exact ⟨π, List.mem_of_mem_head? hπ.latest, x.1, x, hsub hx, rfl, hp⟩

theorem BooksInv.listed_advance (h : BooksInv b) {l' : Local} {a : Answer}
    (hl : b.world.holder = some l) (hl' : (b.world.advance a l).holder = some l')
    (hlisted : l'.listed = some (batchId, rows)) :
    ∀ x ∈ rows, x.2.batchId = some batchId := by
  rcases (follows_advance hl').listed hlisted with hold | hbatch
  · exact h.listed hl hold
  · exact hbatch

theorem BooksInv.advance_world (h : BooksInv b) (a : Answer) (hl : b.world.holder = some l)
    (hother : ∀ batchId rows, l ≠ .assertPreparedBalances batchId rows) :
    BooksInv { b with world := b.world.advance a l } := by
  have hg : Grows b { b with world := b.world.advance a l } :=
    ⟨h.fit.advance a l, fun _ _ => le_refl _, rfl, rfl, rfl⟩
  refine ⟨hg.settles.fit, fun c hc => (h.waiting c hc).grows hg, ?_,
    fun hl' => h.listed_advance hl hl', h.traced.advance hl a (h.proved_of_pays hl)⟩
  intro l' hl' rows hrows
  have hfollows := follows_advance hl'
  rcases hfollows.toSend hrows with ⟨batchId, heq, -⟩ | ⟨rows0, hrows0, hsub⟩
  · exact absurd heq (hother batchId rows)
  · obtain ⟨π, hπ, hsub0, hsigns⟩ := h.sender l hl rows0 hrows0
    refine ⟨π, hπ.grows hg rfl hπ.fenced, List.Subset.trans hsub hsub0, ?_⟩
    intro id t hsigned
    rcases hfollows.signed hsigned with hold | ⟨rows1, x, hrows1, hx, hid, hp⟩
    · exact hsigns id t hold
    · rw [hrows0] at hrows1
      cases hrows1
      exact ⟨x, hsub0 hx, hid, hp⟩

theorem covered_of_allowed {row : PayoutRow} (hrow : b.world.payouts.find? id = some row)
    (hstatus : row.status = .requested)
    (hle : row.amountNano ≤ b.ledger.allowed row.partnerId id earnedBefore) :
    Covered b.ledger row.partnerId (some earnedBefore) := by
  have hsplit : b.ledger.committed row.partnerId =
      b.ledger.committedOthers row.partnerId id + row.committedTo row.partnerId :=
    Table.sumBy_except _ hrow
  rw [committedTo_of_not_rejected (by simp [hstatus]), if_pos rfl] at hsplit
  unfold Covered
  unfold Ledger.allowed at hle
  omega

theorem covered_of_proves (h : b.proves earnedBefore rows = true) (hx : x ∈ rows) :
    Covered b.ledger x.2.partnerId (some earnedBefore) := by
  have hrow := all_eq_true.mp h x hx
  rw [Bool.and_eq_true, decide_eq_true_eq] at hrow
  obtain ⟨hprepared, hle⟩ := hrow
  unfold World.stillPrepared at hprepared
  split at hprepared
  · cases hprepared
  · rename_i row hfind
    simp only [guard_iffs] at hprepared
    obtain ⟨⟨⟨⟨-, hstatus⟩, -⟩, hpartner⟩, hamount⟩ := hprepared
    rw [← hpartner]
    rw [← hpartner, ← hamount] at hle
    exact covered_of_allowed hfind hstatus hle

theorem BooksInv.advance_proof (h : BooksInv b) (a : Answer)
    (hl : b.world.holder = some (.assertPreparedBalances batchId rows))
    (hfenced : b.fenced = true) (hπ : b.assertPreparedBalances batchId rows = some π) :
    BooksInv { b with
      world := b.world.advance a (.assertPreparedBalances batchId rows)
      proofs := π :: b.proofs } := by
  have hg : Grows b { b with
      world := b.world.advance a (.assertPreparedBalances batchId rows)
      proofs := π :: b.proofs } :=
    ⟨h.fit.advance a (.assertPreparedBalances batchId rows), fun _ _ => le_refl _, rfl, rfl, rfl⟩
  refine ⟨hg.settles.fit, fun c hc => (h.waiting c hc).grows hg, ?_, ?_, ?_⟩
  · intro l' hl' rows' hrows'
    rcases (follows_advance hl').toSend hrows' with ⟨_, heq, hnone⟩ | ⟨_, hnone, -⟩
    · cases heq
      unfold Books.assertPreparedBalances at hπ
      split at hπ
      · rename_i earnedBefore hboundary
        split at hπ
        · rename_i hproves
          cases hπ
          refine ⟨_, ⟨rfl, hfenced, rfl, fun x hx => ⟨?_, ?_⟩⟩,
            List.Subset.refl _, fun id t hs => ?_⟩
          · have hbatch := h.listed hl rfl x hx
            simp [Books.boundaryOf, hbatch, hboundary]
          · exact (covered_of_proves hproves hx).grows hg
          · rw [hnone] at hs
            cases hs
        · cases hπ
      · cases hπ
    · cases hnone
  · intro l' batchId' rows' hl' hlisted
    exact h.listed_advance (a := a) hl hl' hlisted
  · refine (h.traced.advance hl a (h.proved_of_pays hl)).mono (fun t ht => ?_)
    obtain ⟨π', hmem, hsigns⟩ := ht
    exact ⟨π', mem_cons_of_mem _ hmem, hsigns⟩

theorem BooksInv.release_world (h : BooksInv b) : BooksInv { b with world := b.world.release } :=
  h.exec_world (e := .crash) nofun nofun

theorem BooksInv.advance (h : BooksInv b) (a : Answer) (hl : b.world.holder = some l) :
    BooksInv (b.advance a l) := by
  unfold Books.advance
  split
  · exact h
  · rename_i hfence
    split
    · rename_i batchId rows
      split
      · exact h.release_world.unfence
      · rename_i π hπ
        have hfenced : b.fenced = true := by simpa [Books.inFence] using hfence
        exact (h.advance_proof a hl hfenced hπ).unfence
    · rename_i hother
      exact (h.advance_world a hl hother).unfence

theorem BooksInv.engine (h : BooksInv b) (e : Event) : BooksInv (b.engine e) := by
  unfold Books.engine
  split
  · exact h
  · split
    · exact h
    · rename_i a _ l hl
      exact h.advance a hl
  · rename_i hprepare hadvance
    exact (h.exec_world hprepare hadvance).unfence

theorem BooksInv.exec (h : BooksInv b) (op : BooksOp) : BooksInv (b.exec op) := by
  cases op with
  | recordReferredSpend entries => exact h.recordReferredSpend entries
  | recordReferredSpendV2 entries => exact h.recordReferredSpendV2 entries
  | recordAdjustments rows =>
    simp only [Books.exec]
    split
    · exact h
    · rename_i hfenced
      exact h.recordAdjustments (by simpa using hfenced) rows
  | begin request => exact h.begin request
  | commit i => exact h.commit i
  | abort i => exact h.abort i
  | prepare request => exact h.prepare request
  | decidePayout id => exact h.decidePayout id
  | fence =>
    simp only [Books.exec]
    split
    · exact h.fence
    · exact h.fence
    · exact h
  | engine e => exact h.engine e

theorem booksInv_init (moreProviders : Nat) : BooksInv (Books.init moreProviders) where
  fit := ⟨fun hrow => by simp [Books.init, World.init] at hrow,
    fun hrow => by simp [Books.init, World.init] at hrow⟩
  waiting _ hc := by simp [Books.init] at hc
  sender _ hl := by simp [Books.init, World.init] at hl
  listed hl := by simp [Books.init, World.init] at hl
  traced :=
    { raw := fun hrow => by simp [Books.init, World.init] at hrow
      attempted := fun ht => by simp [Books.init, World.init] at ht
      mined := fun hm => by simp [Books.init, World.init] at hm
      signed := fun hl => by simp [Books.init, World.init] at hl
      polled := fun hl => by simp [Books.init, World.init] at hl }

/-! ## Payouts are covered -/

theorem BooksInv.settles_engine (h : BooksInv b) (e : Event) :
    Settles b.world (b.engine e).world := by
  unfold Books.engine
  split
  · exact h.fit.refl
  · split
    · exact h.fit.refl
    · rename_i a _ l hl
      unfold Books.advance
      split
      · exact h.fit.refl
      · split
        · rename_i batchId rows _
          split
          · exact h.fit.release
          · exact h.fit.advance a (.assertPreparedBalances batchId rows)
        · exact h.fit.advance a _
  · rename_i hprepare _
    exact h.fit.exec e hprepare

theorem committed_of_not_conflicts (hfit : WaitingFit b c)
    (hconflicts : b.conflicts c = false) :
    ∀ p ∈ c.request.partnerIds, b.ledger.committed p ≤ c.snapshot.committed p := by
  intro p hp
  refine hfit.committed p (fun hmem => ?_)
  have hany : b.conflicts c = true :=
    List.any_eq_true.mpr ⟨p, hmem, List.contains_iff_mem.mpr hp⟩
  rw [hconflicts] at hany
  cases hany

theorem BooksInv.created_covered (h : BooksInv b) {op : BooksOp}
    (htimely : timely b op = true) {row : PayoutRow}
    (hnone : b.world.payouts.find? id = none)
    (hrow : (b.exec op).world.payouts.find? id = some row) :
    Covered (b.exec op).ledger row.partnerId ((b.exec op).boundaryOf row) := by
  have hold : ∀ {w'}, Settles b.world w' → w'.payouts.find? id ≠ some row := by
    intro w' hs hrow'
    obtain ⟨row0, hrow0⟩ := hs.created hrow'
    rw [hnone] at hrow0
    cases hrow0
  cases op with
  | recordReferredSpend entries | recordReferredSpendV2 entries | begin request
  | abort => exact absurd hrow (hold h.fit.refl)
  | recordAdjustments rows | fence =>
    simp only [Books.exec] at hrow
    split at hrow <;> exact absurd hrow (hold h.fit.refl)
  | commit i =>
    simp only [Books.exec, Books.commit] at hrow ⊢
    split at hrow
    · exact absurd hrow (hold h.fit.refl)
    · rename_i c hc
      split at hrow
      · exact absurd hrow (hold h.fit.refl)
      · rename_i hfenced
        split at hrow
        · exact absurd hrow (hold h.fit.refl)
        · rename_i hconflicts
          rw [if_neg hfenced, if_neg hconflicts]
          have hfit := h.waiting c (mem_of_getElem? hc)
          have hcommitted := committed_of_not_conflicts hfit (Bool.not_eq_true _ ▸ hconflicts)
          rcases create_creates (h.abort i).fit c.request with heq | hcreates
          · rw [heq] at hrow
            exact absurd hrow (hold h.fit.refl)
          · refine hcreates.covered hfit.earned hcommitted (fun p hp => ?_) hnone
              hrow
            simp only [timely, hc, all_eq_true, beq_iff_eq] at htimely
            exact htimely p hp
  | prepare request =>
    simp only [Books.exec, Books.prepare] at hrow ⊢
    split at hrow
    · exact absurd hrow (hold h.fit.refl)
    · rename_i hfenced
      rw [if_neg hfenced]
      rcases create_creates h.fit request with heq | hcreates
      · rw [heq] at hrow
        exact absurd hrow (hold h.fit.refl)
      · exact hcreates.covered (fun _ _ => le_refl _) (fun _ _ => le_refl _)
          (fun _ _ => rfl) hnone hrow
  | decidePayout payoutId =>
    simp only [Books.exec, Books.decidePayout] at hrow
    split at hrow
    · exact absurd hrow (hold h.fit.refl)
    · rename_i row0 hrow0
      split at hrow
      · rename_i hguard
        have hidle := (h.fit.row hrow0).manual hguard.1
        exact absurd hrow (hold (h.fit.reject hrow0 hidle))
      · exact absurd hrow (hold h.fit.refl)
  | engine e => exact absurd hrow (hold (h.settles_engine e))

/-- In every run in which no adjustment of a partner commits while a creating
transaction for that partner waits for the fence: a payout that is created
leaves its partner's payouts covered; so they are when a row is signed; when a
signed transfer is broadcast by its sender, it is for a row of the latest
balance proof, and the adjustments are those of that proof; and every
transfer that is mined pays a row of a balance proof the proved amount. -/
theorem signed_payout_covered (moreProviders : Nat) (ops : List BooksOp) (op : BooksOp)
    (htimely : Along Books.exec (fun b op => timely b op = true)
      (Books.init moreProviders) (ops ++ [op])) :
    let b := run Books.exec (Books.init moreProviders) ops
    let b' := b.exec op
    (∀ id row, b.world.payouts.find? id = none →
      b'.world.payouts.find? id = some row →
      Covered b'.ledger row.partnerId (b'.boundaryOf row)) ∧
    (∀ x rest nonce, b.world.holder = some (.signTransfer x rest nonce) →
      Covered b.ledger x.2.partnerId (b.boundaryOf x.2)) ∧
    (∀ id t rest attempt, b.world.holder = some (.broadcastRaw id t rest attempt) →
      ∃ π, b.proofs.head? = some π ∧ π.Signs id t ∧ π.adjustments = b.adjustments) ∧
    (∀ t ok, .own t ok ∈ b.world.chain.mined → b.Proved t) := by
  intro b b'
  have hinv : BooksInv b :=
    run_invariant (I := BooksInv) (fun _ op h => h.exec op) (booksInv_init moreProviders) ops
  refine ⟨fun id row hnone hrow => ?_, fun x rest nonce hl => ?_,
    fun id t rest attempt hl => ?_, fun t ok hm => hinv.traced.mined hm⟩
  · exact hinv.created_covered (along_append.mp htimely).2.1 hnone hrow
  · obtain ⟨π, hπ, hsub, -⟩ := hinv.sender _ hl _ rfl
    obtain ⟨hboundary, hcovered⟩ := hπ.row x (hsub (mem_cons_self ..))
    rw [hboundary]
    exact hcovered
  · obtain ⟨π, hπ, -, hsigns⟩ := hinv.sender _ hl _ rfl
    exact ⟨π, hπ.latest, hsigns id t rfl, hπ.adjustments⟩

def answerOk : Answer :=
  { pending := 0, gasPrice := 1, ok := true, provider := 0, deep := true,
    known := false }

def signingRun : List BooksOp :=
  [.recordReferredSpendV2 [⟨"p", 100, 0, by decide⟩],
   .recordAdjustments [⟨"p", -40, by decide⟩],
   .begin (.requestPayout "r1" "p" 10), .commit 0,
   .prepare (.createPayoutBatch "b" 1 (some 5) [⟨"r2", "p", 50, "0x1"⟩]),
   .engine (.acquire (.send "b")), .fence]
  ++ List.replicate 7 (.engine (.advance answerOk))

/-- The batch is signed while the partner's ledger covers it. -/
theorem signed_payout_covered_batch :
    (run Books.exec (Books.init 0) signingRun).world.holder =
      some (.signTransfer ("r2", World.newRow "b" ⟨"r2", "p", 50, "0x1"⟩) [] 0) ∧
    Covered (run Books.exec (Books.init 0) signingRun).ledger "p" (some 5) := by
  have hholder : (run Books.exec (Books.init 0) signingRun).world.holder =
      some (.signTransfer ("r2", World.newRow "b" ⟨"r2", "p", 50, "0x1"⟩) [] 0) := by
    decide +kernel
  have hboundary : (run Books.exec (Books.init 0) signingRun).boundaryOf
      (World.newRow "b" ⟨"r2", "p", 50, "0x1"⟩) = some 5 := by
    decide +kernel
  have htimely : Along Books.exec (fun b op => timely b op = true) (Books.init 0)
      (signingRun ++ [.engine (.advance answerOk)]) := by
    decide +kernel
  have h := (signed_payout_covered 0 signingRun (.engine (.advance answerOk))
    htimely).2.1 _ _ _ hholder
  rw [hboundary] at h
  exact ⟨hholder, h⟩

/-- The whole commission is requested; while the transaction waits for the
fence, most of the commission is reversed. -/
def overtakenRun : List BooksOp :=
  [.recordReferredSpend [⟨"p", 100, 0, by decide⟩],
   .begin (.requestPayout "r1" "p" 100),
   .recordAdjustments [⟨"p", -60, by decide⟩]]

/-- The request goes through on the old balance. -/
theorem payout_created_uncovered :
    (run Books.exec (Books.init 0) overtakenRun).world.payouts.find? "r1" = none ∧
    (run Books.exec (Books.init 0) (overtakenRun ++ [.commit 0])).world.payouts.find?
      "r1" = some (Books.manualRow "p" 100) ∧
    ¬ Covered (run Books.exec (Books.init 0) (overtakenRun ++ [.commit 0])).ledger "p" none := by
  decide +kernel

end ApiToken.Payout
