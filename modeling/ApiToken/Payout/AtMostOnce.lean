import ApiToken.Payout.Invariant

/-!
# A payout is transferred at most once

Each step of the process inside the send lock keeps the payout invariant,
with one exception: the last nonce read of `reconcileTransaction` concludes
that another transaction took the nonce, from a transaction read that came
before. When the row's own transaction comes into view in between, the row is
marked failed although it was paid, and it can be sent again.
-/

namespace ApiToken.Payout

variable {x : Listed} {rest : List Listed} {r : Reading}

variable {w w' : World} {id : String} {t : Transfer}

/-! ## The steps of the process -/

theorem sendable_idle {row : PayoutRow} (h : row.sendable = true) : row.idle = true := by
  simp only [PayoutRow.sendable, guard_iffs] at h
  exact h.2

theorem idleRows_listSendablePayouts (w : World) (batchId : String) :
    IdleRows w (w.listSendablePayouts batchId) := by
  unfold World.listSendablePayouts
  refine ⟨(nodup_select ..).sublist (filter_sublist.map _), ?_⟩
  intro x hx row hrow
  obtain ⟨hmem, hsend⟩ := mem_filter.mp hx
  obtain ⟨hfind, -⟩ := mem_select (k := x.1) (r := x.2) hmem
  rw [hfind] at hrow
  cases hrow
  exact sendable_idle hsend

theorem broadcastRows_listBroadcastPayouts (w : World) (limit : Nat) :
    BroadcastRows w (w.listBroadcastPayouts limit) := by
  have hmem : ∀ x ∈ w.listBroadcastPayouts limit,
      w.payouts.find? x.1 = some x.2 ∧
        (x.2.chainStatus == some .broadcast && x.2.txHash.isSome) = true :=
    fun x hx => mem_select (k := x.1) (r := x.2) hx
  refine ⟨nodup_select .., fun x hx => (hmem x hx).1, fun x hx => ?_⟩
  have hp := (hmem x hx).2
  rw [Bool.and_eq_true, beq_iff_eq] at hp
  exact hp.1

theorem IdleRows.tail (h : IdleRows w (x :: rest)) :
    Idle w x.1 ∧ x.1 ∉ rest.map Prod.fst ∧ IdleRows w rest := by
  have hnodup := nodup_cons.mp h.nodup
  exact ⟨h.idle x (mem_cons_self ..), hnodup.1, hnodup.2,
    fun y hy => h.idle y (mem_cons_of_mem _ hy)⟩

theorem BroadcastRows.tail (h : BroadcastRows w (x :: rest)) :
    x.1 ∉ rest.map Prod.fst ∧ BroadcastRows w rest := by
  have hnodup := nodup_cons.mp h.nodup
  exact ⟨hnodup.1, hnodup.2, fun y hy => h.row y (mem_cons_of_mem _ hy),
    fun y hy => h.broadcast y (mem_cons_of_mem _ hy)⟩

theorem BroadcastRows.awaits {t : Transfer} (h : BroadcastRows w (x :: rest))
    (ht : x.2.txHash = some t) : Awaits w x.1 t :=
  ⟨x.2, h.row x (mem_cons_self ..), h.broadcast x (mem_cons_self ..), ht⟩

theorem Awaits.reserved (hs : Sound w) (h : Awaits w id t) : (id, t) ∈ w.reserved := by
  obtain ⟨row, hrow, hstatus, hhash⟩ := h
  have hflight := PayoutRow.not_idle_of_broadcast hstatus
  exact hs.reserved hrow (by rw [PayoutRow.tracked_inFlight hflight, hhash])

theorem Idle.failable (h : Idle w id) : ∀ row t, w.payouts.find? id = some row →
    row.tracked = some t → w.chain.Dead t := by
  intro row t hrow htrack
  rw [PayoutRow.tracked_idle (h row hrow)] at htrack
  cases htrack

theorem Awaits.failable (h : Awaits w id t) (hdead : w.chain.Dead t) :
    ∀ row t', w.payouts.find? id = some row → row.tracked = some t' → w.chain.Dead t' := by
  obtain ⟨row, hrow, hstatus, hhash⟩ := h
  intro row' t' hrow' htrack
  rw [hrow] at hrow'
  cases hrow'
  rw [PayoutRow.tracked_inFlight (PayoutRow.not_idle_of_broadcast hstatus), hhash] at htrack
  cases htrack
  exact hdead

section

variable (hs : Sound w)
include hs

theorem Sound.afterBatchRead (batchId : String) {next : Local} (h : HolderOk w next) :
    Inv (w.afterBatchRead batchId next) := by
  unfold World.afterBatchRead
  split
  · exact hs.step h
  · exact hs.step h
  · exact hs.release

theorem inv_stepFindRow (id : String) : Inv (w.stepFindRow id) := by
  unfold World.stepFindRow
  split
  · exact hs.release
  · rename_i row hrow
    split
    · rename_i b hsend hb
      refine hs.step (fun row' hrow' => ?_)
      rw [hrow] at hrow'
      cases hrow'
      exact sendable_idle hsend
    · exact hs.release

theorem inv_claimBatch (batchId : String) {rows : List Listed} (h : IdleRows w rows) :
    Inv ((w.transitionPayoutBatchStatus batchId .sending).afterBatchRead batchId
      (.computeStartNonce rows)) := by
  unfold World.transitionPayoutBatchStatus
  split
  · refine Sound.afterBatchRead ?_ _ ?_
    · exact hs.congr rfl rfl rfl rfl
    · exact ⟨h.nodup, h.idle⟩
  · refine Sound.afterBatchRead ?_ _ ?_
    · exact hs.congr rfl rfl rfl rfl
    · exact ⟨h.nodup, h.idle⟩
  · exact hs.afterBatchRead _ h

theorem inv_stepLoop (a : Answer) {q : Queue} (h : QueueOk w q) : Inv (w.stepLoop a q) := by
  match q, h with
  | .sendRows [] nonce, _ => exact hs.release
  | .sendRows (x :: rest) nonce, h =>
    have htail := IdleRows.tail h
    simp only [World.stepLoop]
    split
    · exact hs.step ⟨htail.1.failable, htail.2⟩
    · exact hs.step h
  | .poll [], _ => exact hs.release
  | .poll (x :: rest), h => exact hs.step ⟨h, by simp⟩

theorem inv_stepSign (a : Answer) (h : IdleRows w (x :: rest)) (nonce : Nat) :
    Inv (w.stepSign a x rest nonce) := by
  have htail := h.tail
  unfold World.stepSign
  split
  · exact hs.step htail
  · exact hs.step ⟨htail.1.failable, htail.2⟩

theorem inv_stepReserve (h : Idle w id ∧ id ∉ rest.map Prod.fst ∧ IdleRows w rest)
    (t : Transfer) :
    Inv (w.stepReserve id t rest) := by
  obtain ⟨hidle, hnot, hrest⟩ := h
  unfold World.stepReserve
  split
  · exact hs.release
  · rename_i htaken
    rw [Bool.not_eq_true] at htaken
    have hs' := hs.markPayoutBroadcast hidle htaken
    have hrest' := hrest.undisturbed (undisturbed_markPayoutBroadcast w id t)
      (fun id' hid' heq => hnot (some.inj heq ▸ hid'))
    split
    · rename_i hreserves
      exact hs'.step ⟨awaits_markPayoutBroadcast hreserves t, hnot, hrest'⟩
    · exact hs'.step hrest'

theorem inv_stepBroadcast (a : Answer)
    (h : Awaits w id t ∧ id ∉ rest.map Prod.fst ∧ IdleRows w rest) (attempt : Nat) :
    Inv (w.stepBroadcast a id t rest attempt) := by
  obtain ⟨hawaits, hnot, hrest⟩ := h
  have hs' := hs.attempt (hawaits.reserved hs)
  have hrest' : IdleRows { w with chain := w.chain.attempt t } rest := ⟨hrest.nodup, hrest.idle⟩
  simp only [World.stepBroadcast]
  split
  · exact hs'.step ⟨hawaits, hnot, hrest'⟩
  · split
    · exact hs'.release
    · exact hs'.step ⟨hawaits, hnot, hrest'⟩

theorem inv_stepWait (a : Answer) (h : Awaits w id t ∧ id ∉ rest.map Prod.fst ∧ IdleRows w rest) :
    Inv (w.stepWait a id t rest) := by
  obtain ⟨hawaits, hnot, hrest⟩ := h
  unfold World.stepWait
  split
  · rename_i hreceipt _
    exact hs.step ⟨⟨t, hawaits, landed_of_receipt hreceipt⟩, hnot, hrest⟩
  · rename_i hreceipt _
    exact hs.step ⟨hawaits.failable (dead_of_receipt hreceipt), hnot, hrest⟩
  · exact hs.release

theorem inv_stepReceipt (a : Answer) (h : ReadingOk w r) : Inv (w.stepReceipt a r) := by
  have htail := h.rows.tail
  unfold World.stepReceipt
  split
  · exact hs.step htail.2
  · rename_i t ht
    have hawaits := h.rows.awaits ht
    split
    · exact hs.step h
    · rename_i ok hreceipt
      split
      · split
        · rename_i hok
          exact hs.step ⟨⟨t, hawaits, landed_of_receipt (hok ▸ hreceipt)⟩, htail⟩
        · rename_i hok
          rw [Bool.not_eq_true] at hok
          exact hs.step ⟨hawaits.failable (dead_of_receipt (hok ▸ hreceipt)), htail⟩
      · exact hs.step h.rows

theorem inv_stepTransaction (a : Answer) (h : ReadingOk w r) : Inv (w.stepTransaction a r) := by
  unfold World.stepTransaction
  split
  · exact hs.step h.rows
  · split
    · exact hs.step h.rows
    · exact hs.step h

theorem dead_of_lostAt (h : ReadingOk w r)
    (hcount : r.payout.2.nonce.getD 0 < (w.chain.view r.provider).length)
    (hlost : w.lostAt r = true) {t : Transfer} (ht : r.payout.2.txHash = some t) :
    w.chain.Dead t := by
  have hmem : r.payout ∈ r.payout :: r.rest := mem_cons_self ..
  have hnonce := (hs.row (h.rows.row _ hmem)).nonce (h.rows.broadcast _ hmem)
  rw [ht, map_some] at hnonce
  rw [hnonce, getD_some] at hcount
  simp only [World.lostAt, ht, bne_iff_ne, ne_eq] at hlost
  cases hreceipt : receipt (w.chain.view r.provider) t with
  | none => exact dead_of_count hcount hreceipt
  | some ok =>
    cases ok with
    | true => exact absurd hreceipt hlost
    | false => exact dead_of_receipt hreceipt

end

/-- The step that can draw the wrong conclusion: the last nonce read of a
`reconcileTransaction`, when at every provider's nonce read the nonce was
taken by the row's own successful transfer, which came into that provider's
view after its transaction read. -/
def misreads (w : World) : Event → Bool
  | .advance _ =>
    match w.holder with
    | some (.getTransactionCount r) =>
      decide (r.payout.2.nonce.getD 0 < (w.chain.view r.provider).length)
        && decide (w.chain.views.length ≤ r.provider + 1)
        && !(r.lost || w.lostAt r)
    | _ => false
  | _ => false

theorem inv_stepCount (hs : Sound w) (a : Answer) (h : ReadingOk w r)
    (hholder : w.holder = some (.getTransactionCount r))
    (hquiet : misreads w (.advance a) = false) : Inv (w.stepCount r) := by
  have htail := h.rows.tail
  unfold World.stepCount
  split
  · exact hs.step h.rows
  · rename_i hcount
    rw [Nat.not_le] at hcount
    -- what the reads so far prove, this one included
    have hdead : (r.lost || w.lostAt r) = true →
        ∀ t, r.payout.2.txHash = some t → w.chain.Dead t := by
      intro hlost t ht
      rcases Bool.or_eq_true_iff.mp hlost with hlost | hlost
      · exact h.lost hlost t ht
      · exact dead_of_lostAt hs h hcount hlost ht
    split
    · exact hs.step ⟨h.rows, hdead⟩
    · rename_i hlast
      rw [Nat.not_lt] at hlast
      have hlost : (r.lost || w.lostAt r) = true := by
        simp only [misreads, hholder, hcount, hlast, decide_true, Bool.true_and,
          Bool.not_eq_false'] at hquiet
        exact hquiet
      have hmem : r.payout ∈ r.payout :: r.rest := mem_cons_self ..
      have hrow := h.rows.row _ hmem
      have hflight := PayoutRow.not_idle_of_broadcast (h.rows.broadcast _ hmem)
      obtain ⟨t, ht⟩ := isSome_iff_exists.mp ((hs.row hrow).hash hflight)
      exact hs.step ⟨(h.rows.awaits ht).failable (hdead hlost t ht), htail⟩

theorem inv_stepRebroadcast (hs : Sound w) (h : BroadcastRows w (x :: rest)) :
    Inv (w.stepRebroadcast x rest) := by
  have hmem : x ∈ x :: rest := mem_cons_self ..
  unfold World.stepRebroadcast
  split
  · exact hs.step h.tail.2
  · rename_i t hraw
    have hhash : x.2.txHash = some t :=
      ((hs.row (h.row x hmem)).raw (h.broadcast x hmem)) ▸ hraw
    have hs' := hs.attempt ((h.awaits hhash).reserved hs)
    have hrest : BroadcastRows { w with chain := w.chain.attempt t } rest :=
      ⟨h.tail.2.nodup, h.tail.2.row, h.tail.2.broadcast⟩
    exact hs'.step hrest

theorem inv_advance (h : Inv w) {l : Local} (hl : w.holder = some l) (a : Answer)
    (hquiet : misreads w (.advance a) = false) : Inv (w.advance a l) := by
  have hs := h.sound
  have hok := h.holder l hl
  cases l with
  | getPayoutBatch b => exact hs.afterBatchRead b trivial
  | assertNoneOutstanding =>
    simp only [World.advance]
    split
    · exact hs.release
    · exact hs.step trivial
  | listSendablePayouts b =>
    simp only [World.advance]
    split
    · exact hs.release
    · exact hs.step (idleRows_listSendablePayouts w b)
  | findRow id => exact inv_stepFindRow hs id
  | getTargetBatch _ b => exact hs.afterBatchRead b hok
  | assertNoneOutstandingOne =>
    simp only [World.advance]
    split
    · exact hs.release
    · refine hs.step ⟨List.nodup_singleton _, fun y hy => ?_⟩
      rw [mem_singleton.mp hy]
      exact hok
  | assertPreparedBalances =>
    simp only [World.advance]
    split
    · exact hs.step hok
    · exact hs.release
  | claimBatch b => exact inv_claimBatch hs b hok
  | computeStartNonce => exact hs.step hok
  | loop => exact inv_stepLoop hs a hok
  | signTransfer _ _ nonce => exact inv_stepSign hs a hok nonce
  | markPayoutBroadcast _ t => exact inv_stepReserve hs hok t
  | broadcastRaw _ _ _ attempt => exact inv_stepBroadcast hs a hok attempt
  | waitForConfirmation => exact inv_stepWait hs a hok
  | markPayoutConfirmed id =>
    obtain ⟨⟨t, hawaits, hland⟩, hnot, hq⟩ := hok
    have hs' : Sound (w.markPayoutConfirmed id) := hs.markPayoutConfirmed (by
      intro t' hawaits'
      obtain ⟨row, hrow, -, hhash⟩ := hawaits
      obtain ⟨row', hrow', -, hhash'⟩ := hawaits'
      rw [hrow] at hrow'
      cases hrow'
      rw [hhash] at hhash'
      cases hhash'
      exact hland)
    exact hs'.step (hq.undisturbed (undisturbed_markPayoutConfirmed w id)
      (fun id' hid' heq => hnot (some.inj heq ▸ hid')))
  | markPayoutFailed id =>
    obtain ⟨hdead, hnot, hq⟩ := hok
    exact (hs.markPayoutFailed hdead).step
      (hq.undisturbed (undisturbed_markPayoutFailed w id)
        (fun id' hid' heq => hnot (some.inj heq ▸ hid')))
  | cancelPayoutBatch b => exact (hs.cancelPayoutBatch b).release
  | listBroadcastPayouts => exact hs.step (broadcastRows_listBroadcastPayouts w 100)
  | getTransactionReceipt => exact inv_stepReceipt hs a hok
  | getTransaction => exact inv_stepTransaction hs a hok
  | getTransactionCount => exact inv_stepCount hs a hok hl hquiet
  | rebroadcast => exact inv_stepRebroadcast hs hok

/-! ## Runs -/

theorem inv_init (moreProviders : Nat) : Inv (World.init moreProviders) := by
  have hnone : ∀ id, (World.init moreProviders).payouts.find? id = none :=
    fun id => find?_empty id
  refine ⟨?_, fun l hl => by simp [World.init] at hl⟩
  constructor <;> intros <;> simp_all [World.init]

theorem inv_exec (h : Inv w) (e : Event) (hquiet : misreads w e = false) : Inv (exec w e) := by
  cases e with
  | prepare b recipients => exact h.createPayoutBatch b recipients
  | release id =>
    refine h.beside (h.sound.releasePayoutRow id) (undisturbed_releasePayoutRow w id) ?_
    simp only [exec, World.releasePayoutRow]
    split
    · rfl
    · split <;> rfl
  | readBatchState =>
    simp only [exec, World.readBatchState]
    split
    · exact h
    · exact h
    · exact h
    · exact h.congr rfl rfl rfl rfl rfl
  | writeBatchState =>
    simp only [exec, World.writeBatchState]
    split
    · exact h
    · simp only [World.transitionPayoutBatchStatus]
      split <;> exact h.congr rfl rfl rfl rfl rfl
  | finalizeStuckSendingBatches => exact h.congr rfl rfl rfl rfl rfl
  | acquire task =>
    simp only [exec]
    split
    · exact h
    · cases task <;> exact h.sound.step trivial
  | advance a =>
    simp only [exec]
    split
    · rename_i l hl
      exact inv_advance h hl a hquiet
    · exact h
  | crash => exact h.sound.release
  | mine t ok => exact h.mine t ok
  | mineOther => exact h.mineOther
  | sync p v => exact h.sync p v

/-- What the payout engine promises, in one state. -/
structure PaidAtMostOnce (w : World) : Prop where
  /-- At most one of a row's transfers has landed. -/
  once : ∀ {id t t'}, (id, t) ∈ w.reserved → (id, t') ∈ w.reserved →
    w.chain.Landed t → w.chain.Landed t' → t = t'
  /-- What landed was saved for a row before it was broadcast. -/
  onRecord : ∀ {t}, w.chain.Landed t → ∃ id, (id, t) ∈ w.reserved
  deleted : ∀ {id t}, w.payouts.find? id = none → (id, t) ∈ w.reserved →
    w.chain.Dead t
  released : ∀ {id row t}, w.payouts.find? id = some row →
    row.status = .rejected → (id, t) ∈ w.reserved → w.chain.Dead t
  failed : ∀ {id row t}, w.payouts.find? id = some row →
    row.chainStatus = some .failed → (id, t) ∈ w.reserved → w.chain.Dead t
  /-- A paid row was paid by a transfer of its own. -/
  paid : ∀ {id row}, w.payouts.find? id = some row → row.status = .paid →
    ∃ t, row.txHash = some t ∧ (id, t) ∈ w.reserved ∧ w.chain.Landed t
  paidApart : ∀ {id id' row row'}, w.payouts.find? id = some row →
    w.payouts.find? id' = some row' → row.status = .paid → row'.status = .paid →
    row.txHash = row'.txHash → id = id'

theorem Sound.dead_of_idle (hs : Sound w) (hidle : Idle w id)
    (hmem : (id, t) ∈ w.reserved) : w.chain.Dead t := by
  rcases hs.resolved hmem with hdead | ⟨row, hrow, htrack⟩
  · exact hdead
  · exact hidle.failable row t hrow htrack

theorem Sound.paidAtMostOnce (hs : Sound w) : PaidAtMostOnce w := by
  have hidle : ∀ {id row}, w.payouts.find? id = some row → row.idle = true →
      Idle w id := by
    intro id row hrow hidle row' hrow'
    rw [hrow] at hrow'
    cases hrow'
    exact hidle
  have hpaid : ∀ {id row}, w.payouts.find? id = some row → row.status = .paid →
      ∃ t, row.tracked = some t ∧ row.txHash = some t ∧ w.chain.Landed t := by
    intro id row hrow hstatus
    have hok := hs.row hrow
    have hconfirmed := hok.paid hstatus
    have hflight : row.idle = false := by simp [PayoutRow.idle, hconfirmed]
    obtain ⟨t, ht⟩ := isSome_iff_exists.mp (hok.hash hflight)
    exact ⟨t, by rw [PayoutRow.tracked_inFlight hflight, ht], ht, hok.landed hconfirmed t ht⟩
  refine
    { once := ?_, onRecord := ?_, deleted := ?_, released := ?_, failed := ?_,
      paid := ?_, paidApart := ?_ }
  · intro id t t' hmem hmem' hland hland'
    rcases hs.resolved hmem with hdead | ⟨row, hrow, htrack⟩
    · exact absurd hland hdead.not_landed
    · rcases hs.resolved hmem' with hdead | ⟨row', hrow', htrack'⟩
      · exact absurd hland' hdead.not_landed
      · rw [hrow] at hrow'
        cases hrow'
        exact some.inj (htrack.symm.trans htrack')
  · intro t hland
    exact hs.attempted (hs.mined (mem_of_getElem? hland))
  · intro id t hnone hmem
    refine hs.dead_of_idle (fun row hrow => ?_) hmem
    rw [hnone] at hrow
    cases hrow
  · intro id row t hrow hstatus hmem
    exact hs.dead_of_idle (hidle hrow ((hs.row hrow).rejected hstatus)) hmem
  · intro id row t hrow hstatus hmem
    exact hs.dead_of_idle (hidle hrow (by simp [PayoutRow.idle, hstatus])) hmem
  · intro id row hrow hstatus
    obtain ⟨t, htrack, ht, hland⟩ := hpaid hrow hstatus
    exact ⟨t, ht, hs.reserved hrow htrack, hland⟩
  · intro id id' row row' hrow hrow' hstatus hstatus' heq
    obtain ⟨t, htrack, ht, -⟩ := hpaid hrow hstatus
    obtain ⟨t', htrack', ht', -⟩ := hpaid hrow' hstatus'
    rw [ht, ht'] at heq
    cases heq
    exact hs.unique hrow hrow' htrack htrack'

def answer (pending : Nat) : Answer :=
  { pending, gasPrice := 1, ok := true, provider := 0, deep := true, known := false }

/-- `send`, up to and including the wait for a confirmation. -/
def sendEvents (pending : Nat) : List Event :=
  .acquire (.send "b") :: List.replicate 11 (.advance (answer pending))

/-- `confirmBroadcasts`, up to the nonce read of the first row. -/
def pollEvents : List Event :=
  .acquire .confirmBroadcasts :: List.replicate 4 (.advance (answer 0))

def preparedPayout : Event :=
  .prepare "b" [⟨"p", "partner", 5, "wallet"⟩]

def transferAt (nonce : Nat) : Transfer :=
  { recipient := "wallet", amountNano := 5, nonce, gasPrice := 1 }

/-- The transfer lands between the transaction read and the nonce read; the
row is marked failed and sent again. -/
def overtakenEvents : List Event :=
  preparedPayout :: sendEvents 0 ++ pollEvents
    ++ [.mine (transferAt 0) true, .sync 0 1]
    ++ List.replicate 3 (.advance (answer 0))
    ++ sendEvents 1 ++ [.mine (transferAt 1) true]

/-- Another transaction of the wallet takes the nonce; the row is sent again
and paid. -/
def replacedEvents : List Event :=
  preparedPayout :: sendEvents 0 ++ [.mineOther] ++ pollEvents ++ [.sync 0 1]
    ++ List.replicate 3 (.advance (answer 0))
    ++ sendEvents 1 ++ [.mine (transferAt 1) true, .sync 0 2]
    ++ .acquire .confirmBroadcasts :: List.replicate 5 (.advance (answer 0))

end ApiToken.Payout
