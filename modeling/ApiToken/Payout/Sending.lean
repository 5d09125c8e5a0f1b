import ApiToken.Payout.Service

/-!
# What a sender signs

Which rows the process inside the send lock is about to send, which transfer
it has signed, and where these come from: the rows of `sendRow` are rows that
passed the balance check, a signed transfer is made from one of them, and
whatever is broadcast, by the sender or later by the poller, was signed.
-/

namespace ApiToken.Payout

/-! ## Positions -/

def Local.toSend : Local → Option (List Listed)
  | .claimBatch _ rows | .computeStartNonce rows
  | .loop (.sendRows rows _) => some rows
  | .signTransfer x rest _ => some (x :: rest)
  | .markPayoutBroadcast _ _ rest | .broadcastRaw _ _ rest _
  | .waitForConfirmation _ _ rest => some rest
  | .markPayoutConfirmed _ (.sendRows rest _)
  | .markPayoutFailed _ (.sendRows rest _) => some rest
  | _ => none

def Local.signed : Local → Option (String × Transfer)
  | .markPayoutBroadcast id t _ | .broadcastRaw id t _ _
  | .waitForConfirmation id t _ => some (id, t)
  | _ => none

/-- Before the balance check: the batch, and the rows read for it. -/
def Local.listed : Local → Option (String × List Listed)
  | .getTargetBatch x b | .assertNoneOutstandingOne x b => some (b, [x])
  | .assertPreparedBalances b rows => some (b, rows)
  | _ => none

/-- The rows a poller has before it. -/
def Local.polled : Local → List Listed
  | .loop (.poll rows) | .markPayoutConfirmed _ (.poll rows)
  | .markPayoutFailed _ (.poll rows) => rows
  | .getTransactionReceipt r | .getTransaction r
  | .getTransactionCount r => r.payout :: r.rest
  | .rebroadcast x rest => x :: rest
  | _ => []

def Pays (t : Transfer) (row : PayoutRow) : Prop :=
  row.walletAddress = some t.recipient ∧ row.amountNano = t.amountNano

/-- How a position `l'` can come from the position `l`. -/
structure Follows (w : World) (l l' : Local) : Prop where
  toSend : ∀ {rows}, l'.toSend = some rows →
    (∃ b, l = .assertPreparedBalances b rows ∧ l'.signed = none) ∨
      ∃ rows₀, l.toSend = some rows₀ ∧ rows ⊆ rows₀
  signed : ∀ {id t}, l'.signed = some (id, t) → l.signed = some (id, t) ∨
    ∃ rows₀ x, l.toSend = some rows₀ ∧ x ∈ rows₀ ∧ x.1 = id ∧ Pays t x.2
  listed : ∀ {b rows}, l'.listed = some (b, rows) →
    l.listed = some (b, rows) ∨ ∀ x ∈ rows, x.2.batchId = some b
  polled : ∀ {x}, x ∈ l'.polled →
    x ∈ l.polled ∨ w.payouts.find? x.1 = some x.2

variable {w : World} {l l' : Local}

theorem Follows.other (htoSend : l'.toSend = none) (hsigned : l'.signed = none)
    (hlisted : ∀ {b rows}, l'.listed = some (b, rows) →
      l.listed = some (b, rows) ∨ ∀ x ∈ rows, x.2.batchId = some b)
    (hpolled : l'.polled = []) : Follows w l l' where
  toSend h := by rw [htoSend] at h; cases h
  signed h := by rw [hsigned] at h; cases h
  listed := hlisted
  polled h := by rw [hpolled] at h; cases h

theorem Follows.sender {rows rows0 : List Listed} (htoSend : l'.toSend = some rows)
    (hbefore : l.toSend = some rows0) (hsub : rows ⊆ rows0)
    (hsigned : ∀ {id t}, l'.signed = some (id, t) → l.signed = some (id, t) ∨
      ∃ x ∈ rows0, x.1 = id ∧ Pays t x.2)
    (hlisted : l'.listed = none) (hpolled : l'.polled = []) : Follows w l l' where
  toSend h := by
    rw [htoSend] at h
    cases h
    exact .inr ⟨rows0, hbefore, hsub⟩
  signed h := by
    rcases hsigned h with h | ⟨x, hx, hid, hpays⟩
    · exact .inl h
    · exact .inr ⟨rows0, x, hbefore, hx, hid, hpays⟩
  listed h := by rw [hlisted] at h; cases h
  polled h := by rw [hpolled] at h; cases h

theorem Follows.poller (htoSend : l'.toSend = none) (hsigned : l'.signed = none)
    (hlisted : l'.listed = none) (hpolled : l'.polled ⊆ l.polled) :
    Follows w l l' where
  toSend h := by rw [htoSend] at h; cases h
  signed h := by rw [hsigned] at h; cases h
  listed h := by rw [hlisted] at h; cases h
  polled h := .inl (hpolled h)

theorem batchId_of_listSendablePayouts {batchId : String} {x : Listed}
    (h : x ∈ w.listSendablePayouts batchId) : x.2.batchId = some batchId := by
  have hlist := (mem_filter.mp h).1
  have hrow := (mem_select (k := x.1) (r := x.2) hlist).2
  exact beq_iff_eq.mp hrow

theorem follows_advance {a : Answer} (h : (w.advance a l).holder = some l') : Follows w l l' := by
  cases l with
  | getPayoutBatch =>
    simp only [World.advance, World.afterBatchRead] at h
    split at h <;> cases h <;> exact .other rfl rfl (by rintro _ _ ⟨⟩) rfl
  | assertNoneOutstanding =>
    simp only [World.advance] at h
    split at h <;> cases h
    exact .other rfl rfl (by rintro _ _ ⟨⟩) rfl
  | listSendablePayouts =>
    simp only [World.advance] at h
    split at h <;> cases h
    refine .other rfl rfl (fun hl => .inr ?_) rfl
    cases hl
    exact fun x hx => batchId_of_listSendablePayouts hx
  | findRow id =>
    simp only [World.advance, World.stepFindRow] at h
    split at h
    · cases h
    · split at h
      · rename_i row _ _ _ b _ hbatch
        cases h
        refine .other rfl rfl (fun hl => .inr ?_) rfl
        cases hl
        intro x hx
        cases mem_singleton.mp hx
        exact hbatch
      · cases h
  | getTargetBatch =>
    simp only [World.advance, World.afterBatchRead] at h
    split at h <;> cases h <;> exact .other rfl rfl .inl rfl
  | assertNoneOutstandingOne =>
    simp only [World.advance] at h
    split at h <;> cases h
    exact .other rfl rfl .inl rfl
  | assertPreparedBalances b =>
    simp only [World.advance] at h
    split at h <;> cases h
    exact
      { toSend := fun hs => .inl ⟨b, by cases hs; rfl, rfl⟩
        signed := by rintro _ _ ⟨⟩, listed := by rintro _ _ ⟨⟩, polled := by rintro _ ⟨⟩ }
  | claimBatch =>
    simp only [World.advance, World.afterBatchRead] at h
    split at h <;> cases h <;> exact .sender rfl rfl (List.Subset.refl _) (by rintro _ _ ⟨⟩) rfl rfl
  | computeStartNonce =>
    cases h
    exact .sender rfl rfl (List.Subset.refl _) (by rintro _ _ ⟨⟩) rfl rfl
  | loop q =>
    cases q with
    | sendRows rows =>
      cases rows with
      | nil => cases h
      | cons =>
        simp only [World.advance, World.stepLoop] at h
        split at h
        · cases h
          exact .sender rfl rfl (subset_cons_self ..) (by rintro _ _ ⟨⟩) rfl rfl
        · cases h
          exact .sender rfl rfl (List.Subset.refl _) (by rintro _ _ ⟨⟩) rfl rfl
    | poll rows =>
      cases rows with
      | nil => cases h
      | cons =>
        cases h
        exact .poller rfl rfl rfl (List.Subset.refl _)
  | signTransfer x rest nonce =>
    simp only [World.advance, World.stepSign] at h
    split at h
    · rename_i wallet _ hwallet _
      cases h
      refine .sender rfl rfl (subset_cons_self ..) (fun hs => ?_) rfl rfl
      cases hs
      exact .inr ⟨x, mem_cons_self .., rfl, hwallet, rfl⟩
    · cases h
      exact .sender rfl rfl (subset_cons_self ..) (by rintro _ _ ⟨⟩) rfl rfl
  | markPayoutBroadcast =>
    simp only [World.advance, World.stepReserve] at h
    split at h
    · cases h
    · split at h
      · cases h
        exact .sender rfl rfl (List.Subset.refl _) .inl rfl rfl
      · cases h
        exact .sender rfl rfl (List.Subset.refl _) (by rintro _ _ ⟨⟩) rfl rfl
  | broadcastRaw =>
    simp only [World.advance, World.stepBroadcast] at h
    split at h
    · cases h
      exact .sender rfl rfl (List.Subset.refl _) .inl rfl rfl
    · split at h
      · cases h
      · cases h
        exact .sender rfl rfl (List.Subset.refl _) .inl rfl rfl
  | waitForConfirmation =>
    simp only [World.advance, World.stepWait] at h
    split at h
    · cases h
      exact .sender rfl rfl (List.Subset.refl _) (by rintro _ _ ⟨⟩) rfl rfl
    · cases h
      exact .sender rfl rfl (List.Subset.refl _) (by rintro _ _ ⟨⟩) rfl rfl
    · cases h
  | markPayoutConfirmed id q | markPayoutFailed id q =>
    cases h
    cases q with
    | sendRows => exact .sender rfl rfl (List.Subset.refl _) (by rintro _ _ ⟨⟩) rfl rfl
    | poll => exact .poller rfl rfl rfl (List.Subset.refl _)
  | cancelPayoutBatch => cases h
  | listBroadcastPayouts =>
    cases h
    refine
      { toSend := by rintro _ ⟨⟩, signed := by rintro _ _ ⟨⟩, listed := by rintro _ _ ⟨⟩,
        polled := fun {x} hx => .inr ?_ }
    have hlist : x ∈ w.listBroadcastPayouts 100 := hx
    exact (mem_select (k := x.1) (r := x.2) hlist).1
  | getTransactionReceipt =>
    simp only [World.advance, World.stepReceipt, World.unresolved] at h
    split at h
    · cases h
      exact .poller rfl rfl rfl (subset_cons_self ..)
    · split at h
      · cases h
        exact .poller rfl rfl rfl (List.Subset.refl _)
      · split at h
        · split at h <;> cases h <;> exact .poller rfl rfl rfl (subset_cons_self ..)
        · cases h
          exact .poller rfl rfl rfl (List.Subset.refl _)
  | getTransaction =>
    simp only [World.advance, World.stepTransaction, World.unresolved] at h
    split at h
    · cases h
      exact .poller rfl rfl rfl (List.Subset.refl _)
    · split at h <;> cases h <;> exact .poller rfl rfl rfl (List.Subset.refl _)
  | getTransactionCount =>
    simp only [World.advance, World.stepCount, World.unresolved] at h
    split at h
    · cases h
      exact .poller rfl rfl rfl (List.Subset.refl _)
    · split at h
      · cases h
        exact .poller rfl rfl rfl (List.Subset.refl _)
      · cases h
        exact .poller rfl rfl rfl (subset_cons_self ..)
  | rebroadcast =>
    simp only [World.advance, World.stepRebroadcast] at h
    split at h <;> cases h <;> exact .poller rfl rfl rfl (subset_cons_self ..)

/-! ## Where a broadcast transfer comes from -/

/-- Whatever is saved for a row, broadcast or mined satisfies `T`. -/
structure Saved (T : Transfer → Prop) (w : World) : Prop where
  raw : ∀ {id row t}, w.payouts.find? id = some row → row.rawTx = some t → T t
  attempted : ∀ {t}, t ∈ w.chain.attempted → T t
  mined : ∀ {t ok}, .own t ok ∈ w.chain.mined → T t

/-- So does what the process inside the send lock has signed or read. -/
structure Traced (T : Transfer → Prop) (w : World) : Prop extends Saved T w where
  signed : ∀ {l id t}, w.holder = some l → l.signed = some (id, t) → T t
  polled : ∀ {l x t}, w.holder = some l → x ∈ l.polled → x.2.rawTx = some t → T t

variable {w' : World} {T T' : Transfer → Prop} {id : String} {t : Transfer}

section

variable (h : Saved T w)
include h

theorem Saved.congr (hpayouts : w'.payouts = w.payouts) (hchain : w'.chain = w.chain) :
    Saved T w' where
  raw hrow := h.raw (hpayouts ▸ hrow)
  attempted ht := h.attempted (hchain ▸ ht)
  mined hm := h.mined (hchain ▸ hm)

theorem Saved.putRow {row : PayoutRow} (hrow : ∀ {t}, row.rawTx = some t → T t) :
    Saved T (w.putRow id row) where
  raw := by
    intro id1 row1 t hrow1 hraw
    simp only [World.putRow, find?_put] at hrow1
    split at hrow1
    · cases hrow1
      exact hrow hraw
    · exact h.raw hrow1 hraw
  attempted := h.attempted
  mined := h.mined

theorem Saved.attempt (ht : T t) :
    Saved T { w with chain := w.chain.attempt t } where
  raw := h.raw
  attempted ht' := by
    rcases mem_cons.mp ht' with rfl | ht'
    · exact ht
    · exact h.attempted ht'
  mined := h.mined

theorem Saved.markPayoutBroadcast (ht : T t) : Saved T (w.markPayoutBroadcast id t) := by
  unfold World.markPayoutBroadcast
  split
  · exact h
  · split
    · rename_i row hrow hguard
      have hput : Saved T (w.putRow id { row with
          txHash := some t, nonce := some t.nonce, rawTx := some t,
          chainStatus := some .broadcast }) :=
        h.putRow (fun hraw => some.inj hraw ▸ ht)
      exact hput.congr rfl rfl
    · exact h

theorem Saved.markPayoutConfirmed : Saved T (w.markPayoutConfirmed id) := by
  unfold World.markPayoutConfirmed
  split
  · exact h
  · rename_i row hrow
    split
    · exact h.putRow (fun hraw => h.raw hrow hraw)
    · exact h

theorem Saved.markPayoutFailed : Saved T (w.markPayoutFailed id) := by
  unfold World.markPayoutFailed
  split
  · exact h
  · rename_i row hrow
    exact h.putRow (fun hraw => h.raw hrow hraw)

theorem Saved.cancelPayoutBatch (batchId : String) : Saved T (w.cancelPayoutBatch batchId) := by
  unfold World.cancelPayoutBatch
  split
  · exact ⟨fun hrow => h.raw (find?_delete.mp hrow).1, h.attempted, h.mined⟩
  · exact h

theorem Saved.transitionPayoutBatchStatus (batchId : String) (status : PayoutBatchStatus) :
    Saved T (w.transitionPayoutBatchStatus batchId status) := by
  unfold World.transitionPayoutBatchStatus
  split <;> exact h.congr rfl rfl

theorem Saved.step (l : Local) : Saved T (w.step l) :=
  h.congr rfl rfl

theorem Saved.release : Saved T w.release := h.congr rfl rfl

theorem Saved.afterBatchRead (batchId : String) (next : Local) :
    Saved T (w.afterBatchRead batchId next) := by
  unfold World.afterBatchRead
  split
  · exact h.step _
  · exact h.step _
  · exact h.release

end

theorem Traced.saved_advance (h : Traced T w) (hl : w.holder = some l)
    (a : Answer) : Saved T (w.advance a l) :=
  have hs := h.toSaved
  AdvanceKeeps.advance
    { here := hs
      step := Saved.step
      release := Saved.release
      read := Saved.afterBatchRead
      transition := hs.transitionPayoutBatchStatus
      confirmed := fun _ => hs.markPayoutConfirmed
      failed := fun _ => hs.markPayoutFailed
      cancelled := hs.cancelPayoutBatch
      broadcast := by
        rintro id t rest rfl
        exact hs.markPayoutBroadcast (h.signed hl rfl)
      attempt := by
        rintro t (⟨id, rest, attempt, rfl⟩ | ⟨x, rest, rfl, hraw⟩)
        · exact hs.attempt (h.signed hl rfl)
        · exact hs.attempt (h.polled hl (mem_cons_self ..) hraw) } a

/-- A transfer that is signed in the step satisfies `T` if it pays a row that
passed the balance check. -/
theorem Traced.advance (h : Traced T w) (hl : w.holder = some l) (a : Answer)
    (hpays : ∀ {rows x t}, l.toSend = some rows → x ∈ rows → Pays t x.2 → T t) :
    Traced T (w.advance a l) where
  toSaved := h.saved_advance hl a
  signed := by
    intro l' id t hl' hsigned
    rcases (follows_advance hl').signed hsigned with hold | ⟨rows, x, hrows, hx, -, hp⟩
    · exact h.signed hl hold
    · exact hpays hrows hx hp
  polled := by
    intro l' x t hl' hx hraw
    rcases (follows_advance hl').polled hx with hold | hrow
    · exact h.polled hl hold hraw
    · exact h.raw hrow hraw

theorem Traced.mono (h : Traced T w) (hT : ∀ t, T t → T' t) : Traced T' w where
  raw hrow hraw := hT _ (h.raw hrow hraw)
  attempted ht := hT _ (h.attempted ht)
  mined hm := hT _ (h.mined hm)
  signed hl hs := hT _ (h.signed hl hs)
  polled hl hx hraw := hT _ (h.polled hl hx hraw)

theorem Traced.beside (h : Traced T w) (hs : Saved T w')
    (hholder : w'.holder = w.holder) : Traced T w' where
  toSaved := hs
  signed hl := h.signed (hholder ▸ hl)
  polled hl := h.polled (hholder ▸ hl)

theorem Saved.outside (h : Saved T w) (hsigned : ∀ l, w.holder = some l → l.signed = none)
    (hpolled : ∀ l, w.holder = some l → l.polled = []) : Traced T w where
  toSaved := h
  signed hl hs := by rw [hsigned _ hl] at hs; cases hs
  polled hl hx := by rw [hpolled _ hl] at hx; cases hx

theorem Saved.insertRows (h : Saved T w) (batchId : String)
    (recipients : List World.Recipient) :
    Saved T (recipients.foldl (World.insertRow batchId) w) := by
  induction recipients generalizing w with
  | nil => exact h
  | cons r _ ih =>
    have hput : Saved T (w.putRow r.id (World.newRow batchId r)) := h.putRow nofun
    exact ih (hput.congr rfl rfl)

theorem Saved.mine (h : Saved T w) (t : Transfer) (ok : Bool) :
    Saved T { w with chain := w.chain.mine t ok } := by
  unfold Chain.mine
  split
  · rename_i hguard
    refine ⟨h.raw, h.attempted, fun hm => ?_⟩
    rcases mem_append.mp hm with hm | hm
    · exact h.mined hm
    · cases mem_singleton.mp hm
      exact h.attempted hguard.1
  · exact h

theorem Saved.sync (h : Saved T w) (p v : Nat) :
    Saved T { w with chain := w.chain.sync p v } := by
  unfold Chain.sync
  split
  · exact ⟨h.raw, h.attempted, h.mined⟩
  · exact h

theorem Traced.exec (h : Traced T w) (e : Event)
    (hprepare : ∀ b recipients, e ≠ .prepare b recipients)
    (hadvance : ∀ a, e ≠ .advance a) : Traced T (exec w e) := by
  have hs := h.toSaved
  cases e with
  | prepare b recipients => exact absurd rfl (hprepare b recipients)
  | release id =>
    simp only [Payout.exec, World.releasePayoutRow]
    split
    · exact h
    · rename_i row hrow
      split
      · exact h.beside (hs.putRow (fun hraw => hs.raw hrow hraw)) rfl
      · exact h
  | readBatchState =>
    simp only [Payout.exec, World.readBatchState]
    split
    · exact h
    · exact h
    · exact h
    · exact h.beside (hs.congr rfl rfl) rfl
  | writeBatchState =>
    simp only [Payout.exec, World.writeBatchState]
    split
    · exact h
    · refine h.beside ((hs.transitionPayoutBatchStatus _ _).congr rfl rfl) ?_
      simp only [World.transitionPayoutBatchStatus]
      split <;> rfl
  | finalizeStuckSendingBatches => exact h.beside (hs.congr rfl rfl) rfl
  | acquire task =>
    simp only [Payout.exec]
    split
    · exact h
    · refine (hs.step _).outside ?_ ?_ <;> intro l hl <;> cases hl <;> cases task <;> rfl
  | advance a => exact absurd rfl (hadvance a)
  | crash => refine hs.release.outside ?_ ?_ <;> intro l hl <;> cases hl
  | mine t ok => exact h.beside (hs.mine t ok) rfl
  | mineOther =>
    refine h.beside ⟨hs.raw, hs.attempted, fun hm => ?_⟩ rfl
    rcases mem_append.mp hm with hm | hm
    · exact hs.mined hm
    · cases mem_singleton.mp hm
  | sync p v => exact h.beside (hs.sync p v) rfl

end ApiToken.Payout
