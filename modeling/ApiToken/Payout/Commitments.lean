import ApiToken.Payout.Books

/-!
# What payouts take from a balance

The amount committed to a partner is a sum over the payout rows. Only the
creation of a row raises it: every other statement of the payout engine
rewrites a row that takes no more than before, or deletes rows. The one place
where this is not read off the statement is `markPayoutConfirmed`, which sets
a row to `paid` whatever its status was; a rejected row is never in flight,
so it does not come to that.
-/

namespace ApiToken.Payout

variable {row row' : PayoutRow} {recipients : List World.Recipient}
  {r : World.Recipient}

variable {w w' w'' : World} {id : String}

def World.committed (w : World) (partnerId : String) : Int :=
  w.payouts.sumBy (fun _ row => row.committedTo partnerId)

/-- What every row has. -/
structure RowFit (row : PayoutRow) : Prop where
  positive : 0 < row.amountNano
  rejected : row.status = .rejected → row.idle = true
  manual : row.batchId = none → row.idle = true

/-- What all rows have. -/
structure RowsFit (w : World) : Prop where
  row : ∀ {id row}, w.payouts.find? id = some row → RowFit row
  issued : ∀ {id row}, w.payouts.find? id = some row → id ∈ w.issued

/-- From `w` to `w'` no row was created, and no partner has more committed. -/
structure Settles (w w' : World) : Prop where
  fit : RowsFit w'
  committed : ∀ partnerId, w'.committed partnerId ≤ w.committed partnerId
  created : ∀ {id row'}, w'.payouts.find? id = some row' →
    ∃ row, w.payouts.find? id = some row

theorem Settles.trans (h : Settles w w') (h' : Settles w' w'') :
    Settles w w'' where
  fit := h'.fit
  committed p := le_trans (h'.committed p) (h.committed p)
  created hrow := by
    obtain ⟨row, hrow⟩ := h'.created hrow
    exact h.created hrow

theorem RowsFit.unchanged (h : RowsFit w) (hpayouts : w'.payouts = w.payouts)
    (hissued : w'.issued = w.issued) : Settles w w' where
  fit := by
    constructor <;> simp only [hpayouts, hissued]
    exacts [h.row, h.issued]
  committed p := by rw [World.committed, World.committed, hpayouts]
  created hrow := by
    rw [hpayouts] at hrow
    exact ⟨_, hrow⟩

theorem RowFit.committedTo_nonneg (h : RowFit row) (partnerId : String) :
    0 ≤ row.committedTo partnerId := by
  unfold PayoutRow.committedTo
  split
  · exact le_of_lt h.positive
  · exact le_refl _

theorem RowsFit.putRow (h : RowsFit w) (hrow : w.payouts.find? id = some row)
    (hfit : RowFit row') (hle : ∀ p, row'.committedTo p ≤ row.committedTo p) :
    Settles w (w.putRow id row') := by
  have hold : ∀ {id1 row1}, (w.putRow id row').payouts.find? id1 = some row1 →
      id1 = id ∧ row1 = row' ∨ w.payouts.find? id1 = some row1 := by
    intro id1 row1 hrow1
    simp only [World.putRow, find?_put] at hrow1
    split at hrow1
    · rename_i heq
      exact .inl ⟨heq.symm, (some.inj hrow1).symm⟩
    · exact .inr hrow1
  refine ⟨⟨fun hrow1 => ?_, fun hrow1 => ?_⟩, fun p => ?_, fun hrow1 => ?_⟩
  · rcases hold hrow1 with ⟨-, rfl⟩ | hrow1
    · exact hfit
    · exact h.row hrow1
  · rcases hold hrow1 with ⟨rfl, -⟩ | hrow1
    · exact h.issued hrow
    · exact h.issued hrow1
  · have hsum := sumBy_put (fun _ row => row.committedTo p) row' hrow
    have := hle p
    simp only [World.committed, World.putRow]
    omega
  · rcases hold hrow1 with ⟨rfl, -⟩ | hrow1
    · exact ⟨row, hrow⟩
    · exact ⟨_, hrow1⟩

theorem committedTo_rejected (h : row.status = .rejected) (p : String) :
    row.committedTo p = 0 := by
  simp [PayoutRow.committedTo, h, PayoutStatus.committed]

theorem committedTo_of_not_rejected (h : row.status ≠ .rejected) (p : String) :
    row.committedTo p = if row.partnerId = p then row.amountNano else 0 := by
  cases hs : row.status <;>
    simp_all [PayoutRow.committedTo, PayoutStatus.committed]

theorem committedTo_congr (hpartner : row'.partnerId = row.partnerId)
    (hamount : row'.amountNano = row.amountNano) (hstatus : row'.status = row.status)
    (p : String) : row'.committedTo p = row.committedTo p := by
  simp only [PayoutRow.committedTo, hpartner, hamount, hstatus]

/-! ## The statements -/

section

variable (h : RowsFit w)
include h

theorem RowsFit.reject (hrow : w.payouts.find? id = some row) (hidle : row.idle = true) :
    Settles w (w.putRow id { row with status := .rejected }) := by
  have hfit := h.row hrow
  refine h.putRow hrow
    { positive := hfit.positive, rejected := fun _ => hidle,
      manual := fun _ => hidle } (fun p => ?_)
  rw [committedTo_rejected rfl]
  exact hfit.committedTo_nonneg p

theorem RowsFit.markPayoutBroadcast (id : String) (t : Transfer) :
    Settles w (w.markPayoutBroadcast id t) := by
  unfold World.markPayoutBroadcast
  split
  · exact h.unchanged rfl rfl
  · rename_i row hrow
    split
    · rename_i hguard
      obtain ⟨hrequested, hbatch⟩ := hguard
      have hfit := h.row hrow
      have hput : Settles w (w.putRow id { row with
          txHash := some t, nonce := some t.nonce, rawTx := some t,
          chainStatus := some .broadcast }) := h.putRow hrow
        { positive := hfit.positive
          rejected := fun hs => by simp [hrequested] at hs
          manual := fun hb => by simp [show row.batchId = none from hb] at hbatch }
        (fun p => le_of_eq (committedTo_congr rfl rfl rfl p))
      exact hput.trans (hput.fit.unchanged rfl rfl)
    · exact h.unchanged rfl rfl

theorem RowsFit.markPayoutConfirmed (id : String) : Settles w (w.markPayoutConfirmed id) := by
  unfold World.markPayoutConfirmed
  split
  · exact h.unchanged rfl rfl
  · rename_i row hrow
    split
    · rename_i hbroadcast
      have hfit := h.row hrow
      have hflight : row.idle = false := by simp [PayoutRow.idle, hbroadcast]
      have hstatus : row.status ≠ .rejected := by
        intro hs
        rw [hfit.rejected hs] at hflight
        cases hflight
      refine h.putRow hrow
        { positive := hfit.positive, rejected := nofun
          manual := fun hb => ?_ } (fun p => ?_)
      · rw [hfit.manual hb] at hflight
        cases hflight
      · rw [committedTo_of_not_rejected hstatus, committedTo_of_not_rejected (by simp)]
    · exact h.unchanged rfl rfl

theorem RowsFit.markPayoutFailed (id : String) : Settles w (w.markPayoutFailed id) := by
  unfold World.markPayoutFailed
  split
  · exact h.unchanged rfl rfl
  · rename_i row hrow
    exact h.putRow hrow
      { positive := (h.row hrow).positive, rejected := fun _ => rfl,
        manual := fun _ => rfl }
      (fun p => le_of_eq (committedTo_congr rfl rfl rfl p))

theorem RowsFit.releasePayoutRow (id : String) : Settles w (w.releasePayoutRow id) := by
  unfold World.releasePayoutRow
  split
  · exact h.unchanged rfl rfl
  · rename_i row hrow
    split
    · rename_i hguard
      exact h.reject hrow hguard.2
    · exact h.unchanged rfl rfl

theorem RowsFit.cancelPayoutBatch (batchId : String) :
    Settles w (w.cancelPayoutBatch batchId) := by
  unfold World.cancelPayoutBatch
  split
  · refine
      ⟨⟨fun hrow => h.row (find?_delete.mp hrow).1,
        fun hrow => h.issued (find?_delete.mp hrow).1⟩, fun p => ?_,
        fun hrow => ⟨_, (find?_delete.mp hrow).1⟩⟩
    exact Table.sumBy_delete_le _ _ (fun _ _ hrow => (h.row hrow).committedTo_nonneg p)
  · exact h.unchanged rfl rfl

theorem RowsFit.transitionPayoutBatchStatus (batchId : String) (status : PayoutBatchStatus) :
    Settles w (w.transitionPayoutBatchStatus batchId status) := by
  unfold World.transitionPayoutBatchStatus
  split <;> exact h.unchanged rfl rfl

end

theorem Settles.step (h : Settles w w') (l : Local) : Settles w (w'.step l) :=
  h.trans (h.fit.unchanged rfl rfl)

theorem Settles.release (h : Settles w w') : Settles w w'.release :=
  h.trans (h.fit.unchanged rfl rfl)

theorem RowsFit.step (h : RowsFit w) (l : Local) : Settles w (w.step l) :=
  h.unchanged rfl rfl

theorem RowsFit.release (h : RowsFit w) : Settles w w.release :=
  h.unchanged rfl rfl

theorem Settles.afterBatchRead (h : Settles w w') (batchId : String)
    (next : Local) : Settles w (w'.afterBatchRead batchId next) := by
  unfold World.afterBatchRead
  split
  · exact h.step _
  · exact h.step _
  · exact h.release

theorem RowsFit.refl (h : RowsFit w) : Settles w w := h.unchanged rfl rfl

theorem RowsFit.advance (h : RowsFit w) (a : Answer) (l : Local) : Settles w (w.advance a l) :=
  AdvanceKeeps.advance
    { here := h.refl
      step := Settles.step
      release := Settles.release
      read := Settles.afterBatchRead
      transition := h.transitionPayoutBatchStatus
      confirmed := h.markPayoutConfirmed
      failed := h.markPayoutFailed
      cancelled := h.cancelPayoutBatch
      broadcast := fun _ => h.markPayoutBroadcast _ _
      attempt := fun _ _ => h.unchanged rfl rfl } a

theorem RowsFit.exec (h : RowsFit w) (e : Event)
    (hprepare : ∀ b recipients, e ≠ .prepare b recipients) : Settles w (exec w e) := by
  cases e with
  | prepare b recipients => exact absurd rfl (hprepare b recipients)
  | release id => exact h.releasePayoutRow id
  | readBatchState =>
    simp only [Payout.exec, World.readBatchState]
    split <;> exact h.unchanged rfl rfl
  | writeBatchState =>
    simp only [Payout.exec, World.writeBatchState]
    split
    · exact h.refl
    · exact (h.transitionPayoutBatchStatus _ _).trans
        ((h.transitionPayoutBatchStatus _ _).fit.unchanged rfl rfl)
  | finalizeStuckSendingBatches | mine t ok | mineOther | sync p v => exact h.unchanged rfl rfl
  | acquire =>
    simp only [Payout.exec]
    split
    · exact h.refl
    · exact h.step _
  | advance a =>
    simp only [Payout.exec]
    split
    · exact h.advance a _
    · exact h.refl
  | crash => exact h.release

/-! ## Creation -/

theorem RowsFit.insert (h : RowsFit w) (hnew : id ∉ w.issued) (hfit : RowFit row)
    (hpayouts : w'.payouts = w.payouts.put id row) (hissued : w'.issued = id :: w.issued) :
    RowsFit w' ∧ ∀ p, w'.committed p = w.committed p + row.committedTo p := by
  have hnone : w.payouts.find? id = none := by
    cases hrow : w.payouts.find? id with
    | none => rfl
    | some => exact absurd (h.issued hrow) hnew
  refine ⟨⟨fun {id1 row1} hrow1 => ?_, fun {id1 row1} hrow1 => ?_⟩, fun p => ?_⟩
  · rw [hpayouts, find?_put] at hrow1
    split at hrow1
    · cases hrow1
      exact hfit
    · exact h.row hrow1
  · rw [hpayouts, find?_put] at hrow1
    rw [hissued]
    split at hrow1
    · rename_i heq
      exact heq ▸ mem_cons_self ..
    · exact mem_cons_of_mem _ (h.issued hrow1)
  · rw [World.committed, World.committed, hpayouts,
      sumBy_put_new (fun _ row => row.committedTo p) row hnone]

def newlyCommitted (recipients : List World.Recipient) (partnerId : String) : Int :=
  (recipients.map (fun r => if r.partnerId = partnerId then r.amountNano else 0)).sum

theorem newlyCommitted_absent {p : String}
    (h : p ∉ recipients.map World.Recipient.partnerId) :
    newlyCommitted recipients p = 0 := by
  induction recipients with
  | nil => rfl
  | cons _ _ ih =>
    rw [map_cons, mem_cons, not_or] at h
    have hrest := ih h.2
    unfold newlyCommitted at hrest ⊢
    simp [Ne.symm h.1, hrest]

theorem newlyCommitted_mem (hr : r ∈ recipients)
    (hnodup : (recipients.map World.Recipient.partnerId).Nodup) :
    newlyCommitted recipients r.partnerId = r.amountNano := by
  induction recipients with
  | nil => cases hr
  | cons r0 _ ih =>
    rw [map_cons, nodup_cons] at hnodup
    rcases mem_cons.mp hr with rfl | hr
    · have hrest := newlyCommitted_absent hnodup.1
      unfold newlyCommitted at hrest ⊢
      simp [hrest]
    · have hne : r0.partnerId ≠ r.partnerId := fun heq =>
        hnodup.1 (heq ▸ mem_map_of_mem hr)
      have hrest := ih hr hnodup.2
      unfold newlyCommitted at hrest ⊢
      simp [hne, hrest]

theorem newRow_fit (batchId : String) (h : 0 < r.amountNano) :
    RowFit (World.newRow batchId r) where
  positive := h
  rejected := nofun
  manual := nofun

theorem RowsFit.insertRows (h : RowsFit w) (batchId : String)
    (hnodup : (recipients.map World.Recipient.id).Nodup)
    (hnew : ∀ r ∈ recipients, r.id ∉ w.issued ∧ 0 < r.amountNano) :
    let w' := recipients.foldl (World.insertRow batchId) w
    RowsFit w' ∧ ∀ p, w'.committed p = w.committed p + newlyCommitted recipients p := by
  induction recipients generalizing w with
  | nil => exact ⟨h, fun p => by simp [newlyCommitted]⟩
  | cons r _ ih =>
    rw [map_cons, nodup_cons] at hnodup
    obtain ⟨hid, hpositive⟩ := hnew r (mem_cons_self ..)
    obtain ⟨hfit, hsum⟩ : RowsFit (World.insertRow batchId w r) ∧
        ∀ p, (World.insertRow batchId w r).committed p =
          w.committed p + (World.newRow batchId r).committedTo p :=
      h.insert hid (newRow_fit batchId hpositive) rfl rfl
    obtain ⟨hfit', hsum'⟩ := ih hfit hnodup.2 (by
      intro r' hr'
      obtain ⟨hid', hpositive'⟩ := hnew r' (mem_cons_of_mem _ hr')
      refine ⟨fun hmem => ?_, hpositive'⟩
      rcases mem_cons.mp hmem with heq | hmem
      · exact hnodup.1 (heq ▸ mem_map_of_mem hr')
      · exact hid' hmem)
    refine ⟨hfit', fun p => ?_⟩
    have hrow : (World.newRow batchId r).committedTo p =
        if r.partnerId = p then r.amountNano else 0 :=
      committedTo_of_not_rejected (by simp [World.newRow]) p
    have h1 := hsum p
    have h2 := hsum' p
    rw [hrow] at h1
    simp only [foldl_cons, newlyCommitted, map_cons, sum_cons] at h2 ⊢
    omega

theorem find?_insertRows {batchId : String}
    (h : (recipients.foldl (World.insertRow batchId) w).payouts.find? id = some row) :
    w.payouts.find? id = some row ∨ ∃ r ∈ recipients, row = World.newRow batchId r := by
  induction recipients generalizing w with
  | nil => exact .inl h
  | cons r _ ih =>
    rcases ih h with hold | ⟨r', hr', hrow⟩
    · simp only [World.insertRow, find?_put] at hold
      split at hold
      · exact .inr ⟨r, mem_cons_self .., (some.inj hold).symm⟩
      · exact .inl hold
    · exact .inr ⟨r', mem_cons_of_mem _ hr', hrow⟩

theorem holder_insertRows (batchId : String) (recipients : List World.Recipient) :
    (recipients.foldl (World.insertRow batchId) w).holder = w.holder := by
  induction recipients generalizing w with
  | nil => rfl
  | cons _ _ ih => exact ih

end ApiToken.Payout
