import ApiToken.Payout.Service

/-!
# The payout invariant

Every transfer ever saved for a row is either the one the row still tracks
or can never land: this is what makes a row that is not in flight safe to
send again, to release or to delete. The process inside the send lock keeps
facts about the rows it is working on, and whatever runs beside it leaves
the rows in flight alone.
-/

namespace ApiToken.Payout

variable {row : PayoutRow} {rows : List Listed} {l : Local} {c : Chain}

def PayoutRow.tracked (row : PayoutRow) : Option Transfer :=
  if row.idle then none else row.txHash

theorem PayoutRow.tracked_idle (h : row.idle = true) : row.tracked = none := by
  simp [PayoutRow.tracked, h]

theorem PayoutRow.tracked_inFlight (h : row.idle = false) : row.tracked = row.txHash := by
  simp [PayoutRow.tracked, h]

theorem PayoutRow.not_idle_of_tracked {t : Transfer} (h : row.tracked = some t) :
    row.idle = false := by
  by_contra hidle
  rw [Bool.not_eq_false] at hidle
  rw [PayoutRow.tracked_idle hidle] at h
  cases h

theorem PayoutRow.not_idle_of_broadcast (h : row.chainStatus = some .broadcast) :
    row.idle = false := by
  simp [PayoutRow.idle, h]

/-! ## The invariant -/

/-- The columns of a row agree with each other and with the chain. -/
structure RowOk (c : Chain) (row : PayoutRow) : Prop where
  hash : row.idle = false → row.txHash.isSome
  raw : row.chainStatus = some .broadcast → row.rawTx = row.txHash
  nonce : row.chainStatus = some .broadcast →
    row.nonce = row.txHash.map Transfer.nonce
  landed : row.chainStatus = some .confirmed →
    ∀ t, row.txHash = some t → c.Landed t
  paid : row.status = .paid → row.chainStatus = some .confirmed
  rejected : row.status = .rejected → row.idle = true

/-- What holds of the rows, the saved transfers and the chain. -/
structure Sound (w : World) : Prop where
  row : ∀ {id row}, w.payouts.find? id = some row → RowOk w.chain row
  /-- A tracked transfer is on record. -/
  reserved : ∀ {id row t}, w.payouts.find? id = some row →
    row.tracked = some t → (id, t) ∈ w.reserved
  /-- A transfer on record is tracked by its row, or it never lands. -/
  resolved : ∀ {id t}, (id, t) ∈ w.reserved → w.chain.Dead t ∨
    ∃ row, w.payouts.find? id = some row ∧ row.tracked = some t
  /-- No transfer is tracked by two rows. -/
  unique : ∀ {id id' row row' t}, w.payouts.find? id = some row →
    w.payouts.find? id' = some row' → row.tracked = some t →
    row'.tracked = some t → id = id'
  issued : ∀ {id row}, w.payouts.find? id = some row → id ∈ w.issued
  issuedReserved : ∀ {id t}, (id, t) ∈ w.reserved → id ∈ w.issued
  /-- Nothing is broadcast that was not saved before. -/
  attempted : ∀ {t}, t ∈ w.chain.attempted → ∃ id, (id, t) ∈ w.reserved
  mined : ∀ {t ok}, .own t ok ∈ w.chain.mined → t ∈ w.chain.attempted

/-- If the row is there, it is not in flight. -/
def Idle (w : World) (id : String) : Prop :=
  ∀ row, w.payouts.find? id = some row → row.idle = true

def Awaits (w : World) (id : String) (t : Transfer) : Prop :=
  ∃ row, w.payouts.find? id = some row ∧ row.chainStatus = some .broadcast ∧ row.txHash = some t

structure IdleRows (w : World) (rows : List Listed) : Prop where
  nodup : (rows.map Prod.fst).Nodup
  idle : ∀ x ∈ rows, Idle w x.1

structure BroadcastRows (w : World) (rows : List Listed) : Prop where
  nodup : (rows.map Prod.fst).Nodup
  row : ∀ x ∈ rows, w.payouts.find? x.1 = some x.2
  broadcast : ∀ x ∈ rows, x.2.chainStatus = some .broadcast

def Queue.ids : Queue → List String
  | .sendRows rows _ => rows.map Prod.fst
  | .poll rows => rows.map Prod.fst

def QueueOk (w : World) : Queue → Prop
  | .sendRows rows _ => IdleRows w rows
  | .poll rows => BroadcastRows w rows

/-- What has been read of the chain is so. -/
structure ReadingOk (w : World) (r : Reading) : Prop where
  rows : BroadcastRows w (r.payout :: r.rest)
  lost : r.lost = true → ∀ t, r.payout.2.txHash = some t → w.chain.Dead t

/-- What the process inside the lock relies on, by position. -/
def HolderOk (w : World) : Local → Prop
  | .getPayoutBatch _ | .assertNoneOutstanding _ | .listSendablePayouts _ => True
  | .findRow _ | .cancelPayoutBatch _ | .listBroadcastPayouts => True
  | .getTargetBatch x _ | .assertNoneOutstandingOne x _ => Idle w x.1
  | .assertPreparedBalances _ rows | .claimBatch _ rows
  | .computeStartNonce rows => IdleRows w rows
  | .loop q => QueueOk w q
  | .signTransfer x rest _ => IdleRows w (x :: rest)
  | .markPayoutBroadcast id _ rest => Idle w id ∧ id ∉ rest.map Prod.fst ∧ IdleRows w rest
  | .broadcastRaw id t rest _ | .waitForConfirmation id t rest =>
    Awaits w id t ∧ id ∉ rest.map Prod.fst ∧ IdleRows w rest
  | .markPayoutConfirmed id q =>
    (∃ t, Awaits w id t ∧ w.chain.Landed t) ∧ id ∉ q.ids ∧ QueueOk w q
  | .markPayoutFailed id q =>
    (∀ row t, w.payouts.find? id = some row → row.tracked = some t →
      w.chain.Dead t) ∧ id ∉ q.ids ∧ QueueOk w q
  | .getTransactionReceipt r | .getTransaction r
  | .getTransactionCount r => ReadingOk w r
  | .rebroadcast x rest => BroadcastRows w (x :: rest)

/-- The invariant of rows, chain and the sender. -/
structure Inv (w : World) : Prop where
  sound : Sound w
  holder : ∀ l, w.holder = some l → HolderOk w l

variable {w w' : World}

/-! ## What runs beside the process -/

/-- What a step leaves to the process inside the lock. -/
structure Undisturbed (touched : Option String) (w w' : World) : Prop where
  chain : w.chain.Extends w'.chain
  rows : ∀ {id row}, some id ≠ touched → row.idle = false →
    (w'.payouts.find? id = some row ↔ w.payouts.find? id = some row)

variable {touched : Option String} {id : String} {t : Transfer}

theorem Idle.undisturbed (h : Idle w id) (hu : Undisturbed touched w w')
    (hid : some id ≠ touched) : Idle w' id := by
  intro row hrow
  by_contra hflight
  rw [Bool.not_eq_true] at hflight
  have hidle := h row ((hu.rows hid hflight).mp hrow)
  rw [hidle] at hflight
  cases hflight

theorem Awaits.undisturbed (h : Awaits w id t) (hu : Undisturbed touched w w')
    (hid : some id ≠ touched) : Awaits w' id t := by
  obtain ⟨row, hrow, hstatus, hhash⟩ := h
  have hflight := PayoutRow.not_idle_of_broadcast hstatus
  exact ⟨row, (hu.rows hid hflight).mpr hrow, hstatus, hhash⟩

theorem IdleRows.undisturbed (h : IdleRows w rows) (hu : Undisturbed touched w w')
    (hid : ∀ id ∈ rows.map Prod.fst, some id ≠ touched) : IdleRows w' rows where
  nodup := h.nodup
  idle x hx := (h.idle x hx).undisturbed hu (hid _ (mem_map_of_mem hx))

theorem BroadcastRows.undisturbed (h : BroadcastRows w rows)
    (hu : Undisturbed touched w w') (hid : ∀ id ∈ rows.map Prod.fst, some id ≠ touched) :
    BroadcastRows w' rows where
  nodup := h.nodup
  row x hx := by
    have hflight := PayoutRow.not_idle_of_broadcast (h.broadcast x hx)
    exact (hu.rows (hid _ (mem_map_of_mem hx)) hflight).mpr (h.row x hx)
  broadcast := h.broadcast

theorem QueueOk.undisturbed {q : Queue} (h : QueueOk w q)
    (hu : Undisturbed touched w w') (hid : ∀ id ∈ q.ids, some id ≠ touched) :
    QueueOk w' q := by
  cases q with
  | sendRows => exact IdleRows.undisturbed h hu hid
  | poll => exact BroadcastRows.undisturbed h hu hid

theorem ReadingOk.undisturbed {r : Reading} (h : ReadingOk w r)
    (hu : Undisturbed none w w') : ReadingOk w' r where
  rows := h.rows.undisturbed hu (fun _ _ => by simp)
  lost hl t ht := (h.lost hl t ht).mono hu.chain

theorem HolderOk.undisturbed (h : HolderOk w l) (hu : Undisturbed none w w') : HolderOk w' l := by
  have hany : ∀ {ids : List String}, ∀ id ∈ ids, some id ≠ (none : Option String) :=
    fun _ _ => by simp
  cases l with
  | getPayoutBatch | assertNoneOutstanding | listSendablePayouts
  | findRow | cancelPayoutBatch | listBroadcastPayouts => trivial
  | getTargetBatch x b | assertNoneOutstandingOne x b =>
    exact Idle.undisturbed h hu (by simp)
  | assertPreparedBalances b rows | claimBatch b rows | computeStartNonce rows =>
    exact IdleRows.undisturbed h hu hany
  | loop => exact QueueOk.undisturbed h hu hany
  | signTransfer => exact IdleRows.undisturbed h hu hany
  | markPayoutBroadcast id t rest
  | broadcastRaw id t rest attempt | waitForConfirmation id t rest =>
    exact ⟨h.1.undisturbed hu (by simp), h.2.1, h.2.2.undisturbed hu hany⟩
  | markPayoutConfirmed =>
    obtain ⟨⟨t, hawaits, hland⟩, hid, hq⟩ := h
    exact ⟨⟨t, hawaits.undisturbed hu (by simp), hland.mono hu.chain⟩, hid,
      hq.undisturbed hu hany⟩
  | markPayoutFailed =>
    obtain ⟨hdead, hid, hq⟩ := h
    refine ⟨fun row t hrow htrack => ?_, hid, hq.undisturbed hu hany⟩
    have hflight := PayoutRow.not_idle_of_tracked htrack
    exact (hdead row t ((hu.rows (by simp) hflight).mp hrow) htrack).mono hu.chain
  | getTransactionReceipt r | getTransaction r | getTransactionCount r =>
    exact ReadingOk.undisturbed h hu
  | rebroadcast => exact BroadcastRows.undisturbed h hu hany

theorem Inv.beside (h : Inv w) (hs : Sound w') (hu : Undisturbed none w w')
    (hholder : w'.holder = w.holder) : Inv w' where
  sound := hs
  holder l hl := (h.holder l (hholder ▸ hl)).undisturbed hu

theorem Sound.congr (hs : Sound w) (hpayouts : w'.payouts = w.payouts)
    (hchain : w'.chain = w.chain) (hreserved : w'.reserved = w.reserved)
    (hissued : w'.issued = w.issued) : Sound w' := by
  constructor <;> simp only [hpayouts, hchain, hreserved, hissued]
  exacts [hs.row, hs.reserved, hs.resolved, hs.unique, hs.issued,
    hs.issuedReserved, hs.attempted, hs.mined]

theorem Sound.step (hs : Sound w) (hl : HolderOk w l) :
    Inv (w.step l) where
  sound := hs.congr rfl rfl rfl rfl
  holder := by
    intro l' hl'
    cases hl'
    exact hl.undisturbed ⟨.refl _, fun _ _ => Iff.rfl⟩

theorem Sound.release (hs : Sound w) : Inv w.release where
  sound := hs.congr rfl rfl rfl rfl
  holder := by
    intro l hl
    cases hl

/-! ## Updates of one row -/

theorem RowOk.mono {c' : Chain} (h : RowOk c row) (hc : c.Extends c') : RowOk c' row :=
  { h with landed := fun hstatus t ht => (h.landed hstatus t ht).mono hc }

theorem Sound.putRow (hs : Sound w) {row' : PayoutRow}
    (hrow : w.payouts.find? id = some row) (hok : RowOk w.chain row')
    (hkeeps : ∀ t, row.tracked = some t → row'.tracked = some t ∨ w.chain.Dead t)
    (hback : ∀ t, row'.tracked = some t → row.tracked = some t) :
    Sound (w.putRow id row') := by
  -- a row read after the update is an old row that tracked as much
  have hold : ∀ {id1 row1}, (w.putRow id row').payouts.find? id1 = some row1 →
      ∃ row0, w.payouts.find? id1 = some row0 ∧
        ∀ t, row1.tracked = some t → row0.tracked = some t := by
    intro id1 row1 hrow1
    simp only [World.putRow, find?_put] at hrow1
    split at hrow1
    · rename_i heq
      cases hrow1
      exact ⟨row, heq ▸ hrow, hback⟩
    · exact ⟨row1, hrow1, fun _ h => h⟩
  refine
    { row := ?_, reserved := ?_, resolved := ?_, unique := ?_, issued := ?_,
      issuedReserved := hs.issuedReserved, attempted := hs.attempted,
      mined := hs.mined }
  · intro id1 row1 hrow1
    simp only [World.putRow, find?_put] at hrow1
    split at hrow1
    · cases hrow1
      exact hok
    · exact hs.row hrow1
  · intro id1 row1 t hrow1 htrack
    obtain ⟨row0, hrow0, hback0⟩ := hold hrow1
    exact hs.reserved hrow0 (hback0 t htrack)
  · intro id1 t hmem
    rcases hs.resolved hmem with hdead | ⟨row1, hrow1, htrack⟩
    · exact .inl hdead
    · by_cases heq : id = id1
      · subst heq
        rw [hrow] at hrow1
        cases hrow1
        rcases hkeeps t htrack with htrack' | hdead
        · exact .inr ⟨row', by simp [World.putRow], htrack'⟩
        · exact .inl hdead
      · exact .inr ⟨row1, by simpa [World.putRow, find?_put, heq], htrack⟩
  · intro id1 id2 row1 row2 t hrow1 hrow2 ht1 ht2
    obtain ⟨row1', hrow1', hback1⟩ := hold hrow1
    obtain ⟨row2', hrow2', hback2⟩ := hold hrow2
    exact hs.unique hrow1' hrow2' (hback1 t ht1) (hback2 t ht2)
  · intro id1 row1 hrow1
    obtain ⟨row0, hrow0, -⟩ := hold hrow1
    exact hs.issued hrow0

theorem undisturbed_putRow (w : World) (id : String) (row : PayoutRow) :
    Undisturbed (some id) w (w.putRow id row) where
  chain := .refl _
  rows := by
    intro id1 row1 hid hflight
    have hne : id ≠ id1 := fun h => hid (by rw [h])
    simp [World.putRow, find?_put, hne]

theorem Sound.markPayoutFailed (hs : Sound w)
    (hdead : ∀ row t, w.payouts.find? id = some row → row.tracked = some t →
      w.chain.Dead t) : Sound (w.markPayoutFailed id) := by
  unfold World.markPayoutFailed
  split
  · exact hs
  · rename_i row hrow
    have hok := hs.row hrow
    have hidle : { row with
        chainStatus := some PayoutChainStatus.failed
        txHash := none }.idle = true := rfl
    refine hs.putRow hrow ?_ (fun t ht => .inr (hdead row t hrow ht)) (fun t ht => ?_)
    · refine
        { hash := nofun, raw := nofun, nonce := nofun, landed := nofun,
          paid := fun hpaid => ?_, rejected := fun _ => hidle }
      -- a paid row tracks a transfer that landed, so it is not dead
      have hconfirmed := hok.paid hpaid
      have hflight : row.idle = false := by simp [PayoutRow.idle, hconfirmed]
      obtain ⟨t, ht⟩ := isSome_iff_exists.mp (hok.hash hflight)
      exact absurd (hok.landed hconfirmed t ht)
        (hdead row t hrow (by rw [PayoutRow.tracked_inFlight hflight, ht])).not_landed
    · rw [PayoutRow.tracked_idle hidle] at ht
      cases ht

theorem Sound.markPayoutConfirmed (hs : Sound w)
    (hland : ∀ t, Awaits w id t → w.chain.Landed t) : Sound (w.markPayoutConfirmed id) := by
  unfold World.markPayoutConfirmed
  split
  · exact hs
  · rename_i row hrow
    split
    · rename_i hstatus
      have hok := hs.row hrow
      have hflight := PayoutRow.not_idle_of_broadcast hstatus
      have hsame : { row with
          status := PayoutStatus.paid
          chainStatus := some PayoutChainStatus.confirmed }.tracked = row.tracked := by
        rw [PayoutRow.tracked_inFlight hflight, PayoutRow.tracked_inFlight rfl]
      refine hs.putRow hrow ?_ (fun t ht => .inl (hsame ▸ ht)) (fun t ht => hsame ▸ ht)
      exact
        { hash := fun _ => hok.hash hflight, raw := nofun, nonce := nofun,
          landed := fun _ t ht => hland t ⟨row, hrow, hstatus, ht⟩,
          paid := fun _ => rfl, rejected := nofun }
    · exact hs

theorem Sound.releasePayoutRow (hs : Sound w) (id : String) : Sound (w.releasePayoutRow id) := by
  unfold World.releasePayoutRow
  split
  · exact hs
  · rename_i row hrow
    split
    · rename_i hguard
      obtain ⟨-, hidle⟩ := hguard
      have hok := hs.row hrow
      exact hs.putRow hrow
        { hash := hok.hash, raw := hok.raw, nonce := hok.nonce,
          landed := hok.landed, paid := nofun, rejected := fun _ => hidle }
        (fun t ht => .inl ht) (fun t ht => ht)
    · exact hs

theorem undisturbed_releasePayoutRow (w : World) (id : String) :
    Undisturbed none w (w.releasePayoutRow id) := by
  unfold World.releasePayoutRow
  split
  · exact ⟨.refl _, fun _ _ => Iff.rfl⟩
  · rename_i row hrow
    split
    · rename_i hguard
      refine ⟨.refl _, fun {id1 row1} _ hflight => ?_⟩
      by_cases heq : id = id1
      · subst heq
        have hidle : ∀ {row2 : PayoutRow}, row2.idle = true → row2 ≠ row1 := by
          rintro row2 hidle rfl
          rw [hidle] at hflight
          cases hflight
        simp only [World.putRow, find?_put_self, hrow, some.injEq]
        exact ⟨fun h => absurd h (hidle hguard.2), fun h => absurd h (hidle hguard.2)⟩
      · simp [World.putRow, find?_put, heq]
    · exact ⟨.refl _, fun _ _ => Iff.rfl⟩

theorem Sound.markPayoutBroadcast (hs : Sound w) (hidle : Idle w id)
    (htaken : w.hashTaken id t = false) : Sound (w.markPayoutBroadcast id t) := by
  unfold World.markPayoutBroadcast
  split
  · exact hs
  · rename_i row hrow
    split
    · rename_i hguard
      have hother : ∀ {id1 row1}, w.payouts.find? id1 = some row1 → id ≠ id1 →
          row1.tracked ≠ some t := by
        intro id1 row1 hrow1 hne htrack
        have hhash : row1.txHash = some t := by
          rw [← htrack, PayoutRow.tracked_inFlight (PayoutRow.not_idle_of_tracked htrack)]
        have hnot := any_eq_false_iff.mp htaken id1 row1 hrow1
        simp [hhash, Ne.symm hne] at hnot
      have hnew : { row with
          txHash := some t, nonce := some t.nonce, rawTx := some t,
          chainStatus := some PayoutChainStatus.broadcast }.tracked = some t := rfl
      refine
        { row := ?_, reserved := ?_, resolved := ?_, unique := ?_, issued := ?_,
          issuedReserved := ?_, attempted := ?_, mined := hs.mined }
      · intro id1 row1 hrow1
        rw [find?_put] at hrow1
        split at hrow1
        · cases hrow1
          exact
            { hash := fun _ => rfl, raw := fun _ => rfl, nonce := fun _ => rfl,
              landed := by simp
              paid := fun h => by simp [hguard.1] at h
              rejected := fun h => by simp [hguard.1] at h }
        · exact hs.row hrow1
      · intro id1 row1 t1 hrow1 htrack
        rw [find?_put] at hrow1
        split at hrow1
        · rename_i heq
          cases hrow1
          rw [hnew] at htrack
          cases htrack
          rw [← heq]
          exact mem_cons_self ..
        · exact mem_cons_of_mem _ (hs.reserved hrow1 htrack)
      · intro id1 t1 hmem
        rcases mem_cons.mp hmem with heq | hmem
        · cases heq
          exact .inr ⟨_, find?_put_self .., hnew⟩
        · rcases hs.resolved hmem with hdead | ⟨row1, hrow1, htrack⟩
          · exact .inl hdead
          · by_cases heq : id = id1
            · -- an idle row tracks nothing
              subst heq
              rw [PayoutRow.tracked_idle (hidle row1 hrow1)] at htrack
              cases htrack
            · exact .inr ⟨row1, by rw [find?_put_ne _ _ heq]; exact hrow1, htrack⟩
      · intro id1 id2 row1 row2 t1 hrow1 hrow2 ht1 ht2
        rw [find?_put] at hrow1 hrow2
        split at hrow1 <;> split at hrow2
        · rename_i h1 h2
          rw [← h1, ← h2]
        · rename_i h1 h2
          cases hrow1
          rw [hnew] at ht1
          cases ht1
          exact absurd ht2 (hother hrow2 h2)
        · rename_i h1 h2
          cases hrow2
          rw [hnew] at ht2
          cases ht2
          exact absurd ht1 (hother hrow1 h1)
        · exact hs.unique hrow1 hrow2 ht1 ht2
      · intro id1 row1 hrow1
        rw [find?_put] at hrow1
        split at hrow1
        · rename_i heq
          exact heq ▸ hs.issued hrow
        · exact hs.issued hrow1
      · intro id1 t1 hmem
        rcases mem_cons.mp hmem with heq | hmem
        · cases heq
          exact hs.issued hrow
        · exact hs.issuedReserved hmem
      · intro t1 hmem
        obtain ⟨id1, hres⟩ := hs.attempted hmem
        exact ⟨id1, mem_cons_of_mem _ hres⟩
    · exact hs

theorem undisturbed_markPayoutFailed (w : World) (id : String) :
    Undisturbed (some id) w (w.markPayoutFailed id) := by
  unfold World.markPayoutFailed
  split
  · exact ⟨.refl _, fun _ _ => Iff.rfl⟩
  · exact undisturbed_putRow ..

theorem undisturbed_markPayoutConfirmed (w : World) (id : String) :
    Undisturbed (some id) w (w.markPayoutConfirmed id) := by
  unfold World.markPayoutConfirmed
  split
  · exact ⟨.refl _, fun _ _ => Iff.rfl⟩
  · split
    · exact undisturbed_putRow ..
    · exact ⟨.refl _, fun _ _ => Iff.rfl⟩

theorem undisturbed_markPayoutBroadcast (w : World) (id : String)
    (t : Transfer) : Undisturbed (some id) w (w.markPayoutBroadcast id t) := by
  unfold World.markPayoutBroadcast
  split
  · exact ⟨.refl _, fun _ _ => Iff.rfl⟩
  · split
    · exact ⟨.refl _, (undisturbed_putRow w id _).rows⟩
    · exact ⟨.refl _, fun _ _ => Iff.rfl⟩

theorem awaits_markPayoutBroadcast (h : w.reservesBatch id = true)
    (t : Transfer) : Awaits (w.markPayoutBroadcast id t) id t := by
  unfold World.reservesBatch at h
  split at h
  · cases h
  · rename_i row hrow
    split at h
    · cases h
    · rename_i b hb
      simp only [guard_iffs] at h
      refine ⟨{ row with
          txHash := some t, nonce := some t.nonce, rawTx := some t,
          chainStatus := some .broadcast }, ?_, rfl, rfl⟩
      simp [World.markPayoutBroadcast, hrow, h.1, hb]

/-! ## New rows, deleted rows -/

theorem Inv.insertRow (h : Inv w) (batchId : String) {r : World.Recipient}
    (hnew : r.id ∉ w.issued) : Inv (World.insertRow batchId w r) := by
  have hs := h.sound
  have hnone : w.payouts.find? r.id = none := by
    cases hrow : w.payouts.find? r.id with
    | none => rfl
    | some => exact absurd (hs.issued hrow) hnew
  have hold : ∀ {id row}, row.tracked.isSome →
      (World.insertRow batchId w r).payouts.find? id = some row →
      w.payouts.find? id = some row := by
    intro id row htrack hrow
    simp only [World.insertRow, find?_put] at hrow
    split at hrow
    · cases hrow
      cases htrack
    · exact hrow
  have hkept : ∀ {id row}, w.payouts.find? id = some row →
      (World.insertRow batchId w r).payouts.find? id = some row := by
    intro id row hrow
    have hne : r.id ≠ id := by
      rintro rfl
      rw [hnone] at hrow
      cases hrow
    simp [World.insertRow, find?_put, hne, hrow]
  refine h.beside ?_ ⟨.refl _, fun {id row} _ hflight => ⟨fun hrow => ?_, hkept⟩⟩ rfl
  · refine
      { row := ?_, reserved := ?_, resolved := ?_, unique := ?_, issued := ?_,
        issuedReserved := ?_, attempted := hs.attempted, mined := hs.mined }
    · intro id row hrow
      simp only [World.insertRow, find?_put] at hrow
      split at hrow
      · cases hrow
        exact
          { hash := by rintro ⟨⟩, raw := by rintro ⟨⟩, nonce := by rintro ⟨⟩,
            landed := by rintro ⟨⟩,
            paid := by rintro ⟨⟩, rejected := by rintro ⟨⟩ }
      · exact hs.row hrow
    · intro id row t hrow htrack
      exact hs.reserved (hold (by simp [htrack]) hrow) htrack
    · intro id t hmem
      rcases hs.resolved hmem with hdead | ⟨row, hrow, htrack⟩
      · exact .inl hdead
      · exact .inr ⟨row, hkept hrow, htrack⟩
    · intro id id' row row' t hrow hrow' ht ht'
      exact hs.unique (hold (by simp [ht]) hrow) (hold (by simp [ht']) hrow') ht ht'
    · intro id row hrow
      simp only [World.insertRow, find?_put] at hrow
      split at hrow
      · rename_i heq
        exact heq ▸ mem_cons_self ..
      · exact mem_cons_of_mem _ (hs.issued hrow)
    · intro id t hmem
      exact mem_cons_of_mem _ (hs.issuedReserved hmem)
  · simp only [World.insertRow, find?_put] at hrow
    split at hrow
    · cases hrow
      cases hflight
    · exact hrow

theorem Inv.insertRows (h : Inv w) (batchId : String) {recipients : List World.Recipient}
    (hnodup : (recipients.map World.Recipient.id).Nodup)
    (hnew : ∀ r ∈ recipients, r.id ∉ w.issued) :
    Inv (recipients.foldl (World.insertRow batchId) w) := by
  induction recipients generalizing w with
  | nil => exact h
  | cons r _ ih =>
    rw [map_cons, nodup_cons] at hnodup
    refine ih (h.insertRow batchId (hnew r (mem_cons_self ..))) hnodup.2 ?_
    intro r' hr' hmem
    rcases mem_cons.mp hmem with heq | hmem
    · exact hnodup.1 (heq ▸ mem_map_of_mem hr')
    · exact hnew r' (mem_cons_of_mem _ hr') hmem

theorem Inv.congr (h : Inv w) (hpayouts : w'.payouts = w.payouts)
    (hchain : w'.chain = w.chain) (hreserved : w'.reserved = w.reserved)
    (hissued : w'.issued = w.issued) (hholder : w'.holder = w.holder) : Inv w' := by
  refine h.beside (h.sound.congr hpayouts hchain hreserved hissued)
    ⟨hchain ▸ .refl _, fun _ _ => by rw [hpayouts]⟩ hholder

theorem Inv.createPayoutBatch (h : Inv w) (batchId : String)
    (recipients : List World.Recipient) : Inv (w.createPayoutBatch batchId recipients) := by
  unfold World.createPayoutBatch
  split
  · rename_i hguard
    obtain ⟨-, -, -, hnodup, hnew⟩ := hguard
    have h' : Inv { w with batches := w.batches.put batchId .prepared } :=
      h.congr rfl rfl rfl rfl rfl
    exact h'.insertRows batchId hnodup (fun r hr => (hnew r hr).1)
  · exact h

theorem Sound.cancelPayoutBatch (hs : Sound w) (batchId : String) :
    Sound (w.cancelPayoutBatch batchId) := by
  unfold World.cancelPayoutBatch
  split
  · refine
      { row := fun hrow => hs.row (find?_delete.mp hrow).1
        reserved := fun hrow => hs.reserved (find?_delete.mp hrow).1
        resolved := ?_
        unique := fun hrow hrow' => hs.unique (find?_delete.mp hrow).1 (find?_delete.mp hrow').1
        issued := fun hrow => hs.issued (find?_delete.mp hrow).1
        issuedReserved := hs.issuedReserved
        attempted := hs.attempted
        mined := hs.mined }
    intro id t hmem
    rcases hs.resolved hmem with hdead | ⟨row, hrow, htrack⟩
    · exact .inl hdead
    · have hflight := PayoutRow.not_idle_of_tracked htrack
      exact .inr ⟨row, find?_delete.mpr ⟨hrow, by simp [hflight]⟩, htrack⟩
  · exact hs

/-! ## The chain -/

theorem Inv.chain (h : Inv w) (hext : w.chain.Extends c)
    (hattempted : ∀ t ∈ c.attempted, ∃ id, (id, t) ∈ w.reserved)
    (hmined : ∀ t ok, .own t ok ∈ c.mined → t ∈ c.attempted) :
    Inv { w with chain := c } := by
  have hs := h.sound
  refine h.beside ?_ ⟨hext, fun _ _ => Iff.rfl⟩ rfl
  exact
    { row := fun hrow => (hs.row hrow).mono hext
      reserved := hs.reserved
      resolved := fun hmem => (hs.resolved hmem).imp_left (·.mono hext)
      unique := hs.unique
      issued := hs.issued
      issuedReserved := hs.issuedReserved
      attempted := fun hmem => hattempted _ hmem
      mined := fun hmem => hmined _ _ hmem }

theorem Inv.mine (h : Inv w) (t : Transfer) (ok : Bool) :
    Inv { w with chain := w.chain.mine t ok } := by
  have hs := h.sound
  refine h.chain (extends_mine ..) ?_ ?_
  · intro t' ht'
    unfold Chain.mine at ht'
    split at ht' <;> exact hs.attempted ht'
  · intro t' ok' hmem
    unfold Chain.mine at hmem ⊢
    split at hmem
    · rename_i hguard
      rw [if_pos hguard]
      rcases mem_append.mp hmem with hmem | hmem
      · exact hs.mined hmem
      · cases mem_singleton.mp hmem
        exact hguard.1
    · rename_i hguard
      rw [if_neg hguard]
      exact hs.mined hmem

theorem Inv.mineOther (h : Inv w) : Inv { w with chain := w.chain.mineOther } := by
  have hs := h.sound
  refine h.chain (extends_mineOther _) (fun t ht => hs.attempted ht) ?_
  intro t ok hmem
  rcases mem_append.mp hmem with hmem | hmem
  · exact hs.mined hmem
  · cases mem_singleton.mp hmem

theorem Inv.sync (h : Inv w) (p v : Nat) : Inv { w with chain := w.chain.sync p v } := by
  have hs := h.sound
  have hsame : (w.chain.sync p v).attempted = w.chain.attempted ∧
      (w.chain.sync p v).mined = w.chain.mined := by
    unfold Chain.sync
    split <;> exact ⟨rfl, rfl⟩
  refine h.chain (extends_sync ..) (fun t ht => hs.attempted (hsame.1 ▸ ht)) ?_
  intro t ok hmem
  rw [hsame.1]
  exact hs.mined (hsame.2 ▸ hmem)

theorem Sound.attempt (hs : Sound w) (hres : (id, t) ∈ w.reserved) :
    Sound { w with chain := w.chain.attempt t } := by
  have h : Inv w.release := hs.release
  refine (h.chain (extends_attempt ..) ?_ ?_).sound.congr rfl rfl rfl rfl
  · intro t' ht'
    rcases mem_cons.mp ht' with rfl | ht'
    · exact ⟨id, hres⟩
    · exact hs.attempted ht'
  · intro t' ok hmem
    exact mem_cons_of_mem _ (hs.mined hmem)

end ApiToken.Payout
