import ApiToken.Gemini.Life

/-!
# What a settlement records

An accepted intent waits in the outbox until it is processed. Whatever calls
come between, the row keeps the intent's columns, and the terminal class is
not one of them: processing takes it from the terminal state.
-/

namespace ApiToken.Gemini

open Registry

variable {row' : SettlementRow} {key : String × Int}
  {jobId profileId accountId : String} {now : Nat → Int} {leaseSecs : Int}
  {claimed : GeminiBatchClaimedItem} {locked : List (String × Int)} {done : Bool}
  {limit : Nat} {intent : GeminiBatchSettlementIntent} {collection : AccountCollection}

/-! ## The outbox keeps its intents -/

def SettlementRow.asEnqueued (row : SettlementRow) : SettlementRow :=
  { row with
    state := .pending, attempts := 0, nextAttemptTs := 0, lastErrorClass := none
    updatedTs := row.createdTs, committedTs := none }

variable {row : SettlementRow} {b : Batch}

theorem sameIntent_iff : row.sameIntent row' = true ↔ row.asEnqueued = row'.asEnqueued := by
  simp [SettlementRow.sameIntent, SettlementRow.asEnqueued, and_assoc]

def KeepsIntents (b b' : Batch) : Prop :=
  ∀ id row, b.outbox.find? id = some row →
    ∃ row', b'.outbox.find? id = some row' ∧ row'.asEnqueued = row.asEnqueued

theorem KeepsIntents.of_eq {b' : Batch} (h : b'.outbox = b.outbox) : KeepsIntents b b' :=
  fun _ row hrow => ⟨row, by rw [h, hrow], rfl⟩

theorem KeepsIntents.refl (b : Batch) : KeepsIntents b b := .of_eq rfl

theorem keepsIntents_put {b' : Batch} {id : String} (hrow : b.outbox.find? id = some row)
    (houtbox : b'.outbox = b.outbox.put id row') (hsame : row'.asEnqueued = row.asEnqueued) :
    KeepsIntents b b' := by
  intro id' found hfound
  rw [houtbox, find?_put]
  split
  · rename_i hid
    subst hid
    rw [hrow, some.injEq] at hfound
    exact ⟨row', rfl, hfound ▸ hsame⟩
  · exact ⟨found, hfound, rfl⟩

section Calls

variable {b b' : Batch} {ts : Int} {owner : Owner} {claim : GeminiBatchClaim}

theorem publish_outbox {create : BatchCreate} (h : publish b create = .ok b') :
    b'.outbox = b.outbox := by
  simp only [publish, ok_steps] at h
  obtain ⟨-, -, h⟩ := h
  refine (foldlM_keeps (·.outbox) (fun b item b' hstep => ?_) h).trans rfl
  simp only [insertItem, ok_steps] at hstep
  obtain ⟨-, -, rfl⟩ := hstep
  rfl

theorem cancel_outbox {answer : Option Nat}
    (h : geminiBatchCancel b ts accountId jobId = .ok (answer, b')) :
    b'.outbox = b.outbox := by
  unfold geminiBatchCancel at h
  split at h
  · cases h
    rfl
  simp only [ok_steps] at h
  obtain ⟨holds, -, b1, hitems, b2, hmoney, b3, hset, b4, hcomplete, -, rfl⟩ := h
  obtain ⟨jobs, rfl⟩ := completeJobIfTerminal_only hcomplete
  obtain ⟨rfl, -⟩ := setJob_eq hset
  obtain ⟨store, rfl⟩ := releaseHolds_eq hmoney
  refine foldlM_keeps (·.outbox) (fun b x b' hstep => ?_) hitems
  simp only [cancelOne, ok_steps] at hstep
  obtain ⟨b1, hset, ⟨deleted, leases⟩, -, -, rfl⟩ := hstep
  obtain rfl := setItem_eq hset
  rfl

theorem expireQueued_outbox {locked : List String} {n : Nat}
    (h : expireQueuedGeminiBatch b ts locked limit = .ok (n, b')) :
    b'.outbox = b.outbox := by
  refine foldlM_keeps (fun acc : Nat × Batch => acc.2.outbox) (fun acc x acc' hstep => ?_) h
  simp only [expireJob, ok_steps] at hstep
  obtain ⟨_, -, b1, hitems, hold, -, b2, hmoney, b3, hset, b4, hcomplete, rfl⟩ := hstep
  obtain ⟨jobs, rfl⟩ := completeJobIfTerminal_only hcomplete
  obtain ⟨rfl, -⟩ := setJob_eq hset
  obtain ⟨store, rfl⟩ := releaseHolds_eq hmoney
  exact foldlM_keeps (·.outbox) (fun _ _ _ hset => by rw [setItem_eq hset]) hitems

theorem delete_outbox (h : geminiBatchDelete b ts accountId jobId = .ok (done, b')) :
    b'.outbox = b.outbox := by
  unfold geminiBatchDelete at h
  split at h
  · cases h
    rfl
  split at h
  · cases h
    rfl
  · simp only [ok_steps] at h
    obtain ⟨b1, hset, -, rfl⟩ := h
    rw [(setJob_eq hset).1]

theorem finalizeOutput_outbox {completedTs : Int}
    (h : finalizeGeminiBatchOutput b completedTs jobId = .ok b') :
    b'.outbox = b.outbox := by
  unfold finalizeGeminiBatchOutput at h
  split at h
  · cases h
    rfl
  · rw [(setJob_eq h).1]

/-! ## The calls that write it -/

theorem enqueueInner_stores {now : Int} {owner : Option Owner}
    (h : enqueueGeminiBatchSettlementInner b now owner claim intent = .ok b') :
    KeepsIntents b b' ∧ intent.validate = .ok () ∧
      ∃ row, b'.outbox.find? intent.requestId = some row ∧ row.asEnqueued = intent.row := by
  simp only [enqueueGeminiBatchSettlementInner, ok_steps] at h
  obtain ⟨hvalid, -, -, item, -, w, -, -, -, -, b1, hblob, b2, hintent, hset⟩ := h
  obtain ⟨-, blobs, rfl⟩ := storeBlob_spec hblob
  have hitem : b'.outbox = b2.outbox := by rw [setItem_eq hset]
  unfold storeIntent at hintent
  cases hrow : b.outbox.find? intent.requestId with
  | none =>
    simp only [hrow, ok_steps] at hintent
    obtain ⟨-, rfl⟩ := hintent
    refine ⟨fun id row hfind => ⟨row, ?_, rfl⟩, hvalid, intent.row, ?_, rfl⟩
    · have hne : intent.requestId ≠ id := by
        rintro rfl
        rw [hrow] at hfind
        cases hfind
      rw [hitem, find?_put_ne _ _ hne, hfind]
    · rw [hitem, find?_put_self]
  | some row =>
    simp only [hrow, ok_steps, bailIf_eq_ok, guard_iffs] at hintent
    obtain ⟨hsame, rfl⟩ := hintent
    exact ⟨.of_eq hitem, hvalid, row, by rw [hitem, hrow], sameIntent_iff.mp hsame⟩

theorem recordFailure_intents (b : Batch) (ts : Int) (requestId : String) (err : Error) :
    KeepsIntents b (recordSettlementFailure b ts requestId err) := by
  unfold recordSettlementFailure
  split
  · exact .refl b
  rename_i row hrow
  split
  · exact .refl b
  · exact keepsIntents_put hrow rfl rfl

theorem terminalize_eq {requestId : String} {item : BatchItem} {job : BatchJob}
    (h : terminalize b ts requestId row item job = .ok b') :
    b'.outbox = b.outbox.put requestId
        { row with state := .done, committedTs := some ts, updatedTs := ts } ∧
      b'.items = b.items.put (row.jobId, row.itemIndex) (item.settledAs row ts) ∧
      b'.store = b.store ∧ b'.usageEvents = b.usageEvents := by
  simp only [terminalize, ok_steps] at h
  obtain ⟨-, b1, hset, profileId, -, w, -, ⟨deleted, leases⟩, -, -, -, hcomplete⟩ := h
  obtain rfl := setItem_eq hset
  obtain ⟨jobs, rfl⟩ := completeJobIfTerminal_only hcomplete
  exact ⟨rfl, rfl, rfl, rfl⟩

theorem process_intents {requestId : String} {answer : Option Int}
    (h : processGeminiBatchSettlement b ts requestId = .ok (answer, b')) :
    KeepsIntents b b' := by
  rcases process_cases h with
    rfl | ⟨row, item, job, store, usageEvents, calibrations, hrow, -, -, hterminal⟩
  · exact .refl _
  · exact keepsIntents_put hrow (terminalize_eq hterminal).1 rfl

end Calls

theorem keepsIntents_after {α : Type} {state : α → Batch} {x : Except Error α}
    (h : ∀ answer, x = .ok answer → KeepsIntents b (state answer)) :
    KeepsIntents b (b.after state x) := by
  cases x with
  | error => exact .refl b
  | ok answer => exact h answer rfl

theorem exec_intents (b : Batch) (op : BatchOp) : KeepsIntents b (b.exec op) := by
  cases op with
  | engine => exact .of_eq rfl
  | acquireLeader =>
    refine keepsIntents_after fun answer h => ?_
    simp only [acquireBatchLeader, ok_steps] at h
    obtain ⟨-, rfl⟩ := h
    exact .of_eq rfl
  | publish => exact keepsIntents_after fun _ h => .of_eq (publish_outbox h)
  | claim =>
    refine keepsIntents_after fun answer h => ?_
    cases answer with
    | none => exact .refl b
    | some => exact .of_eq (claim_worked h).outbox
  | markDispatching =>
    exact keepsIntents_after fun _ h => .of_eq (markDispatching_worked h).outbox
  | markActualSend =>
    exact keepsIntents_after fun _ h => .of_eq (markActualSend_worked h).outbox
  | renew => exact keepsIntents_after fun _ h => .of_eq (renew_worked h).outbox
  | requeue => exact keepsIntents_after fun _ h => .of_eq (requeue_worked h).outbox
  | release => exact keepsIntents_after fun _ h => .of_eq (release_worked h).outbox
  | reconcile => exact keepsIntents_after fun _ h => .of_eq (reconcile_worked h).outbox
  | cancel => exact keepsIntents_after fun _ h => .of_eq (cancel_outbox h)
  | expireQueued => exact keepsIntents_after fun _ h => .of_eq (expireQueued_outbox h)
  | enqueue => exact keepsIntents_after fun _ h => (enqueueInner_stores h).1
  | enqueueRecovery =>
    refine keepsIntents_after fun _ h => ?_
    simp only [enqueueGeminiBatchRecoverySettlement, ok_steps] at h
    exact (enqueueInner_stores h.2).1
  | process => exact keepsIntents_after fun _ h => process_intents h
  | recordFailure ts requestId err => exact recordFailure_intents b ts requestId err
  | delete => exact keepsIntents_after fun _ h => .of_eq (delete_outbox h)
  | finalizeOutput => exact keepsIntents_after fun _ h => .of_eq (finalizeOutput_outbox h)

theorem run_intents (b : Batch) (ops : List BatchOp) : KeepsIntents b (run Batch.exec b ops) := by
  induction ops generalizing b with
  | nil => exact .refl b
  | cons op _ ih =>
    intro id row hrow
    obtain ⟨row', hrow', hsame'⟩ := exec_intents b op id row hrow
    obtain ⟨row'', hrow'', hsame''⟩ := ih (b.exec op) id row' hrow'
    exact ⟨row'', hrow'', hsame''.trans hsame'⟩

/-! ## What is recorded -/

/-- What was recorded is what the intent says. -/
structure RecordedAs (b : Batch) (intent : GeminiBatchSettlementIntent) : Prop where
  item : ∃ item, b.items.find? intent.item = some item ∧
    item.state = intent.terminalState ∧ item.terminalClass = some intent.terminalClass ∧
    item.usage = intent.usage
  charge : if 0 < intent.actualNano then
      ∃ row ∈ b.store.ledger, row.kind = .charge ∧
        row.requestId = some intent.requestId ∧ row.amountNano = intent.actualNano ∧
        row.officialNano = some intent.chargeBasisNano
    else charged b.store intent.requestId = false
  event : intent.usage.isSome = true → ∃ e, b.usageEvents.find? intent.requestId = some e ∧
    e.chargeNano = intent.actualNano ∧ e.chargeBasisNano = intent.chargeBasisNano ∧
    e.realNano = intent.realNano
  row : ∃ row, b.outbox.find? intent.requestId = some row ∧ row.state = .done ∧
    row.asEnqueued = intent.row

theorem validate_shape (h : intent.validate = .ok ()) :
    intent.terminalState = intent.disposition.shape.1 ∧
      intent.terminalClass = intent.disposition.shape.2.1 ∧
      intent.usage.isSome = (intent.disposition == .settle) ∧
      intent.calibration.isSome = (intent.disposition == .settle) := by
  simp only [GeminiBatchSettlementIntent.validate, ok_steps, bailIf_eq_ok, guard_iffs] at h
  obtain ⟨-, -, ⟨⟨⟨⟨⟨hstate, hclass⟩, -⟩, husage⟩, hcalibration⟩, -⟩, -⟩ := h
  have hmeasured : intent.disposition.shape.2.2.2 = (intent.disposition == .settle) := by
    cases intent.disposition <;> rfl
  rw [hmeasured] at husage hcalibration
  exact ⟨hstate, hclass, husage.symm, hcalibration.symm⟩

theorem terminalClassOf_shape (d : Disposition) :
    terminalClassOf d.shape.1 = d.shape.2.1 ↔ d ≠ .expire := by
  cases d <;> simp [Disposition.shape, terminalClassOf]

section Process

variable {b b' : Batch} {ts : Int} {requestId : String} {row : SettlementRow}
  {item : BatchItem} {job : BatchJob}

theorem bookSettlement_ledger {s' : Store}
    (h : bookSettlement b.store ts requestId row item job = .ok (collection, s')) :
    if 0 < row.actualNano then
      ∃ x ∈ s'.ledger, x.kind = .charge ∧ x.requestId = some requestId ∧
        x.amountNano = row.actualNano ∧ x.officialNano = some row.chargeBasisNano
    else charged s' requestId = false := by
  simp only [bookSettlement, bind_eq_ok] at h
  obtain ⟨c, -, s1, -, h⟩ := h
  split at h
  · rename_i hpos
    simp only [ok_steps] at h
    obtain ⟨-, -, rfl⟩ := h
    rw [if_pos hpos]
    exact ⟨_, mem_append_right _ (mem_singleton_self _), rfl, rfl, rfl, rfl⟩
  · rename_i hzero
    simp only [ok_steps, bailIf_eq_ok] at h
    obtain ⟨hfree, -, rfl⟩ := h
    rw [if_neg hzero]
    exact hfree

theorem recordEvidence_event (husage : row.usage.isSome = row.measured)
    (hcalibration : row.calibration.isSome = row.measured)
    (h : recordEvidence b ts requestId row item job collection = .ok b') :
    b'.store = b.store ∧ b'.items = b.items ∧ b'.outbox = b.outbox ∧
      (row.measured = true → ∃ e, b'.usageEvents.find? requestId = some e ∧
        e.chargeNano = row.actualNano ∧ e.chargeBasisNano = row.chargeBasisNano ∧
        e.realNano = row.realNano) := by
  unfold recordEvidence at h
  split at h
  · rename_i hmeasured
    rw [hmeasured] at husage hcalibration
    obtain ⟨usage, husage⟩ := isSome_iff_exists.mp husage
    obtain ⟨calibration, hcalibration⟩ := isSome_iff_exists.mp hcalibration
    simp only [recordMeasured, husage, hcalibration, ok_steps] at h
    obtain ⟨_, -, _, -, _, -, -, -, -, rfl⟩ := h
    exact ⟨rfl, rfl, rfl, fun _ => ⟨_, find?_put_self .., rfl, rfl, rfl⟩⟩
  · rename_i hunmeasured
    cases h
    exact ⟨rfl, rfl, rfl, fun hmeasured => absurd hmeasured hunmeasured⟩

theorem process_applies {balance : Int} (hrow : b.outbox.find? requestId = some row)
    (hwaiting : row.state ≠ .done) (husage : row.usage.isSome = row.measured)
    (hcalibration : row.calibration.isSome = row.measured)
    (h : processGeminiBatchSettlement b ts requestId = .ok (some balance, b')) :
    (∃ item : BatchItem,
        b'.items.find? (row.jobId, row.itemIndex) = some (item.settledAs row ts)) ∧
      (if 0 < row.actualNano then
        ∃ x ∈ b'.store.ledger, x.kind = .charge ∧ x.requestId = some requestId ∧
          x.amountNano = row.actualNano ∧ x.officialNano = some row.chargeBasisNano
      else charged b'.store requestId = false) ∧
      (row.measured = true → ∃ e, b'.usageEvents.find? requestId = some e ∧
        e.chargeNano = row.actualNano ∧ e.chargeBasisNano = row.chargeBasisNano ∧
        e.realNano = row.realNano) ∧
      b'.outbox.find? requestId = some
        { row with state := .done, committedTs := some ts, updatedTs := ts } := by
  simp only [processGeminiBatchSettlement, hrow, if_neg hwaiting] at h
  split at h
  · simp only [ok_steps] at h
    obtain ⟨-, -, ⟨collection, store⟩, hbook, b1, hevidence, b2, hterminal, -, rfl⟩ := h
    have hledger := bookSettlement_ledger hbook
    obtain ⟨hstore, hitems, houtbox, hevent⟩ :=
      recordEvidence_event husage hcalibration hevidence
    obtain ⟨houtbox2, hitems2, hstore2, hevents2⟩ := terminalize_eq hterminal
    refine ⟨⟨_, by rw [hitems2, find?_put_self]⟩, ?_, ?_, ?_⟩
    · rw [hstore2, hstore]
      exact hledger
    · rw [hevents2]
      exact hevent
    · rw [houtbox2, find?_put_self]
  · cases h

end Process

def Accepts (b : Batch) (intent : GeminiBatchSettlementIntent) (b' : Batch) : Prop :=
  (∃ now owner claim, enqueueGeminiBatchSettlement b now owner claim intent = .ok b') ∨
    ∃ now recovery, enqueueGeminiBatchRecoverySettlement b now recovery intent = .ok b'

theorem Accepts.stores {b' : Batch} (h : Accepts b intent b') :
    intent.validate = .ok () ∧
      ∃ row, b'.outbox.find? intent.requestId = some row ∧ row.asEnqueued = intent.row := by
  rcases h with ⟨now, owner, claim, h⟩ | ⟨now, recovery, h⟩
  · exact (enqueueInner_stores h).2
  · simp only [enqueueGeminiBatchRecoverySettlement, ok_steps] at h
    exact (enqueueInner_stores h.2).2

/-- An accepted intent, processed after whatever calls, is recorded as it is exactly when
it is not an expiry. A call that processing refuses records nothing, and is not meant. -/
theorem settlement_recorded_iff (b b₁ b₂ : Batch) (intent : GeminiBatchSettlementIntent)
    (haccepted : Accepts b intent b₁) (later : List BatchOp) (ts balance : Int)
    (hwaiting : ∀ row, (run Batch.exec b₁ later).outbox.find? intent.requestId = some row →
      row.state ≠ .done)
    (hprocess : processGeminiBatchSettlement (run Batch.exec b₁ later) ts intent.requestId
      = .ok (some balance, b₂)) : RecordedAs b₂ intent ↔ intent.disposition ≠ .expire := by
  obtain ⟨hvalid, row₁, hrow₁, hsame₁⟩ := haccepted.stores
  obtain ⟨hstate, hclass, husage, hcalibration⟩ := validate_shape hvalid
  obtain ⟨row, hrow, hsame⟩ := run_intents b₁ later _ row₁ hrow₁
  have hintent : row.asEnqueued = intent.row := hsame.trans hsame₁
  -- the columns of the row are the intent's
  have hkey : (row.jobId, row.itemIndex) = intent.item :=
    congrArg (fun x : SettlementRow => (x.jobId, x.itemIndex)) hintent
  have hterminal : row.terminalState = intent.terminalState :=
    congrArg (·.terminalState) hintent
  have hrowUsage : row.usage = intent.usage := congrArg (·.usage) hintent
  have hmeasured : row.measured = (intent.disposition == .settle) :=
    congrArg (fun x : SettlementRow => x.disposition == .settle) hintent
  have hactual : row.actualNano = intent.actualNano := congrArg (·.actualNano) hintent
  have hbasis : row.chargeBasisNano = intent.chargeBasisNano :=
    congrArg (·.chargeBasisNano) hintent
  have hreal : row.realNano = intent.realNano := congrArg (·.realNano) hintent
  have hrowCalibration : row.calibration = intent.calibration :=
    congrArg (·.calibration) hintent
  obtain ⟨⟨item, hitem⟩, hcharge, hevent, houtbox⟩ := process_applies hrow
    (hwaiting row hrow) (by rw [hrowUsage, husage, hmeasured])
    (by rw [hrowCalibration, hcalibration, hmeasured]) hprocess
  rw [hkey] at hitem
  rw [hactual, hbasis] at hcharge
  rw [hactual, hbasis, hreal, hmeasured, ← husage] at hevent
  rw [← terminalClassOf_shape, ← hclass, ← hstate]
  constructor
  · intro h
    obtain ⟨item', hitem', -, hclass', -⟩ := h.item
    rw [hitem, some.injEq] at hitem'
    rw [← hitem', BatchItem.settledAs, some.injEq, hterminal] at hclass'
    exact hclass'
  · intro h
    exact
      { item := ⟨_, hitem, hterminal, by rw [BatchItem.settledAs, hterminal, h], hrowUsage⟩
        charge := hcharge
        event := hevent
        row := ⟨_, houtbox, rfl, hintent⟩ }

def unmeasuredIntent (disposition : Disposition) : GeminiBatchSettlementIntent :=
  { jobId := "job", itemIndex := 0, requestId := "req", claimGeneration := 1
    disposition, actualNano := 0, chargeBasisNano := 0, realNano := 0, usage := none
    resultBlob := sampleBlob .error, terminalState := disposition.shape.1
    terminalClass := disposition.shape.2.1, calibration := none, completedTs := 103 }

def acceptedRun (intent : GeminiBatchSettlementIntent) : Except Error Batch :=
  enqueueGeminiBatchSettlement
    (run Batch.exec (.fresh soloStore)
      (sampleStart ++ [.markDispatching 102 ⟨"east", 1⟩ sampleClaim 60]))
    103 ⟨"east", 1⟩ sampleClaim intent

def intentRun (disposition : Disposition) : Except Error Batch :=
  acceptedRun (unmeasuredIntent disposition)

/-- The item of an expiry ends canceled, with that class. -/
theorem expiry_recorded_canceled : ∃ b₁ balance b₂, intentRun .expire = .ok b₁ ∧
    processGeminiBatchSettlement b₁ 104 "req" = .ok (some balance, b₂) ∧
    (unmeasuredIntent .expire).terminalClass = .expired ∧
    (b₂.items.find? ("job", 0)).map (fun item => (item.state, item.terminalClass))
      = some (.canceled, some .canceled) ∧
    ¬ RecordedAs b₂ (unmeasuredIntent .expire) := by
  refine ⟨_, _, _, rfl, rfl, rfl, rfl, fun h => ?_⟩
  obtain ⟨item, hitem, -, hclass, -⟩ := h.item
  cases hitem
  cases hclass

/-- A turn of a hundred tokens in and twenty out, for 300. -/
def measuredIntent : GeminiBatchSettlementIntent :=
  { unmeasuredIntent .settle with
    actualNano := 300, chargeBasisNano := 300, realNano := 300
    usage := some ⟨100, 0, 0, 0, 0, 20, 0, 0, 0, 0⟩, resultBlob := sampleBlob .result
    calibration := some
      { provider := "google", requestId := "req", subjectId := "profile"
        modelId := "model", serviceTier := "standard", inferenceGeo := "global"
        tariffScheduleId := "list", pricedTs := 101, completedAt := 103
        inputTokens := 100, audioInputTokens := 0, cacheReadTokens := 0
        cachedAudioInputTokens := 0, cacheWrite5mTokens := 0, cacheWrite1hTokens := 0
        outputTokens := 20, thinkingOutputTokens := 0, imageOutputTokens := 0
        toolPromptTokens := 0, searchQueries := 0, groundedSearchPrompts := 0
        apiInputNanousd := 100, apiAudioInputNanousd := 0, apiCacheReadNanousd := 0
        apiCachedAudioInputNanousd := 0, apiCacheWrite5mNanousd := 0
        apiCacheWrite1hNanousd := 0, apiOutputNanousd := 200, apiImageOutputNanousd := 0
        apiSearchNanousd := 0, apiTotalNanousd := 300 } }

theorem measured_turn_recorded : ∃ b₁ balance b₂, acceptedRun measuredIntent = .ok b₁ ∧
    processGeminiBatchSettlement b₁ 104 "req" = .ok (some balance, b₂) ∧
    RecordedAs b₂ measuredIntent := by
  have hpending : (acceptedRun measuredIntent).map
      (fun b₁ => (b₁.outbox.find? "req").map (·.state)) = .ok (some .pending) := by
    decide +kernel
  have hprocessed : (acceptedRun measuredIntent).bind (fun b₁ =>
      (processGeminiBatchSettlement b₁ 104 "req").map (·.1.isSome)) = .ok true := by
    decide +kernel
  cases haccepted : acceptedRun measuredIntent with
  | error =>
    rw [haccepted] at hpending
    cases hpending
  | ok b₁ =>
    rw [haccepted] at hpending hprocessed
    simp only [Except.map, Except.bind, Except.ok.injEq] at hpending hprocessed
    cases hprocess : processGeminiBatchSettlement b₁ 104 "req" with
    | error =>
      rw [hprocess] at hprocessed
      cases hprocessed
    | ok answer =>
      obtain ⟨balance, b₂⟩ := answer
      rw [hprocess, Except.ok.injEq] at hprocessed
      obtain ⟨balance, rfl⟩ := isSome_iff_exists.mp hprocessed
      refine ⟨b₁, balance, b₂, rfl, hprocess, ?_⟩
      refine (settlement_recorded_iff _ b₁ b₂ measuredIntent
        (.inl ⟨103, ⟨"east", 1⟩, sampleClaim, haccepted⟩) [] 104 balance
        (fun row hrow => ?_) hprocess).mpr (by decide)
      have hstate : (b₁.outbox.find? "req").map (·.state) = some row.state :=
        congrArg (Option.map (·.state)) hrow
      rw [hpending, some.injEq] at hstate
      rw [← hstate]
      decide

end ApiToken.Gemini
