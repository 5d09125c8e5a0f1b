import ApiToken.Gemini.Claims
import ApiToken.Registry.Outbox

/-!
# Settlement

`pg/gemini_batch_settlement.rs` and the expiry of queued items in
`pg/gemini_batch_output.rs`: cancelling a job, storing the terminal output
and the settlement intent of a claim, applying it, and closing the job when
its last item is terminal.
-/

namespace ApiToken.Gemini

open Registry

/-- `BATCH_RESULT_RETENTION_SECS`: forty-two days. -/
def batchResultRetentionSecs : Int := 42 * 24 * 60 * 60

/-- `BATCH_QUEUED_EXPIRY_SECS`: forty-eight hours. -/
def batchQueuedExpirySecs : Int := 48 * 60 * 60

def maxBatchPruneLimit : Nat := 5000

/-! ## Closing a job -/

/-- `complete_job_if_terminal`; an inline job is complete with its items, a
job with an input file still has its output to build. -/
def completeJobIfTerminal (b : Batch) (jobId : String) (ts : Int) :
    Except Error Batch :=
  match b.jobs.find? jobId with
  | none => .ok b
  | some job =>
    if b.items.any (fun key item => key.1 == jobId && !item.state.isTerminal) then
      .ok b
    else match job.inputKind with
      | .inline =>
        b.setJob jobId
          { job with
            terminalItemsTs := some (job.terminalItemsTs.getD ts)
            completedTs := some (job.completedTs.getD ts)
            resultExpirationTs :=
              some (job.resultExpirationTs.getD (ts + batchResultRetentionSecs))
            updateTs := max job.updateTs ts }
      | .file =>
        if job.terminalItemsTs.isSome || job.completedTs.isSome then .ok b
        else b.setJob jobId
          { job with
            terminalItemsTs := some ts, updateTs := max job.updateTs ts }

/-! ## Cancelling -/

/-- `UPDATE api_keys … WHERE key_id = … AND account_id = …`: the rows of a
key. -/
def ownKey (accountId keyId : String) (_ : String) (k : ApiKey) : Bool :=
  k.keyId == keyId && k.accountId == accountId

def releaseAccountHold (s : Store) (accountId : String) (holds : Int)
    (mismatch : String) : Except Error Store := do
  let account ← orFail ((s.accounts.find? accountId).filter
    (fun a => decide (holds ≤ a.reservedNano))) (.bail mismatch)
  let balance ← bigint (account.balanceNano + holds)
  return { s with
    accounts := s.accounts.put accountId
      { account with
        balanceNano := balance, reservedNano := account.reservedNano - holds } }

def releaseKeyHold (s : Store) (accountId keyId : String) (holds : Int) :
    Nat × Store :=
  let covered := fun key k =>
    ownKey accountId keyId key k && decide (holds ≤ k.reservedNano)
  ((s.apiKeys.rows.filter (fun x => covered x.1 x.2)).length,
    { s with
      apiKeys := s.apiKeys.update covered
        (fun k => { k with reservedNano := k.reservedNano - holds }) })

/-- Give the holds of canceled items back, when they held money. `bad` is the
caller's check on the key. -/
def releaseHolds (b : Batch) (accountId keyId : String) (holds : Int)
    (accountMismatch keyMismatch : String) (bad : Nat → Store → Bool) :
    Except Error Batch :=
  if 0 < holds then do
    let store ← releaseAccountHold b.store accountId holds accountMismatch
    let (changed, store) := releaseKeyHold store accountId keyId holds
    bailIf (bad changed store) keyMismatch
    return { b with store }
  else .ok b

/-- `checked_add` over the holds. -/
def sumHolds (rows : List ((String × Int) × BatchItem)) (overflow : String) :
    Except Error Int :=
  rows.foldlM (fun sum x =>
    if -9223372036854775808 ≤ sum + x.2.holdNano
        ∧ sum + x.2.holdNano ≤ 9223372036854775807 then
      .ok (sum + x.2.holdNano)
    else .error (.bail overflow)) 0

def cancelable (jobId : String) (key : String × Int) (item : BatchItem) : Bool :=
  key.1 == jobId && (item.state == .queued || item.state == .claimed)
    && item.dispatchIntentTs.isNone

def BatchItem.canceledAt (item : BatchItem) (ts : Int) : BatchItem :=
  { item with
    state := .canceled, terminalClass := some .canceled, terminalTs := some ts
    updatedTs := ts, worker := none, selectedProfileId := none }

def cancelOne (ts : Int) (b : Batch) (row : (String × Int) × BatchItem) :
    Except Error Batch := do
  let b ← b.setItem row.1 (row.2.canceledAt ts)
  let (deleted, leases) ← deleteLeases b.leases (fun id => id.item == row.1)
  bailIf (decide (1 < deleted)) "Gemini Batch cancel deleted multiple profile leases"
  return { b with leases }

/-- `gemini_batch_cancel`; the number of items it canceled, `none` for a job
that is not there. -/
def geminiBatchCancel (b : Batch) (ts : Int) (accountId jobId : String) :
    Except Error (Option Nat × Batch) :=
  match (b.jobs.find? jobId).filter (fun job =>
      job.accountId == accountId && job.deleteTs.isNone) with
  | none => .ok (none, b)
  | some job => do
      let canceled := b.items.rows.filter (fun x => cancelable jobId x.1 x.2)
      let holds ← sumHolds canceled "Gemini Batch canceled hold overflow"
      let b ← canceled.foldlM (cancelOne ts) b
      let b ← releaseHolds b accountId job.creatorKeyId holds
        "Gemini Batch cancel account reservation mismatch"
        "Gemini Batch cancel key reservation mismatch"
        (fun changed _ => changed != 1)
      let b ← b.setJob jobId
        { job with
          cancelRequestedTs := some (job.cancelRequestedTs.getD ts), updateTs := ts }
      let b ← completeJobIfTerminal b jobId ts
      return (some canceled.length, b)

def expirable (jobId : String) (key : String × Int) (item : BatchItem) : Bool :=
  key.1 == jobId && item.state == .queued && item.dispatchIntentTs.isNone

def BatchItem.expiredAt (item : BatchItem) (ts : Int) : BatchItem :=
  { item with
    state := .canceled, terminalClass := some .expired, terminalTs := some ts
    updatedTs := ts }

/-- `expire_queued_gemini_batch`, one job. -/
def expireJob (ts : Int) (acc : Nat × Batch) (row : String × BatchJob) :
    Except Error (Nat × Batch) := do
  let (jobId, job) := row
  let (count, b) := acc
  let _ ← orFail (b.store.accounts.find? job.accountId)
    (.bail "query returned an unexpected number of rows")
  let rows := b.items.rows.filter (fun x => expirable jobId x.1 x.2)
  let b ← rows.foldlM (fun b x => b.setItem x.1 (x.2.expiredAt ts)) b
  let hold ← sumHolds rows "expiry hold overflow"
  let b ← releaseHolds b job.accountId job.creatorKeyId hold
    "expiry account hold mismatch" "expiry key hold mismatch"
    (fun changed store => changed == 0
      && store.apiKeys.any (ownKey job.accountId job.creatorKeyId))
  let b ← b.setJob jobId
    { job with
      cancelRequestedTs := some (job.cancelRequestedTs.getD ts), updateTs := ts }
  let b ← completeJobIfTerminal b jobId ts
  return (count + rows.length, b)

/-- `expire_queued_gemini_batch`. `locked` are the jobs it skips. -/
def expireQueuedGeminiBatch (b : Batch) (ts : Int) (locked : List String)
    (limit : Nat) : Except Error (Nat × Batch) :=
  (b.jobs.select
    (fun jobId job => !locked.contains jobId && job.completedTs.isNone
      && decide (job.createTs + batchQueuedExpirySecs ≤ ts)
      && b.items.any (fun key item => key.1 == jobId && item.state == .queued))
    (fun x y => decide (x.2.createTs < y.2.createTs)
      || (x.2.createTs == y.2.createTs && decide (x.1 ≤ y.1)))
    (max 1 (min limit maxBatchPruneLimit))).foldlM (expireJob ts) (0, b)

/-! ## The settlement intent -/

structure GeminiBatchSettlementIntent where
  jobId : String
  itemIndex : Int
  requestId : String
  claimGeneration : Int
  disposition : Disposition
  actualNano : Int
  chargeBasisNano : Int
  realNano : Int
  usage : Option GeminiBatchUsage
  resultBlob : GeminiBatchEncryptedBlob
  terminalState : ItemState
  terminalClass : TerminalClass
  calibration : Option ProviderTurnCalibrationEvent
  completedTs : Int

def GeminiBatchSettlementIntent.item (intent : GeminiBatchSettlementIntent) :
    String × Int := (intent.jobId, intent.itemIndex)

/-- The usage half of `GeminiBatchSettlementIntent::validate`. -/
def GeminiBatchUsage.isValid (u : GeminiBatchUsage) : Bool :=
  [u.inputTokens, u.toolPromptTokens, u.audioInputTokens, u.cachedInputTokens,
    u.cachedAudioInputTokens, u.outputTokens, u.thinkingOutputTokens,
    u.imageOutputTokens, u.searchQueries, u.groundedSearchPrompts].all (decide <| 0 ≤ ·)
    && decide (u.toolPromptTokens ≤ u.inputTokens)
    && decide (u.cachedAudioInputTokens ≤ u.cachedInputTokens)
    && decide (u.thinkingOutputTokens ≤ u.outputTokens)

def Disposition.shape : Disposition → ItemState × TerminalClass × BlobKind × Bool
  | .settle => (.succeeded, .success, .result, true)
  | .cancel => (.canceled, .canceled, .error, false)
  | .indeterminate => (.indeterminate, .indeterminate, .error, false)
  | .expire => (.canceled, .expired, .error, false)

def GeminiBatchSettlementIntent.validate (intent : GeminiBatchSettlementIntent) :
    Except Error Unit := do
  bailIf (intent.jobId == "" || decide (intent.itemIndex < 0)
      || intent.requestId == "" || decide (intent.claimGeneration ≤ 0)
      || decide (intent.actualNano < 0) || decide (intent.chargeBasisNano < 0)
      || decide (intent.realNano < 0) || decide (intent.completedTs ≤ 0)
      || !intent.terminalState.isTerminal)
    "invalid settlement intent"
  bailIf (!intent.usage.all (·.isValid)) "invalid Gemini Batch usage"
  let (expectedState, expectedClass, expectedBlob, measured) := intent.disposition.shape
  bailIf (intent.terminalState != expectedState
      || intent.terminalClass != expectedClass
      || intent.resultBlob.kind != expectedBlob
      || measured != intent.usage.isSome
      || measured != intent.calibration.isSome
      || (!measured && (intent.chargeBasisNano != 0 || intent.realNano != 0)))
    "settlement disposition shape mismatch"
  match intent.calibration with
  | none => pure ()
  | some calibration => do
      bailIf (calibration.provider != "google"
          || calibration.requestId != intent.requestId
          || calibration.completedAt != intent.completedTs)
        "calibration identity mismatch"
      validateProviderTurnCalibrationEvent calibration
  intent.resultBlob.validate intent.completedTs

/-- `if blob.kind == "result" { "response" } else { "error" }`. -/
def GeminiBatchSettlementIntent.resultKind (intent : GeminiBatchSettlementIntent) :
    ResultKind :=
  if intent.resultBlob.kind = .result then .response else .error

def GeminiBatchSettlementIntent.row (intent : GeminiBatchSettlementIntent) :
    SettlementRow :=
  { jobId := intent.jobId, itemIndex := intent.itemIndex
    disposition := intent.disposition, actualNano := intent.actualNano
    chargeBasisNano := intent.chargeBasisNano, realNano := intent.realNano
    usage := intent.usage, resultKind := intent.resultKind
    terminalState := intent.terminalState, state := .pending, attempts := 0
    nextAttemptTs := 0, lastErrorClass := none, createdTs := intent.completedTs
    updatedTs := intent.completedTs, committedTs := none
    calibration := intent.calibration }

def SettlementRow.sameIntent (stored row : SettlementRow) : Bool :=
  stored.jobId == row.jobId && stored.itemIndex == row.itemIndex
    && stored.disposition == row.disposition
    && stored.actualNano == row.actualNano
    && stored.chargeBasisNano == row.chargeBasisNano
    && stored.realNano == row.realNano && stored.usage == row.usage
    && stored.resultKind == row.resultKind
    && stored.terminalState == row.terminalState
    && stored.createdTs == row.createdTs && stored.calibration == row.calibration

/-! ## Enqueueing -/

def storeBlob (b : Batch) (intent : GeminiBatchSettlementIntent) :
    Except Error Batch :=
  let stored : StoredBlob := { blob := intent.resultBlob, createdTs := intent.completedTs }
  match b.blobs.find? (intent.jobId, intent.itemIndex, intent.resultBlob.kind) with
  | none =>
    .ok { b with
      blobs := b.blobs.put (intent.jobId, intent.itemIndex, intent.resultBlob.kind) stored }
  | some old => do
      bailIf (old != stored) "Gemini Batch settlement blob replay conflict"
      return b

/-- The outbox insert, or its comparison with the row that is there. -/
def storeIntent (b : Batch) (intent : GeminiBatchSettlementIntent) :
    Except Error Batch :=
  match b.outbox.find? intent.requestId with
  | none => do
      failIf (b.outbox.any (fun _ row => row.jobId == intent.jobId
        && row.itemIndex == intent.itemIndex)) (.sql "23505")
      return { b with outbox := b.outbox.put intent.requestId intent.row }
  | some old => do
      bailIf (!old.sameIntent intent.row) "Gemini Batch settlement replay conflict"
      return b

def assertCaller (b : Batch) (now : Int) : Option Owner → Except Error Unit
  | some owner => assertOwner b.store owner now
  | none => .ok ()

def checkSettlementOwner (b : Batch) (now : Int) (worker : Owner) :
    Option Owner → Except Error Unit
  | some owner => bailIf (worker != owner) "Gemini Batch settlement owner fence is stale"
  | none =>
    bailIf (ownerLive b.store worker now) "Gemini Batch recovery owner is still live"

def ItemState.settleable (s : ItemState) : Bool :=
  s == .dispatching || s == .settlementPending

def enqueueGeminiBatchSettlementInner (b : Batch) (now : Int)
    (owner : Option Owner) (claim : GeminiBatchClaim)
    (intent : GeminiBatchSettlementIntent) : Except Error Batch := do
  intent.validate
  bailIf (claim.jobId != intent.jobId || claim.itemIndex != intent.itemIndex
      || claim.requestId != intent.requestId
      || claim.claimGeneration != intent.claimGeneration)
    "Gemini Batch settlement claim mismatch"
  assertCaller b now owner
  let item ← orFail ((b.items.find? intent.item).filter
    (·.requestId == intent.requestId))
    (.bail "Gemini Batch settlement item does not exist")
  let w ← orFail item.worker (.bail "Gemini Batch settlement worker is missing")
  checkSettlementOwner b now w.owner owner
  bailIf (item.claimGeneration != intent.claimGeneration
      || item.selectedProfileId != some claim.profileId
      || !item.state.settleable)
    "Gemini Batch settlement fence is stale"
  bailIf (lockGeminiBatchProfileLease b.leases claim w.owner != 1)
    "Gemini Batch settlement profile lease is stale"
  let b ← storeBlob b intent
  let b ← storeIntent b intent
  b.setItem intent.item
    { item with
      state := .settlementPending, settlementId := some intent.requestId
      updatedTs := intent.completedTs }

def enqueueGeminiBatchSettlement (b : Batch) (now : Int) (owner : Owner)
    (claim : GeminiBatchClaim) (intent : GeminiBatchSettlementIntent) :
    Except Error Batch :=
  enqueueGeminiBatchSettlementInner b now (some owner) claim intent

def enqueueGeminiBatchRecoverySettlement (b : Batch) (now : Int)
    (recovery : GeminiBatchRecoveryCandidate)
    (intent : GeminiBatchSettlementIntent) : Except Error Batch := do
  bailIf (recovery.jobId != intent.jobId
      || recovery.itemIndex != intent.itemIndex
      || recovery.requestId != intent.requestId
      || recovery.claimGeneration != intent.claimGeneration
      || recovery.profileId == "" || recovery.disposition != intent.disposition
      || recovery.terminalState != intent.terminalState
      || recovery.terminalClass != intent.terminalClass)
    "Gemini Batch recovery settlement mismatch"
  enqueueGeminiBatchSettlementInner b now none
    { jobId := recovery.jobId, accountId := recovery.accountId
      itemIndex := recovery.itemIndex, requestId := recovery.requestId
      claimGeneration := recovery.claimGeneration, leaseUntil := 0
      profileId := recovery.profileId }
    intent

/-! ## Applying -/

def charged (s : Store) (requestId : String) : Bool :=
  s.ledger.any (fun row => row.kind == .charge && row.requestId == some requestId)

def usageRecorded (b : Batch) (requestId : String) : Bool :=
  (b.usageEvents.find? requestId).isSome
    || b.store.usageEvents.any (·.requestId == requestId)

def SettlementRow.measured (row : SettlementRow) : Bool := row.disposition == .settle

def SettlementRow.shapeOk (row : SettlementRow) : Bool :=
  row.measured == (row.terminalState == .succeeded && row.resultKind == .response)

/-- `process_gemini_batch_settlement` on a settlement that is already
applied: everything it wrote is counted, nothing is written. -/
def confirmSettlement (b : Batch) (requestId : String) (row : SettlementRow)
    (item : BatchItem) (job : BatchJob) : Except Error (Option Int) := do
  bailIf (item.state != row.terminalState
      || item.settlementId != some requestId || item.terminalTs.isNone
      || !row.shapeOk)
    "Gemini Batch done replay terminal integrity mismatch"
  bailIf (charged b.store requestId != decide (0 < row.actualNano))
    "Gemini Batch done replay ledger integrity mismatch"
  bailIf (usageRecorded b requestId != row.measured
      || (b.calibrations.find? requestId).isSome != row.measured
      || row.measured != row.usage.isSome
      || row.measured != row.calibration.isSome)
    "Gemini Batch done replay evidence integrity mismatch"
  let account ← orFail (b.store.accounts.find? job.accountId)
    (.bail "query returned an unexpected number of rows")
  return some account.balanceNano

def checkMeasured (row : SettlementRow) (item : BatchItem) (job : BatchJob) :
    Except Error Unit := do
  let usage ← orFail row.usage (.bail "Gemini Batch settlement usage is missing")
  let calibration ← orFail row.calibration
    (.bail "Gemini Batch settlement calibration is missing")
  validateProviderTurnCalibrationEvent calibration
  let profileId ← orFail item.selectedProfileId
    (.bail "Gemini Batch settlement profile is missing")
  bailIf (calibration.subjectId != profileId
      || calibration.modelId != job.publicModel
      || calibration.tariffScheduleId == ""
      || calibration.completedAt != row.createdTs
      || calibration.inputTokens != usage.inputTokens
      || calibration.toolPromptTokens != usage.toolPromptTokens
      || calibration.audioInputTokens != usage.audioInputTokens
      || calibration.cacheReadTokens != usage.cachedInputTokens
      || calibration.cachedAudioInputTokens != usage.cachedAudioInputTokens
      || calibration.outputTokens != usage.outputTokens
      || calibration.thinkingOutputTokens != usage.thinkingOutputTokens
      || calibration.imageOutputTokens != usage.imageOutputTokens
      || calibration.searchQueries != usage.searchQueries
      || calibration.groundedSearchPrompts != usage.groundedSearchPrompts)
    "Gemini Batch settlement usage/calibration mismatch"

def checkEvidence (row : SettlementRow) (item : BatchItem) (job : BatchJob) :
    Except Error Unit := do
  bailIf (!row.shapeOk) "Gemini Batch settlement terminal shape is inconsistent"
  if row.measured then checkMeasured row item job
  else
    bailIf (row.usage.isSome || row.calibration.isSome)
      "Gemini Batch unmeasured settlement carries measured evidence"

def settleBatchKey (s : Store) (accountId keyId : String) (hold actual : Int) :
    Except Error Store := do
  let covered := fun key k => ownKey accountId keyId key k && decide (hold ≤ k.reservedNano)
  let rows := s.apiKeys.rows.filter (fun x => covered x.1 x.2)
  failIf (rows.any (fun x => decide (9223372036854775807 < x.2.spentNano + actual)))
    (.sql "22003")
  bailIf (rows.length != 1 && s.apiKeys.any (fun _ k => k.keyId == keyId))
    "Gemini Batch settlement key reservation mismatch"
  return { s with
    apiKeys := s.apiKeys.update covered (fun k =>
      { k with
        spentNano := k.spentNano + actual, reservedNano := k.reservedNano - hold }) }

def bookSettlement (s : Store) (ts : Int) (requestId : String)
    (row : SettlementRow) (item : BatchItem) (job : BatchJob) :
    Except Error (AccountCollection × Store) := do
  let collection ← collectAccountSettlementTx s job.accountId item.holdNano row.actualNano
  let s := { s with accounts := s.accounts.put job.accountId collection.account }
  let s ← settleBatchKey s job.accountId item.creatorKeyId item.holdNano row.actualNano
  if 0 < row.actualNano then do
    bailIf (charged s requestId)
      "Gemini Batch settlement ledger key survived with inconsistent replay"
    return (collection,
      { s with
        ledger := s.ledger ++
          [{ accountId := job.accountId, key := none, kind := .charge
             requestId := some requestId, amountNano := row.actualNano
             ref := none, balanceAfterNano := collection.account.balanceNano, ts
             model := some job.publicModel, provider := some "google"
             officialNano := some row.chargeBasisNano
             payableMultiplierBp := some item.payableMultiplierBp
             uncollectedNano := collection.uncollectedNano }] })
  else do
    bailIf (charged s requestId) "Gemini Batch zero settlement has a surviving ledger key"
    return (collection, s)

def checkedAdd (a b : Int) (overflow : String) : Except Error Int :=
  if a + b ≤ 9223372036854775807 then .ok (a + b) else .error (.bail overflow)

def recordMeasured (b : Batch) (ts : Int) (requestId : String)
    (row : SettlementRow) (item : BatchItem) (job : BatchJob)
    (collection : AccountCollection) : Except Error Batch :=
  match row.usage, row.calibration with
  | some usage, some calibration => do
      let usageInput ← checkedAdd usage.inputTokens usage.audioInputTokens
        "Gemini Batch usage input overflow"
      let usageCache ← checkedAdd usage.cachedInputTokens
        usage.cachedAudioInputTokens "Gemini Batch usage cache overflow"
      let usageOutput ← checkedAdd usage.outputTokens usage.imageOutputTokens
        "Gemini Batch usage output overflow"
      bailIf (usageRecorded b requestId)
        "Gemini Batch settlement usage key survived with inconsistent replay"
      validateProviderTurnCalibrationEvent calibration
      bailIf (b.calibrations.find? requestId).isSome
        "Gemini Batch settlement calibration already existed before APPLY"
      return { b with
        usageEvents := b.usageEvents.put requestId
          { accountId := job.accountId, keyId := item.creatorKeyId
            model := job.publicModel, inputTokens := usageInput
            outputTokens := usageOutput, cacheReadTokens := usageCache
            webSearchRequests := max usage.searchQueries usage.groundedSearchPrompts
            realNano := row.realNano, chargeNano := row.actualNano, ts
            payableMultiplierBp := item.payableMultiplierBp
            uncollectedNano := collection.uncollectedNano
            chargeBasisNano := row.chargeBasisNano }
        calibrations := b.calibrations.put requestId calibration }
  | _, _ => .ok b

def recordEvidence (b : Batch) (ts : Int) (requestId : String)
    (row : SettlementRow) (item : BatchItem) (job : BatchJob)
    (collection : AccountCollection) : Except Error Batch :=
  if row.measured then recordMeasured b ts requestId row item job collection
  else .ok b

def terminalClassOf : ItemState → TerminalClass
  | .succeeded => .success
  | .canceled => .canceled
  | .indeterminate => .indeterminate
  | _ => .expired

def BatchItem.settledAs (item : BatchItem) (row : SettlementRow) (ts : Int) :
    BatchItem :=
  { item with
    state := row.terminalState
    terminalClass := some (terminalClassOf row.terminalState)
    terminalTs := some ts, updatedTs := ts, usage := row.usage, worker := none
    selectedProfileId := none }

/-- `process_gemini_batch_settlement` from the item to the commit. -/
def terminalize (b : Batch) (ts : Int) (requestId : String)
    (row : SettlementRow) (item : BatchItem) (job : BatchJob) :
    Except Error Batch := do
  bailIf (!(item.state == .settlementPending
      && item.settlementId == some requestId))
    "Gemini Batch settlement item terminalization failed"
  let b ← b.setItem (row.jobId, row.itemIndex) (item.settledAs row ts)
  let profileId ← orFail item.selectedProfileId
    (.bail "Gemini Batch settlement profile is missing")
  let w ← orFail item.worker (.bail "Gemini Batch settlement worker is missing")
  let (deleted, leases) ← deleteGeminiBatchProfileLease b.leases
    { jobId := row.jobId, accountId := job.accountId, itemIndex := row.itemIndex
      requestId, claimGeneration := item.claimGeneration, leaseUntil := 0
      profileId } w.owner
  bailIf (deleted != 1) "Gemini Batch settlement profile lease is missing"
  failIf (decide (ts < row.createdTs)) (.sql "23514")
  completeJobIfTerminal
    { b with
      leases
      outbox := b.outbox.put requestId
        { row with state := .done, committedTs := some ts, updatedTs := ts } }
    row.jobId ts

/-- `process_gemini_batch_settlement`; the balance after it, `none` when
there is nothing to settle under the id. -/
def processGeminiBatchSettlement (b : Batch) (ts : Int) (requestId : String) :
    Except Error (Option Int × Batch) :=
  match b.outbox.find? requestId with
  | none => .ok (none, b)
  | some row =>
    match (b.items.find? (row.jobId, row.itemIndex)).filter
        (·.requestId == requestId), b.jobs.find? row.jobId with
    | some item, some job =>
      if row.state = .done then do
        let balance ← confirmSettlement b requestId row item job
        return (balance, b)
      else do
        bailIf (row.state != .pending) "Gemini Batch settlement outbox state is inconsistent"
        checkEvidence row item job
        let (collection, store) ← bookSettlement b.store ts requestId row item job
        let b ← recordEvidence { b with store } ts requestId row item job collection
        let b ← terminalize b ts requestId row item job
        return (some collection.account.balanceNano, b)
    | _, _ => .ok (none, b)

def retryBackoffSeconds (attempts : Int) : Int := 2 ^ (max 0 (min attempts 8)).toNat

/-- The failure arm of `drain_gemini_batch_settlements`. -/
def recordSettlementFailure (b : Batch) (ts : Int) (requestId : String)
    (err : Error) : Batch :=
  match b.outbox.find? requestId with
  | none => b
  | some row =>
    if row.state = .done then b
    else
      let permanent := classifyFailure err = .permanent
      { b with
        outbox := b.outbox.put requestId
          { row with
            state := if permanent then .failed else .pending
            attempts := row.attempts + 1, lastErrorClass := some err
            nextAttemptTs := if permanent then 0 else ts + retryBackoffSeconds row.attempts
            updatedTs := ts } }

def geminiBatchDelete (b : Batch) (ts : Int) (accountId jobId : String) :
    Except Error (Bool × Batch) :=
  match (b.jobs.find? jobId).filter (fun job =>
      job.accountId == accountId && job.completedTs.isSome) with
  | none => .ok (false, b)
  | some job =>
    if b.items.any (fun key item => key.1 == jobId && !item.state.isTerminal)
        || b.outbox.any (fun _ row => row.jobId == jobId && row.state != .done) then
      .ok (false, b)
    else do
      let b ← b.setJob jobId
        { job with
          deleteTs := some (job.deleteTs.getD ts), updateTs := max job.updateTs ts }
      return (true, b)

/-- The job update that ends `finalize_gemini_batch_output`. -/
def finalizeGeminiBatchOutput (b : Batch) (completedTs : Int) (jobId : String) :
    Except Error Batch :=
  match (b.jobs.find? jobId).filter (fun job =>
      job.inputKind == .file && job.terminalItemsTs.isSome && job.completedTs.isNone) with
  | none => .ok b
  | some job =>
    b.setJob jobId
      { job with
        completedTs := some completedTs
        resultExpirationTs := some (saturatingAdd completedTs batchResultRetentionSecs)
        updateTs := completedTs }

end ApiToken.Gemini
