import ApiToken.Registry.Leader

/-!
# The Gemini Batch schema

The rows of `migrations_pg/0055` to `0060` that claims, settlement and
recovery read or write, over the billing authority. A job has items; a
worker claims an item together with one of the slots of a provider profile,
and the slot's lease stays with the item until the item is settled.

The leases of a profile live in three tables: slot 1, slot 2 and the extra
slots 3 to 20.
-/

namespace ApiToken.Gemini

open Registry

inductive ItemState where
  | queued | claimed | dispatching | settlementPending
  | succeeded | failed | indeterminate | canceled
deriving DecidableEq

def ItemState.isTerminal : ItemState → Bool
  | .succeeded | .failed | .indeterminate | .canceled => true
  | _ => false

def ItemState.owned : ItemState → Bool
  | .claimed | .dispatching | .settlementPending => true
  | _ => false

inductive TerminalClass where
  | success | clientError | quota | auth | timeout | transport
  | upstreamError | protocolError | indeterminate | canceled | expired
deriving DecidableEq

inductive SendEvidence where
  | notSent | sent | ambiguous
deriving DecidableEq

/-- `worker_instance`, `worker_epoch` and `lease_until`, which are null
together. -/
structure Worker where
  owner : Owner
  leaseUntil : Int

structure GeminiBatchUsage where
  inputTokens : Int
  toolPromptTokens : Int
  audioInputTokens : Int
  cachedInputTokens : Int
  cachedAudioInputTokens : Int
  outputTokens : Int
  thinkingOutputTokens : Int
  imageOutputTokens : Int
  searchQueries : Int
  groundedSearchPrompts : Int
deriving DecidableEq

/-- `gemini_batch_items`, keyed by job and index. -/
structure BatchItem where
  requestId : String
  holdNano : Int
  payableMultiplierBp : Int
  creatorKeyId : String
  state : ItemState
  terminalClass : Option TerminalClass
  nextAttemptTs : Int
  worker : Option Worker
  claimGeneration : Int
  selectedProfileId : Option String
  dispatchIntentTs : Option Int
  actualSendTs : Option Int
  actualSendEvidence : Option SendEvidence
  attemptCount : Int
  usage : Option GeminiBatchUsage
  settlementId : Option String
  createdTs : Int
  updatedTs : Int
  terminalTs : Option Int

inductive InputKind where
  | inline | file
deriving DecidableEq

/-- `gemini_batch_jobs`, keyed by job id. -/
structure BatchJob where
  accountId : String
  creatorKeyId : String
  publicModel : String
  inputKind : InputKind
  cancelRequestedTs : Option Int
  terminalItemsTs : Option Int
  completedTs : Option Int
  deleteTs : Option Int
  resultExpirationTs : Option Int
  createTs : Int
  updateTs : Int
  deadlineTs : Int

structure ProfileLease where
  jobId : String
  itemIndex : Int
  worker : Owner
  claimGeneration : Int
  leaseUntil : Int
  createdTs : Int
  updatedTs : Int

structure LeaseId where
  profileId : String
  jobId : String
  itemIndex : Int
  worker : Owner
  claimGeneration : Int
deriving DecidableEq

def ProfileLease.id (l : ProfileLease) (profileId : String) : LeaseId :=
  { profileId, jobId := l.jobId, itemIndex := l.itemIndex, worker := l.worker
    claimGeneration := l.claimGeneration }

def LeaseId.item (id : LeaseId) : String × Int := (id.jobId, id.itemIndex)

inductive BlobKind where
  | request | metadata | result | error
deriving DecidableEq

structure GeminiBatchEncryptedBlob where
  kind : BlobKind
  keyId : String
  nonce : List UInt8
  ciphertext : List UInt8
  plaintextLen : Int
  plaintextDigest : List UInt8
  retentionTs : Int
deriving DecidableEq

def GeminiBatchEncryptedBlob.validate (blob : GeminiBatchEncryptedBlob)
    (created : Int) : Except Error Unit :=
  bailIf (blob.keyId == "" || decide (128 < blob.keyId.utf8ByteSize)
      || blob.nonce.length != 24
      || decide ((blob.ciphertext.length : Int) ≠ blob.plaintextLen + 16)
      || decide (blob.plaintextLen < 0) || decide (blob.retentionTs < created))
    "invalid Gemini Batch encrypted blob"

/-- `gemini_batch_blobs`: the blob and when it was stored. -/
structure StoredBlob where
  blob : GeminiBatchEncryptedBlob
  createdTs : Int
deriving DecidableEq

structure ProviderTurnCalibrationEvent where
  provider : String
  requestId : String
  subjectId : String
  modelId : String
  serviceTier : String
  inferenceGeo : String
  tariffScheduleId : String
  pricedTs : Int
  completedAt : Int
  inputTokens : Int
  audioInputTokens : Int
  cacheReadTokens : Int
  cachedAudioInputTokens : Int
  cacheWrite5mTokens : Int
  cacheWrite1hTokens : Int
  outputTokens : Int
  thinkingOutputTokens : Int
  imageOutputTokens : Int
  toolPromptTokens : Int
  searchQueries : Int
  groundedSearchPrompts : Int
  apiInputNanousd : Int
  apiAudioInputNanousd : Int
  apiCacheReadNanousd : Int
  apiCachedAudioInputNanousd : Int
  apiCacheWrite5mNanousd : Int
  apiCacheWrite1hNanousd : Int
  apiOutputNanousd : Int
  apiImageOutputNanousd : Int
  apiSearchNanousd : Int
  apiTotalNanousd : Int
deriving DecidableEq

def validateProviderTurnCalibrationEvent (e : ProviderTurnCalibrationEvent) :
    Except Error Unit :=
  let tokenLegs := [e.inputTokens, e.audioInputTokens, e.cacheReadTokens,
    e.cachedAudioInputTokens, e.cacheWrite5mTokens, e.cacheWrite1hTokens,
    e.outputTokens, e.thinkingOutputTokens, e.imageOutputTokens,
    e.toolPromptTokens, e.searchQueries, e.groundedSearchPrompts]
  let costLegs := [e.apiInputNanousd, e.apiAudioInputNanousd,
    e.apiCacheReadNanousd, e.apiCachedAudioInputNanousd,
    e.apiCacheWrite5mNanousd, e.apiCacheWrite1hNanousd, e.apiOutputNanousd,
    e.apiImageOutputNanousd, e.apiSearchNanousd]
  bailIf (!(e.provider == "anthropic" || e.provider == "google")
      || e.requestId == "" || e.subjectId == "" || e.modelId == ""
      || !(e.serviceTier == "standard" || e.serviceTier == "fast")
      || !(e.inferenceGeo == "global" || e.inferenceGeo == "us")
      || e.tariffScheduleId == "" || decide (e.pricedTs ≤ 0)
      || decide (e.completedAt ≤ 0) || tokenLegs.any (decide <| · < 0)
      || tokenLegs.all (· == 0) || costLegs.any (decide <| · < 0)
      || decide (e.apiTotalNanousd ≤ 0) || costLegs.sum != e.apiTotalNanousd
      || decide (e.cacheReadTokens < e.cachedAudioInputTokens)
      || decide (e.outputTokens < e.thinkingOutputTokens)
      || decide (e.inputTokens < e.toolPromptTokens))
    "invalid provider turn calibration event"

/-- `GeminiBatchSettlementDisposition`. -/
inductive Disposition where
  | settle | cancel | indeterminate | expire
deriving DecidableEq

inductive ResultKind where
  | response | error
deriving DecidableEq

inductive OutboxState where
  | pending | done | failed
deriving DecidableEq

/-- `gemini_batch_settlement_outbox`, keyed by request id. -/
structure SettlementRow where
  jobId : String
  itemIndex : Int
  disposition : Disposition
  actualNano : Int
  chargeBasisNano : Int
  realNano : Int
  usage : Option GeminiBatchUsage
  resultKind : ResultKind
  terminalState : ItemState
  state : OutboxState
  attempts : Int
  nextAttemptTs : Int
  lastErrorClass : Option Error
  createdTs : Int
  updatedTs : Int
  committedTs : Option Int
  calibration : Option ProviderTurnCalibrationEvent

/-- The rows of `usage_events` that batches write, keyed by request id. -/
structure BatchUsageEvent where
  accountId : String
  keyId : String
  model : String
  inputTokens : Int
  outputTokens : Int
  cacheReadTokens : Int
  webSearchRequests : Int
  realNano : Int
  chargeNano : Int
  ts : Int
  payableMultiplierBp : Int
  uncollectedNano : Int
  chargeBasisNano : Int

/-- `gemini_batch_profile_leases`, `…_slot2` and `…_extra`. The extra slots
are keyed by profile and slot number. -/
structure LeaseTables where
  slot1 : Table String ProfileLease
  slot2 : Table String ProfileLease
  extra : Table (String × Int) ProfileLease

/-- The batch authority over the billing authority. Calibration events are
the ones of the `google` provider, keyed by request id. -/
structure Batch where
  store : Store
  leaderLeases : Table String LeaderLease
  jobs : Table String BatchJob
  items : Table (String × Int) BatchItem
  blobs : Table (String × Int × BlobKind) StoredBlob
  leases : LeaseTables
  outbox : Table String SettlementRow
  usageEvents : Table String BatchUsageEvent
  calibrations : Table String ProviderTurnCalibrationEvent

structure GeminiBatchClaim where
  jobId : String
  accountId : String
  itemIndex : Int
  requestId : String
  claimGeneration : Int
  leaseUntil : Int
  profileId : String

def GeminiBatchClaim.item (claim : GeminiBatchClaim) : String × Int :=
  (claim.jobId, claim.itemIndex)

def GeminiBatchClaim.lease (claim : GeminiBatchClaim) (worker : Owner) : LeaseId :=
  { profileId := claim.profileId, jobId := claim.jobId
    itemIndex := claim.itemIndex, worker
    claimGeneration := claim.claimGeneration }

def BatchItem.lease? (item : BatchItem) (key : String × Int) : Option LeaseId :=
  match item.selectedProfileId, item.worker with
  | some profileId, some w =>
    some { profileId, jobId := key.1, itemIndex := key.2, worker := w.owner
           claimGeneration := item.claimGeneration }
  | _, _ => none

/-! ## Writes under the row checks -/

/-- `SET` on an item: the row's `CHECK`s on its timestamps. -/
def Batch.setItem (b : Batch) (key : String × Int) (item : BatchItem) :
    Except Error Batch := do
  failIf (decide (item.updatedTs < item.createdTs)
    || item.terminalTs.any (decide <| · < item.createdTs)) (.sql "23514")
  return { b with items := b.items.put key item }

/-- The `CHECK`s of a job on its timestamps. -/
def BatchJob.checked (job : BatchJob) : Bool :=
  decide (job.createTs ≤ job.updateTs)
    && job.cancelRequestedTs.all (decide <| job.createTs ≤ ·)
    && job.terminalItemsTs.all (decide <| job.createTs ≤ ·)
    && job.completedTs.all (decide <| job.createTs ≤ ·)
    && job.deleteTs.all (decide <| job.createTs ≤ ·)

def Batch.setJob (b : Batch) (jobId : String) (job : BatchJob) :
    Except Error Batch := do
  failIf (!job.checked) (.sql "23514")
  return { b with jobs := b.jobs.put jobId job }

/-! ## Publishing -/

structure CreateItem where
  itemIndex : Int
  requestId : String
  payableMultiplierBp : Int
  requestBlob : GeminiBatchEncryptedBlob
  metadataBlob : Option GeminiBatchEncryptedBlob

/-- A new job. -/
structure BatchCreate where
  jobId : String
  accountId : String
  creatorKeyId : String
  publicModel : String
  inputKind : InputKind
  createTs : Int
  deadlineTs : Int
  items : List CreateItem

def CreateItem.validate (item : CreateItem) (created : Int) :
    Except Error Unit := do
  bailIf (decide (item.itemIndex < 0) || item.requestId == ""
      || !(decide (0 ≤ item.payableMultiplierBp) && decide (item.payableMultiplierBp ≤ 10000)))
    "invalid Gemini Batch create item"
  bailIf (item.requestBlob.kind != .request) "invalid request blob kind"
  item.requestBlob.validate created
  match item.metadataBlob with
  | none => pure ()
  | some blob => do
      bailIf (blob.kind != .metadata) "invalid metadata blob kind"
      blob.validate created

def insertItem (create : BatchCreate) (b : Batch) (item : CreateItem) :
    Except Error Batch := do
  item.validate create.createTs
  failIf ((b.items.find? (create.jobId, item.itemIndex)).isSome
    || b.items.any (fun _ i => i.requestId == item.requestId)) (.sql "23505")
  let blobs := (item.requestBlob :: item.metadataBlob.toList).foldl
    (fun blobs blob => blobs.put (create.jobId, item.itemIndex, blob.kind)
      { blob, createdTs := create.createTs }) b.blobs
  return { b with
    blobs
    items := b.items.put (create.jobId, item.itemIndex)
      { requestId := item.requestId, holdNano := 0
        payableMultiplierBp := item.payableMultiplierBp
        creatorKeyId := create.creatorKeyId, state := .queued
        terminalClass := none, nextAttemptTs := 0, worker := none
        claimGeneration := 0, selectedProfileId := none
        dispatchIntentTs := none, actualSendTs := none
        actualSendEvidence := none, attemptCount := 0, usage := none
        settlementId := none, createdTs := create.createTs
        updatedTs := create.createTs, terminalTs := none } }

/-- The inserts that end `gemini_batch_create` and
`gemini_batch_admission_publish`: the job and its queued items. -/
def publish (b : Batch) (create : BatchCreate) : Except Error Batch := do
  failIf (create.jobId == "" || decide (create.createTs ≤ 0)
    || decide (create.deadlineTs ≤ create.createTs)) (.sql "23514")
  failIf (b.jobs.find? create.jobId).isSome (.sql "23505")
  let b := { b with
    jobs := b.jobs.put create.jobId
      { accountId := create.accountId, creatorKeyId := create.creatorKeyId
        publicModel := create.publicModel, inputKind := create.inputKind
        cancelRequestedTs := none, terminalItemsTs := none, completedTs := none
        deleteTs := none, resultExpirationTs := none
        createTs := create.createTs, updateTs := create.createTs
        deadlineTs := create.deadlineTs } }
  create.items.foldlM (insertItem create) b

/-- No job, no lease, no settlement over any billing authority. -/
def Batch.fresh (store : Store) : Batch :=
  { store, leaderLeases := .empty, jobs := .empty, items := .empty
    blobs := .empty
    leases := { slot1 := .empty, slot2 := .empty, extra := .empty }
    outbox := .empty, usageEvents := .empty, calibrations := .empty }

end ApiToken.Gemini
