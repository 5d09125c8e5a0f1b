import ApiToken.Lib.Text
import ApiToken.Gemini.Settlement

/-!
# The batch authority with its files

`migrations_pg/0055` to `0060` around the batch tables: the files of an
account and their chunks, batches that are staged before they are
published, and the builds of output files. `Authority` puts them beside
`Batch`. The columns of jobs and items that only these parts read are
tables of their own, under the same keys.
-/

namespace ApiToken.Gemini

open Registry

/-- A `bytea` column of 32 bytes. -/
def Digest : Type := { bytes : List UInt8 // bytes.length = 32 }

instance : DecidableEq Digest := inferInstanceAs (DecidableEq (Subtype _))

/-- `[byte; 32]`. -/
def Digest.fill (byte : UInt8) : Digest :=
  ⟨List.replicate 32 byte, List.length_replicate⟩

/-! ## Limits -/

/-- `MAX_BATCH_FILE_CHUNK_BYTES`: 8 MiB. -/
def maxBatchFileChunkBytes : Int := 8 * 1024 * 1024

/-- `MAX_BATCH_FILE_BYTES`: 2 GiB. -/
def maxBatchFileBytes : Int := 2 * 1024 * 1024 * 1024

/-- `MAX_BATCH_ACCOUNT_FILE_BYTES`: 20 GiB. -/
def maxBatchAccountFileBytes : Int := 20 * 1024 * 1024 * 1024

def maxBatchReferencedFileBytes : Int := maxBatchFileBytes

def maxBatchNonterminalJobs : Nat := 100

def maxBatchItems : Int := 100000

def maxBatchAdmissionPageSize : Nat := 128

def maxBatchOutputBytesPerToken : Int := 64

def maxBatchOutputItemOverheadBytes : Int := 1024

/-! ## Files -/

inductive SourceKind where
  | clientUpload | batchOutput
deriving DecidableEq

inductive FileState where
  | processing | active | failed
deriving DecidableEq

inductive StorageKind where
  | inlineLegacy | chunked
deriving DecidableEq

/-- `gemini_batch_files`, keyed by file id. -/
structure BatchFile where
  accountId : String
  displayName : String
  mimeType : String
  sizeBytes : Int
  sha256Digest : Digest
  sourceKind : SourceKind
  state : FileState
  storageKind : StorageKind
  createTs : Int
  updateTs : Int
  expirationTs : Int
  receivedBytes : Int
  nextChunkIndex : Int
  chunkCount : Int
  chunkManifestDigest : Option Digest
  completedTs : Option Int
  payloadDeletedTs : Option Int

def BatchFile.checked (f : BatchFile) : Bool :=
  decide (0 < f.createTs) && decide (f.createTs ≤ f.updateTs)
    && decide (f.createTs ≤ f.expirationTs) && decide (0 ≤ f.receivedBytes)
    && decide (f.receivedBytes ≤ f.sizeBytes) && decide (0 ≤ f.nextChunkIndex)
    && f.chunkCount == f.nextChunkIndex
    && f.completedTs.all (decide <| f.createTs ≤ ·)
    && f.payloadDeletedTs.all (decide <| f.createTs ≤ ·)

/-- `GeminiBatchFileChunk`, and the row of `gemini_batch_file_chunks`, which
is keyed by file and index. -/
structure GeminiBatchFileChunk where
  chunkIndex : Int
  keyId : String
  nonce : List UInt8
  ciphertext : List UInt8
  plaintextLen : Int
  plaintextDigest : Digest
  createdTs : Int
deriving DecidableEq

def GeminiBatchFileChunk.validate (chunk : GeminiBatchFileChunk) :
    Except Error Unit :=
  bailIf (decide (chunk.chunkIndex < 0) || chunk.keyId == ""
      || chunk.nonce.length != 24
      || !(decide (0 ≤ chunk.plaintextLen)
        && decide (chunk.plaintextLen ≤ maxBatchFileChunkBytes))
      || decide ((chunk.ciphertext.length : Int) ≠ chunk.plaintextLen + 16)
      || decide (chunk.createdTs ≤ 0))
    "invalid file chunk"

/-! ## Staged batches -/

structure GeminiBatchCreateItem where
  itemIndex : Int
  requestId : String
  logicalRequestId : String
  executionGroupId : String
  clientKey : Option String
  requestDigest : Digest
  inputFileId : Option String
  referencedFileIds : List String
  holdNano : Int
  payableMultiplierBp : Int
  pricedTs : Int
  tariffFamily : String
  tariffVersion : Int
  tariffScheduleId : String
  requestBlob : GeminiBatchEncryptedBlob
  metadataBlob : Option GeminiBatchEncryptedBlob
deriving DecidableEq

/-- What `gemini_batch_items` and `gemini_batch_blobs` store of it. -/
def GeminiBatchCreateItem.toCreateItem (item : GeminiBatchCreateItem) : CreateItem :=
  { itemIndex := item.itemIndex, requestId := item.requestId
    payableMultiplierBp := item.payableMultiplierBp
    requestBlob := item.requestBlob, metadataBlob := item.metadataBlob }

def GeminiBatchCreateItem.validate (item : GeminiBatchCreateItem) (created : Int) :
    Except Error Unit := do
  bailIf (decide (item.itemIndex < 0) || item.requestId == ""
      || item.logicalRequestId == "" || item.executionGroupId == ""
      || item.clientKey.any (decide <| 512 < ·.utf8ByteSize)
      || decide (item.holdNano < 0)
      || !(decide (0 ≤ item.payableMultiplierBp) && decide (item.payableMultiplierBp ≤ 10000))
      || decide (item.pricedTs ≤ 0) || item.tariffFamily == ""
      || decide (item.tariffVersion ≤ 0) || item.tariffScheduleId == "")
    "invalid Gemini Batch create item"
  bailIf (item.requestBlob.kind != .request) "invalid request blob kind"
  item.requestBlob.validate created
  match item.metadataBlob with
  | none => pure ()
  | some blob => do
      bailIf (blob.kind != .metadata) "invalid metadata blob kind"
      blob.validate created

/-- `GeminiBatchAdmissionItem`, and the row of
`gemini_batch_admission_items` with its `…_item_files`, keyed by admission
and index. -/
structure GeminiBatchAdmissionItem where
  item : GeminiBatchCreateItem
  requestedOutputTokens : Int
deriving DecidableEq

def GeminiBatchAdmissionItem.validate (staged : GeminiBatchAdmissionItem)
    (created : Int) : Except Error Unit := do
  staged.item.validate created
  bailIf (decide (staged.requestedOutputTokens ≤ 0))
    "invalid Gemini Batch requested output tokens"

inductive AdmissionState where
  | staging | sealed | committed | aborted
deriving DecidableEq

/-- `gemini_batch_admissions`, keyed by admission id. -/
structure Admission where
  jobId : String
  accountId : String
  creatorKeyId : String
  publicModel : String
  displayName : String
  idempotencyDigest : Option Digest
  canonicalRequestDigest : Option Digest
  priority : Int
  inputKind : InputKind
  inputFileId : Option String
  schemaVersion : Int
  encryptionPolicyVersion : Int
  state : AdmissionState
  nextItemIndex : Int
  aggregateHoldNano : Int
  aggregateOutputTokens : Int
  createTs : Int
  deadlineTs : Int
  expiresTs : Int
  updateTs : Int

/-! ## Output builds -/

inductive BuildState where
  | pending | building | ready | failed
deriving DecidableEq

/-- `gemini_batch_output_builds`, keyed by job id. Owner, epoch and lease are
null together. -/
structure OutputBuild where
  fileId : String
  generation : Int
  state : BuildState
  owner : Option Worker
  nextItemIndex : Int
  nextChunkIndex : Int
  plaintextBytes : Int
  createdTs : Int
  updatedTs : Int
  lastErrorClass : Option String

inductive OutputState where
  | pending | building | ready | failed
deriving DecidableEq

/-! ## The authority -/

/-- The other columns of `gemini_batch_jobs`. -/
structure JobColumns where
  displayName : String
  canonicalRequestDigest : Digest
  idempotencyDigest : Option Digest
  priority : Int
  inputFileId : Option String
  outputFileId : Option String
  outputState : Option OutputState
  schemaVersion : Int
  encryptionPolicyVersion : Int

/-- The other columns of `gemini_batch_items`, and the item's rows of
`gemini_batch_item_files` in order. -/
structure ItemColumns where
  logicalRequestId : String
  executionGroupId : String
  clientKey : Option String
  requestDigest : Digest
  inputFileId : Option String
  referencedFileIds : List String
  pricedTs : Int
  tariffFamily : String
  tariffVersion : Int
  tariffScheduleId : String

def GeminiBatchCreateItem.columns (item : GeminiBatchCreateItem) : ItemColumns :=
  { logicalRequestId := item.logicalRequestId
    executionGroupId := item.executionGroupId, clientKey := item.clientKey
    requestDigest := item.requestDigest, inputFileId := item.inputFileId
    referencedFileIds := item.referencedFileIds, pricedTs := item.pricedTs
    tariffFamily := item.tariffFamily, tariffVersion := item.tariffVersion
    tariffScheduleId := item.tariffScheduleId }

structure Authority where
  batch : Batch
  jobColumns : Table String JobColumns
  itemColumns : Table (String × Int) ItemColumns
  files : Table String BatchFile
  chunks : Table (String × Int) GeminiBatchFileChunk
  admissions : Table String Admission
  staged : Table (String × Int) GeminiBatchAdmissionItem
  builds : Table String OutputBuild

def Authority.fresh (store : Store) : Authority :=
  { batch := Batch.fresh store, jobColumns := .empty, itemColumns := .empty
    files := .empty, chunks := .empty, admissions := .empty, staged := .empty
    builds := .empty }

def Authority.setFile (a : Authority) (fileId : String) (f : BatchFile) :
    Except Error Authority := do
  failIf (!f.checked) (.sql "23514")
  return { a with files := a.files.put fileId f }

/-- A row of `gemini_batch_file_chunks`. -/
def Authority.insertChunk (a : Authority) (fileId : String)
    (chunk : GeminiBatchFileChunk) : Except Error Authority := do
  failIf (decide (128 < chunk.keyId.utf8ByteSize)) (.sql "23514")
  failIf (a.chunks.find? (fileId, chunk.chunkIndex)).isSome (.sql "23505")
  failIf (a.files.find? fileId).isNone (.sql "23503")
  return { a with chunks := a.chunks.put (fileId, chunk.chunkIndex) chunk }

/-- `DELETE FROM gemini_batch_file_chunks WHERE file_id = …`. -/
def Authority.deleteChunks (a : Authority) (fileId : String) : Authority :=
  { a with chunks := a.chunks.delete (fun key _ => key.1 == fileId) }

end ApiToken.Gemini
