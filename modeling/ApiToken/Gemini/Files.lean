import ApiToken.Gemini.Authority

/-!
# Files

The file calls of `pg/gemini_batch.rs`: a client declares a file, uploads it
chunk by chunk, completes it and deletes its payload. A call locks the row
of its file first, so it is one step. `sha256` is the hash of the manifest.
-/

namespace ApiToken.Gemini

open Registry

/-! ## Creating -/

structure GeminiBatchFileCreate where
  fileId : String
  accountId : String
  displayName : String
  mimeType : String
  sizeBytes : Int
  sha256Digest : Digest
  sourceKind : SourceKind
  createTs : Int
  expirationTs : Int

def validateFileCreate (create : GeminiBatchFileCreate) : Except Error Unit :=
  bailIf (create.fileId == "" || create.accountId == ""
      || decide (512 < create.displayName.utf8ByteSize)
      || create.mimeType == "" || decide (255 < create.mimeType.utf8ByteSize)
      || !(decide (0 ≤ create.sizeBytes) && decide (create.sizeBytes ≤ maxBatchFileBytes))
      || decide (create.createTs ≤ 0)
      || decide (create.expirationTs < create.createTs))
    "invalid Gemini Batch file create"

inductive GeminiBatchFileCreateOutcome where
  | created | replay | unavailable | rejectedQuota

def BatchFile.declares (f : BatchFile) (create : GeminiBatchFileCreate) : Bool :=
  f.displayName == create.displayName && f.mimeType == create.mimeType
    && f.sizeBytes == create.sizeBytes && f.sha256Digest == create.sha256Digest
    && f.sourceKind == create.sourceKind && f.createTs == create.createTs
    && f.expirationTs == create.expirationTs

def storedBytes (a : Authority) (accountId : String) (ts : Int)
    (but : Option String) : Int :=
  a.files.sumBy (fun fileId f =>
    if f.accountId = accountId ∧ ts < f.expirationTs ∧ f.payloadDeletedTs = none
        ∧ some fileId ≠ but then f.sizeBytes else 0)

def GeminiBatchFileCreate.row (create : GeminiBatchFileCreate) : BatchFile :=
  { accountId := create.accountId, displayName := create.displayName
    mimeType := create.mimeType, sizeBytes := create.sizeBytes
    sha256Digest := create.sha256Digest, sourceKind := create.sourceKind
    state := .processing, storageKind := .chunked, createTs := create.createTs
    updateTs := create.createTs, expirationTs := create.expirationTs
    receivedBytes := 0, nextChunkIndex := 0, chunkCount := 0
    chunkManifestDigest := none, completedTs := none, payloadDeletedTs := none }

def geminiBatchFileCreate (a : Authority) (now : Int)
    (create : GeminiBatchFileCreate) :
    Except Error (GeminiBatchFileCreateOutcome × Authority) := do
  validateFileCreate create
  if (a.batch.store.accounts.find? create.accountId).isNone then
    return (.unavailable, a)
  else match a.files.find? create.fileId with
    | some f =>
      if f.accountId = create.accountId ∧ f.declares create = true then
        return (.replay, a)
      else return (.unavailable, a)
    | none =>
      if maxBatchAccountFileBytes
          < storedBytes a create.accountId now none + create.sizeBytes then
        return (.rejectedQuota, a)
      else do
        let a ← a.setFile create.fileId create.row
        return (.created, a)

/-! ## Uploading -/

structure GeminiBatchFileProgress where
  receivedBytes : Int
  nextChunkIndex : Int
  chunkCount : Int
  sizeBytes : Int
  active : Bool

def BatchFile.progress (f : BatchFile) : GeminiBatchFileProgress :=
  { receivedBytes := f.receivedBytes, nextChunkIndex := f.nextChunkIndex
    chunkCount := f.chunkCount, sizeBytes := f.sizeBytes
    active := f.state == .active }

inductive GeminiBatchFileAppendOutcome where
  | appended (progress : GeminiBatchFileProgress)
  | offsetConflict (progress : GeminiBatchFileProgress)
  | unavailable

def Authority.fileOf (a : Authority) (accountId fileId : String) : Option BatchFile :=
  (a.files.find? fileId).filter (·.accountId == accountId)

def BatchFile.appended (f : BatchFile) (chunk : GeminiBatchFileChunk) : BatchFile :=
  { f with
    receivedBytes := f.receivedBytes + chunk.plaintextLen
    nextChunkIndex := f.nextChunkIndex + 1, chunkCount := f.nextChunkIndex + 1
    updateTs := max f.updateTs chunk.createdTs }

def geminiBatchFileAppendChunkAt (a : Authority) (accountId fileId : String)
    (expectedOffset : Int) (chunk : GeminiBatchFileChunk) :
    Except Error (GeminiBatchFileAppendOutcome × Authority) := do
  chunk.validate
  match a.fileOf accountId fileId with
  | none => return (.unavailable, a)
  | some f =>
    if f.state ≠ .processing ∨ f.storageKind ≠ .chunked
        ∨ expectedOffset ≠ f.receivedBytes
        ∨ chunk.chunkIndex ≠ f.nextChunkIndex then
      return (.offsetConflict f.progress, a)
    else do
      bailIf (decide (chunk.createdTs < f.createTs)) "Gemini Batch file chunk predates its file"
      let nextReceived ← checkedAdd f.receivedBytes chunk.plaintextLen
        "Gemini Batch file size overflow"
      bailIf (decide (f.sizeBytes < nextReceived)) "Gemini Batch file chunks exceed declared size"
      bailIf (decide (nextReceived < f.sizeBytes)
          && chunk.plaintextLen != maxBatchFileChunkBytes)
        "Gemini Batch non-final upload chunk must be exactly 8 MiB"
      bailIf (decide (256 ≤ f.nextChunkIndex)) "Gemini Batch file has too many chunks"
      let a ← a.insertChunk fileId chunk
      let a ← a.setFile fileId (f.appended chunk)
      return (.appended (f.appended chunk).progress, a)

/-! ## Completing -/

def fileChunkManifestDomain : List UInt8 :=
  utf8 "apitoken:gemini-batch-file-chunks:v1\x00".toList

/-- `to_be_bytes` of a 64-bit integer. -/
def toBeBytes (n : Int) : List UInt8 :=
  [56, 48, 40, 32, 24, 16, 8, 0].map fun shift => UInt8.ofNat (n / 2 ^ shift % 256).toNat

def manifestEntry (chunk : GeminiBatchFileChunk) : List UInt8 :=
  toBeBytes chunk.chunkIndex ++ toBeBytes chunk.plaintextLen ++ chunk.plaintextDigest.val

def manifestDigest (sha256 : List UInt8 → Digest)
    (chunks : List GeminiBatchFileChunk) : Digest :=
  sha256 (fileChunkManifestDomain ++ toBeBytes chunks.length ++ chunks.flatMap manifestEntry)

/-- The chunks of a file, `ORDER BY chunk_index`. -/
def Authority.chunksOf (a : Authority) (fileId : String) :
    List GeminiBatchFileChunk :=
  (a.chunks.select (fun key _ => key.1 == fileId)
    (fun x y => decide (x.1.2 ≤ y.1.2)) a.chunks.rows.length).map Prod.snd

def totalOf (gap overflow : String) (chunks : List GeminiBatchFileChunk) :
    Except Error Int :=
  chunks.zipIdx.foldlM (fun total x => do
    bailIf (x.1.chunkIndex != x.2) gap
    checkedAdd total x.1.plaintextLen overflow) 0

structure GeminiBatchFileCompletion where
  completedTs : Int
  wholeFileSha256Digest : Digest
  chunkManifestDigest : Digest

def BatchFile.activated (f : BatchFile) (completion : GeminiBatchFileCompletion) :
    BatchFile :=
  { f with
    state := .active, sha256Digest := completion.wholeFileSha256Digest
    chunkManifestDigest := some completion.chunkManifestDigest
    completedTs := some completion.completedTs, updateTs := completion.completedTs }

def geminiBatchFileComplete (sha256 : List UInt8 → Digest) (a : Authority)
    (accountId fileId : String) (completion : GeminiBatchFileCompletion) :
    Except Error (Bool × Authority) := do
  bailIf (decide (completion.completedTs ≤ 0)) "invalid Gemini Batch file completion timestamp"
  match a.fileOf accountId fileId with
  | none => return (false, a)
  | some f =>
    let declared := f.sha256Digest
    bailIf (declared != .fill 0 && declared != completion.wholeFileSha256Digest)
      "Gemini Batch whole-file digest mismatch"
    if f.state = .active then return (true, a)
    else do
      bailIf (f.state != .processing
          || decide (completion.completedTs < f.createTs))
        "Gemini Batch file cannot be completed"
      let chunks := a.chunksOf fileId
      let total ← totalOf "Gemini Batch file chunks are not contiguous"
        "Gemini Batch file size overflow" chunks
      bailIf (manifestDigest sha256 chunks != completion.chunkManifestDigest)
        "Gemini Batch file chunk manifest mismatch"
      bailIf (total != f.sizeBytes) "Gemini Batch file size does not match its chunks"
      bailIf (declared != .fill 0 && chunks.length == 1
          && chunks.any (·.plaintextDigest != declared))
        "Gemini Batch single-chunk file digest mismatch"
      bailIf (f.receivedBytes != f.sizeBytes || f.chunkCount != f.nextChunkIndex)
        "Gemini Batch file completion CAS failed"
      let a ← a.setFile fileId (f.activated completion)
      return (true, a)

/-! ## Deleting -/

def BatchJob.needsFiles (job : BatchJob) (accountId : String) (ts : Int) : Bool :=
  job.accountId == accountId && job.deleteTs.isNone
    && (job.completedTs.isNone || job.resultExpirationTs.any (decide <| ts < ·))

def ItemColumns.names (item : ItemColumns) (fileId : String) : Bool :=
  item.inputFileId == some fileId || item.referencedFileIds.contains fileId

def fileReferenced (a : Authority) (accountId fileId : String) (ts : Int) : Bool :=
  a.jobColumns.any (fun jobId job =>
      (job.inputFileId == some fileId || job.outputFileId == some fileId)
        && (a.batch.jobs.find? jobId).any (·.needsFiles accountId ts))
    || a.itemColumns.any (fun key item => item.names fileId
      && (a.batch.jobs.find? key.1).any (·.needsFiles accountId ts))

def BatchFile.payloadDeleted (f : BatchFile) (ts : Int) : BatchFile :=
  { f with
    payloadDeletedTs := some ts, updateTs := max f.updateTs ts
    receivedBytes := 0, nextChunkIndex := 0, chunkCount := 0 }

def geminiBatchFileDelete (a : Authority) (ts : Int) (accountId fileId : String) :
    Except Error (Bool × Authority) :=
  match a.fileOf accountId fileId with
  | none => .ok (false, a)
  | some f =>
    if f.payloadDeletedTs.isSome then .ok (true, a)
    else do
      bailIf (fileReferenced a accountId fileId ts) "Gemini Batch file is referenced"
      let a ← (a.deleteChunks fileId).setFile fileId (f.payloadDeleted ts)
      return (true, a)

end ApiToken.Gemini
