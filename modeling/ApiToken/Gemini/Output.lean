import ApiToken.Gemini.Admission
import ApiToken.Gemini.Machine

/-!
# Output files and the whole authority

`pg/gemini_batch_output.rs`: when the items of a job with an input file are
terminal, a worker builds its output file, under a lease and in
generations, and completes the job with it. `AuthorityOp` is every call on
the authority, the batch calls of `BatchOp` among them.
-/

namespace ApiToken.Gemini

open Registry

/-! ## Opening an output -/

/-- `format!("batch-output-{job_id}")`. -/
def outputFileId (jobId : String) : String := "batch-output-" ++ jobId

def outputFile (accountId : String) (ts : Int) : BatchFile :=
  { accountId, displayName := "Gemini Batch output"
    mimeType := "application/jsonl", sizeBytes := 0, sha256Digest := .fill 0
    sourceKind := .batchOutput, state := .processing, storageKind := .chunked
    createTs := ts, updateTs := ts
    expirationTs := ts + batchResultRetentionSecs, receivedBytes := 0
    nextChunkIndex := 0, chunkCount := 0, chunkManifestDigest := none
    completedTs := none, payloadDeletedTs := none }

def OutputBuild.opened (build : Option OutputBuild) (jobId : String) (ts : Int) :
    OutputBuild :=
  match build with
  | none =>
    { fileId := outputFileId jobId, generation := 1, state := .pending
      owner := none, nextItemIndex := 0, nextChunkIndex := 0
      plaintextBytes := 0, createdTs := ts, updatedTs := ts
      lastErrorClass := none }
  | some build =>
    { build with
      state := if build.state = .ready then .ready else .pending
      updatedTs := max build.updatedTs ts }

/-- What `complete_job_if_terminal` writes beside the job when it closes a
job with an input file. -/
def openOutput (a : Authority) (jobId accountId : String) (ts : Int) : Authority :=
  { a with
    files :=
      if (a.files.find? (outputFileId jobId)).isSome then a.files
      else a.files.put (outputFileId jobId) (outputFile accountId ts)
    builds := a.builds.put jobId (.opened (a.builds.find? jobId) jobId ts)
    jobColumns := a.jobColumns.update (fun id _ => id == jobId)
      (fun job => { job with outputState := some .pending }) }

def closedJobs (before after : Batch) : List (String × String × Int) :=
  after.jobs.rows.filterMap fun (jobId, job) =>
    if job.inputKind = .file
        ∧ (before.jobs.find? jobId).all (·.terminalItemsTs.isNone) = true then
      job.terminalItemsTs.map fun ts => (jobId, job.accountId, ts)
    else none

/-- `gemini_batch_delete` also drops the admission of the job. -/
def dropAdmission (a : Authority) : BatchOp → Authority
  | .delete ts accountId jobId =>
    match geminiBatchDelete a.batch ts accountId jobId with
    | .ok (true, _) =>
      { a with
        admissions := a.admissions.delete (fun _ adm =>
          adm.accountId == accountId && adm.jobId == jobId && adm.state == .committed) }
    | _ => a
  | _ => a

def batchCall (a : Authority) (op : BatchOp) : Authority :=
  let batch := a.batch.exec op
  (closedJobs a.batch batch).foldl
    (fun a x => openOutput a x.1 x.2.1 x.2.2) { dropAdmission a op with batch }

/-! ## Building -/

structure GeminiBatchOutputClaim where
  jobId : String
  accountId : String
  fileId : String
  generation : Int
  nextItemIndex : Int
  nextChunkIndex : Int
  plaintextBytes : Int
  resultExpirationTs : Int

def Authority.setBuild (a : Authority) (jobId : String) (build : OutputBuild) :
    Except Error Authority := do
  failIf (decide (build.updatedTs < build.createdTs)
    || decide (build.nextItemIndex < 0) || decide (100000 < build.nextItemIndex))
    (.sql "23514")
  return { a with builds := a.builds.put jobId build }

/-- `SET output_state, update_ts` on a job. -/
def Authority.setOutputState (a : Authority) (jobId : String) (state : OutputState)
    (ts : Int) : Authority :=
  { a with
    batch := { a.batch with
      jobs := a.batch.jobs.update (fun id _ => id == jobId)
        (fun job => { job with updateTs := max job.updateTs ts }) }
    jobColumns := a.jobColumns.update (fun id _ => id == jobId)
      (fun job => { job with outputState := some state }) }

/-- `UPDATE gemini_batch_files … WHERE source_kind = 'batch_output'` and what
else the statement asks of the file. -/
def Authority.updateOutputFile (a : Authority) (fileId : String)
    (p : BatchFile → Bool) (g : BatchFile → BatchFile) : Except Error Authority :=
  match (a.files.find? fileId).filter (fun f => f.sourceKind == .batchOutput && p f) with
  | none => .ok a
  | some f => a.setFile fileId (g f)

def claimableBuild (a : Authority) (ts : Int) (locked : List String) (jobId : String)
    (build : OutputBuild) : Bool :=
  build.state != .ready && build.owner.all (decide <| ·.leaseUntil < ts)
    && !locked.contains jobId
    && (a.batch.jobs.find? jobId).any (fun job => job.inputKind == .file
      && job.terminalItemsTs.isSome && job.completedTs.isNone && job.deleteTs.isNone)
    && (a.jobColumns.find? jobId).any (fun job => job.outputState.any (· != .ready))

/-- `ORDER BY updated_ts, job_id`. -/
def buildOrder (x y : String × OutputBuild) : Bool :=
  decide (x.2.updatedTs < y.2.updatedTs)
    || (x.2.updatedTs == y.2.updatedTs && decide (x.1 ≤ y.1))

def BatchFile.resetOutput (f : BatchFile) (ts : Int) : BatchFile :=
  { f with
    sizeBytes := 0, receivedBytes := 0, nextChunkIndex := 0, chunkCount := 0
    chunkManifestDigest := none, completedTs := none, state := .processing
    updateTs := ts }

def OutputBuild.claimedBy (build : OutputBuild) (generation : Int) (owner : Owner)
    (leaseUntil ts : Int) : OutputBuild :=
  { build with
    generation, state := .building, owner := some { owner, leaseUntil }
    nextItemIndex := 0, nextChunkIndex := 0, plaintextBytes := 0, updatedTs := ts }

/-- `claim_gemini_batch_output`. `locked` are the jobs that other
transactions hold. -/
def claimGeminiBatchOutput (a : Authority) (ts : Int) (locked : List String)
    (owner : Owner) (leaseSecs : Int) :
    Except Error (Option GeminiBatchOutputClaim × Authority) := do
  let leaseUntil := saturatingAdd ts (max leaseSecs 1)
  assertOwner a.batch.store owner ts
  match (a.builds.select (claimableBuild a ts locked) buildOrder 1).head? with
  | none => return (none, a)
  | some (jobId, build) =>
    match a.batch.jobs.find? jobId with
    | none => return (none, a)
    | some job => do
        let a ← (a.deleteChunks build.fileId).updateOutputFile build.fileId
          (fun _ => true) (·.resetOutput ts)
        let generation ← checkedAdd build.generation 1 "output generation overflow"
        let a ← a.setBuild jobId (build.claimedBy generation owner leaseUntil ts)
        return (some
            { jobId, accountId := job.accountId, fileId := build.fileId, generation
              nextItemIndex := 0, nextChunkIndex := 0, plaintextBytes := 0
              resultExpirationTs := job.resultExpirationTs.getD
                (job.terminalItemsTs.getD 0 + batchResultRetentionSecs) },
          a.setOutputState jobId .building ts)

/-- `assert_output_fence`: the owner is live; does its claim still hold? -/
def assertOutputFence (a : Authority) (owner : Owner) (claim : GeminiBatchOutputClaim)
    (ts : Int) : Except Error Bool := do
  assertOwner a.batch.store owner ts
  return (a.builds.find? claim.jobId).any (fun build =>
      build.fileId == claim.fileId && build.generation == claim.generation
        && build.owner.any (fun w => w.owner == owner && decide (ts ≤ w.leaseUntil))
        && build.state == .building)
    && (a.batch.jobs.find? claim.jobId).any (fun job =>
      job.accountId == claim.accountId && job.completedTs.isNone && job.terminalItemsTs.isSome)
    && (a.jobColumns.find? claim.jobId).any (·.outputState == some .building)

def fencedBuild (a : Authority) (owner : Owner) (claim : GeminiBatchOutputClaim)
    (ts : Int) : Except Error (Option OutputBuild) := do
  let fenced ← assertOutputFence a owner claim ts
  return if fenced then a.builds.find? claim.jobId else none

def renewGeminiBatchOutput (a : Authority) (ts : Int) (owner : Owner)
    (claim : GeminiBatchOutputClaim) (leaseSecs : Int) :
    Except Error (Bool × Authority) := do
  let leaseUntil := saturatingAdd ts (max leaseSecs 1)
  match ← fencedBuild a owner claim ts with
  | none => return (false, a)
  | some build => do
      let a ← a.setBuild claim.jobId
        { build with owner := some { owner, leaseUntil }, updatedTs := ts }
      return (true, a)

def GeminiBatchFileChunk.sameAs (stored chunk : GeminiBatchFileChunk) : Bool :=
  stored.keyId == chunk.keyId && stored.nonce == chunk.nonce
    && stored.ciphertext == chunk.ciphertext
    && stored.plaintextLen == chunk.plaintextLen
    && stored.plaintextDigest == chunk.plaintextDigest

def BatchFile.grown (f : BatchFile) (newBytes nextChunkIndex ts : Int) : BatchFile :=
  { f with
    sizeBytes := newBytes, receivedBytes := newBytes, nextChunkIndex
    chunkCount := nextChunkIndex, updateTs := max f.updateTs ts }

def OutputBuild.checkpoint (build : OutputBuild) (nextItemIndex newBytes ts : Int) :
    OutputBuild :=
  { build with
    nextItemIndex, nextChunkIndex := build.nextChunkIndex + 1
    plaintextBytes := newBytes, updatedTs := ts }

def appendGeminiBatchOutputChunk (a : Authority) (ts : Int) (owner : Owner)
    (claim : GeminiBatchOutputClaim) (nextItemIndex : Int)
    (chunk : GeminiBatchFileChunk) : Except Error (Bool × Authority) := do
  chunk.validate
  match ← fencedBuild a owner claim ts with
  | none => return (false, a)
  | some build =>
    if chunk.chunkIndex < build.nextChunkIndex then
      return ((a.chunks.find? (claim.fileId, chunk.chunkIndex)).any (·.sameAs chunk)
        && decide (nextItemIndex ≤ build.nextItemIndex), a)
    else do
      bailIf (chunk.chunkIndex != build.nextChunkIndex
          || decide (nextItemIndex < build.nextItemIndex))
        "non-contiguous Gemini Batch output checkpoint"
      let newBytes ← checkedAdd build.plaintextBytes chunk.plaintextLen "output size overflow"
      bailIf (decide (maxBatchFileBytes < newBytes))
        "Gemini Batch output exceeds the 2 GiB file limit"
      bailIf (a.batch.store.accounts.find? claim.accountId).isNone
        "query returned an unexpected number of rows"
      bailIf (decide (maxBatchAccountFileBytes
          < storedBytes a claim.accountId ts (some claim.fileId) + newBytes))
        "Gemini Batch account output storage quota exceeded"
      let a ← a.insertChunk claim.fileId chunk
      let a ← a.updateOutputFile claim.fileId (·.state == .processing)
        (·.grown newBytes (build.nextChunkIndex + 1) ts)
      let a ← a.setBuild claim.jobId (build.checkpoint nextItemIndex newBytes ts)
      return (true, a)

def failGeminiBatchOutput (a : Authority) (ts : Int) (owner : Owner)
    (claim : GeminiBatchOutputClaim) (errorClass : String) :
    Except Error (Bool × Authority) := do
  bailIf (errorClass == "" || decide (128 < errorClass.utf8ByteSize))
    "invalid output failure class"
  match ← fencedBuild a owner claim ts with
  | none => return (false, a)
  | some build => do
      let a ← a.setBuild claim.jobId
        { build with
          state := .failed, owner := none, lastErrorClass := some errorClass
          updatedTs := ts }
      return (true, a.setOutputState claim.jobId .failed ts)

/-! ## Finalizing -/

/-- `SELECT COUNT(*)` of the items of a job. -/
def itemCount (b : Batch) (jobId : String) : Int :=
  ((b.items.rows.filter (fun x => x.1.1 == jobId)).length : Int)

def BatchFile.outputActivated (f : BatchFile) (completion : GeminiBatchFileCompletion)
    (completed expiry : Int) : BatchFile :=
  { f with
    state := .active, sha256Digest := completion.wholeFileSha256Digest
    chunkManifestDigest := some completion.chunkManifestDigest
    completedTs := some completed, expirationTs := max f.expirationTs expiry
    updateTs := completed }

def OutputBuild.finalized (build : OutputBuild) (completed : Int) : OutputBuild :=
  { build with
    state := .ready, owner := none, updatedTs := completed, lastErrorClass := none }

/-- The job update of `finalize_gemini_batch_output`, which leaves a job with
an output file alone. -/
def linkOutput (a : Authority) (jobId fileId : String) (completed : Int) :
    Except Error Authority :=
  match (a.jobColumns.find? jobId).filter (·.outputFileId.isNone) with
  | none => .ok a
  | some job => do
      let batch ← Gemini.finalizeGeminiBatchOutput a.batch completed jobId
      return { a with
        batch
        jobColumns := a.jobColumns.put jobId
          { job with outputFileId := some fileId, outputState := some .ready } }

/-- `finalize_gemini_batch_output`. -/
def finalizeOutput (sha256 : List UInt8 → Digest) (a : Authority) (ts : Int)
    (owner : Owner) (claim : GeminiBatchOutputClaim)
    (completion : GeminiBatchFileCompletion) : Except Error (Bool × Authority) := do
  match ← fencedBuild a owner claim ts with
  | none => return (false, a)
  | some build => do
      bailIf (build.nextItemIndex != itemCount a.batch claim.jobId)
        "Gemini Batch output does not cover all items"
      let chunks := a.chunksOf claim.fileId
      bailIf (decide ((chunks.length : Int) ≠ build.nextChunkIndex))
        "Gemini Batch output chunk count mismatch"
      let total ← totalOf "output chunks are non-contiguous" "output size overflow" chunks
      bailIf (total != build.plaintextBytes
          || manifestDigest sha256 chunks != completion.chunkManifestDigest)
        "output manifest mismatch"
      let completed := max completion.completedTs ts
      let expiry := saturatingAdd completed batchResultRetentionSecs
      let a ← a.updateOutputFile claim.fileId (·.state == .processing)
        (·.outputActivated completion completed expiry)
      let a ← linkOutput a claim.jobId claim.fileId completed
      let a ← a.setBuild claim.jobId (build.finalized completed)
      return (true, a)

/-! ## The calls -/

/-- A call of its own: publishing and the job update of a finished output are
parts of the calls below. -/
def BatchOp.whole : BatchOp → Bool
  | .publish _ | .finalizeOutput _ _ => false
  | _ => true

/-- The calls. Each carries its readings of the clock. -/
inductive AuthorityOp where
  | call (op : BatchOp) (whole : op.whole = true)
  | fileCreate (now : Int) (create : GeminiBatchFileCreate)
  | fileAppend (accountId fileId : String) (expectedOffset : Int)
      (chunk : GeminiBatchFileChunk)
  | fileComplete (accountId fileId : String) (completion : GeminiBatchFileCompletion)
  | fileDelete (ts : Int) (accountId fileId : String)
  | create (now : Int) (create : GeminiBatchCreate) (creatorKey : String)
  | admissionBegin (now : Int) (start : GeminiBatchAdmissionBegin)
  | admissionAppend (now : Int) (admissionId : String) (expectedStart : Int)
      (items : List GeminiBatchAdmissionItem)
  | admissionPublish (now : Int) (admissionId : String) (expectedItems : Int)
      (canonicalRequestDigest : Digest) (creatorKey : String)
  | admissionAbort (now : Int) (admissionId : String)
  | outputClaim (ts : Int) (locked : List String) (owner : Owner) (leaseSecs : Int)
  | outputRenew (ts : Int) (owner : Owner) (claim : GeminiBatchOutputClaim)
      (leaseSecs : Int)
  | outputAppend (ts : Int) (owner : Owner) (claim : GeminiBatchOutputClaim)
      (nextItemIndex : Int) (chunk : GeminiBatchFileChunk)
  | outputFail (ts : Int) (owner : Owner) (claim : GeminiBatchOutputClaim)
      (errorClass : String)
  | outputFinalize (ts : Int) (owner : Owner) (claim : GeminiBatchOutputClaim)
      (completion : GeminiBatchFileCompletion)

/-- The state a call leaves: an error is a rollback. -/
def Authority.after {α : Type} (a : Authority) :
    Except Error (α × Authority) → Authority
  | .ok x => x.2
  | .error _ => a

/-- One call. -/
def Authority.exec (sha256 : List UInt8 → Digest) (a : Authority) :
    AuthorityOp → Authority
  | .call op _ => batchCall a op
  | .fileCreate now create => a.after (geminiBatchFileCreate a now create)
  | .fileAppend accountId fileId expectedOffset chunk =>
    a.after (geminiBatchFileAppendChunkAt a accountId fileId expectedOffset chunk)
  | .fileComplete accountId fileId completion =>
    a.after (geminiBatchFileComplete sha256 a accountId fileId completion)
  | .fileDelete ts accountId fileId => a.after (geminiBatchFileDelete a ts accountId fileId)
  | .create now create creatorKey => a.after (geminiBatchCreate a now create creatorKey)
  | .admissionBegin now start => a.after (geminiBatchAdmissionBegin a now start)
  | .admissionAppend now admissionId expectedStart items =>
    a.after (geminiBatchAdmissionAppend a now admissionId expectedStart items)
  | .admissionPublish now admissionId expectedItems digest creatorKey =>
    a.after (geminiBatchAdmissionPublish a now admissionId expectedItems digest creatorKey)
  | .admissionAbort now admissionId => a.after (geminiBatchAdmissionAbort a now admissionId)
  | .outputClaim ts locked owner leaseSecs =>
    a.after (claimGeminiBatchOutput a ts locked owner leaseSecs)
  | .outputRenew ts owner claim leaseSecs =>
    a.after (renewGeminiBatchOutput a ts owner claim leaseSecs)
  | .outputAppend ts owner claim nextItemIndex chunk =>
    a.after (appendGeminiBatchOutputChunk a ts owner claim nextItemIndex chunk)
  | .outputFail ts owner claim errorClass =>
    a.after (failGeminiBatchOutput a ts owner claim errorClass)
  | .outputFinalize ts owner claim completion =>
    a.after (finalizeOutput sha256 a ts owner claim completion)

end ApiToken.Gemini
