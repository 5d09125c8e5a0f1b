import ApiToken.Gemini.Files

/-!
# Admission

`gemini_batch_create` and `pg/gemini_batch_admission.rs`. A small batch is
created in one transaction. A large one is staged: it is begun, its items
are appended page by page, and one transaction publishes what is staged.
Begin runs under the advisory lock of the account and the idempotency
digest, append and publish lock the row of the admission, so every call is
one step.
-/

namespace ApiToken.Gemini

open Registry

/-- `GeminiBatchIdempotencyConflict`. -/
def idempotencyConflict : Error :=
  .bail "Gemini Batch idempotency digest replay conflict"

structure GeminiBatchCreate where
  jobId : String
  accountId : String
  creatorKeyId : String
  publicModel : String
  displayName : String
  canonicalRequestDigest : Digest
  idempotencyDigest : Option Digest
  priority : Int
  inputKind : InputKind
  inputFileId : Option String
  schemaVersion : Int
  encryptionPolicyVersion : Int
  createTs : Int
  deadlineTs : Int
  items : List GeminiBatchCreateItem

/-- `GeminiBatchCreate::validate`; the sum of the holds is not used. -/
def GeminiBatchCreate.validate (create : GeminiBatchCreate) : Except Error Int := do
  bailIf (create.jobId == "" || create.accountId == ""
      || create.creatorKeyId == "" || create.publicModel == ""
      || create.displayName == "" || decide (create.schemaVersion ≤ 0)
      || decide (create.encryptionPolicyVersion ≤ 0)
      || decide (create.createTs ≤ 0)
      || decide (create.deadlineTs ≤ create.createTs) || create.items.isEmpty
      || (create.inputKind == .file) != create.inputFileId.isSome)
    "invalid Gemini Batch create"
  create.items.zipIdx.foldlM (fun sum x => do
    x.1.validate create.createTs
    bailIf (x.1.itemIndex != x.2) "non-contiguous item index"
    checkedAdd sum x.1.holdNano "aggregate hold overflow") 0

def GeminiBatchCreate.fileIds (create : GeminiBatchCreate) : List String :=
  create.inputFileId.toList ++ create.items.filterMap (·.inputFileId)
    ++ create.items.flatMap (·.referencedFileIds)

inductive GeminiBatchCreateOutcome where
  | created (balanceNano : Int)
  | replay (jobId : String)
  | rejectedFunds
  | rejectedLimit

/-! ## The inserts -/

def ItemColumns.clashes (item : ItemColumns) (item' : GeminiBatchCreateItem) : Bool :=
  item.logicalRequestId == item'.logicalRequestId
    || item.executionGroupId == item'.executionGroupId

def insertItemColumns (jobId : String) (a : Authority)
    (item : GeminiBatchCreateItem) : Except Error Authority := do
  failIf (a.itemColumns.any (fun _ row => row.clashes item)
    || decide (¬ item.referencedFileIds.Nodup)) (.sql "23505")
  failIf ((item.inputFileId.toList ++ item.referencedFileIds).any
    (fun fileId => (a.files.find? fileId).isNone)) (.sql "23503")
  return { a with
    itemColumns := a.itemColumns.put (jobId, item.itemIndex) item.columns }

/-- The inserts of a job and its items, by `gemini_batch_create` and by
`gemini_batch_admission_publish`. -/
def insertBatch (a : Authority) (create : GeminiBatchCreate) :
    Except Error Authority := do
  failIf (create.inputFileId.any (fun fileId => (a.files.find? fileId).isNone)) (.sql "23503")
  let batch ← publish a.batch
    { jobId := create.jobId, accountId := create.accountId
      creatorKeyId := create.creatorKeyId, publicModel := create.publicModel
      inputKind := create.inputKind, createTs := create.createTs
      deadlineTs := create.deadlineTs
      items := create.items.map (·.toCreateItem) }
  create.items.foldlM (insertItemColumns create.jobId)
    { a with
      batch
      jobColumns := a.jobColumns.put create.jobId
        { displayName := create.displayName
          canonicalRequestDigest := create.canonicalRequestDigest
          idempotencyDigest := create.idempotencyDigest
          priority := create.priority, inputFileId := create.inputFileId
          outputFileId := none, outputState := none
          schemaVersion := create.schemaVersion
          encryptionPolicyVersion := create.encryptionPolicyVersion } }

def jobUnderDigest (a : Authority) (accountId : String) (digest : Digest) :
    Option (String × JobColumns) :=
  a.jobColumns.rows.find? (fun x => x.2.idempotencyDigest == some digest
    && (a.batch.jobs.find? x.1).any (·.accountId == accountId))

def keyOf (s : Store) (creatorKey accountId : String) : Option ApiKey :=
  (s.apiKeys.find? creatorKey).filter (·.accountId == accountId)

def keyAdmits (k : ApiKey) (now : Int) : Bool :=
  k.status == "active" && k.expiresTs.all (decide <| now < ·)
    && k.spendLimitNano.all (fun limit =>
      decide (k.spentNano + k.reservedNano ≤ 9223372036854775807)
        && decide (k.spentNano + k.reservedNano ≤ limit))

/-- `lock_active_account_without_hold` on a positive balance. -/
def positiveBalance (s : Store) (accountId : String) : Option Int :=
  ((s.accounts.find? accountId).filter (fun account =>
    account.status == "active" && decide (0 < account.balanceNano))).map (·.balanceNano)

/-- `SELECT COUNT(*)` of the jobs the account has open. -/
def activeJobs (a : Authority) (accountId : String) : Nat :=
  (a.batch.jobs.rows.filter (fun x => x.2.accountId == accountId
    && x.2.completedTs.isNone && x.2.deleteTs.isNone)).length

def BatchFile.available (f : BatchFile) (accountId : String) (now : Int) : Bool :=
  f.accountId == accountId && f.state == .active && decide (now < f.expirationTs)

def availableSize (a : Authority) (accountId : String) (now : Int)
    (fileId : String) : Option Int :=
  ((a.files.find? fileId).filter (·.available accountId now)).map (·.sizeBytes)

/-! ## Creating -/

def JobColumns.repeats (job : JobColumns) (row : BatchJob)
    (create : GeminiBatchCreate) : Bool :=
  row.accountId == create.accountId && row.creatorKeyId == create.creatorKeyId
    && job.canonicalRequestDigest == create.canonicalRequestDigest
    && job.idempotencyDigest == create.idempotencyDigest

/-- `gemini_batch_create` once no job answers it. -/
def createBatch (a : Authority) (now : Int) (create : GeminiBatchCreate)
    (key : ApiKey) : Except Error (GeminiBatchCreateOutcome × Authority) :=
  if maxBatchNonterminalJobs ≤ activeJobs a create.accountId then
    .ok (.rejectedLimit, a)
  else do
    let referencedSize ← create.fileIds.dedup.foldlM (fun sum fileId => do
      let size ← orFail (availableSize a create.accountId now fileId)
        (.bail "Gemini Batch referenced file is unavailable")
      checkedAdd sum size "Gemini Batch referenced file size overflow") 0
    if maxBatchReferencedFileBytes < referencedSize then return (.rejectedLimit, a)
    else if !keyAdmits key now then return (.rejectedFunds, a)
    else match positiveBalance a.batch.store create.accountId with
      | none => return (.rejectedFunds, a)
      | some balance => do
          let a ← insertBatch a create
          return (.created balance, a)

def geminiBatchCreate (a : Authority) (now : Int) (create : GeminiBatchCreate)
    (creatorKey : String) : Except Error (GeminiBatchCreateOutcome × Authority) := do
  let _ ← create.validate
  bailIf (creatorKey == "") "Gemini Batch creator key is empty"
  bailIf (a.batch.store.accounts.find? create.accountId).isNone
    "Gemini Batch account does not exist"
  match keyOf a.batch.store creatorKey create.accountId with
  | none => return (.rejectedFunds, a)
  | some key => do
      bailIf (key.keyId != create.creatorKeyId)
        "Gemini Batch creator_key_id does not match the raw key"
      match create.idempotencyDigest.bind (jobUnderDigest a create.accountId) with
      | some (jobId, job) => do
          failIf (job.canonicalRequestDigest != create.canonicalRequestDigest) idempotencyConflict
          return (.replay jobId, a)
      | none =>
        match a.batch.jobs.find? create.jobId, a.jobColumns.find? create.jobId with
        | some row, some job => do
            failIf (!job.repeats row create) idempotencyConflict
            return (.replay create.jobId, a)
        | _, _ => createBatch a now create key

/-! ## Begin -/

structure GeminiBatchAdmissionBegin where
  admissionId : String
  jobId : String
  accountId : String
  creatorKeyId : String
  publicModel : String
  displayName : String
  idempotencyDigest : Option Digest
  priority : Int
  inputKind : InputKind
  inputFileId : Option String
  schemaVersion : Int
  encryptionPolicyVersion : Int
  createTs : Int
  deadlineTs : Int
  expiresTs : Int

def GeminiBatchAdmissionBegin.validate (start : GeminiBatchAdmissionBegin) :
    Except Error Unit :=
  bailIf (start.admissionId == "" || start.jobId == "" || start.accountId == ""
      || start.creatorKeyId == "" || start.publicModel == ""
      || decide (255 < start.publicModel.utf8ByteSize)
      || start.displayName == "" || decide (512 < start.displayName.utf8ByteSize)
      || decide (start.schemaVersion ≤ 0)
      || decide (start.encryptionPolicyVersion ≤ 0)
      || decide (start.createTs ≤ 0)
      || decide (start.deadlineTs ≤ start.createTs)
      || decide (start.expiresTs ≤ start.createTs)
      || (start.inputKind == .file) != start.inputFileId.isSome)
    "invalid Gemini Batch admission begin"

inductive GeminiBatchAdmissionBeginOutcome where
  | started (admissionId jobId : String) (createTs deadlineTs expiresTs : Int)
      (nextItemIndex : Int)
  | replay (jobId : String) (canonicalRequestDigest : Digest)

def Admission.begunAs (adm : Admission) (start : GeminiBatchAdmissionBegin) : Bool :=
  adm.creatorKeyId == start.creatorKeyId && adm.publicModel == start.publicModel
    && adm.displayName == start.displayName && adm.priority == start.priority
    && adm.inputKind == start.inputKind && adm.inputFileId == start.inputFileId
    && adm.schemaVersion == start.schemaVersion
    && adm.encryptionPolicyVersion == start.encryptionPolicyVersion

def GeminiBatchAdmissionBegin.row (start : GeminiBatchAdmissionBegin) : Admission :=
  { jobId := start.jobId, accountId := start.accountId
    creatorKeyId := start.creatorKeyId, publicModel := start.publicModel
    displayName := start.displayName
    idempotencyDigest := start.idempotencyDigest, canonicalRequestDigest := none
    priority := start.priority, inputKind := start.inputKind
    inputFileId := start.inputFileId, schemaVersion := start.schemaVersion
    encryptionPolicyVersion := start.encryptionPolicyVersion, state := .staging
    nextItemIndex := 0, aggregateHoldNano := 0, aggregateOutputTokens := 0
    createTs := start.createTs, deadlineTs := start.deadlineTs
    expiresTs := start.expiresTs, updateTs := start.createTs }

/-- `DELETE FROM gemini_batch_admission_items WHERE admission_id = …`. -/
def Authority.deleteStaged (a : Authority) (admissionId : String) : Authority :=
  { a with staged := a.staged.delete (fun key _ => key.1 == admissionId) }

def Authority.setAdmission (a : Authority) (admissionId : String) (adm : Admission) :
    Except Error Authority := do
  failIf (decide (adm.updateTs < adm.createTs)
    || decide (adm.aggregateHoldNano < 0) || decide (adm.aggregateOutputTokens < 0))
    (.sql "23514")
  return { a with admissions := a.admissions.put admissionId adm }

/-- The staging starts again from zero. -/
def Admission.restarted (adm : Admission) (now : Int) : Admission :=
  { adm with
    nextItemIndex := 0, aggregateHoldNano := 0, aggregateOutputTokens := 0
    updateTs := now }

def beginAgain (a : Authority) (now : Int) (admissionId : String) (adm : Admission)
    (start : GeminiBatchAdmissionBegin) :
    Except Error (GeminiBatchAdmissionBeginOutcome × Authority) := do
  failIf (!adm.begunAs start) idempotencyConflict
  match adm.state with
  | .committed => do
      let job ← orFail (a.jobColumns.find? adm.jobId)
        (.bail "query returned an unexpected number of rows")
      return (.replay adm.jobId job.canonicalRequestDigest, a)
  | .staging => do
      let a ← (a.deleteStaged admissionId).setAdmission admissionId (adm.restarted now)
      return (.started admissionId adm.jobId adm.createTs adm.deadlineTs adm.expiresTs 0, a)
  | _ => throw idempotencyConflict

def beginNew (a : Authority) (start : GeminiBatchAdmissionBegin) :
    Except Error (GeminiBatchAdmissionBeginOutcome × Authority) := do
  failIf ((a.admissions.find? start.admissionId).isSome
    || a.admissions.any (fun _ adm => adm.jobId == start.jobId)) (.sql "23505")
  failIf ((a.batch.store.accounts.find? start.accountId).isNone
    || start.inputFileId.any (fun fileId => (a.files.find? fileId).isNone))
    (.sql "23503")
  return (.started start.admissionId start.jobId start.createTs
      start.deadlineTs start.expiresTs 0,
    { a with admissions := a.admissions.put start.admissionId start.row })

def geminiBatchAdmissionBegin (a : Authority) (now : Int)
    (start : GeminiBatchAdmissionBegin) :
    Except Error (GeminiBatchAdmissionBeginOutcome × Authority) := do
  start.validate
  match start.idempotencyDigest with
  | none => beginNew a start
  | some digest =>
    match jobUnderDigest a start.accountId digest with
    | some (jobId, job) => return (.replay jobId job.canonicalRequestDigest, a)
    | none =>
      match a.admissions.rows.filter (fun x => x.2.accountId == start.accountId
          && x.2.idempotencyDigest == some digest) with
      | [] => beginNew a start
      | [(admissionId, adm)] => beginAgain a now admissionId adm start
      | _ => throw (.bail "query returned an unexpected number of rows")

/-! ## Append -/

def GeminiBatchAdmissionItem.clashes (x y : GeminiBatchAdmissionItem) : Bool :=
  x.item.requestId == y.item.requestId
    || x.item.logicalRequestId == y.item.logicalRequestId
    || x.item.executionGroupId == y.item.executionGroupId

/-- One item of a page, after a page that has held `sums` so far. -/
def stageItem (admissionId : String) (createTs expectedStart : Int)
    (sums : Authority × Int × Int) (x : GeminiBatchAdmissionItem × Nat) :
    Except Error (Authority × Int × Int) := do
  let (a, pageHold, pageOutput) := sums
  let (staged, offset) := x
  staged.validate createTs
  bailIf (staged.item.itemIndex != expectedStart + offset)
    "Gemini Batch admission items are not contiguous"
  let pageHold ← checkedAdd pageHold staged.item.holdNano "Gemini Batch aggregate hold overflow"
  let pageOutput ← checkedAdd pageOutput staged.requestedOutputTokens
    "Gemini Batch aggregate output overflow"
  failIf ((a.staged.find? (admissionId, staged.item.itemIndex)).isSome
    || a.staged.any (fun _ row => row.clashes staged)
    || decide (¬ staged.item.referencedFileIds.Nodup)) (.sql "23505")
  failIf ((staged.item.inputFileId.toList ++ staged.item.referencedFileIds).any
    (fun fileId => (a.files.find? fileId).isNone)) (.sql "23503")
  return ({ a with
      staged := a.staged.put (admissionId, staged.item.itemIndex) staged },
    pageHold, pageOutput)

def Admission.appended (adm : Admission) (next hold output now : Int) : Admission :=
  { adm with
    nextItemIndex := next
    aggregateHoldNano := adm.aggregateHoldNano + hold
    aggregateOutputTokens := adm.aggregateOutputTokens + output
    updateTs := max adm.updateTs now }

def geminiBatchAdmissionAppend (a : Authority) (now : Int) (admissionId : String)
    (expectedStart : Int) (items : List GeminiBatchAdmissionItem) :
    Except Error (Int × Authority) := do
  bailIf (admissionId == "" || decide (expectedStart < 0) || items.isEmpty
      || decide (maxBatchAdmissionPageSize < items.length))
    "invalid Gemini Batch admission page"
  let adm ← orFail (a.admissions.find? admissionId)
    (.bail "Gemini Batch admission does not exist")
  bailIf (adm.state != .staging || adm.nextItemIndex != expectedStart)
    "Gemini Batch admission page is stale"
  let next ← checkedAdd expectedStart items.length "Gemini Batch item count overflow"
  bailIf (decide (maxBatchItems < next)) "Gemini Batch contains too many requests"
  let (a, pageHold, pageOutput) ←
    items.zipIdx.foldlM (stageItem admissionId adm.createTs expectedStart) (a, 0, 0)
  let a ← a.setAdmission admissionId (adm.appended next pageHold pageOutput now)
  return (next, a)

/-! ## Publish -/

/-- The staged items of an admission, `ORDER BY item_index`. -/
def Authority.stagedOf (a : Authority) (admissionId : String) :
    List GeminiBatchAdmissionItem :=
  (a.staged.select (fun key _ => key.1 == admissionId)
    (fun x y => decide (x.1.2 ≤ y.1.2)) a.staged.rows.length).map Prod.snd

def Admission.create (adm : Admission) (canonicalRequestDigest : Digest)
    (items : List GeminiBatchCreateItem) : GeminiBatchCreate :=
  { jobId := adm.jobId, accountId := adm.accountId
    creatorKeyId := adm.creatorKeyId, publicModel := adm.publicModel
    displayName := adm.displayName, canonicalRequestDigest
    idempotencyDigest := adm.idempotencyDigest, priority := adm.priority
    inputKind := adm.inputKind, inputFileId := adm.inputFileId
    schemaVersion := adm.schemaVersion
    encryptionPolicyVersion := adm.encryptionPolicyVersion
    createTs := adm.createTs, deadlineTs := adm.deadlineTs, items }

def Admission.committedAs (adm : Admission) (canonicalRequestDigest : Digest)
    (now : Int) : Admission :=
  { adm with
    state := .committed, canonicalRequestDigest := some canonicalRequestDigest
    updateTs := now }

def stagedAddsUp (adm : Admission) (items : List GeminiBatchAdmissionItem)
    (expectedItems : Int) : Bool :=
  (items.length : Int) == expectedItems
    && (items.map (·.item.holdNano)).sum == adm.aggregateHoldNano
    && (items.map (·.requestedOutputTokens)).sum == adm.aggregateOutputTokens
    && items.head?.map (·.item.itemIndex) == some 0
    && items.getLast?.map (·.item.itemIndex) == some (expectedItems - 1)

/-- `gemini_batch_admission_publish` once no job answers it. -/
def publishStaged (a : Authority) (now : Int) (admissionId : String)
    (adm : Admission) (create : GeminiBatchCreate) (creatorKey : String) :
    Except Error (GeminiBatchCreateOutcome × Authority) := do
  failIf (a.batch.jobs.find? adm.jobId).isSome idempotencyConflict
  bailIf (a.batch.store.accounts.find? adm.accountId).isNone "Gemini Batch account does not exist"
  match keyOf a.batch.store creatorKey adm.accountId with
  | none => return (.rejectedFunds, a)
  | some key => do
      bailIf (key.keyId != adm.creatorKeyId) "Gemini Batch creator key identity changed"
      if !keyAdmits key now then return (.rejectedFunds, a)
      else if maxBatchNonterminalJobs ≤ activeJobs a adm.accountId then
        return (.rejectedLimit, a)
      else match create.fileIds.dedup.mapM (availableSize a adm.accountId now) with
        | none => return (.rejectedLimit, a)
        | some sizes =>
          if maxBatchReferencedFileBytes < sizes.sum then return (.rejectedLimit, a)
          else match positiveBalance a.batch.store adm.accountId with
            | none => return (.rejectedFunds, a)
            | some balance => do
                let a ← insertBatch a create
                let a ← a.setAdmission admissionId
                  (adm.committedAs create.canonicalRequestDigest now)
                return (.created balance, a.deleteStaged admissionId)

/-- `gemini_batch_admission_publish` of a staged admission. -/
def publishAdmission (a : Authority) (now : Int) (admissionId : String)
    (adm : Admission) (expectedItems : Int) (canonicalRequestDigest : Digest)
    (creatorKey : String) : Except Error (GeminiBatchCreateOutcome × Authority) := do
  bailIf (adm.state != .staging || adm.nextItemIndex != expectedItems)
    "Gemini Batch admission is incomplete"
  let tokenBytes := adm.aggregateOutputTokens * maxBatchOutputBytesPerToken
  let outputBound ← checkedAdd tokenBytes
    (expectedItems * maxBatchOutputItemOverheadBytes)
    "Gemini Batch aggregate output bound overflow"
  if adm.inputKind = .file ∧ maxBatchFileBytes < outputBound then
    return (.rejectedLimit, a)
  else do
    let items := a.stagedOf admissionId
    bailIf (!stagedAddsUp adm items expectedItems) "Gemini Batch staged aggregate is invalid"
    match adm.idempotencyDigest.bind (jobUnderDigest a adm.accountId) with
    | some (jobId, job) => do
        failIf (job.canonicalRequestDigest != canonicalRequestDigest) idempotencyConflict
        let a ← a.setAdmission admissionId (adm.committedAs canonicalRequestDigest now)
        return (.replay jobId, a.deleteStaged admissionId)
    | none =>
      publishStaged a now admissionId adm
        (adm.create canonicalRequestDigest (items.map (·.item))) creatorKey

def geminiBatchAdmissionPublish (a : Authority) (now : Int) (admissionId : String)
    (expectedItems : Int) (canonicalRequestDigest : Digest) (creatorKey : String) :
    Except Error (GeminiBatchCreateOutcome × Authority) := do
  bailIf (admissionId == "" || creatorKey == ""
      || !(decide (1 ≤ expectedItems) && decide (expectedItems ≤ maxBatchItems)))
    "invalid Gemini Batch admission publish"
  let adm ← orFail (a.admissions.find? admissionId)
    (.bail "Gemini Batch admission does not exist")
  if adm.state = .committed then do
    let job ← orFail (((a.batch.jobs.find? adm.jobId).filter
      (·.accountId == adm.accountId)).bind (fun _ => a.jobColumns.find? adm.jobId))
      (.bail "query returned an unexpected number of rows")
    failIf (job.canonicalRequestDigest != canonicalRequestDigest) idempotencyConflict
    return (.replay adm.jobId, a)
  else
    publishAdmission a now admissionId adm expectedItems canonicalRequestDigest creatorKey

def geminiBatchAdmissionAbort (a : Authority) (now : Int) (admissionId : String) :
    Except Error (Bool × Authority) :=
  match (a.admissions.find? admissionId).filter (·.state == .staging) with
  | none => .ok (false, a)
  | some adm => do
      let a ← a.setAdmission admissionId { adm with state := .aborted, updateTs := now }
      return (true, a)

end ApiToken.Gemini
