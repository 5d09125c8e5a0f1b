import Mathlib.Data.List.Dedup
import ApiToken.Gemini.Output
import ApiToken.Gemini.Steps

/-!
# What a call on the authority writes

`Effect` says once, for every call, what it writes and under which checks.
A call that is refused or fails writes nothing. The invariants of files, of
staged batches and of output builds are case analyses over it, and do not
look at the calls again.
-/

namespace ApiToken.Gemini

open Registry

variable {fileId admissionId accountId creatorKey : String} {a' : Authority}
  {chunk : GeminiBatchFileChunk} {adm : Admission}
  {now ts sum expectedItems leaseSecs : Int} {completion : GeminiBatchFileCompletion}
  {answer : Bool} {fileIds : List String} {create : GeminiBatchCreate}
  {start : GeminiBatchAdmissionBegin} {items : List GeminiBatchAdmissionItem}
  {digest : Digest} {owner : Owner} {claim : GeminiBatchOutputClaim}

section Effect

variable (sha256 : List UInt8 → Digest)

inductive Effect (a : Authority) : AuthorityOp → Authority → Prop where
  | unchanged (op : AuthorityOp) : Effect a op a
  | call (op : BatchOp) (whole : op.whole = true) :
      Effect a (.call op whole) (batchCall a op)
  | fileCreate (now : Int) (create : GeminiBatchFileCreate)
      (valid : validateFileCreate create = .ok ())
      (absent : a.files.find? create.fileId = none) :
      Effect a (.fileCreate now create)
        { a with files := a.files.put create.fileId create.row }
  | fileAppend (accountId fileId : String) (offset : Int)
      (chunk : GeminiBatchFileChunk) (f : BatchFile)
      (valid : chunk.validate = .ok ())
      (find : a.fileOf accountId fileId = some f)
      (processing : f.state = .processing)
      (index : chunk.chunkIndex = f.nextChunkIndex)
      (fits : f.receivedBytes + chunk.plaintextLen ≤ f.sizeBytes)
      (full : f.receivedBytes + chunk.plaintextLen < f.sizeBytes →
        chunk.plaintextLen = maxBatchFileChunkBytes)
      (received : offset = f.receivedBytes) :
      Effect a (.fileAppend accountId fileId offset chunk)
        { a with
          chunks := a.chunks.put (fileId, chunk.chunkIndex) chunk
          files := a.files.put fileId (f.appended chunk) }
  | fileComplete (accountId fileId : String) (completion : GeminiBatchFileCompletion)
      (f : BatchFile) (find : a.fileOf accountId fileId = some f)
      (processing : f.state = .processing)
      (manifest : completion.chunkManifestDigest
        = manifestDigest sha256 (a.chunksOf fileId))
      (full : f.receivedBytes = f.sizeBytes) :
      Effect a (.fileComplete accountId fileId completion)
        { a with files := a.files.put fileId (f.activated completion) }
  | fileDelete (ts : Int) (accountId fileId : String) (f : BatchFile)
      (find : a.fileOf accountId fileId = some f)
      (kept : f.payloadDeletedTs = none)
      (unreferenced : fileReferenced a accountId fileId ts = false) :
      Effect a (.fileDelete ts accountId fileId)
        { a.deleteChunks fileId with
          files := a.files.put fileId (f.payloadDeleted ts) }
  | create (now : Int) (create : GeminiBatchCreate) (creatorKey : String)
      (a' : Authority) (items : create.items ≠ [])
      (available : ∀ fileId ∈ create.fileIds,
        (availableSize a create.accountId now fileId).isSome = true)
      (insert : insertBatch a create = .ok a')
      (unanswered : create.idempotencyDigest.bind (jobUnderDigest a create.accountId)
        = none) :
      Effect a (.create now create creatorKey) a'
  | beginNew (now : Int) (start : GeminiBatchAdmissionBegin)
      (absent : a.admissions.find? start.admissionId = none) :
      Effect a (.admissionBegin now start)
        { a with admissions := a.admissions.put start.admissionId start.row }
  | beginAgain (now : Int) (start : GeminiBatchAdmissionBegin)
      (admissionId : String) (adm : Admission)
      (find : a.admissions.find? admissionId = some adm)
      (staging : adm.state = .staging) :
      Effect a (.admissionBegin now start)
        { a.deleteStaged admissionId with
          admissions := a.admissions.put admissionId (adm.restarted now) }
  | append (now : Int) (admissionId : String) (expectedStart : Int)
      (items : List GeminiBatchAdmissionItem) (adm : Admission)
      (sums : Authority × Int × Int) (next : Int)
      (find : a.admissions.find? admissionId = some adm)
      (staging : adm.state = .staging) (start : adm.nextItemIndex = expectedStart)
      (stage : items.zipIdx.foldlM (stageItem admissionId adm.createTs expectedStart)
        (a, 0, 0) = .ok sums) :
      Effect a (.admissionAppend now admissionId expectedStart items)
        { sums.1 with
          admissions := sums.1.admissions.put admissionId
            (adm.appended next sums.2.1 sums.2.2 now) }
  | publish (now : Int) (admissionId : String) (expectedItems : Int)
      (digest : Digest) (creatorKey : String) (adm : Admission) (a' : Authority)
      (find : a.admissions.find? admissionId = some adm)
      (staging : adm.state = .staging)
      (items : a.stagedOf admissionId ≠ [])
      (available : ∀ fileId ∈ (adm.create digest
          ((a.stagedOf admissionId).map (·.item))).fileIds,
        (availableSize a adm.accountId now fileId).isSome = true)
      (insert : insertBatch a
        (adm.create digest ((a.stagedOf admissionId).map (·.item))) = .ok a')
      (unanswered : adm.idempotencyDigest.bind (jobUnderDigest a adm.accountId) = none) :
      Effect a (.admissionPublish now admissionId expectedItems digest creatorKey)
        { a'.deleteStaged admissionId with
          admissions := a'.admissions.put admissionId (adm.committedAs digest now) }
  | publishReplay (now : Int) (admissionId : String) (expectedItems : Int)
      (digest : Digest) (creatorKey : String) (adm : Admission)
      (find : a.admissions.find? admissionId = some adm)
      (staging : adm.state = .staging) :
      Effect a (.admissionPublish now admissionId expectedItems digest creatorKey)
        { a.deleteStaged admissionId with
          admissions := a.admissions.put admissionId (adm.committedAs digest now) }
  | abort (now : Int) (admissionId : String) (adm : Admission)
      (find : a.admissions.find? admissionId = some adm)
      (staging : adm.state = .staging) :
      Effect a (.admissionAbort now admissionId)
        { a with
          admissions := a.admissions.put admissionId
            { adm with state := .aborted, updateTs := now } }
  | outputClaim (ts : Int) (locked : List String) (owner : Owner) (leaseSecs : Int)
      (jobId : String) (build : OutputBuild) (generation leaseUntil : Int)
      (a' : Authority) (find : a.builds.find? jobId = some build)
      (claimable : claimableBuild a ts locked jobId build = true)
      (reset : (a.deleteChunks build.fileId).updateOutputFile build.fileId
        (fun _ => true) (·.resetOutput ts) = .ok a') :
      Effect a (.outputClaim ts locked owner leaseSecs)
        (Authority.setOutputState
          { a' with
            builds := a'.builds.put jobId
              (build.claimedBy generation owner leaseUntil ts) }
          jobId .building ts)
  | outputRenew (ts : Int) (owner : Owner) (claim : GeminiBatchOutputClaim)
      (leaseSecs leaseUntil : Int) (build : OutputBuild)
      (fence : fencedBuild a owner claim ts = .ok (some build)) :
      Effect a (.outputRenew ts owner claim leaseSecs)
        { a with
          builds := a.builds.put claim.jobId
            { build with owner := some { owner, leaseUntil }, updatedTs := ts } }
  | outputAppend (ts : Int) (owner : Owner) (claim : GeminiBatchOutputClaim)
      (nextItemIndex : Int) (chunk : GeminiBatchFileChunk) (build : OutputBuild)
      (a' : Authority) (valid : chunk.validate = .ok ())
      (fence : fencedBuild a owner claim ts = .ok (some build))
      (index : chunk.chunkIndex = build.nextChunkIndex)
      (absent : a.chunks.find? (claim.fileId, chunk.chunkIndex) = none)
      (grow : Authority.updateOutputFile
          { a with chunks := a.chunks.put (claim.fileId, chunk.chunkIndex) chunk }
          claim.fileId (·.state == .processing)
          (·.grown (build.plaintextBytes + chunk.plaintextLen)
            (build.nextChunkIndex + 1) ts) = .ok a') :
      Effect a (.outputAppend ts owner claim nextItemIndex chunk)
        { a' with
          builds := a'.builds.put claim.jobId (build.checkpoint nextItemIndex
            (build.plaintextBytes + chunk.plaintextLen) ts) }
  | outputFail (ts : Int) (owner : Owner) (claim : GeminiBatchOutputClaim)
      (errorClass : String) (build : OutputBuild)
      (fence : fencedBuild a owner claim ts = .ok (some build)) :
      Effect a (.outputFail ts owner claim errorClass)
        (Authority.setOutputState
          { a with
            builds := a.builds.put claim.jobId
              { build with
                state := .failed, owner := none
                lastErrorClass := some errorClass, updatedTs := ts } }
          claim.jobId .failed ts)
  | outputFinalize (ts : Int) (owner : Owner) (claim : GeminiBatchOutputClaim)
      (completion : GeminiBatchFileCompletion) (build : OutputBuild)
      (expiry : Int) (a₁ a₂ : Authority)
      (fence : fencedBuild a owner claim ts = .ok (some build))
      (covers : build.nextItemIndex = itemCount a.batch claim.jobId)
      (manifest : completion.chunkManifestDigest
        = manifestDigest sha256 (a.chunksOf claim.fileId))
      (activate : a.updateOutputFile claim.fileId (·.state == .processing)
        (·.outputActivated completion (max completion.completedTs ts) expiry) = .ok a₁)
      (link : linkOutput a₁ claim.jobId claim.fileId (max completion.completedTs ts)
        = .ok a₂) :
      Effect a (.outputFinalize ts owner claim completion)
        { a₂ with
          builds := a₂.builds.put claim.jobId
            (build.finalized (max completion.completedTs ts)) }

end Effect

/-! ## The calls write no more than this -/

section Calls

variable {sha256 : List UInt8 → Digest} {a : Authority}

theorem setFile_eq {f : BatchFile} (h : a.setFile fileId f = .ok a') :
    f.checked = true ∧ a' = { a with files := a.files.put fileId f } := by
  simp only [Authority.setFile, ok_steps, guard_iffs] at h
  exact ⟨h.1, h.2.symm⟩

theorem insertChunk_eq (h : a.insertChunk fileId chunk = .ok a') :
    a.chunks.find? (fileId, chunk.chunkIndex) = none ∧
      a' = { a with chunks := a.chunks.put (fileId, chunk.chunkIndex) chunk } := by
  simp only [Authority.insertChunk, ok_steps, isSome_eq_false_iff, isNone_iff_eq_none] at h
  exact ⟨h.2.1, h.2.2.2.symm⟩

theorem setAdmission_eq (h : a.setAdmission admissionId adm = .ok a') :
    a' = { a with admissions := a.admissions.put admissionId adm } := by
  simp only [Authority.setAdmission, ok_steps] at h
  exact h.2.symm

theorem setBuild_eq {jobId : String} {build : OutputBuild}
    (h : a.setBuild jobId build = .ok a') :
    a' = { a with builds := a.builds.put jobId build } := by
  simp only [Authority.setBuild, ok_steps] at h
  exact h.2.symm

theorem checkedAdd_eq {x y z : Int} {overflow : String}
    (h : checkedAdd x y overflow = .ok z) : z = x + y := by
  unfold checkedAdd at h
  split at h
  · exact (Except.ok.inj h).symm
  · cases h

theorem effect_after {α : Type} {op : AuthorityOp} {x : Except Error (α × Authority)}
    (h : ∀ answer a', x = .ok (answer, a') → Effect sha256 a op a') :
    Effect sha256 a op (a.after x) := by
  cases x with
  | error => exact .unchanged op
  | ok answer => exact h answer.1 answer.2 rfl

theorem fileCreate_effect {create : GeminiBatchFileCreate}
    {answer : GeminiBatchFileCreateOutcome}
    (h : geminiBatchFileCreate a now create = .ok (answer, a')) :
    Effect sha256 a (.fileCreate now create) a' := by
  simp only [geminiBatchFileCreate, ok_steps] at h
  obtain ⟨hvalid, h⟩ := h
  split at h
  · cases h
    exact .unchanged _
  · split at h
    · split at h <;> cases h <;> exact .unchanged _
    · rename_i habsent
      split at h
      · cases h
        exact .unchanged _
      · simp only [ok_steps] at h
        obtain ⟨a1, hset, -, rfl⟩ := h
        rw [(setFile_eq hset).2]
        exact .fileCreate now create hvalid habsent

theorem fileAppend_effect {offset : Int} {answer : GeminiBatchFileAppendOutcome}
    (h : geminiBatchFileAppendChunkAt a accountId fileId offset chunk = .ok (answer, a')) :
    Effect sha256 a (.fileAppend accountId fileId offset chunk) a' := by
  simp only [geminiBatchFileAppendChunkAt, ok_steps] at h
  obtain ⟨hvalid, h⟩ := h
  split at h
  · cases h
    exact .unchanged _
  · rename_i f hfind
    split at h
    · cases h
      exact .unchanged _
    · rename_i hready
      simp only [ne_eq, not_or, Decidable.not_not] at hready
      simp only [ok_steps, bailIf_eq_ok] at h
      obtain ⟨-, next, hnext, hfits, hfull, -, a1, hchunk, a2, hfile, -, rfl⟩ := h
      rw [checkedAdd_eq hnext] at hfits hfull
      obtain ⟨-, rfl⟩ := insertChunk_eq hchunk
      rw [(setFile_eq hfile).2]
      refine .fileAppend accountId fileId offset chunk f hvalid hfind hready.1
        hready.2.2.2 ?_ ?_ hready.2.2.1
      · simpa using hfits
      · intro hlt
        simpa [hlt] using hfull

theorem fileComplete_effect
    (h : geminiBatchFileComplete sha256 a accountId fileId completion = .ok (answer, a')) :
    Effect sha256 a (.fileComplete accountId fileId completion) a' := by
  simp only [geminiBatchFileComplete, ok_steps] at h
  obtain ⟨-, h⟩ := h
  split at h
  · cases h
    exact .unchanged _
  · rename_i f hfind
    simp only [ok_steps] at h
    obtain ⟨-, h⟩ := h
    split at h
    · cases h
      exact .unchanged _
    · simp only [ok_steps, bailIf_eq_ok, guard_iffs] at h
      obtain ⟨⟨hstate, -⟩, total, -, hmanifest, -, -, ⟨hfull, -⟩, a1, hset, -, rfl⟩ := h
      rw [(setFile_eq hset).2]
      exact .fileComplete accountId fileId completion f hfind hstate hmanifest.symm hfull

theorem fileDelete_effect
    (h : geminiBatchFileDelete a ts accountId fileId = .ok (answer, a')) :
    Effect sha256 a (.fileDelete ts accountId fileId) a' := by
  unfold geminiBatchFileDelete at h
  split at h
  · cases h
    exact .unchanged _
  · rename_i f hfind
    split at h
    · cases h
      exact .unchanged _
    · rename_i hkept
      simp only [ok_steps, bailIf_eq_ok] at h
      obtain ⟨hfree, a1, hset, -, rfl⟩ := h
      rw [(setFile_eq hset).2]
      exact .fileDelete ts accountId fileId f hfind (by simpa using hkept) hfree

theorem fold_available {size : Int} (h : fileIds.foldlM (fun sum fileId => do
      let size ← orFail (availableSize a accountId now fileId)
        (Error.bail "Gemini Batch referenced file is unavailable")
      checkedAdd sum size "Gemini Batch referenced file size overflow") sum = .ok size) :
    ∀ fileId ∈ fileIds, (availableSize a accountId now fileId).isSome = true := by
  induction fileIds generalizing sum with
  | nil => nofun
  | cons _ _ ih =>
    simp only [foldlM_cons, ok_steps] at h
    obtain ⟨sum', ⟨size', hsize, -⟩, hrest⟩ := h
    intro fileId' hmem
    rcases mem_cons.mp hmem with rfl | hmem
    · rw [hsize]
      rfl
    · exact ih hrest fileId' hmem

theorem mapM_available {sizes : List Int}
    (h : fileIds.mapM (availableSize a accountId now) = some sizes) :
    ∀ fileId ∈ fileIds, (availableSize a accountId now fileId).isSome = true := by
  induction fileIds generalizing sizes with
  | nil => nofun
  | cons _ _ ih =>
    simp only [mapM_cons, bind_eq_bind, bind_eq_some_iff] at h
    obtain ⟨size, hsize, sizes', hrest, -⟩ := h
    intro fileId' hmem
    rcases mem_cons.mp hmem with rfl | hmem
    · rw [hsize]
      rfl
    · exact ih hrest fileId' hmem

theorem validate_items (h : create.validate = .ok sum) : create.items ≠ [] := by
  simp only [GeminiBatchCreate.validate, ok_steps, bailIf_eq_ok, guard_iffs] at h
  intro hnil
  simp [hnil] at h

theorem create_effect {answer : GeminiBatchCreateOutcome}
    (h : geminiBatchCreate a now create creatorKey = .ok (answer, a')) :
    Effect sha256 a (.create now create creatorKey) a' := by
  simp only [geminiBatchCreate, ok_steps] at h
  obtain ⟨sum, hvalid, -, -, h⟩ := h
  split at h
  · cases h
    exact .unchanged _
  · simp only [ok_steps] at h
    obtain ⟨-, h⟩ := h
    split at h
    · simp only [ok_steps] at h
      rw [← h.2.2]
      exact .unchanged _
    · rename_i hunanswered
      split at h
      · simp only [ok_steps] at h
        rw [← h.2.2]
        exact .unchanged _
      · unfold createBatch at h
        split at h
        · cases h
          exact .unchanged _
        · simp only [bind_eq_ok] at h
          obtain ⟨size, hsize, h⟩ := h
          split at h
          · cases h
            exact .unchanged _
          · split at h
            · cases h
              exact .unchanged _
            · split at h
              · cases h
                exact .unchanged _
              · simp only [ok_steps] at h
                obtain ⟨a1, hinsert, -, rfl⟩ := h
                refine .create now create creatorKey a1 (validate_items hvalid) ?_ hinsert
                  hunanswered
                intro fileId hmem
                exact fold_available hsize fileId (List.mem_dedup.mpr hmem)

theorem beginNew_effect {answer : GeminiBatchAdmissionBeginOutcome}
    (h : beginNew a start = .ok (answer, a')) :
    Effect sha256 a (.admissionBegin now start) a' := by
  simp only [beginNew, ok_steps, guard_iffs, isSome_eq_false_iff, isNone_iff_eq_none] at h
  obtain ⟨⟨habsent, -⟩, -, -, rfl⟩ := h
  exact .beginNew now start habsent

theorem begin_effect {answer : GeminiBatchAdmissionBeginOutcome}
    (h : geminiBatchAdmissionBegin a now start = .ok (answer, a')) :
    Effect sha256 a (.admissionBegin now start) a' := by
  simp only [geminiBatchAdmissionBegin, ok_steps] at h
  obtain ⟨-, h⟩ := h
  split at h
  · exact beginNew_effect h
  · split at h
    · cases h
      exact .unchanged _
    · split at h
      · exact beginNew_effect h
      · rename_i admissionId adm hrows
        have hmem : (admissionId, adm) ∈ a.admissions.rows := by
          have hone : (admissionId, adm) ∈ [(admissionId, adm)] := mem_singleton.mpr rfl
          rw [← hrows] at hone
          exact (mem_filter.mp hone).1
        simp only [beginAgain, ok_steps] at h
        obtain ⟨-, h⟩ := h
        split at h
        · simp only [ok_steps] at h
          obtain ⟨job, -, -, rfl⟩ := h
          exact .unchanged _
        · rename_i hstate
          simp only [ok_steps] at h
          obtain ⟨a1, hset, -, rfl⟩ := h
          rw [setAdmission_eq hset]
          exact .beginAgain now start admissionId adm (find?_eq_some_iff.mpr hmem) hstate
        · cases h
      · cases h

theorem append_effect {expectedStart : Int} {answer : Int}
    (h : geminiBatchAdmissionAppend a now admissionId expectedStart items = .ok (answer, a')) :
    Effect sha256 a (.admissionAppend now admissionId expectedStart items) a' := by
  simp only [geminiBatchAdmissionAppend, bind_eq_ok, exists_unit, orFail_eq_ok, bailIf_eq_ok,
    guard_iffs] at h
  obtain ⟨-, adm, hfind, ⟨hstate, hnext⟩, next, -, -, sums, hstage, h⟩ := h
  simp only [pure_eq_ok, Prod.mk.injEq] at h
  obtain ⟨a1, hset, -, rfl⟩ := h
  rw [setAdmission_eq hset]
  exact .append now admissionId expectedStart items adm sums next hfind hstate hnext hstage

theorem stagedAddsUp_items (h : stagedAddsUp adm items expectedItems = true) : items ≠ [] := by
  intro hnil
  simp [stagedAddsUp, hnil] at h

theorem publishStaged_effect {answer : GeminiBatchCreateOutcome}
    (hfind : a.admissions.find? admissionId = some adm) (hstate : adm.state = .staging)
    (hitems : a.stagedOf admissionId ≠ [])
    (hunanswered : adm.idempotencyDigest.bind (jobUnderDigest a adm.accountId) = none)
    (h : publishStaged a now admissionId adm
      (adm.create digest ((a.stagedOf admissionId).map (·.item))) creatorKey
      = .ok (answer, a')) :
    Effect sha256 a (.admissionPublish now admissionId expectedItems digest creatorKey) a' := by
  simp only [publishStaged, ok_steps] at h
  obtain ⟨-, -, h⟩ := h
  split at h
  · cases h
    exact .unchanged _
  · simp only [ok_steps] at h
    obtain ⟨-, h⟩ := h
    split at h
    · cases h
      exact .unchanged _
    · split at h
      · cases h
        exact .unchanged _
      · split at h
        · cases h
          exact .unchanged _
        · rename_i sizes hsizes
          split at h
          · cases h
            exact .unchanged _
          · split at h
            · cases h
              exact .unchanged _
            · simp only [ok_steps] at h
              obtain ⟨a1, hinsert, a2, hset, -, rfl⟩ := h
              rw [setAdmission_eq hset]
              refine .publish now admissionId expectedItems digest creatorKey adm a1
                hfind hstate hitems ?_ hinsert hunanswered
              intro fileId hmem
              exact mapM_available hsizes fileId (List.mem_dedup.mpr hmem)

theorem publish_effect {answer : GeminiBatchCreateOutcome}
    (h : geminiBatchAdmissionPublish a now admissionId expectedItems digest creatorKey
      = .ok (answer, a')) :
    Effect sha256 a (.admissionPublish now admissionId expectedItems digest creatorKey) a' := by
  simp only [geminiBatchAdmissionPublish, ok_steps] at h
  obtain ⟨-, adm, hfind, h⟩ := h
  split at h
  · simp only [ok_steps] at h
    obtain ⟨job, -, -, -, rfl⟩ := h
    exact .unchanged _
  · simp only [publishAdmission, ok_steps, bailIf_eq_ok, guard_iffs] at h
    obtain ⟨⟨hstate, -⟩, bound, -, h⟩ := h
    split at h
    · cases h
      exact .unchanged _
    · simp only [ok_steps, bailIf_eq_ok, guard_iffs] at h
      obtain ⟨hadds, h⟩ := h
      split at h
      · simp only [ok_steps] at h
        obtain ⟨-, a1, hset, -, rfl⟩ := h
        rw [setAdmission_eq hset]
        exact .publishReplay now admissionId expectedItems digest creatorKey adm hfind hstate
      · rename_i hunanswered
        exact publishStaged_effect hfind hstate (stagedAddsUp_items hadds) hunanswered h

theorem abort_effect (h : geminiBatchAdmissionAbort a now admissionId = .ok (answer, a')) :
    Effect sha256 a (.admissionAbort now admissionId) a' := by
  unfold geminiBatchAdmissionAbort at h
  split at h
  · cases h
    exact .unchanged _
  · rename_i adm hfind
    rw [filter_eq_some_iff, beq_iff_eq] at hfind
    simp only [ok_steps] at h
    obtain ⟨a1, hset, -, rfl⟩ := h
    rw [setAdmission_eq hset]
    exact .abort now admissionId adm hfind.1 hfind.2

theorem outputClaim_effect {locked : List String} {answer : Option GeminiBatchOutputClaim}
    (h : claimGeminiBatchOutput a ts locked owner leaseSecs = .ok (answer, a')) :
    Effect sha256 a (.outputClaim ts locked owner leaseSecs) a' := by
  simp only [claimGeminiBatchOutput, ok_steps] at h
  obtain ⟨-, h⟩ := h
  split at h
  · cases h
    exact .unchanged _
  · rename_i jobId build hselect
    obtain ⟨hfind, hclaimable⟩ := mem_select (List.mem_of_mem_head? hselect)
    split at h
    · cases h
      exact .unchanged _
    · simp only [ok_steps] at h
      obtain ⟨a1, hreset, generation, -, a2, hset, -, rfl⟩ := h
      rw [setBuild_eq hset]
      exact .outputClaim ts locked owner leaseSecs jobId build generation _ a1 hfind
        hclaimable hreset

theorem outputRenew_effect
    (h : renewGeminiBatchOutput a ts owner claim leaseSecs = .ok (answer, a')) :
    Effect sha256 a (.outputRenew ts owner claim leaseSecs) a' := by
  simp only [renewGeminiBatchOutput, bind_eq_ok] at h
  obtain ⟨build?, hfence, h⟩ := h
  split at h
  · cases h
    exact .unchanged _
  · simp only [ok_steps] at h
    obtain ⟨a1, hset, -, rfl⟩ := h
    rw [setBuild_eq hset]
    exact .outputRenew ts owner claim leaseSecs _ _ hfence

theorem outputAppend_effect {nextItemIndex : Int}
    (h : appendGeminiBatchOutputChunk a ts owner claim nextItemIndex chunk = .ok (answer, a')) :
    Effect sha256 a (.outputAppend ts owner claim nextItemIndex chunk) a' := by
  simp only [appendGeminiBatchOutputChunk, ok_steps] at h
  obtain ⟨hvalid, build?, hfence, h⟩ := h
  split at h
  · cases h
    exact .unchanged _
  · split at h
    · cases h
      exact .unchanged _
    · simp only [ok_steps, bailIf_eq_ok, guard_iffs] at h
      obtain ⟨⟨hindex, -⟩, newBytes, hbytes, -, -, -, a1, hchunk, a2, hgrow, a3, hset,
        -, rfl⟩ := h
      rw [checkedAdd_eq hbytes] at hgrow hset
      obtain ⟨habsent, rfl⟩ := insertChunk_eq hchunk
      rw [setBuild_eq hset]
      exact .outputAppend ts owner claim nextItemIndex chunk _ a2 hvalid hfence hindex
        habsent hgrow

theorem outputFail_effect {errorClass : String}
    (h : failGeminiBatchOutput a ts owner claim errorClass = .ok (answer, a')) :
    Effect sha256 a (.outputFail ts owner claim errorClass) a' := by
  simp only [failGeminiBatchOutput, ok_steps] at h
  obtain ⟨-, build?, hfence, h⟩ := h
  split at h
  · cases h
    exact .unchanged _
  · simp only [ok_steps] at h
    obtain ⟨a1, hset, -, rfl⟩ := h
    rw [setBuild_eq hset]
    exact .outputFail ts owner claim errorClass _ hfence

theorem outputFinalize_effect
    (h : finalizeOutput sha256 a ts owner claim completion = .ok (answer, a')) :
    Effect sha256 a (.outputFinalize ts owner claim completion) a' := by
  simp only [finalizeOutput, bind_eq_ok] at h
  obtain ⟨build?, hfence, h⟩ := h
  split at h
  · cases h
    exact .unchanged _
  · simp only [ok_steps, bailIf_eq_ok, guard_iffs] at h
    obtain ⟨hcovers, -, total, -, ⟨-, hmanifest⟩, a1, hactivate, a2, hlink, a3, hset, -, rfl⟩ := h
    rw [setBuild_eq hset]
    exact .outputFinalize ts owner claim completion _ _ a1 a2 hfence hcovers
      hmanifest.symm hactivate hlink

theorem exec_effect (sha256 : List UInt8 → Digest) (a : Authority) (op : AuthorityOp) :
    Effect sha256 a op (a.exec sha256 op) := by
  cases op with
  | call op whole => exact .call op whole
  | fileCreate => exact effect_after fun _ _ => fileCreate_effect
  | fileAppend => exact effect_after fun _ _ => fileAppend_effect
  | fileComplete => exact effect_after fun _ _ => fileComplete_effect
  | fileDelete => exact effect_after fun _ _ => fileDelete_effect
  | create => exact effect_after fun _ _ => create_effect
  | admissionBegin => exact effect_after fun _ _ => begin_effect
  | admissionAppend => exact effect_after fun _ _ => append_effect
  | admissionPublish => exact effect_after fun _ _ => publish_effect
  | admissionAbort => exact effect_after fun _ _ => abort_effect
  | outputClaim => exact effect_after fun _ _ => outputClaim_effect
  | outputRenew => exact effect_after fun _ _ => outputRenew_effect
  | outputAppend => exact effect_after fun _ _ => outputAppend_effect
  | outputFail => exact effect_after fun _ _ => outputFail_effect
  | outputFinalize => exact effect_after fun _ _ => outputFinalize_effect

end Calls

end ApiToken.Gemini
