import ApiToken.Gemini.Deleted

/-!
# The progress of a file

A file counts its chunks and their bytes beside the chunk rows. A client
writes them chunk by chunk, the builder of an output counts in its build and
writes the file after it. Three calls can leave the counters behind: an empty
chunk after the short last one of an upload, a chunk of an output whose file
is no longer the one the build counts, and a claim that drops the chunks of a
file that is not an output. In every run without them the counters of every
file are those of its rows.
-/

namespace ApiToken.Gemini

open Registry

variable {index ts : Int} {chunk : GeminiBatchFileChunk} {id jobId accountId : String}
  {f' : BatchFile} {build : OutputBuild} {completion : GeminiBatchFileCompletion}
  {owner : Owner} {a₁ : Authority} {claim : GeminiBatchOutputClaim}

/-! ## The rows of a file -/

def Authority.chunkRows (a : Authority) (fileId : String) :
    List ((String × Int) × GeminiBatchFileChunk) :=
  a.chunks.rows.filter (fun x => x.1.1 == fileId)

def Authority.chunkBytes (a : Authority) (fileId : String) : Int :=
  ((a.chunkRows fileId).map (·.2.plaintextLen)).sum

section Rows

variable {a a' : Authority} {fileId : String}

theorem mem_chunkRows :
    ((fileId, index), chunk) ∈ a.chunkRows fileId ↔
      a.chunks.find? (fileId, index) = some chunk := by
  rw [Authority.chunkRows, mem_filter, find?_eq_some_iff]
  simp

theorem find?_of_chunkRows (h : a'.chunkRows fileId = a.chunkRows fileId)
    (index : Int) : a'.chunks.find? (fileId, index) = a.chunks.find? (fileId, index) := by
  refine Option.ext fun chunk => ?_
  rw [← mem_chunkRows, ← mem_chunkRows, h]

theorem chunksOf_eq (a : Authority) (fileId : String) :
    a.chunksOf fileId = ((a.chunkRows fileId).insertionSort
      (fun x y => decide (x.1.2 ≤ y.1.2) = true)).map Prod.snd := by
  rw [Authority.chunksOf, Table.select, List.take_of_length_le]
  · rfl
  · rw [List.length_insertionSort]
    exact List.length_filter_le _ _

theorem chunksOf_of_chunkRows (h : a'.chunkRows fileId = a.chunkRows fileId) :
    a'.chunksOf fileId = a.chunksOf fileId := by
  rw [chunksOf_eq, chunksOf_eq, h]

theorem chunkBytes_of_chunkRows (h : a'.chunkRows fileId = a.chunkRows fileId) :
    a'.chunkBytes fileId = a.chunkBytes fileId := by
  rw [Authority.chunkBytes, Authority.chunkBytes, h]

theorem chunkRows_eq_nil (h : ∀ index, a.chunks.find? (fileId, index) = none) :
    a.chunkRows fileId = [] := by
  rw [List.eq_nil_iff_forall_not_mem]
  rintro ⟨⟨id, index⟩, chunk⟩ hmem
  have hid : id = fileId := by simpa using (mem_filter.mp hmem).2
  subst hid
  rw [mem_chunkRows, h index] at hmem
  cases hmem

theorem chunkRows_put_self (hchunks : a'.chunks = a.chunks.put (fileId, index) chunk)
    (habsent : a.chunks.find? (fileId, index) = none) :
    a'.chunkRows fileId = a.chunkRows fileId ++ [((fileId, index), chunk)] := by
  rw [Authority.chunkRows, hchunks, rows_put_new chunk habsent, filter_append]
  simp [Authority.chunkRows]

theorem chunkRows_put_other (hchunks : a'.chunks = a.chunks.put (id, index) chunk)
    (habsent : a.chunks.find? (id, index) = none) (hne : id ≠ fileId) :
    a'.chunkRows fileId = a.chunkRows fileId := by
  rw [Authority.chunkRows, hchunks, rows_put_new chunk habsent, filter_append]
  simp [Authority.chunkRows, hne]

theorem chunkRows_delete_self (a : Authority) (fileId : String) :
    (a.deleteChunks fileId).chunkRows fileId = [] := by
  simp [Authority.chunkRows, Authority.deleteChunks, Table.delete]

theorem chunkRows_delete_other (a : Authority) {fileId : String} (hne : id ≠ fileId) :
    (a.deleteChunks id).chunkRows fileId = a.chunkRows fileId := by
  simp only [Authority.chunkRows, Authority.deleteChunks, Table.delete, List.filter_filter]
  refine List.filter_congr fun x _ => ?_
  by_cases hid : x.1.1 = fileId
  · simp [hid, Ne.symm hne]
  · simp [hid]

theorem chunkRows_delete_nil (hnil : a.chunkRows fileId = []) (id : String) :
    (a.deleteChunks fileId).chunkRows id = a.chunkRows id := by
  by_cases hid : fileId = id
  · subst hid
    rw [chunkRows_delete_self, hnil]
  · exact chunkRows_delete_other a hid

end Rows

/-! ## Progress -/

section Progress

variable (sha256 : List UInt8 → Digest)

/-- The counters of a file are its chunks. -/
structure Progress (a : Authority) (fileId : String) (f : BatchFile) : Prop where
  indices : ∀ index, (a.chunks.find? (fileId, index)).isSome = true ↔
    0 ≤ index ∧ index < f.nextChunkIndex
  bytes : f.receivedBytes = a.chunkBytes fileId
  bound : f.receivedBytes ≤ f.sizeBytes
  /-- Only the last chunk of a full upload may be short. -/
  upload : f.sourceKind = .clientUpload → ∀ index chunk,
    a.chunks.find? (fileId, index) = some chunk →
    chunk.plaintextLen = maxBatchFileChunkBytes ∨
      (index + 1 = f.nextChunkIndex ∧ f.receivedBytes = f.sizeBytes)
  active : f.state = .active → f.payloadDeletedTs = none →
    f.receivedBytes = f.sizeBytes ∧
      f.chunkManifestDigest = some (manifestDigest sha256 (a.chunksOf fileId))

end Progress

def inStep (a : Authority) : AuthorityOp → Bool
  | .fileAppend accountId fileId expectedOffset chunk =>
    (a.fileOf accountId fileId).all (fun f => f.sourceKind != .clientUpload
      || f.receivedBytes != f.sizeBytes || expectedOffset != f.receivedBytes
      || chunk.chunkIndex != f.nextChunkIndex || chunk.plaintextLen != 0
      || (a.chunks.find? (fileId, f.nextChunkIndex - 1)).all
        (·.plaintextLen == maxBatchFileChunkBytes))
  | .outputClaim ts locked _ _ =>
    !a.builds.any (fun jobId build => claimableBuild a ts locked jobId build
      && (a.files.find? build.fileId).any (fun f =>
        f.sourceKind != .batchOutput && f.nextChunkIndex != 0))
  | .outputAppend ts owner claim _ chunk =>
    (fencedBuild a owner claim ts).toOption.all (fun build => build.all (fun build =>
      chunk.chunkIndex != build.nextChunkIndex
        || (a.chunks.find? (claim.fileId, chunk.chunkIndex)).isSome
        || (a.files.find? claim.fileId).all (fun f =>
          f.state == .processing && f.sourceKind == .batchOutput
            && f.nextChunkIndex == build.nextChunkIndex
            && f.receivedBytes == build.plaintextBytes)))
  | _ => true

/-- What is being built has a file of the right size. -/
structure BuildsOk (a : Authority) : Prop where
  file : ∀ jobId build, a.builds.find? jobId = some build →
    (a.files.find? build.fileId).isSome = true
  building : ∀ jobId build, a.builds.find? jobId = some build →
    build.state = .building → ∀ f, a.files.find? build.fileId = some f →
    f.sourceKind = .batchOutput → f.payloadDeletedTs = none →
    f.receivedBytes = f.sizeBytes

/-- The files in step with their chunks. -/
structure Tallied (sha256 : List UInt8 → Digest) (a : Authority) : Prop where
  files : ∀ fileId f, a.files.find? fileId = some f → Progress sha256 a fileId f
  received : ∀ fileId f, a.files.find? fileId = some f → 0 ≤ f.receivedBytes
  rooted : ∀ fileId, a.files.find? fileId = none → a.chunkRows fileId = []
  builds : BuildsOk a

theorem tallied_fresh (sha256 : List UInt8 → Digest) (store : Store) :
    Tallied sha256 (.fresh store) where
  files := fun _ _ h => by cases h
  received := fun _ _ h => by cases h
  rooted := fun _ _ => rfl
  builds := ⟨fun _ _ h => (by cases h), fun _ _ h => (by cases h)⟩

/-! ## One file -/

section File

variable {sha256 : List UInt8 → Digest} {a a' : Authority} {fileId : String}
  {f : BatchFile}

theorem Progress.congr (h : Progress sha256 a fileId f)
    (hrows : a'.chunkRows fileId = a.chunkRows fileId) : Progress sha256 a' fileId f where
  indices := fun index => by rw [find?_of_chunkRows hrows]; exact h.indices index
  bytes := by rw [chunkBytes_of_chunkRows hrows]; exact h.bytes
  bound := h.bound
  upload := fun hkind index chunk hfind =>
    h.upload hkind index chunk (find?_of_chunkRows hrows index ▸ hfind)
  active := fun hstate hkept => by
    rw [chunksOf_of_chunkRows hrows]
    exact h.active hstate hkept

theorem progress_empty (hrows : a.chunkRows fileId = []) (hnext : f.nextChunkIndex = 0)
    (hreceived : f.receivedBytes = 0) (hsize : 0 ≤ f.sizeBytes)
    (hstate : f.state = .active → f.payloadDeletedTs ≠ none) :
    Progress sha256 a fileId f := by
  have hnone : ∀ index, a.chunks.find? (fileId, index) = none := by
    intro index
    rw [Option.eq_none_iff_forall_ne_some]
    intro chunk hfind
    rw [← mem_chunkRows, hrows] at hfind
    cases hfind
  refine ⟨fun index => ?_, ?_, by rw [hreceived]; exact hsize, fun _ index chunk hfind => ?_,
    fun hactive hkept => absurd hkept (hstate hactive)⟩
  · rw [hnone, hnext]
    simp
  · rw [hreceived, Authority.chunkBytes, hrows]
    rfl
  · rw [hnone] at hfind
    cases hfind

theorem progress_append (h : Progress sha256 a fileId f)
    (hchunks : a'.chunks = a.chunks.put (fileId, f.nextChunkIndex) chunk)
    (hpos : 0 ≤ f.nextChunkIndex) (hnext : f'.nextChunkIndex = f.nextChunkIndex + 1)
    (hreceived : f'.receivedBytes = f.receivedBytes + chunk.plaintextLen)
    (hbound : f'.receivedBytes ≤ f'.sizeBytes) (hstate : f'.state = .processing)
    (hupload : f'.sourceKind = .clientUpload →
      (∀ index chunk, a.chunks.find? (fileId, index) = some chunk →
        chunk.plaintextLen = maxBatchFileChunkBytes) ∧
      (chunk.plaintextLen = maxBatchFileChunkBytes ∨ f'.receivedBytes = f'.sizeBytes)) :
    Progress sha256 a' fileId f' := by
  have habsent : a.chunks.find? (fileId, f.nextChunkIndex) = none := by
    rw [← not_isSome_iff_eq_none, h.indices]
    omega
  have hrows := chunkRows_put_self hchunks habsent
  refine ⟨fun index => ?_, ?_, hbound, fun hkind index chunk' hfind => ?_, fun hactive => ?_⟩
  · rw [hchunks, find?_put, hnext]
    split
    · rename_i hkey
      obtain rfl := (Prod.mk.inj hkey).2
      simp
      omega
    · rename_i hkey
      have hne : f.nextChunkIndex ≠ index := fun heq => hkey (by rw [heq])
      rw [h.indices]
      omega
  · rw [hreceived, h.bytes, Authority.chunkBytes, Authority.chunkBytes, hrows]
    simp
  · rw [hchunks] at hfind
    rcases find?_put_cases hfind with ⟨hkey, rfl⟩ | hold
    · obtain rfl := (Prod.mk.inj hkey).2
      rcases (hupload hkind).2 with hfull | hlast
      · exact .inl hfull
      · exact .inr ⟨hnext.symm, hlast⟩
    · exact .inl ((hupload hkind).1 index chunk' hold)
  · rw [hstate] at hactive
    cases hactive

end File

/-! ## Builds -/

section Builds

variable {a a' : Authority}

theorem BuildsOk.congr (h : BuildsOk a) (hfiles : a'.files = a.files)
    (hbuilds : a'.builds = a.builds) : BuildsOk a' := by
  refine ⟨fun jobId build hfind => ?_, fun jobId build hfind => ?_⟩
  · rw [hfiles]
    exact h.file jobId build (hbuilds ▸ hfind)
  · rw [hfiles]
    exact h.building jobId build (hbuilds ▸ hfind)

theorem BuildsOk.putFile (h : BuildsOk a) {f : BatchFile}
    (hfiles : a'.files = a.files.put id f') (hbuilds : a'.builds = a.builds)
    (hfind : a.files.find? id = some f)
    (hkeeps : f'.sourceKind = .batchOutput → f'.payloadDeletedTs = none →
      (f.sourceKind = .batchOutput → f.payloadDeletedTs = none →
        f.receivedBytes = f.sizeBytes) → f'.receivedBytes = f'.sizeBytes) :
    BuildsOk a' := by
  refine ⟨fun jobId build hbuild => ?_, fun jobId build hbuild hstate g hg hkind hkept => ?_⟩
  · have hfile := h.file jobId build (hbuilds ▸ hbuild)
    rw [hfiles, find?_put]
    split
    · rfl
    · exact hfile
  · have hbefore := h.building jobId build (hbuilds ▸ hbuild) hstate
    rw [hfiles] at hg
    rcases find?_put_cases hg with ⟨rfl, rfl⟩ | hold
    · exact hkeeps hkind hkept (hbefore f hfind)
    · exact hbefore g hold hkind hkept

theorem BuildsOk.putBuild (h : BuildsOk a) {jobId : String} {build : OutputBuild}
    (hfiles : a'.files = a.files) (hbuilds : a'.builds = a.builds.put jobId build)
    (hfile : (a.files.find? build.fileId).isSome = true)
    (hbuilding : build.state = .building → ∀ f, a.files.find? build.fileId = some f →
      f.sourceKind = .batchOutput → f.payloadDeletedTs = none →
      f.receivedBytes = f.sizeBytes) : BuildsOk a' := by
  refine ⟨fun id build' hfind => ?_, fun id build' hfind => ?_⟩
  · rw [hbuilds] at hfind
    rw [hfiles]
    rcases find?_put_cases hfind with ⟨-, rfl⟩ | hold
    · exact hfile
    · exact h.file id build' hold
  · rw [hbuilds] at hfind
    rw [hfiles]
    rcases find?_put_cases hfind with ⟨-, rfl⟩ | hold
    · exact hbuilding
    · exact h.building id build' hold

theorem Opened.buildsOk (hopened : Opened a a') (h : BuildsOk a) : BuildsOk a' := by
  refine ⟨fun jobId build hfind => ?_, fun jobId build hfind hstate f hf => ?_⟩
  · rcases hopened.fileIds jobId build hfind with ⟨build0, hbuild0, hid⟩ | hfile
    · rw [← hid]
      exact hopened.keepsFile (h.file jobId build0 hbuild0)
    · exact hfile
  · have hbuild := hopened.building jobId build hfind hstate
    rcases hopened.files build.fileId with hsame | ⟨hnone, -⟩
    · exact h.building jobId build hbuild hstate f (hsame ▸ hf)
    · have hfile := h.file jobId build hbuild
      rw [hnone] at hfile
      cases hfile

end Builds

/-! ## One call -/

section Step

variable {sha256 : List UInt8 → Digest} {a a' : Authority} {op : AuthorityOp}

theorem Tallied.congr (h : Tallied sha256 a) (hfiles : a'.files = a.files)
    (hrows : ∀ id, a'.chunkRows id = a.chunkRows id) (hbuilds : BuildsOk a') :
    Tallied sha256 a' where
  files := fun id f hfind => (h.files id f (hfiles ▸ hfind)).congr (hrows id)
  received := fun id f hfind => h.received id f (hfiles ▸ hfind)
  rooted := fun id hnone => (hrows id).trans (h.rooted id (hfiles ▸ hnone))
  builds := hbuilds

theorem Tallied.putFile (h : Tallied sha256 a) (hfiles : a'.files = a.files.put id f')
    (hother : ∀ id', id ≠ id' → a'.chunkRows id' = a.chunkRows id')
    (hprogress : Progress sha256 a' id f') (hreceived : 0 ≤ f'.receivedBytes)
    (hbuilds : BuildsOk a') : Tallied sha256 a' where
  files := by
    intro id' g hg
    rw [hfiles, find?_put] at hg
    split at hg
    · rename_i hid
      subst hid
      cases hg
      exact hprogress
    · rename_i hid
      exact (h.files id' g hg).congr (hother id' hid)
  received := by
    intro id' g hg
    rw [hfiles] at hg
    rcases find?_put_cases hg with ⟨-, rfl⟩ | hold
    · exact hreceived
    · exact h.received id' g hold
  rooted := by
    intro id' hnone
    rw [hfiles, find?_put] at hnone
    split at hnone
    · cases hnone
    · rename_i hid
      exact (hother id' hid).trans (h.rooted id' hnone)
  builds := hbuilds

theorem Tallied.size_nonneg (h : Tallied sha256 a) {f : BatchFile}
    (hfind : a.files.find? id = some f) : 0 ≤ f.sizeBytes :=
  (h.received id f hfind).trans (h.files id f hfind).bound

theorem validate_chunk (h : chunk.validate = .ok ()) :
    0 ≤ chunk.chunkIndex ∧ 0 ≤ chunk.plaintextLen := by
  simp only [GeminiBatchFileChunk.validate, bailIf_eq_ok, guard_iffs] at h
  omega

section

variable (h : Tallied sha256 a)
include h

theorem fileCreate_tallied {create : GeminiBatchFileCreate}
    (valid : validateFileCreate create = .ok ()) (absent : a.files.find? create.fileId = none) :
    Tallied sha256 { a with files := a.files.put create.fileId create.row } := by
  have hsize : 0 ≤ create.sizeBytes := by
    simp only [validateFileCreate, bailIf_eq_ok, guard_iffs] at valid
    omega
  refine h.putFile rfl (fun _ _ => rfl)
    (progress_empty (h.rooted _ absent) rfl rfl hsize fun h => by cases h) (le_refl 0) ?_
  refine ⟨fun jobId build hbuild => ?_, fun jobId build hbuild hstate f hf => ?_⟩
  · rw [find?_put]
    split
    · rfl
    · exact h.builds.file jobId build hbuild
  · rcases find?_put_cases hf with ⟨hid, -⟩ | hold
    · have hfile := h.builds.file jobId build hbuild
      rw [hid, absent] at hfile
      cases hfile
    · exact h.builds.building jobId build hbuild hstate f hold

variable {fileId : String} {f : BatchFile}

/-- A client's chunk: in an upload that is full the chunks before it are of
full size. -/
theorem fileAppend_tallied {offset : Int}
    (hstep : inStep a (.fileAppend accountId fileId offset chunk) = true)
    (valid : chunk.validate = .ok ()) (find : a.fileOf accountId fileId = some f)
    (processing : f.state = .processing) (index : chunk.chunkIndex = f.nextChunkIndex)
    (fits : f.receivedBytes + chunk.plaintextLen ≤ f.sizeBytes)
    (full : f.receivedBytes + chunk.plaintextLen < f.sizeBytes →
      chunk.plaintextLen = maxBatchFileChunkBytes) (received : offset = f.receivedBytes) :
    Tallied sha256 { a with
      chunks := a.chunks.put (fileId, chunk.chunkIndex) chunk
      files := a.files.put fileId (f.appended chunk) } := by
  have hfind := (fileOf_eq find).1
  have hprogress := h.files fileId f hfind
  obtain ⟨hpos, hlen⟩ := validate_chunk valid
  rw [index] at hpos ⊢
  have habsent : a.chunks.find? (fileId, f.nextChunkIndex) = none := by
    rw [← not_isSome_iff_eq_none, hprogress.indices]
    omega
  refine h.putFile rfl (fun id hne => chunkRows_put_other rfl habsent hne)
    (progress_append hprogress rfl hpos rfl rfl fits processing fun hkind => ⟨?_, ?_⟩)
    (add_nonneg (h.received fileId f hfind) hlen) ?_
  · intro index' chunk' hchunk'
    rcases hprogress.upload hkind index' chunk' hchunk' with hfull | ⟨hlast, hsize⟩
    · exact hfull
    -- the file is full, so this chunk is empty and the last one is not short
    have hempty : chunk.plaintextLen = 0 := by omega
    have hprevious : index' = f.nextChunkIndex - 1 := by omega
    have hclient : f.sourceKind = .clientUpload := hkind
    simp only [inStep, find, all_some, hclient, bne_self_eq_false, hsize, received,
      index, hempty, Bool.false_or, ← hprevious, hchunk', beq_iff_eq] at hstep
    exact hstep
  · by_cases hlast : f.receivedBytes + chunk.plaintextLen = f.sizeBytes
    · exact .inr hlast
    · exact .inl (full (by omega))
  · refine h.builds.putFile rfl rfl hfind fun hkind hkept hsame => ?_
    have hsize := hsame hkind hkept
    show f.receivedBytes + chunk.plaintextLen = f.sizeBytes
    omega

theorem fileComplete_tallied (find : a.fileOf accountId fileId = some f)
    (manifest : completion.chunkManifestDigest = manifestDigest sha256 (a.chunksOf fileId))
    (full : f.receivedBytes = f.sizeBytes) :
    Tallied sha256 { a with files := a.files.put fileId (f.activated completion) } := by
  have hfind := (fileOf_eq find).1
  have hprogress := h.files fileId f hfind
  refine h.putFile rfl (fun _ _ => rfl) ?_ (h.received fileId f hfind)
    (h.builds.putFile rfl rfl hfind fun _ _ _ => full)
  exact ⟨hprogress.indices, hprogress.bytes, hprogress.bound, hprogress.upload,
    fun _ _ => ⟨full, congrArg some manifest⟩⟩

theorem fileDelete_tallied (find : a.fileOf accountId fileId = some f) :
    Tallied sha256
      { a.deleteChunks fileId with
        files := a.files.put fileId (f.payloadDeleted ts) } := by
  have hfind := (fileOf_eq find).1
  have hsize := h.size_nonneg hfind
  refine h.putFile rfl (fun _ hne => chunkRows_delete_other a hne) ?_ (le_refl 0)
    (h.builds.putFile rfl rfl hfind fun _ hkept => nomatch hkept)
  exact progress_empty (chunkRows_delete_self a fileId) rfl rfl hsize fun _ => nofun

theorem outputClaim_tallied {leaseSecs : Int} {locked : List String}
    {generation leaseUntil : Int}
    (hstep : inStep a (.outputClaim ts locked owner leaseSecs) = true)
    (find : a.builds.find? jobId = some build)
    (claimable : claimableBuild a ts locked jobId build = true)
    (reset : (a.deleteChunks build.fileId).updateOutputFile build.fileId
      (fun _ => true) (·.resetOutput ts) = .ok a₁) :
    Tallied sha256 (Authority.setOutputState
      { a₁ with
        builds := a₁.builds.put jobId
          (build.claimedBy generation owner leaseUntil ts) } jobId .building ts) := by
  obtain ⟨f, hfind⟩ := isSome_iff_exists.mp (h.builds.file jobId build find)
  rcases updateOutputFile_eq reset with ⟨rfl, hother⟩ | ⟨f', hfind', -, -, rfl⟩
  · -- the file is no output: it has no chunks to drop
    have hkind : f.sourceKind ≠ .batchOutput := fun heq => by cases hother f hfind heq
    simp only [inStep, guard_iffs] at hstep
    have hnone := any_eq_false_iff.mp hstep jobId build find
    rw [claimable, hfind, Bool.true_and, any_some, bne_iff_ne.mpr hkind,
      Bool.true_and, bne_eq_false_iff_eq] at hnone
    have hnil : a.chunkRows build.fileId = [] := by
      refine chunkRows_eq_nil fun index => ?_
      rw [← not_isSome_iff_eq_none, (h.files _ f hfind).indices, hnone]
      omega
    refine h.congr rfl (chunkRows_delete_nil hnil) ?_
    refine @BuildsOk.putBuild _ _ h.builds _
      (build.claimedBy generation owner leaseUntil ts) rfl rfl
      (by rw [OutputBuild.claimedBy, hfind]; rfl) fun _ g hg hgkind => ?_
    cases hfind.symm.trans hg
    exact absurd hgkind hkind
  · cases hfind.symm.trans hfind'
    have hput : BuildsOk { a with files := a.files.put build.fileId (f.resetOutput ts) } :=
      h.builds.putFile rfl rfl hfind fun _ _ _ => rfl
    refine h.putFile rfl (fun _ hne => chunkRows_delete_other a hne)
      (progress_empty (chunkRows_delete_self a build.fileId) rfl rfl (le_refl 0)
        fun h => by cases h)
      (le_refl 0) (@BuildsOk.putBuild _ _ hput _
        (build.claimedBy generation owner leaseUntil ts) rfl rfl ?_ fun _ g hg _ _ => ?_)
    · rw [OutputBuild.claimedBy, find?_put_self]
      rfl
    · rw [OutputBuild.claimedBy, find?_put_self] at hg
      cases hg
      rfl

theorem outputAppend_tallied {nextItemIndex : Int}
    (hstep : inStep a (.outputAppend ts owner claim nextItemIndex chunk) = true)
    (valid : chunk.validate = .ok ()) (fence : fencedBuild a owner claim ts = .ok (some build))
    (index : chunk.chunkIndex = build.nextChunkIndex)
    (absent : a.chunks.find? (claim.fileId, chunk.chunkIndex) = none)
    (grow : Authority.updateOutputFile
        { a with chunks := a.chunks.put (claim.fileId, chunk.chunkIndex) chunk }
        claim.fileId (·.state == .processing)
        (·.grown (build.plaintextBytes + chunk.plaintextLen)
          (build.nextChunkIndex + 1) ts) = .ok a₁) :
    Tallied sha256
      { a₁ with
        builds := a₁.builds.put claim.jobId (build.checkpoint nextItemIndex
          (build.plaintextBytes + chunk.plaintextLen) ts) } := by
  obtain ⟨hbuild, hid, hbuilding, -⟩ := fencedBuild_eq fence
  obtain ⟨f, hfind⟩ := isSome_iff_exists.mp (hid ▸ h.builds.file claim.jobId build hbuild)
  have hprogress := h.files claim.fileId f hfind
  obtain ⟨hpos, hlen⟩ := validate_chunk valid
  have hsame : f.state = .processing ∧ f.sourceKind = .batchOutput ∧
      f.nextChunkIndex = build.nextChunkIndex ∧ f.receivedBytes = build.plaintextBytes := by
    simp only [inStep, fence, Except.toOption, all_some, absent, isSome_none, hfind,
      Bool.or_false, guard_iffs, bne_iff_ne] at hstep
    rcases hstep with hne | hsame
    · exact absurd index hne
    · exact ⟨hsame.1.1.1, hsame.1.1.2, hsame.1.2, hsame.2⟩
  obtain ⟨hstate, hkind, hnext, hreceived⟩ := hsame
  rw [index, ← hnext] at absent hpos
  rw [index, ← hnext, ← hreceived] at grow
  rcases updateOutputFile_eq grow with ⟨-, hother⟩ | ⟨f', hfind', -, -, rfl⟩
  · have hfalse := hother f hfind hkind
    rw [hstate] at hfalse
    cases hfalse
  cases hfind.symm.trans hfind'
  have hput : BuildsOk { a with
      files := a.files.put claim.fileId
        (f.grown (f.receivedBytes + chunk.plaintextLen) (f.nextChunkIndex + 1) ts) } :=
    h.builds.putFile rfl rfl hfind fun _ _ _ => rfl
  refine h.putFile rfl (fun id hne => chunkRows_put_other rfl absent hne)
    (progress_append hprogress rfl hpos rfl rfl (le_refl _) hstate fun hupload => ?_)
    (add_nonneg (h.received _ f hfind) hlen)
    (hput.putBuild rfl rfl ?_ fun _ g hg _ _ => ?_)
  · have hnot : f.sourceKind = .clientUpload := hupload
    rw [hkind] at hnot
    cases hnot
  · rw [OutputBuild.checkpoint, hid, find?_put_self]
    rfl
  · rw [OutputBuild.checkpoint, hid, find?_put_self] at hg
    cases hg
    rfl

theorem outputFinalize_tallied {expiry : Int} {a2 : Authority}
    (fence : fencedBuild a owner claim ts = .ok (some build))
    (manifest : completion.chunkManifestDigest = manifestDigest sha256 (a.chunksOf claim.fileId))
    (activate : a.updateOutputFile claim.fileId (·.state == .processing)
      (·.outputActivated completion (max completion.completedTs ts) expiry) = .ok a₁)
    (link : linkOutput a₁ claim.jobId claim.fileId (max completion.completedTs ts) = .ok a2) :
    Tallied sha256
      { a2 with
        builds := a2.builds.put claim.jobId
          (build.finalized (max completion.completedTs ts)) } := by
  obtain ⟨hbuild, hid, hbuilding, -⟩ := fencedBuild_eq fence
  have hframe : a2.files = a₁.files ∧ a2.chunks = a₁.chunks ∧ a2.builds = a₁.builds := by
    rcases linkOutput_eq link with rfl | ⟨job, batch, -, -, rfl⟩
    · exact ⟨rfl, rfl, rfl⟩
    · exact ⟨rfl, rfl, rfl⟩
  have hfirst : Tallied sha256 a₁ := by
    rcases updateOutputFile_eq activate with ⟨rfl, -⟩ | ⟨f, hfind, hkind, -, rfl⟩
    · exact h
    have hprogress := h.files claim.fileId f hfind
    refine h.putFile rfl (fun _ _ => rfl) ?_ (h.received _ f hfind)
      (h.builds.putFile rfl rfl hfind fun hkind hkept hsame => hsame hkind hkept)
    refine ⟨hprogress.indices, hprogress.bytes, hprogress.bound, hprogress.upload,
      fun _ hkept => ⟨?_, congrArg some manifest⟩⟩
    exact h.builds.building claim.jobId build hbuild hbuilding f (hid ▸ hfind) hkind hkept
  have hfile : (a₁.files.find? build.fileId).isSome = true := by
    rcases updateOutputFile_eq activate with ⟨rfl, -⟩ | ⟨f, -, -, -, rfl⟩
    · exact h.builds.file claim.jobId build hbuild
    · rw [hid, find?_put_self]
      rfl
  have hbuilds : a2.builds.put claim.jobId
      (build.finalized (max completion.completedTs ts))
      = a₁.builds.put claim.jobId (build.finalized (max completion.completedTs ts)) := by
    rw [hframe.2.2]
  refine hfirst.congr hframe.1 (fun id => ?_)
    (hfirst.builds.putBuild hframe.1 hbuilds hfile fun hstate => ?_)
  · rw [Authority.chunkRows, Authority.chunkRows, hframe.2.1]
  · cases hstate

theorem batchCall_tallied (op : BatchOp) : Tallied sha256 (batchCall a op) := by
  obtain ⟨p, -, hopened⟩ := batchCall_eq a op
  have hrows : ∀ id, (batchCall a op).chunkRows id = a.chunkRows id := by
    intro id
    rw [Authority.chunkRows, hopened.chunks]
    rfl
  refine ⟨fun id f hfind => ?_, fun id f hfind => ?_, fun id hnone => ?_,
    hopened.buildsOk (h.builds.congr rfl rfl)⟩
  · rcases hopened.files id with hsame | ⟨hnone, jobId, accountId, ts, -, hnew⟩
    · exact (h.files id f (hsame.symm.trans hfind)).congr (hrows id)
    · cases hnew.symm.trans hfind
      exact progress_empty ((hrows id).trans (h.rooted id hnone)) rfl rfl (le_refl 0) nofun
  · rcases hopened.files id with hsame | ⟨-, jobId, accountId, ts, -, hnew⟩
    · exact h.received id f (hsame.symm.trans hfind)
    · cases hnew.symm.trans hfind
      exact le_refl 0
  · rcases hopened.files id with hsame | ⟨-, jobId, accountId, ts, -, hnew⟩
    · exact (hrows id).trans (h.rooted id (hsame.symm.trans hnone))
    · rw [hnew] at hnone
      cases hnone

end

theorem effect_tallied (heffect : Effect sha256 a op a') (hstep : inStep a op = true)
    (h : Tallied sha256 a) : Tallied sha256 a' := by
  cases heffect with
  | unchanged | beginNew | beginAgain | publishReplay | abort =>
    exact h.congr rfl (fun _ => rfl) (h.builds.congr rfl rfl)
  | call op => exact batchCall_tallied h op
  | fileCreate _ _ valid absent => exact fileCreate_tallied h valid absent
  | fileAppend _ _ _ _ _ valid find processing index fits full received =>
    exact fileAppend_tallied h hstep valid find processing index fits full received
  | fileComplete _ _ _ _ find _ manifest full =>
    exact fileComplete_tallied h find manifest full
  | fileDelete _ _ _ _ find => exact fileDelete_tallied h find
  | create _ _ _ _ _ _ insert =>
    have hinserted := insertBatch_inserted insert
    exact h.congr hinserted.files
      (fun id => by rw [Authority.chunkRows, hinserted.chunks]; rfl)
      (h.builds.congr hinserted.files hinserted.builds)
  | append _ _ _ _ _ _ _ _ _ _ stage =>
    obtain ⟨⟨t, ht⟩, -⟩ := stage_eq stage
    rw [ht]
    exact h.congr rfl (fun _ => rfl) (h.builds.congr rfl rfl)
  | publish _ _ _ _ _ _ a₁ _ _ _ _ insert =>
    have hinserted := insertBatch_inserted insert
    have hinner : Tallied sha256 a₁ := h.congr hinserted.files
      (fun id => by rw [Authority.chunkRows, hinserted.chunks]; rfl)
      (h.builds.congr hinserted.files hinserted.builds)
    exact hinner.congr rfl (fun _ => rfl) (hinner.builds.congr rfl rfl)
  | outputClaim ts locked owner leaseSecs jobId build generation leaseUntil a₁ find
      claimable reset => exact outputClaim_tallied h hstep find claimable reset
  | outputRenew _ _ claim _ _ build fence =>
    obtain ⟨hbuild, -, -, -⟩ := fencedBuild_eq fence
    exact h.congr rfl (fun _ => rfl) (h.builds.putBuild rfl rfl
      (h.builds.file claim.jobId build hbuild)
      (h.builds.building claim.jobId build hbuild))
  | outputAppend ts owner claim nextItemIndex chunk build a₁ valid fence index absent
      grow => exact outputAppend_tallied h hstep valid fence index absent grow
  | outputFail _ _ claim _ build fence =>
    obtain ⟨hbuild, -, -, -⟩ := fencedBuild_eq fence
    exact h.congr rfl (fun _ => rfl) (h.builds.putBuild rfl rfl
      (h.builds.file claim.jobId build hbuild) (fun hstate => by cases hstate))
  | outputFinalize ts owner claim completion build expiry a₁ a2 fence covers manifest
      activate link => exact outputFinalize_tallied h fence manifest activate link

end Step

/-! ## Every run -/

/-- In every run whose calls are in step, the chunk rows of every file are
those below its next index, its received bytes are their sum within its size,
the chunks of an upload are full but for the last one of a full file, and a
complete file that is not deleted has its bytes and the digest of its chunks. -/
theorem file_progress (sha256 : List UInt8 → Digest) (store : Store)
    (ops : List AuthorityOp)
    (hops : Along (Authority.exec sha256) (fun a op => inStep a op = true)
      (.fresh store) ops) (fileId : String) (f : BatchFile)
    (hfind : (run (Authority.exec sha256) (.fresh store) ops).files.find? fileId = some f) :
    Progress sha256 (run (Authority.exec sha256) (.fresh store) ops) fileId f := by
  have htallied : Tallied sha256 (run (Authority.exec sha256) (.fresh store) ops) :=
    run_invariant_along (I := Tallied sha256)
      (fun a op h hstep => effect_tallied (exec_effect sha256 a op) hstep h)
      (tallied_fresh sha256 store) hops
  exact htallied.files fileId f hfind

def uploadRun : List AuthorityOp :=
  [.fileCreate 100 (sampleFile 5), .fileAppend "acct" "file" 0 (sampleChunk 0 5),
   .fileComplete "acct" "file" ⟨101, .fill 0, .fill 0⟩]

/-- The file that `ops` leave. -/
def uploaded (ops : List AuthorityOp) : Option BatchFile :=
  (run (Authority.exec fun _ => .fill 0) (.fresh fundedStore) ops).files.find? "file"

/-- A file of one chunk, uploaded and completed. -/
theorem file_progress_uploaded :
    (uploaded uploadRun).isSome = true ∧
      ∀ f, uploaded uploadRun = some f → Progress (fun _ => .fill 0)
        (run (Authority.exec fun _ => .fill 0) (.fresh fundedStore) uploadRun) "file" f :=
  ⟨by decide +kernel, fun f hfind =>
    file_progress _ fundedStore uploadRun (by decide +kernel) "file" f hfind⟩

/-- An empty chunk is stored after the last one of the upload. -/
def overlongRun : List AuthorityOp :=
  [.fileCreate 100 (sampleFile 5), .fileAppend "acct" "file" 0 (sampleChunk 0 5),
   .fileAppend "acct" "file" 5 (sampleChunk 1 0)]

/-- The file ends on an empty chunk. -/
theorem short_chunk_inside :
    (uploaded overlongRun).isSome = true ∧
      ∀ f, uploaded overlongRun = some f → ¬ Progress (fun _ => .fill 0)
        (run (Authority.exec fun _ => .fill 0) (.fresh fundedStore) overlongRun)
        "file" f := by
  refine ⟨by decide +kernel, fun f hfind h => ?_⟩
  have hfile : (uploaded overlongRun).any (fun f => f.sourceKind == .clientUpload
      && f.nextChunkIndex == 2) = true := by decide +kernel
  rw [hfind, any_some, Bool.and_eq_true, beq_iff_eq, beq_iff_eq] at hfile
  have hchunk : (run (Authority.exec fun _ => .fill 0) (.fresh fundedStore)
      overlongRun).chunks.find? ("file", 0) = some (sampleChunk 0 5) := by decide +kernel
  rcases h.upload hfile.1 0 _ hchunk with hfull | ⟨hlast, -⟩
  · exact absurd hfull (by decide)
  · rw [hfile.2] at hlast
    cases hlast

end ApiToken.Gemini
