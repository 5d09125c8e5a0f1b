import ApiToken.Gemini.Completion

/-!
# Deleted files

Deleting a file drops its chunks and marks the row; the row keeps its state.
The calls that read files ask for the mark in part: the reads and the quota
do, an append, a completion, a new batch and the build of an output do not.
As long as these are not made on a deleted file, it stays as it is, and the
only jobs that name it were completed when it was deleted.
-/

namespace ApiToken.Gemini

open Registry

variable {create : GeminiBatchCreate} {accountId id creatorKey : String} {f : BatchFile}
  {now ts : Int} {owner : Owner} {claim : GeminiBatchOutputClaim} {build : OutputBuild}
  {p : BatchFile → Bool} {g : BatchFile → BatchFile} {ops : List AuthorityOp}

def Authority.deleted (a : Authority) (fileId : String) : Bool :=
  (a.files.find? fileId).any (·.payloadDeletedTs.isSome)

def Names (a : Authority) (jobId fileId : String) : Prop :=
  (∃ job, a.jobColumns.find? jobId = some job ∧ job.inputFileId = some fileId) ∨
    ∃ index row, a.itemColumns.find? (jobId, index) = some row ∧ row.names fileId = true

def stagedFileIds (a : Authority) (admissionId : String) (adm : Admission) :
    List String :=
  (adm.create (.fill 0) ((a.stagedOf admissionId).map (·.item))).fileIds

def fenced (a : Authority) (owner : Owner) (claim : GeminiBatchOutputClaim) (ts : Int) :
    Bool :=
  (fencedBuild a owner claim ts).toOption.any (·.isSome)

/-- An append and a completion find no file that is processing and deleted, a
batch that no job answers names no deleted file, and no output is built into
a deleted file. -/
def spares (a : Authority) : AuthorityOp → Bool
  | .fileAppend accountId fileId _ _ | .fileComplete accountId fileId _ =>
    (a.fileOf accountId fileId).all (fun f => f.state != .processing || f.payloadDeletedTs.isNone)
  | .create _ create _ =>
    (create.idempotencyDigest.bind (jobUnderDigest a create.accountId)).isSome
      || (a.batch.jobs.find? create.jobId).isSome
      || create.fileIds.all (!a.deleted ·)
  | .admissionPublish _ admissionId _ _ _ =>
    (a.admissions.find? admissionId).all (fun adm => adm.state != .staging
      || (adm.idempotencyDigest.bind (jobUnderDigest a adm.accountId)).isSome
      || (stagedFileIds a admissionId adm).all (!a.deleted ·))
  | .outputClaim ts locked _ _ =>
    !a.builds.any (fun jobId build =>
      claimableBuild a ts locked jobId build && a.deleted build.fileId)
  | .outputAppend ts owner claim _ _ | .outputFinalize ts owner claim _ =>
    !(fenced a owner claim ts && a.deleted claim.fileId)
  | _ => true

/-! ## Names -/

section Names

variable {a a' : Authority} {jobId fileId : String}

theorem names_of_admitted (hcolumns : ∀ id, (a'.jobColumns.find? id).map (·.admitted)
      = (a.jobColumns.find? id).map (·.admitted))
    (hitems : a'.itemColumns = a.itemColumns) (h : Names a' jobId fileId) :
    Names a jobId fileId := by
  rcases h with ⟨job', hjob', hinput⟩ | ⟨index, row, hrow, hnames⟩
  · have hsame := hcolumns jobId
    rw [hjob', map_some] at hsame
    obtain ⟨job, hjob, hadmitted⟩ := map_eq_some_iff.mp hsame.symm
    have hfile : job.admitted.inputFileId = job'.admitted.inputFileId := by rw [hadmitted]
    exact .inl ⟨job, hjob, hfile.trans hinput⟩
  · exact .inr ⟨index, row, hitems ▸ hrow, hnames⟩

theorem names_of_eq (hcolumns : a'.jobColumns = a.jobColumns)
    (hitems : a'.itemColumns = a.itemColumns) (h : Names a' jobId fileId) :
    Names a jobId fileId :=
  names_of_admitted (fun _ => by rw [hcolumns]) hitems h

theorem mem_fileIds_item {item : GeminiBatchCreateItem} (hitem : item ∈ create.items)
    (h : item.columns.names fileId = true) : fileId ∈ create.fileIds := by
  simp only [ItemColumns.names, GeminiBatchCreateItem.columns, guard_iffs,
    List.contains_iff_mem] at h
  simp only [GeminiBatchCreate.fileIds, mem_append, mem_filterMap, mem_flatMap]
  rcases h with hinput | href
  · exact .inl (.inr ⟨item, hitem, hinput⟩)
  · exact .inr ⟨item, hitem, href⟩

theorem Inserted.names (hinserted : Inserted a a' create) (h : Names a' jobId fileId) :
    Names a jobId fileId ∨ (jobId = create.jobId ∧ fileId ∈ create.fileIds) := by
  rcases h with ⟨job, hjob, hinput⟩ | ⟨index, row, hrow, hnames⟩
  · obtain ⟨new, hcolumns, -, hfile, -⟩ := hinserted.columns
    rw [hcolumns] at hjob
    rcases find?_put_cases hjob with ⟨rfl, rfl⟩ | hold
    · refine .inr ⟨rfl, ?_⟩
      rw [hfile] at hinput
      simp [GeminiBatchCreate.fileIds, hinput]
    · exact .inl (.inl ⟨job, hold, hinput⟩)
  · rcases hinserted.items _ _ hrow with hold | ⟨item, hitem, hkey, rfl⟩
    · exact .inl (.inr ⟨index, row, hold, hnames⟩)
    · exact .inr ⟨(Prod.mk.inj hkey).1, mem_fileIds_item hitem hnames⟩

end Names

/-! ## One call -/

section Step

variable {a a' : Authority} {op : AuthorityOp} {sha256 : List UInt8 → Digest}
  {fileId : String}

theorem fileOf_eq (h : a.fileOf accountId fileId = some f) :
    a.files.find? fileId = some f ∧ f.accountId = accountId := by
  obtain ⟨hfind, haccount⟩ := filter_eq_some_iff.mp h
  exact ⟨hfind, beq_iff_eq.mp haccount⟩

theorem spared_file (hspares : (a.fileOf accountId id).all
      (fun f => f.state != .processing || f.payloadDeletedTs.isNone) = true)
    (hfind : a.fileOf accountId id = some f) (hstate : f.state = .processing)
    (hdeleted : a.deleted fileId = true) : id ≠ fileId := by
  rintro rfl
  rw [hfind, all_some, hstate] at hspares
  rw [Authority.deleted, (fileOf_eq hfind).1, any_some] at hdeleted
  cases hts : f.payloadDeletedTs with
  | none => rw [hts] at hdeleted; cases hdeleted
  | some => rw [hts] at hspares; cases hspares

theorem create_spared (hspares : spares a (.create now create creatorKey) = true)
    (hfresh : a.batch.jobs.find? create.jobId = none)
    (hunanswered : create.idempotencyDigest.bind (jobUnderDigest a create.accountId)
      = none) (hdeleted : a.deleted fileId = true) : fileId ∉ create.fileIds := by
  intro hmem
  simp only [spares, hfresh, hunanswered, isSome_none, Bool.false_or, all_eq_true] at hspares
  have hlive := hspares fileId hmem
  rw [hdeleted] at hlive
  cases hlive

theorem publish_spared {admissionId : String} {expectedItems : Int} {digest : Digest}
    {adm : Admission} (hspares : spares a
      (.admissionPublish now admissionId expectedItems digest creatorKey) = true)
    (hfind : a.admissions.find? admissionId = some adm) (hstate : adm.state = .staging)
    (hunanswered : adm.idempotencyDigest.bind (jobUnderDigest a adm.accountId) = none)
    (hdeleted : a.deleted fileId = true) :
    fileId ∉ (adm.create digest ((a.stagedOf admissionId).map (·.item))).fileIds := by
  intro hmem
  simp only [spares, hfind, all_some, hstate, bne_self_eq_false, hunanswered,
    isSome_none, Bool.false_or, all_eq_true] at hspares
  have hlive := hspares fileId hmem
  rw [hdeleted] at hlive
  cases hlive

/-- A step leaves the file alone. -/
structure Rests (a a' : Authority) (fileId : String) : Prop where
  file : a'.files.find? fileId = a.files.find? fileId
  chunks : ∀ index, a.chunks.find? (fileId, index) = none →
    a'.chunks.find? (fileId, index) = none
  names : ∀ jobId, Names a' jobId fileId → Names a jobId fileId

theorem rests_of_eq (hfiles : a'.files = a.files) (hchunks : a'.chunks = a.chunks)
    (hcolumns : a'.jobColumns = a.jobColumns)
    (hitems : a'.itemColumns = a.itemColumns) : Rests a a' fileId :=
  ⟨by rw [hfiles], fun _ h => by rw [hchunks, h], fun _ h => names_of_eq hcolumns hitems h⟩

theorem fenced_of_eq (h : fencedBuild a owner claim ts = .ok (some build)) :
    fenced a owner claim ts = true := by
  rw [fenced, h]
  rfl

theorem fenced_spared (fence : fencedBuild a owner claim ts = .ok (some build))
    (hspares : (!(fenced a owner claim ts && a.deleted claim.fileId)) = true)
    (hdeleted : a.deleted fileId = true) : claim.fileId ≠ fileId := by
  rintro rfl
  rw [fenced_of_eq fence, hdeleted] at hspares
  cases hspares

theorem updateOutputFile_other (h : a.updateOutputFile id p g = .ok a')
    (hne : id ≠ fileId) : a'.files.find? fileId = a.files.find? fileId := by
  rcases updateOutputFile_eq h with ⟨rfl, -⟩ | ⟨f, -, -, -, rfl⟩
  · rfl
  · exact find?_put_ne _ _ hne

theorem deleteChunks_none {index : Int} (h : a.chunks.find? (fileId, index) = none) :
    (a.deleteChunks id).chunks.find? (fileId, index) = none := by
  cases hrow : (a.deleteChunks id).chunks.find? (fileId, index) with
  | none => rfl
  | some =>
    rw [(find?_delete.mp hrow).1] at h
    cases h

theorem linkOutput_rests {jobId : String} {completed : Int}
    (h : linkOutput a jobId id completed = .ok a') : Rests a a' fileId := by
  rcases linkOutput_eq h with rfl | ⟨job, batch, hjob, -, rfl⟩
  · exact rests_of_eq rfl rfl rfl rfl
  · refine ⟨rfl, fun _ hnone => hnone, fun _ hnames => ?_⟩
    refine names_of_admitted (fun id' => ?_) ?_ hnames
    swap
    · rfl
    rw [find?_put]
    split
    · rename_i hid
      subst hid
      rw [hjob]
      rfl
    · rfl

theorem effect_rests (h : Effect sha256 a op a') (hspares : spares a op = true)
    (hdeleted : a.deleted fileId = true) : Rests a a' fileId := by
  have hpresent : a.files.find? fileId ≠ none := by
    intro hnone
    rw [Authority.deleted, hnone] at hdeleted
    cases hdeleted
  cases h with
  | unchanged | beginNew | beginAgain | publishReplay | abort | outputRenew =>
    exact rests_of_eq rfl rfl rfl rfl
  | call op =>
    obtain ⟨p, -, hopened⟩ := batchCall_eq a op
    refine ⟨?_, fun index hnone => by rw [hopened.chunks]; exact hnone,
      fun jobId hnames => names_of_admitted hopened.jobColumns hopened.itemColumns hnames⟩
    rcases hopened.files fileId with hsame | ⟨hnone, -⟩
    · exact hsame
    · exact absurd hnone hpresent
  | fileCreate _ _ _ absent =>
    refine ⟨find?_put_ne _ _ ?_, fun _ hnone => hnone, fun _ hnames => hnames⟩
    rintro rfl
    exact hpresent absent
  | fileAppend _ _ _ _ _ _ find processing index =>
    have hne := spared_file hspares find processing hdeleted
    refine ⟨find?_put_ne _ _ hne, fun index hnone => ?_, fun _ hnames => hnames⟩
    rw [find?_put_ne]
    · exact hnone
    · exact fun heq => hne (Prod.mk.inj heq).1
  | fileComplete _ _ _ _ find processing =>
    exact ⟨find?_put_ne _ _ (spared_file hspares find processing hdeleted),
      fun _ hnone => hnone, fun _ hnames => hnames⟩
  | fileDelete _ _ id _ find kept =>
    have hne : id ≠ fileId := by
      rintro rfl
      rw [Authority.deleted, (fileOf_eq find).1, any_some, kept] at hdeleted
      cases hdeleted
    exact ⟨find?_put_ne _ _ hne, fun index hnone => deleteChunks_none hnone,
      fun _ hnames => hnames⟩
  | create _ _ _ _ _ _ insert unanswered =>
    have hinserted := insertBatch_inserted insert
    refine ⟨by rw [hinserted.files], fun _ hnone => by rw [hinserted.chunks, hnone],
      fun jobId hnames => (hinserted.names hnames).resolve_right fun hnew => ?_⟩
    exact create_spared hspares hinserted.fresh unanswered hdeleted hnew.2
  | append _ _ _ _ _ _ _ _ _ _ stage =>
    obtain ⟨⟨t, ht⟩, -⟩ := stage_eq stage
    rw [ht]
    exact rests_of_eq rfl rfl rfl rfl
  | publish _ _ _ _ _ _ _ find staging _ _ insert unanswered =>
    have hinserted := insertBatch_inserted insert
    refine ⟨by rw [← hinserted.files]; rfl,
      fun _ hnone => Eq.trans (by rw [← hinserted.chunks]; rfl) hnone,
      fun jobId hnames => (hinserted.names (names_of_eq rfl rfl hnames)).resolve_right
        fun hnew => ?_⟩
    exact publish_spared hspares find staging unanswered hdeleted hnew.2
  | outputClaim ts _ _ _ jobId build _ _ _ find claimable reset =>
    have hne : build.fileId ≠ fileId := by
      rintro rfl
      simp only [spares, guard_iffs] at hspares
      have hclaimed := any_eq_false_iff.mp hspares jobId build find
      rw [claimable, hdeleted] at hclaimed
      cases hclaimed
    have hfiles := updateOutputFile_other reset hne
    rw [updateOutputFile_files reset]
    exact ⟨hfiles, fun _ hnone => deleteChunks_none hnone, fun _ hnames =>
      names_of_admitted (setOutputState_columns { a with builds := _ } jobId .building ts)
        rfl hnames⟩
  | outputAppend _ _ _ _ _ _ _ _ fence index _ grow =>
    have hne := fenced_spared fence hspares hdeleted
    have hfiles := updateOutputFile_other grow hne
    rw [updateOutputFile_files grow]
    refine ⟨hfiles, fun index hnone => ?_, fun _ hnames => names_of_eq rfl rfl hnames⟩
    rw [find?_put_ne]
    · exact hnone
    · exact fun heq => hne (Prod.mk.inj heq).1
  | outputFail ts _ claim =>
    exact ⟨rfl, fun _ hnone => hnone, fun _ hnames => names_of_admitted
      (setOutputState_columns { a with builds := _ } claim.jobId .failed ts) rfl hnames⟩
  | outputFinalize _ _ _ _ _ _ _ _ fence _ _ activate link =>
    have hfiles := updateOutputFile_other activate (fenced_spared fence hspares hdeleted)
    have hlink : Rests _ _ fileId := linkOutput_rests link
    rw [updateOutputFile_files activate] at hlink
    exact ⟨hlink.file.trans hfiles, hlink.chunks,
      fun jobId hnames => hlink.names jobId (names_of_eq rfl rfl hnames)⟩

/-- Files stay, and none is newly deleted. -/
structure Filed (a a' : Authority) : Prop where
  kept : ∀ id f, a.files.find? id = some f →
    ∃ f', a'.files.find? id = some f' ∧ f'.accountId = f.accountId
  deleted : ∀ id, a'.deleted id = true → a.deleted id = true

theorem filed_of_eq (hfiles : a'.files = a.files) : Filed a a' :=
  ⟨fun _ f hfind => ⟨f, hfiles ▸ hfind, rfl⟩,
    fun _ h => by rw [Authority.deleted, ← hfiles]; exact h⟩

theorem filed_put {f' : BatchFile} (hfiles : a'.files = a.files.put id f')
    (hfind : a.files.find? id = some f) (haccount : f'.accountId = f.accountId)
    (hmark : f'.payloadDeletedTs = f.payloadDeletedTs) : Filed a a' := by
  refine ⟨fun id' g hg => ?_, fun id' hdeleted => ?_⟩
  · rw [hfiles, find?_put]
    split
    · rename_i hid
      subst hid
      cases hfind.symm.trans hg
      exact ⟨f', rfl, haccount⟩
    · exact ⟨g, hg, rfl⟩
  · rw [Authority.deleted, hfiles, find?_put] at hdeleted
    rw [Authority.deleted]
    split at hdeleted
    · rename_i hid
      subst hid
      rw [hfind, any_some, ← hmark]
      exact hdeleted
    · exact hdeleted

theorem filed_new (h : ∀ id, a'.files.find? id = a.files.find? id ∨
      (a.files.find? id = none ∧ ∃ f, a'.files.find? id = some f ∧
        f.payloadDeletedTs = none)) : Filed a a' := by
  refine ⟨fun id f hfind => ?_, fun id hdeleted => ?_⟩
  · rcases h id with hsame | ⟨hnone, -⟩
    · exact ⟨f, hsame.trans hfind, rfl⟩
    · rw [hnone] at hfind
      cases hfind
  · rcases h id with hsame | ⟨-, f, hnew, hmark⟩
    · rw [Authority.deleted, ← hsame]
      exact hdeleted
    · rw [Authority.deleted, hnew, any_some, hmark] at hdeleted
      cases hdeleted

theorem updateOutputFile_filed (h : a.updateOutputFile id p g = .ok a')
    (haccount : ∀ f, (g f).accountId = f.accountId)
    (hmark : ∀ f, (g f).payloadDeletedTs = f.payloadDeletedTs) : Filed a a' := by
  rcases updateOutputFile_eq h with ⟨rfl, -⟩ | ⟨f, hfind, -, -, rfl⟩
  · exact filed_of_eq rfl
  · exact filed_put rfl hfind (haccount f) (hmark f)

theorem effect_filed (h : Effect sha256 a op a')
    (hdelete : ∀ ts accountId id, op ≠ .fileDelete ts accountId id) : Filed a a' := by
  cases h with
  | unchanged | beginNew | beginAgain | publishReplay | abort | outputRenew
  | outputFail => exact filed_of_eq rfl
  | call op =>
    obtain ⟨p, -, hopened⟩ := batchCall_eq a op
    refine filed_new fun id => ?_
    rcases hopened.files id with hsame | ⟨hnone, jobId, accountId, ts, -, hnew⟩
    · exact .inl hsame
    · exact .inr ⟨hnone, _, hnew, rfl⟩
  | fileCreate now create valid absent =>
    refine filed_new fun id => ?_
    rw [find?_put]
    split
    · rename_i hid
      subst hid
      exact .inr ⟨absent, _, rfl, rfl⟩
    · exact .inl rfl
  | fileAppend accountId id offset chunk f valid find processing index fits full
  | fileComplete _ _ _ _ find => exact filed_put rfl (fileOf_eq find).1 rfl rfl
  | fileDelete ts accountId id => exact absurd rfl (hdelete ts accountId id)
  | create _ _ _ _ _ _ insert | publish _ _ _ _ _ _ _ _ _ _ _ insert =>
    exact filed_of_eq (insertBatch_inserted insert).files
  | append _ _ _ _ _ _ _ _ _ _ stage =>
    obtain ⟨⟨t, ht⟩, -⟩ := stage_eq stage
    rw [ht]
    exact filed_of_eq rfl
  | outputClaim _ _ _ _ _ _ _ _ _ _ _ reset =>
    have hfiled := updateOutputFile_filed reset (fun _ => rfl) (fun _ => rfl)
    exact ⟨hfiled.kept, hfiled.deleted⟩
  | outputAppend _ _ _ _ _ _ _ _ _ _ _ grow =>
    have hfiled := updateOutputFile_filed grow (fun _ => rfl) (fun _ => rfl)
    exact ⟨hfiled.kept, hfiled.deleted⟩
  | outputFinalize _ _ _ _ _ _ a1 a2 _ _ _ activate link =>
    have hfiled := updateOutputFile_filed activate (fun _ => rfl) (fun _ => rfl)
    have hfiles : a2.files = a1.files := by
      rcases linkOutput_eq link with rfl | ⟨job, batch, -, -, rfl⟩
      · rfl
      · rfl
    exact ⟨fun id f hfind => hfiles ▸ hfiled.kept id f hfind, fun id hdeleted =>
      hfiled.deleted id (by rw [Authority.deleted, ← hfiles]; exact hdeleted)⟩

def NamesOwn (a : Authority) (jobId fileId : String) : Prop :=
  ∃ job f, a.batch.jobs.find? jobId = some job ∧ a.files.find? fileId = some f ∧
    f.accountId = job.accountId

theorem availableSize_file (h : (availableSize a accountId now fileId).isSome = true) :
    ∃ f, a.files.find? fileId = some f ∧ f.accountId = accountId := by
  rw [availableSize, isSome_map] at h
  obtain ⟨f, hfound⟩ := isSome_iff_exists.mp h
  obtain ⟨hfind, havailable⟩ := filter_eq_some_iff.mp hfound
  simp only [BatchFile.available, guard_iffs] at havailable
  exact ⟨f, hfind, havailable.1.1⟩

theorem Inserted.namesOwn (hinserted : Inserted a a' create)
    (havailable : ∀ fileId ∈ create.fileIds,
      (availableSize a create.accountId now fileId).isSome = true)
    (hmem : fileId ∈ create.fileIds) : NamesOwn a' create.jobId fileId := by
  obtain ⟨f, hfind, haccount⟩ := availableSize_file (havailable fileId hmem)
  obtain ⟨c, hid, hcaccount, -, -, hpublished⟩ := hinserted.batch
  obtain ⟨row, hjobs, hrow, -⟩ := hpublished.job
  refine ⟨row, f, ?_, hinserted.files ▸ hfind, ?_⟩
  · rw [hjobs, hid, find?_put_self]
  · rw [haccount, hrow, hcaccount]

theorem effect_names {jobId : String} (h : Effect sha256 a op a')
    (hnames : Names a' jobId fileId) : Names a jobId fileId ∨ NamesOwn a' jobId fileId := by
  cases h with
  | unchanged | fileCreate | fileAppend | fileComplete | fileDelete | beginNew
  | beginAgain | publishReplay | abort | outputRenew =>
    exact .inl (names_of_eq rfl rfl hnames)
  | call op =>
    obtain ⟨p, -, hopened⟩ := batchCall_eq a op
    exact .inl (names_of_admitted hopened.jobColumns hopened.itemColumns hnames)
  | create _ _ _ _ _ available insert =>
    have hinserted := insertBatch_inserted insert
    rcases hinserted.names hnames with hold | ⟨rfl, hmem⟩
    · exact .inl hold
    · exact .inr (hinserted.namesOwn available hmem)
  | append _ _ _ _ _ _ _ _ _ _ stage =>
    obtain ⟨⟨t, ht⟩, -⟩ := stage_eq stage
    rw [ht] at hnames
    exact .inl (names_of_eq rfl rfl hnames)
  | publish _ _ _ _ _ _ _ _ _ _ available insert =>
    have hinserted := insertBatch_inserted insert
    rcases hinserted.names (names_of_eq rfl rfl hnames) with hold | ⟨rfl, hmem⟩
    · exact .inl hold
    · obtain ⟨job, f, hown⟩ := hinserted.namesOwn available hmem
      exact .inr ⟨job, f, hown⟩
  | outputClaim ts _ _ _ id _ _ _ _ _ _ reset =>
    rw [updateOutputFile_files reset] at hnames
    exact .inl (names_of_admitted
      (setOutputState_columns { a with builds := _ } id .building ts) rfl hnames)
  | outputAppend _ _ _ _ _ _ _ _ _ _ _ grow =>
    rw [updateOutputFile_files grow] at hnames
    exact .inl (names_of_eq rfl rfl hnames)
  | outputFail ts _ claim =>
    exact .inl (names_of_admitted
      (setOutputState_columns { a with builds := _ } claim.jobId .failed ts) rfl hnames)
  | outputFinalize _ _ _ _ _ _ _ _ _ _ _ activate link =>
    have hlink : Rests _ _ fileId := linkOutput_rests link
    rw [updateOutputFile_files activate] at hlink
    exact .inl (names_of_eq rfl rfl (hlink.names jobId (names_of_eq rfl rfl hnames)))

end Step

/-! ## Every run -/

/-- Deleted files have no chunks, and the jobs that name them are
completed. -/
structure Gone (a : Authority) : Prop where
  chunks : ∀ fileId, a.deleted fileId = true → ∀ index,
    a.chunks.find? (fileId, index) = none
  completed : ∀ fileId jobId, a.deleted fileId = true → Names a jobId fileId →
    ∃ job, a.batch.jobs.find? jobId = some job ∧ job.completedTs.isSome = true
  own : ∀ jobId fileId, Names a jobId fileId → NamesOwn a jobId fileId
  marks : JobsOk a.batch

theorem gone_fresh (store : Store) : Gone (.fresh store) where
  chunks := by
    intro fileId h
    cases h
  completed := by
    intro fileId jobId h
    cases h
  own := by
    rintro jobId fileId (⟨job, hjob, -⟩ | ⟨index, row, hrow, -⟩)
    · cases hjob
    · cases hrow
  marks := by
    intro id job h
    cases h

section Run

variable {a a' : Authority} {op : AuthorityOp} {sha256 : List UInt8 → Digest}

variable {jobId fileId : String}

theorem unreferenced_completed (hgone : Gone a) (hfind : a.fileOf accountId fileId = some f)
    (hfree : fileReferenced a accountId fileId ts = false) (hnames : Names a jobId fileId) :
    ∃ job, a.batch.jobs.find? jobId = some job ∧ job.completedTs.isSome = true := by
  obtain ⟨job, f', hjob, hfile, haccount⟩ := hgone.own jobId fileId hnames
  obtain ⟨hfile', hown⟩ := fileOf_eq hfind
  cases hfile'.symm.trans hfile
  refine ⟨job, hjob, ?_⟩
  have hneeds : job.needsFiles accountId ts = false := by
    rw [fileReferenced, Bool.or_eq_false_iff, any_eq_false_iff, any_eq_false_iff] at hfree
    rcases hnames with ⟨row, hrow, hinput⟩ | ⟨index, row, hrow, hitem⟩
    · have hquiet := hfree.1 jobId row hrow
      rw [hinput, beq_self_eq_true, Bool.true_or, Bool.true_and, hjob] at hquiet
      exact hquiet
    · have hquiet := hfree.2 (jobId, index) row hrow
      rw [hitem, Bool.true_and, hjob] at hquiet
      exact hquiet
  -- the job is deleted, and so completed, or its result has expired
  cases hcompleted : job.completedTs with
  | some => rfl
  | none =>
    have hkept : job.deleteTs = none := by
      cases hdeleted : job.deleteTs with
      | none => rfl
      | some =>
        have hmarked := (hgone.marks jobId job hjob).deleted (by rw [hdeleted]; rfl)
        rw [hcompleted] at hmarked
        cases hmarked
    simp [BatchJob.needsFiles, hkept, hcompleted, ← haccount, hown] at hneeds

theorem completed_kept (hkept : Kept a a')
    (h : ∃ job, a.batch.jobs.find? jobId = some job ∧ job.completedTs.isSome = true) :
    ∃ job, a'.batch.jobs.find? jobId = some job ∧ job.completedTs.isSome = true := by
  obtain ⟨job, hjob, hcompleted⟩ := h
  obtain ⟨job', hjob', -, -, hadvances⟩ := hkept.batch.jobs jobId job hjob
  exact ⟨job', hjob', hadvances.completed hcompleted⟩

theorem own_kept (hgone : Gone a) (h : Effect sha256 a op a')
    (hfiles : ∀ id f, a.files.find? id = some f →
      ∃ f', a'.files.find? id = some f' ∧ f'.accountId = f.accountId)
    (hnames : Names a' jobId fileId) :
    NamesOwn a' jobId fileId := by
  rcases effect_names h hnames with hold | hnew
  · obtain ⟨job, f, hjob, hfind, haccount⟩ := hgone.own jobId fileId hold
    obtain ⟨job', hjob', hsame, -⟩ := (effect_kept h).batch.jobs jobId job hjob
    obtain ⟨f', hfind', hown⟩ := hfiles fileId f hfind
    exact ⟨job', f', hjob', hfind', by rw [hown, haccount, hsame]⟩
  · exact hnew

theorem fileDelete_gone (find : a.fileOf accountId id = some f)
    (hfree : fileReferenced a accountId id ts = false) (hgone : Gone a) :
    Gone { a.deleteChunks id with files := a.files.put id (f.payloadDeleted ts) } := by
  have hold : ∀ fileId, id ≠ fileId → Authority.deleted
      { a.deleteChunks id with files := a.files.put id (f.payloadDeleted ts) } fileId = true →
      a.deleted fileId = true := by
    intro fileId hne hdeleted
    rw [Authority.deleted, find?_put_ne _ _ hne] at hdeleted
    exact hdeleted
  refine ⟨fun fileId hdeleted index => ?_, fun fileId jobId hdeleted hnames => ?_,
    fun jobId fileId hnames => ?_, hgone.marks⟩
  · by_cases hid : id = fileId
    · subst hid
      cases hrow : (a.deleteChunks id).chunks.find? (id, index) with
      | none => rfl
      | some =>
        have hother := (find?_delete.mp hrow).2
        rw [beq_self_eq_true] at hother
        cases hother
    · exact deleteChunks_none (hgone.chunks fileId (hold fileId hid hdeleted) index)
  · by_cases hid : id = fileId
    · subst hid
      have hnamed : Names a jobId id := names_of_eq rfl rfl hnames
      have hcompleted := unreferenced_completed hgone find hfree hnamed
      exact hcompleted
    · exact hgone.completed fileId jobId (hold fileId hid hdeleted) hnames
  · obtain ⟨job, g, hjob, hfile, haccount⟩ := hgone.own jobId fileId hnames
    by_cases hid : id = fileId
    · subst hid
      cases (fileOf_eq find).1.symm.trans hfile
      exact ⟨job, _, hjob, find?_put_self .., haccount⟩
    · exact ⟨job, g, hjob, (find?_put_ne _ _ hid).trans hfile, haccount⟩

theorem effect_gone (h : Effect sha256 a op a') (hspares : spares a op = true)
    (hgone : Gone a) : Gone a' := by
  by_cases hdelete : ∃ ts accountId id, op = .fileDelete ts accountId id
  · obtain ⟨ts, accountId, id, rfl⟩ := hdelete
    cases h with
    | unchanged => exact hgone
    | fileDelete _ _ _ _ find _ unreferenced =>
      exact fileDelete_gone find unreferenced hgone
  · have hfiled := effect_filed h fun ts accountId id heq =>
      hdelete ⟨ts, accountId, id, heq⟩
    refine ⟨fun fileId hdeleted index => ?_, fun fileId jobId hdeleted hnames => ?_,
      fun jobId fileId hnames => own_kept hgone h hfiled.kept hnames,
      effect_jobsOk h hgone.marks⟩
    · have hbefore := hfiled.deleted fileId hdeleted
      exact (effect_rests h hspares hbefore).chunks index (hgone.chunks fileId hbefore index)
    · have hbefore := hfiled.deleted fileId hdeleted
      exact completed_kept (effect_kept h) (hgone.completed fileId jobId hbefore
        ((effect_rests h hspares hbefore).names jobId hnames))

theorem rests_run (hdeleted : a.deleted fileId = true)
    (hops : Along (Authority.exec sha256) (fun a op => spares a op = true) a ops) :
    Rests a (run (Authority.exec sha256) a ops) fileId := by
  induction ops generalizing a with
  | nil => exact rests_of_eq rfl rfl rfl rfl
  | cons op _ ih =>
    have hstep := effect_rests (exec_effect sha256 a op) hops.1 hdeleted
    have hstill : (a.exec sha256 op).deleted fileId = true := by
      rw [Authority.deleted, hstep.file]
      exact hdeleted
    have hrest := ih hstill hops.2
    exact ⟨hrest.file.trans hstep.file,
      fun index hnone => hrest.chunks index (hstep.chunks index hnone),
      fun jobId hnames => hstep.names jobId (hrest.names jobId hnames)⟩

theorem gone_run (sha256 : List UInt8 → Digest) (store : Store)
    (hops : Along (Authority.exec sha256) (fun a op => spares a op = true)
      (.fresh store) ops) : Gone (run (Authority.exec sha256) (.fresh store) ops) :=
  run_invariant_along (I := Gone)
    (fun a op hgone hspares => effect_gone (exec_effect sha256 a op) hspares hgone)
    (gone_fresh store) hops

/-- A file that was deleted at `a` is so at `a'`, with the state it had and no
chunks, and every job that names it did so at `a` and was completed. -/
structure StaysDeleted (a a' : Authority) (fileId : String) : Prop where
  deleted : a'.deleted fileId = true
  state : (a'.files.find? fileId).map (·.state) = (a.files.find? fileId).map (·.state)
  chunks : ∀ index, a'.chunks.find? (fileId, index) = none
  jobs : ∀ jobId, Names a' jobId fileId → Names a jobId fileId ∧
    ∃ job, a.batch.jobs.find? jobId = some job ∧ job.completedTs.isSome = true

/-- In every run that spares the deleted files a deleted file stays deleted,
and no job names it that was not completed before. -/
theorem deleted_stays_deleted (sha256 : List UInt8 → Digest) (store : Store)
    (ops later : List AuthorityOp)
    (hspares : Along (Authority.exec sha256) (fun a op => spares a op = true)
      (.fresh store) (ops ++ later)) (fileId : String)
    (hdeleted : (run (Authority.exec sha256) (.fresh store) ops).deleted fileId = true) :
    StaysDeleted (run (Authority.exec sha256) (.fresh store) ops)
      (run (Authority.exec sha256) (.fresh store) (ops ++ later)) fileId := by
  obtain ⟨hbefore, hlater⟩ := along_append.mp hspares
  have hgone := gone_run sha256 store hbefore
  have hrests := rests_run hdeleted hlater
  rw [run_append]
  refine ⟨?_, by rw [hrests.file], fun index => ?_, fun jobId hnames => ?_⟩
  · rw [Authority.deleted, hrests.file]
    exact hdeleted
  · exact hrests.chunks index (hgone.chunks fileId hdeleted index)
  · have hnamed := hrests.names jobId hnames
    exact ⟨hnamed, hgone.completed fileId jobId hdeleted hnamed⟩

end Run

/-! ## Deleted files that come back -/

def sampleFile (sizeBytes : Int) : GeminiBatchFileCreate :=
  { fileId := "file", accountId := "acct", displayName := "input"
    mimeType := "application/jsonl", sizeBytes, sha256Digest := .fill 0
    sourceKind := .clientUpload, createTs := 100, expirationTs := 100000000 }

def sampleChunk (index : Int) (length : Nat) : GeminiBatchFileChunk :=
  { chunkIndex := index, keyId := "key", nonce := List.replicate 24 0
    ciphertext := List.replicate (length + 16) 0, plaintextLen := length
    plaintextDigest := .fill 0, createdTs := 100 }

def deletedRun : List AuthorityOp :=
  [.fileCreate 100 (sampleFile 0),
   .fileComplete "acct" "file" ⟨100, .fill 0, .fill 0⟩] ++ settledRun.take 2 ++
  [.create 100
     { sampleBatch with
       items := [{ (sampleStaged "req" 0).item with referencedFileIds := ["file"] }] }
     "key"] ++ settledRun.drop 3 ++
  [.fileDelete 10000000 "acct" "file"]

/-- A file that a settled job used is deleted, and then appended to. -/
theorem deleted_stays_deleted_used :
    (run (Authority.exec fun _ => .fill 0) (.fresh fundedStore) deletedRun).deleted "file"
        = true ∧
      StaysDeleted (run (Authority.exec fun _ => .fill 0) (.fresh fundedStore) deletedRun)
        (run (Authority.exec fun _ => .fill 0) (.fresh fundedStore)
          (deletedRun ++ [.fileAppend "acct" "file" 0 (sampleChunk 0 5)])) "file" :=
  have hdeleted : (run (Authority.exec fun _ => .fill 0) (.fresh fundedStore)
      deletedRun).deleted "file" = true := by decide +kernel
  ⟨hdeleted, deleted_stays_deleted _ fundedStore deletedRun _ (by decide +kernel) "file" hdeleted⟩

def lateChunkRun : List AuthorityOp :=
  [.fileCreate 100 (sampleFile 5), .fileDelete 101 "acct" "file"]

/-- The chunk is stored. -/
theorem deleted_then_appended :
    (run (Authority.exec fun _ => .fill 0) (.fresh fundedStore) lateChunkRun).deleted "file"
        = true ∧
      ¬ StaysDeleted
        (run (Authority.exec fun _ => .fill 0) (.fresh fundedStore) lateChunkRun)
        (run (Authority.exec fun _ => .fill 0) (.fresh fundedStore)
          (lateChunkRun ++ [.fileAppend "acct" "file" 0 (sampleChunk 0 5)])) "file" := by
  refine ⟨by decide +kernel, fun h => ?_⟩
  have hchunk : ((run (Authority.exec fun _ => .fill 0) (.fresh fundedStore)
      (lateChunkRun ++ [.fileAppend "acct" "file" 0 (sampleChunk 0 5)])).chunks.find?
      ("file", 0)).isSome = true := by decide +kernel
  rw [h.chunks 0] at hchunk
  cases hchunk

end ApiToken.Gemini
