import ApiToken.Gemini.Effects
import ApiToken.Gemini.Life

/-!
# What the calls leave alone

The rows of a batch that no call rewrites once it is inserted: the columns
it was admitted with, the ids of its items and the files they name. Around
them, what an insert adds and what closing a job adds.
-/

namespace ApiToken.Gemini

open Registry

variable {a a' : Authority} {id jobId fileId : String} {create : GeminiBatchCreate}
  {p : BatchFile → Bool} {g : BatchFile → BatchFile} {completed : Int} {b b' : Batch}

/-! ## Closing jobs -/

def JobColumns.admitted (job : JobColumns) : JobColumns :=
  { job with outputFileId := none, outputState := none }

/-- What opening an output leaves as it was. -/
structure Opened (a a' : Authority) : Prop where
  batch : a'.batch = a.batch
  itemColumns : a'.itemColumns = a.itemColumns
  chunks : a'.chunks = a.chunks
  admissions : a'.admissions = a.admissions
  staged : a'.staged = a.staged
  jobColumns : ∀ id, (a'.jobColumns.find? id).map (·.admitted)
    = (a.jobColumns.find? id).map (·.admitted)
  files : ∀ id, a'.files.find? id = a.files.find? id ∨
    (a.files.find? id = none ∧ ∃ jobId accountId ts,
      id = outputFileId jobId ∧ a'.files.find? id = some (outputFile accountId ts))
  ready : ∀ id build, a.builds.find? id = some build → build.state = .ready →
    ∃ build', a'.builds.find? id = some build' ∧ build'.state = .ready ∧
      build'.nextItemIndex = build.nextItemIndex
  building : ∀ id build', a'.builds.find? id = some build' →
    build'.state = .building → a.builds.find? id = some build'
  fileIds : ∀ id build', a'.builds.find? id = some build' →
    (∃ build, a.builds.find? id = some build ∧ build.fileId = build'.fileId) ∨
      (a'.files.find? build'.fileId).isSome = true

theorem Opened.refl (a : Authority) : Opened a a where
  batch := rfl
  itemColumns := rfl
  chunks := rfl
  admissions := rfl
  staged := rfl
  jobColumns := fun _ => rfl
  files := fun _ => .inl rfl
  ready := fun _ build hfind hready => ⟨build, hfind, hready, rfl⟩
  building := fun _ _ hfind _ => hfind
  fileIds := fun _ build' hfind => .inl ⟨build', hfind, rfl⟩

theorem Opened.keepsFile (h : Opened a a') (hfile : (a.files.find? id).isSome = true) :
    (a'.files.find? id).isSome = true := by
  rcases h.files id with hsame | ⟨hnone, -⟩
  · rw [hsame]
    exact hfile
  · rw [hnone] at hfile
    cases hfile

theorem Opened.trans {a'' : Authority} (h : Opened a a') (h' : Opened a' a'') :
    Opened a a'' where
  batch := h'.batch.trans h.batch
  itemColumns := h'.itemColumns.trans h.itemColumns
  chunks := h'.chunks.trans h.chunks
  admissions := h'.admissions.trans h.admissions
  staged := h'.staged.trans h.staged
  jobColumns := fun id => (h'.jobColumns id).trans (h.jobColumns id)
  files := by
    intro id
    rcases h'.files id with heq' | ⟨hnone', jobId, accountId, ts, hid, hnew⟩
    · rcases h.files id with heq | ⟨hnone, jobId, accountId, ts, hid, hnew⟩
      · exact .inl (heq'.trans heq)
      · exact .inr ⟨hnone, jobId, accountId, ts, hid, heq'.trans hnew⟩
    · rcases h.files id with heq | ⟨hnone, jobId', accountId', ts', hid', hnew'⟩
      · exact .inr ⟨heq ▸ hnone', jobId, accountId, ts, hid, hnew⟩
      · rw [hnew'] at hnone'
        cases hnone'
  ready := by
    intro id build hfind hready
    obtain ⟨build1, hfind1, hready1, hnext1⟩ := h.ready id build hfind hready
    obtain ⟨build2, hfind2, hready2, hnext2⟩ := h'.ready id build1 hfind1 hready1
    exact ⟨build2, hfind2, hready2, hnext2.trans hnext1⟩
  building := fun id build' hfind hbuilding =>
    h.building id build' (h'.building id build' hfind hbuilding) hbuilding
  fileIds := by
    intro id build' hfind
    rcases h'.fileIds id build' hfind with ⟨build1, hfind1, hid1⟩ | hfile
    · rcases h.fileIds id build1 hfind1 with ⟨build, hbuild, hid⟩ | hfile
      · exact .inl ⟨build, hbuild, hid.trans hid1⟩
      · rw [hid1] at hfile
        exact .inr (h'.keepsFile hfile)
    · exact .inr hfile

theorem openOutput_opened (a : Authority) (jobId accountId : String) (ts : Int) :
    Opened a (openOutput a jobId accountId ts) where
  batch := rfl
  itemColumns := rfl
  chunks := rfl
  admissions := rfl
  staged := rfl
  jobColumns := by
    intro id
    simp only [openOutput, find?_update, Option.map_map]
    congr 1
    funext job
    simp only [Function.comp_apply]
    split <;> rfl
  files := by
    intro id
    simp only [openOutput]
    split
    · exact .inl rfl
    · rename_i habsent
      rw [find?_put]
      split
      · rename_i hid
        subst hid
        exact .inr ⟨by simpa using habsent, jobId, accountId, ts, rfl, rfl⟩
      · exact .inl rfl
  ready := by
    intro id build hfind hready
    simp only [openOutput, find?_put]
    split
    · rename_i hid
      subst hid
      refine ⟨_, rfl, ?_, ?_⟩
      · simp [OutputBuild.opened, hfind, hready]
      · simp [OutputBuild.opened, hfind]
    · exact ⟨build, hfind, hready, rfl⟩
  building := by
    intro id build' hfind hbuilding
    rcases find?_put_cases hfind with ⟨rfl, rfl⟩ | hold
    · exfalso
      unfold OutputBuild.opened at hbuilding
      split at hbuilding
      · cases hbuilding
      · dsimp only at hbuilding
        split at hbuilding <;> cases hbuilding
    · exact hold
  fileIds := by
    intro id build' hfind
    rcases find?_put_cases hfind with ⟨rfl, rfl⟩ | hold
    · cases hbuild : a.builds.find? id with
      | some build => exact .inl ⟨build, rfl, rfl⟩
      | none =>
        refine .inr ?_
        simp only [OutputBuild.opened, openOutput]
        split
        · assumption
        · rw [find?_put_self]
          rfl
    · exact .inl ⟨build', hold, rfl⟩

theorem openOutputs_opened (l : List (String × String × Int)) (a : Authority) :
    Opened a (l.foldl (fun a x => openOutput a x.1 x.2.1 x.2.2) a) := by
  induction l generalizing a with
  | nil => exact .refl a
  | cons x _ ih =>
    rw [foldl_cons]
    exact (openOutput_opened a x.1 x.2.1 x.2.2).trans (ih _)

theorem dropAdmission_eq (a : Authority) (op : BatchOp) :
    ∃ p : String → Admission → Bool, (∀ id adm, p id adm = true → adm.state = .committed) ∧
      dropAdmission a op = { a with admissions := a.admissions.delete p } := by
  have hnone : a = { a with admissions := a.admissions.delete (fun _ _ => false) } := by
    rw [Table.delete_none]
  unfold dropAdmission
  split
  · rename_i ts accountId jobId
    split
    · refine ⟨fun _ adm => adm.accountId == accountId && adm.jobId == jobId
        && adm.state == .committed, fun _ adm h => ?_, rfl⟩
      rw [Bool.and_eq_true] at h
      exact eq_of_beq h.2
    · exact ⟨fun _ _ => false, fun _ _ h => Bool.noConfusion h, hnone⟩
  · exact ⟨fun _ _ => false, fun _ _ h => Bool.noConfusion h, hnone⟩

theorem batchCall_eq (a : Authority) (op : BatchOp) :
    ∃ p : String → Admission → Bool, (∀ id adm, p id adm = true → adm.state = .committed) ∧
      Opened { a with batch := a.batch.exec op, admissions := a.admissions.delete p }
        (batchCall a op) := by
  obtain ⟨p, hp, hdrop⟩ := dropAdmission_eq a op
  refine ⟨p, hp, ?_⟩
  unfold batchCall
  rw [hdrop]
  exact openOutputs_opened _ _

/-! ## Inserting a batch -/

structure Inserted (a a' : Authority) (create : GeminiBatchCreate) : Prop where
  batch : ∃ c : BatchCreate, c.jobId = create.jobId ∧ c.accountId = create.accountId ∧
    c.inputKind = create.inputKind ∧ c.items = create.items.map (·.toCreateItem) ∧
    Published a.batch a'.batch c
  files : a'.files = a.files
  chunks : a'.chunks = a.chunks
  admissions : a'.admissions = a.admissions
  staged : a'.staged = a.staged
  builds : a'.builds = a.builds
  columns : ∃ job, a'.jobColumns = a.jobColumns.put create.jobId job ∧
    job.canonicalRequestDigest = create.canonicalRequestDigest ∧
    job.inputFileId = create.inputFileId ∧ job.outputFileId = none
  other : ∀ key, key.1 ≠ create.jobId →
    a'.itemColumns.find? key = a.itemColumns.find? key
  items : ∀ key row, a'.itemColumns.find? key = some row →
    a.itemColumns.find? key = some row ∨
      ∃ item ∈ create.items, key = (create.jobId, item.itemIndex) ∧ row = item.columns

theorem insertItemColumns_fold {items : List GeminiBatchCreateItem}
    (h : items.foldlM (insertItemColumns jobId) a = .ok a') :
    (∃ t, a' = { a with itemColumns := t }) ∧
      (∀ key, key.1 ≠ jobId → a'.itemColumns.find? key = a.itemColumns.find? key) ∧
      ∀ key row, a'.itemColumns.find? key = some row →
        a.itemColumns.find? key = some row ∨
          ∃ item ∈ items, key = (jobId, item.itemIndex) ∧ row = item.columns := by
  induction items generalizing a with
  | nil =>
    cases h
    exact ⟨⟨_, rfl⟩, fun _ _ => rfl, fun _ _ hrow => .inl hrow⟩
  | cons item _ ih =>
    simp only [foldlM_cons, ok_steps, insertItemColumns] at h
    obtain ⟨a1, ⟨-, -, rfl⟩, hrest⟩ := h
    obtain ⟨⟨t, rfl⟩, hother, hitems⟩ := ih hrest
    refine ⟨⟨t, rfl⟩, fun key hkey => ?_, fun key row hrow => ?_⟩
    · rw [hother key hkey]
      exact find?_put_ne _ _ fun heq => hkey (heq ▸ rfl)
    · rcases hitems key row hrow with hold | ⟨item', hmem, hkey, hcols⟩
      · rcases find?_put_cases hold with ⟨hkey, hcols⟩ | hold
        · exact .inr ⟨item, mem_cons_self .., hkey, hcols⟩
        · exact .inl hold
      · exact .inr ⟨item', mem_cons_of_mem _ hmem, hkey, hcols⟩

theorem insertBatch_inserted (h : insertBatch a create = .ok a') : Inserted a a' create := by
  simp only [insertBatch, ok_steps] at h
  obtain ⟨-, batch, hpublish, hitems⟩ := h
  obtain ⟨⟨t, rfl⟩, hother, hnew⟩ := insertItemColumns_fold hitems
  exact
    { batch := ⟨_, rfl, rfl, rfl, rfl, publish_published hpublish⟩
      files := rfl
      chunks := rfl
      admissions := rfl
      staged := rfl
      builds := rfl
      columns := ⟨_, rfl, rfl, rfl, rfl⟩
      other := hother
      items := hnew }

theorem Inserted.fresh (h : Inserted a a' create) : a.batch.jobs.find? create.jobId = none := by
  obtain ⟨c, hid, -, -, -, hpublished⟩ := h.batch
  rw [← hid]
  exact hpublished.fresh

/-! ## Staging a page -/

theorem stage_eq {admissionId : String} {createTs expectedStart : Int}
    {items : List (GeminiBatchAdmissionItem × Nat)} {sums sums' : Authority × Int × Int}
    (h : items.foldlM (stageItem admissionId createTs expectedStart) sums = .ok sums') :
    (∃ t, sums'.1 = { sums.1 with staged := t }) ∧
      ∀ key row, sums'.1.staged.find? key = some row →
        sums.1.staged.find? key = some row ∨
          (key = (admissionId, row.item.itemIndex) ∧ ∃ x ∈ items, x.1 = row) := by
  induction items generalizing sums with
  | nil =>
    cases h
    exact ⟨⟨_, rfl⟩, fun _ _ hrow => .inl hrow⟩
  | cons x _ ih =>
    simp only [foldlM_cons, ok_steps, stageItem] at h
    obtain ⟨sums1, ⟨-, -, hold, -, output, -, -, -, rfl⟩, hrest⟩ := h
    obtain ⟨⟨t, ht⟩, hrows⟩ := ih hrest
    refine ⟨⟨t, ht⟩, fun key row hrow => ?_⟩
    rcases hrows key row hrow with hbefore | ⟨hkey, y, hy, heq⟩
    · rcases find?_put_cases hbefore with ⟨hkey, hrow'⟩ | hbefore
      · exact .inr ⟨hrow' ▸ hkey, x, mem_cons_self .., hrow'.symm⟩
      · exact .inl hbefore
    · exact .inr ⟨hkey, y, mem_cons_of_mem _ hy, heq⟩

/-! ## Output files -/

theorem updateOutputFile_eq (h : a.updateOutputFile fileId p g = .ok a') :
    (a' = a ∧ ∀ f, a.files.find? fileId = some f → f.sourceKind = .batchOutput → p f = false) ∨
    ∃ f, a.files.find? fileId = some f ∧ f.sourceKind = .batchOutput ∧ p f = true ∧
      a' = { a with files := a.files.put fileId (g f) } := by
  unfold Authority.updateOutputFile at h
  split at h
  · rename_i hnone
    cases h
    refine .inl ⟨rfl, fun f hfind hkind => ?_⟩
    rw [hfind] at hnone
    cases hp : p f with
    | false => rfl
    | true => simp [Option.filter, hkind, hp] at hnone
  · rename_i f hfound
    obtain ⟨hfind, hguard⟩ := filter_eq_some_iff.mp hfound
    rw [Bool.and_eq_true, beq_iff_eq] at hguard
    exact .inr ⟨f, hfind, hguard.1, hguard.2, (setFile_eq h).2⟩

theorem updateOutputFile_files (h : a.updateOutputFile fileId p g = .ok a') :
    a' = { a with files := a'.files } := by
  rcases updateOutputFile_eq h with ⟨rfl, -⟩ | ⟨f, -, -, -, rfl⟩
  · rfl
  · rfl

theorem linkOutput_eq (h : linkOutput a jobId fileId completed = .ok a') :
    a' = a ∨ ∃ job batch, a.jobColumns.find? jobId = some job ∧
      finalizeGeminiBatchOutput a.batch completed jobId = .ok batch ∧
      a' = { a with
        batch
        jobColumns := a.jobColumns.put jobId
          { job with outputFileId := some fileId, outputState := some .ready } } := by
  unfold linkOutput at h
  split at h
  · cases h
    exact .inl rfl
  · rename_i job hfound
    simp only [ok_steps] at h
    obtain ⟨batch, hbatch, rfl⟩ := h
    exact .inr ⟨job, batch, (filter_eq_some_iff.mp hfound).1, hbatch, rfl⟩

theorem finalizeGeminiBatchOutput_eq
    (h : finalizeGeminiBatchOutput b completed jobId = .ok b') :
    b' = b ∨ ∃ job, b.jobs.find? jobId = some job ∧ job.inputKind = .file ∧
      job.terminalItemsTs.isSome = true ∧ job.completedTs = none ∧
      b' = { b with
        jobs := b.jobs.put jobId
          { job with
            completedTs := some completed
            resultExpirationTs := some (saturatingAdd completed batchResultRetentionSecs)
            updateTs := completed } } := by
  unfold finalizeGeminiBatchOutput at h
  split at h
  · cases h
    exact .inl rfl
  · rename_i job hfound
    obtain ⟨hjob, hguard⟩ := filter_eq_some_iff.mp hfound
    simp only [guard_iffs, isNone_iff_eq_none] at hguard
    exact .inr ⟨job, hjob, hguard.1.1, hguard.1.2, hguard.2, (setJob_eq h).1⟩

/-! ## What is kept -/

/-- Jobs stay, with the marks that close them, and so do the ids of their
items. -/
structure Held (b b' : Batch) : Prop where
  jobs : ∀ id job, b.jobs.find? id = some job →
    ∃ job', b'.jobs.find? id = some job' ∧ job'.accountId = job.accountId ∧
      job'.inputKind = job.inputKind ∧ job.Advances job'
  requestIds : ∀ key, (b.jobs.find? key.1).isSome = true →
    (b'.items.find? key).map (·.requestId) = (b.items.find? key).map (·.requestId)
  /-- An item that appears has its job. -/
  rooted : ∀ key, (b'.items.find? key).isSome = true →
    (b.items.find? key).isSome = true ∨ (b'.jobs.find? key.1).isSome = true

theorem Held.refl (b : Batch) : Held b b :=
  ⟨fun _ job h => ⟨job, h, rfl, rfl, .refl job⟩, fun _ _ => rfl, fun _ h => .inl h⟩

theorem Held.job (h : Held b b') (hjob : (b.jobs.find? id).isSome = true) :
    (b'.jobs.find? id).isSome = true := by
  obtain ⟨job, hfind⟩ := isSome_iff_exists.mp hjob
  obtain ⟨job', hfind', -⟩ := h.jobs id job hfind
  rw [hfind']
  rfl

theorem Lives.held {named : String → Bool} (h : Lives named b b') :
    Held b b' where
  jobs := by
    intro id job hjob
    obtain ⟨job', hjob', hsteps⟩ := h.steps id job hjob
    have hkeeps := JobSteps.keeps hsteps
    exact ⟨job', hjob', hkeeps.accountId, hkeeps.inputKind, hkeeps.advances⟩
  requestIds := fun key _ => find?_of_view h.items key
  rooted := by
    intro key hitem
    have hids := find?_of_view h.items key
    rw [← isSome_map (f := (·.requestId)), hids, isSome_map] at hitem
    exact .inl hitem

theorem Published.held {create : BatchCreate} (h : Published b b' create) : Held b b' where
  jobs := by
    intro id job hjob
    obtain ⟨row, hjobs, -⟩ := h.job
    have hne : create.jobId ≠ id := by
      rintro rfl
      rw [h.fresh] at hjob
      cases hjob
    exact ⟨job, by rw [hjobs, find?_put_ne _ _ hne, hjob], rfl, rfl, .refl job⟩
  requestIds := by
    intro key hjob
    rw [h.other]
    intro heq
    rw [heq, h.fresh] at hjob
    cases hjob
  rooted := by
    intro key hitem
    obtain ⟨item, hfind⟩ := isSome_iff_exists.mp hitem
    rcases h.key hfind with hold | ⟨-, item', -, rfl, -⟩
    · exact .inl (by rw [hold]; rfl)
    · obtain ⟨row, hjobs, -⟩ := h.job
      refine .inr ?_
      rw [hjobs, find?_put_self]
      rfl

theorem held_putJob {job job' : BatchJob} (hjob : b.jobs.find? jobId = some job)
    (haccount : job'.accountId = job.accountId) (hkind : job'.inputKind = job.inputKind)
    (hadvances : job.Advances job') :
    Held b { b with jobs := b.jobs.put jobId job' } where
  jobs := by
    intro id job0 hjob0
    rw [find?_put]
    split
    · rename_i hid
      subst hid
      cases hjob.symm.trans hjob0
      exact ⟨job', rfl, haccount, hkind, hadvances⟩
    · exact ⟨job0, hjob0, rfl, rfl, .refl job0⟩
  requestIds := fun _ _ => rfl
  rooted := fun _ h => .inl h

theorem finalizeGeminiBatchOutput_held
    (h : finalizeGeminiBatchOutput b completed jobId = .ok b') : Held b b' := by
  rcases finalizeGeminiBatchOutput_eq h with rfl | ⟨job, hjob, -, -, -, rfl⟩
  · exact .refl _
  · exact held_putJob hjob rfl rfl
      ⟨fun hset => hset, fun hset => hset, fun _ => rfl, fun hset => hset⟩

theorem setOutputState_held (a : Authority) (jobId : String) (state : OutputState)
    (ts : Int) : Held a.batch (a.setOutputState jobId state ts).batch where
  jobs := by
    intro id job hjob
    simp only [Authority.setOutputState, find?_update, hjob, map_some]
    refine ⟨_, rfl, ?_⟩
    split
    · exact ⟨rfl, rfl, fun h => h, fun h => h, fun h => h, fun h => h⟩
    · exact ⟨rfl, rfl, .refl job⟩
  requestIds := fun _ _ => rfl
  rooted := fun _ h => .inl h

theorem setOutputState_columns (a : Authority) (jobId : String) (state : OutputState)
    (ts : Int) (id : String) :
    ((a.setOutputState jobId state ts).jobColumns.find? id).map (·.admitted)
      = (a.jobColumns.find? id).map (·.admitted) := by
  simp only [Authority.setOutputState, find?_update, Option.map_map]
  congr 1
  funext job
  simp only [Function.comp_apply]
  split <;> rfl

/-- The rows of a batch that no call rewrites. -/
structure Kept (a a' : Authority) : Prop where
  batch : Held a.batch a'.batch
  columns : ∀ id, (a.batch.jobs.find? id).isSome = true →
    (a'.jobColumns.find? id).map (·.admitted) = (a.jobColumns.find? id).map (·.admitted)
  itemColumns : ∀ key, (a.batch.jobs.find? key.1).isSome = true →
    a'.itemColumns.find? key = a.itemColumns.find? key
  rooted : ∀ key, (a'.itemColumns.find? key).isSome = true →
    (a.itemColumns.find? key).isSome = true ∨ (a'.batch.jobs.find? key.1).isSome = true

theorem Kept.refl (a : Authority) : Kept a a :=
  ⟨.refl a.batch, fun _ _ => rfl, fun _ _ => rfl, fun _ h => .inl h⟩

theorem kept_of_eq (hbatch : a'.batch = a.batch) (hcolumns : a'.jobColumns = a.jobColumns)
    (hitems : a'.itemColumns = a.itemColumns) : Kept a a' :=
  ⟨hbatch ▸ .refl a.batch, fun _ _ => by rw [hcolumns], fun _ _ => by rw [hitems],
    fun _ h => .inl (hitems ▸ h)⟩

theorem Inserted.kept (h : Inserted a a' create) : Kept a a' where
  batch := by
    obtain ⟨c, -, -, -, -, hpublished⟩ := h.batch
    exact hpublished.held
  columns := by
    intro id hjob
    obtain ⟨job, hcolumns, -⟩ := h.columns
    have hne : create.jobId ≠ id := by
      rintro rfl
      rw [h.fresh] at hjob
      cases hjob
    rw [hcolumns, find?_put_ne _ _ hne]
  itemColumns := by
    intro key hjob
    refine h.other key fun heq => ?_
    rw [heq, h.fresh] at hjob
    cases hjob
  rooted := by
    intro key hrow
    obtain ⟨row, hfind⟩ := isSome_iff_exists.mp hrow
    rcases h.items key row hfind with hold | ⟨item, -, rfl, -⟩
    · exact .inl (by rw [hold]; rfl)
    · obtain ⟨c, hid, -, -, -, hpublished⟩ := h.batch
      obtain ⟨job, hjobs, -⟩ := hpublished.job
      refine .inr ?_
      rw [hjobs, hid, find?_put_self]
      rfl

theorem batchCall_kept (a : Authority) {op : BatchOp} (hwhole : op.whole = true) :
    Kept a (batchCall a op) := by
  obtain ⟨p, -, hopened⟩ := batchCall_eq a op
  exact ⟨hopened.batch ▸ (exec_lives a.batch hwhole).held,
    fun id _ => hopened.jobColumns id, fun _ _ => by rw [hopened.itemColumns],
    fun _ h => .inl (hopened.itemColumns ▸ h)⟩

theorem outputFinalize_kept {a1 a2 : Authority} {build : OutputBuild}
    (hactivate : a.updateOutputFile fileId p g = .ok a1)
    (hlink : linkOutput a1 jobId fileId completed = .ok a2) :
    Kept a { a2 with builds := a2.builds.put jobId build } := by
  rw [updateOutputFile_files hactivate] at hlink
  rcases linkOutput_eq hlink with rfl | ⟨job, batch, hjob, hbatch, rfl⟩
  · exact kept_of_eq rfl rfl rfl
  · refine ⟨finalizeGeminiBatchOutput_held hbatch, fun id _ => ?_, fun _ _ => rfl,
      fun _ h => .inl h⟩
    · rw [find?_put]
      split
      · rename_i hid
        subst hid
        rw [hjob]
        rfl
      · rfl

theorem effect_kept {sha256 : List UInt8 → Digest} {op : AuthorityOp}
    (h : Effect sha256 a op a') : Kept a a' := by
  cases h with
  | unchanged => exact .refl a
  | call _ whole => exact batchCall_kept a whole
  | fileCreate | fileAppend | fileComplete | fileDelete | beginNew | beginAgain
  | publishReplay | abort | outputRenew => exact kept_of_eq rfl rfl rfl
  | create _ _ _ _ _ _ insert => exact (insertBatch_inserted insert).kept
  | append _ _ _ _ _ _ _ _ _ _ stage =>
    obtain ⟨⟨t, ht⟩, -⟩ := stage_eq stage
    rw [ht]
    exact kept_of_eq rfl rfl rfl
  | publish _ _ _ _ _ _ _ _ _ _ _ insert =>
    have hkept := (insertBatch_inserted insert).kept
    exact ⟨hkept.batch, hkept.columns, hkept.itemColumns, hkept.rooted⟩
  | outputClaim ts _ _ _ jobId _ _ _ _ _ _ reset =>
    rw [updateOutputFile_files reset]
    exact ⟨setOutputState_held { a with builds := _ } jobId .building ts,
      fun id _ => setOutputState_columns { a with builds := _ } jobId .building ts id,
      fun _ _ => rfl, fun _ h => .inl h⟩
  | outputAppend _ _ _ _ _ _ _ _ _ _ _ grow =>
    rw [updateOutputFile_files grow]
    exact kept_of_eq rfl rfl rfl
  | outputFail ts _ claim =>
    exact ⟨setOutputState_held { a with builds := _ } claim.jobId .failed ts,
      fun id _ => setOutputState_columns { a with builds := _ } claim.jobId .failed ts id,
      fun _ _ => rfl, fun _ h => .inl h⟩
  | outputFinalize _ _ _ _ _ _ _ _ _ _ _ activate link => exact outputFinalize_kept activate link

/-- Every item belongs to a job. -/
structure Rooted (a : Authority) : Prop where
  items : ∀ key, (a.batch.items.find? key).isSome = true →
    (a.batch.jobs.find? key.1).isSome = true
  columns : ∀ key, (a.itemColumns.find? key).isSome = true →
    (a.batch.jobs.find? key.1).isSome = true

theorem rooted_fresh (store : Store) : Rooted (.fresh store) where
  items := nofun
  columns := nofun

theorem Kept.keepsRooted (h : Kept a a') (hrooted : Rooted a) :
    Rooted a' where
  items := fun key hitem =>
    (h.batch.rooted key hitem).elim (fun hold => h.batch.job (hrooted.items key hold)) id
  columns := fun key hrow =>
    (h.rooted key hrow).elim (fun hold => h.batch.job (hrooted.columns key hold)) id

/-! ## A sample account -/

/-- The account has money. -/
def fundedStore : Store :=
  { soloStore with
    accounts := Table.empty.put "acct"
      { balanceNano := 1000, spentNano := 0, reservedNano := 0
        uncollectedNano := 0, status := "active" } }

def sampleStaged (name : String) (index : Int) : GeminiBatchAdmissionItem :=
  { item :=
      { itemIndex := index, requestId := name, logicalRequestId := name
        executionGroupId := name, clientKey := none, requestDigest := .fill 0
        inputFileId := none, referencedFileIds := [], holdNano := 0
        payableMultiplierBp := 10000, pricedTs := 100, tariffFamily := "family"
        tariffVersion := 1, tariffScheduleId := "schedule"
        requestBlob := sampleBlob .request, metadataBlob := none }
    requestedOutputTokens := 1 }

end ApiToken.Gemini
