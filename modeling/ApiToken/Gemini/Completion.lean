import ApiToken.Gemini.Frames

/-!
# Completed jobs

A job is marked when its last item is terminal. An inline job is complete
with that mark, a job with an input file when an output that covers its items
is finalized. What `job_from_row` reports is read off these marks, and a
cancel is the one call that still changes the marks of a completed job.
-/

namespace ApiToken.Gemini

open Registry

variable {completed : Int} {state : OutputState} {create : GeminiBatchCreate}
  {sha256 : List UInt8 → Digest} {op : AuthorityOp} {build : OutputBuild} {id : String}

/-! ## The report -/

inductive GeminiBatchJobState where
  | pending | running | succeeded | failed | cancelled | expired
deriving DecidableEq

/-- `COUNT(i.*) FILTER` of the items of a job. -/
def countItems (b : Batch) (jobId : String) (p : ItemState → Bool) : Nat :=
  (b.items.rows.filter (fun x => x.1.1 == jobId && p x.2.state)).length

/-- The state of `job_from_row`. -/
def jobFromRow (b : Batch) (now : Int) (jobId : String) (job : BatchJob) :
    GeminiBatchJobState :=
  let successful := countItems b jobId (· == .succeeded)
  let failed := countItems b jobId
    (fun state => state == .failed || state == .indeterminate || state == .canceled)
  if job.deleteTs.isSome || job.resultExpirationTs.any (decide <| · ≤ now) then .expired
  else if job.completedTs.isNone then
    if successful = 0 ∧ failed = 0 then .pending else .running
  else if job.cancelRequestedTs.isSome then .cancelled
  else .succeeded

def report (a : Authority) (now : Int) (jobId : String) : Option GeminiBatchJobState :=
  (a.batch.jobs.find? jobId).map (jobFromRow a.batch now jobId)

def lateCancel (a : Authority) : AuthorityOp → Bool
  | .call (.cancel _ accountId jobId) _ =>
    (a.batch.jobs.find? jobId).any (fun job => job.accountId == accountId
      && job.completedTs.isSome && job.cancelRequestedTs.isNone
      && job.deleteTs.isNone)
  | _ => false

/-! ## The marks -/

def JobsOk (b : Batch) : Prop :=
  ∀ id job, b.jobs.find? id = some job → JobOk job (hasOpenItem b id)

section Marks

variable {b b' : Batch} {a a' : Authority}

theorem Lives.jobsOk {named : String → Bool} (h : Lives named b b') (hok : JobsOk b) :
    JobsOk b' := by
  intro id job' hjob'
  cases hjob : b.jobs.find? id with
  | none =>
    rw [h.absent id hjob] at hjob'
    cases hjob'
  | some job =>
    obtain ⟨job1, hjob1, hsteps⟩ := h.steps id job hjob
    cases hjob1.symm.trans hjob'
    exact JobSteps.ok hsteps (hok id job hjob)

theorem Published.jobsOk {create : BatchCreate} (h : Published b b' create)
    (hitems : create.items ≠ []) (hok : JobsOk b) : JobsOk b' := by
  intro id job hjob
  obtain ⟨row, hjobs, -, -, -, hterminal, hcompleted, hdeleted⟩ := h.job
  rw [hjobs] at hjob
  rcases find?_put_cases hjob with ⟨rfl, rfl⟩ | hold
  · rw [h.hasOpenItem_new hitems]
    exact ⟨by simp [hterminal], by simp [hcompleted], by simp [hterminal], by simp [hdeleted]⟩
  · have hne : id ≠ create.jobId := by
      rintro rfl
      rw [h.fresh] at hold
      cases hold
    rw [h.hasOpenItem_other hne]
    exact hok id job hold

theorem jobsOk_put {jobId : String} {job : BatchJob} (hok : JobsOk b)
    (hjob : JobOk job (hasOpenItem b jobId)) :
    JobsOk { b with jobs := b.jobs.put jobId job } := by
  intro id job' hjob'
  rcases find?_put_cases hjob' with ⟨rfl, rfl⟩ | hold
  · exact hjob
  · exact hok id job' hold

theorem finalizeGeminiBatchOutput_jobsOk {jobId : String}
    (h : finalizeGeminiBatchOutput b completed jobId = .ok b') (hok : JobsOk b) :
    JobsOk b' := by
  rcases finalizeGeminiBatchOutput_eq h with rfl | ⟨job, hjob, hfile, hterminal, -, rfl⟩
  · exact hok
  · have hjobOk := hok jobId job hjob
    exact jobsOk_put hok ⟨hjobOk.terminal, fun _ => hterminal, fun _ _ => rfl, fun _ => rfl⟩

theorem setOutputState_jobsOk {jobId : String} {ts : Int} (hok : JobsOk a.batch) :
    JobsOk (a.setOutputState jobId state ts).batch := by
  intro id job hjob
  simp only [Authority.setOutputState, find?_update] at hjob
  obtain ⟨job0, hjob0, rfl⟩ := map_eq_some_iff.mp hjob
  have hjobOk : JobOk job0 (hasOpenItem a.batch id) := hok id job0 hjob0
  split
  · exact ⟨hjobOk.terminal, hjobOk.completed, hjobOk.inline, hjobOk.deleted⟩
  · exact hjobOk

theorem Inserted.jobsOk (h : Inserted a a' create) (hitems : create.items ≠ [])
    (hok : JobsOk a.batch) : JobsOk a'.batch := by
  obtain ⟨c, -, -, -, hcreate, hpublished⟩ := h.batch
  refine hpublished.jobsOk ?_ hok
  rw [hcreate]
  exact fun hnil => hitems (List.map_eq_nil_iff.mp hnil)

theorem effect_jobsOk (h : Effect sha256 a op a') (hok : JobsOk a.batch) : JobsOk a'.batch := by
  cases h with
  | unchanged | fileCreate | fileAppend | fileComplete | fileDelete | beginNew
  | beginAgain | publishReplay | abort | outputRenew => exact hok
  | call op whole =>
    obtain ⟨p, -, hopened⟩ := batchCall_eq a op
    rw [hopened.batch]
    exact (exec_lives a.batch whole).jobsOk hok
  | create _ _ _ _ items _ insert => exact (insertBatch_inserted insert).jobsOk items hok
  | append _ _ _ _ _ _ _ _ _ _ stage =>
    obtain ⟨⟨t, ht⟩, -⟩ := stage_eq stage
    rw [ht]
    exact hok
  | publish _ _ _ _ _ _ _ _ _ items _ insert =>
    exact (insertBatch_inserted insert).jobsOk
      (fun hnil => items (List.map_eq_nil_iff.mp hnil)) hok
  | outputClaim _ _ _ _ _ _ _ _ _ _ _ reset =>
    rw [updateOutputFile_files reset]
    exact setOutputState_jobsOk hok
  | outputAppend _ _ _ _ _ _ _ _ _ _ _ grow =>
    rw [updateOutputFile_files grow]
    exact hok
  | outputFail => exact setOutputState_jobsOk hok
  | outputFinalize _ _ _ _ _ _ _ _ _ _ _ activate link =>
    rw [updateOutputFile_files activate] at link
    rcases linkOutput_eq link with rfl | ⟨job, batch, -, hbatch, rfl⟩
    · exact hok
    · exact finalizeGeminiBatchOutput_jobsOk hbatch hok

end Marks

/-! ## The output of a completed job -/

/-- A completed job with an input file has a finished build that covers its
items. -/
def OutputsOk (a : Authority) : Prop :=
  ∀ id job, a.batch.jobs.find? id = some job → job.inputKind = .file →
    job.completedTs.isSome = true →
    ∃ build, a.builds.find? id = some build ∧ build.state = .ready ∧
      build.nextItemIndex = itemCount a.batch id

section Outputs

variable {a a' : Authority} {owner : Owner} {claim : GeminiBatchOutputClaim} {ts : Int}

theorem fencedBuild_eq (h : fencedBuild a owner claim ts = .ok (some build)) :
    a.builds.find? claim.jobId = some build ∧ build.fileId = claim.fileId ∧
      build.state = .building ∧ ∃ job, a.batch.jobs.find? claim.jobId = some job ∧
        job.accountId = claim.accountId ∧ job.completedTs = none ∧
        job.terminalItemsTs.isSome = true := by
  simp only [fencedBuild, assertOutputFence, ok_steps] at h
  obtain ⟨fenced, ⟨-, hfenced⟩, hbuild⟩ := h
  split at hbuild
  · rename_i htrue
    rw [htrue, Bool.and_eq_true, Bool.and_eq_true] at hfenced
    obtain ⟨⟨hbuilds, hjobs⟩, -⟩ := hfenced
    rw [hbuild, any_some] at hbuilds
    obtain ⟨job, hjob, hfence⟩ := (Option.any_eq_true _ _).mp hjobs
    simp only [guard_iffs, isNone_iff_eq_none] at hbuilds hfence
    exact ⟨hbuild, hbuilds.1.1.1, hbuilds.2, job, hjob, hfence.1.1, hfence.1.2, hfence.2⟩
  · cases hbuild

theorem itemCount_view (b : Batch) (jobId : String) :
    itemCount b jobId = (((b.items.view (·.requestId)).filter
      (fun x => x.1.1 == jobId)).length : Int) := by
  simp [itemCount, Table.view, List.filter_map, Function.comp_def]

theorem Published.itemCount_other {b b' : Batch} {create : BatchCreate}
    (h : Published b b' create) (hne : id ≠ create.jobId) :
    itemCount b' id = itemCount b id := by
  obtain ⟨rows, hrows, hids, -⟩ := h.items
  have hnone : rows.filter (fun x => x.1.1 == id) = [] := by
    rw [filter_eq_nil_iff]
    intro x hx
    have hkey : (x.1, x.2.requestId) ∈ rows.map (fun x => (x.1, x.2.requestId)) :=
      mem_map.mpr ⟨x, hx, rfl⟩
    rw [hids] at hkey
    obtain ⟨item, -, heq⟩ := mem_map.mp hkey
    rw [Prod.mk.injEq] at heq
    rw [← heq.1, beq_iff_eq]
    exact Ne.symm hne
  rw [itemCount, itemCount, hrows, filter_append, hnone, append_nil]

theorem batchCall_outputsOk {op : BatchOp} (hwhole : op.whole = true)
    (hok : OutputsOk a) : OutputsOk (batchCall a op) := by
  obtain ⟨p, -, hopened⟩ := batchCall_eq a op
  have hlives := exec_lives a.batch hwhole
  intro id job' hjob' hfile hcompleted
  rw [hopened.batch] at hjob' ⊢
  cases hjob : a.batch.jobs.find? id with
  | none =>
    rw [hlives.absent id hjob] at hjob'
    cases hjob'
  | some job =>
    obtain ⟨job1, hjob1, hsteps⟩ := hlives.steps id job hjob
    cases hjob1.symm.trans hjob'
    have hkeeps := JobSteps.keeps hsteps
    rw [hkeeps.inputKind] at hfile
    rw [hkeeps.output hfile] at hcompleted
    obtain ⟨build, hbuild, hready, hcovers⟩ := hok id job hjob hfile hcompleted
    obtain ⟨build', hbuild', hready', hnext⟩ := hopened.ready id build hbuild hready
    refine ⟨build', hbuild', hready', ?_⟩
    rw [hnext, hcovers, itemCount_view, itemCount_view, hlives.items]

theorem Inserted.outputsOk (h : Inserted a a' create) (hok : OutputsOk a) : OutputsOk a' := by
  obtain ⟨c, -, -, -, -, hpublished⟩ := h.batch
  obtain ⟨row, hjobs, -, -, -, -, hnone, -⟩ := hpublished.job
  intro id job hjob hfile hcompleted
  rw [hjobs] at hjob
  rcases find?_put_cases hjob with ⟨rfl, rfl⟩ | hold
  · rw [hnone] at hcompleted
    cases hcompleted
  · have hne : id ≠ c.jobId := by
      rintro rfl
      rw [hpublished.fresh] at hold
      cases hold
    rw [h.builds, hpublished.itemCount_other hne]
    exact hok id job hold hfile hcompleted

theorem outputsOk_build (hok : OutputsOk a) {jobId : String} {build : OutputBuild}
    (hopen : ∀ job, a.batch.jobs.find? jobId = some job → job.completedTs = none)
    (hitems : a'.batch.items = a.batch.items)
    (hjobs : ∀ id job', a'.batch.jobs.find? id = some job' →
      ∃ job, a.batch.jobs.find? id = some job ∧ job'.inputKind = job.inputKind ∧
        job'.completedTs = job.completedTs)
    (hbuilds : a'.builds = a.builds.put jobId build) : OutputsOk a' := by
  intro id job' hjob' hfile hcompleted
  obtain ⟨job, hjob, hkind, hsame⟩ := hjobs id job' hjob'
  rw [hkind] at hfile
  rw [hsame] at hcompleted
  have hne : jobId ≠ id := by
    rintro rfl
    rw [hopen job hjob] at hcompleted
    cases hcompleted
  rw [hbuilds, find?_put_ne _ _ hne, itemCount, hitems]
  exact hok id job hjob hfile hcompleted

theorem setOutputState_jobs (a : Authority) (jobId : String) (state : OutputState)
    (ts : Int) (id : String) (job' : BatchJob)
    (h : (a.setOutputState jobId state ts).batch.jobs.find? id = some job') :
    ∃ job, a.batch.jobs.find? id = some job ∧ job'.inputKind = job.inputKind ∧
      job'.completedTs = job.completedTs := by
  simp only [Authority.setOutputState, find?_update] at h
  obtain ⟨job, hjob, rfl⟩ := map_eq_some_iff.mp h
  refine ⟨job, hjob, ?_⟩
  split <;> exact ⟨rfl, rfl⟩

theorem outputFinalize_outputsOk (hok : OutputsOk a)
    (hcovers : build.nextItemIndex = itemCount a.batch claim.jobId) {p : BatchFile → Bool}
    {g : BatchFile → BatchFile} {a1 a2 : Authority}
    (hactivate : a.updateOutputFile claim.fileId p g = .ok a1)
    (hlink : linkOutput a1 claim.jobId claim.fileId completed = .ok a2) :
    OutputsOk { a2 with
      builds := a2.builds.put claim.jobId (build.finalized completed) } := by
  rw [updateOutputFile_files hactivate] at hlink
  have hframe : a2.builds = a.builds ∧ a2.batch.items = a.batch.items ∧
      ∀ id, id ≠ claim.jobId → a2.batch.jobs.find? id = a.batch.jobs.find? id := by
    rcases linkOutput_eq hlink with rfl | ⟨job, batch, -, hbatch, rfl⟩
    · exact ⟨rfl, rfl, fun _ _ => rfl⟩
    · rcases finalizeGeminiBatchOutput_eq hbatch with rfl | ⟨row, -, -, -, -, rfl⟩
      · exact ⟨rfl, rfl, fun _ _ => rfl⟩
      · exact ⟨rfl, rfl, fun id hne => find?_put_ne _ _ (Ne.symm hne)⟩
  intro id job hjob hfile hcompleted
  have hcount : itemCount a2.batch id = itemCount a.batch id := by
    rw [itemCount, itemCount, hframe.2.1]
  rw [find?_put, hcount]
  by_cases hid : claim.jobId = id
  · subst hid
    rw [if_pos rfl]
    exact ⟨_, rfl, rfl, hcovers⟩
  · rw [if_neg hid, hframe.1]
    rw [hframe.2.2 id (Ne.symm hid)] at hjob
    exact hok id job hjob hfile hcompleted

theorem effect_outputsOk (h : Effect sha256 a op a') (hok : OutputsOk a) : OutputsOk a' := by
  have hopen : ∀ {owner : Owner} {claim : GeminiBatchOutputClaim} {ts : Int}
      {build : OutputBuild}, fencedBuild a owner claim ts = .ok (some build) →
      ∀ job, a.batch.jobs.find? claim.jobId = some job → job.completedTs = none := by
    intro owner claim ts build fence job hjob
    obtain ⟨-, -, -, job', hjob', -, hnone, -⟩ := fencedBuild_eq fence
    cases hjob'.symm.trans hjob
    exact hnone
  cases h with
  | unchanged | fileCreate | fileAppend | fileComplete | fileDelete | beginNew
  | beginAgain | publishReplay | abort => exact hok
  | call _ whole => exact batchCall_outputsOk whole hok
  | create _ _ _ _ _ _ insert => exact (insertBatch_inserted insert).outputsOk hok
  | append _ _ _ _ _ _ _ _ _ _ stage =>
    obtain ⟨⟨t, ht⟩, -⟩ := stage_eq stage
    rw [ht]
    exact hok
  | publish _ _ _ _ _ _ _ _ _ _ _ insert => exact (insertBatch_inserted insert).outputsOk hok
  | outputClaim ts _ _ _ jobId _ _ _ _ _ claimable reset =>
    rw [updateOutputFile_files reset]
    refine @outputsOk_build _ _ hok jobId _ (fun job hjob => ?_) rfl
      (setOutputState_jobs _ jobId .building ts) rfl
    simp only [claimableBuild, hjob, any_some, guard_iffs, isNone_iff_eq_none] at claimable
    exact claimable.1.2.1.2
  | outputRenew _ _ _ _ _ _ fence =>
    exact outputsOk_build hok (hopen fence) rfl (fun id job hjob => ⟨job, hjob, rfl, rfl⟩) rfl
  | outputAppend _ _ _ _ _ _ _ _ fence _ _ grow =>
    rw [updateOutputFile_files grow]
    exact outputsOk_build hok (hopen fence) rfl (fun id job hjob => ⟨job, hjob, rfl, rfl⟩) rfl
  | outputFail ts _ claim _ _ fence =>
    exact outputsOk_build hok (hopen fence) rfl (setOutputState_jobs _ claim.jobId .failed ts) rfl
  | outputFinalize ts owner claim completion build expiry a1 a2 fence covers manifest
      activate link => exact outputFinalize_outputsOk hok covers activate link

end Outputs

/-! ## Reports -/

def Done (a : Authority) (jobId : String) : Prop :=
  ∃ job, a.batch.jobs.find? jobId = some job ∧ job.completedTs.isSome = true ∧
    (job.deleteTs.isSome = true ∨ job.cancelRequestedTs = none)

section Reports

variable {a a' : Authority} {jobId : String} {now : Int}

theorem done_of_succeeded (h : report a now jobId = some .succeeded) : Done a jobId := by
  obtain ⟨job, hjob, hstate⟩ := map_eq_some_iff.mp h
  refine ⟨job, hjob, ?_⟩
  unfold jobFromRow at hstate
  split at hstate
  · cases hstate
  split at hstate
  · dsimp only at hstate
    split at hstate <;> cases hstate
  rename_i hcompleted
  split at hstate
  · cases hstate
  rename_i hcancel
  rw [isNone_iff_eq_none, ← ne_eq, ← isSome_iff_ne_none] at hcompleted
  exact ⟨hcompleted, .inr (by simpa using hcancel)⟩

theorem Done.report_eq (h : Done a jobId) (now : Int) :
    report a now jobId = some .succeeded ∨ report a now jobId = some .expired := by
  obtain ⟨job, hjob, hcompleted, hmarks⟩ := h
  rw [report, hjob, map_some, some.injEq, some.injEq]
  unfold jobFromRow
  split
  · exact .inr rfl
  · rename_i hlive
    rw [Bool.or_eq_true, not_or] at hlive
    rcases hmarks with hdeleted | hnone
    · exact absurd hdeleted hlive.1
    · simp [isNone_iff_eq_none, isSome_iff_ne_none.mp hcompleted, hnone]

theorem batchCall_done {op : BatchOp} (hwhole : op.whole = true)
    (hlate : lateCancel a (.call op hwhole) = false) (h : Done a jobId) :
    Done (batchCall a op) jobId := by
  obtain ⟨job, hjob, hcompleted, hmarks⟩ := h
  obtain ⟨p, -, hopened⟩ := batchCall_eq a op
  obtain ⟨job', hjob', hsteps⟩ := (exec_lives a.batch hwhole).steps jobId job hjob
  have hkeeps := JobSteps.keeps hsteps
  refine ⟨job', by rw [hopened.batch, hjob'], hkeeps.advances.completed hcompleted, ?_⟩
  cases hdeleted : job.deleteTs with
  | some => exact .inl (hkeeps.advances.deleted (by rw [hdeleted]; rfl))
  | none =>
    have hcancel : job.cancelRequestedTs = none := by
      rcases hmarks with hset | hnone
      · rw [hdeleted] at hset
        cases hset
      · exact hnone
    refine .inr ((hkeeps.canceled ?_ hcompleted).trans hcancel)
    -- a cancel that names the job would be a late one
    cases op with
    | cancel _ _ id =>
      rw [cancels, Bool.and_eq_false_iff]
      by_cases hid : jobId = id
      · subst hid
        refine .inr ?_
        simpa [lateCancel, hjob, hcompleted, hcancel, hdeleted] using hlate
      · exact .inl (beq_eq_false_iff_ne.mpr hid)
    | _ => rfl

theorem done_of_rows (h : Done a jobId)
    (hrows : ∀ job, a.batch.jobs.find? jobId = some job → job.completedTs.isSome = true →
      ∃ job', a'.batch.jobs.find? jobId = some job' ∧
        job'.completedTs = job.completedTs ∧ job'.deleteTs = job.deleteTs ∧
        job'.cancelRequestedTs = job.cancelRequestedTs) : Done a' jobId := by
  obtain ⟨job, hjob, hcompleted, hmarks⟩ := h
  obtain ⟨job', hjob', hsame⟩ := hrows job hjob hcompleted
  refine ⟨job', hjob', ?_⟩
  rw [hsame.1, hsame.2.1, hsame.2.2]
  exact ⟨hcompleted, hmarks⟩

theorem Inserted.done (hinserted : Inserted a a' create) (h : Done a jobId) : Done a' jobId := by
  obtain ⟨c, -, -, -, -, hpublished⟩ := hinserted.batch
  obtain ⟨row, hjobs, -⟩ := hpublished.job
  refine done_of_rows h fun job hjob _ => ⟨job, ?_, rfl, rfl, rfl⟩
  rw [hjobs, find?_put_ne]
  · exact hjob
  · rintro rfl
    rw [hpublished.fresh] at hjob
    cases hjob

theorem setOutputState_done {ts : Int} (h : Done a jobId) :
    Done (a.setOutputState id state ts) jobId := by
  refine done_of_rows h fun job hjob _ => ?_
  simp only [Authority.setOutputState, find?_update, hjob, map_some]
  refine ⟨_, rfl, ?_⟩
  split <;> exact ⟨rfl, rfl, rfl⟩

theorem finalizeGeminiBatchOutput_done {batch : Batch}
    (hbatch : finalizeGeminiBatchOutput a.batch completed id = .ok batch)
    (hsame : a'.batch = batch) (h : Done a jobId) : Done a' jobId := by
  refine done_of_rows h fun job hjob hcompleted => ⟨job, ?_, rfl, rfl, rfl⟩
  rw [hsame]
  rcases finalizeGeminiBatchOutput_eq hbatch with rfl | ⟨row, hrow, -, -, hnone, rfl⟩
  · exact hjob
  · rw [find?_put_ne]
    · exact hjob
    · rintro rfl
      cases hrow.symm.trans hjob
      rw [hnone] at hcompleted
      cases hcompleted

theorem effect_done (heffect : Effect sha256 a op a') (hlate : lateCancel a op = false)
    (h : Done a jobId) : Done a' jobId := by
  cases heffect with
  | unchanged | fileCreate | fileAppend | fileComplete | fileDelete | beginNew
  | beginAgain | publishReplay | abort | outputRenew => exact h
  | call _ whole => exact batchCall_done whole hlate h
  | create _ _ _ _ _ _ insert => exact (insertBatch_inserted insert).done h
  | append _ _ _ _ _ _ _ _ _ _ stage =>
    obtain ⟨⟨t, ht⟩, -⟩ := stage_eq stage
    rw [ht]
    exact h
  | publish _ _ _ _ _ _ _ _ _ _ _ insert => exact (insertBatch_inserted insert).done h
  | outputClaim _ _ _ _ _ _ _ _ _ _ _ reset =>
    rw [updateOutputFile_files reset]
    exact setOutputState_done h
  | outputAppend _ _ _ _ _ _ _ _ _ _ _ grow =>
    rw [updateOutputFile_files grow]
    exact h
  | outputFail => exact setOutputState_done h
  | outputFinalize _ _ _ _ _ _ _ _ _ _ _ activate link =>
    rw [updateOutputFile_files activate] at link
    rcases linkOutput_eq link with rfl | ⟨job, batch, -, hbatch, rfl⟩
    · exact h
    · exact finalizeGeminiBatchOutput_done hbatch rfl h

end Reports

/-! ## Every run -/

/-- Jobs are complete exactly when their items are. -/
structure Completes (a : Authority) : Prop where
  terminal : ∀ id job, a.batch.jobs.find? id = some job →
    (job.terminalItemsTs.isSome = true ↔ ∀ index item,
      a.batch.items.find? (id, index) = some item → item.state.isTerminal = true)
  inline : ∀ id job, a.batch.jobs.find? id = some job → job.inputKind = .inline →
    job.terminalItemsTs.isSome = true → job.completedTs.isSome = true
  output : OutputsOk a

theorem hasOpenItem_eq_false {b : Batch} :
    hasOpenItem b id = false ↔ ∀ index item, b.items.find? (id, index) = some item →
      item.state.isTerminal = true := by
  rw [← Bool.not_eq_true, hasOpenItem_iff]
  constructor
  · intro hnone index item hfind
    by_contra hopen
    exact hnone ⟨(id, index), item, hfind, rfl, Bool.eq_false_iff.mpr hopen⟩
  · rintro hall ⟨⟨id', index⟩, item, hfind, rfl, hopen⟩
    rw [hall index item hfind] at hopen
    cases hopen

theorem completes_of_ok {a : Authority} (hjobs : JobsOk a.batch) (houtputs : OutputsOk a) :
    Completes a where
  terminal := fun id job hjob => (hjobs id job hjob).terminal.trans hasOpenItem_eq_false
  inline := fun id job hjob => (hjobs id job hjob).inline
  output := houtputs

theorem completes_run (sha256 : List UInt8 → Digest) (store : Store)
    (ops : List AuthorityOp) :
    Completes (run (Authority.exec sha256) (.fresh store) ops) := by
  have hfresh : JobsOk (Authority.fresh store).batch ∧ OutputsOk (.fresh store) :=
    ⟨fun _ _ h => (by cases h), fun _ _ h => (by cases h)⟩
  have hrun : JobsOk (run (Authority.exec sha256) (.fresh store) ops).batch ∧
      OutputsOk (run (Authority.exec sha256) (.fresh store) ops) := by
    refine run_invariant (I := fun a => JobsOk a.batch ∧ OutputsOk a)
      (fun a op h => ?_) hfresh ops
    have heffect := exec_effect sha256 a op
    exact ⟨effect_jobsOk heffect h.1, effect_outputsOk heffect h.2⟩
  exact completes_of_ok hrun.1 hrun.2

theorem done_run {a : Authority} {jobId : String} {ops : List AuthorityOp}
    (h : Done a jobId)
    (hops : Along (Authority.exec sha256) (fun a op => lateCancel a op = false) a ops) :
    Done (run (Authority.exec sha256) a ops) jobId :=
  run_invariant_along (I := fun a => Done a jobId)
    (fun a op h hlate => effect_done (exec_effect sha256 a op) hlate h) h hops

/-- In every run a job has `terminal_items_ts` exactly when its items are
terminal, an inline job is then completed, and a job with an input file is
completed only with a finalized output that covers its items. In every run
without a late cancel a report of success stays one, until the job expires. -/
theorem completion_and_stability (sha256 : List UInt8 → Digest) (store : Store)
    (ops later : List AuthorityOp)
    (hlate : Along (Authority.exec sha256) (fun a op => lateCancel a op = false)
      (.fresh store) (ops ++ later)) :
    Completes (run (Authority.exec sha256) (.fresh store) (ops ++ later)) ∧
      ∀ jobId now now',
        report (run (Authority.exec sha256) (.fresh store) ops) now jobId = some .succeeded →
        report (run (Authority.exec sha256) (.fresh store) (ops ++ later)) now' jobId
            = some .succeeded ∨
          report (run (Authority.exec sha256) (.fresh store) (ops ++ later)) now' jobId
            = some .expired := by
  refine ⟨completes_run sha256 store (ops ++ later), fun jobId now now' hreport => ?_⟩
  rw [run_append]
  exact (done_run (done_of_succeeded hreport) (along_append.mp hlate).2).report_eq now'

/-! ## A late cancel -/

def sampleBatch : GeminiBatchCreate :=
  { jobId := "job", accountId := "acct", creatorKeyId := "key-id"
    publicModel := "model", displayName := "batch"
    canonicalRequestDigest := .fill 1, idempotencyDigest := none, priority := 0
    inputKind := .inline, inputFileId := none, schemaVersion := 1
    encryptionPolicyVersion := 1, createTs := 100, deadlineTs := 1000
    items := [(sampleStaged "req" 0).item] }

/-- Its item ends as indeterminate. -/
def sampleIntent : GeminiBatchSettlementIntent :=
  { jobId := "job", itemIndex := 0, requestId := "req", claimGeneration := 1
    disposition := .indeterminate, actualNano := 0, chargeBasisNano := 0
    realNano := 0, usage := none, resultBlob := sampleBlob .error
    terminalState := .indeterminate, terminalClass := .indeterminate
    calibration := none, completedTs := 103 }

def settledRun : List AuthorityOp :=
  [.call (.engine (.claimInstance 100 "east" 60)) rfl,
   .call (.acquireLeader 100 ⟨"east", 1⟩ dispatchLeader 60) rfl,
   .create 100 sampleBatch "key",
   .call (.claim (fun _ => 101) [] ⟨"east", 1⟩ "profile" "model" 2 30) rfl,
   .call (.markDispatching 102 ⟨"east", 1⟩ sampleClaim 60) rfl,
   .call (.enqueue 103 ⟨"east", 1⟩ sampleClaim sampleIntent) rfl,
   .call (.process 104 "req") rfl]

/-- The job is settled, and deleted later. -/
theorem completion_and_stability_settled :
    report (run (Authority.exec fun _ => .fill 0) (.fresh fundedStore) settledRun) 104
        "job" = some .succeeded ∧
      (report (run (Authority.exec fun _ => .fill 0) (.fresh fundedStore)
          (settledRun ++ [.call (.delete 200 "acct" "job") rfl])) 200 "job"
          = some .succeeded ∨
        report (run (Authority.exec fun _ => .fill 0) (.fresh fundedStore)
          (settledRun ++ [.call (.delete 200 "acct" "job") rfl])) 200 "job"
          = some .expired) :=
  have hreport : report (run (Authority.exec fun _ => .fill 0) (.fresh fundedStore)
      settledRun) 104 "job" = some .succeeded := by decide +kernel
  ⟨hreport, (completion_and_stability _ fundedStore settledRun _ (by decide +kernel)).2
    "job" 104 200 hreport⟩

/-- A cancel after the report turns it into a canceled job. -/
theorem succeeded_then_cancelled :
    report (run (Authority.exec fun _ => .fill 0) (.fresh fundedStore) settledRun) 104
        "job" = some .succeeded ∧
      report (run (Authority.exec fun _ => .fill 0) (.fresh fundedStore)
        (settledRun ++ [.call (.cancel 105 "acct" "job") rfl])) 105 "job"
        = some .cancelled := by
  decide +kernel

end ApiToken.Gemini
