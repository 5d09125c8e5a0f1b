import ApiToken.Gemini.Frames

/-!
# Staging by several clients

Clients that stage a batch under one account and one idempotency digest share
an admission. A begin restarts the staging, but an append is fenced by the
next index alone, so a client may continue the pages of another one. `Watched`
records the accepted calls of every client beside the authority; the batches
that are published hold one client's pages as long as every client adds to its
own pages only, and publishes them itself.
-/

namespace ApiToken.Gemini

open Registry

variable {page : List GeminiBatchAdmissionItem} {now next index : Int}
  {key : String × Int} {staged : GeminiBatchAdmissionItem} {create : GeminiBatchCreate}

/-! ## The record -/

inductive Event (Client : Type) where
  | began (client : Client) (admissionId : String)
  | appended (client : Client) (admissionId : String)
      (page : List GeminiBatchAdmissionItem)
  | published (client : Client) (admissionId jobId : String) (digest : Digest)
deriving DecidableEq

section Record

variable {Client : Type}

/-- A begin is recorded when it starts an admission. -/
def beganEvent (client : Client) :
    Except Error (GeminiBatchAdmissionBeginOutcome × Authority) → Option (Event Client)
  | .ok (.started admissionId _ _ _ _ _, _) => some (.began client admissionId)
  | .ok (.replay .., _) | .error _ => none

def appendedEvent (client : Client) (admissionId : String)
    (page : List GeminiBatchAdmissionItem) :
    Except Error (Int × Authority) → Option (Event Client)
  | .ok _ => some (.appended client admissionId page)
  | .error _ => none

def publishedEvent (client : Client) (admissionId jobId : String) (digest : Digest) :
    Except Error (GeminiBatchCreateOutcome × Authority) → Option (Event Client)
  | .ok (.created _, _) => some (.published client admissionId jobId digest)
  | .ok (.replay _, _) | .ok (.rejectedFunds, _) | .ok (.rejectedLimit, _)
  | .error _ => none

/-- What a call is recorded as. -/
def eventOf (a : Authority) (client : Client) : AuthorityOp → Option (Event Client)
  | .admissionBegin now start => beganEvent client (geminiBatchAdmissionBegin a now start)
  | .admissionAppend now admissionId expectedStart items =>
    appendedEvent client admissionId items
      (geminiBatchAdmissionAppend a now admissionId expectedStart items)
  | .admissionPublish now admissionId expectedItems digest creatorKey =>
    (a.admissions.find? admissionId).bind fun adm =>
      publishedEvent client admissionId adm.jobId digest
        (geminiBatchAdmissionPublish a now admissionId expectedItems digest creatorKey)
  | _ => none

/-- The authority and the record, newest first. -/
structure Watched (Client : Type) where
  authority : Authority
  log : List (Event Client)

/-- Nothing is staged, nothing is recorded. -/
def Watched.start (Client : Type) (store : Store) : Watched Client :=
  { authority := .fresh store, log := [] }

def Watched.exec (sha256 : List UInt8 → Digest) (w : Watched Client)
    (x : Client × AuthorityOp) : Watched Client :=
  { authority := w.authority.exec sha256 x.2
    log := (eventOf w.authority x.1 x.2).toList ++ w.log }

def stagers (admissionId : String) : List (Event Client) → List Client
  | [] => []
  | .began _ id :: log => if id = admissionId then [] else stagers admissionId log
  | .appended client id _ :: log =>
    if id = admissionId then client :: stagers admissionId log
    else stagers admissionId log
  | .published .. :: log => stagers admissionId log

def pagesOf [DecidableEq Client] (client : Client) (admissionId : String)
    (log : List (Event Client)) : List GeminiBatchAdmissionItem :=
  log.flatMap fun
    | .appended client' id page => if client' = client ∧ id = admissionId then page else []
    | _ => []

/-- A published job is made of one client's pages. -/
structure FromOne [DecidableEq Client] (a : Authority) (log : List (Event Client))
    (client : Client) (admissionId jobId : String) (digest : Digest) : Prop where
  job : (a.batch.jobs.find? jobId).isSome = true
  digest : (a.jobColumns.find? jobId).map (·.canonicalRequestDigest) = some digest
  pages : ∃ mid before, log = mid ++ .began client admissionId :: before ∧
    (∀ index row, a.itemColumns.find? (jobId, index) = some row →
      ∃ staged ∈ pagesOf client admissionId mid,
        staged.item.itemIndex = index ∧ staged.item.columns = row) ∧
    (∀ index item, a.batch.items.find? (jobId, index) = some item →
      ∃ staged ∈ pagesOf client admissionId mid,
        staged.item.itemIndex = index ∧ staged.item.requestId = item.requestId)

def NoHybrid [DecidableEq Client] (w : Watched Client) : Prop :=
  ∀ later earlier client admissionId jobId digest,
    w.log = later ++ .published client admissionId jobId digest :: earlier →
    FromOne w.authority earlier client admissionId jobId digest

def Admission.stagedTo (adm : Admission) (index : Int) : Bool :=
  adm.state == .staging && adm.nextItemIndex == index

def OwnPages (w : Watched Client) (x : Client × AuthorityOp) : Prop :=
  match x.2 with
  | .admissionAppend _ admissionId expectedStart _ =>
    (w.authority.admissions.find? admissionId).any (·.stagedTo expectedStart) = true →
      .began x.1 admissionId ∈ w.log ∧ ∀ c ∈ stagers admissionId w.log, c = x.1
  | .admissionPublish _ admissionId expectedItems _ _ =>
    (w.authority.admissions.find? admissionId).any (·.stagedTo expectedItems) = true →
      ∀ c ∈ stagers admissionId w.log, c = x.1
  | _ => True

instance [DecidableEq Client] (w : Watched Client) (x : Client × AuthorityOp) :
    Decidable (OwnPages w x) :=
  match x with
  | (_, .admissionAppend ..) => inferInstanceAs (Decidable (_ → _ ∧ _))
  | (_, .admissionPublish ..) => inferInstanceAs (Decidable (_ → ∀ _ ∈ _, _))
  | (_, .call ..) | (_, .fileCreate ..) | (_, .fileAppend ..) | (_, .fileComplete ..)
  | (_, .fileDelete ..) | (_, .create ..) | (_, .admissionBegin ..)
  | (_, .admissionAbort ..) | (_, .outputClaim ..) | (_, .outputRenew ..)
  | (_, .outputAppend ..) | (_, .outputFail ..) | (_, .outputFinalize ..) =>
    inferInstanceAs (Decidable True)

end Record

/-! ## The calls behind the record -/

section Events

variable {Client : Type} {a : Authority} {client client' : Client} {op : AuthorityOp}
  {admissionId : String}

theorem eventOf_began (h : eventOf a client op = some (.began client' admissionId)) :
    ∃ now start jobId createTs deadlineTs expiresTs next a',
      op = .admissionBegin now start ∧ geminiBatchAdmissionBegin a now start
        = .ok (.started admissionId jobId createTs deadlineTs expiresTs next, a') := by
  unfold eventOf at h
  split at h
  · rename_i now start
    unfold beganEvent at h
    split at h
    · rename_i hcall
      cases h
      exact ⟨now, start, _, _, _, _, _, _, rfl, hcall⟩
    · cases h
    · cases h
  · unfold appendedEvent at h
    split at h <;> cases h
  · obtain ⟨adm, -, h⟩ := bind_eq_some_iff.mp h
    unfold publishedEvent at h
    split at h <;> cases h
  · cases h

theorem eventOf_appended
    (h : eventOf a client op = some (.appended client' admissionId page)) :
    ∃ now expectedStart, op = .admissionAppend now admissionId expectedStart page := by
  unfold eventOf at h
  split at h
  · unfold beganEvent at h
    split at h <;> cases h
  · rename_i now id expectedStart items
    unfold appendedEvent at h
    split at h
    · cases h
      exact ⟨now, expectedStart, rfl⟩
    · cases h
  · obtain ⟨adm, -, h⟩ := bind_eq_some_iff.mp h
    unfold publishedEvent at h
    split at h <;> cases h
  · cases h

theorem eventOf_published {jobId : String} {digest : Digest}
    (h : eventOf a client op = some (.published client' admissionId jobId digest)) :
    client' = client ∧ ∃ now expectedItems creatorKey adm balance a',
      op = .admissionPublish now admissionId expectedItems digest creatorKey ∧
      a.admissions.find? admissionId = some adm ∧ jobId = adm.jobId ∧
      geminiBatchAdmissionPublish a now admissionId expectedItems digest creatorKey
        = .ok (.created balance, a') := by
  unfold eventOf at h
  split at h
  · unfold beganEvent at h
    split at h <;> cases h
  · unfold appendedEvent at h
    split at h <;> cases h
  · rename_i now id expectedItems digest' creatorKey
    obtain ⟨adm, hadm, h⟩ := bind_eq_some_iff.mp h
    unfold publishedEvent at h
    split at h
    · rename_i hcall
      cases h
      exact ⟨rfl, now, expectedItems, creatorKey, adm, _, _, rfl, hadm, rfl, hcall⟩
    all_goals cases h
  · cases h

end Events

variable {sha256 : List UInt8 → Digest}

section Calls

variable {a a' : Authority}

variable {admissionId : String} {row : GeminiBatchAdmissionItem} {op : AuthorityOp}

theorem begin_started {start : GeminiBatchAdmissionBegin} {jobId : String}
    {createTs deadlineTs expiresTs : Int}
    (h : geminiBatchAdmissionBegin a now start
      = .ok (.started admissionId jobId createTs deadlineTs expiresTs next, a')) :
    (a.admissions.find? admissionId = none ∧ a'.staged = a.staged) ∨
      a'.staged = (a.deleteStaged admissionId).staged := by
  have hnew : beginNew a start
      = .ok (.started admissionId jobId createTs deadlineTs expiresTs next, a') →
      a.admissions.find? admissionId = none ∧ a'.staged = a.staged := by
    intro h
    simp only [beginNew, ok_steps, guard_iffs, isSome_eq_false_iff, isNone_iff_eq_none,
      GeminiBatchAdmissionBeginOutcome.started.injEq] at h
    obtain ⟨⟨habsent, -⟩, -, ⟨rfl, -⟩, rfl⟩ := h
    exact ⟨habsent, rfl⟩
  simp only [geminiBatchAdmissionBegin, ok_steps] at h
  obtain ⟨-, h⟩ := h
  split at h
  · exact .inl (hnew h)
  · split at h
    · cases h
    · split at h
      · exact .inl (hnew h)
      · simp only [beginAgain, ok_steps] at h
        obtain ⟨-, h⟩ := h
        split at h
        · simp only [ok_steps] at h
          obtain ⟨job, -, hanswer, -⟩ := h
          cases hanswer
        · simp only [ok_steps, GeminiBatchAdmissionBeginOutcome.started.injEq] at h
          obtain ⟨a1, hset, ⟨rfl, -⟩, rfl⟩ := h
          rw [setAdmission_eq hset]
          exact .inr rfl
        · cases h
      · cases h

theorem append_accepted {expectedStart : Int} {items : List GeminiBatchAdmissionItem}
    (h : geminiBatchAdmissionAppend a now admissionId expectedStart items = .ok (next, a')) :
    (a.admissions.find? admissionId).any (·.stagedTo expectedStart) = true := by
  simp only [geminiBatchAdmissionAppend, ok_steps, bailIf_eq_ok, guard_iffs] at h
  obtain ⟨-, adm, hfind, ⟨hstate, hnext⟩, -⟩ := h
  rw [hfind]
  simp [Admission.stagedTo, hstate, hnext]

theorem publish_created {expectedItems : Int} {digest : Digest} {creatorKey : String}
    {balance : Int}
    (h : geminiBatchAdmissionPublish a now admissionId expectedItems digest creatorKey
      = .ok (.created balance, a')) :
    ∃ adm a1, a.admissions.find? admissionId = some adm ∧
      adm.stagedTo expectedItems = true ∧ a.stagedOf admissionId ≠ [] ∧
      insertBatch a (adm.create digest ((a.stagedOf admissionId).map (·.item))) = .ok a1 ∧
      a' = { a1.deleteStaged admissionId with
        admissions := a1.admissions.put admissionId (adm.committedAs digest now) } := by
  simp only [geminiBatchAdmissionPublish, ok_steps] at h
  obtain ⟨-, adm, hfind, h⟩ := h
  split at h
  · simp only [ok_steps] at h
    obtain ⟨job, -, -, hanswer, -⟩ := h
    cases hanswer
  · simp only [publishAdmission, ok_steps, bailIf_eq_ok, guard_iffs] at h
    obtain ⟨⟨hstate, hnext⟩, bound, -, h⟩ := h
    split at h
    · cases h
    · simp only [ok_steps, bailIf_eq_ok, guard_iffs] at h
      obtain ⟨hadds, h⟩ := h
      split at h
      · simp only [ok_steps] at h
        obtain ⟨-, a1, -, hanswer, -⟩ := h
        cases hanswer
      · simp only [publishStaged, ok_steps] at h
        obtain ⟨-, -, h⟩ := h
        split at h
        · cases h
        · simp only [ok_steps] at h
          obtain ⟨-, h⟩ := h
          split at h
          · cases h
          · split at h
            · cases h
            · split at h
              · cases h
              · split at h
                · cases h
                · split at h
                  · cases h
                  · simp only [ok_steps] at h
                    obtain ⟨a1, hinsert, a2, hset, -, rfl⟩ := h
                    refine ⟨adm, a1, hfind, ?_, stagedAddsUp_items hadds, hinsert, ?_⟩
                    · simp [Admission.stagedTo, hstate, hnext]
                    · rw [setAdmission_eq hset]
                      rfl

theorem deleteStaged_find (h : (a.deleteStaged admissionId).staged.find? key = some row) :
    a.staged.find? key = some row ∧ key.1 ≠ admissionId := by
  simp only [Authority.deleteStaged, find?_delete, beq_eq_false_iff_ne] at h
  exact h

theorem mem_stagedOf (h : row ∈ a.stagedOf admissionId) :
    ∃ index, a.staged.find? (admissionId, index) = some row := by
  obtain ⟨⟨⟨id, index⟩, row'⟩, hmem, rfl⟩ := mem_map.mp h
  obtain ⟨hfind, hid⟩ := mem_select hmem
  rw [beq_iff_eq] at hid
  exact ⟨index, hid ▸ hfind⟩

/-- What a call may do to the staged pages. -/
inductive Stages (a a' : Authority) (op : AuthorityOp) : Prop where
  | keep (staged : a'.staged = a.staged)
      (admissions : ∀ id adm, a.admissions.find? id = some adm →
        adm.state ≠ .committed →
        ∃ adm', a'.admissions.find? id = some adm' ∧ adm'.state ≠ .committed)
  | drop (admissionId : String)
      (staged : a'.staged = (a.deleteStaged admissionId).staged)
      (admissions : ∀ id, id ≠ admissionId →
        a'.admissions.find? id = a.admissions.find? id)
  | page (now : Int) (admissionId : String) (expectedStart : Int)
      (items : List GeminiBatchAdmissionItem) (adm : Admission)
      (call : op = .admissionAppend now admissionId expectedStart items)
      (staged : ∀ key row, a'.staged.find? key = some row →
        a.staged.find? key = some row ∨ (key.1 = admissionId ∧ row ∈ items))
      (state : adm.state ≠ .committed)
      (admissions : a'.admissions = a.admissions.put admissionId adm)

theorem stages_of_eq (hstaged : a'.staged = a.staged)
    (hadmissions : a'.admissions = a.admissions) : Stages a a' op :=
  .keep hstaged fun _ adm hfind hstate => ⟨adm, hadmissions ▸ hfind, hstate⟩

theorem batchCall_stages (op : BatchOp) (op' : AuthorityOp) : Stages a (batchCall a op) op' := by
  obtain ⟨p, hp, hopened⟩ := batchCall_eq a op
  refine .keep hopened.staged fun id adm hfind hstate => ⟨adm, ?_, hstate⟩
  rw [hopened.admissions, find?_delete]
  exact ⟨hfind, Bool.eq_false_iff.mpr fun htrue => hstate (hp id adm htrue)⟩

theorem effect_stages (h : Effect sha256 a op a') : Stages a a' op := by
  cases h with
  | unchanged | fileCreate | fileAppend | fileComplete | fileDelete
  | outputRenew | outputFail => exact stages_of_eq rfl rfl
  | call op => exact batchCall_stages op _
  | create _ _ _ _ _ _ insert =>
    have hinserted := insertBatch_inserted insert
    exact stages_of_eq hinserted.staged hinserted.admissions
  | beginNew _ _ absent =>
    refine .keep rfl fun id adm hfind hstate => ⟨adm, ?_, hstate⟩
    rw [find?_put_ne]
    · exact hfind
    · rintro rfl
      rw [absent] at hfind
      cases hfind
  | beginAgain _ _ admissionId _ find | publishReplay _ admissionId _ _ _ _ find =>
    exact .drop admissionId rfl fun id hne => find?_put_ne _ _ (Ne.symm hne)
  | append now admissionId expectedStart items adm sums next _ staging _ stage =>
    obtain ⟨⟨t, ht⟩, hrows⟩ := stage_eq stage
    refine .page now admissionId expectedStart items
      (adm.appended next sums.2.1 sums.2.2 now) rfl (fun key row hrow => ?_) ?_ ?_
    · rcases hrows key row hrow with hold | ⟨rfl, x, hx, rfl⟩
      · exact .inl hold
      · exact .inr ⟨rfl, List.fst_mem_of_mem_zipIdx hx⟩
    · simp [Admission.appended, staging]
    · rw [ht]
  | publish _ admissionId _ _ _ _ _ find _ _ _ insert =>
    have hinserted := insertBatch_inserted insert
    refine .drop admissionId ?_ fun id hne => ?_
    · simp only [Authority.deleteStaged, hinserted.staged]
    · rw [← hinserted.admissions]
      exact find?_put_ne _ _ (Ne.symm hne)
  | abort _ _ _ find =>
    refine .keep rfl fun id adm' hfind hstate => ?_
    rw [find?_put]
    split
    · exact ⟨_, rfl, by simp⟩
    · exact ⟨adm', hfind, hstate⟩
  | outputClaim _ _ _ _ _ _ _ _ _ _ _ reset =>
    rw [updateOutputFile_files reset]
    exact stages_of_eq rfl rfl
  | outputAppend _ _ _ _ _ _ _ _ _ _ _ grow =>
    rw [updateOutputFile_files grow]
    exact stages_of_eq rfl rfl
  | outputFinalize _ _ _ _ _ _ _ _ _ _ _ activate link =>
    rw [updateOutputFile_files activate] at link
    rcases linkOutput_eq link with rfl | ⟨job, batch, -, -, rfl⟩
    · exact stages_of_eq rfl rfl
    · exact stages_of_eq rfl rfl

/-- What is staged belongs to an admission that is not published. -/
def Owned (a : Authority) : Prop :=
  ∀ key row, a.staged.find? key = some row →
    ∃ adm, a.admissions.find? key.1 = some adm ∧ adm.state ≠ .committed

theorem Stages.owned (h : Stages a a' op) (howned : Owned a) : Owned a' := by
  intro key row hrow
  cases h with
  | keep staged admissions =>
    obtain ⟨adm, hadm, hstate⟩ := howned key row (staged ▸ hrow)
    exact admissions key.1 adm hadm hstate
  | drop _ staged admissions =>
    obtain ⟨hold, hne⟩ := deleteStaged_find (staged ▸ hrow)
    obtain ⟨adm, hadm, hstate⟩ := howned key row hold
    exact ⟨adm, (admissions key.1 hne).trans hadm, hstate⟩
  | page now admissionId expectedStart items adm call staged state admissions =>
    rw [admissions, find?_put]
    split
    · exact ⟨adm, rfl, state⟩
    · rename_i hne
      rcases staged key row hrow with hold | ⟨hkey, -⟩
      · exact howned key row hold
      · exact absurd hkey.symm hne

theorem Stages.fewer (h : Stages a a' op)
    (hop : ∀ now admissionId expectedStart items,
      op ≠ .admissionAppend now admissionId expectedStart items)
    (hrow : a'.staged.find? key = some row) :
    a.staged.find? key = some row := by
  cases h with
  | keep staged => exact staged ▸ hrow
  | drop _ staged => exact (deleteStaged_find (staged ▸ hrow)).1
  | page now admissionId expectedStart items _ call =>
    exact absurd call (hop now admissionId expectedStart items)

end Calls

/-! ## One client's pages -/

section Pages

variable {Client : Type}

def OneClient [DecidableEq Client] (a : Authority) (log : List (Event Client))
    (admissionId : String) : Prop :=
  ∃ client mid before, log = mid ++ .began client admissionId :: before ∧
    client ∈ stagers admissionId log ∧ (∀ c ∈ stagers admissionId log, c = client) ∧
    ∀ index row, a.staged.find? (admissionId, index) = some row →
      row ∈ pagesOf client admissionId mid

/-- So it is for every admission with something staged. -/
def OnePer [DecidableEq Client] (w : Watched Client) : Prop :=
  ∀ admissionId index row, w.authority.staged.find? (admissionId, index) = some row →
    OneClient w.authority w.log admissionId

variable {client : Client} {admissionId : String}

theorem pagesOf_cons [DecidableEq Client] {log : List (Event Client)} (e : Event Client)
    (h : staged ∈ pagesOf client admissionId log) :
    staged ∈ pagesOf client admissionId (e :: log) := by
  simp only [pagesOf, flatMap_cons, mem_append]
  exact .inr h

theorem pagesOf_append [DecidableEq Client] {log : List (Event Client)}
    (rest : List (Event Client)) (h : staged ∈ pagesOf client admissionId log) :
    staged ∈ pagesOf client admissionId (log ++ rest) := by
  rw [pagesOf, List.flatMap_append, mem_append]
  exact .inl h

theorem mem_pagesOf_appended [DecidableEq Client] (log : List (Event Client))
    (h : staged ∈ page) :
    staged ∈ pagesOf client admissionId (.appended client admissionId page :: log) := by
  simp only [pagesOf, flatMap_cons, mem_append, and_self, if_true]
  exact .inl h

variable [DecidableEq Client] {a a' : Authority} {log : List (Event Client)}

theorem OneClient.fewer (h : OneClient a log admissionId)
    (hrows : ∀ index row, a'.staged.find? (admissionId, index) = some row →
      a.staged.find? (admissionId, index) = some row) : OneClient a' log admissionId := by
  obtain ⟨client, mid, before, hlog, hmem, hall, hpages⟩ := h
  exact ⟨client, mid, before, hlog, hmem, hall,
    fun index row hrow => hpages index row (hrows index row hrow)⟩

theorem OneClient.cons (h : OneClient a log admissionId) (e : Event Client)
    (hstagers : stagers admissionId (e :: log)
      = stagers admissionId log) : OneClient a (e :: log) admissionId := by
  obtain ⟨client, mid, before, hlog, hmem, hall, hpages⟩ := h
  refine ⟨client, e :: mid, before, by rw [hlog, cons_append], ?_, ?_, ?_⟩
  · rw [hstagers]
    exact hmem
  · rw [hstagers]
    exact hall
  · exact fun index row hrow => pagesOf_cons e (hpages index row hrow)

theorem OneClient.append (hbegan : .began client admissionId ∈ log)
    (hown : ∀ c ∈ stagers admissionId log, c = client)
    (hold : ∀ index row, a.staged.find? (admissionId, index) = some row →
      OneClient a log admissionId)
    (hrows : ∀ index row, a'.staged.find? (admissionId, index) = some row →
      a.staged.find? (admissionId, index) = some row ∨ row ∈ page) :
    OneClient a' (.appended client admissionId page :: log) admissionId := by
  have hstagers : stagers admissionId (.appended client admissionId page :: log)
      = client :: stagers admissionId log := if_pos rfl
  have hall : ∀ c ∈ client :: stagers admissionId log, c = client :=
    forall_mem_cons.mpr ⟨rfl, hown⟩
  by_cases hany : ∃ index row, a.staged.find? (admissionId, index) = some row
  · obtain ⟨index0, row0, hrow0⟩ := hany
    obtain ⟨client0, mid, before, hlog, hmem, -, hpages⟩ := hold index0 row0 hrow0
    obtain rfl := hown client0 hmem
    refine ⟨client0, _ :: mid, before, by rw [hlog, cons_append], ?_, ?_, ?_⟩
    · rw [hstagers]
      exact mem_cons_self ..
    · rw [hstagers]
      exact hall
    · intro index row hrow
      rcases hrows index row hrow with hbefore | hnew
      · exact pagesOf_cons _ (hpages index row hbefore)
      · exact mem_pagesOf_appended mid hnew
  · obtain ⟨mid, before, hlog⟩ := List.append_of_mem hbegan
    refine ⟨client, _ :: mid, before, by rw [hlog, cons_append], ?_, ?_, ?_⟩
    · rw [hstagers]
      exact mem_cons_self ..
    · rw [hstagers]
      exact hall
    · intro index row hrow
      rcases hrows index row hrow with hbefore | hnew
      · exact absurd ⟨index, row, hbefore⟩ hany
      · exact mem_pagesOf_appended mid hnew

variable {sha256 : List UInt8 → Digest} {w : Watched Client}

omit [DecidableEq Client] in
theorem began_empty {client client' : Client} {op : AuthorityOp} {admissionId : String}
    (howned : Owned w.authority)
    (hevent : eventOf w.authority client op = some (.began client' admissionId))
    (index : Int) :
    (w.authority.exec sha256 op).staged.find? (admissionId, index) = none := by
  obtain ⟨now, start, jobId, createTs, deadlineTs, expiresTs, next, a', rfl, hbegin⟩ :=
    eventOf_began hevent
  simp only [Authority.exec, hbegin, Authority.after]
  cases hrow : a'.staged.find? (admissionId, index) with
  | none => rfl
  | some =>
    exfalso
    rcases begin_started hbegin with ⟨habsent, hstaged⟩ | hstaged
    · rw [hstaged] at hrow
      obtain ⟨adm, hadm, -⟩ := howned _ _ hrow
      rw [habsent] at hadm
      cases hadm
    · rw [hstaged] at hrow
      exact (deleteStaged_find hrow).2 rfl

theorem onePer_other {op : AuthorityOp} (howned : Owned w.authority) (hone : OnePer w)
    (hop : ∀ now admissionId expectedStart items,
      op ≠ .admissionAppend now admissionId expectedStart items) :
    OnePer (w.exec sha256 (client, op)) := by
  intro admissionId index row hrow
  have hfewer : ∀ key row, (w.authority.exec sha256 op).staged.find? key = some row →
      w.authority.staged.find? key = some row :=
    fun _ _ h => (effect_stages (exec_effect sha256 w.authority op)).fewer hop h
  have hbefore : OneClient (w.authority.exec sha256 op) w.log admissionId :=
    (hone admissionId index row (hfewer _ _ hrow)).fewer fun _ _ h => hfewer _ _ h
  simp only [Watched.exec] at hrow ⊢
  cases hevent : eventOf w.authority client op with
  | none => exact hbefore
  | some e =>
    refine hbefore.cons e ?_
    cases e with
    | began _ id =>
      have hne : id ≠ admissionId := by
        rintro rfl
        rw [began_empty howned hevent index] at hrow
        cases hrow
      exact if_neg hne
    | appended _ id page =>
      obtain ⟨now, expectedStart, rfl⟩ := eventOf_appended hevent
      exact absurd rfl (hop now id expectedStart page)
    | published => rfl

theorem onePer_exec (howned : Owned w.authority) (hone : OnePer w)
    {x : Client × AuthorityOp} (hown : OwnPages w x) : OnePer (w.exec sha256 x) := by
  obtain ⟨client, op⟩ := x
  by_cases hop : ∀ now admissionId expectedStart items,
      op ≠ .admissionAppend now admissionId expectedStart items
  · exact onePer_other howned hone hop
  · simp only [not_forall, not_not] at hop
    obtain ⟨now, id, expectedStart, items, rfl⟩ := hop
    cases h : geminiBatchAdmissionAppend w.authority now id expectedStart items with
    | error =>
      have hsame : w.exec sha256 (client, .admissionAppend now id expectedStart items)
          = w := by
        simp only [Watched.exec, Authority.exec, eventOf, h, Authority.after,
          appendedEvent, Option.toList_none, nil_append]
      rw [hsame]
      exact hone
    | ok answer =>
      obtain ⟨next, a'⟩ := answer
      obtain ⟨hbegan, hstagers⟩ := hown (append_accepted h)
      have hstages : Stages w.authority a'
          (.admissionAppend now id expectedStart items) :=
        effect_stages (append_effect h : Effect sha256 _ _ _)
      have hrows : ∀ key row, a'.staged.find? key = some row →
          w.authority.staged.find? key = some row ∨ (key.1 = id ∧ row ∈ items) := by
        intro key row hrow
        cases hstages with
        | keep staged => exact .inl (staged ▸ hrow)
        | drop _ staged => exact .inl (deleteStaged_find (staged ▸ hrow)).1
        | page _ _ _ _ _ call staged =>
          cases call
          exact staged key row hrow
      intro admissionId index row hrow
      simp only [Watched.exec, Authority.exec, eventOf, h, Authority.after,
        appendedEvent] at hrow ⊢
      by_cases hid : id = admissionId
      · subst hid
        refine OneClient.append hbegan hstagers (hone id) fun index row hrow => ?_
        exact (hrows _ _ hrow).imp_right (·.2)
      · have hfewer : ∀ index row, a'.staged.find? (admissionId, index) = some row →
            w.authority.staged.find? (admissionId, index) = some row :=
          fun _ _ hrow => (hrows _ _ hrow).resolve_right fun hnew => hid hnew.1.symm
        exact ((hone admissionId index row (hfewer _ _ hrow)).fewer hfewer).cons _ (if_neg hid)

end Pages

/-! ## Published batches -/

section Published

variable {Client : Type} [DecidableEq Client] {a a' : Authority}
  {log : List (Event Client)} {client : Client} {admissionId jobId : String}
  {digest : Digest}

/-- No call rewrites a published batch. -/
theorem FromOne.kept (h : FromOne a log client admissionId jobId digest)
    (hkept : Kept a a') : FromOne a' log client admissionId jobId digest where
  job := hkept.batch.job h.job
  digest := by
    have hcolumns := congrArg (Option.map (·.canonicalRequestDigest)) (hkept.columns jobId h.job)
    rw [Option.map_map, Option.map_map] at hcolumns
    exact hcolumns.trans h.digest
  pages := by
    obtain ⟨mid, before, hlog, hcolumns, hids⟩ := h.pages
    refine ⟨mid, before, hlog, fun index row hrow => ?_, fun index item hitem => ?_⟩
    · rw [hkept.itemColumns (jobId, index) h.job] at hrow
      exact hcolumns index row hrow
    · have hsame := hkept.batch.requestIds (jobId, index) h.job
      rw [hitem, map_some] at hsame
      obtain ⟨item0, hitem0, hid⟩ := map_eq_some_iff.mp hsame.symm
      obtain ⟨staged, hstaged, hindex, hrequest⟩ := hids index item0 hitem0
      exact ⟨staged, hstaged, hindex, hrequest.trans hid⟩

theorem Inserted.row (h : Inserted a a' create) (hrooted : Rooted a) {row : ItemColumns}
    (hrow : a'.itemColumns.find? (create.jobId, index) = some row) :
    ∃ item ∈ create.items, item.itemIndex = index ∧ item.columns = row := by
  rcases h.items _ _ hrow with hold | ⟨item, hitem, hkey, hcolumns⟩
  · have hjob := hrooted.columns (create.jobId, index) (by rw [hold]; rfl)
    rw [h.fresh] at hjob
    cases hjob
  · exact ⟨item, hitem, (Prod.mk.inj hkey).2.symm, hcolumns.symm⟩

theorem Inserted.item (h : Inserted a a' create) (hrooted : Rooted a) {row : BatchItem}
    (hrow : a'.batch.items.find? (create.jobId, index) = some row) :
    ∃ item ∈ create.items, item.itemIndex = index ∧ item.requestId = row.requestId := by
  obtain ⟨c, hid, -, -, hitems, hpublished⟩ := h.batch
  rcases hpublished.key hrow with hold | ⟨-, item', hitem', hkey, hrequest⟩
  · have hjob := hrooted.items (create.jobId, index) (by rw [hold]; rfl)
    rw [h.fresh] at hjob
    cases hjob
  · rw [hitems] at hitem'
    obtain ⟨item, hitem, rfl⟩ := mem_map.mp hitem'
    exact ⟨item, hitem, (Prod.mk.inj hkey).2.symm, hrequest.symm⟩

theorem fromOne_published (hrooted : Rooted a) {adm : Admission} {a1 : Authority}
    {mid before : List (Event Client)}
    (hlog : log = mid ++ .began client admissionId :: before)
    (hpages : ∀ index row, a.staged.find? (admissionId, index) = some row →
      row ∈ pagesOf client admissionId mid) (hinsert : insertBatch a
      (adm.create digest ((a.stagedOf admissionId).map (·.item))) = .ok a1)
    (hbatch : a'.batch = a1.batch) (hcolumns : a'.jobColumns = a1.jobColumns)
    (hitems : a'.itemColumns = a1.itemColumns) :
    FromOne a' log client admissionId adm.jobId digest := by
  have h := insertBatch_inserted hinsert
  have hstaged : ∀ item ∈ (a.stagedOf admissionId).map (·.item),
      ∃ staged ∈ pagesOf client admissionId mid, staged.item = item := by
    intro item hitem
    obtain ⟨staged, hmem, rfl⟩ := mem_map.mp hitem
    obtain ⟨index, hrow⟩ := mem_stagedOf hmem
    exact ⟨staged, hpages index staged hrow, rfl⟩
  refine ⟨?_, ?_, mid, before, hlog, fun index row hrow => ?_, fun index row hrow => ?_⟩
  · obtain ⟨c, hid, -, -, -, hpublished⟩ := h.batch
    obtain ⟨job, hjobs, -⟩ := hpublished.job
    rw [hbatch, hjobs, hid]
    exact (isSome_iff_exists).mpr ⟨job, find?_put_self ..⟩
  · obtain ⟨job, hjob, hdigest, -⟩ := h.columns
    rw [hcolumns, hjob]
    exact (congrArg _ (find?_put_self ..)).trans (congrArg some hdigest)
  · rw [hitems] at hrow
    obtain ⟨item, hitem, hindex, hrow⟩ := h.row hrooted hrow
    obtain ⟨staged, hmem, rfl⟩ := hstaged item hitem
    exact ⟨staged, hmem, hindex, hrow⟩
  · rw [hbatch] at hrow
    obtain ⟨item, hitem, hindex, hrow⟩ := h.item hrooted hrow
    obtain ⟨staged, hmem, rfl⟩ := hstaged item hitem
    exact ⟨staged, hmem, hindex, hrow⟩

/-- What each step keeps. -/
structure Unspliced (w : Watched Client) : Prop where
  rooted : Rooted w.authority
  owned : Owned w.authority
  one : OnePer w
  published : NoHybrid w

theorem unspliced_start (Client : Type) [DecidableEq Client] (store : Store) :
    Unspliced (.start Client store) where
  rooted := rooted_fresh store
  owned := fun _ _ h => by cases h
  one := fun _ _ _ h => by cases h
  published := by
    intro later earlier client admissionId jobId digest h
    simp [Watched.start] at h

theorem noHybrid_new {w : Watched Client} (h : Unspliced w) {caller : Client} {op : AuthorityOp}
    (hown : OwnPages w (caller, op))
    (hevent : eventOf w.authority caller op = some (.published client admissionId jobId digest)) :
    FromOne (w.authority.exec sha256 op) w.log client admissionId jobId digest := by
  obtain ⟨rfl, now, expectedItems, creatorKey, adm, balance, a', rfl, hadm, rfl, hcall⟩ :=
    eventOf_published hevent
  obtain ⟨adm', a1, hadm', hstaged, hitems, hinsert, rfl⟩ := publish_created hcall
  cases hadm.symm.trans hadm'
  have hpublisher : ∀ c ∈ stagers admissionId w.log, c = client :=
    hown (by rw [hadm]; exact hstaged)
  obtain ⟨staged, hmem⟩ := List.exists_mem_of_ne_nil _ hitems
  obtain ⟨index, hrow⟩ := mem_stagedOf hmem
  obtain ⟨client0, mid, before, hlog, hstager, -, hpages⟩ := h.one admissionId index staged hrow
  obtain rfl := hpublisher client0 hstager
  simp only [Authority.exec, hcall, Authority.after]
  exact fromOne_published h.rooted hlog hpages hinsert rfl rfl rfl

theorem unspliced_exec {w : Watched Client} (h : Unspliced w) {x : Client × AuthorityOp}
    (hown : OwnPages w x) :
    Unspliced (w.exec sha256 x) := by
  have heffect := exec_effect sha256 w.authority x.2
  have hkept := effect_kept heffect
  refine ⟨hkept.keepsRooted h.rooted, (effect_stages heffect).owned h.owned,
    onePer_exec h.owned h.one hown, ?_⟩
  intro later earlier client admissionId jobId digest hlog
  have hold : ∀ later, w.log
      = later ++ .published client admissionId jobId digest :: earlier →
      FromOne (w.authority.exec sha256 x.2) earlier client admissionId jobId digest :=
    fun later hlog => (h.published later earlier client admissionId jobId digest hlog).kept hkept
  simp only [Watched.exec] at hlog ⊢
  cases hevent : eventOf w.authority x.1 x.2 with
  | none =>
    rw [hevent, Option.toList_none, nil_append] at hlog
    exact hold later hlog
  | some =>
    rw [hevent, Option.toList_some, List.singleton_append] at hlog
    cases later with
    | nil =>
      rw [nil_append, List.cons.injEq] at hlog
      obtain ⟨rfl, rfl⟩ := hlog
      exact noHybrid_new h hown hevent
    | cons _ later =>
      rw [cons_append, List.cons.injEq] at hlog
      exact hold later hlog.2

/-- For every interleaving of the calls of any number of clients: as long as
an append continues the client's own pages, after a begin of its own, and a
publish is made by the client of the pages, every published batch holds what
one client appended after its begin, under the digest that client supplied. -/
theorem published_from_one_client (sha256 : List UInt8 → Digest) (store : Store)
    (calls : List (Client × AuthorityOp))
    (hown : Along (Watched.exec sha256) OwnPages (.start Client store) calls) :
    NoHybrid (run (Watched.exec sha256) (.start Client store) calls) :=
  (run_invariant_along (I := Unspliced) (fun _ _ h hown => unspliced_exec h hown)
    (unspliced_start Client store) hown).published

end Published

/-! ## A spliced batch -/

def sampleBegin (admissionId jobId : String) : GeminiBatchAdmissionBegin :=
  { admissionId, jobId, accountId := "acct", creatorKeyId := "key-id"
    publicModel := "model", displayName := "batch"
    idempotencyDigest := some (.fill 1), priority := 0, inputKind := .inline
    inputFileId := none, schemaVersion := 1, encryptionPolicyVersion := 1
    createTs := 100, deadlineTs := 1000, expiresTs := 500 }

/-- Client 1 begins, client 2 begins again and appends a page, client 1
appends the next one, and client 2 publishes. -/
def splicedRun : List (Nat × AuthorityOp) :=
  [(1, .admissionBegin 100 (sampleBegin "adm-1" "job-1")),
   (2, .admissionBegin 101 (sampleBegin "adm-2" "job-2")),
   (2, .admissionAppend 102 "adm-1" 0 [sampleStaged "two" 0]),
   (1, .admissionAppend 103 "adm-1" 1 [sampleStaged "one" 1]),
   (2, .admissionPublish 104 "adm-1" 2 (.fill 2) "key")]

def watchedRun (calls : List (Nat × AuthorityOp)) : Watched Nat :=
  run (Watched.exec fun _ => .fill 0) (.start Nat fundedStore) calls

/-- The published batch has a page of each client. -/
theorem spliced_hybrid : ¬ NoHybrid (watchedRun splicedRun) := by
  intro h
  have hone : FromOne (watchedRun splicedRun).authority (watchedRun splicedRun).log.tail
      2 "adm-1" "job-1" (.fill 2) :=
    h [] _ 2 "adm-1" "job-1" (.fill 2) (by decide +kernel)
  obtain ⟨mid, before, hlog, hcolumns, -⟩ := hone.pages
  obtain ⟨row, hrow⟩ := isSome_iff_exists.mp
    (by decide +kernel : ((watchedRun splicedRun).authority.itemColumns.find?
      ("job-1", 1)).isSome = true)
  obtain ⟨staged, hmem, hindex, -⟩ := hcolumns 1 row hrow
  have hall : ∀ staged ∈ pagesOf 2 "adm-1" (watchedRun splicedRun).log.tail,
      staged.item.itemIndex = 0 := by decide +kernel
  have hzero := hall staged (by rw [hlog]; exact pagesOf_append _ hmem)
  rw [hindex] at hzero
  cases hzero

/-- Both clients do the same, each on its own. -/
def separateRun : List (Nat × AuthorityOp) :=
  [(1, .admissionBegin 100 (sampleBegin "adm-1" "job-1")),
   (1, .admissionAppend 101 "adm-1" 0 [sampleStaged "one" 0]),
   (2, .admissionBegin 102 (sampleBegin "adm-2" "job-2")),
   (2, .admissionAppend 103 "adm-1" 0 [sampleStaged "two" 0]),
   (1, .admissionAppend 104 "adm-1" 0 [sampleStaged "one" 0]),
   (2, .admissionPublish 105 "adm-1" 1 (.fill 2) "key")]

/-- The second client begins the admission anew; what the first one appends after
that is refused. -/
theorem published_from_one_client_separate :
    Along (Watched.exec fun _ => .fill 0) OwnPages (.start Nat fundedStore) separateRun ∧
      .published 2 "adm-1" "job-1" (.fill 2) ∈ (watchedRun separateRun).log ∧
      NoHybrid (watchedRun separateRun) :=
  ⟨by decide +kernel, by decide +kernel,
    published_from_one_client _ fundedStore separateRun (by decide +kernel)⟩

end ApiToken.Gemini
