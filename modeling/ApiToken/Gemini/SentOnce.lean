import ApiToken.Gemini.Steps

/-!
# A batch item is sent once

A dispatch mark is kept: no call takes the intent of an item back, and the
claim generation changes only on a queued item, which has none. So all marks
of an item carry one generation, the send mark finds that generation, and an
item with an intent is never queued again. A job that is closed stays closed,
so nothing of it is sent afterwards.
-/

namespace ApiToken.Gemini

open Registry

variable {key : String × Int} {item' item : BatchItem} {op : BatchOp} {generation : Int}
  {job : BatchJob} {ops : List BatchOp}

/-! ## What a call keeps -/

def BatchItem.SameIntent (item item' : BatchItem) : Prop :=
  item'.dispatchIntentTs = item.dispatchIntentTs ∧
    (item.dispatchIntentTs.isSome = true → item'.claimGeneration = item.claimGeneration)

/-- No intent appears, none goes, and jobs stay closed. -/
structure Quiet (b b' : Batch) : Prop where
  items : ∀ key item, b.items.find? key = some item →
    ∃ item', b'.items.find? key = some item' ∧ item.SameIntent item'
  fresh : ∀ key item', b.items.find? key = none →
    b'.items.find? key = some item' → item'.dispatchIntentTs = none
  jobs : ∀ id job, b.jobs.find? id = some job →
    ∃ job', b'.jobs.find? id = some job' ∧ job.Advances job'

/-- Intents and closed jobs are kept. -/
structure Later (b b' : Batch) : Prop where
  items : ∀ key item, b.items.find? key = some item →
    item.dispatchIntentTs.isSome = true →
    ∃ item', b'.items.find? key = some item' ∧
      item'.dispatchIntentTs.isSome = true ∧
      item'.claimGeneration = item.claimGeneration
  jobs : ∀ id job, b.jobs.find? id = some job →
    ∃ job', b'.jobs.find? id = some job' ∧ job.Advances job'

section Kept

variable {b b' b'' : Batch}

theorem BatchItem.SameIntent.refl (item : BatchItem) : item.SameIntent item :=
  ⟨rfl, fun _ => rfl⟩

theorem Quiet.refl (b : Batch) : Quiet b b where
  items := fun _ item h => ⟨item, h, .refl item⟩
  fresh := fun _ _ hnone h => by rw [hnone] at h; cases h
  jobs := fun _ job h => ⟨job, h, .refl job⟩

theorem Quiet.trans (h : Quiet b b') (h' : Quiet b' b'') : Quiet b b'' where
  items := by
    intro key item hfind
    obtain ⟨item', hfind', hintent, hgeneration⟩ := h.items key item hfind
    obtain ⟨item'', hfind'', hintent', hgeneration'⟩ := h'.items key item' hfind'
    refine ⟨item'', hfind'', hintent'.trans hintent, fun hsome => ?_⟩
    rw [hgeneration' (hintent ▸ hsome), hgeneration hsome]
  fresh := by
    intro key item'' hnone hfind''
    cases hfind' : b'.items.find? key with
    | none => exact h'.fresh key item'' hfind' hfind''
    | some item' =>
      obtain ⟨found, hfound, hintent, -⟩ := h'.items key item' hfind'
      rw [hfind''] at hfound
      cases hfound
      rw [hintent, h.fresh key item' hnone hfind']
  jobs := by
    intro id job hfind
    obtain ⟨job', hfind', hjob⟩ := h.jobs id job hfind
    obtain ⟨job'', hfind'', hjob'⟩ := h'.jobs id job' hfind'
    exact ⟨job'', hfind'', hjob.trans hjob'⟩

theorem Quiet.back (h : Quiet b b') (hfind' : b'.items.find? key = some item')
    (hintent : item'.dispatchIntentTs.isSome = true) :
    ∃ item, b.items.find? key = some item ∧
      item.dispatchIntentTs.isSome = true ∧
      item.claimGeneration = item'.claimGeneration := by
  cases hfind : b.items.find? key with
  | none =>
    rw [h.fresh key item' hfind hfind'] at hintent
    cases hintent
  | some item =>
    obtain ⟨found, hfound, hsame, hgeneration⟩ := h.items key item hfind
    rw [hfind'] at hfound
    cases hfound
    have hold : item.dispatchIntentTs.isSome = true := hsame ▸ hintent
    exact ⟨item, rfl, hold, (hgeneration hold).symm⟩

theorem Quiet.later (h : Quiet b b') : Later b b' where
  items := by
    intro key item hfind hintent
    obtain ⟨item', hfind', hsame, hgeneration⟩ := h.items key item hfind
    exact ⟨item', hfind', by rw [hsame, hintent], hgeneration hintent⟩
  jobs := h.jobs

theorem Later.refl (b : Batch) : Later b b := (Quiet.refl b).later

theorem Later.trans (h : Later b b') (h' : Later b' b'') : Later b b'' where
  items := by
    intro key item hfind hintent
    obtain ⟨item', hfind', hintent', hgeneration⟩ := h.items key item hfind hintent
    obtain ⟨item'', hfind'', hintent'', hgeneration'⟩ := h'.items key item' hfind' hintent'
    exact ⟨item'', hfind'', hintent'', hgeneration'.trans hgeneration⟩
  jobs := by
    intro id job hfind
    obtain ⟨job', hfind', hjob⟩ := h.jobs id job hfind
    obtain ⟨job'', hfind'', hjob'⟩ := h'.jobs id job' hfind'
    exact ⟨job'', hfind'', hjob.trans hjob'⟩

theorem quiet_put (find : b.items.find? key = some item)
    (items : b'.items = b.items.put key item') (hsame : item.SameIntent item')
    (jobs : ∀ id job, b.jobs.find? id = some job →
      ∃ job', b'.jobs.find? id = some job' ∧ job.Advances job') : Quiet b b' where
  items := by
    intro key1 item1 hfind1
    rw [items, find?_put]
    by_cases hkey : key = key1
    · subst hkey
      rw [find] at hfind1
      cases hfind1
      exact ⟨item', if_pos rfl, hsame⟩
    · exact ⟨item1, by rw [if_neg hkey, hfind1], .refl item1⟩
  fresh := by
    intro key1 item1 hnone hfind1
    rw [items, find?_put] at hfind1
    split at hfind1
    · rename_i hkey
      subst hkey
      rw [find] at hnone
      cases hnone
    · rw [hnone] at hfind1
      cases hfind1
  jobs := jobs

theorem quiet_publish (absent : b.items.find? key = none) (unsent : item.unsent = true)
    (items : b'.items = b.items.put key item) (jobs : ∀ id job, b.jobs.find? id = some job →
      ∃ job', b'.jobs.find? id = some job' ∧ job.Advances job') : Quiet b b' where
  items := by
    intro key1 item1 hfind1
    rw [items, find?_put, if_neg]
    · exact ⟨item1, hfind1, .refl item1⟩
    · rintro rfl
      rw [absent] at hfind1
      cases hfind1
  fresh := by
    intro key1 item1 hnone hfind1
    rw [items, find?_put] at hfind1
    split at hfind1
    · cases hfind1
      simp only [BatchItem.unsent, guard_iffs, isNone_iff_eq_none] at unsent
      exact unsent.1.1
    · rw [hnone] at hfind1
      cases hfind1
  jobs := jobs

theorem quiet_transition (hsound : Sound b) (step : Transition b b') : Quiet b b' := by
  cases step with
  | world frame items =>
    refine ⟨fun key item hfind => ⟨item, by rw [items, hfind], .refl item⟩, ?_, frame.kept⟩
    intro key item' hnone hfind'
    rw [items, hnone] at hfind'
    cases hfind'
  | publish _ _ frame _ absent _ _ unsent _ _ items =>
    exact quiet_publish absent unsent items frame.kept
  | rewrite _ _ _ frame find step items =>
    refine quiet_put find items ?_ frame.kept
    cases step <;> exact ⟨rfl, fun _ => rfl⟩
  | claim key item _ _ _ _ frame find queued _ items =>
    -- the generation moves, but a queued item has no intent
    refine quiet_put find items ⟨rfl, fun hintent => ?_⟩ frame.kept
    have hunsent := hsound.unsent key item find (.inl queued)
    simp only [BatchItem.unsent, guard_iffs, isNone_iff_eq_none] at hunsent
    rw [hunsent.1.1] at hintent
    cases hintent
  | requeue key item id next ts frame find claimed unsent lease items leases
  | cancel key item ts frame find state items leases
  | expire key item ts frame find queued items leases
  | settle _ _ _ _ _ frame find _ _ _ items =>
    exact quiet_put find items ⟨rfl, fun _ => rfl⟩ frame.kept
  | pend _ _ _ find _ items _ jobs =>
    exact quiet_put find items ⟨rfl, fun _ => rfl⟩
      (fun _ job h => ⟨job, by rw [jobs, h], .refl job⟩)

theorem quiet_transitions (hsound : Sound b) (steps : Transitions b b') : Quiet b b' := by
  induction steps with
  | refl => exact .refl b
  | tail hsteps hlast ih =>
    exact ih.trans (quiet_transition (sound_transitions hsound hsteps) hlast)

theorem quiet_loss (hloss : Loss b b') : Quiet b b' := by
  obtain ⟨t, q, rfl, -⟩ := hloss
  exact ⟨(Quiet.refl b).items, (Quiet.refl b).fresh, (Quiet.refl b).jobs⟩

theorem quiet_exec (hsound : Sound b) (hmark : dispatchMark b op = none) :
    Quiet b (b.exec op) := by
  obtain ⟨b1, hloss, hsteps⟩ := exec_transitions hsound hmark
  rcases hloss with rfl | hloss
  · exact quiet_transitions hsound hsteps
  · exact (quiet_loss hloss).trans (quiet_transitions (sound_loss hsound hloss) hsteps)

theorem Dispatch.items (h : Dispatch b b' key generation) :
    (∃ item', b'.items.find? key = some item' ∧
      item'.dispatchIntentTs.isSome = true ∧ item'.claimGeneration = generation) ∧
    (∃ item, b.items.find? key = some item ∧ item.claimGeneration = generation) ∧
    ∀ key', key' ≠ key → b'.items.find? key' = b.items.find? key' := by
  obtain ⟨item, leaseUntil, ts, find, hgeneration, -, items, -, -⟩ := h
  refine ⟨⟨item.dispatched leaseUntil ts, ?_, rfl, hgeneration⟩,
    ⟨item, find, hgeneration⟩, fun key' hne => ?_⟩
  · rw [items, find?_put_self]
  · rw [items, find?_put_ne _ _ (Ne.symm hne)]

theorem later_dispatch (h : Dispatch b b' key generation) : Later b b' where
  items := by
    obtain ⟨⟨item', hfind', hintent', hgeneration'⟩, ⟨item, hfind, hgeneration⟩,
      hother⟩ := h.items
    intro key1 item1 hfind1 hintent1
    by_cases hkey : key1 = key
    · subst hkey
      rw [hfind] at hfind1
      cases hfind1
      exact ⟨item', hfind', hintent', by rw [hgeneration', hgeneration]⟩
    · exact ⟨item1, by rw [hother key1 hkey, hfind1], hintent1, rfl⟩
  jobs := by
    obtain ⟨-, -, -, -, -, -, -, -, frame⟩ := h
    exact frame.kept

theorem later_exec (hsound : Sound b) (op : BatchOp) : Later b (b.exec op) := by
  cases hmark : dispatchMark b op with
  | some => exact later_dispatch (exec_dispatch hmark)
  | none => exact (quiet_exec hsound hmark).later

theorem later_run (hsound : Sound b) (ops : List BatchOp) : Later b (run Batch.exec b ops) := by
  induction ops generalizing b with
  | nil => exact .refl b
  | cons op _ ih => exact (later_exec hsound op).trans (ih (sound_exec hsound op))

end Kept

/-! ## Marks -/

def dispatchMarks : Batch → List BatchOp → List ((String × Int) × Int)
  | _, [] => []
  | b, op :: ops => (dispatchMark b op).toList ++ dispatchMarks (b.exec op) ops

def sendMark (b : Batch) : BatchOp → Option ((String × Int) × Int)
  | .markActualSend ts owner claim leaseSecs =>
    match markGeminiBatchActualSend b ts owner claim leaseSecs with
    | .ok (true, _) => some (claim.item, claim.claimGeneration)
    | _ => none
  | _ => none

def BatchJob.closed (job : BatchJob) : Bool :=
  job.cancelRequestedTs.isSome || job.terminalItemsTs.isSome
    || job.completedTs.isSome || job.deleteTs.isSome

theorem BatchJob.Advances.closed {job' : BatchJob} (h : job.Advances job')
    (hclosed : job.closed = true) : job'.closed = true := by
  simp only [BatchJob.closed, guard_iffs] at hclosed ⊢
  rcases hclosed with ((hset | hset) | hset) | hset
  · exact .inl (.inl (.inl (h.cancel hset)))
  · exact .inl (.inl (.inr (h.terminal hset)))
  · exact .inl (.inr (h.completed hset))
  · exact .inr (h.deleted hset)

theorem BatchJob.closed_of_isOpen {ts : Int} (h : job.isOpen ts = true) : job.closed = false := by
  simp only [BatchJob.isOpen, guard_iffs, isNone_iff_eq_none] at h
  obtain ⟨⟨⟨⟨hcancel, hterminal⟩, hcompleted⟩, hdelete⟩, -⟩ := h
  simp [BatchJob.closed, hcancel, hterminal, hcompleted, hdelete]

section Marks

variable {b : Batch}

theorem marked_at_end (hsound : Sound b) (h : (key, generation) ∈ dispatchMarks b ops) :
    ∃ item, (run Batch.exec b ops).items.find? key = some item ∧
      item.dispatchIntentTs.isSome = true ∧ item.claimGeneration = generation := by
  induction ops generalizing b with
  | nil => cases h
  | cons op ops ih =>
    rcases mem_append.mp h with hhead | htail
    · have hmark : dispatchMark b op = some (key, generation) := by
        simpa using hhead
      obtain ⟨item, hfind, hintent, hgeneration⟩ := (exec_dispatch hmark).items.1
      obtain ⟨item', hfind', hintent', hsame⟩ :=
        (later_run (sound_exec hsound op) ops).items key item hfind hintent
      exact ⟨item', hfind', hintent', hsame.trans hgeneration⟩
    · exact ih (sound_exec hsound op) htail

theorem intent_marked (hsound : Sound b)
    (hfind' : (run Batch.exec b ops).items.find? key = some item')
    (hintent' : item'.dispatchIntentTs.isSome = true) :
    (key, item'.claimGeneration) ∈ dispatchMarks b ops ∨
      ∃ item, b.items.find? key = some item ∧
        item.dispatchIntentTs.isSome = true ∧
        item.claimGeneration = item'.claimGeneration := by
  induction ops generalizing b with
  | nil => exact .inr ⟨item', hfind', hintent', rfl⟩
  | cons op _ ih =>
    rcases ih (sound_exec hsound op) hfind' with hlater |
      ⟨item, hfind, hintent, hgeneration⟩
    · exact .inl (mem_append_right _ hlater)
    -- the intent is there after the first call
    cases hmark : dispatchMark b op with
    | none =>
      obtain ⟨old, hold, hintent0, hgeneration0⟩ := (quiet_exec hsound hmark).back hfind hintent
      exact .inr ⟨old, hold, hintent0, hgeneration0.trans hgeneration⟩
    | some mark =>
      obtain ⟨⟨marked, hmarked, -, hmarkedGen⟩, -, hother⟩ := (exec_dispatch hmark).items
      by_cases hkey : key = mark.1
      · rw [hkey, hmarked] at hfind
        cases hfind
        refine .inl (mem_append_left _ ?_)
        rw [hmark, mem_toList, ← hgeneration, hmarkedGen, hkey]
      · rw [hother key hkey] at hfind
        exact .inr ⟨item, hfind, hintent, hgeneration⟩

theorem sendMark_spec (h : sendMark b op = some (key, generation)) :
    (∃ item, b.items.find? key = some item ∧
      item.dispatchIntentTs.isSome = true ∧ item.claimGeneration = generation) ∧
    ∃ job, b.jobs.find? key.1 = some job ∧ job.closed = false := by
  unfold sendMark at h
  split at h
  · split at h
    · rename_i hmark
      cases h
      rcases markActualSend_cases hmark with
        ⟨-, item, -, hfind, hfence, -, hintent, ⟨job, hjob, hopen⟩, -⟩ | ⟨hfalse, -⟩
      · exact ⟨⟨item, hfind, hintent, (fencedBy_lease hfence).2⟩, job, hjob,
          BatchJob.closed_of_isOpen hopen⟩
      · cases hfalse
    · cases h
  · cases h

end Marks

/-- All dispatch marks of an item carry one claim generation; a send mark
follows a dispatch mark of its generation, and no earlier state had the job
closed; and an item that once had an intent is not queued again. Each call is
one step: for a mark, the snapshot of its `UPDATE`. -/
theorem item_sent_once (store : Store) (ops : List BatchOp) :
    (∀ key generation generation',
      (key, generation) ∈ dispatchMarks (.fresh store) ops →
      (key, generation') ∈ dispatchMarks (.fresh store) ops →
      generation = generation') ∧
    (∀ before op after key generation, ops = before ++ op :: after →
      sendMark (run Batch.exec (.fresh store) before) op = some (key, generation) →
      (key, generation) ∈ dispatchMarks (.fresh store) before ∧
      ∀ earlier between job, before = earlier ++ between →
        (run Batch.exec (.fresh store) earlier).jobs.find? key.1 = some job →
        job.closed = false) ∧
    ∀ before after key item, ops = before ++ after →
      (run Batch.exec (.fresh store) before).items.find? key = some item →
      item.dispatchIntentTs.isSome = true →
      ∃ item', (run Batch.exec (.fresh store) ops).items.find? key = some item' ∧
        item'.dispatchIntentTs.isSome = true ∧ item'.state ≠ .queued := by
  refine ⟨?_, ?_, ?_⟩
  · intro key generation generation' hmark hmark'
    obtain ⟨item, hfind, -, rfl⟩ := marked_at_end (sound_fresh store) hmark
    obtain ⟨item', hfind', -, rfl⟩ := marked_at_end (sound_fresh store) hmark'
    rw [hfind] at hfind'
    cases hfind'
    rfl
  · intro before op after key generation _ hsend
    obtain ⟨⟨item, hfind, hintent, rfl⟩, job', hjob', hopen⟩ := sendMark_spec hsend
    refine ⟨?_, fun earlier between job hbefore hjob => ?_⟩
    · rcases intent_marked (sound_fresh store) hfind hintent with hmark |
        ⟨old, hold, -⟩
      · exact hmark
      · cases hold
    · -- a job closed earlier would still be closed
      rw [hbefore, run_append] at hjob'
      obtain ⟨found, hfound, hadvances⟩ :=
        (later_run (sound_run store earlier) between).jobs key.1 job hjob
      rw [hjob'] at hfound
      cases hfound
      by_contra hclosed
      rw [Bool.not_eq_false] at hclosed
      rw [hadvances.closed hclosed] at hopen
      cases hopen
  · intro before after key item hops hfind hintent
    obtain ⟨item', hfind', hintent', -⟩ :=
      (later_run (sound_run store before) after).items key item hfind hintent
    rw [← run_append, ← hops] at hfind'
    refine ⟨item', hfind', hintent', fun hqueued => ?_⟩
    have hunsent := (sound_run store ops).unsent key item' hfind' (.inl hqueued)
    simp only [BatchItem.unsent, guard_iffs, isNone_iff_eq_none] at hunsent
    rw [hunsent.1.1] at hintent'
    cases hintent'

def dispatchedOnce : List BatchOp :=
  sampleStart ++ [.markDispatching 102 ⟨"east", 1⟩ sampleClaim 60]

/-- The dispatched item is marked as sent. -/
theorem item_sent_once_sample :
    dispatchMarks (.fresh soloStore) dispatchedOnce = [(("job", 0), 1)] ∧
    sendMark (run Batch.exec (.fresh soloStore) dispatchedOnce)
      (.markActualSend 103 ⟨"east", 1⟩ sampleClaim 60) = some (("job", 0), 1) ∧
    (("job", 0), 1) ∈ dispatchMarks (.fresh soloStore) dispatchedOnce := by
  have hsend : sendMark (run Batch.exec (.fresh soloStore) dispatchedOnce)
      (.markActualSend 103 ⟨"east", 1⟩ sampleClaim 60) = some (("job", 0), 1) := by
    decide +kernel
  exact ⟨by decide +kernel, hsend,
    ((item_sent_once soloStore (dispatchedOnce
      ++ [.markActualSend 103 ⟨"east", 1⟩ sampleClaim 60])).2.1 dispatchedOnce _ []
      ("job", 0) 1 rfl hsend).1⟩

end ApiToken.Gemini
