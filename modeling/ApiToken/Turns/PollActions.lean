import ApiToken.Turns.PollStep

/-!
# Every action of a poll is a poll step

One lemma for each kind of action in `poll_profile_quota`: it goes on or
gives up, takes the barrier, drains, reads the provider, or hands its
snapshot over. `pollProfile_step` collects them.
-/

namespace ApiToken.Turns

open World

variable {w' : World} {q' : Poll} {pc : PollPc}

variable {plane : Plane} {w : World} {p : Nat} {q : Poll} {profile : RuntimeProfile}

/-- The conditions under which a poll may go on to `q'`. -/
structure Poll.Advances (w : World) (q q' : Poll) (profile : RuntimeProfile) : Prop where
  same : q'.profile = q.profile ∧ q'.turnEpoch = q.turnEpoch
  checked : q'.pc.checked = true → q.pc.checked = true ∨ profile.inflight = 0
  snapshot : q'.pc.hasSnapshot = true →
    (q.pc.hasSnapshot = true ∧ q'.snapshot = q.snapshot) ∨
      (q.pc.checked = true ∧ q'.snapshot = w.snapshot profile.subject)
  fenced : q'.pc.fenced = true → q.pc.fenced = true ∨ profile.turnEpoch = q.turnEpoch
  released : q'.pc.idleLocked = true → q'.snapshot = q.snapshot ∧
    q.pc.hasSnapshot = true ∧ (q.pc.idleLocked = true ∨ profile.inflight = 0)

theorem Poll.Advances.over (snapshot : List TurnEvent) :
    q.Advances w { q with snapshot := snapshot, pc := .over } profile :=
  ⟨⟨rfl, rfl⟩, nofun, nofun, nofun, nofun⟩

theorem PollStep.of_delivers (hs : w.Sound plane) (hp : w.polls.find? p = some q)
    (hprofile : w.profiles.find? q.profile = some profile)
    (hadv : q.Advances w q' profile) (hheld : q.pc.holdsBarrier = true)
    (hpolls : ∀ p', w'.polls.find? p' = if p = p' then some q' else w.polls.find? p')
    (hturns : w'.turns = w.turns) (hprofiles : w'.profiles = w.profiles)
    (hcounted : w'.counted = w.counted) (hdelivers : Delivers [] w.delivery w'.delivery)
    (hbarrier : q'.pc.holdsBarrier = true → w'.turnDrain = w.turnDrain)
    (hempty : q'.pc = .drained → w'.delivery.queue.queue = []) :
    PollStep w w' p q q' profile := by
  have hmine := hs.pollBarrier p q hp hheld
  exact {
    before := hp
    objectBefore := hprofile
    polls := hpolls
    turns := hturns
    profiles := hprofiles
    countedSame := hcounted
    same := hadv.same
    accounts := fun e he => hdelivers.accounts e (.inl he)
    knows := fun e he => (hdelivers.knows e he).resolve_right not_mem_nil
    lost := hdelivers.lost
    barrier := fun h => (hbarrier h).trans hmine
    others := by
      intro h hne hother
      rw [hmine] at hother
      cases hother
      exact absurd rfl hne
    checked := hadv.checked
    snapshot := hadv.snapshot
    fenced := hadv.fenced
    released := hadv.released
    empty := hempty
    observed := fun o ho => (hdelivers.observed o ho).imp_right .inl }

theorem PollStep.of_still (hp : w.polls.find? p = some q)
    (hprofile : w.profiles.find? q.profile = some profile)
    (hadv : q.Advances w q' profile) (hpolls : w'.polls = w.polls.put p q')
    (hturns : w'.turns = w.turns) (hprofiles : w'.profiles = w.profiles)
    (hcounted : w'.counted = w.counted) (hdelivery : w'.delivery = w.delivery)
    (hbarrier : q'.pc.holdsBarrier = true → w'.turnDrain = some (.poll p))
    (hothers : ∀ h, h ≠ .poll p → w.turnDrain = some h → w'.turnDrain = some h)
    (hnot : q'.pc ≠ .drained) : PollStep w w' p q q' profile where
  before := hp
  objectBefore := hprofile
  polls p' := by rw [hpolls]; exact find?_put _ _ _ _
  turns := hturns
  profiles := hprofiles
  countedSame := hcounted
  same := hadv.same
  accounts e he := by rw [hdelivery]; exact he
  knows e he := by rw [hdelivery] at he; exact he
  lost loss hloss := by rw [hdelivery]; exact hloss
  barrier := hbarrier
  others h hne hother := ⟨hothers h hne hother, by rw [hdelivery], by rw [hdelivery]⟩
  checked := hadv.checked
  snapshot := hadv.snapshot
  fenced := hadv.fenced
  released := hadv.released
  empty h := absurd h hnot
  observed o ho := by rw [hdelivery] at ho; exact .inl ho

theorem pollOn_step (hs : w.Sound plane) (hp : w.polls.find? p = some q)
    (hprofile : w.profiles.find? q.profile = some profile) (snapshot : List TurnEvent)
    {ok : Bool}
    (hadv : ok = true → q.Advances w { q with snapshot := snapshot, pc := pc } profile)
    (hholds : ok = true → pc.holdsBarrier = true → q.pc.holdsBarrier = true)
    (hnot : pc ≠ .drained) :
    ∃ q', PollStep w (w.pollOn p { q with snapshot := snapshot } ok pc) p q q' profile := by
  unfold pollOn
  cases ok with
  | true =>
    refine ⟨_, PollStep.of_still hp hprofile (hadv rfl) rfl rfl rfl rfl rfl ?_
      (fun _ _ h => h) hnot⟩
    intro h
    exact hs.pollBarrier p q hp (hholds rfl h)
  | false =>
    simp only [if_bool]
    split
    · rename_i hheld
      refine ⟨_, PollStep.of_still hp hprofile (.over snapshot) rfl rfl rfl rfl rfl
        (nofun) ?_ (by simp)⟩
      intro h hne hother
      rw [hs.pollBarrier p q hp hheld] at hother
      cases hother
      exact absurd rfl hne
    · exact ⟨_, PollStep.of_still hp hprofile (.over snapshot) rfl rfl rfl rfl rfl
        (nofun) (fun _ _ h => h) (by simp)⟩

theorem pollLock_step (hp : w.polls.find? p = some q)
    (hprofile : w.profiles.find? q.profile = some profile)
    (hadv : q.Advances w { q with pc := pc } profile)
    (hlock : w.lockTurnDrain (.poll p) = some w') (hnot : pc ≠ .drained) :
    PollStep w (w'.setPoll p { q with pc := pc }) p q { q with pc := pc } profile := by
  obtain ⟨hfree, rfl⟩ := lockTurnDrain_eq hlock
  refine PollStep.of_still hp hprofile hadv rfl rfl rfl rfl rfl (fun _ => rfl) ?_ hnot
  intro h _ hother
  rw [hfree] at hother
  cases hother

/-- A pass of the drain, at whose end the poll goes on to `pc` or gives up;
`unlock` is the end of the first drain, which frees the barrier. -/
theorem pollDrain_step (hs : w.Sound plane) (hp : w.polls.find? p = some q)
    (hprofile : w.profiles.find? q.profile = some profile)
    (hheld : q.pc.holdsBarrier = true) (hself : q.pc ≠ .drained) {pc : PollPc}
    (hadv : q.Advances w { q with pc := pc } profile) (write : Write)
    (unlock : Bool) (hunlock : unlock = true → pc.holdsBarrier = false) :
    ∃ q', PollStep w
      (if unlock && !(w.delivery.drainOnce write).2 then
        (w.pollDrain p q (w.delivery.drainOnce write) pc).unlockTurnDrain
      else w.pollDrain p q (w.delivery.drainOnce write) pc) p q q' profile := by
  have hdelivers := Delivers.drainOnce w.delivery write
  generalize w.delivery.drainOnce write = step at hdelivers ⊢
  obtain ⟨d, more⟩ := step
  unfold pollDrain
  cases more with
  | true =>
    simp only [Bool.not_true, Bool.and_false, Bool.false_eq_true, if_false, if_true]
    refine ⟨q, PollStep.of_delivers hs hp hprofile ?_ hheld ?_ rfl rfl rfl hdelivers
      (fun _ => rfl) (fun h => absurd h hself)⟩
    · exact ⟨⟨rfl, rfl⟩, .inl, fun h => .inl ⟨h, rfl⟩, .inl,
        fun h => ⟨rfl, by revert h; cases q.pc <;> decide, .inl h⟩⟩
    · intro p'
      by_cases h : p = p'
      · subst h
        rw [if_pos rfl]
        exact hp
      · rw [if_neg h]
  | false =>
    simp only [Bool.not_false, Bool.and_true, if_bool]
    unfold pollOn
    cases hempty : d.queue.mayPoll with
    | true =>
      simp only [if_true]
      refine ⟨{ q with pc := pc }, PollStep.of_delivers hs hp hprofile hadv hheld
        ?_ ?_ ?_ ?_ ?_ ?_ ?_⟩
      · intro p'
        cases unlock <;> exact find?_put _ _ _ _
      · cases unlock <;> rfl
      · cases unlock <;> rfl
      · cases unlock <;> rfl
      · cases unlock <;> exact hdelivers
      · intro h
        cases unlock with
        | false => rfl
        | true =>
          have h : pc.holdsBarrier = true := h
          rw [hunlock rfl] at h
          cases h
      · intro _
        have hqueue := TurnQueue.mayPoll_iff.mp hempty
        cases unlock <;> exact hqueue
    | false =>
      simp only [if_bool]
      refine ⟨{ q with pc := .over }, PollStep.of_delivers hs hp hprofile
        (.over q.snapshot) hheld ?_ ?_ ?_ ?_ ?_ ?_ ?_⟩
      · intro p'
        cases unlock <;> (rw [if_pos hheld]; exact find?_put _ _ _ _)
      · cases unlock <;> (rw [if_pos hheld]; rfl)
      · cases unlock <;> (rw [if_pos hheld]; rfl)
      · cases unlock <;> (rw [if_pos hheld]; rfl)
      · cases unlock <;> (rw [if_pos hheld]; exact hdelivers)
      · intro h
        cases h
      · intro h
        cases h

theorem handOver_step (hs : w.Sound plane) (hp : w.polls.find? p = some q)
    (hprofile : w.profiles.find? q.profile = some profile) (hpc : q.pc = .drained) :
    PollStep w ((w.observeWindows q profile).pollOn p q false .over) p q
      { q with pc := .over } profile := by
  have hheld : q.pc.holdsBarrier = true := by rw [hpc]; rfl
  have hmine := hs.pollBarrier p q hp hheld
  unfold pollOn
  simp only [if_bool, hheld]
  exact {
    before := hp
    objectBefore := hprofile
    polls := fun p' => find?_put _ _ _ _
    turns := rfl
    profiles := rfl
    countedSame := rfl
    same := ⟨rfl, rfl⟩
    accounts := fun _ he => he
    knows := fun _ he => he
    lost := fun _ hloss => hloss
    barrier := nofun
    others := by
      intro h hne hother
      rw [hmine] at hother
      cases hother
      exact absurd rfl hne
    checked := nofun
    snapshot := nofun
    fenced := nofun
    released := nofun
    empty := nofun
    observed := by
      intro o ho
      rcases mem_append.mp ho with hold | hnew
      · exact .inl hold
      · exact .inr (.inr ⟨hpc, mem_singleton.mp hnew⟩) }

theorem Poll.Advances.to (hlive : q.pc ≠ .begun ∧ q.pc ≠ .over)
    (hsnapshot : pc.hasSnapshot = true → q.pc.hasSnapshot = true)
    (hfenced : pc.fenced = true → q.pc.fenced = true ∨ profile.turnEpoch = q.turnEpoch)
    (hreleased : pc.idleLocked = true → q.pc.hasSnapshot = true ∧
      (q.pc.idleLocked = true ∨ profile.inflight = 0)) :
    q.Advances w { q with pc := pc } profile where
  same := ⟨rfl, rfl⟩
  checked _ := .inl (by revert hlive; cases q.pc <;> decide)
  snapshot h := .inl ⟨hsnapshot h, rfl⟩
  fenced := hfenced
  released h := ⟨rfl, hreleased h⟩

theorem pollProfile_step (hs : w.Sound plane) (hp : w.polls.find? p = some q)
    (hprofile : w.profiles.find? q.profile = some profile) (choice : Choice) :
    w.pollProfile p q profile choice = w ∨
      ∃ q', PollStep w (w.pollProfile p q profile choice) p q q' profile := by
  unfold pollProfile
  split
  case h_1 hpc =>
    refine .inr (pollOn_step hs hp hprofile q.snapshot ?_ ?_ (by simp))
    · intro hok
      exact ⟨⟨rfl, rfl⟩, fun _ => .inr (of_decide_eq_true hok), nofun, nofun, nofun⟩
    · intro _ h
      cases h
  case h_2 hpc =>
    split
    · exact .inl rfl
    · rename_i w' hlock
      exact .inr ⟨_, pollLock_step hp hprofile
        (.to (by simp [hpc]) nofun nofun nofun) hlock (by simp)⟩
  case h_3 hpc =>
    obtain ⟨q', hstep⟩ := @pollDrain_step plane w p q profile hs hp hprofile
      (by rw [hpc]; rfl) (by simp [hpc]) .fetching
      (.to (by simp [hpc]) nofun nofun nofun) choice.write true (fun _ => rfl)
    refine .inr ⟨q', ?_⟩
    cases hmore : (w.delivery.drainOnce choice.write).2 with
    | true =>
      simp only [hmore, Bool.not_true, Bool.and_false, if_bool] at hstep ⊢
      exact hstep
    | false =>
      simp only [hmore, Bool.not_false, Bool.and_true, if_bool] at hstep ⊢
      exact hstep
  case h_4 hpc =>
    refine .inr (pollOn_step hs hp hprofile (w.snapshot profile.subject) ?_ ?_ (by simp))
    · intro _
      refine ⟨⟨rfl, rfl⟩, fun _ => .inl (by rw [hpc]; rfl), ?_, nofun, nofun⟩
      exact fun _ => .inr ⟨by rw [hpc]; rfl, rfl⟩
    · intro _ h
      cases h
  case h_5 hpc =>
    refine .inr (pollOn_step hs hp hprofile q.snapshot ?_ ?_ (by simp))
    · exact fun _ => .to (by simp [hpc]) (fun _ => by rw [hpc]; rfl) nofun nofun
    · intro _ h
      cases h
  case h_6 hpc =>
    refine .inr (pollOn_step hs hp hprofile q.snapshot ?_ ?_ (by simp))
    · exact fun _ => .to (by simp [hpc]) (fun _ => by rw [hpc]; rfl) nofun nofun
    · intro _ h
      cases h
  case h_7 hpc =>
    split
    · exact .inl rfl
    · rename_i w' hlock
      exact .inr ⟨_, pollLock_step hp hprofile
        (.to (by simp [hpc]) (fun _ => by rw [hpc]; rfl) nofun nofun) hlock (by simp)⟩
  case h_8 hpc =>
    refine .inr (pollOn_step hs hp hprofile q.snapshot ?_ ?_ (by simp))
    · exact fun hok => .to (by simp [hpc]) (fun _ => by rw [hpc]; rfl)
        (fun _ => .inr (of_decide_eq_true hok)) nofun
    · exact fun _ _ => by rw [hpc]; rfl
  case h_9 hpc =>
    refine .inr (pollOn_step hs hp hprofile q.snapshot ?_ ?_ (by simp))
    · exact fun hok => .to (by simp [hpc]) (fun _ => by rw [hpc]; rfl)
        (fun _ => .inl (by rw [hpc]; rfl))
        (fun _ => ⟨by rw [hpc]; rfl, .inr (of_decide_eq_true hok)⟩)
    · exact fun _ _ => by rw [hpc]; rfl
  case h_10 hpc =>
    obtain ⟨q', hstep⟩ := @pollDrain_step plane w p q profile hs hp hprofile
      (by rw [hpc]; rfl) (by simp [hpc]) .drained
      (.to (by simp [hpc]) (fun _ => by rw [hpc]; rfl) (fun _ => .inl (by rw [hpc]; rfl))
        (fun _ => ⟨by rw [hpc]; rfl, .inl (by rw [hpc]; rfl)⟩))
      choice.write false nofun
    exact .inr ⟨q', hstep⟩
  case h_11 hpc => exact .inr ⟨_, handOver_step hs hp hprofile hpc⟩
  case h_12 => exact .inl rfl

end ApiToken.Turns
