import ApiToken.Turns.PollActions

/-!
# What every observation was paired with

The remaining events of a plane (a new profile object, a new lease, a count
at the provider, a new poll) keep what turns and polls rely on, and so does
every run. From the facts a poll has when it hands its snapshot over comes
what an observation says of the ledger beside it.
-/

namespace ApiToken.Turns

open World

variable {o : Observation} {t : Nat} {r : Turn} {q : Poll} {profile : RuntimeProfile}

/-- What an observation says, with the losses that `w` knows of. -/
def Observation.Paired (plane : Plane) (w : World) (o : Observation) : Prop :=
  match o.source with
  | .response request => ∃ e ∈ o.ledger, e.request = request
  | .poll object =>
    (∀ e ∈ o.snapshot, ∃ r, w.turns.find? e.request = some r ∧ r.subject = e.subject ∧
      (r.profile = object ∨ e.request ∉ o.held → r.pc = .gone ∧
        (r.metered = true → e ∈ o.ledger ∨ ∃ reason, (e, reason) ∈ w.delivery.lost))) ∧
    (∀ e ∈ o.ledger, ∃ r, w.turns.find? e.request = some r ∧ r.subject = e.subject ∧
      (plane.countsFirst = true → r.profile = object → e ∈ o.snapshot))

/-- What holds between any two actions. -/
structure World.Paired (plane : Plane) (w : World) : Prop where
  sound : w.Sound plane
  polls : ∀ p q, w.polls.find? p = some q → q.Sound plane w
  observations : ∀ o ∈ w.delivery.observations, o.Paired plane w

section

variable {plane : Plane} {w w' : World} {mover : Option Nat}

theorem Observation.Paired.extend (ho : o.Paired plane w) (h : Extends mover w w') :
    o.Paired plane w' := by
  unfold Observation.Paired at ho ⊢
  cases hsource : o.source with
  | response =>
    rw [hsource] at ho
    exact ho
  | poll =>
    rw [hsource] at ho
    constructor
    · intro e he
      obtain ⟨r, hr, hsubject, hrest⟩ := ho.1 e he
      obtain ⟨r', hr', hev⟩ := h.turns _ _ hr
      refine ⟨r', hr', hev.subject.trans hsubject, ?_⟩
      intro hor
      rw [hev.profile] at hor
      obtain ⟨hgone, hledger⟩ := hrest hor
      rw [hev.gone hgone]
      refine ⟨hgone, ?_⟩
      intro hm
      rcases hledger hm with hin | ⟨reason, hlost⟩
      · exact .inl hin
      · exact .inr ⟨reason, h.lost _ hlost⟩
    · intro e he
      obtain ⟨r, hr, hsubject, hrest⟩ := ho.2 e he
      obtain ⟨r', hr', hev⟩ := h.turns _ _ hr
      refine ⟨r', hr', hev.subject.trans hsubject, ?_⟩
      intro hplane hobject
      exact hrest hplane (hev.profile.symm.trans hobject)

theorem Observation.HasOwnTurn.paired (h : o.HasOwnTurn) : o.Paired plane w := by
  obtain ⟨e, he, hsource⟩ := h
  unfold Observation.Paired
  rw [hsource]
  exact ⟨e, he, rfl⟩

theorem mem_heldTurns (ht : w.turns.find? t = some r) : t ∈ w.heldTurns ↔ r.pc ≠ .gone := by
  unfold heldTurns
  rw [mem_map]
  constructor
  · rintro ⟨⟨t', r'⟩, hmem, rfl⟩
    obtain ⟨hin, hpc⟩ := mem_filter.mp hmem
    have := find?_eq_some_iff.mpr hin
    rw [ht] at this
    cases this
    exact of_decide_eq_true hpc
  · intro hpc
    exact ⟨(t, r), mem_filter.mpr ⟨mem_of_find? ht, decide_eq_true hpc⟩, rfl⟩

theorem observation_paired (hs : w.Sound plane) (hq : q.Sound plane w)
    (hprofile : w.profiles.find? q.profile = some profile) (hpc : q.pc = .drained) :
    (w.observation q profile).Paired plane w := by
  have hsnap : q.pc.hasSnapshot = true := by rw [hpc]; rfl
  have hlocked : q.pc.idleLocked = true := by rw [hpc]; rfl
  have hfenced : q.pc.fenced = true := by rw [hpc]; rfl
  constructor
  · intro e he
    obtain ⟨r, hr, hsubject, hpub⟩ := hq.turns hsnap e he
    refine ⟨r, hr, hsubject, ?_⟩
    intro hor
    have hgone : r.pc = .gone := by
      rcases hor with hobject | hfree
      · exact hq.released hlocked e he r hr hobject
      · by_contra hlive
        exact hfree ((mem_heldTurns hr).mpr hlive)
    refine ⟨hgone, ?_⟩
    intro hm
    have hevent : eventOf e.request r = e := by
      unfold eventOf
      rw [hsubject]
    have hacc := (hs.turns _ r hr).accounted hm (by rw [hgone]; rfl)
    rw [hevent] at hacc
    rcases hacc with (hqueue | hledger) | hlost
    · unfold Delivery.queued at hqueue
      rw [hq.empty hpc] at hqueue
      cases hqueue
    · refine .inl (mem_filter.mpr ⟨hledger, ?_⟩)
      exact decide_eq_true (hq.subject hsnap e he profile hprofile)
    · exact .inr hlost
  · intro e he
    have hledger : e ∈ w.delivery.ledger := List.mem_of_mem_filter he
    obtain ⟨r, hr, hsubject, hm, hdel⟩ := hs.known e (.inr hledger)
    refine ⟨r, hr, hsubject, ?_⟩
    intro hplane hobject
    have hpub : r.pc ≠ .leasing := by
      intro hl
      rw [hl] at hdel
      cases hdel
    have hticket := hq.fenced hfenced e (.inr hledger) r hr hobject
    have hin := hq.complete hsnap hplane e.request r hr hobject hpub hticket hm
    have hevent : eventOf e.request r = e := by
      unfold eventOf
      rw [hsubject]
    rw [hevent] at hin
    exact hin

theorem World.Paired.of_extend (h : w.Paired plane) (hs : w'.Sound plane)
    (hext : Extends none w w') (hpolls : w'.polls = w.polls)
    (hobs : ∀ o ∈ w'.delivery.observations, o ∈ w.delivery.observations ∨ o.HasOwnTurn) :
    w'.Paired plane where
  sound := hs
  polls p q hq := by
    rw [hpolls] at hq
    exact (h.polls p q hq).extend h.sound hq hext (by simp)
  observations o ho := by
    rcases hobs o ho with hold | hown
    · exact (h.observations o hold).extend hext
    · exact hown.paired

theorem TurnStep.paired {r' : Turn} {p p' : RuntimeProfile} {fresh : List TurnEvent}
    (hstep : TurnStep plane w w' t r r' p p' fresh) (h : w.Paired plane) :
    w'.Paired plane :=
  h.of_extend (hstep.sound h.sound) hstep.extend hstep.polls hstep.delivers.observed

theorem PollStep.paired {p : Nat} {q' : Poll} (hstep : PollStep w w' p q q' profile)
    (h : w.Paired plane) : w'.Paired plane where
  sound := hstep.sound h.sound
  polls p1 q1 hq1 := by
    rcases hstep.poll_cases hq1 with ⟨rfl, rfl⟩ | ⟨hne, hold⟩
    · exact hstep.poll_sound h.sound (h.polls _ _ hstep.before)
    · exact (h.polls p1 q1 hold).extend h.sound hold hstep.extend (fun heq => hne (some.inj heq))
  observations o ho := by
    rcases hstep.observed o ho with hold | hown | ⟨hpc, rfl⟩
    · exact (h.observations o hold).extend hstep.extend
    · exact hown.paired
    · exact (observation_paired h.sound (h.polls _ _ hstep.before)
        hstep.objectBefore hpc).extend hstep.extend

/-! ## The other events -/

theorem Extends.of_frame (hturns : w'.turns = w.turns)
    (hdelivery : w'.delivery = w.delivery) (hdrain : w'.turnDrain = w.turnDrain)
    (hprofiles : ∀ o p, w.profiles.find? o = some p → w'.profiles.find? o = some p) :
    Extends none w w' where
  profiles o p hp := ⟨p, hprofiles o p hp, rfl, le_refl _⟩
  turns t r hr := ⟨r, by rw [hturns]; exact hr, .refl r⟩
  origins t r hr := by
    rw [hturns] at hr
    by_cases hpc : r.pc = .leasing
    · exact .inl hpc
    · exact .inr (.inl ⟨r, hr, hpc, .refl r⟩)
  lost loss hloss := by rw [hdelivery]; exact hloss
  held p _ hheld := ⟨by rw [hdrain]; exact hheld, by rw [hdelivery], by rw [hdelivery]⟩

section

variable (h : w.Paired plane)
include h

theorem reload_paired (o subject : Nat) : (w.reloadProfile o subject).Paired plane := by
  unfold reloadProfile
  split
  · rename_i hnew
    have hkept : ∀ o' p, w.profiles.find? o' = some p →
        (w.setProfile o ⟨subject, 0, 0⟩).profiles.find? o' = some p := by
      intro o' p hp
      refine (find?_put_ne _ _ ?_).trans hp
      rintro rfl
      rw [hnew] at hp
      cases hp
    refine h.of_extend ?_ (Extends.of_frame rfl rfl rfl hkept) rfl (fun _ ho => .inl ho)
    refine { h.sound with turns := ?_, inflight := ?_ }
    · intro t r hr
      have hold := h.sound.turns t r hr
      obtain ⟨p, hp, hrest⟩ := hold.object
      exact { hold with object := ⟨p, hkept _ _ hp, hrest⟩ }
    · intro o' p hp
      rcases find?_put_cases hp with ⟨rfl, rfl⟩ | hold
      · -- no turn is on the new object
        symm
        apply List.sum_eq_zero
        intro x hx
        obtain ⟨⟨t, r⟩, hmem, rfl⟩ := mem_map.mp hx
        have hr := find?_eq_some_iff.mpr hmem
        obtain ⟨q, hq, -⟩ := (h.sound.turns t r hr).object
        refine if_neg (fun hand => ?_)
        rw [hand.1, hnew] at hq
        cases hq
      · exact h.sound.inflight o' p hold
  · exact h

theorem lease_paired (t o : Nat) : (w.lease t o).Paired plane := by
  unfold World.lease
  split
  · rename_i p hnew hp
    have hother : ∀ t' r, w.turns.find? t' = some r → t ≠ t' := by
      rintro t' r hr rfl
      rw [hnew] at hr
      cases hr
    have hobjects : ∀ o' q, w.profiles.find? o' = some q →
        ∃ q', (w.profiles.put o { p with inflight := p.inflight + 1 }).find? o' =
          some q' ∧ q'.subject = q.subject ∧ q.turnEpoch ≤ q'.turnEpoch := by
      intro o' q hq
      rw [find?_put]
      by_cases ho : o = o'
      · subst ho
        rw [hp] at hq
        cases hq
        exact ⟨_, if_pos rfl, rfl, le_refl _⟩
      · exact ⟨q, by rw [if_neg ho]; exact hq, rfl, le_refl _⟩
    have hcases : ∀ t' r,
        (w.turns.put t ⟨o, p.subject, 0, false, none, .leasing⟩).find? t' =
        some r → (t' = t ∧ r = ⟨o, p.subject, 0, false, none, .leasing⟩) ∨
          w.turns.find? t' = some r := fun _ _ => find?_put_cases
    have hstill : ∀ t' r, w.turns.find? t' = some r →
        (w.turns.put t ⟨o, p.subject, 0, false, none, .leasing⟩).find? t' = some r :=
      fun t' r hr => (find?_put_ne _ _ (hother t' r hr)).trans hr
    refine h.of_extend ?_ ?_ rfl (fun _ ho => .inl ho)
    · constructor
      case turns =>
        intro t' r hr
        rcases hcases t' r hr with ⟨rfl, rfl⟩ | hold
        · obtain ⟨q', hq', hsame, -⟩ := hobjects o p hp
          exact ⟨⟨q', hq', hsame, fun h => absurd rfl h⟩, nofun, nofun, fun _ => rfl,
            nofun, nofun⟩
        · have hturn := h.sound.turns t' r hold
          obtain ⟨q, hq, hsubject, hticket⟩ := hturn.object
          obtain ⟨q', hq', hsame, hepoch⟩ := hobjects _ _ hq
          exact { hturn with
            object := ⟨q', hq', hsame.trans hsubject, fun hpc => (hticket hpc).trans hepoch⟩ }
      case inflight =>
        intro o' q hq
        change (q.inflight : Int) = Table.sumBy (w.turns.put t _) _
        rw [sumBy_put_new _ _ hnew]
        change (w.profiles.put o _).find? o' = some q at hq
        rw [find?_put] at hq
        by_cases ho : o = o'
        · subst ho
          rw [if_pos rfl] at hq
          cases hq
          have hweight : Turn.weight ⟨o, p.subject, 0, false, none, .leasing⟩ o = 1 :=
            if_pos ⟨rfl, by simp⟩
          rw [hweight, ← h.sound.inflight o p hp]
          rfl
        · rw [if_neg ho] at hq
          have hweight : Turn.weight ⟨o, p.subject, 0, false, none, .leasing⟩ o' = 0 :=
            if_neg (fun hand => ho hand.1)
          rw [hweight, ← h.sound.inflight o' q hq]
          omega
      case counted =>
        intro e he
        obtain ⟨r, hr, hrest⟩ := h.sound.counted e he
        exact ⟨r, hstill _ r hr, hrest⟩
      case known =>
        intro e he
        obtain ⟨r, hr, hrest⟩ := h.sound.known e he
        exact ⟨r, hstill _ r hr, hrest⟩
      case pollBarrier => exact h.sound.pollBarrier
    · exact {
        profiles := hobjects
        turns := fun t' r hr => ⟨r, hstill t' r hr, .refl r⟩
        origins := by
          intro t' r hr
          rcases hcases t' r hr with ⟨-, rfl⟩ | hold
          · exact .inl rfl
          · by_cases hpc : r.pc = .leasing
            · exact .inl hpc
            · exact .inr (.inl ⟨r, hold, hpc, .refl r⟩)
        lost := fun _ hloss => hloss
        held := fun _ _ hheld => ⟨hheld, rfl, rfl⟩ }
  · exact h

theorem count_paired (ht : w.turns.find? t = some r) : (w.count t r).Paired plane := by
  unfold World.count
  split
  · exact h
  · rename_i hnew
    refine h.of_extend ?_ (Extends.of_frame rfl rfl rfl (fun _ _ hp => hp)) rfl
      (fun _ ho => .inl ho)
    refine { h.sound with turns := ?_, counted := ?_ }
    · intro t' r' hr'
      have hold := h.sound.turns t' r' hr'
      exact { hold with
        counted := fun hplane hm => mem_append_left _ (hold.counted hplane hm) }
    · intro e he
      rcases mem_append.mp he with hold | hlast
      · exact h.sound.counted e hold
      · rw [mem_singleton] at hlast
        subst hlast
        exact ⟨r, ht, rfl, fun hpc => hnew (.inl hpc)⟩

theorem startPoll_paired (p o : Nat) : (w.startPoll p o).Paired plane := by
  unfold startPoll
  split
  · rename_i profile hnew hprofile
    have hext : Extends none w (w.setPoll p ⟨o, profile.turnEpoch, [], .begun⟩) :=
      Extends.of_frame rfl rfl rfl (fun _ _ hp => hp)
    constructor
    case sound =>
      refine { h.sound with turns := ?_, pollBarrier := ?_ }
      · exact fun t r hr => { h.sound.turns t r hr with }
      intro p' q hq hpc
      rcases find?_put_cases hq with ⟨-, rfl⟩ | hold
      · cases hpc
      · exact h.sound.pollBarrier p' q hold hpc
    case polls =>
      intro p' q hq
      rcases find?_put_cases hq with ⟨-, rfl⟩ | hold
      · exact ⟨⟨profile, hprofile, le_refl _⟩, nofun, nofun, nofun, nofun, nofun, nofun, nofun⟩
      · exact (h.polls p' q hold).extend h.sound hold hext (by simp)
    case observations => exact fun o' ho => (h.observations o' ho).extend hext
  · exact h

theorem exec_paired (event : Event) : (World.exec plane w event).Paired plane := by
  cases event with
  | reload o subject => exact reload_paired h o subject
  | lease t o => exact lease_paired h t o
  | count t =>
    simp only [World.exec]
    split
    · exact h
    · rename_i r hr
      exact count_paired h hr
  | turn t choice =>
    simp only [World.exec]
    split
    · exact h
    · rename_i r hr
      rcases turnStep_step h.sound hr choice with heq | ⟨_, _, _, _, hstep⟩
      · rw [heq]
        exact h
      · exact hstep.paired h
  | cancel t write =>
    simp only [World.exec]
    split
    · exact h
    · rename_i r hr
      rcases cancelTurn_step h.sound hr write with heq | ⟨_, _, _, _, hstep⟩
      · rw [heq]
        exact h
      · exact hstep.paired h
  | poll p o => exact startPoll_paired h p o
  | pollStep p choice =>
    simp only [World.exec]
    split
    · exact h
    · rename_i q hq
      split
      · exact h
      · rename_i profile hprofile
        rcases pollProfile_step h.sound hq hprofile choice with heq | ⟨_, hstep⟩
        · rw [heq]
          exact h
        · exact hstep.paired h

end

end

theorem new_paired (plane : Plane) (capacity : Nat) : (World.new capacity).Paired plane where
  sound := {
    turns := nofun
    inflight := nofun
    counted := nofun
    known := by
      rintro e (he | he)
      · cases he
      · cases he
    pollBarrier := nofun }
  polls := nofun
  observations := nofun

theorem runPlane_paired (plane : Plane) (capacity : Nat) (events : List Event) :
    (runPlane plane capacity events).Paired plane := by
  unfold runPlane
  exact run_invariant (I := World.Paired plane) (fun _ event h => exec_paired h event)
    (new_paired plane capacity) events

end ApiToken.Turns
