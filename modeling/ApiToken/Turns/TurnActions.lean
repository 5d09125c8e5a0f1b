import ApiToken.Turns.TurnStep

/-!
# Every action of a turn is a turn step

One lemma for each function of `Plane` that a turn runs: the lease and its
two halves, `finalize_turn`, the read in its wake, `enqueue_turn` with its
push, its inline write and its drain, the drop of the lease, and the drop of
the handler. `turnStep_sound` and `cancelTurn_sound` collect them.
-/

namespace ApiToken.Turns

open World

variable {w' : World} {r' : Turn} {fresh : List TurnEvent}

variable {plane : Plane} {w : World} {t : Nat} {r : Turn} {p : RuntimeProfile}

theorem Turn.weight_live (h : r.pc ≠ .gone) : r.weight r.profile = 1 :=
  if_pos ⟨rfl, h⟩

section

variable (hs : w.Sound plane) (ht : w.turns.find? t = some r)
  (hp : w.profiles.find? r.profile = some p)
include hs ht hp

theorem World.Sound.inflight_pos (hlive : r.pc ≠ .gone) : 0 < p.inflight := by
  have hle := Table.weight_le_sumBy (fun _ r' => Turn.weight r' r.profile)
    (fun _ r' => r'.weight_nonneg _) ht
  have hsum := hs.inflight _ _ hp
  rw [Turn.weight_live hlive] at hle
  omega

theorem World.Sound.gone_of_idle (hidle : p.inflight = 0) : r.pc = .gone := by
  by_contra hlive
  have := hs.inflight_pos ht hp hlive
  omega

theorem publishEpoch_step (hpc : r.pc = .leasing) :
    TurnStep plane w (w.publishEpoch t r) t r
      { r with ticket := p.turnEpoch + 1, pc := .running } p
      { p with turnEpoch := p.turnEpoch + 1 } [] := by
  have hold := hs.turns t r ht
  have heq : w.publishEpoch t r =
      (w.setProfile r.profile { p with turnEpoch := p.turnEpoch + 1 }).setTurn t
        { r with ticket := p.turnEpoch + 1, pc := .running } := by
    unfold publishEpoch
    rw [hp]
  rw [heq]
  exact {
    before := ht
    objectBefore := hp
    turns := rfl
    profiles := fun o => find?_put _ _ _ _
    polls := rfl
    countedSame := rfl
    subject := rfl
    epoch := Nat.le_succ _
    inflight := by
      unfold Turn.weight
      simp [hpc]
    evolves := {
      profile := rfl
      subject := rfl
      published := fun h => absurd hpc h
      gone := fun h => by rw [hpc] at h; cases h
      metered := fun h => h
      delivered := fun h => by rw [hpc] at h; cases h }
    ticket := fun _ => le_refl _
    published := fun _ _ => Nat.lt_succ_self _
    delivers := .refl _
    handed := fun e he => by cases he
    metered := nofun
    unmetered := fun _ => hold.unmetered (.inl hpc)
    accounted := nofun
    priced := fun h => .inl h
    barrier := nofun
    others := fun _ _ h => ⟨h, rfl, rfl⟩ }

end

structure Turn.Moves (r r' : Turn) : Prop where
  profile : r'.profile = r.profile
  subject : r'.subject = r.subject
  ticket : r'.ticket = r.ticket
  from_live : r.pc ≠ .leasing ∧ r.pc ≠ .gone
  to_live : r'.pc ≠ .leasing ∧ r'.pc ≠ .running ∧ r'.pc ≠ .gone
  metered : r.metered = true → r'.metered = true
  delivered : r.pc.delivered = true → r'.pc.delivered = true
  event : r'.pc.hasEvent = true → r'.metered = true

section

variable (hs : w.Sound plane) (ht : w.turns.find? t = some r)
  (hp : w.profiles.find? r.profile = some p)
include hs ht hp

theorem TurnStep.of_moves (hmove : r.Moves r') (hturns : w'.turns = w.turns.put t r')
    (hprofiles : w'.profiles = w.profiles) (hpolls : w'.polls = w.polls)
    (hcounted : w'.counted = w.counted) (hdelivers : Delivers fresh w.delivery w'.delivery)
    (hhanded : ∀ e ∈ fresh, e = eventOf t r ∧ r'.metered = true ∧ r'.pc.delivered = true)
    (haccounted : r'.metered = true → r'.pc.delivered = true →
      (r.metered = true ∧ r.pc.delivered = true) ∨ w'.delivery.Accounts (eventOf t r))
    (hpriced : r'.metered = true → r.metered = true ∨
      (plane.countsFirst = true → eventOf t r ∈ w.counted))
    (hbarrier : r'.pc.holdsBarrier = true → w'.turnDrain = some (.turn t))
    (hothers : ∀ h, h ≠ .turn t → w.turnDrain = some h → w'.turnDrain = some h ∧
      w'.delivery.queue = w.delivery.queue ∧
      w'.delivery.ledger = w.delivery.ledger) : TurnStep plane w w' t r r' p p fresh := by
  obtain ⟨q, hq, -, hticket⟩ := (hs.turns t r ht).object
  rw [hp] at hq
  cases hq
  have hweight : r'.weight r.profile = r.weight r.profile := by
    rw [Turn.weight_live hmove.from_live.2, ← hmove.profile]
    exact Turn.weight_live hmove.to_live.2.2
  exact {
    before := ht
    objectBefore := hp
    turns := hturns
    profiles := by
      intro o
      rw [hprofiles]
      split
      · rename_i ho
        subst ho
        exact hp
      · rfl
    polls := hpolls
    countedSame := hcounted
    subject := rfl
    epoch := le_refl _
    inflight := by rw [hweight]; omega
    evolves := {
      profile := hmove.profile
      subject := hmove.subject
      published := fun _ => ⟨hmove.to_live.1, hmove.ticket⟩
      gone := fun h => absurd h hmove.from_live.2
      metered := hmove.metered
      delivered := hmove.delivered }
    ticket := by
      intro _
      rw [hmove.ticket]
      exact hticket hmove.from_live.1
    published := fun h => absurd h hmove.from_live.1
    delivers := hdelivers
    handed := hhanded
    metered := hmove.event
    unmetered := fun h => (h.elim hmove.to_live.1 hmove.to_live.2.1).elim
    accounted := haccounted
    priced := hpriced
    barrier := hbarrier
    others := hothers }

theorem TurnStep.of_setTurn (hmove : r.Moves r')
    (hpriced : r'.metered = true → r.metered = true ∨
      (plane.countsFirst = true → eventOf t r ∈ w.counted))
    (hdelivered : r'.metered = true → r'.pc.delivered = false)
    (hbarrier : r'.pc.holdsBarrier = true → r.pc.holdsBarrier = true) :
    TurnStep plane w (w.setTurn t r') t r r' p p [] :=
  TurnStep.of_moves hs ht hp hmove rfl rfl rfl rfl (.refl _)
    (fun e he => by cases he)
    (fun hm hd => by rw [hdelivered hm] at hd; cases hd)
    hpriced (fun h => (hs.turns t r ht).barrier (hbarrier h))
    (fun _ _ h => ⟨h, rfl, rfl⟩)

theorem finalizeTurn_step (hpc : r.pc = .running) (exact : Bool) :
    w.finalizeTurn plane t r exact = w ∨
      ∃ r', TurnStep plane w (w.finalizeTurn plane t r exact) t r r' p p [] := by
  have hunmetered := (hs.turns t r ht).unmetered (.inr hpc)
  have hfrom : r.pc ≠ .leasing ∧ r.pc ≠ .gone := by simp [hpc]
  unfold finalizeTurn
  cases exact with
  | false =>
    simp only [if_bool]
    refine .inr ⟨{ r with pc := .finished }, TurnStep.of_setTurn hs ht hp ?_ ?_ ?_ ?_⟩
    · exact ⟨rfl, rfl, rfl, hfrom, by simp, id, fun _ => rfl, nofun⟩
    · exact .inl
    · intro hm
      have hm : r.metered = true := hm
      rw [hunmetered] at hm
      cases hm
    · intro h
      cases h
  | true =>
    simp only [if_true]
    split
    · exact .inl rfl
    · rename_i hcounts
      refine .inr ⟨{ r with metered := true, pc := .finalizing },
        TurnStep.of_setTurn hs ht hp ?_ ?_ ?_ ?_⟩
      · exact ⟨rfl, rfl, rfl, hfrom, by simp, fun _ => rfl,
          fun h => absurd h (by simp [hpc, TurnPc.delivered]), fun _ => rfl⟩
      · intro _
        refine .inr ?_
        intro hplane
        by_contra hout
        simp [hplane, hout] at hcounts
      · exact fun _ => rfl
      · intro h
        cases h

theorem readWake_step (hpc : r.pc = .finalizing) (ok : Bool) :
    ∃ r', TurnStep plane w (w.readWake plane t r ok) t r r' p p [] := by
  have hm := (hs.turns t r ht).metered (by rw [hpc]; rfl)
  refine ⟨_, TurnStep.of_setTurn hs ht hp ?_ ?_ ?_ ?_⟩
  · exact ⟨rfl, rfl, rfl, by simp [hpc], by simp, id,
      fun h => absurd h (by simp [hpc, TurnPc.delivered]), fun _ => hm⟩
  · exact .inl
  · exact fun _ => rfl
  · intro h
    cases h

end

theorem lockTurnDrain_eq {w : World} {holder : Holder}
    (h : w.lockTurnDrain holder = some w') :
    w.turnDrain = none ∧ w' = { w with turnDrain := some holder } := by
  unfold lockTurnDrain at h
  split at h
  · rename_i hfree
    exact ⟨hfree, (some.inj h).symm⟩
  · cases h

section

variable (hs : w.Sound plane) (ht : w.turns.find? t = some r)
  (hp : w.profiles.find? r.profile = some p)
include hs ht hp

theorem lock_step (hpc : r.pc = .enqueueing) (hlock : w.lockTurnDrain (.turn t) = some w') :
    TurnStep plane w (w'.setTurn t { r with pc := .locked }) t r
      { r with pc := .locked } p p [] := by
  obtain ⟨hfree, rfl⟩ := lockTurnDrain_eq hlock
  have hm := (hs.turns t r ht).metered (by rw [hpc]; rfl)
  refine TurnStep.of_moves hs ht hp ?_ rfl rfl rfl rfl (.refl _) ?_ ?_ .inl ?_ ?_
  · exact ⟨rfl, rfl, rfl, by simp [hpc], by simp, id,
      fun h => absurd h (by simp [hpc, TurnPc.delivered]), fun _ => hm⟩
  · intro e he
    cases he
  · intro _ h
    cases h
  · exact fun _ => rfl
  · intro h _ hheld
    rw [hfree] at hheld
    cases hheld

theorem afterPush_step {step : Delivery × Bool} (hpc : r.pc.holdsBarrier = true)
    (hdelivers : Delivers fresh w.delivery step.1) (hfresh : ∀ e ∈ fresh, e = eventOf t r)
    (hnow : r.pc.delivered = true ∨ eventOf t r ∈ fresh) :
    ∃ r', TurnStep plane w (w.afterPush t r step) t r r' p p fresh := by
  have hold := hs.turns t r ht
  have hevent : r.pc.hasEvent = true := by
    revert hpc
    cases r.pc <;> decide
  have hfrom : r.pc ≠ .leasing ∧ r.pc ≠ .gone := by
    revert hpc
    cases r.pc <;> decide
  have hm := hold.metered hevent
  have hbarrier := hold.barrier hpc
  have hothers : ∀ h, h ≠ Holder.turn t → w.turnDrain ≠ some h := by
    intro h hne hheld
    rw [hbarrier] at hheld
    cases hheld
    exact hne rfl
  have haccounted : ∀ d, Delivers fresh w.delivery d →
      (r.metered = true ∧ r.pc.delivered = true) ∨ d.Accounts (eventOf t r) := by
    intro d hd
    rcases hnow with hdel | hin
    · exact .inl ⟨hm, hdel⟩
    · exact .inr (hd.accounts _ (.inr hin))
  unfold afterPush
  split
  · refine ⟨{ r with pc := .draining }, TurnStep.of_moves hs ht hp ?_ rfl rfl rfl rfl
      hdelivers ?_ ?_ .inl ?_ ?_⟩
    · exact ⟨rfl, rfl, rfl, hfrom, by simp, id, fun _ => rfl, fun _ => hm⟩
    · intro e he
      exact ⟨hfresh e he, hm, rfl⟩
    · intro _ _
      exact haccounted _ hdelivers
    · intro _
      exact hbarrier
    · intro h hne hheld
      exact absurd hheld (hothers h hne)
  · refine ⟨{ r with pc := .finished }, TurnStep.of_moves hs ht hp ?_ rfl rfl rfl rfl
      hdelivers ?_ ?_ .inl ?_ ?_⟩
    · exact ⟨rfl, rfl, rfl, hfrom, by simp, id, fun _ => rfl, fun _ => hm⟩
    · intro e he
      exact ⟨hfresh e he, hm, rfl⟩
    · intro _ _
      exact haccounted _ hdelivers
    · intro h
      cases h
    · intro h hne hheld
      exact absurd hheld (hothers h hne)

theorem enqueueTurn_step (hpc : r.pc = .locked) :
    ∃ r' fresh, TurnStep plane w (w.enqueueTurn plane t r) t r r' p p fresh := by
  unfold enqueueTurn
  split
  · have hm := (hs.turns t r ht).metered (by rw [hpc]; rfl)
    refine ⟨_, [], TurnStep.of_setTurn hs ht hp ?_ ?_ ?_ ?_⟩
    · exact ⟨rfl, rfl, rfl, by simp [hpc], by simp, id,
        fun h => absurd h (by simp [hpc, TurnPc.delivered]), fun _ => hm⟩
    · exact .inl
    · exact fun _ => rfl
    · intro _
      rw [hpc]
      rfl
  · obtain ⟨r', hstep⟩ := afterPush_step hs ht hp (by rw [hpc]; rfl)
      (Delivers.pushTurn w.delivery (pendingOf t r)) (fun e he => mem_singleton.mp he)
      (.inr (mem_singleton.mpr rfl))
    exact ⟨r', _, hstep⟩

/-- The drop of a lease, alone or after the handler's delivery `d` was left
behind. -/
theorem dropLease_step (hlive : r.pc ≠ .leasing ∧ r.pc ≠ .gone)
    (hturns : w'.turns = w.turns.put t { r with pc := .gone })
    (hprofiles : w'.profiles = w.profiles.put r.profile { p with inflight := p.inflight - 1 })
    (hpolls : w'.polls = w.polls) (hcounted : w'.counted = w.counted)
    (hdelivers : Delivers fresh w.delivery w'.delivery)
    (hhanded : ∀ e ∈ fresh, e = eventOf t r ∧ r.metered = true)
    (haccounted : r.metered = true → r.pc.delivered = true ∨ eventOf t r ∈ fresh)
    (hothers : ∀ h, h ≠ .turn t → w.turnDrain = some h → w'.turnDrain = some h ∧
      w'.delivery.queue = w.delivery.queue ∧
      w'.delivery.ledger = w.delivery.ledger) :
    TurnStep plane w w' t r { r with pc := .gone } p
      { p with inflight := p.inflight - 1 } fresh := by
  obtain ⟨q, hq, -, hticket⟩ := (hs.turns t r ht).object
  rw [hp] at hq
  cases hq
  have hpos := hs.inflight_pos ht hp hlive.2
  exact {
    before := ht
    objectBefore := hp
    turns := hturns
    profiles := by
      intro o
      rw [hprofiles]
      exact find?_put _ _ _ _
    polls := hpolls
    countedSame := hcounted
    subject := rfl
    epoch := le_refl _
    inflight := by
      rw [Turn.weight_live hlive.2]
      unfold Turn.weight
      simp only [ne_eq, not_true_eq_false, and_false, if_false]
      omega
    evolves := {
      profile := rfl
      subject := rfl
      published := fun _ => ⟨by simp, rfl⟩
      gone := fun h => absurd h hlive.2
      metered := fun h => h
      delivered := fun _ => rfl }
    ticket := fun _ => hticket hlive.1
    published := fun h => absurd h hlive.1
    delivers := hdelivers
    handed := fun e he => ⟨(hhanded e he).1, (hhanded e he).2, rfl⟩
    metered := nofun
    unmetered := fun h => by rcases h with h | h <;> cases h
    accounted := by
      intro hm _
      have hm : r.metered = true := hm
      rcases haccounted hm with hdel | hin
      · exact .inl ⟨hm, hdel⟩
      · exact .inr (hdelivers.accounts _ (.inr hin))
    priced := .inl
    barrier := nofun
    others := hothers }

end

theorem dropLease_eq (hp : w.profiles.find? r.profile = some p) :
    w.dropLease t r = (w.setProfile r.profile { p with inflight := p.inflight - 1 }).setTurn t
      { r with pc := .gone } := by
  unfold dropLease
  rw [hp]

theorem turnStep_step (hs : w.Sound plane) (ht : w.turns.find? t = some r)
    (choice : Choice) :
    w.turnStep plane t r choice = w ∨
      ∃ r' p p' fresh, TurnStep plane w (w.turnStep plane t r choice) t r r' p p' fresh := by
  obtain ⟨p, hp, -, -⟩ := (hs.turns t r ht).object
  unfold turnStep
  split
  case h_1 hpc => exact .inr ⟨_, p, _, _, publishEpoch_step hs ht hp hpc⟩
  case h_2 hpc =>
    rcases finalizeTurn_step hs ht hp hpc choice.ok with heq | ⟨r', hstep⟩
    · exact .inl heq
    · exact .inr ⟨r', p, p, [], hstep⟩
  case h_3 hpc =>
    obtain ⟨r', hstep⟩ := readWake_step hs ht hp hpc choice.ok
    exact .inr ⟨r', p, p, [], hstep⟩
  case h_4 hpc =>
    split
    · exact .inl rfl
    · rename_i w' hlock
      exact .inr ⟨_, p, p, [], lock_step hs ht hp hpc hlock⟩
  case h_5 hpc =>
    obtain ⟨r', fresh, hstep⟩ := enqueueTurn_step hs ht hp hpc
    exact .inr ⟨r', p, p, fresh, hstep⟩
  case h_6 hpc =>
    obtain ⟨r', hstep⟩ := afterPush_step hs ht hp (by rw [hpc]; rfl)
      (Delivers.writeDirect w.delivery (pendingOf t r) choice.write)
      (fun e he => mem_singleton.mp he) (.inr (mem_singleton.mpr rfl))
    exact .inr ⟨r', p, p, _, hstep⟩
  case h_7 hpc =>
    obtain ⟨r', hstep⟩ := afterPush_step hs ht hp (by rw [hpc]; rfl)
      (Delivers.drainOnce w.delivery choice.write) (fun e he => by cases he)
      (.inl (by rw [hpc]; rfl))
    exact .inr ⟨r', p, p, _, hstep⟩
  case h_8 hpc =>
    rw [dropLease_eq hp]
    exact .inr ⟨_, p, _, [], dropLease_step hs ht hp (by rw [hpc]; decide) rfl rfl rfl rfl
      (.refl _) (fun e he => by cases he) (fun _ => .inl (by rw [hpc]; rfl))
      (fun _ _ h => ⟨h, rfl, rfl⟩)⟩
  case h_9 => exact .inl rfl

theorem abandon_delivers (hs : w.Sound plane) (ht : w.turns.find? t = some r)
    (write : Write) :
    ∃ fresh, Delivers fresh w.delivery (w.abandon t r write) ∧
      (∀ e ∈ fresh, e = eventOf t r ∧ r.metered = true) ∧
      (r.metered = true → r.pc.delivered = true ∨ eventOf t r ∈ fresh) := by
  unfold abandon
  by_cases hwriting : r.pc = .writing
  · have hm := (hs.turns t r ht).metered (by rw [hwriting]; rfl)
    have hlost : (r.metered && !r.pc.delivered) = true := by
      rw [hm, hwriting]
      rfl
    simp only [hwriting, if_true] at hlost ⊢
    rw [if_pos hlost]
    exact ⟨_, Delivers.lose_after (w.delivery.recordTurn_wrote (pendingOf t r) write) _,
      fun e he => ⟨mem_singleton.mp he, hm⟩,
      fun _ => .inr (mem_singleton.mpr rfl)⟩
  · simp only [hwriting, if_false]
    split
    · rename_i hlost
      rw [Bool.and_eq_true] at hlost
      exact ⟨_, Delivers.lose_after (w.delivery.untried_wrote (pendingOf t r)) _,
        fun e he => ⟨mem_singleton.mp he, hlost.1⟩,
        fun _ => .inr (mem_singleton.mpr rfl)⟩
    · rename_i hkept
      refine ⟨[], .refl _, fun e he => absurd he not_mem_nil, ?_⟩
      intro hm
      refine .inl ?_
      by_contra hdel
      simp [hm, hdel] at hkept

theorem abandon_frame (hpc : r.pc.holdsBarrier = false) (write : Write) :
    (w.abandon t r write).queue = w.delivery.queue ∧
      (w.abandon t r write).ledger = w.delivery.ledger := by
  unfold abandon
  have hwriting : r.pc ≠ .writing := by
    intro h
    rw [h] at hpc
    cases hpc
  simp only [hwriting, if_false]
  split <;> exact ⟨rfl, rfl⟩

theorem cancelTurn_step (hs : w.Sound plane) (ht : w.turns.find? t = some r)
    (write : Write) :
    w.cancelTurn plane t r write = w ∨
      ∃ r' p p' fresh, TurnStep plane w (w.cancelTurn plane t r write) t r r' p p' fresh := by
  have hold := hs.turns t r ht
  obtain ⟨p, hp, -, -⟩ := hold.object
  unfold cancelTurn
  split
  · rename_i hon
    simp only [guard_iffs, bne_iff_ne, ne_eq] at hon
    have hlive : r.pc ≠ .leasing ∧ r.pc ≠ .gone := ⟨hon.1.2, hon.2⟩
    obtain ⟨fresh, hdelivers, hhanded, haccounted⟩ := abandon_delivers hs ht write
    refine .inr ⟨{ r with pc := .gone }, p, { p with inflight := p.inflight - 1 }, fresh, ?_⟩
    have heq : ({ w with delivery := w.abandon t r write } : World).dropLease t r =
        (({ w with delivery := w.abandon t r write } : World).setProfile r.profile
          { p with inflight := p.inflight - 1 }).setTurn t { r with pc := .gone } :=
      dropLease_eq hp
    simp only [heq]
    split
    · rename_i hheld
      have hbarrier := hold.barrier hheld
      refine dropLease_step hs ht hp hlive rfl rfl rfl rfl hdelivers hhanded haccounted ?_
      intro h hne hother
      rw [hbarrier] at hother
      cases hother
      exact absurd rfl hne
    · rename_i hfree
      obtain ⟨hqueue, hledger⟩ := abandon_frame (w := w) (t := t)
        (Bool.eq_false_iff.mpr hfree) write
      exact dropLease_step hs ht hp hlive rfl rfl rfl rfl hdelivers hhanded haccounted
        (fun _ _ h => ⟨h, hqueue, hledger⟩)
  · exact .inl rfl

end ApiToken.Turns
