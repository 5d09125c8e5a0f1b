import ApiToken.Credits.Fence

/-!
# Every run that keeps the fence attributes exactly

One lemma for each action of a generation, the run lemma from them, and a
run in which a lease slips between the two loads of a baseline.
-/

namespace ApiToken.Credits

open Account

variable {opening : Opening} {a : Account} {g : Nat} {G : Generation} {p : Profile}

structure Generation.Moves (G G' : Generation) : Prop where
  object : G'.object = G.object
  cost : G'.cost = G.cost
  ticket : G'.ticket = G.ticket
  from_published : G.pc ≠ .leasing
  to_published : G'.pc ≠ .leasing
  gone : G.pc = .gone ↔ G'.pc = .gone

theorem Step.of_moves {a' : Account} {G' : Generation}
    (hG : a.generations.find? g = some G) (hp : a.profiles.find? G.object = some p)
    (hgenerations : a'.generations = a.generations.put g G')
    (hprofiles : a'.profiles = a.profiles) (hmove : G.Moves G') (hself : G'.Sound opening a' g)
    (hothers : ∀ h H b q, h ≠ g → a.generations.find? h = some H → H.fence = some b →
      a.profiles.find? H.object = some q → q.turnEpoch = b.epoch → a'.consumed = a.consumed)
    (hsettlements : ∀ s ∈ a'.settlements, s ∈ a.settlements ∨ s.Own a') :
    Step opening a a' g G G' p p := by
  have hweight : G'.weight G.object = G.weight G.object := by
    unfold Generation.weight
    simp only [hmove.object, ne_eq, hmove.gone]
  exact {
    before := hG
    objectBefore := hp
    generations := hgenerations
    profiles := by
      intro o
      rw [hprofiles]
      split
      · rename_i ho
        subst ho
        exact hp
      · rfl
    epoch := le_refl _
    inflight := by rw [hweight]; omega
    evolves := {
      object := hmove.object
      cost := hmove.cost
      published := fun _ => ⟨hmove.to_published, hmove.ticket⟩
      gone := hmove.gone.mp }
    published := fun h => absurd h hmove.from_published
    self := hself
    others := hothers
    settlements := hsettlements }

theorem alone_put {G' : Generation}
    (halone : ∀ h H, a.generations.find? h = some H → h ≠ g → H.object = G.object →
      H.pc ≠ .leasing → H.ticket ≤ G.idleEpoch → H.pc = .gone)
    {h : Nat} {H : Generation} (hH : (a.generations.put g G').find? h = some H)
    (hne : h ≠ g) (hobject : H.object = G.object) (hpub : H.pc ≠ .leasing)
    (hticket : H.ticket ≤ G.idleEpoch) : H.pc = .gone := by
  rw [find?_put_ne _ _ (fun e => hne e.symm)] at hH
  exact halone h H hH hne hobject hpub hticket

theorem publish_step (hs : a.Sound opening) (hG : a.generations.find? g = some G)
    (hp : a.profiles.find? G.object = some p) (hpc : G.pc = .leasing) :
    Step opening a (a.publish g G p) g G
      { G with ticket := p.turnEpoch + 1, pc := .leased } p
      { p with turnEpoch := p.turnEpoch + 1 } := by
  have hold := hs.generations g G hG
  have hunsent := hold.unsent (by rw [hpc]; rfl)
  obtain ⟨q, hq, -, hidle, hepoch⟩ := hold.object
  rw [hp] at hq
  cases hq
  exact {
    before := hG
    objectBefore := hp
    generations := rfl
    profiles := fun o => find?_put _ _ _ _
    epoch := Nat.le_succ _
    inflight := by
      unfold Generation.weight
      simp [hpc]
    evolves := ⟨rfl, rfl, fun h => absurd hpc h, fun h => by rw [hpc] at h; cases h⟩
    published := fun _ _ => Nat.lt_succ_self _
    self := {
      object := by
        refine ⟨_, find?_put_self _ _ _, fun _ => le_refl _, hidle.trans (Nat.le_succ _), ?_⟩
        exact fun b hb => (hepoch b hb).trans (Nat.le_succ _)
      unsent := fun _ => hunsent
      created := nofun
      read := nofun
      alone := fun h => absurd hunsent.2.2 (h.resolve_left nofun)
      fence := nofun
      post := nofun }
    others := fun _ _ _ _ _ _ _ _ _ => rfl
    settlements := fun _ h => .inl h }

/-- Any move into `creating` without a baseline has no fence. -/
theorem unfenced_sound (hs : a.Sound opening) (hG : a.generations.find? g = some G)
    (hpc : G.pc.beforeCreate = true) (hpub : G.pc ≠ .leasing) :
    ({ G with sent := true, pc := .creating } : Generation).Sound opening
      (a.setGeneration g { G with sent := true, pc := .creating }) g := by
  have hold := hs.generations g G hG
  obtain ⟨-, -, hnone⟩ := hold.unsent hpc
  obtain ⟨q, hq, hticket, hrest⟩ := hold.object
  exact {
    object := ⟨q, hq, fun _ => hticket hpub, hrest⟩
    unsent := nofun
    created := nofun
    read := nofun
    alone := fun h => absurd hnone (h.resolve_left nofun)
    fence := fun b _ hb => by
      have hb : G.baseline = some b := hb
      rw [hnone] at hb
      cases hb
    post := nofun }

section

variable (hs : a.Sound opening) (hG : a.generations.find? g = some G)
  (hp : a.profiles.find? G.object = some p)
include hs hG hp

theorem readBaseline_step (hpc : G.pc = .leased) (answer : Option Halves) :
    ∃ G', Step opening a (a.readBaseline opening g G answer) g G G' p p := by
  have hold := hs.generations g G hG
  have hunsent := hold.unsent (by rw [hpc]; rfl)
  obtain ⟨q, hq, hticket, hrest⟩ := hold.object
  cases answer with
  | none =>
    exact ⟨_, Step.of_moves hG hp rfl rfl
      ⟨rfl, rfl, rfl, by simp [hpc], by simp, by simp [hpc]⟩
      (unfenced_sound hs hG (by rw [hpc]; rfl) (by simp [hpc]))
      (fun _ _ _ _ _ _ _ _ _ => rfl) (fun _ h => .inl h)⟩
  | some halves =>
    refine ⟨_, Step.of_moves hG hp rfl rfl
      ⟨rfl, rfl, rfl, by simp [hpc], by simp, by simp [hpc]⟩ ?_
      (fun _ _ _ _ _ _ _ _ _ => rfl) (fun _ h => .inl h)⟩
    exact {
      object := ⟨q, hq, fun _ => hticket (by simp [hpc]), hrest⟩
      unsent := fun _ => hunsent
      created := nofun
      read := fun _ => billing_shows a halves
      alone := fun h => absurd hunsent.2.2 (h.resolve_left nofun)
      fence := nofun
      post := nofun }

theorem loadInflight_step (hpc : G.pc = .baselineRead) :
    ∃ G', Step opening a (a.loadInflight g G p) g G G' p p := by
  have hold := hs.generations g G hG
  have hunsent := hold.unsent (by rw [hpc]; rfl)
  obtain ⟨q, hq, hticket, hidle, hepoch⟩ := hold.object
  rw [hp] at hq
  cases hq
  unfold loadInflight
  split
  · rename_i hone
    refine ⟨_, Step.of_moves hG hp rfl rfl
      ⟨rfl, rfl, rfl, by simp [hpc], by simp, by simp [hpc]⟩ ?_
      (fun _ _ _ _ _ _ _ _ _ => rfl) (fun _ h => .inl h)⟩
    exact {
      object := ⟨p, hp, fun _ => hticket (by simp [hpc]), le_refl _, hepoch⟩
      unsent := fun _ => hunsent
      created := nofun
      read := fun _ => hold.read (.inl hpc)
      alone := by
        intro _ h H hH hne hobject _ _
        change (a.generations.put g _).find? h = some H at hH
        rw [find?_put_ne _ _ (fun e => hne e.symm)] at hH
        exact hs.alone hG hp hone (by simp [hpc]) hH hne hobject
      fence := nofun
      post := nofun }
  · exact ⟨_, Step.of_moves hG hp rfl rfl
      ⟨rfl, rfl, rfl, by simp [hpc], by simp, by simp [hpc]⟩
      (unfenced_sound hs hG (by rw [hpc]; rfl) (by simp [hpc]))
      (fun _ _ _ _ _ _ _ _ _ => rfl) (fun _ h => .inl h)⟩

/-- The baseline shows the counter as it is, if no create call was executed
since it was read. -/
theorem loadEpoch_step (hpc : G.pc = .inflightLoaded) (hseen : a.consumed = G.seen) :
    ∃ G', Step opening a (a.loadEpoch g G p) g G G' p p := by
  have hold := hs.generations g G hG
  obtain ⟨-, hexecuted, hnone⟩ := hold.unsent (by rw [hpc]; rfl)
  obtain ⟨q, hq, hticket, hidle, -⟩ := hold.object
  rw [hp] at hq
  cases hq
  refine ⟨_, Step.of_moves hG hp rfl rfl
    ⟨rfl, rfl, rfl, by simp [hpc], by simp, by simp [hpc]⟩ ?_
    (fun _ _ _ _ _ _ _ _ _ => rfl) (fun _ h => .inl h)⟩
  exact {
    object := by
      refine ⟨p, hp, fun _ => hticket (by simp [hpc]), hidle, ?_⟩
      intro b hb
      cases hb
      exact le_refl _
    unsent := nofun
    created := nofun
    read := nofun
    alone := fun _ _ _ hH hne => alone_put (hold.alone (.inl hpc)) hH hne
    fence := by
      intro b q hb _ _
      cases hb
      refine ⟨G.seen, hold.read (.inr hpc), ?_⟩
      have hown : ({ G with
          baseline := some ⟨G.snapshot, p.turnEpoch⟩, sent := true,
          pc := .creating } : Generation).ownPart = 0 := by
        unfold Generation.ownPart
        simp [hexecuted]
      rw [hown]
      exact hseen
    post := nofun }

theorem execute_step (hawaited : G.awaited = true)
    (hfenced : a.generations.any (a.unfenced g G) = false) :
    ∃ G', Step opening a (a.execute g G) g G G' p p := by
  have hold := hs.generations g G hG
  unfold Generation.awaited at hawaited
  rw [Bool.and_eq_true] at hawaited
  obtain ⟨hsent, hnot⟩ := hawaited
  have hexecuted : G.executed = false := by simpa using hnot
  have hafter : G.pc.beforeCreate = false := by
    by_contra hb
    obtain ⟨hunsent, -⟩ := hold.unsent (by simpa using hb)
    rw [hunsent] at hsent
    cases hsent
  have hpub : G.pc ≠ .leasing := by
    intro h
    rw [h] at hafter
    cases hafter
  obtain ⟨q, hq, hticket, hrest⟩ := hold.object
  refine ⟨_, Step.of_moves hG hp rfl rfl ⟨rfl, rfl, rfl, hpub, hpub, Iff.rfl⟩ ?_ ?_
    (fun _ h => .inl h)⟩
  · exact {
      object := ⟨q, hq, fun _ => hticket hpub, hrest⟩
      unsent := fun h => by
        have h : G.pc.beforeCreate = true := h
        rw [hafter] at h
        cases h
      created := fun _ => rfl
      read := hold.read
      alone := fun h _ _ hH hne => alone_put (hold.alone h) hH hne
      fence := by
        intro b q' hb hq' heq
        obtain ⟨c, hshows, hcounter⟩ := hold.fence b q' hb hq' heq
        refine ⟨c, hshows, ?_⟩
        unfold Generation.ownPart at hcounter ⊢
        simp only [hexecuted, if_bool] at hcounter ⊢
        change a.consumed + G.cost = c + G.cost
        omega
      post := fun h => by
        have hdone := hold.created (.inr h)
        rw [hexecuted] at hdone
        cases hdone }
  · intro h H b q' hne hH hb hq' heq
    have hnothole := any_eq_false_iff.mp hfenced h H hH
    unfold unfenced at hnothole
    rw [hb, hq'] at hnothole
    simp only [guard_iffs] at hnothole
    change a.consumed + G.cost = a.consumed
    by_contra hmoved
    refine hnothole ⟨hne, by omega, heq, ?_⟩
    by_cases hgone : G.pc = .gone
    · exact .inl hgone
    · by_cases hobject : G.object = H.object
      · refine .inr (.inr ⟨?_, ?_⟩)
        · -- a lease taken before the inflight load is gone
          by_contra hearly
          have hother := hs.generations h H hH
          have hbaseline := Step.fence_baseline hb
          exact hgone (hother.alone (.inr (by rw [hbaseline]; simp)) g G hG
            (fun e => hne e.symm) hobject hpub (by omega))
        · rw [← hobject, hq] at hq'
          cases hq'
          have := hticket hpub
          omega
      · exact .inr (.inl hobject)

theorem answer_step (hpc : G.pc = .creating) (hexecuted : G.executed = true) :
    ∃ G', Step opening a (a.answer g G) g G G' p p := by
  have hold := hs.generations g G hG
  obtain ⟨q, hq, hticket, hrest⟩ := hold.object
  refine ⟨_, Step.of_moves hG hp rfl rfl
    ⟨rfl, rfl, rfl, by simp [hpc], by simp, by simp [hpc]⟩ ?_
    (fun _ _ _ _ _ _ _ _ _ => rfl) (fun _ h => .inl h)⟩
  exact {
    object := ⟨q, hq, fun _ => hticket (by simp [hpc]), hrest⟩
    unsent := nofun
    created := fun _ => hexecuted
    read := nofun
    alone := fun h _ _ hH hne => alone_put (hold.alone (.inr (h.resolve_left nofun))) hH hne
    fence := by
      intro b q' hb hq' heq
      have hb : G.fence = some b := by
        unfold Generation.fence
        rw [hpc]
        exact hb
      exact hold.fence b q' hb hq' heq
    post := nofun }

theorem readPost_step (hpc : G.pc = .created) (answer : Option Halves) :
    ∃ G', Step opening a (a.readPost opening g G answer) g G G' p p := by
  have hold := hs.generations g G hG
  have hexecuted := hold.created (.inl hpc)
  obtain ⟨q, hq, hticket, hrest⟩ := hold.object
  refine ⟨_, Step.of_moves hG hp rfl rfl
    ⟨rfl, rfl, rfl, by simp [hpc], by simp, by simp [hpc]⟩ ?_
    (fun _ _ _ _ _ _ _ _ _ => rfl) (fun _ h => .inl h)⟩
  exact {
    object := ⟨q, hq, fun _ => hticket (by simp [hpc]), hrest⟩
    unsent := nofun
    created := fun _ => hexecuted
    read := nofun
    alone := fun h _ _ hH hne => alone_put (hold.alone (.inr (h.resolve_left nofun))) hH hne
    fence := nofun
    post := by
      intro _ b s q' hb hpost hq' heq
      have hfence : G.fence = some b := by
        unfold Generation.fence
        rw [hpc]
        exact hb
      obtain ⟨c, hshows, hcounter⟩ := hold.fence b q' hfence hq' heq
      obtain ⟨halves, -, hs⟩ := map_eq_some_iff.mp hpost
      refine ⟨c, hshows, ?_⟩
      have hown : G.ownPart = G.cost := by
        unfold Generation.ownPart
        rw [hexecuted]
        rfl
      rw [hown] at hcounter
      change s.Shows opening (c + G.cost)
      rw [← hs, ← hcounter]
      exact billing_shows a halves }

theorem finalize_step (hpc : G.pc = .postRead) (succeeded : Bool) :
    ∃ G', Step opening a (a.finalize g G p succeeded) g G G' p p := by
  have hold := hs.generations g G hG
  obtain ⟨q, hq, hticket, hrest⟩ := hold.object
  refine ⟨_, Step.of_moves hG hp rfl rfl
    ⟨rfl, rfl, rfl, by simp [hpc], by simp, by simp [hpc]⟩ ?_
    (fun _ _ _ _ _ _ _ _ _ => rfl) ?_⟩
  · exact {
      object := ⟨q, hq, fun _ => hticket (by simp [hpc]), hrest⟩
      unsent := nofun
      created := nofun
      read := nofun
      alone := fun h _ _ hH hne =>
        alone_put (hold.alone (.inr (h.resolve_left nofun))) hH hne
      fence := nofun
      post := nofun }
  · intro s hmem
    rcases mem_append.mp hmem with hbefore | hnew
    · exact .inl hbefore
    · rw [mem_singleton] at hnew
      subst hnew
      refine .inr ?_
      intro d hd
      refine ⟨_, find?_put_self _ _ _, ?_⟩
      have hdelta := money_attributed hd
      unfold attributedDelta at hdelta
      split at hdelta
      · rename_i b s hb hpost
        split at hdelta
        · rename_i heq
          obtain ⟨c, hbefore, hafter⟩ := hold.post hpc b s p hb hpost hp heq
          have := creditDelta_shows hbefore hafter hdelta
          change d = (G.cost : Int)
          omega
        · cases hdelta
      · cases hdelta

theorem drop_step (hpub : G.pc ≠ .leasing) (hlive : G.pc ≠ .gone) :
    Step opening a (a.drop g G p) g G { G with pc := .gone } p
      { p with inflight := p.inflight - 1 } := by
  have hold := hs.generations g G hG
  obtain ⟨q, hq, hticket, hidle, hepoch⟩ := hold.object
  rw [hp] at hq
  cases hq
  have hle := Table.weight_le_sumBy (fun _ K => Generation.weight K G.object)
    (fun _ K => K.weight_nonneg _) hG
  have hsum := hs.inflight _ _ hp
  rw [Generation.weight_live hlive] at hle
  exact {
    before := hG
    objectBefore := hp
    generations := rfl
    profiles := fun o => find?_put _ _ _ _
    epoch := le_refl _
    inflight := by
      rw [Generation.weight_live hlive]
      unfold Generation.weight
      simp only [ne_eq, not_true_eq_false, and_false, if_false]
      omega
    evolves := ⟨rfl, rfl, fun _ => ⟨by simp, rfl⟩, fun _ => rfl⟩
    published := fun h => absurd h hpub
    self := {
      object := ⟨_, find?_put_self _ _ _, fun _ => hticket hpub, hidle, hepoch⟩
      unsent := nofun
      created := nofun
      read := nofun
      alone := fun h _ _ hH hne =>
        alone_put (hold.alone (.inr (h.resolve_left nofun))) hH hne
      fence := nofun
      post := nofun }
    others := fun _ _ _ _ _ _ _ _ _ => rfl
    settlements := fun _ h => .inl h }

end

/-! ## Runs -/

theorem due_sound (hs : a.Sound opening) {ready : Generation → Bool}
    {action : Generation → Profile → Account}
    (h : ∀ G p, a.generations.find? g = some G → a.profiles.find? G.object = some p →
      ready G = true → (action G p).Sound opening) :
    (a.due g ready action).Sound opening := by
  unfold due
  split
  · exact hs
  · rename_i G hG
    split
    · exact hs
    · rename_i p hp
      split
      · rename_i hready
        exact h G p hG hp hready
      · exact hs

theorem reload_sound (hs : a.Sound opening) (o : Nat) : (a.reload o).Sound opening := by
  unfold Account.reload
  split
  · rename_i hnew
    have hkept : ∀ o' q, a.profiles.find? o' = some q →
        (a.setProfile o ⟨0, 0⟩).profiles.find? o' = some q := by
      intro o' q hq
      refine (find?_put_ne _ _ ?_).trans hq
      rintro rfl
      rw [hnew] at hq
      cases hq
    have hsame : ∀ g G, a.generations.find? g = some G → ∀ q,
        (a.setProfile o ⟨0, 0⟩).profiles.find? G.object = some q →
          a.profiles.find? G.object = some q := by
      intro g G hG q hq
      obtain ⟨q0, hq0, -⟩ := (hs.generations g G hG).object
      rw [hkept _ _ hq0] at hq
      cases hq
      exact hq0
    refine { hs with generations := ?_, inflight := ?_ }
    · intro g G hG
      have hold := hs.generations g G hG
      obtain ⟨q, hq, hrest⟩ := hold.object
      exact { hold with
        object := ⟨q, hkept _ _ hq, hrest⟩
        fence := fun b q' hb hq' => hold.fence b q' hb (hsame g G hG q' hq')
        post := fun hpc b s q' hb hpost hq' =>
          hold.post hpc b s q' hb hpost (hsame g G hG q' hq') }
    · intro o' q hq
      rcases find?_put_cases hq with ⟨rfl, rfl⟩ | hold
      · -- no generation is on the new object
        symm
        apply List.sum_eq_zero
        intro x hx
        obtain ⟨⟨g, G⟩, hmem, rfl⟩ := mem_map.mp hx
        have hG := find?_eq_some_iff.mpr hmem
        obtain ⟨q, hq, -⟩ := (hs.generations g G hG).object
        refine if_neg (fun hand => ?_)
        rw [hand.1, hnew] at hq
        cases hq
      · exact hs.inflight o' q hold
  · exact hs

theorem lease_sound (hs : a.Sound opening) (g o cost : Nat) (reserve : Int) :
    (a.lease g o cost reserve).Sound opening := by
  unfold Account.lease
  split
  · rename_i p hnew hp
    generalize hfresh : (⟨o, cost, reserve, 0, false, false, ⟨none, none⟩, 0, 0, none, none,
      .leasing⟩ : Generation) = fresh
    have hobject : fresh.object = o := by rw [← hfresh]
    have hpc : fresh.pc = .leasing := by rw [← hfresh]
    have hstill : ∀ h H, a.generations.find? h = some H → g ≠ h := by
      rintro h H hH rfl
      rw [hnew] at hH
      cases hH
    have hobjects : ∀ o' q', (a.profiles.put o { p with inflight := p.inflight + 1 }).find?
        o' = some q' → ∃ q, a.profiles.find? o' = some q ∧ q.turnEpoch = q'.turnEpoch := by
      intro o' q' hq'
      rw [find?_put] at hq'
      split at hq'
      · rename_i ho
        subst ho
        cases hq'
        exact ⟨p, hp, rfl⟩
      · exact ⟨q', hq', rfl⟩
    have hlater : ∀ o' q, a.profiles.find? o' = some q →
        ∃ q', (a.profiles.put o { p with inflight := p.inflight + 1 }).find? o' =
          some q' ∧ q.turnEpoch = q'.turnEpoch := by
      intro o' q hq
      rw [find?_put]
      by_cases ho : o = o'
      · subst ho
        rw [hp] at hq
        cases hq
        exact ⟨_, if_pos rfl, rfl⟩
      · exact ⟨q, by rw [if_neg ho]; exact hq, rfl⟩
    constructor
    case generations =>
      intro h H hH
      rcases find?_put_cases hH with ⟨rfl, rfl⟩ | hold
      · obtain ⟨q', hq', -⟩ := hlater o p hp
        subst hfresh
        exact ⟨⟨q', hq', fun h => absurd rfl h, Nat.zero_le _, by simp⟩,
          fun _ => ⟨rfl, rfl, rfl⟩, by simp, by simp, by simp, by rintro _ _ ⟨⟩, by simp⟩
      · have hH' := hs.generations h H hold
        obtain ⟨q, hq, hticket, hidle, hepoch⟩ := hH'.object
        obtain ⟨q', hq', heq⟩ := hlater _ _ hq
        exact { hH' with
          object := by
            refine ⟨q', hq', ?_, ?_, ?_⟩
            · exact fun hpub => (hticket hpub).trans heq.le
            · exact hidle.trans heq.le
            · exact fun b hb => (hepoch b hb).trans heq.le
          alone := by
            intro hor h2 K hK hne hsame hpub
            rcases find?_put_cases hK with ⟨-, rfl⟩ | hbefore
            · exact absurd hpc hpub
            · exact hH'.alone hor h2 K hbefore hne hsame hpub
          fence := by
            intro b q1 hb hq1 hunbroken
            obtain ⟨q0, hq0, hsame⟩ := hobjects _ _ hq1
            exact hH'.fence b q0 hb hq0 (hsame.trans hunbroken)
          post := by
            intro hpost b s q1 hb hs1 hq1 hunbroken
            obtain ⟨q0, hq0, hsame⟩ := hobjects _ _ hq1
            exact hH'.post hpost b s q0 hb hs1 hq0 (hsame.trans hunbroken) }
    case inflight =>
      intro o' q hq
      change (q.inflight : Int) = Table.sumBy (a.generations.put g fresh) _
      rw [sumBy_put_new _ _ hnew]
      change (a.profiles.put o _).find? o' = some q at hq
      rw [find?_put] at hq
      by_cases ho : o = o'
      · subst ho
        rw [if_pos rfl] at hq
        cases hq
        have hweight : fresh.weight o = 1 := if_pos ⟨hobject, by rw [hpc]; simp⟩
        rw [hweight, ← hs.inflight o p hp]
        rfl
      · rw [if_neg ho] at hq
        have hweight : fresh.weight o' = 0 :=
          if_neg (fun hand => ho (hobject.symm.trans hand.1))
        rw [hweight, ← hs.inflight o' q hq]
        omega
    case settlements =>
      intro s hmem d hd
      obtain ⟨H, hH, hcost⟩ := hs.settlements s hmem d hd
      exact ⟨H, (find?_put_ne _ _ (hstill _ H hH)).trans hH, hcost⟩
  · exact hs

theorem exec_sound (hs : a.Sound opening) (event : Event)
    (hfenced : a.fenced event = true) : (exec opening a event).Sound opening := by
  cases event with
  | reload o => exact reload_sound hs o
  | lease g o cost reserve => exact lease_sound hs g o cost reserve
  | publish =>
    refine due_sound hs (fun G p hG hp hready => ?_)
    exact (publish_step hs hG hp (of_decide_eq_true hready)).sound hs
  | readBaseline _ answer =>
    refine due_sound hs (fun G p hG hp hready => ?_)
    obtain ⟨_, hstep⟩ := readBaseline_step hs hG hp (of_decide_eq_true hready) answer
    exact hstep.sound hs
  | loadInflight =>
    refine due_sound hs (fun G p hG hp hready => ?_)
    obtain ⟨_, hstep⟩ := loadInflight_step hs hG hp (of_decide_eq_true hready)
    exact hstep.sound hs
  | loadEpoch =>
    refine due_sound hs (fun G p hG hp hready => ?_)
    have hpc : G.pc = .inflightLoaded := of_decide_eq_true hready
    simp only [fenced, hG, guard_iffs] at hfenced
    obtain ⟨_, hstep⟩ := loadEpoch_step hs hG hp hpc (hfenced hpc)
    exact hstep.sound hs
  | execute =>
    refine due_sound hs (fun G p hG hp hready => ?_)
    simp only [fenced, hG, hready, Bool.true_and, guard_iffs] at hfenced
    obtain ⟨_, hstep⟩ := execute_step hs hG hp hready hfenced
    exact hstep.sound hs
  | answer =>
    refine due_sound hs (fun G p hG hp hready => ?_)
    rw [Bool.and_eq_true] at hready
    obtain ⟨_, hstep⟩ := answer_step hs hG hp (of_decide_eq_true hready.1) hready.2
    exact hstep.sound hs
  | readPost _ answer =>
    refine due_sound hs (fun G p hG hp hready => ?_)
    obtain ⟨_, hstep⟩ := readPost_step hs hG hp (of_decide_eq_true hready) answer
    exact hstep.sound hs
  | finalize _ succeeded =>
    refine due_sound hs (fun G p hG hp hready => ?_)
    obtain ⟨_, hstep⟩ := finalize_step hs hG hp (of_decide_eq_true hready) succeeded
    exact hstep.sound hs
  | drop =>
    refine due_sound hs (fun G p hG hp hready => ?_)
    rw [Bool.and_eq_true] at hready
    exact (drop_step hs hG hp (of_decide_eq_true hready.1) (of_decide_eq_true hready.2)).sound hs

theorem new_sound : Account.new.Sound opening where
  generations _ _ hG := by cases hG
  inflight _ _ hp := by cases hp
  settlements _ hmem := by cases hmem

/-- In every run that goes through no hole of a fence, every attributed
settlement is at the cost of its own generation. -/
theorem attributed_delta_is_own (opening : Opening) (events : List Event)
    (hfenced : Along (exec opening) (fun a event => a.fenced event = true) Account.new events) :
    ∀ s ∈ (run (exec opening) Account.new events).settlements, s.Own
      (run (exec opening) Account.new events) := by
  have hsound : (run (exec opening) Account.new events).Sound opening :=
    run_invariant_along (I := Account.Sound opening)
      (fun _ event hs hf => exec_sound hs event hf) new_sound hfenced
  exact hsound.settlements

def billingAnswer : Option Halves := some ⟨true, true⟩

/-- An extension of 10 credits under a reserve of 50, with the events
`between` after it found itself alone, and `later` before its post read. -/
def extension (between later : List Event) : List Event :=
  [.reload 0, .lease 1 0 10 50, .publish 1, .readBaseline 1 billingAnswer,
    .loadInflight 1] ++ between ++ [.loadEpoch 1, .execute 1, .answer 1] ++ later ++
  [.readPost 1 billingAnswer, .finalize 1 true]

/-- A song of 5 credits, from its lease to its settlement. -/
def songBefore : List Event :=
  [.reload 0, .lease 2 0 5 50, .publish 2, .readBaseline 2 billingAnswer, .loadInflight 2,
    .loadEpoch 2, .execute 2, .answer 2, .readPost 2 billingAnswer, .finalize 2 true, .drop 2]

/-- One after the other on one object, the song settles at its 5 credits and the
extension at its 10. -/
theorem songs_in_turn_own :
    (run (exec ⟨100, 0⟩) Account.new (songBefore ++ extension [] [])).settlements =
        [⟨2, .attributed 5⟩, ⟨1, .attributed 10⟩] ∧
      ∀ s ∈ (run (exec ⟨100, 0⟩) Account.new (songBefore ++ extension [] [])).settlements,
        s.Own (run (exec ⟨100, 0⟩) Account.new (songBefore ++ extension [] [])) :=
  ⟨by decide +kernel, attributed_delta_is_own ⟨100, 0⟩ (songBefore ++ extension [] [])
    (by decide +kernel)⟩

/-- A song of 5 credits takes its lease between the two loads of the
extension's baseline, so the epoch it moves is the one the baseline keeps:
the extension settles at 15 credits. -/
theorem slipped_lease_charged :
    ¬ ∀ (opening : Opening) (events : List Event),
      ∀ s ∈ (run (exec opening) Account.new events).settlements,
        s.Own (run (exec opening) Account.new events) := by
  intro h
  have hown := h ⟨100, 0⟩ (extension [.lease 2 0 5 5, .publish 2]
    [.readBaseline 2 none, .execute 2]) ⟨1, .attributed 15⟩ (by decide +kernel) 15 rfl
  obtain ⟨G, hG, hcost⟩ := hown
  have hten : ((run (exec ⟨100, 0⟩) Account.new (extension [.lease 2 0 5 5, .publish 2]
      [.readBaseline 2 none, .execute 2])).generations.find? 1).map Generation.cost =
        some 10 := by decide +kernel
  change Table.find? _ 1 = some G at hG
  rw [hG] at hten
  simp only [map_some, some.injEq] at hten
  omega

end ApiToken.Credits
