import ApiToken.Pool.Routing

/-!
# A round of rotation

The inner loop of `forward`: until its attempts are used up it takes a
subscription of the operator's choice, of the cache affinity or of the
rotation, passes over one with a live cooling hint, and tries the others. The
pool may change between two iterations, but for its roster.
-/

namespace ApiToken.Forward

open ApiToken.Pool

/-! ## The loop -/

/-- What a round is given. `hint` says which subscriptions have a live cooling
hint. -/
structure Round where
  config : Pool.Config
  roster : Roster
  /-- `AffinityStore::home_id` and `calibration_profile_hint`. -/
  homeId : String → String
  profileHint : String → String
  operatorTarget : Option String
  affinityInput : Bool
  hint : String → Bool

def Round.hardCap (r : Round) : Nat :=
  if r.operatorTarget.isSome then 1 else max r.roster.subs.length 1 + 2

/-- What an iteration meets: the pool, the clock at its two readings, the
breaker, the home that a claim of a proposed placement gets, the home that
another process has bound meanwhile, and whether the attempt ends the loop. -/
structure Meeting (roster : Roster) where
  pool : Inner
  keeps : pool.roster = roster
  now : Int
  coolingNow : Int
  breakerOpen : Bool
  claimed : Option String
  sharedHome : Option String
  leaves : Bool

structure Loop where
  attempt : Nat
  tried : List String
  /-- The home of the affinity resolution. -/
  home : Option String
  newlyClaimed : Bool
deriving DecidableEq

variable (r : Round) (m : Meeting r.roster) (s : Loop)

def Loop.claim (claimed : Option String) : Loop :=
  match s.home, claimed with
  | none, some home => { s with home := some home, newlyClaimed := true }
  | _, _ => s

/-- `AffinityStore::rebind`. -/
def reboundHome (home newHome : String) (shared : Option String) : String :=
  if home = newHome then home else shared.getD newHome

def Round.affinity : Option Sub × Inner × Loop :=
  if s.attempt = 0 && r.operatorTarget.isNone && r.affinityInput then
    let s := s.claim m.claimed
    match s.home with
    | none => (none, m.pool, s)
    | some home =>
      match routeAffinity r.config m.pool home s.newlyClaimed r.homeId m.now with
      | (.selected sub .rebound, pool) =>
        (some sub, pool, { s with
          home := some (reboundHome home (r.homeId sub.email) m.sharedHome)
          newlyClaimed := false })
      | (.selected sub _, pool) => (some sub, pool, { s with newlyClaimed := false })
      | (.exhausted, pool) => (none, pool, s)
  else (none, m.pool, s)

/-- The subscription that does not come from the rotation. -/
def Round.proposed : Option Sub :=
  match r.operatorTarget with
  | some target => (routeOperatorTarget r.config m.pool target r.profileHint m.now).1
  | none => (r.affinity m s).1

def Round.select : Option Sub × Inner × Loop :=
  match r.operatorTarget with
  | some target =>
    let (sub, pool) := routeOperatorTarget r.config m.pool target r.profileHint m.now
    (sub, pool, s)
  | none =>
    match r.affinity m s with
    | (some sub, pool, s) => (some sub, pool, s)
    | (none, pool, s) =>
      let (sub, pool) := pick r.config pool s.tried false m.now
      (sub, pool, s)

/-- One iteration; `none` leaves the loop. -/
def Round.iterate : Option Loop :=
  if m.breakerOpen then none
  else match r.select m s with
    | (none, _, _) => none
    | (some sub, pool, s) =>
      if isCooling pool sub.email m.coolingNow then none
      else if r.hint sub.email then some { s with tried := sub.email :: s.tried }
      else if m.leaves then none
      else some { s with attempt := s.attempt + 1, tried := sub.email :: s.tried }

/-- Iterations that go round, each under `P`. -/
inductive Round.Runs (P : Meeting r.roster → Loop → Prop) :
    Loop → List (Meeting r.roster) → Loop → Prop
  | done (s : Loop) : Runs P s [] s
  | next {m : Meeting r.roster} {ms : List (Meeting r.roster)} {s s' s'' : Loop}
      (hguard : s.attempt < r.hardCap) (hP : P m s) (hstep : r.iterate m s = some s')
      (hrest : Runs P s' ms s'') : Runs P s (m :: ms) s''

/-- The home takes the request: it is alive, below its caps, not cooling, and
not busy. -/
def Round.homeFree (claimed : Bool) (home : Sub) : Bool :=
  !permanentlyUnavailable r.config m.pool home claimed m.now
    && !(coolingFor m.pool home.email m.now > 0
      || inflightOf m.pool home.email ≥ r.config.maxInflight)

/-- No subscription that was passed over for its live hint can come back from
the operator's target or from the affinity. -/
structure Round.Clear : Prop where
  /-- The operator's target, when it was, is out of service here. -/
  target : ∀ target, r.operatorTarget = some target → ∀ sub ∈ r.roster.subs,
    r.profileHint sub.email = target → sub.email ∈ s.tried → r.hint sub.email = true →
      isDead m.pool sub.email = true ∨ isCooling m.pool sub.email m.now = true
  /-- When the affinity is asked, its home is free and has no live hint, or what
  was passed over so far is dead. -/
  home : r.operatorTarget = none → r.affinityInput = true → s.attempt = 0 →
    ∀ home, (s.claim m.claimed).home = some home →
      (∃ sub, r.roster.subs.find? (fun sub => r.homeId sub.email = home) = some sub ∧
        r.homeFree m (s.claim m.claimed).newlyClaimed sub = true ∧ r.hint sub.email = false) ∨
      ∀ email ∈ s.tried, r.hint email = true → isDead m.pool email = true

/-! ## One iteration -/

section Iteration

variable {r m s} {s' : Loop} {sub : Sub} {pool : Inner}

theorem claim_frame (claimed : Option String) :
    (s.claim claimed).attempt = s.attempt ∧ (s.claim claimed).tried = s.tried := by
  unfold Loop.claim
  split <;> exact ⟨rfl, rfl⟩

theorem affinity_frame : (r.affinity m s).2.2.attempt = s.attempt
    ∧ (r.affinity m s).2.2.tried = s.tried ∧ (r.affinity m s).2.1.roster = r.roster
    ∧ ∀ sub, (r.affinity m s).1 = some sub → sub ∈ r.roster.subs := by
  obtain ⟨hattempt, htried⟩ := claim_frame (s := s) m.claimed
  have hhanded := fun home => routeAffinity_handed (c := r.config) (g := m.pool) home
    (s.claim m.claimed).newlyClaimed r.homeId m.now
  unfold Round.affinity
  split
  · simp only
    split
    · exact ⟨hattempt, htried, m.keeps, nofun⟩
    · next home _ =>
      have hhanded := hhanded home
      split
      all_goals
        next hroute =>
        rw [hroute] at hhanded
        exact ⟨hattempt, htried, hhanded.roster.trans m.keeps, fun sub hsub => by
          rw [← m.keeps]; exact hhanded.mem sub hsub⟩
  · exact ⟨rfl, rfl, m.keeps, nofun⟩

variable {c : Pool.Config} {exclude : List String}

theorem pick_new {g : Inner} {now : Int} (h : (pick c g exclude false now).1 = some sub) :
    sub ∈ g.roster.subs ∧ sub.email ∉ exclude := by
  unfold pick at h
  simp only at h
  split at h
  · next hsel =>
    cases h
    have hmem := selectBestWithPolicy_mem hsel
    exact ⟨hmem.1, hmem.2.1⟩
  · cases h

theorem select_spec (h : r.select m s = (some sub, pool, s')) :
    sub ∈ r.roster.subs ∧ s'.attempt = s.attempt ∧ s'.tried = s.tried ∧
      (r.proposed m s = some sub ∨ sub.email ∉ s.tried) := by
  obtain ⟨hattempt, htried, hroster, hmem⟩ := affinity_frame (r := r) (m := m) (s := s)
  unfold Round.select at h
  unfold Round.proposed
  split at h
  · next target htarget =>
    simp only [Prod.mk.injEq] at h
    obtain ⟨hroute, -, rfl⟩ := h
    have hhanded := routeOperatorTarget_handed (c := r.config) (g := m.pool) target
      r.profileHint m.now
    exact ⟨m.keeps ▸ hhanded.mem sub hroute, rfl, rfl, .inl hroute⟩
  · next htarget =>
    split at h
    · next haffinity =>
      cases h
      rw [haffinity] at hattempt htried hmem ⊢
      exact ⟨hmem _ rfl, hattempt, htried, .inl rfl⟩
    · next haffinity =>
      rw [haffinity] at hattempt htried hroster
      simp only [Prod.mk.injEq] at h
      obtain ⟨hpick, -, rfl⟩ := h
      obtain ⟨hin, hnew⟩ := pick_new hpick
      exact ⟨hroster ▸ hin, hattempt, htried, .inr (htried ▸ hnew)⟩

/-- An iteration that goes round tries a subscription, or passes over it for
its hint. -/
theorem iterate_cases (h : r.iterate m s = some s') :
    ∃ sub, (r.select m s).1 = some sub ∧ sub ∈ r.roster.subs ∧
      s'.tried = sub.email :: s.tried ∧
      (r.proposed m s = some sub ∨ sub.email ∉ s.tried) ∧
      (r.hint sub.email = true ∧ s'.attempt = s.attempt
        ∨ r.hint sub.email = false ∧ s'.attempt = s.attempt + 1) := by
  unfold Round.iterate at h
  split at h
  · cases h
  split at h
  · cases h
  next sub pool s1 hselect =>
  obtain ⟨hin, hattempt, htried, hsource⟩ := select_spec hselect
  split at h
  · cases h
  refine ⟨sub, by rw [hselect], hin, ?_⟩
  split at h
  · next hhint =>
    cases h
    exact ⟨by rw [htried], hsource, .inl ⟨hhint, hattempt⟩⟩
  · next hhint =>
    split at h
    · cases h
    · cases h
      exact ⟨by rw [htried], hsource, .inr ⟨by simpa using hhint, by rw [hattempt]⟩⟩

theorem placeBest_alive {g : Inner} {now : Int} {rsv : Reserve}
    (h : placeBest c g exclude now rsv = some sub) :
    isDead g sub.email = false := by
  unfold placeBest at h
  split at h
  · rename_i best hmax
    cases h
    have heligible := (mem_filter.mp (maxBy_mem hmax)).2
    simp only [placementEligible, guard_iffs] at heligible
    exact heligible.1.1.1.2
  · exact (selectBestWithPolicy_mem h).2.2.1

theorem affinityRebind_alive {g : Inner} {now : Int}
    (h : (affinityRebind c g exclude now).1.sub? = some sub) : isDead g sub.email = false := by
  unfold affinityRebind at h
  split at h
  · rename_i best hbest
    cases h
    exact placeBest_alive hbest
  · cases h

/-- What the affinity routes to is alive, and is the home while that is free. -/
theorem routeAffinity_sub {home : String} {claimed : Bool}
    (h : (routeAffinity r.config m.pool home claimed r.homeId m.now).1.sub? = some sub) :
    isDead m.pool sub.email = false ∧
      ∀ homeSub, r.roster.subs.find? (fun sub => r.homeId sub.email = home) = some homeSub →
        r.homeFree m claimed homeSub = true → sub = homeSub := by
  unfold routeAffinity at h
  rw [m.keeps] at h
  split at h
  · rename_i homeSub hfind
    have hhome : ∀ other, r.roster.subs.find? (fun sub => r.homeId sub.email = home) =
        some other → other = homeSub := by
      intro other hother
      rw [hfind] at hother
      exact (some.inj hother).symm
    split at h
    · rename_i hthere
      have halive : isDead m.pool homeSub.email = false := by
        simp only [permanentlyUnavailable, guard_iffs] at hthere
        exact hthere.1.1
      simp only at h
      split at h
      · cases h
        exact ⟨halive, fun other hother _ => (hhome other hother).symm⟩
      · rename_i hbusy
        refine ⟨?_, fun other hother hfree => ?_⟩
        · unfold affinityBusy at h
          split at h
          · rename_i spilled hspilled
            cases h
            exact (selectBestWithPolicy_mem hspilled).2.2.1
          · split at h
            · cases h
              exact halive
            · cases h
        · rw [hhome other hother, Round.homeFree, Bool.and_eq_true] at hfree
          exact absurd hfree.2 hbusy
    · rename_i hgone
      refine ⟨affinityRebind_alive h, fun other hother hfree => ?_⟩
      rw [hhome other hother, Round.homeFree, Bool.and_eq_true] at hfree
      exact absurd hfree.1 hgone
  · rename_i hnone
    refine ⟨affinityRebind_alive h, fun other hother _ => ?_⟩
    rw [hnone] at hother
    cases hother

theorem affinity_sub (h : (r.affinity m s).1 = some sub) :
    r.affinityInput = true ∧ s.attempt = 0 ∧ ∃ home, (s.claim m.claimed).home = some home ∧
      (routeAffinity r.config m.pool home (s.claim m.claimed).newlyClaimed r.homeId m.now).1.sub?
        = some sub := by
  unfold Round.affinity at h
  split at h
  · rename_i hask
    simp only [guard_iffs] at hask
    refine ⟨hask.2, hask.1.1, ?_⟩
    simp only at h
    split at h
    · cases h
    · rename_i home hhome
      refine ⟨home, hhome, ?_⟩
      split at h
      all_goals
        rename_i hroute
        rw [hroute]
        exact h
  · cases h

theorem routeOperatorTarget_sub {target : String} (h :
    (routeOperatorTarget r.config m.pool target r.profileHint m.now).1 = some sub) :
    sub ∈ r.roster.subs ∧ r.profileHint sub.email = target ∧
      isDead m.pool sub.email = false ∧ isCooling m.pool sub.email m.now = false := by
  unfold routeOperatorTarget at h
  split at h
  · rename_i named hnamed
    simp only at h
    split at h
    · cases h
    · rename_i hthere
      cases h
      have hmem : sub ∈ m.pool.roster.subs.filter (fun s => r.profileHint s.email = target) := by
        rw [hnamed]
        exact mem_singleton.mpr rfl
      rw [m.keeps, mem_filter, decide_eq_true_eq] at hmem
      simp only [guard_iffs, not_or, Bool.not_eq_true] at hthere
      exact ⟨hmem.1, hmem.2, hthere.1.1.1, hthere.1.1.2⟩
  · cases h

/-- What the affinity or the operator proposes has no live hint, if it has been
tried. -/
theorem Round.Clear.proposed (hclear : r.Clear m s) (hproposed : r.proposed m s = some sub)
    (htried : sub.email ∈ s.tried) : r.hint sub.email = false := by
  unfold Round.proposed at hproposed
  cases htarget : r.operatorTarget with
  | some target =>
    rw [htarget] at hproposed
    obtain ⟨hin, hnamed, halive, hwarm⟩ := routeOperatorTarget_sub hproposed
    rw [← Bool.not_eq_true]
    intro hhint
    rcases hclear.target target htarget sub hin hnamed htried hhint with hdead | hcooling
    · rw [hdead] at halive
      cases halive
    · rw [hcooling] at hwarm
      cases hwarm
  | none =>
    rw [htarget] at hproposed
    obtain ⟨hinput, hattempt, home, hhome, hroute⟩ := affinity_sub hproposed
    obtain ⟨halive, hfree⟩ := routeAffinity_sub hroute
    rcases hclear.home htarget hinput hattempt home hhome with ⟨homeSub, hfind, hfreeHome, hhint⟩
      | hdead
    · rw [hfree homeSub hfind hfreeHome]
      exact hhint
    · rw [← Bool.not_eq_true]
      intro hhint
      rw [hdead _ htried hhint] at halive
      cases halive

theorem hinted_not_selected (hclear : r.Clear m s) {email : String} (htried : email ∈ s.tried)
    (hhint : r.hint email = true) (hselect : (r.select m s).1 = some sub) :
    sub.email ≠ email := by
  intro heq
  obtain ⟨-, -, -, hsource⟩ := select_spec (Prod.ext hselect rfl)
  subst heq
  rcases hsource with hproposed | hnew
  · rw [hclear.proposed hproposed htried] at hhint
    cases hhint
  · exact hnew htried

end Iteration

/-! ## A whole round -/

def Round.untried (tried : List String) : List Sub :=
  r.roster.subs.filter (fun sub => sub.email ∉ tried)

def Round.left : Nat := (r.untried s.tried).length + (r.hardCap - s.attempt)

section Runs

variable {r} {s s' : Loop} {ms : List (Meeting r.roster)}

theorem untried_cons_le (tried : List String) (email : String) :
    (r.untried (email :: tried)).length ≤ (r.untried tried).length := by
  refine (List.monotone_filter_right _ fun sub hsub => ?_).length_le
  simp only [mem_cons, not_or, guard_iffs] at hsub ⊢
  exact hsub.2

theorem untried_cons_lt {tried : List String} {sub : Sub} (hin : sub ∈ r.roster.subs)
    (hnew : sub.email ∉ tried) :
    (r.untried (sub.email :: tried)).length < (r.untried tried).length := by
  refine lt_of_le_of_ne (untried_cons_le tried _) fun heq => ?_
  have hsame := (List.monotone_filter_right r.roster.subs
    (p := fun x => decide (x.email ∉ sub.email :: tried))
    (q := fun x => decide (x.email ∉ tried)) (fun x hx => by
      simp only [mem_cons, not_or, guard_iffs] at hx ⊢
      exact hx.2)).eq_of_length heq
  have hmem : sub ∈ r.untried tried := mem_filter.mpr ⟨hin, by simpa using hnew⟩
  rw [Round.untried, ← hsame] at hmem
  simpa using (mem_filter.mp hmem).2

theorem iterate_progress {m : Meeting r.roster} (hclear : r.Clear m s)
    (hstep : r.iterate m s = some s') :
    s'.attempt = s.attempt + 1 ∧ (∃ email, s'.tried = email :: s.tried) ∨
      ∃ sub ∈ r.roster.subs, sub.email ∉ s.tried ∧ r.hint sub.email = true ∧
        s'.tried = sub.email :: s.tried ∧ s'.attempt = s.attempt := by
  obtain ⟨sub, hselect, hin, htried, -, ⟨hhint, hattempt⟩ | ⟨-, hattempt⟩⟩ := iterate_cases hstep
  · refine .inr ⟨sub, hin, fun hmem => ?_, hhint, htried, hattempt⟩
    exact hinted_not_selected hclear hmem hhint hselect rfl
  · exact .inl ⟨hattempt, _, htried⟩

theorem runs_left (hrun : r.Runs r.Clear s ms s') : ms.length + r.left s' ≤ r.left s := by
  induction hrun with
  | done => simp
  | @next m ms s s1 s' hguard hclear hstep hrest ih =>
    rw [length_cons]
    have hless : r.left s1 + 1 ≤ r.left s := by
      unfold Round.left
      rcases iterate_progress hclear hstep with ⟨hattempt, email, htried⟩
        | ⟨sub, hin, hnew, -, htried, hattempt⟩
      · have hle := untried_cons_le (r := r) s.tried email
        rw [htried, hattempt]
        omega
      · have hlt := untried_cons_lt hin hnew
        rw [htried, hattempt]
        omega
    omega

theorem runs_tried (hrun : r.Runs r.Clear s ms s') {email : String} (h : email ∈ s.tried) :
    email ∈ s'.tried := by
  induction hrun with
  | done => exact h
  | next _ _ hstep _ ih =>
    obtain ⟨sub, -, -, htried, -⟩ := iterate_cases hstep
    exact ih (by rw [htried]; exact mem_cons_of_mem _ h)

/-- While no subscription that was passed over for its live hint can come back,
a round ends, and every iteration of it gets on. -/
theorem rotation_terminates (hrun : r.Runs r.Clear s ms s') :
    ms.length ≤ r.roster.subs.length + r.hardCap
    ∧ (s'.attempt < r.hardCap → ms.length + 1 ≤ r.roster.subs.length + r.hardCap)
    ∧ ∀ m s₁, r.Clear m s' → r.iterate m s' = some s₁ → s₁.attempt = s'.attempt + 1 ∨
        ∃ sub ∈ r.roster.subs, sub.email ∉ s'.tried ∧ s₁.tried = sub.email :: s'.tried ∧
          s₁.attempt = s'.attempt ∧
          ∀ later s₂ m₂ again, r.Runs r.Clear s₁ later s₂ → r.Clear m₂ s₂ →
            (r.select m₂ s₂).1 = some again → again.email ≠ sub.email := by
  have hleft := runs_left hrun
  have hfull : r.left s ≤ r.roster.subs.length + r.hardCap :=
    Nat.add_le_add (List.length_filter_le _ _) (Nat.sub_le _ _)
  refine ⟨by omega, fun hguard => ?_, fun m s₁ hclear hstep => ?_⟩
  · have hpos : 0 < r.left s' := by
      unfold Round.left
      omega
    omega
  · rcases iterate_progress hclear hstep with ⟨hattempt, -⟩
      | ⟨sub, hin, hnew, hhint, htried, hattempt⟩
    · exact .inl hattempt
    · refine .inr ⟨sub, hin, hnew, htried, hattempt, ?_⟩
      intro later s₂ m₂ again hlater hclear₂ hselect
      have hmem : sub.email ∈ s₂.tried := runs_tried hlater (by rw [htried]; exact .head _)
      exact hinted_not_selected hclear₂ hmem hhint hselect

end Runs

/-! ## A home with a live hint -/

def namedSub (email : String) : Sub := ⟨email, "token", "proxy", "fleet", "max20"⟩

def homeRound (roster : Roster) (hint : String → Bool) : Round where
  config :=
    { reserve := .full, prior5h := 1, prior7d := 1, maxInflight := 1
      stableHash64 := fun _ => 0, tokenFp := id, oldest := fun _ _ => []
      prior5h_pos := by decide, prior7d_pos := by decide, one_le_maxInflight := by decide }
  roster
  homeId := id
  profileHint := id
  operatorTarget := none
  affinityInput := true
  hint

/-- A meeting with a pool of the round's roster, while the rest of the world
stands by. -/
def homeMeeting {roster : Roster} (pool : Inner) (keeps : pool.roster = roster) :
    Meeting roster where
  pool
  keeps
  now := 10
  coolingNow := 10
  breakerOpen := false
  claimed := none
  sharedHome := none
  leaves := false

def homeLoop (tried : List String) : Loop := ⟨0, tried, some "a", false⟩

def oneSub : Roster := ⟨[namedSub "a"], by decide⟩

def threeSubs : Roster := ⟨[namedSub "a", namedSub "b", namedSub "c"], by decide⟩

def homeBusy : Meeting threeSubs := homeMeeting ((Inner.new threeSubs).takeSlot "a" 5) rfl

def homeFree : Meeting threeSubs := homeMeeting (.new threeSubs) rfl

/-- While the home is busy the session spills to a subscription that is passed
over for its live hint; the home, free by then, is tried, and the other is not
selected again. -/
theorem rotation_terminates_spilled :
    2 + 1 ≤ threeSubs.subs.length + (homeRound threeSubs (· = "b")).hardCap ∧
      ∀ again, ((homeRound threeSubs (· = "b")).select homeFree
        ⟨1, ["a", "b"], some "a", false⟩).1 = some again → again.email ≠ "b" := by
  have hspilled : (homeRound threeSubs (· = "b")).iterate homeBusy (homeLoop []) =
      some (homeLoop ["b"]) := by decide +kernel
  have hhome : (homeRound threeSubs (· = "b")).iterate homeFree (homeLoop ["b"]) =
      some ⟨1, ["a", "b"], some "a", false⟩ := rfl
  have hfirst : (homeRound threeSubs (· = "b")).Clear homeBusy (homeLoop []) :=
    ⟨by simp [homeRound], fun _ _ _ _ _ => .inr (by simp [homeLoop])⟩
  have hsecond : (homeRound threeSubs (· = "b")).Clear homeFree (homeLoop ["b"]) := by
    refine ⟨by simp [homeRound], fun _ _ _ home hhome => .inl ⟨namedSub "a", ?_⟩⟩
    cases hhome
    exact ⟨rfl, rfl, rfl⟩
  have hthird : (homeRound threeSubs (· = "b")).Clear homeFree
      ⟨1, ["a", "b"], some "a", false⟩ :=
    ⟨by simp [homeRound], fun _ _ hattempt => by cases hattempt⟩
  have hrest : (homeRound threeSubs (· = "b")).Runs (homeRound threeSubs (· = "b")).Clear
      (homeLoop ["b"]) [homeFree] ⟨1, ["a", "b"], some "a", false⟩ :=
    .next (by decide) hsecond hhome (.done _)
  refine ⟨(rotation_terminates (.next (by decide) hfirst hspilled hrest)).2.1 (by decide),
    fun again hagain => ?_⟩
  have hstart : (homeRound threeSubs (· = "b")).Runs (homeRound threeSubs (· = "b")).Clear
      (homeLoop []) [] (homeLoop []) := .done _
  rcases (rotation_terminates hstart).2.2 homeBusy _ hfirst hspilled with
    hattempt | ⟨sub, -, -, htried, -, hlater⟩
  · cases hattempt
  · have hb : "b" = sub.email := (List.cons.inj htried).1
    rw [hb]
    exact hlater _ _ homeFree again hrest hthird hagain

/-- The home with a live hint is selected without end. -/
theorem hinted_home_forever :
    ¬ ∃ bound, ∀ (ms : List (Meeting oneSub)) s', (homeRound oneSub (fun _ => true)).Runs
      (fun _ _ => True) (homeLoop []) ms s' → ms.length ≤ bound := by
  have hforever : ∀ n tried, ∃ s', (homeRound oneSub (fun _ => true)).Runs (fun _ _ => True)
      (homeLoop tried) (List.replicate n (homeMeeting (.new oneSub) rfl)) s' := by
    intro n
    induction n with
    | zero => exact fun tried => ⟨_, .done _⟩
    | succ _ ih =>
      intro tried
      obtain ⟨s', hrest⟩ := ih ("a" :: tried)
      have hguard : 0 < (homeRound oneSub (fun _ => true)).hardCap := by decide
      exact ⟨s', .next hguard trivial rfl hrest⟩
  rintro ⟨bound, hbound⟩
  obtain ⟨s', hrun⟩ := hforever (bound + 1) []
  have hle : (List.replicate (bound + 1) (homeMeeting (.new oneSub) rfl)).length ≤ bound :=
    hbound _ _ hrun
  rw [List.length_replicate] at hle
  omega

end ApiToken.Forward
