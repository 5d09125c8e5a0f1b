import ApiToken.Pool.Routing

/-!
# Cooling subscriptions come last

A subscription is available when it is neither dead nor cooling. Rotation and
placement without an exclusion return an available one whenever there is one,
so `route` and `pick` do. The pair `peek_affinity_home`, `route_affinity` does
not: the second call holds a new claim to the reserve and gives the peeked
home up when it is over it, also when every other subscription is cooling or
dead.
-/

namespace ApiToken.Pool

variable {s : Sub} {e preferredHome : String} {exclude : List String}
  {identify : String → String}

variable {c : Config} {g : Inner} {now : Int}

/-- In the roster, with a working token, and not cooling. -/
structure Available (g : Inner) (now : Int) (s : Sub) : Prop where
  mem : s ∈ g.roster.subs
  alive : isDead g s.email = false
  ready : isCooling g s.email now = false

/-- Available and below the whole of both windows. -/
structure Usable (c : Config) (g : Inner) (now : Int) (s : Sub) : Prop
    extends Available g now s where
  below5 : subUtil c g s .fiveHours now < 1
  below7 : subUtil c g s .sevenDays now < 1

def Serves (g : Inner) (now : Int) (answer : Option Sub) : Prop :=
  ∃ s, answer = some s ∧ Available g now s

theorem Roster.eq_of_email (r : Roster) {s' : Sub} (hs : s ∈ r.subs) (hs' : s' ∈ r.subs)
    (h : s.email = s'.email) : s = s' :=
  List.inj_on_of_nodup_map r.nodup hs hs' h

theorem Roster.find?_mem {r : Roster} {email : String} (h : email ∈ r.emails) :
    ∃ s, r.find? email = some s := by
  obtain ⟨s, hs, rfl⟩ := mem_map.mp h
  cases hfind : r.find? s.email with
  | some s' => exact ⟨s', rfl⟩
  | none =>
    have := List.find?_eq_none.mp hfind s hs
    simp at this

/-! ## As time passes -/

theorem isCooling_later {later : Int} (hle : now ≤ later) (h : isCooling g e now = false) :
    isCooling g e later = false := by
  unfold isCooling at h ⊢
  cases hfind : g.live.find? e with
  | none => rfl
  | some =>
    rw [hfind] at h
    simp only [guard_iffs, not_lt, gt_iff_lt] at h ⊢
    omega

theorem Available.later {later : Int} (h : Available g now s) (hle : now ≤ later) :
    Available g later s :=
  ⟨h.mem, h.alive, isCooling_later hle h.ready⟩

theorem windowUtil_later (l : Live) (util : ℚ) (reset : Int)
    (measured prior scale : ℚ) {later : Int} (hle : now ≤ later) :
    windowUtil l util reset measured prior scale later
      ≤ windowUtil l util reset measured prior scale now := by
  unfold windowUtil
  by_cases hnow : reset ≠ 0 ∧ now ≥ reset
  · rw [if_pos hnow, if_pos ⟨hnow.1, le_trans hnow.2 hle⟩]
  · rw [if_neg hnow]
    split
    · exact le_max_left ..
    · exact le_refl _

theorem liveUtil_later (e : String) (scale : ℚ) (w : Window) {later : Int}
    (hle : now ≤ later) : liveUtil c g e scale w later ≤ liveUtil c g e scale w now := by
  unfold liveUtil
  cases g.live.find? e with
  | none => exact le_refl _
  | some l =>
    cases w
    · exact windowUtil_later l _ _ _ _ _ hle
    · exact windowUtil_later l _ _ _ _ _ hle

theorem homeOverCap_later {caps : ℚ × ℚ} {later : Int} (hle : now ≤ later)
    (h : homeOverCap c g caps s now = false) : homeOverCap c g caps s later = false := by
  simp only [homeOverCap, subUtil, guard_iffs, ge_iff_le, not_le] at h ⊢
  exact ⟨lt_of_le_of_lt (liveUtil_later _ _ _ hle) h.1,
    lt_of_le_of_lt (liveUtil_later _ _ _ hle) h.2⟩

theorem isCooling_iff_entry (hclock : 0 ≤ now) :
    isCooling g e now = false ↔ (g.entry e).coolingUntil ≤ now := by
  unfold isCooling Inner.entry
  cases g.live.find? e with
  | none => simpa using hclock
  | some => simp

theorem coolingFor_le_zero (hclock : 0 ≤ now) :
    coolingFor g e now ≤ 0 ↔ isCooling g e now = false := by
  rw [isCooling_iff_entry hclock]
  unfold coolingFor saturate i64Max
  omega

/-! ## The selections -/

theorem compareRotation_prefers (rsv : Reserve) :
    Prefers (compareRotation c g rsv now) (fun s => isCooling g s.email now = false) where
  inside a b ha hb := by
    rw [Bool.not_eq_false] at hb
    simp [compareRotation, ha, hb]
  outside a b ha hb := by
    rw [Bool.not_eq_false] at ha
    have hgt : compare true false = Ordering.gt := rfl
    simp [compareRotation, ha, hb, hgt]

theorem selectBestWithPolicy_serves (rsv : Reserve) (allow : Bool)
    (hs : Available g now s) (hex : s.email ∉ exclude) :
    ∃ s', selectBestWithPolicy c g exclude now rsv allow = some s' ∧
      Available g now s' ∧ s'.email ∉ exclude := by
  have hmem : s ∈ ((g.roster.subs.filter (fun s => s.email ∉ exclude)).filter
      (fun s => !isDead g s.email)).filter
      (fun s => allow || !isCooling g s.email now) := by
    simp [mem_filter, hs.mem, hs.alive, hs.ready, hex]
  obtain ⟨s', hsel⟩ := @minBy_isSome _ (compareRotation c g rsv now) _ _ hmem
  obtain ⟨hin, hnot, halive, -⟩ := selectBestWithPolicy_mem hsel
  have hready := (compareRotation_prefers rsv).minBy hmem hs.ready hsel
  exact ⟨s', hsel, ⟨hin, halive, hready⟩, hnot⟩

structure Eligible (c : Config) (g : Inner) (now : Int) (s : Sub) : Prop
    extends Available g now s where
  within : homeOverCap c g (c.reserve.caps c s.email) s now = false
  room : inflightOf g s.email < c.maxInflight

theorem placementEligible_iff (hs : s ∈ g.roster.subs) :
    placementEligible c g s exclude now c.reserve = true ↔
      s.email ∉ exclude ∧ Eligible c g now s := by
  simp only [placementEligible, guard_iffs]
  constructor
  · rintro ⟨⟨⟨⟨⟨hex, hready⟩, halive⟩, h7⟩, h5⟩, hroom⟩
    refine ⟨hex, ⟨⟨hs, halive, hready⟩, ?_, hroom⟩⟩
    simp only [homeOverCap, guard_iffs, ge_iff_le, not_le]
    exact ⟨h5, h7⟩
  · rintro ⟨hex, h⟩
    have hwithin := h.within
    simp only [homeOverCap, guard_iffs, ge_iff_le, not_le] at hwithin
    exact ⟨⟨⟨⟨⟨hex, h.ready⟩, h.alive⟩, hwithin.2⟩, hwithin.1⟩, h.room⟩

theorem placeBest_cases (exclude : List String) :
    (∃ s, placeBest c g exclude now c.reserve = some s ∧ s.email ∉ exclude ∧
      Eligible c g now s) ∨ ((∀ s, Eligible c g now s → s.email ∈ exclude) ∧
      placeBest c g exclude now c.reserve = selectBest c g exclude now .full) := by
  unfold placeBest
  split
  · rename_i s hmax
    obtain ⟨hmem, helig⟩ := mem_filter.mp (maxBy_mem hmax)
    obtain ⟨hex, h⟩ := (placementEligible_iff hmem).mp helig
    exact Or.inl ⟨s, rfl, hex, h⟩
  · rename_i hmax
    refine Or.inr ⟨?_, rfl⟩
    intro s hs
    by_contra hex
    have hin : s ∈ g.roster.subs.filter
        (fun s => placementEligible c g s exclude now c.reserve) :=
      mem_filter.mpr ⟨hs.mem, (placementEligible_iff hs.mem).mpr ⟨hex, hs⟩⟩
    rw [maxBy_eq_none.mp hmax] at hin
    cases hin

theorem placeBest_serves (hs : Available g now s) (hex : s.email ∉ exclude) :
    Serves g now (placeBest c g exclude now c.reserve) := by
  rcases @placeBest_cases c g now exclude with
    ⟨s', hplace, -, h⟩ | ⟨-, hplace⟩
  · exact ⟨s', hplace, h.toAvailable⟩
  · obtain ⟨s', hsel, havail, -⟩ := selectBestWithPolicy_serves .full true hs hex
    exact ⟨s', by rw [hplace]; exact hsel, havail⟩

/-! ## The first attempt -/

theorem pick_serves (hs : Available g now s) (allowFull : Bool) :
    Serves g now (pick c g [] allowFull now).1 := by
  obtain ⟨s', hsel, havail, -⟩ := selectBestWithPolicy_serves (c := c)
    (if allowFull then .full else c.reserve) true hs (not_mem_nil)
  unfold pick selectBest
  dsimp only
  rw [hsel]
  exact ⟨s', rfl, havail⟩

theorem placeSession_serves (hs : Available g now s) (session : UInt64) (forced : Bool) :
    Serves g now (placeSession c g session forced now).1 := by
  obtain ⟨s', hplace, havail⟩ := placeBest_serves (c := c) hs (not_mem_nil)
  unfold placeSession
  rw [hplace]
  exact ⟨s', rfl, havail⟩

theorem routeHome_serves (hs : Available g now s) (session : UInt64) {home : String}
    (hhome : home ∈ g.roster.emails) (halive : isDead g home = false) (hclock : 0 ≤ now) :
    Serves g now (routeHome c g session home now).1 := by
  obtain ⟨homeSub, hfind⟩ := Roster.find?_mem hhome
  obtain ⟨hmem, hemail⟩ := Roster.find?_spec hfind
  have hserved : isCooling g home now = false → Available g now homeSub :=
    fun hready => ⟨hmem, hemail ▸ halive, hemail ▸ hready⟩
  unfold routeHome
  dsimp only
  split
  · rename_i hbusy
    simp only [guard_iffs, gt_iff_lt, not_lt] at hbusy
    rw [hfind]
    exact ⟨homeSub, rfl, hserved ((isCooling_iff_entry hclock).mpr hbusy.1)⟩
  · rw [hfind]
    generalize hsel : selectBestNonCooling c _ [home] now c.reserve = selected
    cases selected with
    | some s' =>
      obtain ⟨hin, -, halive', hready⟩ := selectBestWithPolicy_mem hsel
      exact ⟨s', rfl, ⟨hin, halive', hready.resolve_left nofun⟩⟩
    | none =>
      -- nothing else is available, so what is available is the home
      refine ⟨homeSub, rfl, hserved ?_⟩
      by_contra hcool
      have hne : s.email ∉ [home] := by
        intro heq
        rw [← mem_singleton.mp heq] at hcool
        exact hcool hs.ready
      obtain ⟨s', hsome, -⟩ := selectBestWithPolicy_serves (c := c) c.reserve false hs hne
      exact nomatch hsome.symm.trans hsel

theorem route_serves (hs : Available g now s) (session : UInt64) (hclock : 0 ≤ now) :
    Serves g now (route c g session now).1 := by
  unfold route
  split
  · split
    · rename_i b _ hkept
      split
      · exact placeSession_serves hs session true
      · rename_i hgone
        simp only [homeGone, guard_iffs, not_or, Bool.not_eq_true] at hgone
        exact routeHome_serves hs session hkept.2 hgone.2 hclock
    · exact placeSession_serves hs session false
  · exact placeSession_serves hs session false

/-! ## A claimed home -/

def Stranded (c : Config) (g : Inner) (now : Int) (home : Sub) : Prop :=
  homeOverCap c g (c.reserve.caps c home.email) home now = true ∧
    ∀ s, Available g now s → s.email = home.email

theorem affinityBusy_serves {homeSub : Sub} (hs : Available g now s)
    (hmem : homeSub ∈ g.roster.subs) (halive : isDead g homeSub.email = false)
    (newlyClaimed : Bool) (hclock : 0 ≤ now) :
    Serves g now (affinityBusy c g homeSub newlyClaimed now).1.sub? := by
  unfold affinityBusy
  cases hsel : selectBestNonCooling c g [homeSub.email] now c.reserve with
  | some s' =>
    obtain ⟨hin, -, halive', hready⟩ := selectBestWithPolicy_mem hsel
    exact ⟨s', rfl, ⟨hin, halive', hready.resolve_left nofun⟩⟩
  | none =>
    -- the available one was not selected, so it is the home
    have heq : s.email = homeSub.email := by
      by_contra hne
      have hex : s.email ∉ [homeSub.email] := by simpa using hne
      obtain ⟨s', hsome, -⟩ := selectBestWithPolicy_serves (c := c) c.reserve false hs hex
      exact nomatch hsome.symm.trans hsel
    have hready : isCooling g homeSub.email now = false := heq ▸ hs.ready
    dsimp only
    rw [if_pos ((coolingFor_le_zero hclock).mpr hready)]
    exact ⟨homeSub, rfl, ⟨hmem, halive, hready⟩⟩

theorem routeAffinity_serves (hs : Available g now s) (hclock : 0 ≤ now)
    (hok : ∀ home, g.roster.subs.find? (fun s => identify s.email = preferredHome)
      = some home → ¬ Stranded c g now home) :
    Serves g now (routeAffinity c g preferredHome true identify now).1.sub? := by
  unfold routeAffinity
  split
  · rename_i home hfind
    have hmem := mem_of_find?_eq_some hfind
    split
    · rename_i hkeep
      simp only [permanentlyUnavailable, guard_iffs] at hkeep
      obtain ⟨⟨halive, -⟩, -⟩ := hkeep
      dsimp only
      split
      · rename_i hbusy
        simp only [guard_iffs, gt_iff_lt, not_lt] at hbusy
        have hready := (coolingFor_le_zero hclock).mp hbusy.1
        exact ⟨home, rfl, ⟨hmem, halive, hready⟩⟩
      · exact affinityBusy_serves hs hmem halive true hclock
    · rename_i hgone
      -- an available one other than the home takes the lineage
      have hother : ∃ s', Available g now s' ∧ s'.email ∉ [home.email] := by
        by_contra hnone
        have hall : ∀ s', Available g now s' → s'.email = home.email := by
          intro s' hs'
          by_contra hne
          exact hnone ⟨s', hs', by simpa using hne⟩
        have heq : s.email = home.email := hall s hs
        have hfor : coolingFor g home.email now ≤ 0 :=
          (coolingFor_le_zero hclock).mpr (heq ▸ hs.ready)
        have halive : isDead g home.email = false := heq ▸ hs.alive
        have hshort : ¬ coolingFor g home.email now ≥ rebindAfter := by
          unfold rebindAfter
          omega
        refine hok home hfind ⟨?_, hall⟩
        simpa [permanentlyUnavailable, halive, hshort] using hgone
      obtain ⟨s', hs', hex⟩ := hother
      obtain ⟨s1, hplace, havail⟩ := placeBest_serves (c := c) hs' hex
      unfold affinityRebind
      rw [hplace]
      exact ⟨s1, rfl, havail⟩
  · obtain ⟨s1, hplace, havail⟩ :=
      placeBest_serves (c := c) hs (not_mem_nil)
    unfold affinityRebind
    rw [hplace]
    exact ⟨s1, rfl, havail⟩

theorem routeAffinity_stranded {home : Sub}
    (hfind : g.roster.subs.find? (fun s => identify s.email = preferredHome)
      = some home) (h : Stranded c g now home) :
    ¬ Serves g now (routeAffinity c g preferredHome true identify now).1.sub? := by
  rintro ⟨s, hserved, havail⟩
  have hgone : permanentlyUnavailable c g home true now = true := by
    simp [permanentlyUnavailable, h.1]
  have heq := h.2 s havail
  simp only [routeAffinity, hfind, hgone, Bool.not_true, if_bool, affinityRebind] at hserved
  rcases @placeBest_cases c g now [home.email] with
    ⟨s', hplace, hex, -⟩ | ⟨-, hplace⟩
  · rw [hplace] at hserved
    simp only [AffinityRoute.sub?, some.injEq] at hserved
    rw [hserved, heq] at hex
    exact hex (mem_singleton.mpr rfl)
  · rw [hplace] at hserved
    cases hsel : selectBest c g [home.email] now .full with
    | none => simp [hsel, AffinityRoute.sub?] at hserved
    | some =>
      simp only [hsel, AffinityRoute.sub?, some.injEq] at hserved
      obtain ⟨-, hex, -⟩ := selectBestWithPolicy_mem hsel
      rw [hserved, heq] at hex
      exact hex (mem_singleton.mpr rfl)

/-- Each way to place a first attempt answers with an available
subscription. The claim of a peeked home may come at any later instant. -/
structure NeverPrefersCooling (c : Config) (g : Inner) (now : Int) : Prop where
  route : ∀ session, Serves g now (route c g session now).1
  pick : ∀ allowFull, Serves g now (pick c g [] allowFull now).1
  affinity : ∀ identify later, now ≤ later →
    ∃ home, peekAffinityHome c g now = some home ∧
      Serves g later
        (routeAffinity c g (identify home.email) true identify later).1.sub?

/-- A subscription that alone is available is within its reserve. -/
def LoneWithinReserve (c : Config) (g : Inner) (now : Int) : Prop :=
  ∀ s, Available g now s → (∀ s', Available g now s' → s' = s) →
    homeOverCap c g (c.reserve.caps c s.email) s now = false

/-- As long as some subscription is usable, each way to place a first attempt ends
on an available one exactly when a subscription that alone is available is within
its reserve. -/
theorem never_prefers_cooling_iff (hclock : 0 ≤ now) (husable : ∃ s, Usable c g now s) :
    NeverPrefersCooling c g now ↔ LoneWithinReserve c g now := by
  obtain ⟨s, hs⟩ := husable
  obtain ⟨home, hpeek, hhome⟩ := placeBest_serves (c := c) hs.toAvailable (not_mem_nil)
  constructor
  · intro h lone hlone huniq
    by_contra hover
    rw [Bool.not_eq_false] at hover
    obtain ⟨home', hpeek', hserves⟩ := h.affinity id now (le_refl _)
    have heq : home' = lone := by
      rw [peekAffinityHome, hpeek, some.injEq] at hpeek'
      rw [← hpeek']
      exact huniq home hhome
    rw [heq] at hserves
    have hfind : g.roster.subs.find? (fun s => id s.email = id lone.email)
        = some lone := by
      obtain ⟨s', hs'⟩ := Roster.find?_mem
        (mem_map.mpr ⟨lone, hlone.mem, rfl⟩ : lone.email ∈ g.roster.emails)
      obtain ⟨hmem', hemail'⟩ := Roster.find?_spec hs'
      have hsame : s' = lone := g.roster.eq_of_email hmem' hlone.mem hemail'
      rw [hsame] at hs'
      exact hs'
    exact routeAffinity_stranded hfind ⟨hover, fun s' hs' => by rw [huniq s' hs']⟩ hserves
  · intro h
    refine ⟨fun session => route_serves hs.toAvailable session hclock,
      fun allowFull => pick_serves hs.toAvailable allowFull, ?_⟩
    intro identify later hle
    refine ⟨home, hpeek, ?_⟩
    apply routeAffinity_serves (hs.toAvailable.later hle) (le_trans hclock hle)
    rintro found hfind ⟨hover, hall⟩
    -- what is available now still is later, so the found home is the lone one
    have hlone : ∀ s', Available g now s' → s' = home := by
      intro s' hs'
      apply g.roster.eq_of_email hs'.mem hhome.mem
      rw [hall s' (hs'.later hle), hall home (hhome.later hle)]
    have hfound : found = home :=
      g.roster.eq_of_email (mem_of_find?_eq_some hfind) hhome.mem
        (hall home (hhome.later hle)).symm
    rw [hfound, homeOverCap_later hle (h home hhome hlone)] at hover
    exact nomatch hover

/-- A pool without jitter. -/
def plainConfig : Config where
  reserve := ⟨1 / 10, 3 / 100, 0⟩
  prior5h := 50
  prior7d := 1500
  maxInflight := 6
  stableHash64 := fun _ => 0
  tokenFp := fun token => "fp:" ++ token
  oldest := fun k l => (l.take k).map Prod.fst
  prior5h_pos := by decide
  prior7d_pos := by decide
  one_le_maxInflight := by decide

def subA : Sub := ⟨"a", "token-a", "", "prod", "max20"⟩

def subB : Sub := ⟨"b", "token-b", "", "prod", "max20"⟩

def rosterAB : Roster := ⟨[subA, subB], by decide⟩

/-- `a` is at 95% of its five hours and `b` cools for ten minutes. -/
def overReserve : Inner :=
  ((Inner.new rosterAB).modify "a" (fun l => { l with util5h := 19 / 20 })).modify
    "b" (fun l => { l with coolingUntil := 1600 })

/-- `a` is at half of its five hours and `b` cools for ten minutes. -/
def belowReserve : Inner :=
  ((Inner.new rosterAB).modify "a" (fun l => { l with util5h := 1 / 2 })).modify
    "b" (fun l => { l with coolingUntil := 1600 })

theorem overReserve_usable : Usable plainConfig overReserve 1000 subA where
  mem := mem_cons_self ..
  alive := by decide +kernel
  ready := by decide +kernel
  below5 := by decide +kernel
  below7 := by decide +kernel

theorem belowReserve_usable : Usable plainConfig belowReserve 1000 subA where
  mem := mem_cons_self ..
  alive := by decide +kernel
  ready := by decide +kernel
  below5 := by decide +kernel
  below7 := by decide +kernel

/-- The usable `a` is peeked, claimed, and exchanged for the cooling `b`. -/
theorem usable_home_exchanged_for_cooling :
    Usable plainConfig overReserve 1000 subA ∧
      peekAffinityHome plainConfig overReserve 1000 = some subA ∧
      (routeAffinity plainConfig overReserve "a" true id 1000).1 = .selected subB .rebound ∧
      isCooling overReserve "b" 1000 = true ∧
      ¬ NeverPrefersCooling plainConfig overReserve 1000 := by
  have hpeek : peekAffinityHome plainConfig overReserve 1000 = some subA := by
    decide +kernel
  have hroute : (routeAffinity plainConfig overReserve "a" true id 1000).1
      = .selected subB .rebound := by decide +kernel
  have hcool : isCooling overReserve "b" 1000 = true := by decide +kernel
  refine ⟨overReserve_usable, hpeek, hroute, hcool, ?_⟩
  intro h
  obtain ⟨home, hhome, s, hs, havail⟩ := h.affinity id 1000 (le_refl _)
  rw [hpeek, some.injEq] at hhome
  rw [← hhome, show id subA.email = "a" from rfl, hroute] at hs
  simp only [AffinityRoute.sub?, some.injEq] at hs
  have hready := havail.ready
  rw [← hs, show subB.email = "b" from rfl, hcool] at hready
  exact nomatch hready

/-- One available subscription, below its reserve. -/
theorem never_prefers_cooling_belowReserve :
    (∃ s, Usable plainConfig belowReserve 1000 s) ∧
      (NeverPrefersCooling plainConfig belowReserve 1000 ↔
        LoneWithinReserve plainConfig belowReserve 1000) :=
  ⟨⟨subA, belowReserve_usable⟩, never_prefers_cooling_iff (by decide) ⟨subA, belowReserve_usable⟩⟩

end ApiToken.Pool
