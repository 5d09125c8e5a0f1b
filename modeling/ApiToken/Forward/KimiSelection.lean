import Mathlib.Data.List.Rotate
import ApiToken.Lib.Selection
import ApiToken.Lib.Text

/-!
# Selecting a KIMI profile

What holds a profile back, the selector with its relaxed second pass, and the
count that the failover verdict reads.
-/

namespace ApiToken.Forward.KimiSelection

/-! ## Profiles -/

structure Capabilities where
  allowsK3 : Bool
  allows1mContext : Bool
  allowsHighspeed : Bool

def Capabilities.base : Capabilities := ⟨false, false, false⟩

def kimiReviewedPlans : List (String × Capabilities) :=
  [("Adagio", .base), ("Andante", .base), ("Moderato", ⟨true, false, false⟩),
    ("Allegretto", ⟨true, true, true⟩), ("Allegro", ⟨true, true, true⟩),
    ("Vivace", ⟨true, true, true⟩)]

def lower (s : String) : List Char := s.toList.map Char.toLower

def capabilitiesOrBase (planName : String) : Capabilities :=
  let wanted := (trim planName.toList).map Char.toLower
  ((kimiReviewedPlans.find? fun plan => lower plan.1 = wanted).map Prod.snd).getD .base

structure QuotaWindow where
  durationSecs : Int
  usedFractionUnits : Int
  resetsAt : Int

structure ProfileHealth where
  authQuarantinedUntil : Int
  transportCoolUntil : Int
  quotaCoolUntil : Int
  quotaObservedAt : Option Int
  quotaWindows : List QuotaWindow
  /-- The cooling deadline of each model that failed. -/
  modelFailures : List (String × Int)

structure RuntimeProfile where
  id : String
  plan : String
  health : ProfileHealth
  inflight : Nat

/-- A roster; one that repeats an id is refused. -/
structure Fleet where
  profiles : List RuntimeProfile
  nodup : (profiles.map RuntimeProfile.id).Nodup

def RuntimeProfile.supports (p : RuntimeProfile) (model : String) : Bool :=
  let capabilities := capabilitiesOrBase p.plan
  let wanted := lower model
  if wanted = "kimi-for-coding".toList then true
  else if wanted = "kimi-for-coding-highspeed".toList then capabilities.allowsHighspeed
  else if wanted = "k3-256k".toList then capabilities.allowsK3
  else if wanted = "k3".toList ∨ wanted = "k3[1m]".toList then
    capabilities.allowsK3 && capabilities.allows1mContext
  else false

/-! ## Candidates -/

inductive Ineligible where
  | quotaWall
  | authQuarantined
  | transportWedged
  | capabilityNotInPlan
  | modelCooling

def Ineligible.isEnvironmental : Ineligible → Bool
  | .authQuarantined | .transportWedged => true
  | _ => false

structure WindowEvidence where
  usedFractionUnits : Option Int
  resetInSecs : Option Int

structure Candidate where
  profileId : String
  ineligible : Option Ineligible
  window5h : Option WindowEvidence
  windowWeekly : Option WindowEvidence
  quotaAgeSecs : Option Int
  inflight : Nat

def windowEvidence (health : ProfileHealth) (durationSecs now : Int) : Option WindowEvidence :=
  let distance := fun w : QuotaWindow => |w.durationSecs - durationSecs|
  let near := health.quotaWindows.filter fun w => distance w ≤ durationSecs / 10
  (minBy (fun v w => compare (distance v) (distance w)) near).map fun w =>
    ⟨some w.usedFractionUnits, some (max (w.resetsAt - now) 0)⟩

def ProfileHealth.cools (health : ProfileHealth) (model : String) (now : Int) : Bool :=
  (health.modelFailures.lookup model).any fun coolUntil => now < coolUntil

def RuntimeProfile.candidate (p : RuntimeProfile) (model : String) (now : Int) : Candidate where
  profileId := p.id
  ineligible :=
    if !p.supports model then some .capabilityNotInPlan
    else if p.health.authQuarantinedUntil > now then some .authQuarantined
    else if p.health.quotaCoolUntil > now then some .quotaWall
    else if p.health.transportCoolUntil > now then some .transportWedged
    else if p.health.cools model now then some .modelCooling
    else none
  window5h := windowEvidence p.health 18000 now
  windowWeekly := windowEvidence p.health 604800 now
  quotaAgeSecs := p.health.quotaObservedAt.map fun observed => max (now - observed) 0
  inflight := p.inflight

/-! ## The selector -/

def fractionScale : Int := 100000000

def discounted5h (window : WindowEvidence) : Option Int :=
  window.usedFractionUnits.map fun used =>
    let discount := match window.resetInSecs with
      | some secs => max 0 (min secs 3600)
      | none => 3600
    (used * discount).tdiv 3600

/-- Freshness, load, weekly steering and five-hour steering. -/
def rank (c : Candidate) : Nat × Nat × Int × Int :=
  let freshness := match c.quotaAgeSecs with
    | some age => if age ≤ 300 then 0 else 2
    | none => 1
  let steering := fun used : Option Int =>
    (used.filter fun used => fractionScale / 2 ≤ used).getD 0
  (freshness, c.inflight, steering (c.windowWeekly.bind WindowEvidence.usedFractionUnits),
    steering (c.window5h.bind discounted5h))

def compareRank (a b : Nat × Nat × Int × Int) : Ordering :=
  (compare a.1 b.1).then <| (compare a.2.1 b.2.1).then <|
    (compare a.2.2.1 b.2.2.1).then (compare a.2.2.2 b.2.2.2)

def atReserve (c : Candidate) : Bool :=
  (c.windowWeekly.bind WindowEvidence.usedFractionUnits).any fun used =>
    95 * fractionScale / 100 ≤ used

def select (candidates : List Candidate) (sticky : Option String) (cursor : Nat) :
    Option Candidate :=
  let pinned := sticky.bind fun id =>
    candidates.find? fun c => c.profileId = id ∧ c.ineligible.isNone
  match pinned with
  | some pinned => some pinned
  | none =>
    let eligible := candidates.filter fun c => c.ineligible.isNone
    let observed := eligible.filter fun c => c.window5h.isSome || c.windowWeekly.isSome
    let filtered :=
      if observed.any (!atReserve ·) then eligible.filter (!atReserve ·) else eligible
    match minBy compareRank (filtered.map rank) with
    | none => none
    | some best =>
      let tied := (filtered.filter fun c => rank c = best).mergeSort
        fun c d => decide (c.profileId ≤ d.profileId)
      tied[cursor % tied.length]?

def Candidate.relax (c : Candidate) : Candidate :=
  if c.ineligible.any Ineligible.isEnvironmental then { c with ineligible := none } else c

variable (fleet : Fleet) (model : String) (now : Int) (excluded : List String)

def candidates : List Candidate :=
  (fleet.profiles.filter fun p => p.id ∉ excluded).map fun p => p.candidate model now

def selectProfile (sticky : Option String) (cursor : Nat) : Option RuntimeProfile :=
  let found := candidates fleet model now excluded
  let selected := match select found sticky cursor with
    | some c => some c
    | none => select (found.map Candidate.relax) sticky cursor
  selected.bind fun c => fleet.profiles.find? fun p => p.id = c.profileId

def eligibleCount (current : String) : Nat :=
  ((fleet.profiles.filter fun p => p.id ≠ current ∧ p.id ∉ excluded).filter fun p =>
    (p.candidate model now).ineligible.isNone).length

/-! ## What the selector gives -/

variable {l : List Candidate} {sticky : Option String} {cursor : Nat} {c : Candidate}
  {p : RuntimeProfile}

theorem select_mem (h : select l sticky cursor = some c) : c ∈ l ∧ c.ineligible = none := by
  simp only [select] at h
  split at h
  · rename_i pinned hpinned
    cases h
    obtain ⟨id, -, hfind⟩ := bind_eq_some_iff.mp hpinned
    have hsome := find?_some hfind
    exact ⟨mem_of_find?_eq_some hfind, by simpa using (by simpa using hsome : _ ∧ _).2⟩
  · split at h
    · cases h
    · have hmem := mem_of_getElem? h
      rw [List.mem_mergeSort, mem_filter] at hmem
      have heligible : c ∈ l.filter fun c => c.ineligible.isNone := by
        split at hmem
        · exact List.mem_of_mem_filter hmem.1
        · exact hmem.1
      simpa using mem_filter.mp heligible

theorem select_isSome (hc : c ∈ l) (heligible : c.ineligible = none) (sticky : Option String)
    (cursor : Nat) :
    ∃ c', select l sticky cursor = some c' := by
  simp only [select]
  split
  · exact ⟨_, rfl⟩
  · have hmem : c ∈ l.filter fun c => c.ineligible.isNone := by simp [hc, heligible]
    generalize l.filter (fun c => c.ineligible.isNone) = eligible at hmem ⊢
    -- the reserve deflects only towards a profile that stays
    obtain ⟨d, hd⟩ : ∃ d, d ∈
        if (eligible.filter fun c => c.window5h.isSome || c.windowWeekly.isSome).any (!atReserve ·)
        then eligible.filter (!atReserve ·) else eligible := by
      split
      · rename_i hany
        obtain ⟨d, hd, hfree⟩ := List.any_eq_true.mp hany
        exact ⟨d, mem_filter.mpr ⟨List.mem_of_mem_filter hd, hfree⟩⟩
      · exact ⟨c, hmem⟩
    generalize (if (eligible.filter fun c => c.window5h.isSome || c.windowWeekly.isSome).any
      (!atReserve ·) then eligible.filter (!atReserve ·) else eligible) = filtered at hd ⊢
    obtain ⟨best, hbest⟩ : ∃ best, minBy compareRank (filtered.map rank) = some best :=
      minBy_isSome (mem_map_of_mem hd)
    obtain ⟨e, he, hrank⟩ := mem_map.mp (minBy_mem hbest)
    rw [hbest]
    have hpos : 0 < ((filtered.filter fun c => rank c = best).mergeSort
        fun c d => decide (c.profileId ≤ d.profileId)).length := by
      rw [List.length_mergeSort]
      exact List.length_pos_of_mem (mem_filter.mpr ⟨he, by simpa using hrank⟩)
    exact ⟨_, List.getElem?_eq_getElem (Nat.mod_lt _ hpos)⟩

/-- A pinned profile that may serve is the selected one. -/
theorem select_pinned (hc : c ∈ l) (heligible : c.ineligible = none)
    (hunique : ∀ d ∈ l, d.profileId = c.profileId → d = c) (cursor : Nat) :
    select l (some c.profileId) cursor = some c := by
  have hfind : (l.find? fun d => d.profileId = c.profileId ∧ d.ineligible.isNone) = some c := by
    cases hf : l.find? fun d => d.profileId = c.profileId ∧ d.ineligible.isNone with
    | none =>
      have := List.find?_eq_none.mp hf c hc
      simp [heligible] at this
    | some d =>
      have hd : d.profileId = c.profileId ∧ d.ineligible.isNone := by
        simpa using find?_some hf
      rw [hunique d (mem_of_find?_eq_some hf) hd.1]
  simp only [select, bind_some, hfind]

/-! ## What holds a profile -/

variable {fleet model now excluded}

def RuntimeProfile.Serves (p : RuntimeProfile) (model : String) (now : Int) : Prop :=
  p.supports model = true ∧ p.health.authQuarantinedUntil ≤ now ∧
    p.health.quotaCoolUntil ≤ now ∧ p.health.transportCoolUntil ≤ now ∧
    p.health.cools model now = false

/-- Held by an auth quarantine, or by a wedged transport alone or over a
cooling model. -/
def RuntimeProfile.EnvironmentHeld (p : RuntimeProfile) (model : String) (now : Int) : Prop :=
  p.supports model = true ∧ (now < p.health.authQuarantinedUntil ∨
    p.health.quotaCoolUntil ≤ now ∧ now < p.health.transportCoolUntil)

/-- Behind a wall of the provider, or cooling for the model. -/
def RuntimeProfile.Walled (p : RuntimeProfile) (model : String) (now : Int) : Prop :=
  p.supports model = false ∨ now < p.health.quotaCoolUntil ∨ p.health.cools model now = true

theorem candidate_eligible_iff :
    (p.candidate model now).ineligible = none ↔ p.Serves model now := by
  simp only [RuntimeProfile.candidate, RuntimeProfile.Serves]
  split_ifs <;> simp_all

theorem candidate_relaxed_iff :
    (p.candidate model now).relax.ineligible = none ↔
      p.Serves model now ∨ p.EnvironmentHeld model now := by
  simp only [Candidate.relax, RuntimeProfile.candidate, RuntimeProfile.Serves,
    RuntimeProfile.EnvironmentHeld]
  split_ifs <;> simp_all [Ineligible.isEnvironmental]

@[simp] theorem relax_profileId (c : Candidate) : c.relax.profileId = c.profileId := by
  rw [Candidate.relax]
  split <;> rfl

theorem Fleet.eq_of_id {fleet : Fleet} {q : RuntimeProfile} (hp : p ∈ fleet.profiles)
    (hq : q ∈ fleet.profiles) (h : p.id = q.id) : p = q :=
  List.inj_on_of_nodup_map fleet.nodup hp hq h

theorem Fleet.find_id {fleet : Fleet} (hp : p ∈ fleet.profiles) :
    fleet.profiles.find? (fun q => q.id = p.id) = some p := by
  cases h : fleet.profiles.find? (fun q => q.id = p.id) with
  | none => simpa using List.find?_eq_none.mp h p hp
  | some q => rw [fleet.eq_of_id (mem_of_find?_eq_some h) hp (by simpa using find?_some h)]

theorem mem_candidates :
    c ∈ candidates fleet model now excluded ↔
      ∃ p ∈ fleet.profiles, p.id ∉ excluded ∧ p.candidate model now = c := by
  simp [candidates, and_assoc]

/-- The selected profile serves, or none does and it is held by the
environment. -/
theorem selectProfile_some (h : selectProfile fleet model now excluded sticky cursor = some p) :
    p ∈ fleet.profiles ∧ p.id ∉ excluded ∧ (p.Serves model now ∨
      (∀ q ∈ fleet.profiles, q.id ∉ excluded → ¬ q.Serves model now) ∧
        p.EnvironmentHeld model now) := by
  obtain ⟨c, hc, hfind⟩ := bind_eq_some_iff.mp h
  split at hc
  · rename_i c' hselect
    cases hc
    obtain ⟨hmem, heligible⟩ := select_mem hselect
    obtain ⟨q, hq, hexcluded, rfl⟩ := mem_candidates.mp hmem
    obtain rfl : q = p := some.inj ((fleet.find_id hq).symm.trans hfind)
    exact ⟨hq, hexcluded, .inl (candidate_eligible_iff.mp heligible)⟩
  · rename_i hselect
    have hnone : ∀ q ∈ fleet.profiles, q.id ∉ excluded → ¬ q.Serves model now := by
      intro q hq hexcluded hserves
      obtain ⟨_, hsome⟩ := select_isSome (mem_candidates.mpr ⟨q, hq, hexcluded, rfl⟩)
        (candidate_eligible_iff.mpr hserves) sticky cursor
      rw [hsome] at hselect
      cases hselect
    obtain ⟨hmem, heligible⟩ := select_mem hc
    obtain ⟨_, hd, rfl⟩ := mem_map.mp hmem
    obtain ⟨q, hq, hexcluded, rfl⟩ := mem_candidates.mp hd
    rw [relax_profileId] at hfind
    obtain rfl : q = p := some.inj ((fleet.find_id hq).symm.trans hfind)
    exact ⟨hq, hexcluded, (candidate_relaxed_iff.mp heligible).imp_right fun h => ⟨hnone, h⟩⟩

theorem selectProfile_isSome_iff :
    (selectProfile fleet model now excluded sticky cursor).isSome ↔
      ∃ p ∈ fleet.profiles, p.id ∉ excluded ∧
        (p.Serves model now ∨ p.EnvironmentHeld model now) := by
  constructor
  · intro h
    obtain ⟨p, hp⟩ := isSome_iff_exists.mp h
    obtain ⟨hmem, hexcluded, hserves⟩ := selectProfile_some hp
    exact ⟨p, hmem, hexcluded, hserves.imp_right And.right⟩
  · rintro ⟨p, hp, hexcluded, hholds⟩
    have hmem : p.candidate model now ∈ candidates fleet model now excluded :=
      mem_candidates.mpr ⟨p, hp, hexcluded, rfl⟩
    have hfind {c : Candidate} (hc : ∃ d ∈ candidates fleet model now excluded,
        c.profileId = d.profileId) :
        (fleet.profiles.find? fun q => q.id = c.profileId).isSome := by
      obtain ⟨d, hd, hid⟩ := hc
      obtain ⟨q, hq, -, rfl⟩ := mem_candidates.mp hd
      rw [hid, show (q.candidate model now).profileId = q.id from rfl, fleet.find_id hq]
      rfl
    simp only [selectProfile]
    split
    · rename_i c hselect
      exact hfind ⟨c, (select_mem hselect).1, rfl⟩
    · obtain ⟨c, hc⟩ := select_isSome (mem_map_of_mem (f := Candidate.relax) hmem)
        (candidate_relaxed_iff.mpr hholds) sticky cursor
      rw [hc]
      obtain ⟨d, hd, rfl⟩ := mem_map.mp (select_mem hc).1
      exact hfind ⟨d, hd, relax_profileId d⟩

/-- With no profile serving, one held by the environment is given to whom it
is pinned to. -/
theorem selectProfile_pinned (hp : p ∈ fleet.profiles) (hexcluded : p.id ∉ excluded)
    (hnone : ∀ q ∈ fleet.profiles, q.id ∉ excluded → ¬ q.Serves model now)
    (hheld : p.EnvironmentHeld model now) :
    selectProfile fleet model now excluded (some p.id) 0 = some p := by
  have hfirst : select (candidates fleet model now excluded) (some p.id) 0 = none := by
    by_contra hne
    obtain ⟨c, hc⟩ := Option.ne_none_iff_exists'.mp hne
    obtain ⟨hmem, heligible⟩ := select_mem hc
    obtain ⟨q, hq, hqe, rfl⟩ := mem_candidates.mp hmem
    exact hnone q hq hqe (candidate_eligible_iff.mp heligible)
  have hsecond := select_pinned
    (mem_map_of_mem (f := Candidate.relax) (mem_candidates.mpr ⟨p, hp, hexcluded, rfl⟩))
    (candidate_relaxed_iff.mpr (.inr hheld)) (fun d hd hid => by
      obtain ⟨_, hc, rfl⟩ := mem_map.mp hd
      obtain ⟨q, hq, -, rfl⟩ := mem_candidates.mp hc
      simp only [relax_profileId] at hid
      rw [fleet.eq_of_id hq hp hid]) 0
  simp only [relax_profileId] at hsecond
  simp only [selectProfile, hfirst]
  rw [show p.id = (p.candidate model now).profileId from rfl, hsecond, bind_some, relax_profileId]
  exact fleet.find_id hp

theorem eligibleCount_pos_iff {current : String} :
    0 < eligibleCount fleet model now excluded current ↔
      ∃ p ∈ fleet.profiles, p.id ∉ current :: excluded ∧ p.Serves model now := by
  simp only [eligibleCount, List.length_pos_iff_exists_mem, mem_filter, isNone_iff_eq_none,
    candidate_eligible_iff, guard_iffs, mem_cons, not_or, and_assoc]

/-- The count is what the selection can deliver, and no wall is opened,
exactly where the relaxed pass does not count: some profile serves, or none is
held by the environment, respectively none of these is walled as well. -/
theorem kimi_verdict_iff (fleet : Fleet) (model : String) (now : Int) (excluded : List String)
    (current : String) :
    ((∀ sticky cursor, 0 < eligibleCount fleet model now excluded current ↔
        (selectProfile fleet model now (current :: excluded) sticky cursor).isSome) ∧
      ∀ sticky cursor p, selectProfile fleet model now excluded sticky cursor = some p →
        ¬ p.Walled model now) ↔
    ((∃ p ∈ fleet.profiles, p.id ∉ current :: excluded ∧ p.Serves model now) ∨
        ∀ p ∈ fleet.profiles, p.id ∉ current :: excluded → ¬ p.EnvironmentHeld model now) ∧
      ((∃ p ∈ fleet.profiles, p.id ∉ excluded ∧ p.Serves model now) ∨
        ∀ p ∈ fleet.profiles, p.id ∉ excluded → p.EnvironmentHeld model now →
          ¬ p.Walled model now) := by
  simp only [selectProfile_isSome_iff, eligibleCount_pos_iff]
  constructor
  · rintro ⟨hcount, hwall⟩
    constructor
    · by_contra hnot
      simp only [not_or, not_forall, not_not] at hnot
      obtain ⟨hnone, p, hp, hexcluded, hheld⟩ := hnot
      exact hnone ((hcount none 0).mpr ⟨p, hp, hexcluded, .inr hheld⟩)
    · by_contra hnot
      simp only [not_or, not_forall, not_not] at hnot
      obtain ⟨hnone, p, hp, hexcluded, hheld, hwalled⟩ := hnot
      exact hwall _ _ _ (selectProfile_pinned hp hexcluded
        (fun q hq hqe hserves => hnone ⟨q, hq, hqe, hserves⟩) hheld) hwalled
  · rintro ⟨hcount, hwall⟩
    constructor
    · intro _ _
      constructor
      · rintro ⟨p, hp, hexcluded, hserves⟩
        exact ⟨p, hp, hexcluded, .inl hserves⟩
      · rintro ⟨p, hp, hexcluded, hserves | hheld⟩
        · exact ⟨p, hp, hexcluded, hserves⟩
        · exact hcount.resolve_right fun h => h p hp hexcluded hheld
    · intro sticky cursor p h hwalled
      obtain ⟨hp, hexcluded, hserves | ⟨hnone, hheld⟩⟩ := selectProfile_some h
      · obtain ⟨hsupports, -, hquota, -, hcools⟩ := hserves
        rcases hwalled with h | h | h
        · exact absurd (hsupports.symm.trans h) (by decide)
        · omega
        · exact absurd (hcools.symm.trans h) (by decide)
      · rcases hwall with ⟨q, hq, hqe, hserves⟩ | hfree
        · exact hnone q hq hqe hserves
        · exact hfree p hp hexcluded hheld hwalled

/-- One profile, quarantined and out of quota, at the time 10. -/
def walledProfile : RuntimeProfile := ⟨"a", "Vivace", ⟨100, 0, 100, none, [], []⟩, 0⟩

def walledFleet : Fleet := ⟨[walledProfile], by decide⟩

/-- It is selected. -/
theorem kimi_wall_opened :
    ¬ ∀ sticky cursor p, selectProfile walledFleet "k3" 10 [] sticky cursor = some p →
      ¬ p.Walled "k3" 10 := by
  intro h
  have hselected : selectProfile walledFleet "k3" 10 [] (some walledProfile.id) 0 =
      some walledProfile := by
    refine selectProfile_pinned (mem_singleton.mpr rfl) not_mem_nil ?_
      ⟨by decide, .inl (by decide)⟩
    intro q hq _ hserves
    rw [mem_singleton.mp hq] at hserves
    exact absurd hserves.2.1 (by decide)
  exact h _ _ _ hselected (.inr (.inl (by decide)))

/-! ## Rotation -/

theorem select_cursor (l : List Candidate) : ∃ tied : List Candidate,
    (∀ cursor, select l none cursor = tied[cursor % tied.length]?) ∧
    ∀ c ∈ tied, ∀ d ∈ l, d.ineligible = none → rank d = rank c → atReserve d = atReserve c →
      d ∈ tied := by
  simp only [select, bind_none]
  split
  · exact ⟨[], fun _ => rfl, fun _ h => absurd h not_mem_nil⟩
  · refine ⟨_, fun _ => rfl, fun c hc d hd heligible hrank hreserve => ?_⟩
    simp only [List.mem_mergeSort, mem_filter, guard_iffs] at hc ⊢
    refine ⟨?_, hrank.trans hc.2⟩
    obtain ⟨hc, -⟩ := hc
    split_ifs at hc ⊢
    · simp_all
    · simp_all

/-- As many calls as there are tied candidates choose each of them once, wherever
the cursor stands as long as its `u64` does not wrap during them, and a candidate
as good as a tied one is tied itself. -/
theorem select_rotates (l : List Candidate) : ∃ tied : List Candidate,
    (∀ c ∈ tied, c ∈ l ∧ c.ineligible = none) ∧
    (∀ c ∈ tied, ∀ d ∈ l, d.ineligible = none → rank d = rank c → atReserve d = atReserve c →
      d ∈ tied) ∧
    (tied = [] → ∀ c ∈ l, c.ineligible ≠ none) ∧
    ∀ start, start + tied.length ≤ UInt64.size →
      ((List.range tied.length).map fun i => select l none ((i + start) % UInt64.size)).Perm
        (tied.map some) := by
  obtain ⟨tied, htied, hall⟩ := select_cursor l
  refine ⟨tied, fun c hc => ?_, hall, fun hnil c hc heligible => ?_, fun start hroom => ?_⟩
  · obtain ⟨i, hi, rfl⟩ := List.mem_iff_getElem.mp hc
    have hchosen : select l none i = some tied[i] := by
      rw [htied, Nat.mod_eq_of_lt hi, List.getElem?_eq_getElem hi]
    exact select_mem hchosen
  · obtain ⟨c', hc'⟩ := select_isSome hc heligible none 0
    rw [htied, hnil] at hc'
    cases hc'
  · have hrotated : (List.range tied.length).map
        (fun i => select l none ((i + start) % UInt64.size)) = (tied.rotate start).map some := by
      refine List.ext_getElem (by simp) fun i hi _ => ?_
      have hlt : i < tied.length := by simpa using hi
      have hpos : 0 < tied.length := by omega
      have hnowrap : (i + start) % UInt64.size = i + start := Nat.mod_eq_of_lt (by omega)
      simp only [List.getElem_map, List.getElem_range, hnowrap, htied, List.getElem_rotate,
        List.getElem?_eq_getElem (Nat.mod_lt (i + start) hpos)]
    rw [hrotated]
    exact (List.rotate_perm tied start).map some

end ApiToken.Forward.KimiSelection
