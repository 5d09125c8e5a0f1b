import ApiToken.Pool.Data

/-!
# Choosing a subscription

The two selections, rotation and placement, and the routing calls built on
them. A routing call chooses under the pool's lock and takes one in-flight
slot of what it returns; `Handed` is all such a call does to the state of the
subscriptions.
-/

namespace ApiToken.Pool

variable {exclude : List String} {now : Int} {rsv : Reserve} {s homeSub : Sub}
  {g' : Inner}

variable (c : Config) (g : Inner)

/-! ## Rotation -/

def overCap (rsv : Reserve) (now : Int) (s : Sub) : Bool :=
  let (c5, c7) := rsv.caps c s.email
  !(subUtil c g s .sevenDays now < c7 && subUtil c g s .fiveHours now < c5)

/-- At or over the soft threshold of parallel requests. -/
def overEnvelope (s : Sub) : Bool := inflightOf g s.email ≥ c.maxInflight

def compareCrowded (rsv : Reserve) (now : Int) (a b : Sub) : Ordering :=
  (compare (inflightOf g a.email) (inflightOf g b.email)).then <|
  (compare (overCap c g rsv now a) (overCap c g rsv now b)).then <|
  (compare (subUtil c g a .sevenDays now) (subUtil c g b .sevenDays now)).then <|
  (compare (subUtil c g a .fiveHours now) (subUtil c g b .fiveHours now)).then <|
  (compare (warn g a.email) (warn g b.email)).then <|
  compare (lru g a.email) (lru g b.email)

def compareIdle (rsv : Reserve) (now : Int) (a b : Sub) : Ordering :=
  (compare (overCap c g rsv now a) (overCap c g rsv now b)).then <|
  (compare (subUtil c g a .sevenDays now) (subUtil c g b .sevenDays now)).then <|
  (compare (subUtil c g a .fiveHours now) (subUtil c g b .fiveHours now)).then <|
  (compare (warn g a.email) (warn g b.email)).then <|
  (compare (inflightOf g a.email) (inflightOf g b.email)).then <|
  compare (lru g a.email) (lru g b.email)

def compareRotation (rsv : Reserve) (now : Int) (a b : Sub) : Ordering :=
  let coolingOrder := compare (isCooling g a.email now) (isCooling g b.email now)
  if coolingOrder ≠ .eq then coolingOrder
  else
    let aOver := overEnvelope c g a
    let bOver := overEnvelope c g b
    let envelopeOrder := compare aOver bOver
    if envelopeOrder ≠ .eq then envelopeOrder
    else if aOver && bOver then compareCrowded c g rsv now a b
    else compareIdle c g rsv now a b

def selectBestWithPolicy (exclude : List String) (now : Int) (rsv : Reserve)
    (allowCoolingFallback : Bool) : Option Sub :=
  minBy (compareRotation c g rsv now)
    (((g.roster.subs.filter (fun s => s.email ∉ exclude)).filter
      (fun s => !isDead g s.email)).filter
      (fun s => allowCoolingFallback || !isCooling g s.email now))

/-- Rotation that falls back to a cooling subscription. -/
def selectBest (exclude : List String) (now : Int) (rsv : Reserve) : Option Sub :=
  selectBestWithPolicy c g exclude now rsv true

def selectBestNonCooling (exclude : List String) (now : Int) (rsv : Reserve) :
    Option Sub :=
  selectBestWithPolicy c g exclude now rsv false

/-! ## Placement -/

def placementUtil7Penalty : ℚ := 1 / 2

def placementCap (measured : Live → ℚ) (prior : ℚ) (s : Sub) : ℚ :=
  match g.live.find? s.email with
  | some l => if measured l > 0 then measured l else prior * planScale s.plan
  | none => prior * planScale s.plan

/-- Free share of a window of capacity `cap`. -/
def freeNorm (cap util : ℚ) : ℚ :=
  if cap > 0 then clamp 0 1 (cap * (1 - util) / cap) else 0

def placementScore (s : Sub) (now : Int) : ℚ :=
  let cap5 := placementCap g Live.cap5hUsd c.prior5h s
  let cap7 := placementCap g Live.cap7dUsd c.prior7d s
  let util5 := subUtil c g s .fiveHours now
  let util7 := subUtil c g s .sevenDays now
  min (freeNorm cap5 util5) (freeNorm cap7 util7) - placementUtil7Penalty * clamp 0 1 util7

def placementEligible (s : Sub) (exclude : List String) (now : Int)
    (rsv : Reserve) : Bool :=
  let (c5, c7) := rsv.caps c s.email
  s.email ∉ exclude && !isCooling g s.email now && !isDead g s.email
    && subUtil c g s .sevenDays now < c7 && subUtil c g s .fiveHours now < c5
    && inflightOf g s.email < c.maxInflight

/-- Larger for the better place: score, then fewer slots, then longest idle. -/
def comparePlacement (now : Int) (a b : Sub) : Ordering :=
  (compare (placementScore c g a now) (placementScore c g b now)).then <|
  (compare (inflightOf g b.email) (inflightOf g a.email)).then <|
  compare (lru g b.email) (lru g a.email)

def placeBest (exclude : List String) (now : Int) (rsv : Reserve) : Option Sub :=
  match maxBy (comparePlacement c g now)
      (g.roster.subs.filter (fun s => placementEligible c g s exclude now rsv)) with
  | some s => some s
  | none => selectBest c g exclude now .full

/-! ## Routing calls -/

def Inner.takeSlot (email : String) (now : Int) : Inner :=
  g.modify email (fun l =>
    { l with lastUsed := now, inflight := saturate (l.inflight + 1) })

def pick (exclude : List String) (allowFull : Bool) (now : Int) :
    Option Sub × Inner :=
  let rsv := if allowFull then .full else c.reserve
  match selectBest c g exclude now rsv with
  | some sub => (some sub, g.takeSlot sub.email now)
  | none => (none, g)

def peekAffinityHome (now : Int) : Option Sub := placeBest c g [] now c.reserve

def routeOperatorTarget (target : String) (identify : String → String)
    (now : Int) : Option Sub × Inner :=
  match g.roster.subs.filter (fun s => identify s.email = target) with
  | [sub] =>
    let unavailable := isDead g sub.email || isCooling g sub.email now
      || subUtil c g sub .fiveHours now ≥ 1 || subUtil c g sub .sevenDays now ≥ 1
    if unavailable then (none, g)
    else (some sub, g.takeSlot sub.email now)
  | _ => (none, g)

/-- How a routing call found its subscription. -/
inductive AffinityDisposition where
  | placed
  | pinned
  | spilled
  | rebound
deriving DecidableEq

inductive AffinityRoute where
  | selected (sub : Sub) (disposition : AffinityDisposition)
  | exhausted
deriving DecidableEq

def AffinityRoute.sub? : AffinityRoute → Option Sub
  | .selected sub _ => some sub
  | .exhausted => none

/-- A home that cools this long is given up. -/
def rebindAfter : Int := 60

/-- A session keeps its home while requests come at least this often. -/
def affinityTtl : Int := 3600

def bindingsCap : Nat := 100000

def affinityHome (homeSub : Sub) (newlyClaimed : Bool) (now : Int) :
    AffinityRoute × Inner :=
  let counted : Inner :=
    if newlyClaimed then { g with routePlace := g.routePlace + 1 }
    else { g with routePin := g.routePin + 1 }
  (.selected homeSub (if newlyClaimed then .placed else .pinned),
   counted.takeSlot homeSub.email now)

/-- The lineage moves to the best place. -/
def affinityRebind (exclude : List String) (now : Int) : AffinityRoute × Inner :=
  match placeBest c g exclude now c.reserve with
  | some sub =>
    (.selected sub .rebound, { g with routePlace := g.routePlace + 1 }.takeSlot sub.email now)
  | none => (.exhausted, g)

def coolingFor (email : String) (now : Int) : Int :=
  saturate ((g.entry email).coolingUntil - now)

def homeOverCap (caps : ℚ × ℚ) (s : Sub) (now : Int) : Bool :=
  subUtil c g s .fiveHours now ≥ caps.1 || subUtil c g s .sevenDays now ≥ caps.2

def permanentlyUnavailable (homeSub : Sub) (newlyClaimed : Bool) (now : Int) :
    Bool :=
  let caps := if newlyClaimed then c.reserve.caps c homeSub.email else (1, 1)
  isDead g homeSub.email || homeOverCap c g caps homeSub now
    || coolingFor g homeSub.email now ≥ rebindAfter

def affinityBusy (homeSub : Sub) (newlyClaimed : Bool) (now : Int) :
    AffinityRoute × Inner :=
  match selectBestNonCooling c g [homeSub.email] now c.reserve with
  | some sub =>
    (.selected sub .spilled, { g with routeSpill := g.routeSpill + 1 }.takeSlot sub.email now)
  | none =>
    if coolingFor g homeSub.email now ≤ 0 then
      affinityHome g homeSub newlyClaimed now
    else (.exhausted, g)

def routeAffinity (preferredHome : String) (newlyClaimed : Bool)
    (identify : String → String) (now : Int) : AffinityRoute × Inner :=
  match g.roster.subs.find? (fun s => identify s.email = preferredHome) with
  | some homeSub =>
    if !permanentlyUnavailable c g homeSub newlyClaimed now then
      let busy := coolingFor g homeSub.email now > 0
        || inflightOf g homeSub.email ≥ c.maxInflight
      if !busy then affinityHome g homeSub newlyClaimed now
      else affinityBusy c g homeSub newlyClaimed now
    else affinityRebind c g [homeSub.email] now
  | none => affinityRebind c g [] now

def evictBindings (bindings : Table UInt64 Binding) (now : Int) :
    Table UInt64 Binding :=
  if bindings.rows.length ≥ bindingsCap then
    let cutoff := now - affinityTtl
    let kept := bindings.delete (fun _ b => b.lastSeen < cutoff)
    if kept.rows.length ≥ bindingsCap then
      let ages := kept.rows.map (fun (k, b) => (k, b.lastSeen))
      kept.delete (fun k _ => k ∈ c.oldest (bindingsCap / 2) ages)
    else kept
  else bindings

def placeSession (session : UInt64) (forcedRebind : Bool) (now : Int) :
    Option Sub × Inner :=
  match placeBest c g [] now c.reserve with
  | some chosen =>
    let counted : Inner :=
      { g with
        routePlace := g.routePlace + 1
        routeRebind := if forcedRebind then g.routeRebind + 1 else g.routeRebind
        bindings := (evictBindings c g.bindings now).put session ⟨chosen.email, now⟩ }
    (some chosen, counted.takeSlot chosen.email now)
  | none => (none, g)

def takeSelected (selected : Option Sub) (now : Int) : Option Sub × Inner :=
  match selected with
  | some sub => (some sub, g.takeSlot sub.email now)
  | none => (none, g)

def routeHome (session : UInt64) (home : String) (now : Int) :
    Option Sub × Inner :=
  let seen : Inner := { g with bindings := g.bindings.put session ⟨home, now⟩ }
  let busy := (g.entry home).coolingUntil > now
    || inflightOf g home ≥ c.maxInflight
  if !busy then
    takeSelected { seen with routePin := g.routePin + 1 } (g.roster.find? home) now
  else
    let spilled : Inner := { seen with routeSpill := g.routeSpill + 1 }
    takeSelected spilled
      ((selectBestNonCooling c spilled [home] now c.reserve).or (g.roster.find? home)) now

def homeGone (home : String) (now : Int) : Bool :=
  let cooling := (g.entry home).coolingUntil
  let scale := planScale (((g.roster.find? home).map Sub.plan).getD "")
  let e5 := liveUtil c g home scale .fiveHours now
  let e7 := liveUtil c g home scale .sevenDays now
  let deepCooling := cooling > now && cooling - now ≥ rebindAfter
  let (c5, c7) := c.reserve.caps c home
  deepCooling || (e5 ≥ c5 || e7 ≥ c7) || isDead g home

def route (session : UInt64) (now : Int) : Option Sub × Inner :=
  match g.bindings.find? session with
  | some b =>
    if now - b.lastSeen < affinityTtl ∧ b.email ∈ g.roster.emails then
      if homeGone c g b.email now then placeSession c g session true now
      else routeHome c g session b.email now
    else placeSession c g session false now
  | none => placeSession c g session false now

def markUsed (email : String) (now : Int) : Inner := g.takeSlot email now

/-! ## What a routing call does -/

section Handed

variable {c g}

theorem selectBestWithPolicy_mem {allow : Bool}
    (h : selectBestWithPolicy c g exclude now rsv allow = some s) :
    s ∈ g.roster.subs ∧ s.email ∉ exclude ∧ isDead g s.email = false ∧
      (allow = true ∨ isCooling g s.email now = false) := by
  have hmem := minBy_mem h
  simpa only [mem_filter, guard_iffs, and_assoc] using hmem

theorem placeBest_mem (h : placeBest c g exclude now rsv = some s) : s ∈ g.roster.subs := by
  unfold placeBest at h
  split at h
  · rename_i s' hmax
    rw [some.injEq] at h
    subst h
    exact (mem_filter.mp (maxBy_mem hmax)).1
  · exact (selectBestWithPolicy_mem h).1

theorem Roster.find?_spec {r : Roster} {email : String} (h : r.find? email = some s) :
    s ∈ r.subs ∧ s.email = email :=
  ⟨mem_of_find?_eq_some h, by simpa using find?_some h⟩

/-- A routing call keeps the roster and takes the slot of what it returns;
what it returns is in the roster. -/
structure Handed (g g' : Inner) (now : Int) (answer : Option Sub) : Prop where
  roster : g'.roster = g.roster
  live : g'.live =
    match answer with
    | some s => (g.takeSlot s.email now).live
    | none => g.live
  mem : ∀ s, answer = some s → s ∈ g.roster.subs

theorem Handed.none {g : Inner} (hroster : g'.roster = g.roster)
    (hlive : g'.live = g.live) : Handed g g' now none :=
  ⟨hroster, hlive, nofun⟩

theorem Handed.take {g : Inner} (hroster : g'.roster = g.roster)
    (hlive : g'.live = g.live) (hmem : s ∈ g.roster.subs) :
    Handed g (g'.takeSlot s.email now) now (some s) where
  roster := hroster
  live := by simp only [Inner.takeSlot, Inner.modify, Inner.entry, hlive]
  mem s' heq := by
    rw [some.injEq] at heq
    exact heq ▸ hmem

theorem pick_handed (exclude : List String) (allowFull : Bool) (now : Int) :
    Handed g (pick c g exclude allowFull now).2 now (pick c g exclude allowFull now).1 := by
  unfold pick
  dsimp only
  split
  · rename_i sub hsel
    exact .take rfl rfl (selectBestWithPolicy_mem hsel).1
  · exact .none rfl rfl

theorem routeOperatorTarget_handed (target : String)
    (identify : String → String) (now : Int) :
    Handed g (routeOperatorTarget c g target identify now).2 now
      (routeOperatorTarget c g target identify now).1 := by
  unfold routeOperatorTarget
  split
  · rename_i sub hfilter
    dsimp only
    split
    · exact .none rfl rfl
    · have hmem : sub ∈ g.roster.subs.filter (fun s => identify s.email = target) := by
        rw [hfilter]
        exact mem_singleton.mpr rfl
      exact .take rfl rfl (mem_filter.mp hmem).1
  · exact .none rfl rfl

theorem affinityHome_handed (newlyClaimed : Bool) (now : Int)
    (hmem : homeSub ∈ g.roster.subs) :
    Handed g (affinityHome g homeSub newlyClaimed now).2 now
      (affinityHome g homeSub newlyClaimed now).1.sub? := by
  unfold affinityHome
  cases newlyClaimed
  · exact .take rfl rfl hmem
  · exact .take rfl rfl hmem

theorem affinityRebind_handed (exclude : List String) (now : Int) :
    Handed g (affinityRebind c g exclude now).2 now (affinityRebind c g exclude now).1.sub? := by
  unfold affinityRebind
  split
  · rename_i sub hplace
    exact .take rfl rfl (placeBest_mem hplace)
  · exact .none rfl rfl

theorem affinityBusy_handed (newlyClaimed : Bool) (now : Int)
    (hmem : homeSub ∈ g.roster.subs) :
    Handed g (affinityBusy c g homeSub newlyClaimed now).2 now
      (affinityBusy c g homeSub newlyClaimed now).1.sub? := by
  unfold affinityBusy
  split
  · rename_i sub hsel
    exact .take rfl rfl (selectBestWithPolicy_mem hsel).1
  · split
    · exact affinityHome_handed newlyClaimed now hmem
    · exact .none rfl rfl

theorem routeAffinity_handed (preferredHome : String) (newlyClaimed : Bool)
    (identify : String → String) (now : Int) :
    Handed g (routeAffinity c g preferredHome newlyClaimed identify now).2 now
      (routeAffinity c g preferredHome newlyClaimed identify now).1.sub? := by
  unfold routeAffinity
  split
  · rename_i homeSub hfind
    have hmem := mem_of_find?_eq_some hfind
    dsimp only
    split
    · split
      · exact affinityHome_handed newlyClaimed now hmem
      · exact affinityBusy_handed newlyClaimed now hmem
    · exact affinityRebind_handed _ now
  · exact affinityRebind_handed _ now

theorem placeSession_handed (session : UInt64) (forcedRebind : Bool) (now : Int) :
    Handed g (placeSession c g session forcedRebind now).2 now
      (placeSession c g session forcedRebind now).1 := by
  unfold placeSession
  split
  · rename_i chosen hplace
    exact .take rfl rfl (placeBest_mem hplace)
  · exact .none rfl rfl

theorem takeSelected_handed {g : Inner} {selected : Option Sub}
    (hroster : g'.roster = g.roster) (hlive : g'.live = g.live)
    (hmem : ∀ s, selected = some s → s ∈ g.roster.subs) :
    Handed g (takeSelected g' selected now).2 now (takeSelected g' selected now).1 := by
  unfold takeSelected
  split
  · exact .take hroster hlive (hmem _ rfl)
  · exact .none hroster hlive

theorem routeHome_handed (session : UInt64) (home : String) (now : Int) :
    Handed g (routeHome c g session home now).2 now (routeHome c g session home now).1 := by
  unfold routeHome
  dsimp only
  split
  · exact takeSelected_handed rfl rfl (fun s hs => (Roster.find?_spec hs).1)
  · refine takeSelected_handed (g := g) rfl rfl ?_
    intro s hs
    rcases Option.or_eq_some_iff.mp hs with hsel | ⟨-, hhome⟩
    · exact (selectBestWithPolicy_mem hsel).1
    · exact (Roster.find?_spec hhome).1

theorem route_handed (session : UInt64) (now : Int) :
    Handed g (route c g session now).2 now (route c g session now).1 := by
  unfold route
  split
  · split
    · split
      · exact placeSession_handed session true now
      · exact routeHome_handed session _ now
    · exact placeSession_handed session false now
  · exact placeSession_handed session false now

end Handed

end ApiToken.Pool
