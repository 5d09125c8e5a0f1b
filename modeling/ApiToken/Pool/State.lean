import ApiToken.Pool.Routing

/-!
# What the engine learns about a subscription

Roster reloads, probes and verdicts on tokens, cooling, spend, calibration of
the windows from response headers, and the exchange with the durable row. The
last section lists the calls of the pool that change its state.
-/

namespace ApiToken.Pool

variable (c : Config) (g : Inner)

/-! ## What a change leaves alone -/

section Frame

variable {α β : Type*} {g}

theorem Inner.modify_frame (π : Live → α) {f : Live → Live}
    (hf : ∀ l, π (f l) = π l) (email e : String) :
    π ((g.modify email f).entry e) = π (g.entry e) := by
  rw [Inner.entry_modify]
  split
  · exact hf _
  · rfl

theorem foldl_frame (π : Inner → α) {f : Inner → β → Inner}
    (hf : ∀ g b, π (f g b) = π g) (l : List β) (g : Inner) : π (l.foldl f g) = π g := by
  induction l generalizing g with
  | nil => rfl
  | cons _ _ ih => rw [foldl_cons, ih, hf]

end Frame

/-! ## Verdicts on tokens -/

def deadStreak : Int := 2

def deadMinSecs : Int := 300

def resetAuthHealthy (l : Live) : Live :=
  { l with
    authState := .healthy
    authFailStreak := 0
    firstAuthFailTs := 0
    lastAuthFailTs := 0
    lastAuthHttp := 0
    deadSinceTs := 0
    deadReason := "" }

/-- One more failed probe in the series. -/
def countFailure (l : Live) (http : Nat) (now : Int) : Live :=
  { l with
    authFailStreak := l.authFailStreak + 1
    firstAuthFailTs := if l.firstAuthFailTs = 0 then now else l.firstAuthFailTs
    lastAuthFailTs := now
    lastAuthHttp := http
    authState := if l.authState = .healthy then .suspect else l.authState }

/-- The series is long enough: the token is dead. -/
def condemn (l : Live) (http : Nat) (now : Int) : Live :=
  { l with
    authState := .dead
    deadSinceTs := if l.deadSinceTs = 0 then now else l.deadSinceTs
    deadReason := if http = 403 then "permission_error" else "authentication_error" }

/-- A probe answered 401 or 403. -/
def authFailed (l : Live) (http : Nat) (now : Int) : Live :=
  let l := countFailure l http now
  if l.authFailStreak ≥ deadStreak ∧ now - l.firstAuthFailTs ≥ deadMinSecs then
    condemn l http now
  else l

def retokened (l : Live) (tokenFp : String) : Live :=
  if tokenFp ≠ "" ∧ l.authTokenFp ≠ tokenFp then
    resetAuthHealthy { l with authTokenFp := tokenFp }
  else l

def applyProbe (l : Live) (http : Nat) (tokenFp : String) (now : Int) : Live :=
  let l := retokened { l with polledTs := now } tokenFp
  if http = 401 ∨ http = 403 then authFailed l http now
  else if 200 ≤ http ∧ http < 300 then resetAuthHealthy l
  else l

/-- Durable form of the verdict. -/
structure SubHealth where
  email : String
  authState : String
  authFailStreak : Int
  firstAuthFailTs : Int
  lastAuthFailTs : Int
  lastAuthHttp : Int
  deadSinceTs : Int
  deadReason : String
  authTokenFp : String
deriving DecidableEq

def healthRow (email : String) (l : Live) : SubHealth where
  email := email
  authState := l.authState.asStr
  authFailStreak := l.authFailStreak
  firstAuthFailTs := l.firstAuthFailTs
  lastAuthFailTs := l.lastAuthFailTs
  lastAuthHttp := l.lastAuthHttp
  deadSinceTs := l.deadSinceTs
  deadReason := l.deadReason
  authTokenFp := l.authTokenFp

def recordProbe (email : String) (http : Nat) (tokenFp : String) (now : Int) :
    Option SubHealth × Inner :=
  let g' := g.modify email (applyProbe · http tokenFp now)
  let before := healthRow email (g.entry email)
  let after := healthRow email (g'.entry email)
  (if before ≠ after then some after else none, g')

def importVerdict (r : SubHealth) (currentFingerprint : String) (l : Live) : Live :=
  if r.authTokenFp ≠ "" ∧ r.authTokenFp ≠ currentFingerprint then
    { resetAuthHealthy l with authTokenFp := currentFingerprint }
  else
    { l with
      authState := .fromPersisted r.authState
      authFailStreak := max r.authFailStreak 0
      firstAuthFailTs := r.firstAuthFailTs
      lastAuthFailTs := r.lastAuthFailTs
      lastAuthHttp := r.lastAuthHttp
      deadSinceTs := r.deadSinceTs
      deadReason := r.deadReason
      authTokenFp := r.authTokenFp }

def importHealthRow (g : Inner) (r : SubHealth) : Inner :=
  match g.roster.find? r.email with
  | some s => g.modify r.email (importVerdict r (c.tokenFp s.token))
  | none => g

def importHealth (rows : List SubHealth) : Inner :=
  rows.foldl (importHealthRow c) g

def revive (email : String) : Option SubHealth × Inner :=
  if email ∈ g.roster.emails then
    let g' := g.modify email resetAuthHealthy
    (some (healthRow email (g'.entry email)), g')
  else (none, g)

def killed (reason : String) (now : Int) (l : Live) : Live :=
  { l with
    authState := .dead
    deadSinceTs := if l.deadSinceTs = 0 then now else l.deadSinceTs
    deadReason := if reason = "" then "operator" else reason }

def kill (email reason : String) (now : Int) : Option SubHealth × Inner :=
  if email ∈ g.roster.emails then
    let g' := g.modify email (killed reason now)
    (some (healthRow email (g'.entry email)), g')
  else (none, g)

/-! ## Roster -/

def replaceToken (s : Sub) (l : Live) : Live :=
  let fp := c.tokenFp s.token
  if l.authTokenFp ≠ "" ∧ l.authTokenFp ≠ fp then
    { resetAuthHealthy l with authTokenFp := fp, quota5h := none, quota7d := none }
  else l

/-- `replaceToken` for a subscription that has an entry. -/
def replaceTokenOf (live : Table String Live) (s : Sub) : Table String Live :=
  match live.find? s.email with
  | some l => live.put s.email (replaceToken c s l)
  | none => live

def retained (r : Roster) (now : Int) : Table String Live :=
  g.live.delete (fun k v => !(k ∈ r.emails || v.coolingUntil > now))

def replaceSubs (r : Roster) (now : Int) : Bool × Inner :=
  let changed := g.roster.subs ≠ r.subs
  (changed,
   { g with
     live := r.subs.foldl (replaceTokenOf c) (retained g r now)
     roster := r })

section Reload

variable {c g}

theorem Roster.find?_eq_none {r : Roster} {e : String} : r.find? e = none ↔ e ∉ r.emails := by
  simp only [Roster.find?, Roster.emails, List.find?_eq_none, mem_map, guard_iffs, not_exists,
    not_and]

theorem find?_replaceTokenOf (live : Table String Live) (s : Sub) (e : String) :
    (replaceTokenOf c live s).find? e =
      if s.email = e then (live.find? e).map (replaceToken c s)
      else live.find? e := by
  unfold replaceTokenOf
  split
  · rename_i l hfind
    rw [find?_put]
    split
    · rename_i heq
      rw [← heq, hfind]
      rfl
    · rfl
  · rename_i hfind
    split
    · rename_i heq
      rw [← heq, hfind]
      rfl
    · rfl

theorem find?_foldl_replaceTokenOf {subs : List Sub}
    (hnodup : (subs.map Sub.email).Nodup) (live : Table String Live) (e : String) :
    (subs.foldl (replaceTokenOf c) live).find? e =
      match subs.find? (fun s => s.email = e) with
      | some s => (live.find? e).map (replaceToken c s)
      | none => live.find? e := by
  induction subs generalizing live with
  | nil => rfl
  | cons s rest ih =>
    rw [map_cons, nodup_cons] at hnodup
    rw [foldl_cons, ih hnodup.2, find?_replaceTokenOf]
    by_cases heq : s.email = e
    · have hrest : rest.find? (fun s => s.email = e) = none := by
        rw [List.find?_eq_none]
        intro s' hs' hsame
        apply hnodup.1
        rw [heq, ← of_decide_eq_true hsame]
        exact mem_map_of_mem hs'
      rw [hrest, if_pos heq, List.find?_cons_of_pos (by simpa using heq)]
    · rw [if_neg heq, List.find?_cons_of_neg (by simpa using heq)]

theorem find?_retained (r : Roster) (now : Int) (e : String) :
    (retained g r now).find? e =
      if e ∈ r.emails ∨ (g.entry e).coolingUntil > now then g.live.find? e
      else none := by
  cases hfind : (retained g r now).find? e with
  | some l =>
    obtain ⟨hl, hkeep⟩ := find?_delete.mp hfind
    have hentry : g.entry e = l := by rw [Inner.entry, hl, getD_some]
    rw [hentry, hl, if_pos (by simpa [or_iff_not_imp_left] using hkeep)]
  | none =>
    split
    · rename_i hkept
      cases hl : g.live.find? e with
      | none => rfl
      | some l =>
        have hentry : g.entry e = l := by rw [Inner.entry, hl, getD_some]
        rw [hentry] at hkept
        have hsome : (retained g r now).find? e = some l :=
          find?_delete.mpr ⟨hl, by simpa [or_iff_not_imp_left] using hkept⟩
        cases hsome.symm.trans hfind
    · rfl

theorem entry_replaceSubs (r : Roster) (now : Int) (e : String) :
    (replaceSubs c g r now).2.entry e =
      match r.find? e with
      | some s => replaceToken c s (g.entry e)
      | none => if (g.entry e).coolingUntil > now then g.entry e else {} := by
  unfold replaceSubs Inner.entry
  dsimp only
  rw [find?_foldl_replaceTokenOf r.nodup, find?_retained]
  cases hfind : r.find? e with
  | some =>
    have hin : e ∈ r.emails := by
      by_contra hout
      exact nomatch hfind.symm.trans (Roster.find?_eq_none.mpr hout)
    rw [Roster.find?] at hfind
    rw [hfind, if_pos (Or.inl hin)]
    cases g.live.find? e <;> rfl
  | none =>
    have hout := Roster.find?_eq_none.mp hfind
    rw [Roster.find?] at hfind
    rw [hfind]
    simp only [hout, false_or, Inner.entry]
    split
    · rfl
    · rfl

end Reload

def Roster.setPlan (r : Roster) (email plan : String) : Roster where
  subs := r.subs.map (fun s => if s.email = email then { s with plan := plan } else s)
  nodup := by
    have hemails : (r.subs.map (fun s =>
        if s.email = email then { s with plan := plan } else s)).map Sub.email
        = r.subs.map Sub.email := by
      rw [List.map_map]
      apply map_congr_left
      intro s _
      dsimp only [Function.comp]
      split <;> rfl
    rw [hemails]
    exact r.nodup

def setPlan (email plan : String) : Bool × Inner :=
  if plan = "" then (false, g)
  else if email ∈ g.roster.emails then
    (true, { g with roster := g.roster.setPlan email plan })
  else (false, g)

/-! ## Cooling and slots -/

def markHealthy (email : String) (now : Int) : Inner :=
  g.modify email (fun l => resetAuthHealthy
    { l with
      coolingUntil := if l.coolingUntil ≤ now then 0 else l.coolingUntil
      lastUsed := now })

def requestProbe (email : String) (now : Int) : Inner :=
  match g.live.find? email with
  | some l =>
    if l.lastProbeReq ≥ now - 15 then g
    else g.modify email (fun l => { l with lastProbeReq := now, polledTs := 0 })
  | none => g

def endStream (email : String) (now : Int) : Inner :=
  g.modify email (fun l => { l with inflight := max (l.inflight - 1) 0, lastUsed := now })

def cool (email : String) (secs now : Int) : Inner :=
  let deadline := saturate (now + max secs 1)
  g.modify email (fun l => { l with coolingUntil := max l.coolingUntil deadline })

def markCooling (email : String) (secs now : Int) : Inner := cool g email secs now

def markDone (email : String) : Inner :=
  g.modify email (fun l => { l with inflight := max (l.inflight - 1) 0 })

/-! ## Spend and windows -/

def recordSpend (email : String) (realNano : Int) : Inner :=
  let usd : ℚ := (realNano : ℚ) / 1000000000
  g.modify email (fun l =>
    { l with
      spentTotalUsd := l.spentTotalUsd + usd
      unpersistedSpendUsd := l.unpersistedSpendUsd + usd })

def plausibleCap (cap priorCap : ℚ) : Bool :=
  priorCap > 0 && cap ≥ priorCap * (1 / 4) && cap ≤ priorCap * 4

def validatedCap (cap priorCap : ℚ) : ℚ :=
  if cap > 0 && plausibleCap cap priorCap then cap else 0

/-- The calibration of one window. -/
structure Calib where
  seeded : Bool
  anchor : ℚ
  spentAnchor : ℚ
  cap : ℚ
  calibN : Nat

/-- A response header against the spend known at that moment. -/
structure CalibSample where
  util : ℚ
  spentTotal : ℚ
  priorCap : ℚ
  safe : Bool

/-- The capacity after an interval in which `du` dollars moved the window by
`d`. -/
def calibMeasure (k : Calib) (du d : ℚ) (sample : CalibSample) : Calib :=
  if sample.safe && du > 0 then
    let baseline := if plausibleCap k.cap sample.priorCap then k.cap else sample.priorCap
    let obs := du / d
    if du ≥ d * baseline * (1 / 2) && plausibleCap obs sample.priorCap then
      let obs := clamp (baseline / 4) (baseline * 4) obs
      { k with
        cap := baseline * (1 - 3 / 10) + obs * (3 / 10)
        calibN := k.calibN + 1 }
    else k
  else k

def calibWindow (k : Calib) (sample : CalibSample) : Calib :=
  let anchored (k : Calib) : Calib :=
    { k with anchor := sample.util, spentAnchor := sample.spentTotal }
  if !k.seeded then { anchored k with seeded := true }
  else if sample.util + 1 / 1000000000 < k.anchor then anchored k
  else
    let d := sample.util - k.anchor
    if d < 3 / 100 then k
    else anchored (calibMeasure k (sample.spentTotal - k.spentAnchor) d sample)

structure Header where
  u5 : Option ℚ
  u7 : Option ℚ
  status : Option String
  r5 : Option Int
  r7 : Option Int

def calibrate5 (prior : ℚ) (u5 : Option ℚ) (safe : Bool) (l : Live) : Live :=
  match u5 with
  | none => l
  | some n5 =>
    let k := calibWindow
      ⟨l.seed5, l.util5Anchor, l.spent5AnchorUsd, l.cap5hUsd, l.calibN⟩
      ⟨n5, l.spentTotalUsd, prior, safe⟩
    { l with
      seed5 := k.seeded
      util5Anchor := k.anchor
      spent5AnchorUsd := k.spentAnchor
      cap5hUsd := k.cap
      calibN := k.calibN }

/-- The seven days do not count as a calibration. -/
def calibrate7 (prior : ℚ) (u7 : Option ℚ) (safe : Bool) (l : Live) : Live :=
  match u7 with
  | none => l
  | some n7 =>
    let k := calibWindow
      ⟨l.seed7, l.util7Anchor, l.spent7AnchorUsd, l.cap7dUsd, 0⟩
      ⟨n7, l.spentTotalUsd, prior, safe⟩
    { l with
      seed7 := k.seeded
      util7Anchor := k.anchor
      spent7AnchorUsd := k.spentAnchor
      cap7dUsd := k.cap }

def scaleOf (email : String) : ℚ :=
  planScale (((g.roster.find? email).map Sub.plan).getD "")

def setUtil (email : String) (h : Header) (now : Int) : Inner :=
  let prior5 := c.prior5h * scaleOf g email
  let prior7 := c.prior7d * scaleOf g email
  g.modify email (fun l =>
    let safe := l.inflight ≤ 1
    let l := calibrate7 prior7 h.u7 safe (calibrate5 prior5 h.u5 safe l)
    { l with
      spentAtHeaderUsd := l.spentTotalUsd
      util5h := h.u5.getD l.util5h
      util7d := h.u7.getD l.util7d
      status := h.status.getD l.status
      reset5h := h.r5.getD l.reset5h
      reset7d := h.r7.getD l.reset7d
      polledTs := now })

def setQuotaSnapshots (email : String) (quota5h quota7d : Option QuotaSnapshot) :
    Inner :=
  if quota5h.isNone && quota7d.isNone then g
  else g.modify email (fun l =>
    { l with quota5h := quota5h.or l.quota5h, quota7d := quota7d.or l.quota7d })

/-! ## The durable row -/

structure PoolStateRow where
  email : String
  coolingUntil : Int
  cap5hUsd : ℚ
  cap7dUsd : ℚ
  spentTotalUsd : ℚ
  spentDeltaUsd : ℚ
  util5h : ℚ
  util7d : ℚ
  reset5h : Int
  reset7d : Int
  calibN : Int
  version : Int

def exportRow (email : String) (l : Live) : PoolStateRow where
  email := email
  coolingUntil := l.coolingUntil
  cap5hUsd := l.cap5hUsd
  cap7dUsd := l.cap7dUsd
  spentTotalUsd := l.spentTotalUsd
  spentDeltaUsd := l.unpersistedSpendUsd
  util5h := l.util5h
  util7d := l.util7d
  reset5h := l.reset5h
  reset7d := l.reset7d
  calibN := l.calibN
  version := l.persistVersion

def exportState : List PoolStateRow :=
  g.live.rows.map (fun (email, l) => exportRow email l)

def bad5 (scale : ℚ) (r : PoolStateRow) : Bool :=
  (r.calibN > 0 || r.cap5hUsd ≠ 0) && validatedCap r.cap5hUsd (c.prior5h * scale) = 0

def bad7 (scale : ℚ) (r : PoolStateRow) : Bool :=
  r.cap7dUsd ≠ 0 && validatedCap r.cap7dUsd (c.prior7d * scale) = 0

def restored (scale : ℚ) (now : Int) (r : PoolStateRow) (l : Live) : Live :=
  let cap5 := validatedCap r.cap5hUsd (c.prior5h * scale)
  let cap7 := validatedCap r.cap7dUsd (c.prior7d * scale)
  { l with
    coolingUntil := if r.coolingUntil > now then r.coolingUntil else l.coolingUntil
    cap5hUsd := cap5
    cap7dUsd := cap7
    spentTotalUsd := r.spentTotalUsd
    unpersistedSpendUsd := 0
    spentAtHeaderUsd := r.spentTotalUsd
    util5h := r.util5h
    util7d := r.util7d
    reset5h := r.reset5h
    reset7d := r.reset7d
    calibN := if bad5 c scale r then 0 else r.calibN.toNat % 2 ^ 32
    persistVersion := max r.version 0
    seed5 := true
    util5Anchor := r.util5h
    spent5AnchorUsd := r.spentTotalUsd
    seed7 := true
    util7Anchor := r.util7d
    spent7AnchorUsd := r.spentTotalUsd
    polledTs := now - ((c.stableHash64 r.email.toUTF8.toList).toNat % 240 : Nat)
    lastUsed := now }

def importStateRow (now : Int) (g : Inner) (r : PoolStateRow) : Inner :=
  if r.email ∉ g.roster.emails ∧ r.coolingUntil ≤ now then g
  else g.modify r.email (restored c (scaleOf g r.email) now r)

def repairs (now : Int) (r : PoolStateRow) : Bool :=
  !(r.email ∉ g.roster.emails && r.coolingUntil ≤ now)
    && (bad5 c (scaleOf g r.email) r || bad7 c (scaleOf g r.email) r)

def importState (rows : List PoolStateRow) (now : Int) : Nat × Inner :=
  (rows.countP (repairs c g now), rows.foldl (importStateRow c now) g)

/-- A saved row's email, its new version and the delta that was saved. -/
structure Acknowledged where
  email : String
  version : Int
  spentDelta : ℚ

def acceptOne (g : Inner) (a : Acknowledged) : Inner :=
  match g.live.find? a.email with
  | some _ => g.modify a.email (fun l =>
    { l with
      persistVersion := max l.persistVersion a.version
      unpersistedSpendUsd := max (l.unpersistedSpendUsd - max a.spentDelta 0) 0 })
  | none => g

def acceptPersistVersions (acknowledged : List Acknowledged) : Inner :=
  acknowledged.foldl acceptOne g

def conservativeCap (localCap remoteCap : ℚ) : ℚ :=
  if localCap > 0 then
    if remoteCap > 0 then min localCap remoteCap else localCap
  else if remoteCap > 0 then remoteCap else localCap

def mergeWindow (localUtil : ℚ) (localReset : Int) (remoteUtil : ℚ)
    (remoteReset : Int) : ℚ × Int :=
  if remoteReset > localReset then (remoteUtil, remoteReset)
  else if remoteReset = localReset then (max localUtil remoteUtil, localReset)
  else (localUtil, localReset)

def merged (scale : ℚ) (row : PoolStateRow) (l : Live) : Live :=
  let prior5 := c.prior5h * scale
  let prior7 := c.prior7d * scale
  let remote5 := validatedCap row.cap5hUsd prior5
  let remote7 := validatedCap row.cap7dUsd prior7
  let remote5Bad := bad5 c scale row
  let persistedLocal := max (l.spentTotalUsd - l.unpersistedSpendUsd) 0
  let cap5 := conservativeCap (validatedCap l.cap5hUsd prior5) remote5
  let w5 := mergeWindow l.util5h l.reset5h row.util5h row.reset5h
  let w7 := mergeWindow l.util7d l.reset7d row.util7d row.reset7d
  { l with
    coolingUntil := max l.coolingUntil row.coolingUntil
    spentTotalUsd := max persistedLocal row.spentTotalUsd + l.unpersistedSpendUsd
    cap5hUsd := cap5
    cap7dUsd := conservativeCap (validatedCap l.cap7dUsd prior7) remote7
    calibN := if cap5 = 0 || remote5Bad then 0 else max l.calibN (row.calibN.toNat % 2 ^ 32)
    util5h := w5.1
    reset5h := w5.2
    util7d := w7.1
    reset7d := w7.2
    persistVersion := max l.persistVersion (max row.version 0) }

def mergeRow (g : Inner) (row : PoolStateRow) : Inner :=
  g.modify row.email (merged c (scaleOf g row.email) row)

def mergePersistedState (rows : List PoolStateRow) : Inner :=
  rows.foldl (mergeRow c) g

/-! ## The calls of the pool -/

/-- A call that changes the pool, with its arguments. -/
inductive Op where
  | replaceSubs (r : Roster)
  | setPlan (email plan : String)
  | pick (exclude : List String) (allowFull : Bool)
  | routeOperatorTarget (target : String) (identify : String → String)
  | routeAffinity (home : String) (newlyClaimed : Bool) (identify : String → String)
  | route (session : UInt64)
  | markUsed (email : String)
  | markHealthy (email : String)
  | recordProbe (email : String) (http : Nat) (tokenFp : String)
  | importHealth (rows : List SubHealth)
  | revive (email : String)
  | kill (email reason : String)
  | requestProbe (email : String)
  | endStream (email : String)
  | markCooling (email : String) (secs : Int)
  | cool (email : String) (secs : Int)
  | markDone (email : String)
  | recordSpend (email : String) (realNano : Int)
  | setUtil (email : String) (h : Header)
  | setQuotaSnapshots (email : String) (quota5h quota7d : Option QuotaSnapshot)
  | importState (rows : List PoolStateRow)
  | acceptPersistVersions (acknowledged : List Acknowledged)
  | mergePersistedState (rows : List PoolStateRow)

/-- The state after a call at an instant. -/
def exec (now : Int) : Op → Inner
  | .replaceSubs r => (replaceSubs c g r now).2
  | .setPlan email plan => (setPlan g email plan).2
  | .pick exclude allowFull => (pick c g exclude allowFull now).2
  | .routeOperatorTarget target identify => (routeOperatorTarget c g target identify now).2
  | .routeAffinity home newlyClaimed identify =>
    (routeAffinity c g home newlyClaimed identify now).2
  | .route session => (route c g session now).2
  | .markUsed email => markUsed g email now
  | .markHealthy email => markHealthy g email now
  | .recordProbe email http tokenFp => (recordProbe g email http tokenFp now).2
  | .importHealth rows => importHealth c g rows
  | .revive email => (revive g email).2
  | .kill email reason => (kill g email reason now).2
  | .requestProbe email => requestProbe g email now
  | .endStream email => endStream g email now
  | .markCooling email secs => markCooling g email secs now
  | .cool email secs => cool g email secs now
  | .markDone email => markDone g email
  | .recordSpend email realNano => recordSpend g email realNano
  | .setUtil email h => setUtil c g email h now
  | .setQuotaSnapshots email quota5h quota7d => setQuotaSnapshots g email quota5h quota7d
  | .importState rows => (importState c g rows now).2
  | .acceptPersistVersions acknowledged => acceptPersistVersions g acknowledged
  | .mergePersistedState rows => mergePersistedState c g rows

def handedOut (now : Int) : Op → Option String
  | .pick exclude allowFull => (pick c g exclude allowFull now).1.map Sub.email
  | .routeOperatorTarget target identify =>
    (routeOperatorTarget c g target identify now).1.map Sub.email
  | .routeAffinity home newlyClaimed identify =>
    (routeAffinity c g home newlyClaimed identify now).1.sub?.map Sub.email
  | .route session => (route c g session now).1.map Sub.email
  | .markUsed email => some email
  | _ => none

/-- The email whose slot a call gives back. -/
def Op.released : Op → Option String
  | .markDone email => some email
  | .endStream email => some email
  | _ => none

end ApiToken.Pool
