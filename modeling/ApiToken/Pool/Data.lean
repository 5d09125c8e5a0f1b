import ApiToken.Lib.Selection
import ApiToken.Lib.Table
import Mathlib.Algebra.Order.Ring.Rat
import Mathlib.Data.List.Infix

/-!
# The subscription pool

The roster of subscriptions and what the engine remembers of each: window
utilization, cooling, in-flight slots, measured capacity, spend and the
verdict on its token. Dollar amounts and shares of a window are rationals,
instants are seconds, and every function is given the instant it reads from
the clock.
-/

namespace ApiToken.Pool

/-! ## Machine integers -/

/-- The largest `i64`. -/
def i64Max : Int := 2 ^ 63 - 1

/-- `i64::saturating_add` and `i64::saturating_sub` of a result `x`. -/
def saturate (x : Int) : Int := max (-2 ^ 63) (min x i64Max)

/-! ## The roster -/

/-- A subscription as the registry lists it. -/
structure Sub where
  email : String
  token : String
  proxy : String
  fleet : String
  plan : String
deriving DecidableEq

structure Roster where
  subs : List Sub
  nodup : (subs.map Sub.email).Nodup

def Roster.empty : Roster := ⟨[], nodup_nil⟩

def Roster.emails (r : Roster) : List String := r.subs.map Sub.email

def Roster.find? (r : Roster) (email : String) : Option Sub :=
  r.subs.find? (fun s => s.email = email)

/-! ## Reserve and capacity priors -/

/-- Share of a window kept back for new sessions, and its spread. -/
structure Reserve where
  base5h : ℚ
  base7d : ℚ
  jitter : ℚ

def Reserve.full : Reserve := ⟨0, 0, 0⟩

/-- What is fixed when the pool is built. `oldest k` is the choice
`select_nth_unstable_by_key` makes of the `k` bindings seen longest ago: the
library leaves open which of equally old ones it takes. -/
structure Config where
  reserve : Reserve
  prior5h : ℚ
  prior7d : ℚ
  maxInflight : Int
  stableHash64 : List UInt8 → UInt64
  tokenFp : String → String
  oldest : Nat → List (UInt64 × Int) → List UInt64
  prior5h_pos : 0 < prior5h
  prior7d_pos : 0 < prior7d
  one_le_maxInflight : 1 ≤ maxInflight

def clamp (lo hi x : ℚ) : ℚ := max lo (min hi x)

/-- The offset of a subscription's threshold for one window. -/
def Reserve.jit (c : Config) (r : Reserve) (email : String) (salt : UInt8) : ℚ :=
  if r.jitter ≤ 0 then 0
  else
    let material := email.toUTF8.toList ++ [salt]
    let spread : ℚ := ((c.stableHash64 material).toNat % 2001 : Nat) / 1000 - 1
    spread * r.jitter

/-- The ceilings of a subscription in the two windows. -/
def Reserve.caps (c : Config) (r : Reserve) (email : String) : ℚ × ℚ :=
  (clamp (1 / 2) 1 (1 - (r.base5h + r.jit c email 5)),
   clamp (1 / 2) 1 (1 - (r.base7d + r.jit c email 7)))

def planScale (plan : String) : ℚ :=
  if plan = "max20" then 1
  else if plan = "max5" then 1 / 4
  else if plan = "pro" then 1 / 20
  else 1 / 4

/-! ## The state of one subscription -/

/-- Verdict on a subscription's token. -/
inductive AuthState where
  | healthy
  | suspect
  | dead
deriving DecidableEq, Inhabited

def AuthState.asStr : AuthState → String
  | .healthy => "healthy"
  | .suspect => "suspect"
  | .dead => "dead"

def AuthState.fromPersisted (s : String) : AuthState :=
  if s = "dead" then .dead
  else if s = "suspect" then .suspect
  else .healthy

structure QuotaSnapshot where
  usedFractionUnits : Int
  measurementResolutionFractionUnits : Int
  observedAt : Int
  resetsAt : Option Int

/-- What the engine remembers of a subscription. -/
structure Live where
  util5h : ℚ := 0
  util7d : ℚ := 0
  status : String := ""
  coolingUntil : Int := 0
  lastUsed : Int := 0
  polledTs : Int := 0
  lastProbeReq : Int := 0
  authState : AuthState := .healthy
  authFailStreak : Int := 0
  firstAuthFailTs : Int := 0
  lastAuthFailTs : Int := 0
  lastAuthHttp : Int := 0
  deadSinceTs : Int := 0
  deadReason : String := ""
  authTokenFp : String := ""
  reset5h : Int := 0
  reset7d : Int := 0
  quota5h : Option QuotaSnapshot := none
  quota7d : Option QuotaSnapshot := none
  inflight : Int := 0
  cap5hUsd : ℚ := 0
  cap7dUsd : ℚ := 0
  spentTotalUsd : ℚ := 0
  unpersistedSpendUsd : ℚ := 0
  spentAtHeaderUsd : ℚ := 0
  util5Anchor : ℚ := 0
  spent5AnchorUsd : ℚ := 0
  util7Anchor : ℚ := 0
  spent7AnchorUsd : ℚ := 0
  seed5 : Bool := false
  seed7 : Bool := false
  calibN : Nat := 0
  persistVersion : Int := 0

/-- Home of a session and when it was last served there. -/
structure Binding where
  email : String
  lastSeen : Int

/-- The state behind the pool's lock. -/
structure Inner where
  roster : Roster
  live : Table String Live
  bindings : Table UInt64 Binding
  routePin : Nat
  routeRebind : Nat
  routeSpill : Nat
  routePlace : Nat

def Inner.new (r : Roster) : Inner := ⟨r, .empty, .empty, 0, 0, 0, 0⟩

/-- The entry of an email, a fresh one where there is none
(`entry(..).or_default()`). -/
def Inner.entry (g : Inner) (email : String) : Live :=
  (g.live.find? email).getD {}

def Inner.modify (g : Inner) (email : String) (f : Live → Live) : Inner :=
  { g with live := g.live.put email (f (g.entry email)) }

section

variable (g : Inner) (email : String) (f : Live → Live)
include g email f

@[simp] theorem Inner.modify_roster : (g.modify email f).roster = g.roster := rfl

theorem Inner.entry_modify (e : String) :
    (g.modify email f).entry e = if email = e then f (g.entry e) else g.entry e := by
  unfold Inner.entry Inner.modify
  rw [find?_put]
  split
  · subst_vars
    rfl
  · rfl

@[simp] theorem Inner.entry_modify_self : (g.modify email f).entry email = f (g.entry email) := by
  rw [Inner.entry_modify, if_pos rfl]

end

theorem Inner.entry_modify_ne (g : Inner) {email e : String} (f : Live → Live)
    (h : email ≠ e) : (g.modify email f).entry e = g.entry e := by
  rw [Inner.entry_modify, if_neg h]

/-! ## Reading the state -/

def isCooling (g : Inner) (e : String) (now : Int) : Bool :=
  match g.live.find? e with
  | some l => l.coolingUntil > now
  | none => false

def isDead (g : Inner) (e : String) : Bool :=
  match g.live.find? e with
  | some l => l.authState = .dead
  | none => false

inductive Window where
  | fiveHours
  | sevenDays

def windowUtil (l : Live) (util : ℚ) (reset : Int)
    (measuredCap priorCap scale : ℚ) (now : Int) : ℚ :=
  if reset ≠ 0 ∧ now ≥ reset then 0
  else
    let cap := if measuredCap > 0 then measuredCap else priorCap * scale
    let sinceHeader := max (l.spentTotalUsd - l.spentAtHeaderUsd) 0
    clamp 0 1 (util + sinceHeader / cap)

def liveUtil (c : Config) (g : Inner) (e : String) (scale : ℚ) (w : Window)
    (now : Int) : ℚ :=
  match g.live.find? e with
  | none => 0
  | some l =>
    match w with
    | .sevenDays => windowUtil l l.util7d l.reset7d l.cap7dUsd c.prior7d scale now
    | .fiveHours => windowUtil l l.util5h l.reset5h l.cap5hUsd c.prior5h scale now

/-- `live_util` of a subscription at its own plan's scale. -/
def subUtil (c : Config) (g : Inner) (s : Sub) (w : Window) (now : Int) : ℚ :=
  liveUtil c g s.email (planScale s.plan) w now

def inflightOf (g : Inner) (e : String) : Int :=
  match g.live.find? e with
  | some l => l.inflight
  | none => 0

def lru (g : Inner) (e : String) : Int :=
  match g.live.find? e with
  | some l => l.lastUsed
  | none => 0

def warn (g : Inner) (e : String) : Bool :=
  match g.live.find? e with
  | some l => decide ("warning".toList <:+: l.status.toList)
  | none => false

theorem isDead_eq (g : Inner) (e : String) :
    isDead g e = decide ((g.entry e).authState = .dead) := by
  unfold isDead Inner.entry
  cases g.live.find? e <;> rfl

theorem inflightOf_eq (g : Inner) (e : String) : inflightOf g e = (g.entry e).inflight := by
  unfold inflightOf Inner.entry
  cases g.live.find? e <;> rfl

end ApiToken.Pool
