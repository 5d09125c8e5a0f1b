import ApiToken.Lib.Run
import ApiToken.Lib.Table

/-!
# Credit attribution of one Suno account

`forward/src/suno/gateway.rs`: `precheck_and_create` reads the account's
credit counter before it sends the create call, `finalize_generation` reads
it again at the end, and the difference is the generation's consumption if
no other lease overlapped. Overlap is told from two counters of the profile
object, the live leases and the leases ever taken; a baseline is kept only
if this lease was the only live one, and a difference is attributed only if
the second counter has not moved since.

The account may have several profile objects: a roster reload puts a new one
beside the one that running generations still hold. Every action of a
generation, and of the provider, is one event.
-/

namespace ApiToken.Credits

/-- The two counters of a `RuntimeProfile`. -/
structure Profile where
  inflight : Nat
  turnEpoch : Nat

/-- `BillingSnapshot`: each half may be missing. -/
structure BillingSnapshot where
  totalCreditsLeft : Option Int
  monthlyUsage : Option Int

/-- `AttributionBaseline`. -/
structure Baseline where
  snapshot : BillingSnapshot
  epoch : Nat

/-- `credit_delta`: the drawdown of what is left, or else the advance of the
usage. -/
def creditDelta (baseline post : BillingSnapshot) : Option Int :=
  match baseline.totalCreditsLeft, post.totalCreditsLeft with
  | some before, some after => if after ≤ before then some (before - after) else none
  | _, _ =>
    match baseline.monthlyUsage, post.monthlyUsage with
    | some before, some after => if after ≥ before then some (after - before) else none
    | _, _ => none

inductive Money where
  | attributed (credits : Int)
  | refund
  | reserve (reason : String)
  deriving DecidableEq

/-- What a finalized generation settles at. -/
def money (succeeded : Bool) (delta : Option Int) (reserveCredits : Int) : Money :=
  if succeeded then
    match delta with
    | some delta =>
      if delta > 0 ∧ delta ≤ reserveCredits then .attributed delta
      else .reserve "suno-tariff-anomaly"
    | none => .reserve "suno-attribution-ambiguous"
  else
    match delta with
    | some delta =>
      if delta = 0 then .refund
      else if delta > 0 ∧ delta ≤ reserveCredits then .attributed delta
      else .reserve "suno-tariff-anomaly"
    | none => .reserve "suno-attribution-ambiguous"

inductive Pc where
  | leasing
  | leased
  | baselineRead
  | inflightLoaded
  | creating
  | created
  | postRead
  | settled
  | gone
  deriving DecidableEq

/-- A generation with its lease: the object, and the place of the lease among
all leases of that object. `sent` is that its create call went out, `seen` the
counter its baseline read met, and `idleEpoch` the leases taken when it found
itself alone. -/
structure Generation where
  object : Nat
  cost : Nat
  reserveCredits : Int
  ticket : Nat
  sent : Bool
  executed : Bool
  snapshot : BillingSnapshot
  seen : Nat
  idleEpoch : Nat
  baseline : Option Baseline
  post : Option BillingSnapshot
  pc : Pc

/-- The create call is out, and the provider has not executed it. -/
def Generation.awaited (generation : Generation) : Bool :=
  generation.sent && !generation.executed

structure Settlement where
  generation : Nat
  money : Money
  deriving DecidableEq

/-- One provider account, with all that runs on it. -/
structure Account where
  profiles : Table Nat Profile
  generations : Table Nat Generation
  consumed : Nat
  settlements : List Settlement

/-- What the account started from. -/
structure Opening where
  credits : Int
  usage : Int

structure Halves where
  credits : Bool
  usage : Bool

/-- One atomic step of a generation, a reload or the provider. -/
inductive Event where
  | reload (object : Nat)
  | lease (generation object cost : Nat) (reserveCredits : Int)
  /-- The second increment of `ProfileLease::new`. -/
  | publish (generation : Nat)
  /-- The billing read before the create call, or its failure. -/
  | readBaseline (generation : Nat) (answer : Option Halves)
  | loadInflight (generation : Nat)
  | loadEpoch (generation : Nat)
  /-- The provider executes the create call. -/
  | execute (generation : Nat)
  /-- The ids of the created generation arrive. -/
  | answer (generation : Nat)
  | readPost (generation : Nat) (answer : Option Halves)
  | finalize (generation : Nat) (succeeded : Bool)
  /-- The lease is dropped: at the end, after a refusal, or with the handler. -/
  | drop (generation : Nat)

namespace Account

def new : Account := ⟨.empty, .empty, 0, []⟩

def billing (opening : Opening) (a : Account) (halves : Halves) : BillingSnapshot :=
  ⟨if halves.credits then some (opening.credits - a.consumed) else none,
    if halves.usage then some (opening.usage + a.consumed) else none⟩

def setGeneration (a : Account) (g : Nat) (generation : Generation) : Account :=
  { a with generations := a.generations.put g generation }

def setProfile (a : Account) (o : Nat) (profile : Profile) : Account :=
  { a with profiles := a.profiles.put o profile }

def reload (a : Account) (o : Nat) : Account :=
  match a.profiles.find? o with
  | none => a.setProfile o ⟨0, 0⟩
  | some _ => a

/-- The first increment of `ProfileLease::new`. -/
def lease (a : Account) (g o cost : Nat) (reserveCredits : Int) : Account :=
  match a.generations.find? g, a.profiles.find? o with
  | none, some profile =>
    (a.setProfile o { profile with inflight := profile.inflight + 1 }).setGeneration g
      ⟨o, cost, reserveCredits, 0, false, false, ⟨none, none⟩, 0, 0, none, none, .leasing⟩
  | _, _ => a

def publish (a : Account) (g : Nat) (generation : Generation) (profile : Profile) :
    Account :=
  (a.setProfile generation.object
    { profile with turnEpoch := profile.turnEpoch + 1 }).setGeneration g
    { generation with ticket := profile.turnEpoch + 1, pc := .leased }

def readBaseline (opening : Opening) (a : Account) (g : Nat) (generation : Generation)
    (answer : Option Halves) : Account :=
  match answer with
  | none => a.setGeneration g { generation with sent := true, pc := .creating }
  | some halves =>
    a.setGeneration g
      { generation with
        snapshot := a.billing opening halves, seen := a.consumed, pc := .baselineRead }

def loadInflight (a : Account) (g : Nat) (generation : Generation) (profile : Profile) :
    Account :=
  if profile.inflight = 1 then
    a.setGeneration g { generation with idleEpoch := profile.turnEpoch, pc := .inflightLoaded }
  else a.setGeneration g { generation with sent := true, pc := .creating }

def loadEpoch (a : Account) (g : Nat) (generation : Generation) (profile : Profile) :
    Account :=
  a.setGeneration g
    { generation with
      baseline := some ⟨generation.snapshot, profile.turnEpoch⟩, sent := true,
      pc := .creating }

def execute (a : Account) (g : Nat) (generation : Generation) : Account :=
  { a.setGeneration g { generation with executed := true } with
    consumed := a.consumed + generation.cost }

def readPost (opening : Opening) (a : Account) (g : Nat) (generation : Generation)
    (answer : Option Halves) : Account :=
  a.setGeneration g { generation with post := answer.map (a.billing opening), pc := .postRead }

/-- The delta that `finalize_generation` attributes. -/
def attributedDelta (generation : Generation) (profile : Profile) : Option Int :=
  match generation.baseline, generation.post with
  | some baseline, some post =>
    if profile.turnEpoch = baseline.epoch then creditDelta baseline.snapshot post
    else none
  | _, _ => none

def finalize (a : Account) (g : Nat) (generation : Generation) (profile : Profile)
    (succeeded : Bool) : Account :=
  { a.setGeneration g { generation with pc := .settled } with
    settlements := a.settlements ++
      [⟨g, money succeeded (attributedDelta generation profile) generation.reserveCredits⟩] }

def drop (a : Account) (g : Nat) (generation : Generation) (profile : Profile) : Account :=
  (a.setProfile generation.object
    { profile with inflight := profile.inflight - 1 }).setGeneration g
    { generation with pc := .gone }

/-- The ids of an executed create call: the drain begins. -/
def answer (a : Account) (g : Nat) (generation : Generation) : Account :=
  a.setGeneration g { generation with pc := .created }

/-- An action of generation `g`, when it is ready for it. -/
def due (a : Account) (g : Nat) (ready : Generation → Bool)
    (action : Generation → Profile → Account) : Account :=
  match a.generations.find? g with
  | none => a
  | some generation =>
    match a.profiles.find? generation.object with
    | none => a
    | some profile => if ready generation then action generation profile else a

def exec (opening : Opening) (a : Account) : Event → Account
  | .reload o => a.reload o
  | .lease g o cost reserveCredits => a.lease g o cost reserveCredits
  | .publish g => a.due g (fun G => G.pc = .leasing) (a.publish g)
  | .readBaseline g answer =>
    a.due g (fun G => G.pc = .leased) (fun G _ => a.readBaseline opening g G answer)
  | .loadInflight g => a.due g (fun G => G.pc = .baselineRead) (a.loadInflight g)
  | .loadEpoch g => a.due g (fun G => G.pc = .inflightLoaded) (a.loadEpoch g)
  | .execute g => a.due g Generation.awaited (fun G _ => a.execute g G)
  | .answer g => a.due g (fun G => G.pc = .creating && G.executed) (fun G _ => a.answer g G)
  | .readPost g answer =>
    a.due g (fun G => G.pc = .created) (fun G _ => a.readPost opening g G answer)
  | .finalize g succeeded =>
    a.due g (fun G => G.pc = .postRead) (fun G P => a.finalize g G P succeeded)
  | .drop g => a.due g (fun G => G.pc ≠ .leasing && G.pc ≠ .gone) (a.drop g)

end Account

/-! ## Where the fence has a hole -/

def Generation.fence (generation : Generation) : Option Baseline :=
  match generation.pc with
  | .creating | .created => generation.baseline
  | _ => none

namespace Account

/-- The create call of `G`, executed now, moves the counter under the unbroken
fence of `H`: its lease was dropped, is on another object of the account, or
was published between the two loads of `H`. -/
def unfenced (a : Account) (g : Nat) (G : Generation) (h : Nat) (H : Generation) : Bool :=
  match H.fence, a.profiles.find? H.object with
  | some baseline, some profile =>
    decide (h ≠ g ∧ G.cost ≠ 0 ∧ profile.turnEpoch = baseline.epoch ∧
      (G.pc = .gone ∨ G.object ≠ H.object ∨ (H.idleEpoch < G.ticket ∧ G.ticket ≤ baseline.epoch)))
  | _, _ => false

def fenced (a : Account) : Event → Bool
  | .loadEpoch g =>
    match a.generations.find? g with
    | none => true
    | some G => decide (G.pc = .inflightLoaded → a.consumed = G.seen)
  | .execute g =>
    match a.generations.find? g with
    | none => true
    | some G => !(G.awaited && a.generations.any (a.unfenced g G))
  | _ => true

end Account

end ApiToken.Credits
