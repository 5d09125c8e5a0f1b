import ApiToken.Lib.Run
import ApiToken.Registry.Reserve

/-!
# Leader leases

`acquire_leader` elects one owner per leader name: one row of
`leader_leases`, inserted by the first caller and rewritten by its holder
or, once it has run out, by anyone. A caller acts on the answer it got, so
what has to exclude each other are the leases that were handed out, not the
rows of the table. `Cluster.granted` keeps the last one of every owner.

The clock only moves forward, and a call may carry a timestamp that it read
some time before its statements run.
-/

namespace ApiToken.Registry

/-- `leader_leases`, keyed by name. -/
structure LeaderLease where
  owner : Owner
  leaseUntil : Int
  updatedTs : Int
deriving DecidableEq

/-- `(owner_instance = $2 AND owner_epoch = $3) OR lease_until < $5`. -/
def LeaderLease.yields (row : LeaderLease) (owner : Owner) (ts : Int) : Bool :=
  row.owner == owner || decide (row.leaseUntil < ts)

/-- The two statements of `acquire_leader` after the owner check: the
insert that a present row makes void, and the guarded update, whose row
count is the answer. -/
def claimLeaderRow (leases : Table String LeaderLease) (ts : Int)
    (owner : Owner) (name : String) (ttlSecs : Int) :
    Bool × Table String LeaderLease :=
  let row : LeaderLease := { owner, leaseUntil := ts + max ttlSecs 1, updatedTs := ts }
  let inserted := match leases.find? name with
    | some _ => leases
    | none => leases.put name row
  match inserted.find? name with
  | none => (false, inserted)
  | some current =>
    if current.yields owner ts then (true, inserted.put name row)
    else (false, inserted)

/-- The authority, the clock, and the last lease each owner was granted
under each name. -/
structure Cluster where
  store : Store
  leaderLeases : Table String LeaderLease
  clock : Int
  granted : Table (String × Owner) Int

def acquireLeader (c : Cluster) (ts : Int) (owner : Owner) (name : String)
    (ttlSecs : Int) : Except Error (Bool × Table String LeaderLease) := do
  assertOwner c.store owner ts
  return claimLeaderRow c.leaderLeases ts owner name ttlSecs

/-- What the owners do. `late` is how long ago the call read its clock. -/
inductive LeaderOp where
  | tick (elapsed : Nat)
  | claimInstance (late : Nat) (instanceId : String) (ttlSecs : Int)
  | heartbeatInstance (late : Nat) (owner : Owner) (ttlSecs : Int)
  | acquireLeader (late : Nat) (owner : Owner) (name : String) (ttlSecs : Int)

/-- The caller learns of a grant; a refusal or an error grants nothing. -/
def Cluster.answer (c : Cluster) (ts : Int) (owner : Owner) (name : String)
    (ttlSecs : Int) : Except Error (Bool × Table String LeaderLease) → Cluster
  | .error _ => c
  | .ok (false, leases) => { c with leaderLeases := leases }
  | .ok (true, leases) =>
    { c with
      leaderLeases := leases
      granted := c.granted.put (name, owner) (ts + max ttlSecs 1) }

def Cluster.exec (c : Cluster) : LeaderOp → Cluster
  | .tick elapsed => { c with clock := c.clock + elapsed }
  | .claimInstance late instanceId ttl =>
    { c with
      store := (Registry.claimInstance c.store (c.clock - late) instanceId ttl).2 }
  | .heartbeatInstance late owner ttl =>
    { c with
      store := (Registry.heartbeatInstance c.store (c.clock - late) owner ttl).2 }
  | .acquireLeader late owner name ttl =>
    c.answer (c.clock - late) owner name ttl
      (Registry.acquireLeader c (c.clock - late) owner name ttl)

/-- Nothing has been granted yet. -/
def Cluster.boot (store : Store) (leaderLeases : Table String LeaderLease)
    (clock : Int) : Cluster :=
  { store, leaderLeases, clock, granted := .empty }

/-- `owner` was last told that it leads until `leaseUntil`, and that moment
has not passed. -/
def Cluster.Holds (c : Cluster) (name : String) (owner : Owner) : Prop :=
  ∃ leaseUntil, c.granted.find? (name, owner) = some leaseUntil ∧ c.clock ≤ leaseUntil

/-! ## One claim of the row -/

section ClaimRow

variable {leases leases' : Table String LeaderLease} {ts ttlSecs : Int}
  {owner : Owner} {name : String}

theorem claimLeaderRow_cases {won : Bool}
    (h : claimLeaderRow leases ts owner name ttlSecs = (won, leases')) :
    (won = true ∧
      (∀ row, leases.find? name = some row → row.owner = owner ∨ row.leaseUntil < ts) ∧
      ∀ name', leases'.find? name' = if name = name' then
          some ⟨owner, ts + max ttlSecs 1, ts⟩ else leases.find? name') ∨
    (won = false ∧ leases' = leases) := by
  unfold claimLeaderRow at h
  cases hfind : leases.find? name with
  | none =>
    -- the inserted row is the caller's own, so the update always matches
    simp only [hfind, find?_put_self, LeaderLease.yields,
      beq_self_eq_true, Bool.true_or, if_true, Prod.mk.injEq] at h
    obtain ⟨rfl, rfl⟩ := h
    refine .inl ⟨rfl, by simp, fun name' => ?_⟩
    simp only [find?_put]
    split <;> rfl
  | some row =>
    simp only [hfind] at h
    split at h
    · rename_i hyields
      simp only [Prod.mk.injEq] at h
      obtain ⟨rfl, rfl⟩ := h
      refine .inl ⟨rfl, ?_, fun name' => by simp only [find?_put]⟩
      rintro row' hrow'
      cases hrow'
      simpa [LeaderLease.yields] using hyields
    · simp only [Prod.mk.injEq] at h
      exact .inr ⟨h.1.symm, h.2.symm⟩

end ClaimRow

/-! ## What a step can do to the leases -/

/-- Every grant is either what the table still says or has run out. -/
def Cluster.Exclusive (c : Cluster) : Prop :=
  ∀ name owner leaseUntil, c.granted.find? (name, owner) = some leaseUntil →
    leaseUntil < c.clock ∨
      ∃ row, c.leaderLeases.find? name = some row ∧ row.owner = owner ∧
        row.leaseUntil = leaseUntil

/-- A step leaves the leases and the grants and does not turn the clock
back, or it is one successful claim. -/
theorem Cluster.exec_cases (c : Cluster) (op : LeaderOp) :
    ((c.exec op).leaderLeases = c.leaderLeases ∧
      (c.exec op).granted = c.granted ∧ c.clock ≤ (c.exec op).clock) ∨
    ∃ ts owner name ttlSecs, ts ≤ c.clock ∧ (c.exec op).clock = c.clock ∧
      ownerLive c.store owner ts = true ∧
      (∀ row, c.leaderLeases.find? name = some row → row.owner = owner ∨ row.leaseUntil < ts) ∧
      (∀ name', (c.exec op).leaderLeases.find? name' =
        if name = name' then some ⟨owner, ts + max ttlSecs 1, ts⟩
        else c.leaderLeases.find? name') ∧
      (c.exec op).granted = c.granted.put (name, owner) (ts + max ttlSecs 1) := by
  cases op with
  | tick elapsed => exact .inl ⟨rfl, rfl, show c.clock ≤ c.clock + elapsed by omega⟩
  | claimInstance late instanceId ttl | heartbeatInstance late owner ttl => exact .inl ⟨rfl, rfl, le_refl _⟩
  | acquireLeader late owner name ttl =>
    simp only [Cluster.exec]
    cases hcall : Registry.acquireLeader c (c.clock - late) owner name ttl with
    | error => exact .inl ⟨rfl, rfl, le_refl _⟩
    | ok answer =>
      obtain ⟨won, leases⟩ := answer
      simp only [Registry.acquireLeader, assertOwner, ok_steps, bailIf_eq_ok, guard_iffs] at hcall
      obtain ⟨hlive, hclaim⟩ := hcall
      rcases claimLeaderRow_cases hclaim with
        ⟨rfl, hyields, hrows⟩ | ⟨rfl, rfl⟩
      · refine .inr ⟨c.clock - late, owner, name, ttl, by omega, rfl, hlive, hyields, hrows, rfl⟩
      · exact .inl ⟨rfl, rfl, le_refl _⟩

theorem Cluster.exclusive_boot (store : Store)
    (leaderLeases : Table String LeaderLease) (clock : Int) :
    (Cluster.boot store leaderLeases clock).Exclusive := by
  intro name owner leaseUntil h
  cases h

theorem Cluster.exclusive_exec {c : Cluster} (op : LeaderOp)
    (h : c.Exclusive) : (c.exec op).Exclusive := by
  intro name owner leaseUntil hgrant
  rcases c.exec_cases op with ⟨hleases, hgranted, hclock⟩ |
    ⟨ts, caller, claimed, ttl, hts, hclock, -, hyields, hrows, hgranted⟩
  · rw [hgranted] at hgrant
    rw [hleases]
    rcases h name owner leaseUntil hgrant with hpast | hrow
    · exact .inl (by omega)
    · exact .inr hrow
  · rw [hgranted, find?_put] at hgrant
    rw [hclock, hrows]
    split at hgrant
    · -- the grant just made is the row just written
      rename_i hkey
      cases hkey
      cases hgrant
      exact .inr ⟨_, if_pos rfl, rfl, rfl⟩
    · rename_i hkey
      rcases h name owner leaseUntil hgrant with hpast | ⟨row, hrow, rfl, rfl⟩
      · exact .inl hpast
      · by_cases hname : claimed = name
        · -- another owner's row was rewritten, so it had run out
          subst hname
          rcases hyields row hrow with hsame | hlate
          · exact absurd (by rw [hsame]) hkey
          · exact .inl (by omega)
        · exact .inr ⟨row, by rw [if_neg hname, hrow], rfl, rfl⟩

/-- Two owners never hold a lease of one name at the same time, and a row
passes from one owner to another only when the lease of the first has run
out. -/
theorem leader_mutual_exclusion (store : Store)
    (leaderLeases : Table String LeaderLease) (clock : Int) (ops : List LeaderOp) :
    (∀ name owner₁ owner₂,
      (run Cluster.exec (.boot store leaderLeases clock) ops).Holds name owner₁ →
      (run Cluster.exec (.boot store leaderLeases clock) ops).Holds name owner₂ →
      owner₁ = owner₂) ∧
    ∀ op name row row',
      (run Cluster.exec (.boot store leaderLeases clock) ops).leaderLeases.find? name = some row →
      (run Cluster.exec (.boot store leaderLeases clock) (ops ++ [op])).leaderLeases.find?
        name = some row' →
      row'.owner ≠ row.owner →
      row.leaseUntil <
        (run Cluster.exec (.boot store leaderLeases clock) (ops ++ [op])).clock := by
  set c := run Cluster.exec (.boot store leaderLeases clock) ops with hc
  have hexcl : c.Exclusive :=
    run_invariant (fun _ op => Cluster.exclusive_exec op)
      (Cluster.exclusive_boot store leaderLeases clock) ops
  refine ⟨?_, ?_⟩
  · rintro name owner₁ owner₂ ⟨until₁, hgrant₁, hlive₁⟩ ⟨until₂, hgrant₂, hlive₂⟩
    rcases hexcl name owner₁ until₁ hgrant₁ with hpast | ⟨row₁, hrow₁, rfl, -⟩
    · omega
    rcases hexcl name owner₂ until₂ hgrant₂ with hpast | ⟨row₂, hrow₂, rfl, -⟩
    · omega
    rw [hrow₁] at hrow₂
    cases hrow₂
    rfl
  · intro op name row row' hrow hrow' hne
    rw [run_append, ← hc, run_cons, run_nil] at hrow' ⊢
    rcases c.exec_cases op with ⟨hleases, -, -⟩ |
      ⟨ts, caller, claimed, ttl, hts, hclock, -, hyields, hrows, -⟩
    · rw [hleases, hrow] at hrow'
      cases hrow'
      exact absurd rfl hne
    · rw [hrows] at hrow'
      rw [hclock]
      split at hrow'
      · rename_i hname
        subst hname
        cases hrow'
        rcases hyields row hrow with hsame | hlate
        · exact absurd hsame.symm hne
        · omega
      · rw [hrow] at hrow'
        cases hrow'
        exact absurd rfl hne

/-- Two instances contend for one name; the second asks again in the second
after the lease of the first. -/
def contention : List LeaderOp :=
  [.claimInstance 0 "east" 3600, .claimInstance 0 "west" 3600,
   .acquireLeader 0 ⟨"east", 1⟩ "poller" 30,
   .acquireLeader 0 ⟨"west", 2⟩ "poller" 30, .tick 31]

/-- The second instance takes over, and the lease it ended had run out. -/
theorem leader_mutual_exclusion_takeover :
    (run Cluster.exec (.boot soloStore .empty 100) contention).leaderLeases.find?
      "poller" = some ⟨⟨"east", 1⟩, 130, 100⟩ ∧
    (run Cluster.exec (.boot soloStore .empty 100)
      (contention ++ [.acquireLeader 0 ⟨"west", 2⟩ "poller" 30])).leaderLeases.find?
      "poller" = some ⟨⟨"west", 2⟩, 161, 131⟩ ∧
    130 < (run Cluster.exec (.boot soloStore .empty 100)
      (contention ++ [.acquireLeader 0 ⟨"west", 2⟩ "poller" 30])).clock :=
  ⟨by decide +kernel, by decide +kernel,
    (leader_mutual_exclusion soloStore .empty 100 contention).2
      (.acquireLeader 0 ⟨"west", 2⟩ "poller" 30) "poller"
      ⟨⟨"east", 1⟩, 130, 100⟩ ⟨⟨"west", 2⟩, 161, 131⟩
      (by decide +kernel) (by decide +kernel) (by decide)⟩

end ApiToken.Registry
