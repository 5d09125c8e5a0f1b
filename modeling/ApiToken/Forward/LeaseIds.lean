import ApiToken.Lib.Decimal
import ApiToken.Lib.Outcome
import ApiToken.Registry.Capacity

/-!
# The lease ids of a request

`forward` names the capacity lease of an attempt by the request and the number
of the attempt, and counts the attempts of each rotation round from one. The
rows of released leases stay, so the lease ids of a second round meet those of
the first.
-/

namespace ApiToken.Forward

open Registry

variable {id : String} {p p' : Registry.Pool}

/-! ## The calls of the handler -/

def capacityLeaseId (requestId : String) (attempt : Nat) : String :=
  requestId ++ ":" ++ toString attempt

def expiredLeases (p : Registry.Pool) (req : AcquireRequest) : List String :=
  (p.store.capacityLeases.rows.filter (fun row => row.2.expiredAt req.email req.ts)).map (·.1)

/-- `acquire_capacity`, with the authority behind it. -/
def acquireCapacity (p : Registry.Pool) (req : AcquireRequest) :
    Except Error (Option CapacityGrant × Registry.Pool) := do
  assertOwner p.store req.owner req.ts
  let held ← lookupLease p.store req
  match held with
  | some grant => return (some grant, p)
  | none =>
    let granted ← finishAcquire p req (expiredLeases p req)
    return granted.elim (none, p) fun (grant, p') => (some grant, p')

/-- A call of `acquire_capacity`, and the authority it meets. -/
structure Call where
  round : Nat
  attempt : Nat
  pool : Registry.Pool
  ts : Int
  owner : Owner
  email : String
  utilCap : Float

def Call.leaseId (c : Call) (requestId : String) : String := capacityLeaseId requestId c.attempt

def Call.req (c : Call) (requestId : String) : AcquireRequest :=
  { ts := c.ts, owner := c.owner, leaseId := c.leaseId requestId, requestId, email := c.email,
    leaseSecs := 3600, utilCap := c.utilCap }

def holdsRow (p : Registry.Pool) (requestId : String) (attempt : Nat) : Prop :=
  (p.store.capacityLeases.find? (capacityLeaseId requestId attempt)).isSome = true

/-- The calls of a request, the latest first. -/
inductive Trace (requestId : String) : List Call → Prop
  | nil : Trace requestId []
  | first {c : Call} (hcount : c.attempt = 1)
      (hnone : ∀ k, ¬ holdsRow c.pool requestId k) : Trace requestId [c]
  | next {c last : Call} {rest : List Call} {answer : Option CapacityGrant}
      {p : Registry.Pool} (h : Trace requestId (last :: rest))
      (hcount : c.round = last.round ∧ c.attempt = last.attempt + 1
        ∨ last.round < c.round ∧ c.attempt = 1)
      (hanswer : acquireCapacity last.pool (last.req requestId) = .ok (answer, p))
      (hrows : ∀ k, holdsRow c.pool requestId k → holdsRow p requestId k) :
      Trace requestId (c :: last :: rest)

def collision : Error := .bail "capacity lease ID belongs to another operation"

def NoCollision (requestId : String) (calls : List Call) : Prop :=
  (calls.map (·.leaseId requestId)).Nodup ∧
    ∀ c ∈ calls, acquireCapacity c.pool (c.req requestId) ≠ .error collision

/-! ## One call -/

theorem capacityLeaseId_inj {requestId : String} {m n : Nat}
    (h : capacityLeaseId requestId m = capacityLeaseId requestId n) : m = n := by
  replace h := congrArg String.toList h
  simp only [capacityLeaseId, String.toList_append, append_cancel_left_eq] at h
  have hparse := congrArg parseDigits
    ((Nat.toList_repr (n := m)).symm.trans (h.trans (Nat.toList_repr (n := n))))
  rw [parseDigits_toDigits, parseDigits_toDigits] at hparse
  exact some.inj hparse

theorem markLeases_isSome {leases : Table String CapacityLease} {state : LeaseState}
    {ts : Int} {ids : List String}
    (h : ((markLeases leases state ts ids).find? id).isSome = true) :
    (leases.find? id).isSome = true := by
  induction ids generalizing leases with
  | nil => exact h
  | cons _ _ ih =>
    simp only [markLeases] at h
    split at h
    · exact ih h
    · next l hl =>
      have hput := ih h
      rw [find?_put] at hput
      split at hput
      · next heq =>
        rw [← heq, hl]
        rfl
      · exact hput

variable {req : AcquireRequest}

theorem finishAcquire_rows {expired : List String} {grant : CapacityGrant}
    (h : finishAcquire p req expired = .ok (some (grant, p')))
    (hid : (p'.store.capacityLeases.find? id).isSome = true) :
    (p.store.capacityLeases.find? id).isSome = true ∨ id = req.leaseId := by
  simp only [finishAcquire] at h
  split at h
  · cases h
  split at h
  · cases h
  simp only [insertLease, ok_steps] at h
  obtain ⟨leases, ⟨-, -, rfl⟩, inflight, -, heq⟩ := h
  cases heq
  simp only [find?_put] at hid
  split at hid
  · next heq => exact .inr heq.symm
  · exact .inl (markLeases_isSome hid)

theorem acquire_rows {answer : Option CapacityGrant}
    (h : acquireCapacity p req = .ok (answer, p'))
    (hid : (p'.store.capacityLeases.find? id).isSome = true) :
    (p.store.capacityLeases.find? id).isSome = true ∨ id = req.leaseId := by
  simp only [acquireCapacity, ok_steps] at h
  obtain ⟨-, held, -, h⟩ := h
  cases held with
  | some => cases h; exact .inl hid
  | none =>
    simp only [ok_steps] at h
    obtain ⟨granted, hfinish, heq⟩ := h
    cases granted with
    | none => cases heq; exact .inl hid
    | some => cases heq; exact finishAcquire_rows hfinish hid

theorem finishAcquire_ne_collision (p : Registry.Pool) (req : AcquireRequest)
    (expired : List String) : finishAcquire p req expired ≠ .error collision := by
  have hsql : ∀ state, Error.sql state ≠ collision := nofun
  have hends : EndsIn (· ≠ collision) (fun _ => True) (finishAcquire p req expired) := by
    simp only [finishAcquire]
    split
    · trivial
    split
    · trivial
    · refine .bind (Q := fun _ => True) ?_ fun _ _ => .bind (Q := fun _ => True) ?_ fun _ _ =>
        trivial
      · refine .bind (.failIf fun _ => hsql _) fun _ _ =>
          .bind (.failIf fun _ => hsql _) fun _ _ => trivial
      · unfold bigint
        split
        · trivial
        · exact hsql _
  exact fun h => hends.of_eq_error h rfl

theorem acquire_ne_collision (h : p.store.capacityLeases.find? req.leaseId = none) :
    acquireCapacity p req ≠ .error collision := by
  have hlookup : lookupLease p.store req = .ok none := by rw [lookupLease, h]
  intro hcollides
  unfold acquireCapacity at hcollides
  cases howner : assertOwner p.store req.owner req.ts with
  | error =>
    rw [howner] at hcollides
    unfold assertOwner bailIf failIf at howner
    split at howner
    · cases howner
      exact absurd hcollides (by simp [bind, Except.bind, collision])
    · cases howner
  | ok =>
    simp only [howner, hlookup, bind, Except.bind] at hcollides
    cases hfinish : finishAcquire p req (expiredLeases p req) with
    | error =>
      rw [hfinish] at hcollides
      cases hcollides
      exact finishAcquire_ne_collision p req _ hfinish
    | ok =>
      rw [hfinish] at hcollides
      cases hcollides

/-! ## All calls of a request -/

section Calls

variable {requestId : String} {c : Call} {calls : List Call}

theorem trace_rows (h : Trace requestId (c :: calls)) {k : Nat}
    (hrow : holdsRow c.pool requestId k) : ∃ before ∈ calls, before.attempt = k := by
  generalize hall : c :: calls = all at h
  induction h generalizing c calls with
  | nil => cases hall
  | first _ hnone =>
    cases hall
    exact absurd hrow (hnone k)
  | @next c' last rest answer p h hcount hanswer hrows ih =>
    cases hall
    rcases acquire_rows hanswer (hrows k hrow) with hrow | hid
    · obtain ⟨before, hbefore, hk⟩ := ih hrow rfl
      exact ⟨before, mem_cons_of_mem _ hbefore, hk⟩
    · exact ⟨last, mem_cons_self, (capacityLeaseId_inj hid).symm⟩

/-- Rounds go up, and within a round the attempts do. -/
theorem trace_ordered (h : Trace requestId (c :: calls)) : ∀ before ∈ calls,
    before.round < c.round ∨ before.round = c.round ∧ before.attempt < c.attempt := by
  generalize hall : c :: calls = all at h
  induction h generalizing c calls with
  | nil => cases hall
  | first =>
    cases hall
    exact fun _ hbefore => absurd hbefore not_mem_nil
  | @next c' last rest answer p h hcount hanswer hrows ih =>
    cases hall
    intro before hbefore
    rcases mem_cons.mp hbefore with rfl | hbefore
    · omega
    · have := ih rfl before hbefore
      omega

theorem trace_first (h : Trace requestId calls) (hc : c ∈ calls) :
    ∃ start ∈ calls, start.round = c.round ∧ start.attempt = 1 := by
  induction h generalizing c with
  | nil => cases hc
  | first hcount =>
    rw [mem_singleton] at hc
    exact ⟨_, mem_singleton.mpr rfl, by rw [hc], hcount⟩
  | @next c' last rest answer p h hcount hanswer hrows ih =>
    rcases mem_cons.mp hc with rfl | hc
    · rcases hcount with ⟨hround, -⟩ | ⟨-, hone⟩
      · obtain ⟨start, hstart, hsame, hone⟩ := ih mem_cons_self
        exact ⟨start, mem_cons_of_mem _ hstart, hsame.trans hround.symm, hone⟩
      · exact ⟨c, mem_cons_self, rfl, hone⟩
    · obtain ⟨start, hstart, hsame⟩ := ih hc
      exact ⟨start, mem_cons_of_mem _ hstart, hsame⟩

theorem Trace.tail (h : Trace requestId (c :: calls)) : Trace requestId calls := by
  cases h with
  | first => exact .nil
  | next h => exact h

theorem noCollision_of_oneRound (h : Trace requestId calls)
    (hone : ∀ c ∈ calls, ∀ c' ∈ calls, c.round = c'.round) : NoCollision requestId calls := by
  induction calls with
  | nil => exact ⟨nodup_nil, fun _ hx => absurd hx not_mem_nil⟩
  | cons c calls ih =>
    obtain ⟨hnodup, hfree⟩ := ih h.tail fun x hx y hy =>
      hone x (mem_cons_of_mem _ hx) y (mem_cons_of_mem _ hy)
    have hlater : ∀ before ∈ calls, before.attempt ≠ c.attempt := by
      intro before hbefore
      have hsame := hone before (mem_cons_of_mem _ hbefore) c mem_cons_self
      have hordered := trace_ordered h before hbefore
      omega
    refine ⟨nodup_cons.mpr ⟨fun hmem => ?_, hnodup⟩, fun x hx => ?_⟩
    · obtain ⟨before, hbefore, hid⟩ := mem_map.mp hmem
      exact hlater before hbefore (capacityLeaseId_inj hid)
    · rcases mem_cons.mp hx with rfl | hx
      · refine acquire_ne_collision ?_
        by_contra hrow
        obtain ⟨before, hbefore, hk⟩ := trace_rows h (k := x.attempt)
          (isSome_iff_ne_none.mpr hrow)
        exact hlater before hbefore hk
      · exact hfree x hx

end Calls

/-- The calls of a request have ids of their own, and never collide, exactly
when at most one of its rounds reaches the capacity authority. -/
theorem capacity_ids_fresh_iff {requestId : String} {calls : List Call}
    (h : Trace requestId calls) :
    NoCollision requestId calls ↔ ∀ c ∈ calls, ∀ c' ∈ calls, c.round = c'.round := by
  constructor
  · intro ⟨hnodup, _⟩ c hc c' hc'
    obtain ⟨start, hstart, hround, hone⟩ := trace_first h hc
    obtain ⟨start', hstart', hround', hone'⟩ := trace_first h hc'
    have hsame : start = start' := List.inj_on_of_nodup_map hnodup hstart hstart'
      (by rw [Call.leaseId, Call.leaseId, hone, hone'])
    rw [← hround, ← hround', hsame]
  · exact noCollision_of_oneRound h

def freePool : Registry.Pool :=
  run Registry.Pool.exec (.fresh soloStore)
    [.claimInstance 100 "engine" 60, .addSub "a@sub", .addSub "b@sub"]

def grantedCall : Call := ⟨0, 1, freePool, 100, ⟨"engine", 1⟩, "a@sub", 0.9⟩

/-- The authority with the lease of that call. -/
def grantedPool : Registry.Pool :=
  ((acquireCapacity freePool (grantedCall.req "req")).toOption.map Prod.snd).getD freePool

/-- A call after the release of the lease. -/
def laterCall (round attempt : Nat) : Call :=
  ⟨round, attempt,
    run Registry.Pool.exec grantedPool [.releaseCapacity 8 101 ⟨"engine", 1⟩ "req:1", .finish 8],
    102, ⟨"engine", 1⟩, "b@sub", 0.9⟩

theorem trace_later {round attempt : Nat} (h : round = 0 ∧ attempt = 2 ∨ 0 < round ∧ attempt = 1) :
    Trace "req" [laterCall round attempt, grantedCall] := by
  have hfirst : Trace "req" [grantedCall] := .first rfl fun k hrow => by cases hrow
  have hgranted : acquireCapacity freePool (grantedCall.req "req") =
      .ok (some ⟨"req:1", "req", "a@sub", 3700⟩, grantedPool) := by rfl
  have hreleased : ∃ lease, (laterCall round attempt).pool.store.capacityLeases =
      grantedPool.store.capacityLeases.put "req:1" lease := ⟨_, rfl⟩
  refine .next hfirst h hgranted fun k hrow => ?_
  obtain ⟨lease, hput⟩ := hreleased
  rw [holdsRow, hput, find?_put] at hrow
  split at hrow
  · next heq =>
    rw [holdsRow, ← heq]
    rfl
  · exact hrow

/-- Two attempts of one round, each granted a lease. -/
theorem capacity_ids_fresh_oneRound : NoCollision "req" [laterCall 0 2, grantedCall] :=
  (capacity_ids_fresh_iff (trace_later (.inl ⟨rfl, rfl⟩))).mpr (by decide)

/-- The first attempt of a second round names its lease like that of the first round,
which was granted and released. -/
theorem second_round_collides :
    Trace "req" [laterCall 1 1, grantedCall]
    ∧ ¬ NoCollision "req" [laterCall 1 1, grantedCall]
    ∧ acquireCapacity (laterCall 1 1).pool ((laterCall 1 1).req "req") = .error collision := by
  refine ⟨trace_later (.inr ⟨by decide, rfl⟩), fun h => ?_, by rfl⟩
  exact (nodup_cons.mp h.1).1 mem_cons_self

end ApiToken.Forward
