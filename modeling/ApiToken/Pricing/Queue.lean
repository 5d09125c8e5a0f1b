import ApiToken.Lib.Run
import ApiToken.Pricing.Edits

/-!
# The pricing job queue

Workers claim job rows under a lease of five minutes, call the engine and
write a verdict: `confirmPricingJob` when the engine answered,
`retryPricingJob` when the call failed. A verdict first reads what commerce
wants now, under the lock of the customer's `engine_accounts` row, and then
writes the job row if the worker still holds its lease.

The database runs at read committed: the statement that reads the wanted value
takes its snapshot when it starts and then waits for the lock. The rows it locks
are read again once it has the lock; a provider's override is not among them.
-/

namespace ApiToken.PricingJobs

/-! ## Claims -/

/-- `interval '5 minutes'`. -/
def leaseInterval : Int := 300 * 1000000

structure ClaimedPricingJob where
  target : Target
  engineAccountId : String
  multiplierBp : Option Int
  attempts : Nat
  workerId : String

/-- `status = 'processing' AND (locked_at IS NULL OR locked_at < now() - …)`. -/
def leaseExpired (now : Int) (row : PricingJob) : Bool :=
  row.status = .processing && row.lockedAt.all (fun lockedAt => lockedAt < now - leaseInterval)

def recoverLease (now : Int) (row : PricingJob) : PricingJob :=
  { row with status := .retry, lockedAt := none, lockedBy := none,
             nextAttemptAt := now }

/-- `status IN ('pending', 'retry') AND next_attempt_at <= now()`, and not
locked by another transaction. -/
def claimable (now : Int) (locked : List Target) (t : Target) (row : PricingJob) : Bool :=
  (row.status = .pending || row.status = .retry) && row.nextAttemptAt ≤ now && !locked.contains t

/-- `ORDER BY next_attempt_at, created_at`. -/
def claimOrder (x y : Target × PricingJob) : Bool :=
  x.2.nextAttemptAt < y.2.nextAttemptAt ||
    (x.2.nextAttemptAt = y.2.nextAttemptAt && x.2.createdAt ≤ y.2.createdAt)

def leaseRow (now : Int) (workerId : String) (row : PricingJob) : PricingJob :=
  { row with status := .processing, lockedAt := some now,
             lockedBy := some workerId, attempts := row.attempts + 1 }

/-- `claimNextPricingJob`; `locked` are the rows it skips. -/
def claimNextPricingJob (db : Commerce) (now : Int) (locked : List Target)
    (workerId : String) : Option ClaimedPricingJob × Commerce :=
  let jobs := db.jobs.update (fun _ row => leaseExpired now row) (recoverLease now)
  match jobs.select (claimable now locked) claimOrder 1 with
  | [] => (none, { db with jobs })
  | (t, row) :: _ =>
    (some ⟨t, row.engineAccountId, row.multiplierBp, row.attempts + 1, workerId⟩,
      { db with jobs := jobs.put t (leaseRow now workerId row) })

/-! ## Verdicts -/

/-- What `desiredPricingJobValue` answers. -/
structure Desired where
  engineAccountId : Option String
  multiplierBp : Option Int

/-- `desiredPricingJobValue`, once it has its locks: the profile and the
account as they are now, an override as the statement's snapshot has it. -/
def desiredPricingJobValue (db : Commerce) (snapshot : Option Int) (t : Target) :
    Desired :=
  match db.accounts.find? t.userId, t.providerId with
  | none, _ => ⟨none, none⟩
  | some account, some _ => ⟨account, snapshot⟩
  | some account, none =>
    match db.profiles.find? t.userId with
    | none => ⟨none, none⟩
    | some profile => ⟨account, some profile.multiplierBp⟩

def pricingJobIsCurrent (job : ClaimedPricingJob) (desired : Desired) : Bool :=
  desired.multiplierBp = job.multiplierBp &&
    desired.engineAccountId.getD job.engineAccountId = job.engineAccountId

def leaseFence (job : ClaimedPricingJob) (row : PricingJob) : Bool :=
  row.status = .processing && row.lockedBy = some job.workerId && row.attempts = job.attempts

inductive VerdictKind where
  | confirm
  | retry
deriving DecidableEq

/-- `Math.min(3600, Math.max(5, 2 ** Math.min(job.attempts, 10)))`. -/
def delaySeconds (attempts : Nat) : Nat := min 3600 (max 5 (2 ^ min attempts 10))

def releaseRow (row : PricingJob) (status : JobStatus) (nextAttemptAt : Int) :
    PricingJob :=
  { row with status, nextAttemptAt, lockedAt := none, lockedBy := none }

def supersededRow (now : Int) (desired : Desired) (status : JobStatus)
    (row : PricingJob) : PricingJob :=
  { releaseRow row status now with
    engineAccountId := desired.engineAccountId.getD row.engineAccountId
    multiplierBp := desired.multiplierBp
    attempts := 0 }

/-- The `UPDATE` of `confirmPricingJob` and of `retryPricingJob`. -/
def verdictRow (now : Int) (job : ClaimedPricingJob) (desired : Desired)
    (row : PricingJob) : VerdictKind → PricingJob
  | .confirm =>
    if pricingJobIsCurrent job desired then
      releaseRow row .confirmed row.nextAttemptAt
    else supersededRow now desired .pending row
  | .retry =>
    if pricingJobIsCurrent job desired then
      releaseRow row .retry (now + delaySeconds job.attempts * 1000000)
    else supersededRow now desired .retry row

/-- `engine_pricing_jobs_target_check`. -/
def targetCheck (t : Target) (row : PricingJob) : Bool :=
  t.providerId.isSome || row.multiplierBp.isSome

def writeVerdict (db : Commerce) (now : Int) (job : ClaimedPricingJob)
    (desired : Desired) (kind : VerdictKind) : Commerce :=
  match db.jobs.find? job.target with
  | none => db
  | some row =>
    let row' := verdictRow now job desired row kind
    if leaseFence job row && targetCheck job.target row' then
      { db with jobs := db.jobs.put job.target row' }
    else db

/-! ## Stale recovery -/

/-- The statement of `recoverStalePricingJobs`, as its snapshot has it. -/
structure Recovery where
  began : Int
  /-- The expired leases it saw. -/
  leases : List Target
  /-- The confirmed rows it saw, with what was wanted instead. -/
  stale : List (Target × String × Option Int)

def staleValue (db : Commerce) (t : Target) (row : PricingJob) :
    Option (String × Option Int) :=
  let account := (db.engineAccount t.userId).getD row.engineAccountId
  let value := db.wanted t
  if row.status = .confirmed && (db.profiles.find? t.userId).isSome &&
      (row.engineAccountId != account || row.multiplierBp != value) then
    some (account, value)
  else none

def beginRecovery (db : Commerce) (now : Int) : Recovery where
  began := now
  leases := (db.jobs.rows.filter (fun x => leaseExpired now x.2)).map Prod.fst
  stale := db.jobs.rows.filterMap
    (fun x => (staleValue db x.1 x.2).map (fun wanted => (x.1, wanted)))

/-- The `UPDATE` of `recovered_confirmed`. -/
def recoverConfirmed (now : Int) (account : String) (value : Option Int)
    (row : PricingJob) : PricingJob :=
  { releaseRow row .pending now with
    engineAccountId := account, multiplierBp := value, attempts := 0 }

def recoverRow (r : Recovery) (t : Target) (row : PricingJob) : PricingJob :=
  if leaseExpired r.began row && r.leases.contains t then recoverLease r.began row
  else
    match r.stale.lookup t with
    | none => row
    | some (account, value) =>
      if row.status = .confirmed &&
          (row.engineAccountId != account || row.multiplierBp != value) then
        recoverConfirmed r.began account value row
      else row

def recoverStalePricingJobs (db : Commerce) (r : Recovery) : Commerce :=
  { db with jobs := db.jobs.mapRows (recoverRow r) }

/-! ## The machine -/

/-- The call to the engine that one claim makes. -/
inductive Delivery where
  | unsent
  | inFlight
  | landed
deriving DecidableEq

/-- One claim of a worker and what became of it. -/
structure Attempt where
  job : ClaimedPricingJob
  /-- `locked_at` of the lease. -/
  claimedAt : Int
  delivery : Delivery
  /-- Its worker's verdict has committed. -/
  closed : Bool

structure Verdict where
  attempt : Nat
  kind : VerdictKind
  began : Int
  /-- The override, as the snapshot of the statement has it. -/
  snapshot : Option Int
  /-- Set once the statement has its locks. -/
  desired : Option Desired

/-- The tables and the workers. -/
structure World where
  db : Commerce
  clock : Int
  /-- Every claim so far. -/
  attempts : List Attempt
  /-- The claim each worker is at work on. -/
  current : Table String Nat
  /-- The verdict transaction each worker has open. -/
  verdicts : Table String Verdict
  recoveries : Table Nat Recovery
  /-- The engine account and value last delivered for each target. -/
  delivered : Table Target (String × Option Int)

/-- One step of an edit, a worker or the engine. -/
inductive WorldOp where
  | tick (d : Nat)
  /-- An edit whose transaction began at `began`. -/
  | edit (began : Int) (e : Edit)
  | claim (workerId : String) (began : Int) (locked : List Target)
  | send (workerId : String)
  /-- The call of an attempt takes effect at the engine. -/
  | land (attempt : Nat)
  | beginVerdict (workerId : String) (kind : VerdictKind)
  /-- The verdict gets the lock of the customer's account. -/
  | lockDesired (workerId : String)
  | commitVerdict (workerId : String)
  | abortVerdict (workerId : String)
  | crash (workerId : String)
  | beginRecover (sid : Nat)
  | commitRecover (sid : Nat)

def World.locked (s : World) (userId : String) : Bool :=
  s.verdicts.any (fun _ v => v.desired.isSome &&
    s.attempts[v.attempt]?.any (fun att => att.job.target.userId = userId))

def World.currentAttempt (s : World) (workerId : String) : Option (Nat × Attempt) :=
  (s.current.find? workerId).bind (fun a => s.attempts[a]?.map (fun att => (a, att)))

def World.setAttempt (s : World) (a : Nat) (att : Attempt) : World :=
  { s with attempts := s.attempts.set a att }

def World.applyEdit (s : World) (began : Int) (e : Edit) : World :=
  if s.locked e.userId then s
  else
    match e.apply s.db began with
    | .ok db => { s with db }
    | .error _ => s

def World.startAttempt (s : World) (db : Commerce) (workerId : String)
    (att : Attempt) : World :=
  { s with db
           attempts := s.attempts ++ [att]
           current := s.current.put workerId s.attempts.length }

def World.claim (s : World) (workerId : String) (began : Int) (locked : List Target) :
    World :=
  if (s.verdicts.find? workerId).isSome || s.clock < began then s
  else
    match claimNextPricingJob s.db began locked workerId with
    | (none, db) => { s with db, current := s.current.delete (fun w _ => w = workerId) }
    | (some job, db) => s.startAttempt db workerId ⟨job, began, .unsent, false⟩

/-- An account job without a multiplier is not sent. -/
def World.send (s : World) (workerId : String) : World :=
  match s.currentAttempt workerId with
  | none => s
  | some (a, att) =>
    if att.delivery = .unsent && !att.closed &&
        (s.verdicts.find? workerId).isNone &&
        (att.job.target.providerId.isSome || att.job.multiplierBp.isSome) then
      s.setAttempt a { att with delivery := .inFlight }
    else s

/-- A call takes effect before its lease expires, or not at all. -/
def World.land (s : World) (a : Nat) : World :=
  match s.attempts[a]? with
  | none => s
  | some att =>
    if att.delivery = .inFlight && s.clock ≤ att.claimedAt + leaseInterval then
      { s.setAttempt a { att with delivery := .landed } with
        delivered := s.delivered.put att.job.target
          (att.job.engineAccountId, att.job.multiplierBp) }
    else s

def World.beginVerdict (s : World) (workerId : String) (kind : VerdictKind) : World :=
  match s.currentAttempt workerId with
  | none => s
  | some (a, att) =>
    if (s.verdicts.find? workerId).isSome || (kind = .confirm && att.delivery != .landed) then s
    else
      { s with verdicts := s.verdicts.put workerId {
          attempt := a, kind, began := s.clock
          snapshot := att.job.target.providerId.bind
            (fun providerId => s.db.discounts.find? (att.job.target.userId, providerId))
          desired := none } }

def World.lockDesired (s : World) (workerId : String) : World :=
  match s.verdicts.find? workerId with
  | none => s
  | some v =>
    match s.attempts[v.attempt]? with
    | none => s
    | some att =>
      if v.desired.isSome || s.locked att.job.target.userId then s
      else
        { s with verdicts := s.verdicts.put workerId { v with
            desired := some (desiredPricingJobValue s.db v.snapshot att.job.target) } }

def World.dropVerdict (s : World) (workerId : String) : World :=
  { s with verdicts := s.verdicts.delete (fun w _ => w = workerId) }

def World.commitVerdict (s : World) (workerId : String) : World :=
  match s.verdicts.find? workerId with
  | none => s
  | some v =>
    match s.attempts[v.attempt]?, v.desired with
    | some att, some desired =>
      { (s.setAttempt v.attempt { att with closed := true }).dropVerdict workerId with
        db := writeVerdict s.db v.began att.job desired v.kind }
    | _, _ => s

/-- The process dies: its transaction is rolled back and its job forgotten. -/
def World.crash (s : World) (workerId : String) : World :=
  { s.dropVerdict workerId with
    current := s.current.delete (fun w _ => w = workerId) }

def World.commitRecover (s : World) (sid : Nat) : World :=
  match s.recoveries.find? sid with
  | none => s
  | some r =>
    { s with db := recoverStalePricingJobs s.db r
             recoveries := s.recoveries.delete (fun k _ => k = sid) }

def World.exec (s : World) : WorldOp → World
  | .tick d => { s with clock := s.clock + d }
  | .edit began e => s.applyEdit began e
  | .claim workerId began locked => s.claim workerId began locked
  | .send workerId => s.send workerId
  | .land a => s.land a
  | .beginVerdict workerId kind => s.beginVerdict workerId kind
  | .lockDesired workerId => s.lockDesired workerId
  | .commitVerdict workerId => s.commitVerdict workerId
  | .abortVerdict workerId => s.dropVerdict workerId
  | .crash workerId => s.crash workerId
  | .beginRecover sid =>
    { s with recoveries := s.recoveries.put sid (beginRecovery s.db s.clock) }
  | .commitRecover sid => s.commitRecover sid

/-! ## The conditions on a run -/

def World.timely (s : World) : WorldOp → Bool
  | .land a => s.attempts[a]?.all (fun att => !att.closed)
  | .lockDesired workerId =>
    (s.verdicts.find? workerId).all (fun v =>
      s.attempts[v.attempt]?.all (fun att =>
        att.job.target.providerId.all (fun providerId =>
          v.snapshot = s.db.discounts.find? (att.job.target.userId, providerId))))
  | _ => true

end ApiToken.PricingJobs
