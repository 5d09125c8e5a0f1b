import ApiToken.Gemini.Settlement
import ApiToken.Registry.Steps

/-!
# The batch machine

Every call on the batch authority as one operation, in any order and by any
number of workers, over every operation of the billing authority. A call that
fails is rolled back.

`Transition` says once what a committed call can do to the items and to the
leases, the dispatch mark apart (`Dispatch`). A call is a dispatch mark, or a
sequence of transitions, after a loss of leases in two cases: a claim takes
back leases of dead workers, and a release gives one back
(`exec_transitions`).
-/

namespace ApiToken.Gemini

open Registry

/-- The calls. Each carries its readings of the clock. -/
inductive BatchOp where
  /-- Any call on the billing authority. -/
  | engine (op : Op)
  | acquireLeader (ts : Int) (owner : Owner) (name : String) (ttlSecs : Int)
  | publish (create : BatchCreate)
  | claim (now : Nat → Int) (locked : List (String × Int)) (owner : Owner)
      (profileId modelId : String) (profileCapacity : Nat) (leaseSecs : Int)
  | markDispatching (ts : Int) (owner : Owner) (claim : GeminiBatchClaim)
      (leaseSecs : Int)
  | markActualSend (ts : Int) (owner : Owner) (claim : GeminiBatchClaim)
      (leaseSecs : Int)
  | renew (ts : Int) (owner : Owner) (claim : GeminiBatchClaim) (leaseSecs : Int)
  | requeue (ts : Int) (owner : Owner) (claim : GeminiBatchClaim)
      (nextAttemptTs : Int)
  | release (ts : Int) (owner : Owner) (claim : GeminiBatchClaim)
  | reconcile (ts : Int) (locked : List (String × Int)) (limit : Nat)
  | cancel (ts : Int) (accountId jobId : String)
  | expireQueued (ts : Int) (locked : List String) (limit : Nat)
  | enqueue (now : Int) (owner : Owner) (claim : GeminiBatchClaim)
      (intent : GeminiBatchSettlementIntent)
  | enqueueRecovery (now : Int) (recovery : GeminiBatchRecoveryCandidate)
      (intent : GeminiBatchSettlementIntent)
  | process (ts : Int) (requestId : String)
  | recordFailure (ts : Int) (requestId : String) (err : Error)
  | delete (ts : Int) (accountId jobId : String)
  | finalizeOutput (completedTs : Int) (jobId : String)

def Batch.after {α : Type} (b : Batch) (state : α → Batch) :
    Except Error α → Batch
  | .ok a => state a
  | .error _ => b

/-- `acquire_leader` on the batch authority. -/
def acquireBatchLeader (b : Batch) (ts : Int) (owner : Owner) (name : String)
    (ttlSecs : Int) : Except Error Batch := do
  assertOwner b.store owner ts
  return { b with
    leaderLeases := (claimLeaderRow b.leaderLeases ts owner name ttlSecs).2 }

/-- One call. -/
def Batch.exec (b : Batch) : BatchOp → Batch
  | .engine op => { b with store := Registry.exec b.store op }
  | .acquireLeader ts owner name ttl =>
    b.after (fun b' => b') (acquireBatchLeader b ts owner name ttl)
  | .publish create => b.after (fun b' => b') (Gemini.publish b create)
  | .claim now locked owner profileId modelId capacity leaseSecs =>
    b.after (fun answer => answer.elim b (·.2))
      (claimGeminiBatchItem b now locked owner profileId modelId capacity leaseSecs)
  | .markDispatching ts owner claim leaseSecs =>
    b.after (·.2) (markGeminiBatchDispatching b ts owner claim leaseSecs)
  | .markActualSend ts owner claim leaseSecs =>
    b.after (·.2) (markGeminiBatchActualSend b ts owner claim leaseSecs)
  | .renew ts owner claim leaseSecs =>
    b.after (·.2) (renewGeminiBatchClaim b ts owner claim leaseSecs)
  | .requeue ts owner claim nextAttemptTs =>
    b.after (·.2) (requeueGeminiBatchClaim b ts owner claim nextAttemptTs)
  | .release ts owner claim => b.after (·.2) (releaseGeminiBatchProfile b ts owner claim)
  | .reconcile ts locked limit =>
    b.after (·.2) (reconcileExpiredGeminiBatchClaims b ts locked limit)
  | .cancel ts accountId jobId => b.after (·.2) (geminiBatchCancel b ts accountId jobId)
  | .expireQueued ts locked limit =>
    b.after (·.2) (expireQueuedGeminiBatch b ts locked limit)
  | .enqueue now owner claim intent =>
    b.after (fun b' => b') (enqueueGeminiBatchSettlement b now owner claim intent)
  | .enqueueRecovery now recovery intent =>
    b.after (fun b' => b') (enqueueGeminiBatchRecoverySettlement b now recovery intent)
  | .process ts requestId => b.after (·.2) (processGeminiBatchSettlement b ts requestId)
  | .recordFailure ts requestId err => recordSettlementFailure b ts requestId err
  | .delete ts accountId jobId => b.after (·.2) (geminiBatchDelete b ts accountId jobId)
  | .finalizeOutput completedTs jobId =>
    b.after (fun b' => b') (finalizeGeminiBatchOutput b completedTs jobId)

/-! ## Transitions -/

/-- No mark of a job is taken back. -/
structure BatchJob.Advances (job job' : BatchJob) : Prop where
  cancel : job.cancelRequestedTs.isSome = true → job'.cancelRequestedTs.isSome = true
  terminal : job.terminalItemsTs.isSome = true → job'.terminalItemsTs.isSome = true
  completed : job.completedTs.isSome = true → job'.completedTs.isSome = true
  deleted : job.deleteTs.isSome = true → job'.deleteTs.isSome = true

/-- What most calls leave alone: no settlement appears, the outputs stay,
jobs keep to their checks and stay closed. -/
structure Frame (b b' : Batch) : Prop where
  outbox : ∀ id row', b'.outbox.find? id = some row' →
    ∃ row, b.outbox.find? id = some row ∧ row.jobId = row'.jobId ∧
      row.itemIndex = row'.itemIndex ∧ row.terminalState = row'.terminalState
  outputs : ∀ jobId index kind, kind = .result ∨ kind = .error →
    b'.blobs.find? (jobId, index, kind) = b.blobs.find? (jobId, index, kind)
  jobs : ∀ id job, b'.jobs.find? id = some job →
    job.checked = true ∨ b.jobs.find? id = some job
  kept : ∀ id job, b.jobs.find? id = some job →
    ∃ job', b'.jobs.find? id = some job' ∧ job.Advances job'

/-- How an owned item is rewritten. -/
inductive Rewrite (item : BatchItem) : BatchItem → Prop where
  | renew (leaseUntil ts : Int) (h : item.state.owned = true) :
      Rewrite item (item.leasedUntil leaseUntil ts)
  | send (leaseUntil ts : Int) (h : item.state = .dispatching)
      (hintent : item.dispatchIntentTs.isSome = true) :
      Rewrite item (item.sent leaseUntil ts)

/-- One change of the items and the leases. -/
inductive Transition (b b' : Batch) : Prop where
  /-- Owners, the leader, jobs, money and bookkeeping. -/
  | world (frame : Frame b b') (items : b'.items = b.items)
      (leases : b'.leases.ids.Perm b.leases.ids)
  | publish (key : String × Int) (item : BatchItem) (frame : Frame b b')
      (job : (b.jobs.find? key.1).isSome = true)
      (absent : b.items.find? key = none)
      (fresh : ∀ key' item', b.items.find? key' = some item' →
        item'.requestId ≠ item.requestId)
      (queued : item.state = .queued) (unsent : item.unsent = true)
      (hold : item.holdNano = 0) (unended : item.terminalTs = none)
      (items : b'.items = b.items.put key item)
      (leases : b'.leases.ids = b.leases.ids)
  | rewrite (key : String × Int) (item item' : BatchItem) (frame : Frame b b')
      (find : b.items.find? key = some item) (step : Rewrite item item')
      (items : b'.items = b.items.put key item')
      (leases : b'.leases.ids = b.leases.ids)
  | claim (key : String × Int) (item : BatchItem) (owner : Owner)
      (profileId : String) (leaseUntil ts : Int) (frame : Frame b b')
      (find : b.items.find? key = some item) (queued : item.state = .queued)
      (named : profileId ≠ "")
      (items : b'.items
        = b.items.put key (item.claimedBy owner profileId leaseUntil ts))
      (leases : b'.leases.ids.Perm
        (⟨profileId, key.1, key.2, owner, item.claimGeneration + 1⟩
          :: b.leases.ids))
  | requeue (key : String × Int) (item : BatchItem) (id : LeaseId)
      (nextAttemptTs ts : Int) (frame : Frame b b')
      (find : b.items.find? key = some item) (claimed : item.state = .claimed)
      (unsent : item.unsent = true) (lease : item.lease? key = some id)
      (items : b'.items
        = b.items.put key { item.unclaimed ts with nextAttemptTs })
      (leases : b'.leases.ids.Perm (b.leases.ids.filter (fun x => !(x == id))))
  | cancel (key : String × Int) (item : BatchItem) (ts : Int)
      (frame : Frame b b') (find : b.items.find? key = some item)
      (state : item.state = .queued ∨ item.state = .claimed)
      (items : b'.items = b.items.put key (item.canceledAt ts))
      (leases : b'.leases.ids.Perm
        (b.leases.ids.filter (fun x => !(x.item == key))))
  | expire (key : String × Int) (item : BatchItem) (ts : Int)
      (frame : Frame b b') (find : b.items.find? key = some item)
      (queued : item.state = .queued)
      (items : b'.items = b.items.put key (item.expiredAt ts))
      (leases : b'.leases.ids = b.leases.ids)
  | pend (key : String × Int) (item : BatchItem) (ts : Int)
      (find : b.items.find? key = some item)
      (settleable : item.state.settleable = true)
      (items : b'.items = b.items.put key
        { item with
          state := .settlementPending, settlementId := some item.requestId
          updatedTs := ts })
      (leases : b'.leases = b.leases) (jobs : b'.jobs = b.jobs)
      (outbox : ∀ id row', b'.outbox.find? id = some row' →
        b.outbox.find? id = some row' ∨
          (id = item.requestId ∧ (row'.jobId, row'.itemIndex) = key ∧
            row'.terminalState.isTerminal = true))
      (outputs : ∀ jobId index kind, (jobId, index) ≠ key →
        b'.blobs.find? (jobId, index, kind) = b.blobs.find? (jobId, index, kind))
  | settle (key : String × Int) (item : BatchItem) (row : SettlementRow)
      (id : LeaseId) (ts : Int) (frame : Frame b b')
      (find : b.items.find? key = some item)
      (pending : item.state = .settlementPending)
      (terminal : row.terminalState.isTerminal = true)
      (lease : item.lease? key = some id)
      (items : b'.items = b.items.put key (item.settledAs row ts))
      (leases : b'.leases.ids.Perm (b.leases.ids.filter (fun x => !(x == id))))

def Dispatch (b b' : Batch) (key : String × Int) (generation : Int) : Prop :=
  ∃ (item : BatchItem) (leaseUntil ts : Int), b.items.find? key = some item ∧
    item.claimGeneration = generation ∧
    (item.state = .claimed ∨ item.state = .dispatching) ∧
    b'.items = b.items.put key (item.dispatched leaseUntil ts) ∧
    b'.leases.ids = b.leases.ids ∧ Frame b b'

def dispatchMark (b : Batch) : BatchOp → Option ((String × Int) × Int)
  | .markDispatching ts owner claim leaseSecs =>
    match markGeminiBatchDispatching b ts owner claim leaseSecs with
    | .ok (true, _) => some (claim.item, claim.claimGeneration)
    | _ => none
  | _ => none

/-- Leases go and nothing else changes. -/
def Loss (b b' : Batch) : Prop :=
  ∃ (t : LeaseTables) (q : LeaseId → Bool), b' = { b with leases := t } ∧
    t.ids.Perm (b.leases.ids.filter (fun id => !q id))

/-- Any number of transitions. -/
abbrev Transitions (b b' : Batch) : Prop := Relation.ReflTransGen Transition b b'

theorem Transition.once {b b' : Batch} (h : Transition b b') : Transitions b b' :=
  .single h

theorem BatchJob.Advances.refl (job : BatchJob) : job.Advances job :=
  ⟨fun h => h, fun h => h, fun h => h, fun h => h⟩

theorem BatchJob.Advances.trans {j1 j2 j3 : BatchJob} (h : j1.Advances j2)
    (h' : j2.Advances j3) : j1.Advances j3 where
  cancel := fun hset => h'.cancel (h.cancel hset)
  terminal := fun hset => h'.terminal (h.terminal hset)
  completed := fun hset => h'.completed (h.completed hset)
  deleted := fun hset => h'.deleted (h.deleted hset)

/-! ## A sample job -/

/-- An empty ciphertext. -/
def sampleBlob (kind : BlobKind) : GeminiBatchEncryptedBlob :=
  { kind, keyId := "k", nonce := List.replicate 24 0
    ciphertext := List.replicate 16 0, plaintextLen := 0, plaintextDigest := []
    retentionTs := 5000 }

/-- A job with one item, due at 1000. -/
def sampleCreate : BatchCreate :=
  { jobId := "job", accountId := "acct", creatorKeyId := "key-id"
    publicModel := "model", inputKind := .inline, createTs := 100
    deadlineTs := 1000
    items := [{ itemIndex := 0, requestId := "req", payableMultiplierBp := 10000
                requestBlob := sampleBlob .request, metadataBlob := none }] }

/-- One worker leads and claims the item; its own lease lasts a minute. -/
def sampleStart : List BatchOp :=
  [.engine (.claimInstance 100 "east" 60),
   .acquireLeader 100 ⟨"east", 1⟩ dispatchLeader 60, .publish sampleCreate,
   .claim (fun _ => 101) [] ⟨"east", 1⟩ "profile" "model" 2 30]

def sampleClaim : GeminiBatchClaim :=
  { jobId := "job", accountId := "acct", itemIndex := 0, requestId := "req"
    claimGeneration := 1, leaseUntil := 131, profileId := "profile" }

end ApiToken.Gemini
