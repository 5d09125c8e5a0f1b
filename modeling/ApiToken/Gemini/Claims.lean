import ApiToken.Gemini.Leases

/-!
# Claims

`pg/gemini_batch_claims.rs`: a worker claims a queued item with a slot of a
profile, records that it is about to send, records that it has sent, renews
or gives the claim back; a reconciler takes over from workers whose
heartbeat is dead. Every call is one transaction. `locked` are the items
that other transactions hold when a call skips locked rows.
-/

namespace ApiToken.Gemini

open Registry

/-- `GEMINI_BATCH_DISPATCH_LEADER`. -/
def dispatchLeader : String := "gemini_batch_dispatch"

/-- `GEMINI_BATCH_STANDARD_PROFILE_CAPACITY`. -/
def standardProfileCapacity : Nat := 2

/-- `GEMINI_BATCH_ULTRA_PROFILE_CAPACITY`. -/
def ultraProfileCapacity : Nat := 20

def leads (b : Batch) (owner : Owner) (ts : Int) : Bool :=
  (b.leaderLeases.find? dispatchLeader).any
    (fun row => row.owner == owner && decide (ts ≤ row.leaseUntil))

def BatchItem.fencedBy (item : BatchItem) (owner : Owner)
    (claim : GeminiBatchClaim) : Bool :=
  item.requestId == claim.requestId && item.worker.any (·.owner == owner)
    && item.claimGeneration == claim.claimGeneration
    && item.selectedProfileId == some claim.profileId

def BatchItem.leasedUntil (item : BatchItem) (leaseUntil ts : Int) : BatchItem :=
  { item with
    worker := item.worker.map (fun w => { w with leaseUntil }), updatedTs := ts }

def BatchItem.unsent (item : BatchItem) : Bool :=
  item.dispatchIntentTs.isNone && item.actualSendTs.isNone && item.actualSendEvidence.isNone

def BatchItem.unclaimed (item : BatchItem) (ts : Int) : BatchItem :=
  { item with
    state := .queued, worker := none, selectedProfileId := none, updatedTs := ts }

/-! ## Claiming -/

/-- A lease of the profile that `claim_gemini_batch_item` takes back: its
worker has no live heartbeat and its item is not past dispatch. -/
def reclaimable (b : Batch) (profileId : String) (ts : Int) (id : LeaseId) : Bool :=
  id.profileId == profileId && !ownerLive b.store id.worker ts
    && !(b.items.find? id.item).any (fun item =>
      item.worker.any (·.owner == id.worker)
        && item.claimGeneration == id.claimGeneration
        && (item.state == .dispatching || item.state == .settlementPending))

def freeSlot (t : LeaseTables) (profileId : String) (capacity : Nat) : Option Int :=
  if (t.slot1.find? profileId).isNone then some 1
  else if (t.slot2.find? profileId).isNone then some 2
  else ((List.range' 3 (capacity - 2)).map Int.ofNat).find?
    (fun slot => (t.extra.find? (profileId, slot)).isNone)

def occupied (t : LeaseTables) (profileId : String) : Nat :=
  (t.slot1.find? profileId).isSome.toNat + (t.slot2.find? profileId).isSome.toNat
    + (t.extra.rows.filter (fun x => x.1.1 == profileId)).length

def insertLease (t : LeaseTables) (profileId : String) (slot : Int)
    (l : ProfileLease) : Except Error LeaseTables := do
  failIf (profileId == "" || l.worker.instanceId == ""
    || decide (l.claimGeneration ≤ 0) || decide (l.createdTs ≤ 0)) (.sql "23514")
  if slot = 1 then
    let slot1 ← insertUnique t.slot1 profileId l
    return { t with slot1 }
  else if slot = 2 then
    let slot2 ← insertUnique t.slot2 profileId l
    return { t with slot2 }
  else
    let extra ← insertUnique t.extra (profileId, slot) l
    return { t with extra }

/-- The filter of the claim query. -/
def claimable (b : Batch) (ts : Int) (modelId : String)
    (locked : List (String × Int)) (key : String × Int) (item : BatchItem) : Bool :=
  item.state == .queued && decide (item.nextAttemptTs ≤ ts)
    && !locked.contains key
    && (b.jobs.find? key.1).any (fun job =>
      job.publicModel == modelId && job.cancelRequestedTs.isNone
        && job.completedTs.isNone && job.deleteTs.isNone
        && decide (ts < job.deadlineTs)
        && (b.store.accounts.find? job.accountId).any (·.status == "active")
        && b.store.apiKeys.any (fun _ k => k.accountId == job.accountId
          && k.keyId == item.creatorKeyId && k.status == "active"
          && k.expiresTs.all (ts < ·)))

/-- `COALESCE(MAX(updated_ts), 0)` of the owned items that are selected. -/
def latestOwned (b : Batch) (p : String × Int → Bool) : Int :=
  ((b.items.rows.filter (fun x => p x.1 && x.2.state.owned)).map (·.2.updatedTs)).max?.getD 0

def jobAccount (b : Batch) (jobId : String) : Option String :=
  (b.jobs.find? jobId).map (·.accountId)

def claimRank (b : Batch) (key : String × Int) : Int × Int × Int :=
  (latestOwned b (fun key' => jobAccount b key'.1 == jobAccount b key.1),
   latestOwned b (fun key' => key'.1 == key.1),
   ((b.jobs.find? key.1).map (·.createTs)).getD 0)

/-- `ORDER BY` the rank, the job and the index. -/
def claimOrder (b : Batch) (x y : (String × Int) × BatchItem) : Bool :=
  let (a₁, a₂, a₃) := claimRank b x.1
  let (b₁, b₂, b₃) := claimRank b y.1
  decide (a₁ < b₁) || (a₁ == b₁ && (decide (a₂ < b₂) || (a₂ == b₂
    && (decide (a₃ < b₃) || (a₃ == b₃ && (decide (x.1.1 < y.1.1)
      || (x.1.1 == y.1.1 && decide (x.1.2 ≤ y.1.2))))))))

/-- `GeminiBatchClaimedItem`: what the worker gets. -/
structure GeminiBatchClaimedItem where
  claim : GeminiBatchClaim
  publicModel : String
  requestBlob : GeminiBatchEncryptedBlob
  metadataBlob : Option GeminiBatchEncryptedBlob
  holdNano : Int
  payableMultiplierBp : Int
  creatorKeyId : String

def BatchItem.claimedBy (item : BatchItem) (owner : Owner) (profileId : String)
    (leaseUntil ts : Int) : BatchItem :=
  { item with
    state := .claimed, worker := some { owner, leaseUntil }
    claimGeneration := item.claimGeneration + 1
    selectedProfileId := some profileId, updatedTs := ts }

/-- `claim_gemini_batch_item` from the chosen item to the commit. -/
def claimChosen (b : Batch) (now : Nat → Int) (owner : Owner)
    (profileId : String) (leaseSecs slot : Int) (key : String × Int)
    (item : BatchItem) (job : BatchJob) :
    Except Error (Option (GeminiBatchClaimedItem × Batch)) := do
  let ts := now 0
  let leaseUntil := saturatingAdd ts (max leaseSecs 1)
  assertOwner b.store owner (now 3)
  if !leads b owner (now 4) then return none
  else do
    let b ← b.setItem key (item.claimedBy owner profileId leaseUntil ts)
    let leases ← insertLease b.leases profileId slot
      { jobId := key.1, itemIndex := key.2, worker := owner
        claimGeneration := item.claimGeneration + 1, leaseUntil
        createdTs := ts, updatedTs := ts }
    let request ← orFail (b.blobs.find? (key.1, key.2, .request))
      (.bail "claimed Gemini Batch item has no request blob")
    assertOwner b.store owner (now 5)
    return some
      ({ claim :=
           { jobId := key.1, accountId := job.accountId, itemIndex := key.2
             requestId := item.requestId
             claimGeneration := item.claimGeneration + 1, leaseUntil, profileId }
         publicModel := job.publicModel, requestBlob := request.blob
         metadataBlob := (b.blobs.find? (key.1, key.2, .metadata)).map (·.blob)
         holdNano := item.holdNano
         payableMultiplierBp := item.payableMultiplierBp
         creatorKeyId := item.creatorKeyId },
       { b with leases })

/-- `claim_gemini_batch_item`. `now` are its readings of the clock in order;
`none` is a rollback. -/
def claimGeminiBatchItem (b : Batch) (now : Nat → Int)
    (locked : List (String × Int)) (owner : Owner)
    (profileId modelId : String) (profileCapacity : Nat) (leaseSecs : Int) :
    Except Error (Option (GeminiBatchClaimedItem × Batch)) := do
  bailIf (profileId == "" || modelId == "") "Gemini Batch profile/model ID is empty"
  bailIf (!(profileCapacity == standardProfileCapacity
      || profileCapacity == ultraProfileCapacity))
    "Gemini Batch profile capacity is invalid"
  let ts := now 0
  assertOwner b.store owner ts
  assertOwner b.store owner (now 1)
  if !leads b owner (now 2) then return none
  else do
    let (_, leases) ← deleteLeases b.leases (reclaimable b profileId ts)
    if profileCapacity ≤ occupied leases profileId then return none
    else do
      let slot ← orFail (freeSlot leases profileId profileCapacity)
        (.bail "Gemini Batch profile slot inventory is inconsistent")
      match (b.items.select (claimable b ts modelId locked) (claimOrder b) 1).head? with
      | none => return none
      | some (key, item) =>
        match b.jobs.find? key.1 with
        | none => return none
        | some job =>
          claimChosen { b with leases } now owner profileId leaseSecs slot key item job

/-! ## The worker's calls -/

def BatchJob.isOpen (job : BatchJob) (ts : Int) : Bool :=
  job.cancelRequestedTs.isNone && job.terminalItemsTs.isNone
    && job.completedTs.isNone && job.deleteTs.isNone
    && decide (ts < job.deadlineTs)

def writeAndRenew (b : Batch) (owner : Owner) (claim : GeminiBatchClaim)
    (item : BatchItem) (leaseUntil ts : Int) : Except Error (Bool × Batch) := do
  let b' ← b.setItem claim.item item
  let (renewed, leases) ← renewGeminiBatchProfileLease b.leases claim owner leaseUntil ts
  if renewed = 1 then return (true, { b' with leases }) else return (false, b)

def BatchItem.dispatched (item : BatchItem) (leaseUntil ts : Int) : BatchItem :=
  { item.leasedUntil leaseUntil ts with
    state := .dispatching
    dispatchIntentTs := some (item.dispatchIntentTs.getD ts)
    actualSendEvidence := some (item.actualSendEvidence.getD .notSent)
    attemptCount := item.attemptCount + if item.dispatchIntentTs.isNone then 1 else 0 }

def markGeminiBatchDispatching (b : Batch) (ts : Int) (owner : Owner)
    (claim : GeminiBatchClaim) (leaseSecs : Int) : Except Error (Bool × Batch) := do
  let leaseUntil := saturatingAdd ts (max leaseSecs 1)
  assertOwner b.store owner ts
  match b.items.find? claim.item with
  | none => return (false, b)
  | some item =>
    if item.fencedBy owner claim
        && (item.state == .claimed || item.state == .dispatching)
        && (b.jobs.find? claim.jobId).any (·.isOpen ts)
        && b.leases.holds (claim.lease owner) then
      writeAndRenew b owner claim (item.dispatched leaseUntil ts) leaseUntil ts
    else return (false, b)

def BatchItem.sent (item : BatchItem) (leaseUntil ts : Int) : BatchItem :=
  { item.leasedUntil leaseUntil ts with
    actualSendTs := some (item.actualSendTs.getD ts)
    actualSendEvidence := some .sent }

def markGeminiBatchActualSend (b : Batch) (ts : Int) (owner : Owner)
    (claim : GeminiBatchClaim) (leaseSecs : Int) : Except Error (Bool × Batch) := do
  let leaseUntil := saturatingAdd ts (max leaseSecs 1)
  assertOwner b.store owner ts
  match b.items.find? claim.item with
  | none => return (false, b)
  | some item =>
    if item.fencedBy owner claim && item.state == .dispatching
        && item.dispatchIntentTs.isSome
        && (b.jobs.find? claim.jobId).any (·.isOpen ts)
        && leads b owner ts
        && b.leases.holds (claim.lease owner) then
      writeAndRenew b owner claim (item.sent leaseUntil ts) leaseUntil ts
    else return (false, b)

def renewGeminiBatchClaim (b : Batch) (ts : Int) (owner : Owner)
    (claim : GeminiBatchClaim) (leaseSecs : Int) : Except Error (Bool × Batch) := do
  let leaseUntil := saturatingAdd ts (max leaseSecs 1)
  assertOwner b.store owner ts
  let (renewed, leases) ← renewGeminiBatchProfileLease b.leases claim owner leaseUntil ts
  if renewed ≠ 1 then return (false, b)
  else match b.items.find? claim.item with
    | none => return (false, b)
    | some item =>
      if item.fencedBy owner claim && item.state.owned then do
        let b ← b.setItem claim.item (item.leasedUntil leaseUntil ts)
        return (true, { b with leases })
      else return (false, b)

def requeueGeminiBatchClaim (b : Batch) (ts : Int) (owner : Owner)
    (claim : GeminiBatchClaim) (nextAttemptTs : Int) :
    Except Error (Bool × Batch) := do
  assertOwner b.store owner ts
  match b.items.find? claim.item with
  | none => return (false, b)
  | some item =>
    if item.fencedBy owner claim && item.state == .claimed && item.unsent then do
      let b ← b.setItem claim.item { item.unclaimed ts with nextAttemptTs := max nextAttemptTs 0 }
      let (deleted, leases) ← deleteGeminiBatchProfileLease b.leases claim owner
      bailIf (deleted != 1) "Gemini Batch requeue profile lease is missing"
      return (true, { b with leases })
    else return (false, b)

/-- The states in which `release_gemini_batch_profile` gives a lease back. -/
def ItemState.releasable (s : ItemState) : Bool :=
  s == .settlementPending || s.isTerminal

def releaseGeminiBatchProfile (b : Batch) (ts : Int) (owner : Owner)
    (claim : GeminiBatchClaim) : Except Error (Bool × Batch) := do
  assertOwner b.store owner ts
  if (b.items.find? claim.item).any (fun item =>
      item.fencedBy owner claim && item.state.releasable) then do
    let (deleted, leases) ← deleteGeminiBatchProfileLease b.leases claim owner
    return (deleted == 1, { b with leases })
  else return (false, b)

/-! ## Reconciliation -/

structure GeminiBatchRecoveryCandidate where
  jobId : String
  accountId : String
  itemIndex : Int
  requestId : String
  claimGeneration : Int
  profileId : String
  holdNano : Int
  disposition : Disposition
  terminalState : ItemState
  terminalClass : TerminalClass
  actualSendEvidence : Option SendEvidence
deriving DecidableEq

def GeminiBatchRecoveryCandidate.item (c : GeminiBatchRecoveryCandidate) :
    String × Int := (c.jobId, c.itemIndex)

structure GeminiBatchReconcileReport where
  requeuedBeforeDispatch : Nat := 0
  recoveryCandidates : List GeminiBatchRecoveryCandidate := []

def leaseExpired (t : LeaseTables) (id : LeaseId) (ts : Int) : Bool :=
  t.slot1.any (fun k l => l.id k == id && decide (l.leaseUntil < ts))
    || t.slot2.any (fun k l => l.id k == id && decide (l.leaseUntil < ts))
    || t.extra.any (fun k l => l.id k.1 == id && decide (l.leaseUntil < ts))

/-- The filter of the reconcile query. An item has at most one lease, so the
join finds at most one row for it. -/
def expiredClaim (b : Batch) (ts : Int) (locked : List (String × Int))
    (key : String × Int) (item : BatchItem) : Bool :=
  (item.state == .claimed || item.state == .dispatching)
    && !locked.contains key && (b.jobs.find? key.1).isSome
    && item.worker.any (fun w => decide (w.leaseUntil < ts) && !ownerLive b.store w.owner ts)
    && (item.lease? key).any (fun id => leaseExpired b.leases id ts)

def recoveryDisposition (deadlineExpired cancelBeforeDispatch : Bool) :
    Disposition × TerminalClass :=
  if deadlineExpired then (.expire, .expired)
  else if cancelBeforeDispatch then (.cancel, .canceled)
  else (.indeterminate, .indeterminate)

def recoveryCandidate (ts : Int) (key : String × Int) (item : BatchItem)
    (job : BatchJob) (profileId : String) : GeminiBatchRecoveryCandidate :=
  let safeBeforeDispatch := item.state == .claimed && item.unsent
  let (disposition, terminalClass) := recoveryDisposition
    (decide (job.deadlineTs ≤ ts)) (job.cancelRequestedTs.isSome && safeBeforeDispatch)
  { jobId := key.1, accountId := job.accountId, itemIndex := key.2
    requestId := item.requestId, claimGeneration := item.claimGeneration
    profileId, holdNano := item.holdNano, disposition
    terminalState := if disposition = .indeterminate then .indeterminate else .canceled
    terminalClass
    actualSendEvidence :=
      if item.actualSendTs.isSome then some .sent
      else if item.dispatchIntentTs.isSome then some .ambiguous
      else item.actualSendEvidence }

def reconcileOne (ts : Int) (acc : GeminiBatchReconcileReport × Batch)
    (row : (String × Int) × BatchItem) :
    Except Error (GeminiBatchReconcileReport × Batch) :=
  let (key, item) := row
  let (report, b) := acc
  match item.worker, item.selectedProfileId, b.jobs.find? key.1 with
  | some w, some profileId, some job =>
    let claim : GeminiBatchClaim :=
      { jobId := key.1, accountId := job.accountId, itemIndex := key.2
        requestId := item.requestId, claimGeneration := item.claimGeneration
        leaseUntil := 0, profileId }
    if lockGeminiBatchProfileLease b.leases claim w.owner ≠ 1 then .ok acc
    else if item.state == .claimed && item.unsent
        && !decide (job.deadlineTs ≤ ts) && job.cancelRequestedTs.isNone then do
      let b ← b.setItem key (item.unclaimed ts)
      let (deleted, leases) ← deleteGeminiBatchProfileLease b.leases claim w.owner
      bailIf (deleted != 1) "Gemini Batch reconcile profile lease is missing"
      return ({ report with
          requeuedBeforeDispatch := report.requeuedBeforeDispatch + 1 },
        { b with leases })
    else
      .ok ({ report with
          recoveryCandidates := report.recoveryCandidates
            ++ [recoveryCandidate ts key item job profileId] }, b)
  | _, _, _ => .ok acc

/-- `ORDER BY item.updated_ts, item.job_id, item.item_index`. -/
def reconcileOrder (x y : (String × Int) × BatchItem) : Bool :=
  decide (x.2.updatedTs < y.2.updatedTs)
    || (x.2.updatedTs == y.2.updatedTs && (decide (x.1.1 < y.1.1)
      || (x.1.1 == y.1.1 && decide (x.1.2 ≤ y.1.2))))

def reconcileExpiredGeminiBatchClaims (b : Batch) (ts : Int)
    (locked : List (String × Int)) (limit : Nat) :
    Except Error (GeminiBatchReconcileReport × Batch) :=
  (b.items.select (expiredClaim b ts locked) reconcileOrder
    (max 1 (min limit 10000))).foldlM (reconcileOne ts) ({}, b)

end ApiToken.Gemini
