import ApiToken.Lib.Threads
import ApiToken.Meter.Usage

/-!
# The history store

`HistoryStore` of `forward/src/codex/history.rs`: a local map in each process
and a Redis they share, whose values are sealed. What runs under the local
mutex is one action, and so is one Redis command; anything else comes in
between. A command whose caller stopped waiting may still be executed later.

The cipher is ideal: a sealed value opens under its own key and associated
data, and nothing else opens. The keyed hash and the JSON library are
parameters.
-/

namespace ApiToken.History

open Meter (Value)

/-! ## Values -/

structure StoredHistory where
  responseId : String
  model : String
  items : List Value
  createdAt : Int
  inputCount : Option Nat
  response : Option Value

inductive HistoryError where
  | notFound
  | wrongTenant
  | tooLarge
  | corrupt
  | unavailable

abbrev Tag := List UInt8
abbrev Seed := List UInt8

structure LocalEntry where
  scopeTag : Tag
  history : StoredHistory
  expiresAt : Nat

structure RedisEnvelope where
  scopeTag : Tag
  history : StoredHistory

/-- A value in Redis. -/
inductive Blob where
  | sealed (seed : Seed) (aad : String) (plaintext : List UInt8)
  | other (bytes : List UInt8)

def Blob.decrypt (seed : Seed) (aad : String) : Blob → Option (List UInt8)
  | .sealed seed' aad' plaintext => if seed' = seed ∧ aad' = aad then some plaintext else none
  | .other _ => none

structure RedisEntry where
  blob : Blob
  deadline : Nat

def redisKey (responseId : String) : String := "claude-api:codex-history:v1:" ++ responseId

def maxSerializedHistoryBytes : Nat := 256 * 1024 * 1024

/-- The libraries: the hash of a tenant's scope under the key of a seed, and
JSON. -/
structure Env where
  scopeTag : Seed → String → Tag
  toVec : RedisEnvelope → Option (List UInt8)
  fromSlice : List UInt8 → Option RedisEnvelope

/-- A process: what its keys are derived from, the retention and the size of
its map as `new` has clamped them, and whether it has a Redis. -/
structure Config where
  seed : Seed
  ttlSecs : Nat
  localCap : Nat
  redisConfigured : Bool

/-! ## The shared state -/

/-- A `SET` of a put: the process whose key and retention it has, and what is
under the seal. -/
inductive Cmd where
  | set (process : Nat) (tenant : String) (history : StoredHistory) (plaintext : List UInt8)
  | get (key : String)
  | del (key : String)

structure Write where
  tenant : String
  history : StoredHistory
  time : Nat
  ttlSecs : Nat

def Write.deadline (w : Write) : Nat := w.time + w.ttlSecs * 1000

/-- What a run may go wrong by. -/
inductive Lapse where
  /-- A second put under an id. -/
  | reused
  /-- A get keeps what Redis had for longer than the put's retention time. -/
  | refreshed
  /-- A get or a put under way stores a response that is deleted. -/
  | revived
  /-- A delete reports success while there is a copy left. -/
  | left
deriving DecidableEq

/-- The processes' maps, Redis, and what was put, deleted and lapsed. -/
structure Shared where
  locals : Table Nat (Table String LocalEntry)
  redis : Table String RedisEntry
  /-- Commands that were sent, and may be executed later. -/
  inFlight : List Cmd
  /-- Milliseconds. -/
  now : Nat
  writes : List Write
  deleted : List String
  lapses : List Lapse

def Shared.start : Shared := ⟨.empty, .empty, [], 0, [], [], []⟩

/-- `pool::now`. -/
def Shared.secs (s : Shared) : Nat := s.now / 1000

def Shared.mapOf (s : Shared) (process : Nat) : Table String LocalEntry :=
  (s.locals.find? process).getD .empty

def Shared.withLocal (s : Shared) (process : Nat) (state : Table String LocalEntry) : Shared :=
  { s with locals := s.locals.put process state }

def Shared.wasPut (s : Shared) (id : String) : Bool :=
  s.writes.any fun w => w.history.responseId = id

def Shared.isDeleted (s : Shared) (id : String) : Bool := id ∈ s.deleted

def Shared.note (s : Shared) (lapse : Lapse) (b : Bool) : Shared :=
  if b then { s with lapses := lapse :: s.lapses } else s

/-- A local map or Redis has the response. -/
def Shared.hasCopy (s : Shared) (id : String) : Bool :=
  s.locals.any (fun _ t => (t.find? id).any (fun e => s.secs < e.expiresAt)) ||
    (s.redis.find? (redisKey id)).any (fun e => s.now < e.deadline)

/-! ## The local map -/

def remove {ρ : Type} (t : Table String ρ) (key : String) : Table String ρ :=
  t.delete fun key' _ => key' == key

def oldest (t : Table String LocalEntry) : List String :=
  (t.rows.filter fun row => t.rows.all fun row' => row.2.expiresAt ≤ row'.2.expiresAt).map
    Prod.fst

/-- `local_put`: the expired go first, then an oldest entry if the map is full. -/
def localPut (localCap now expiresAt picked : Nat) (tag : Tag) (history : StoredHistory)
    (t : Table String LocalEntry) : Table String LocalEntry :=
  let live := t.delete fun _ e => e.expiresAt ≤ now
  let room :=
    if localCap ≤ live.rows.length ∧ (live.find? history.responseId).isNone then
      match (oldest live)[picked % (oldest live).length]? with
      | some id => remove live id
      | none => live
    else live
  room.put history.responseId ⟨tag, history, expiresAt⟩

def localGet (now : Nat) (id : String) (t : Table String LocalEntry) :
    Table String LocalEntry × Option LocalEntry :=
  match t.find? id with
  | some e => if e.expiresAt ≤ now then (remove t id, none) else (t, some e)
  | none => (t, none)

/-! ## Actions -/

/-- Whose `local_put` it is. -/
inductive Writer where
  | put
  | get

inductive Action where
  /-- The beginning of a call. -/
  | begin (id : String)
  | localGet (id : String)
  | localPut (tenant : String) (history : StoredHistory) (writer : Writer)
  | localRemove (id : String)
  /-- `connection`: whether there is one. -/
  | connect
  /-- The random bytes of `encrypt`. -/
  | nonce
  | redis (cmd : Cmd)
  /-- A delete is about to report success. -/
  | deleted (id : String)

/-- What an action comes to. -/
inductive Reply where
  | failed
  | unavailable
  | done
  | entry (e : Option LocalEntry)
  | blob (b : Option Blob)
  | began (now : Nat) (deleted : Bool)

/-- How an action goes: whether Redis, or the source of random bytes, answers,
and which of the oldest entries a full map drops. -/
structure Outcome where
  answered : Bool
  picked : Nat

section Perform

variable (env : Env) (config : Nat → Config)

/-- A command at Redis. -/
def execute (s : Shared) : Cmd → Shared × Reply
  | .set process tenant history plaintext =>
    let ttl := (config process).ttlSecs
    let id := history.responseId
    let s := s.note .revived (s.isDeleted id)
    ({ s with
        redis := s.redis.put (redisKey id)
          ⟨.sealed (config process).seed id plaintext, s.now + ttl * 1000⟩
        writes := ⟨tenant, history, s.now, ttl⟩ :: s.writes }, .done)
  | .get key =>
    match s.redis.find? key with
    | some e => (s, .blob (if s.now < e.deadline then some e.blob else none))
    | none => (s, .blob none)
  | .del key => ({ s with redis := remove s.redis key }, .done)

/-- `local_put` of a put: a write. -/
def writeLocal (s : Shared) (process : Nat) (tenant : String) (history : StoredHistory)
    (picked : Nat) : Shared :=
  let c := config process
  let s := s.note .reused (s.wasPut history.responseId)
  { s.withLocal process (localPut c.localCap s.secs (min (s.secs + c.ttlSecs) (2 ^ 63 - 1))
      picked (env.scopeTag c.seed tenant) history (s.mapOf process)) with
    writes := ⟨tenant, history, s.now, c.ttlSecs⟩ :: s.writes }

/-- `local_put` of a get: a copy of what Redis had, with a deadline of its
own. -/
def refreshLocal (s : Shared) (process : Nat) (tenant : String) (history : StoredHistory)
    (picked : Nat) : Shared :=
  let c := config process
  let expiresAt := min (s.secs + c.ttlSecs) (2 ^ 63 - 1)
  let s := s.note .revived (s.isDeleted history.responseId)
  let s := s.note .refreshed (!s.writes.any fun w =>
    w.history.responseId = history.responseId ∧ expiresAt * 1000 ≤ w.deadline)
  s.withLocal process (localPut c.localCap s.secs expiresAt picked
    (env.scopeTag c.seed tenant) history (s.mapOf process))

def perform (s : Shared) (action : Nat × Action) (o : Outcome) : Shared × Reply :=
  let (process, action) := action
  match action with
  | .begin id => (s, .began s.now (s.isDeleted id))
  | .localGet id =>
    let (t, found) := localGet s.secs id (s.mapOf process)
    (s.withLocal process t, .entry found)
  | .localPut tenant history .put =>
    (writeLocal env config s process tenant history o.picked, .done)
  | .localPut tenant history .get =>
    (refreshLocal env config s process tenant history o.picked, .done)
  | .localRemove id => (s.withLocal process (remove (s.mapOf process) id), .done)
  | .connect =>
    (s, if !(config process).redisConfigured then .unavailable
      else if o.answered then .done else .failed)
  | .nonce => (s, if o.answered then .done else .failed)
  | .redis cmd =>
    if o.answered then execute config s cmd
    else ({ s with inFlight := cmd :: s.inFlight }, .failed)
  | .deleted id => ({ s.note .left (s.hasCopy id) with deleted := id :: s.deleted }, .done)

/-- What happens to the clock, the maps, Redis and commands under way. -/
inductive Outside where
  | tick (ms : Nat)
  | evict (process : Nat) (id : String)
  | expire (key : String)
  /-- Redis has a value that no put sealed. -/
  | overwrite (key : String) (bytes : List UInt8) (deadline : Nat)
  | execute (index : Nat)
  | lose (index : Nat)

def outside (s : Shared) : Outside → Shared
  | .tick ms => { s with now := s.now + ms }
  | .evict process id => s.withLocal process (remove (s.mapOf process) id)
  | .expire key => { s with redis := remove s.redis key }
  | .overwrite key bytes deadline =>
    { s with redis := s.redis.put key ⟨.other bytes, deadline⟩ }
  | .execute index =>
    match s.inFlight[index]? with
    | some cmd => (execute config { s with inFlight := s.inFlight.eraseIdx index } cmd).1
    | none => s
  | .lose index => { s with inFlight := s.inFlight.eraseIdx index }

end Perform

/-! ## Operations -/

abbrev Op (α : Type) := Program (Nat × Action) Reply α

section Operations

variable (env : Env) (config : Nat → Config) (process : Nat)

def act (a : Action) : Op Reply := Program.call (process, a)

/-- The sealed half of `put`. -/
def putShared (tenant : String) (history : StoredHistory) (plaintext : List UInt8) :
    Op (Except HistoryError Unit) := do
  match ← act process .connect with
  | .unavailable => pure (.ok ())
  | .done =>
    match ← act process .nonce with
    | .done =>
      match ← act process (.redis (.set process tenant history plaintext)) with
      | .done => pure (.ok ())
      | _ => pure (.error .unavailable)
    | _ => pure (.error .unavailable)
  | _ => pure (.error .unavailable)

def put (tenant : String) (history : StoredHistory) : Op (Except HistoryError Unit) :=
  match env.toVec ⟨env.scopeTag (config process).seed tenant, history⟩ with
  | none => pure (.error .corrupt)
  | some plaintext =>
    if plaintext.length > maxSerializedHistoryBytes then pure (.error .tooLarge)
    else do
      let _ ← act process (.localPut tenant history .put)
      putShared process tenant history plaintext

/-- What a get makes of a value from Redis. -/
def readShared (tenant id : String) (blob : Blob) : Except HistoryError StoredHistory :=
  match blob.decrypt (config process).seed id with
  | none => .error .corrupt
  | some plaintext =>
    match env.fromSlice plaintext with
    | none => .error .corrupt
    | some envelope =>
      if envelope.scopeTag ≠ env.scopeTag (config process).seed tenant then
        .error .wrongTenant
      else if envelope.history.responseId ≠ id then .error .corrupt
      else .ok envelope.history

/-- The shared half of `get`. -/
def getShared (tenant id : String) : Op (Except HistoryError StoredHistory) := do
  match ← act process .connect with
  | .unavailable => pure (.error .notFound)
  | .done =>
    match ← act process (.redis (.get (redisKey id))) with
    | .blob none => pure (.error .notFound)
    | .blob (some blob) =>
      match readShared env config process tenant id blob with
      | .error error => pure (.error error)
      | .ok history => do
          let _ ← act process (.localPut tenant history .get)
          pure (.ok history)
    | _ => pure (.error .unavailable)
  | _ => pure (.error .unavailable)

def get (tenant id : String) : Op (Except HistoryError StoredHistory) := do
  match ← act process (.localGet id) with
  | .entry (some entry) =>
    if entry.scopeTag ≠ env.scopeTag (config process).seed tenant then
      pure (.error .wrongTenant)
    else pure (.ok entry.history)
  | _ => getShared env config process tenant id

/-- The second half of `delete`. -/
def deleteShared (id : String) : Op (Except HistoryError Unit) := do
  let _ ← act process (.localRemove id)
  match ← act process .connect with
  | .unavailable => do
      let _ ← act process (.deleted id)
      pure (.ok ())
  | .done =>
    match ← act process (.redis (.del (redisKey id))) with
    | .done => do
        let _ ← act process (.deleted id)
        pure (.ok ())
    | _ => pure (.error .unavailable)
  | _ => pure (.error .unavailable)

def delete (tenant id : String) : Op (Except HistoryError Unit) := do
  match ← get env config process tenant id with
  | .error error => pure (.error error)
  | .ok _ => deleteShared process id

end Operations

/-! ## Callers -/

inductive Call where
  | put (tenant : String) (history : StoredHistory)
  | get (tenant id : String)
  | delete (tenant id : String)

def Call.id : Call → String
  | .put _ history => history.responseId
  | .get _ id | .delete _ id => id

/-- The record of a call: when it began, whether a delete of its response had
reported success by then, and its result. -/
structure Answer where
  call : Call
  begun : Nat
  deletedBefore : Bool
  result : Except HistoryError (Option StoredHistory)

def Call.run (env : Env) (config : Nat → Config) (process : Nat) :
    Call → Op (Except HistoryError (Option StoredHistory))
  | .put tenant history => do
      let result ← History.put env config process tenant history
      pure (result.map fun _ => none)
  | .get tenant id => do
      let result ← History.get env config process tenant id
      pure (result.map some)
  | .delete tenant id => do
      let result ← History.delete env config process tenant id
      pure (result.map fun _ => none)

structure Caller where
  process : Nat
  answers : List Answer

def Caller.prog (env : Env) (config : Nat → Config) (caller : Caller) (call : Call) :
    Op Answer := do
  match ← act caller.process (.begin call.id) with
  | .began now deleted => do
      let result ← call.run env config caller.process
      pure ⟨call, now, deleted, result⟩
  | _ => pure ⟨call, 0, false, .error .unavailable⟩

/-- Any number of processes and callers. -/
def code (env : Env) (config : Nat → Config) :
    Threads.Code Shared Caller (Nat × Action) Reply Answer Outcome Nat Call Outside where
  start := fun process => ⟨process, []⟩
  prog := Caller.prog env config
  finish := fun caller answer => { caller with answers := answer :: caller.answers }
  perform := perform env config
  outside := outside config

def runFrom (env : Env) (config : Nat → Config)
    (events : List (Threads.Event Nat Call Outcome Outside)) :
    Threads Shared Caller (Nat × Action) Reply Answer :=
  run (Threads.exec (code env config)) { shared := .start, threads := .empty } events

end ApiToken.History
