import ApiToken.Affinity.Infer
import ApiToken.Lib.Machine
import ApiToken.Lib.Threads

/-!
# The affinity store

`AffinityStore` of `forward/src/affinity.rs`: a local cache in each process and
a Redis they share. What runs under the local mutex is one action, and so is
one Redis command or script; anything else comes in between. A Redis command
whose caller stopped waiting, by a timeout or an error, may still be executed
later, and so may the commands of a pipeline. Entries of Redis may expire at
any time, so their times to live are left out.
-/

namespace ApiToken.Affinity

/-! ## Resolutions -/

inductive AffinitySource where
  | native | transcript | new

structure AffinityResolution where
  sessionId : String
  home : String
  source : AffinitySource
  accountTag : String

def sourceFor : AliasKind → AffinitySource
  | .native => .native
  | .transcript => .transcript

/-! ## The local cache -/

structure LocalAlias where
  sessionId : String
  expiresAt : Int

structure LocalSession where
  home : String
  expiresAt : Int

structure LocalState where
  aliases : Table String LocalAlias
  sessions : Table String LocalSession

def LocalState.empty : LocalState := ⟨.empty, .empty⟩

def localKey (accountTag value : String) : String := accountTag ++ ":" ++ value

/-- `DEFAULT_LOCAL_CAP`. -/
def localCap : Nat := 100000

def remove {ρ : Type} (t : Table String ρ) (key : String) : Table String ρ :=
  t.delete (fun key' _ => key' == key)

/-- `local_resolve`: the first alias with a live session. -/
def localResolve (accountTag : String) (now : Int) (state : LocalState) :
    List Alias → LocalState × Option AffinityResolution
  | [] => (state, none)
  | a :: rest =>
    let key := localKey accountTag a.digest
    match state.aliases.find? key with
    | none => localResolve accountTag now state rest
    | some binding =>
      let without := { state with aliases := remove state.aliases key }
      if binding.expiresAt ≤ now then localResolve accountTag now without rest
      else
        let sessionKey := localKey accountTag binding.sessionId
        match state.sessions.find? sessionKey with
        | none => localResolve accountTag now without rest
        | some session =>
          if session.expiresAt ≤ now then
            localResolve accountTag now
              { without with sessions := remove state.sessions sessionKey } rest
          else
            (state, some ⟨binding.sessionId, session.home, sourceFor a.kind, accountTag⟩)

def evict {ρ : Type} (t : Table String ρ) (full : Bool) (expiresAt : ρ → Int) (now : Int)
    (picked : List String) : Table String ρ :=
  if full then
    let live := t.delete (fun _ value => decide (expiresAt value ≤ now))
    if localCap ≤ live.rows.length then
      (picked.take (live.rows.length / 4 + 1)).foldl remove live
    else live
  else t

/-- What `local_store_resolution` makes of the session's entry. -/
def storeSession (state : LocalState) (key : String) (session : LocalSession)
    (overwrite : Bool) : Table String LocalSession :=
  match state.sessions.find? key with
  | some existing =>
    if overwrite then state.sessions.put key session
    else if existing.home = session.home then
      state.sessions.put key { existing with expiresAt := session.expiresAt }
    else state.sessions
  | none => state.sessions.put key session

def storeAlias (accountTag : String) (binding : LocalAlias) (overwriteTranscript : Bool)
    (aliases : Table String LocalAlias) (a : Alias) : Table String LocalAlias :=
  let key := localKey accountTag a.digest
  if a.kind = .native ∨ overwriteTranscript = true then aliases.put key binding
  else
    match aliases.find? key with
    | some _ => aliases
    | none => aliases.put key binding

def localStoreResolution (localTtlSecs now : Int) (picked : List String × List String)
    (state : LocalState) (input : AffinityInput) (resolution : AffinityResolution)
    (overwriteTranscript : Bool) : LocalState :=
  let expiresAt := Range.i64.saturated (now + localTtlSecs)
  let full := decide (localCap ≤ state.aliases.rows.length
    ∨ localCap ≤ state.sessions.rows.length)
  let state : LocalState :=
    { aliases := evict state.aliases full (·.expiresAt) now picked.1
      sessions := evict state.sessions full (·.expiresAt) now picked.2 }
  { sessions := storeSession state (localKey input.accountTag resolution.sessionId)
      ⟨resolution.home, expiresAt⟩ overwriteTranscript
    aliases := input.aliases.foldl
      (storeAlias input.accountTag ⟨resolution.sessionId, expiresAt⟩ overwriteTranscript)
      state.aliases }

def localRebind (localTtlSecs now : Int) (state : LocalState)
    (resolution : AffinityResolution) (oldHome : String) : LocalState :=
  let key := localKey resolution.accountTag resolution.sessionId
  match state.sessions.find? key with
  | some session =>
    if session.home = oldHome then
      { state with
        sessions := state.sessions.put key
          ⟨resolution.home, Range.i64.saturated (now + localTtlSecs)⟩ }
    else state
  | none => state

/-! ## Redis -/

def redisAliasKey (accountTag digest : String) : String :=
  "claude-api:aff:v1:\x7b" ++ accountTag ++ "\x7d:a:" ++ digest

def redisSessionKey (accountTag session : String) : String :=
  "claude-api:aff:v1:\x7b" ++ accountTag ++ "\x7d:s:" ++ session

/-- The commands and scripts. -/
inductive Cmd where
  | mget (keys : List String)
  | get (key : String)
  | set (key value : String)
  | setNx (key value : String)
  | expire (key : String)
  /-- The script of `redis_claim`. -/
  | claim (aliasKey sessionKey sessionId home : String)
  /-- Its clean-up script. -/
  | cleanup (aliasKey winner : String)
  /-- The script of `redis_rebind`. -/
  | rebind (sessionKey oldHome newHome : String)

/-- What an action comes to. -/
inductive Reply where
  | failed
  | unavailable
  | done
  | text (s : Option String)
  | texts (values : List (Option String))
  | number (n : Int)
  | found (resolution : Option AffinityResolution)

def Reply.found? : Reply → Option AffinityResolution
  | .found resolution => resolution
  | _ => none

abbrev Redis := Table String String

def putNx (redis : Redis) (key value : String) : Redis :=
  match redis.find? key with
  | some _ => redis
  | none => redis.put key value

def execute (redis : Redis) : Cmd → Redis × Reply
  | .mget keys => (redis, .texts (keys.map redis.find?))
  | .get key => (redis, .text (redis.find? key))
  | .set key value => (redis.put key value, .text (some "OK"))
  | .setNx key value =>
    (putNx redis key value, .text (if (redis.find? key).isSome then none else some "OK"))
  | .expire key => (redis, .number (if (redis.find? key).isSome then 1 else 0))
  | .claim aliasKey sessionKey sessionId home =>
    match redis.find? aliasKey with
    | some existing => (redis, .text (some existing))
    | none => ((putNx redis sessionKey home).put aliasKey sessionId, .text (some sessionId))
  | .cleanup aliasKey winner =>
    if redis.find? aliasKey = some winner then (remove redis aliasKey, .number 1)
    else (redis, .number 0)
  | .rebind sessionKey oldHome newHome =>
    match redis.find? sessionKey with
    | some current =>
      if current = oldHome then
        (redis.put sessionKey newHome, .text (some newHome))
      else (redis, .text (some current))
    | none => (redis.put sessionKey newHome, .text (some newHome))

/-! ## Actions -/

/-- A session that a request proposed. -/
structure Claim where
  process : Nat
  request : Request
  sessionId : String
  accountTag : String

inductive Action where
  | localResolve (input : AffinityInput)
  | localStore (input : AffinityInput) (resolution : AffinityResolution)
      (overwriteTranscript : Bool)
  /-- The local store of a new session; the request is kept for the record. -/
  | propose (input : AffinityInput) (resolution : AffinityResolution) (request : Request)
  | localRebind (resolution : AffinityResolution) (oldHome : String)
  /-- `connection`: whether there is one. -/
  | connect
  | redis (cmd : Cmd)
  | pipe (cmds : List Cmd)

/-- The processes' maps, Redis, and the claims so far. -/
structure Shared where
  locals : Nat → LocalState
  redis : Redis
  /-- Commands that were sent, and may be executed later. -/
  inFlight : List Cmd
  claims : List Claim

def Shared.start : Shared := ⟨fun _ => .empty, .empty, [], []⟩

/-- How an action goes: the time, whether Redis answers, and the entries that
a full cache drops. -/
structure Outcome where
  now : Int
  answered : Bool
  picked : List String × List String

structure Config where
  localTtlSecs : Int
  redisConfigured : Bool

def Shared.withLocal (s : Shared) (process : Nat) (state : LocalState) : Shared :=
  { s with locals := fun p => if p = process then state else s.locals p }

def perform (config : Nat → Config) (s : Shared) (action : Nat × Action) (o : Outcome) :
    Shared × Reply :=
  let (process, action) := action
  let state := s.locals process
  let ttl := (config process).localTtlSecs
  match action with
  | .localResolve input =>
    let (state', found) := localResolve input.accountTag o.now state input.resolutionAliases
    (s.withLocal process state', .found found)
  | .localStore input resolution overwriteTranscript =>
    (s.withLocal process (localStoreResolution ttl o.now o.picked state input resolution
      overwriteTranscript), .done)
  | .propose input resolution request =>
    ({ s.withLocal process
        (localStoreResolution ttl o.now o.picked state input resolution false) with
      claims := s.claims ++ [⟨process, request, resolution.sessionId, input.accountTag⟩] },
      .done)
  | .localRebind resolution oldHome =>
    (s.withLocal process (localRebind ttl o.now state resolution oldHome), .done)
  | .connect =>
    (s, if !(config process).redisConfigured then .unavailable
      else if o.answered then .done else .failed)
  | .redis cmd =>
    if o.answered then
      let (redis', reply) := execute s.redis cmd
      ({ s with redis := redis' }, reply)
    else ({ s with inFlight := s.inFlight ++ [cmd] }, .failed)
  | .pipe cmds =>
    ({ s with inFlight := s.inFlight ++ cmds }, if o.answered then .done else .failed)

/-- What happens to the caches, to Redis and to commands under way. -/
inductive Outside where
  | evictAlias (process : Nat) (key : String)
  | evictSession (process : Nat) (key : String)
  | expire (key : String)
  | execute (index : Nat)
  | lose (index : Nat)

def outside (s : Shared) : Outside → Shared
  | .evictAlias process key =>
    s.withLocal process { s.locals process with aliases := remove (s.locals process).aliases key }
  | .evictSession process key =>
    s.withLocal process
      { s.locals process with sessions := remove (s.locals process).sessions key }
  | .expire key => { s with redis := remove s.redis key }
  | .execute index =>
    match s.inFlight[index]? with
    | some cmd =>
      { s with redis := (execute s.redis cmd).1, inFlight := s.inFlight.eraseIdx index }
    | none => s
  | .lose index => { s with inFlight := s.inFlight.eraseIdx index }

/-! ## Operations -/

abbrev Op (α : Type) := Program (Nat × Action) Reply α

section Operations

variable (process : Nat)

def act (a : Action) : Op Reply := Program.call (process, a)

/-- The homes of the sessions that `MGET` found, until one has one. -/
def firstHome (accountTag : String) :
    List (Alias × Option String) → Op (Except Unit (Option AffinityResolution))
  | [] => pure (.ok none)
  | (_, none) :: rest => firstHome accountTag rest
  | (a, some sessionId) :: rest => do
      match ← act process (.redis (.get (redisSessionKey accountTag sessionId))) with
      | .text home =>
        match home.filter (fun home => !home.isEmpty) with
        | some home => pure (.ok (some ⟨sessionId, home, sourceFor a.kind, accountTag⟩))
        | none => firstHome accountTag rest
      | _ => pure (.error ())

def redisResolve (input : AffinityInput) :
    Op (Except Unit (Option AffinityResolution)) := do
  match ← act process .connect with
  | .unavailable => pure (.ok none)
  | .done =>
    let aliases := input.resolutionAliases
    match ← act process (.redis (.mget
      (aliases.map (fun a => redisAliasKey input.accountTag a.digest)))) with
    | .texts values => firstHome process input.accountTag (aliases.zip values)
    | _ => pure (.error ())
  | _ => pure (.error ())

def resolve (input : AffinityInput) : Op (Option AffinityResolution) := do
  match (← act process (.localResolve input)).found? with
  | some resolution => pure (some resolution)
  | none =>
    match (← redisResolve process input).toOption.join with
    | some resolution => do
        let _ ← act process (.localStore input resolution true)
        pure (some resolution)
    | none => pure none

def redisRemember (input : AffinityInput) (resolution : AffinityResolution) :
    Op (Except Unit Unit) := do
  match ← act process .connect with
  | .unavailable => pure (.ok ())
  | .done =>
    let sessionKey := redisSessionKey input.accountTag resolution.sessionId
    match ← act process (.redis (.setNx sessionKey resolution.home)) with
    | .text _ =>
      match ← act process (.redis (.expire sessionKey)) with
      | .number _ =>
        match ← act process (.pipe (input.aliases.map (fun a =>
          let key := redisAliasKey input.accountTag a.digest
          if a.kind = .native then .set key resolution.sessionId
          else .setNx key resolution.sessionId))) with
        | .done => pure (.ok ())
        | _ => pure (.error ())
      | _ => pure (.error ())
    | _ => pure (.error ())
  | _ => pure (.error ())

/-- The query of `redis_claim`: the winner, whose home must still be there. -/
def claimQuery (input : AffinityInput) (sessionId proposedHome : String) :
    Op (Except Unit (Option AffinityResolution)) := do
  let aliasKey := redisAliasKey input.accountTag input.primary.digest
  let sessionKey := redisSessionKey input.accountTag sessionId
  match ← act process (.redis (.claim aliasKey sessionKey sessionId proposedHome)) with
  | .text (some winner) =>
    match ← act process (.redis (.get (redisSessionKey input.accountTag winner))) with
    | .text (some home) =>
      pure (.ok (some ⟨winner, home,
        if input.primary.kind = .native then .native else .new, input.accountTag⟩))
    | .text none =>
      match ← act process (.redis (.cleanup aliasKey winner)) with
      | .number _ => pure (.ok none)
      | _ => pure (.error ())
    | _ => pure (.error ())
  | _ => pure (.error ())

def redisClaim (input : AffinityInput) (sessionId proposedHome : String) :
    Op (Except Unit (Option AffinityResolution)) := do
  match ← act process .connect with
  | .unavailable => pure (.ok none)
  | .done =>
    match ← claimQuery process input sessionId proposedHome with
    | .ok (some winner) => do
        let _ ← redisRemember process input winner
        pure (.ok (some winner))
    | result => pure result
  | _ => pure (.error ())

def claim (request : Request) (input : AffinityInput) (proposedHome : String) :
    Op AffinityResolution := do
  match (← act process (.localResolve input)).found? with
  | some resolution => pure resolution
  | none => do
      let resolution : AffinityResolution :=
        ⟨input.primary.digest, proposedHome, .new, input.accountTag⟩
      let _ ← act process (.propose input resolution request)
      match (← redisClaim process input resolution.sessionId proposedHome).toOption.join with
      | some winner => do
          let _ ← act process (.localStore input winner true)
          pure winner
      | none => pure resolution

def remember (input : AffinityInput) (resolution : AffinityResolution) : Op Unit := do
  let _ ← act process (.localStore input resolution false)
  let _ ← redisRemember process input resolution
  pure ()

def redisRebind (resolution : AffinityResolution) (oldHome : String) :
    Op (Except Unit (Option String)) := do
  match ← act process .connect with
  | .unavailable => pure (.ok none)
  | .done =>
    match ← act process (.redis (.rebind
      (redisSessionKey resolution.accountTag resolution.sessionId) oldHome
      resolution.home)) with
    | .text (some home) => pure (.ok (some home))
    | _ => pure (.error ())
  | _ => pure (.error ())

def rebind (resolution : AffinityResolution) (newHome : String) :
    Op AffinityResolution := do
  if resolution.home = newHome then pure resolution
  else
    let rebound := { resolution with home := newHome }
    let _ ← act process (.localRebind rebound resolution.home)
    match (← redisRebind process rebound resolution.home).toOption.join with
    | some sharedHome =>
      if sharedHome ≠ newHome then do
        let shared := { rebound with home := sharedHome }
        let _ ← act process (.localRebind shared newHome)
        pure shared
      else pure rebound
    | none => pure rebound

end Operations

/-! ## Requests -/

/-- What a request keeps between the calls it makes to the store. -/
structure Session where
  process : Nat
  request : Request
  input : Option AffinityInput
  resolution : Option AffinityResolution

inductive Call where
  | resolve
  | claim (proposedHome : String)
  | remember
  | rebind (newHome : String)

def Session.run (session : Session) : Call → Op (Option AffinityResolution)
  | .resolve =>
    match session.input with
    | some input => resolve session.process input
    | none => pure none
  | .claim proposedHome =>
    match session.input with
    | some input => do
        let resolution ← claim session.process session.request input proposedHome
        pure (some resolution)
    | none => pure none
  | .remember =>
    match session.input, session.resolution with
    | some input, some resolution => do
        remember session.process input resolution
        pure (some resolution)
    | _, resolution => pure resolution
  | .rebind newHome =>
    match session.resolution with
    | some resolution => do
        let resolution ← rebind session.process resolution newHome
        pure (some resolution)
    | none => pure none

/-- The processes: a request begins with `infer`. -/
def code (env : Env) (config : Nat → Config) :
    Threads.Code Shared Session (Nat × Action) Reply (Option AffinityResolution) Outcome
      (Nat × Request) Call Outside where
  start := fun (process, request) => ⟨process, request, env.infer process request, none⟩
  prog := Session.run
  finish := fun session resolution => { session with resolution := resolution }
  perform := perform config
  outside := outside

/-- Any number of processes and requests, from an empty Redis on. -/
def runFrom (env : Env) (config : Nat → Config)
    (events : List (Threads.Event (Nat × Request) Call Outcome Outside)) :
    Threads Shared Session (Nat × Action) Reply (Option AffinityResolution) :=
  run (Threads.exec (code env config)) { shared := .start, threads := .empty } events

end ApiToken.Affinity
