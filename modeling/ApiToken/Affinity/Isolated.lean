import ApiToken.Affinity.Store

/-!
# Native ids isolate sessions

The invariant is about keys: wherever an entry of a local cache or of Redis has
the key of a native id of an account, it names a session that a request of the
account with the id has claimed. Every write of an alias is of a request's own
alias, and digests tell the aliases of accounts, native ids and transcripts
apart, so that every action keeps it.
-/

namespace ApiToken.Affinity

variable {p' q : Nat} {b d d' tag value key key' : String} {a : Alias}
  {binding : LocalAlias} {ρ α : Type} {now ttl : Int} {overwrite : Bool}
  {picked : List String × List String} {state : LocalState}
  {resolution : AffinityResolution} {redis : Redis} {cmd : Cmd} {c : Claim}

/-! ## Keys -/

def Env.accountTag (env : Env) (process : Nat) (scope : String) : String :=
  env.digestParts process "account" [scope]

structure NativeDigest (env : Env) (process : Nat) (value digest : String) : Prop where
  valid : validNativeId value = true
  stems : ∃ m, NativeFrame value m ∧ digest = hexDigest (env.keyed process m)

variable {env : Env} {p : Nat}

theorem Env.accountTag_inj (hinj : env.Injective) {a : String}
    (h : env.accountTag p a = env.accountTag p' b) : a = b :=
  framed_inj (hinj _ _ _ _ (hexDigest_inj h))

theorem NativeDigest.inj (hinj : env.Injective) {a : String} (h : NativeDigest env p a d)
    (h' : NativeDigest env p' b d) : a = b := by
  obtain ⟨m, hm, hd⟩ := h.stems
  obtain ⟨m', hm', hd'⟩ := h'.stems
  have heq := hinj _ _ _ _ (hexDigest_inj (hd.symm.trans hd'))
  exact hm.inj h.valid h'.valid (heq ▸ hm')

theorem mem_digestParts {domain : String} {parts : List String} {c : Char}
    (h : c ∈ (env.digestParts p domain parts).toList) : c ≠ ':' ∧ c ≠ '\x7d' :=
  mem_hexDigest h

def LocalNative (env : Env) (tag value key : String) : Prop :=
  ∃ p d q scope, tag = env.accountTag q scope ∧ NativeDigest env p value d ∧ key = localKey tag d

def RedisNative (env : Env) (tag value key : String) : Prop :=
  ∃ p d q scope, tag = env.accountTag q scope ∧ NativeDigest env p value d ∧
    key = redisAliasKey tag d

theorem tagged_inj {a : String} {c : Char} {s t : List Char} (hc : c = ':' ∨ c = '\x7d')
    (h : (env.accountTag p a).toList ++ c :: s = (env.accountTag p' b).toList ++ c :: t) :
    env.accountTag p a = env.accountTag p' b ∧ s = t := by
  have hnot : ∀ q x, c ∉ (env.accountTag q x).toList := by
    intro q x hmem
    have hne := mem_digestParts hmem
    rcases hc with rfl | rfl
    · exact hne.1 rfl
    · exact hne.2 rfl
  obtain ⟨htag, hrest⟩ := append_cons_inj (hnot p a) (hnot p' b) h
  exact ⟨String.toList_inj.mp htag, hrest⟩

theorem localKey_inj {a : String}
    (h : localKey (env.accountTag p a) d = localKey (env.accountTag p' b) d') :
    env.accountTag p a = env.accountTag p' b ∧ d = d' := by
  have h := congrArg String.toList h
  have hcolon : (":" : String).toList = [':'] := by decide
  simp only [localKey, String.toList_append, hcolon, append_assoc, List.singleton_append] at h
  obtain ⟨htag, hd⟩ := tagged_inj (.inl rfl) h
  exact ⟨htag, String.toList_inj.mp hd⟩

theorem redisAliasKey_toList (tag d : String) :
    (redisAliasKey tag d).toList =
      "claude-api:aff:v1:\x7b".toList ++
        (tag.toList ++ '\x7d' :: ([':', 'a', ':'] ++ d.toList)) := by
  have hclose : ("\x7d:a:" : String).toList = '\x7d' :: [':', 'a', ':'] := by decide
  unfold redisAliasKey
  rw [String.toList_append, String.toList_append, String.toList_append, hclose]
  generalize ("claude-api:aff:v1:\x7b" : String).toList = p
  simp

theorem redisSessionKey_toList (tag d : String) :
    (redisSessionKey tag d).toList =
      "claude-api:aff:v1:\x7b".toList ++
        (tag.toList ++ '\x7d' :: ([':', 's', ':'] ++ d.toList)) := by
  have hclose : ("\x7d:s:" : String).toList = '\x7d' :: [':', 's', ':'] := by decide
  unfold redisSessionKey
  rw [String.toList_append, String.toList_append, String.toList_append, hclose]
  generalize ("claude-api:aff:v1:\x7b" : String).toList = p
  simp

theorem redisAliasKey_inj {a : String}
    (h : redisAliasKey (env.accountTag p a) d = redisAliasKey (env.accountTag p' b) d') :
    env.accountTag p a = env.accountTag p' b ∧ d = d' := by
  have h := congrArg String.toList h
  rw [redisAliasKey_toList, redisAliasKey_toList] at h
  obtain ⟨htag, hd⟩ := tagged_inj (.inr rfl) (append_cancel_left h)
  exact ⟨htag, String.toList_inj.mp (append_cancel_left hd)⟩

theorem redisSessionKey_ne {a : String} :
    redisSessionKey (env.accountTag p a) d ≠ redisAliasKey (env.accountTag p' b) d' := by
  intro h
  have h := congrArg String.toList h
  rw [redisAliasKey_toList, redisSessionKey_toList] at h
  obtain ⟨-, hd⟩ := tagged_inj (.inr rfl) (append_cancel_left h)
  have hsecond := (List.cons.inj (List.cons.inj hd).2).1
  exact absurd hsecond (by decide)

/-! ## The invariant -/

def Claimed (s : Shared) (tag value sessionId : String) : Prop :=
  ∃ c ∈ s.claims, c.accountTag = tag ∧ c.request.nativeId = some value ∧ c.sessionId = sessionId

def Suits (env : Env) (p : Nat) (s : Shared) (r : Request) (sessionId : String) : Prop :=
  ∀ value, r.nativeId = some value → Claimed s (env.accountTag p r.accountScope) value sessionId

def RedisEntry (env : Env) (s : Shared) (key sessionId : String) : Prop :=
  ∀ tag value, RedisNative env tag value key → Claimed s tag value sessionId

def LocalEntry (env : Env) (s : Shared) (key sessionId : String) : Prop :=
  ∀ tag value, LocalNative env tag value key → Claimed s tag value sessionId

def Cmd.writes : Cmd → List (String × String)
  | .set key value => [(key, value)]
  | .setNx key value => [(key, value)]
  | .claim aliasKey sessionKey sessionId home => [(aliasKey, sessionId), (sessionKey, home)]
  | .rebind sessionKey _ newHome => [(sessionKey, newHome)]
  | _ => []

def Cmd.Writes (env : Env) (s : Shared) (cmd : Cmd) : Prop :=
  ∀ key value, (key, value) ∈ cmd.writes → RedisEntry env s key value

/-- Whatever is stored or on its way stems from a claim. -/
structure Inv (env : Env) (s : Shared) : Prop where
  locals : ∀ p key binding, (s.locals p).aliases.find? key = some binding →
    LocalEntry env s key binding.sessionId
  redis : ∀ key sessionId, s.redis.find? key = some sessionId →
    RedisEntry env s key sessionId
  inFlight : ∀ cmd ∈ s.inFlight, cmd.Writes env s
  /-- A session is named after the first alias of the request that claimed it. -/
  claims : ∀ c ∈ s.claims, ∃ input, Inferred env c.process c.request input ∧
    c.sessionId = input.primary.digest ∧ c.accountTag = input.accountTag

def protocol (env : Env) : Program.Protocol Shared where
  inv := Inv env
  later := fun s t => s.claims ⊆ t.claims
  refl := fun _ _ h => h
  trans := fun h h' _ hmem => h' (h hmem)

section Invariant

variable {env : Env} {s t : Shared}

variable {sessionId : String}

theorem Claimed.later (h : Claimed s tag value sessionId) (hlater : s.claims ⊆ t.claims) :
    Claimed t tag value sessionId := by
  obtain ⟨c, hc, hrest⟩ := h
  exact ⟨c, hlater hc, hrest⟩

theorem Suits.later {r : Request} (h : Suits env p s r sessionId) (hlater : s.claims ⊆ t.claims) :
    Suits env p t r sessionId :=
  fun value hvalue => (h value hvalue).later hlater

theorem RedisEntry.later (h : RedisEntry env s key sessionId) (hlater : s.claims ⊆ t.claims) :
    RedisEntry env t key sessionId :=
  fun tag value hkey => (h tag value hkey).later hlater

theorem LocalEntry.later (h : LocalEntry env s key sessionId) (hlater : s.claims ⊆ t.claims) :
    LocalEntry env t key sessionId :=
  fun tag value hkey => (h tag value hkey).later hlater

theorem inv_start : Inv env Shared.start where
  locals := nofun
  redis := nofun
  inFlight := nofun
  claims := nofun

end Invariant

/-! ## A request's own aliases -/

section Writes

variable {env : Env} {s : Shared} {p : Nat} {r : Request} {input : AffinityInput}
  {sessionId : String}

section

variable (hinj : env.Injective) (h : Inferred env p r input)
include hinj h

theorem Inferred.native_eq (ha : a ∈ input.aliases)
    (hdigest : NativeDigest env q value a.digest) :
    r.nativeId = some value := by
  have hstems := h.aliases a ha
  cases hstems with
  | native hid hvalid hm =>
    have hmine : NativeDigest env p _ (hexDigest (env.keyed p _)) := ⟨hvalid, _, hm, rfl⟩
    rw [hid, hmine.inj hinj hdigest]
  | transcript hm =>
    obtain ⟨m, hnative, heq⟩ := hdigest.stems
    have hsame := hinj _ _ _ _ (hexDigest_inj heq)
    exact absurd (hsame ▸ hnative) hm.not_native

theorem Inferred.localEntry (hsuits : Suits env p s r sessionId) (ha : a ∈ input.aliases) :
    LocalEntry env s (localKey input.accountTag a.digest) sessionId := by
  rintro tag value ⟨p', d, q, scope, rfl, hdigest, hkey⟩
  rw [h.accountTag] at hkey
  obtain ⟨htag, rfl⟩ := localKey_inj hkey
  rw [← htag]
  exact hsuits value (h.native_eq hinj ha hdigest)

theorem Inferred.redisEntry (hsuits : Suits env p s r sessionId) (ha : a ∈ input.aliases) :
    RedisEntry env s (redisAliasKey input.accountTag a.digest) sessionId := by
  rintro tag value ⟨p', d, q, scope, rfl, hdigest, hkey⟩
  rw [h.accountTag] at hkey
  obtain ⟨htag, rfl⟩ := redisAliasKey_inj hkey
  rw [← htag]
  exact hsuits value (h.native_eq hinj ha hdigest)

end

theorem redisEntry_session {scope : String} (id home : String) :
    RedisEntry env s (redisSessionKey (env.accountTag p scope) id) home := by
  rintro tag value ⟨p', d, q, scope', rfl, -, hkey⟩
  exact absurd hkey redisSessionKey_ne

theorem Inferred.suits_of_local (h : Inferred env p r input) (hinv : Inv env s)
    (ha : a ∈ input.resolutionAliases)
    (hfind : (s.locals q).aliases.find? (localKey input.accountTag a.digest) = some binding) :
    Suits env p s r binding.sessionId := by
  intro value hvalue
  obtain ⟨hvalid, m, hm, hd⟩ := h.resolutionAliases hvalue ha
  refine hinv.locals q _ binding hfind _ value
    ⟨p, a.digest, p, r.accountScope, rfl, ⟨hvalid, m, hm, hd⟩, ?_⟩
  rw [h.accountTag]
  rfl

theorem Inferred.suits_of_redis (h : Inferred env p r input) (hinv : Inv env s)
    (ha : a ∈ input.resolutionAliases)
    (hfind : s.redis.find? (redisAliasKey input.accountTag a.digest) = some sessionId) :
    Suits env p s r sessionId := by
  intro value hvalue
  obtain ⟨hvalid, m, hm, hd⟩ := h.resolutionAliases hvalue ha
  refine hinv.redis _ sessionId hfind _ value
    ⟨p, a.digest, p, r.accountScope, rfl, ⟨hvalid, m, hm, hd⟩, ?_⟩
  rw [h.accountTag]
  rfl

theorem AffinityInput.primary_mem (input : AffinityInput) :
    input.primary ∈ input.resolutionAliases := by
  unfold AffinityInput.resolutionAliases
  have hmem : input.primary ∈ input.aliases := List.head_mem input.nonempty
  split
  · rename_i hnative
    obtain ⟨a, rest, haliases⟩ := List.exists_cons_of_ne_nil input.nonempty
    have ha : input.primary = a := by simp [AffinityInput.primary, haliases]
    rw [ha] at hnative ⊢
    simp [haliases, hnative]
  · exact hmem

end Writes

/-! ## The local cache -/

theorem find?_remove {t : Table String ρ} {v : ρ} (h : (remove t key).find? key' = some v) :
    t.find? key' = some v := by
  rw [remove, find?_delete] at h
  exact h.1

theorem find?_evict {t : Table String ρ} {full : Bool} {expiresAt : ρ → Int}
    {picked : List String} {v : ρ}
    (h : (evict t full expiresAt now picked).find? key = some v) :
    t.find? key = some v := by
  have hfold : ∀ (keys : List String) (t : Table String ρ),
      (keys.foldl remove t).find? key = some v → t.find? key = some v := by
    intro keys
    induction keys with
    | nil => exact fun _ h => h
    | cons _ _ ih => exact fun t h => find?_remove (ih _ h)
  have hlive : ∀ t : Table String ρ,
      (t.delete (fun _ value => decide (expiresAt value ≤ now))).find? key = some v →
        t.find? key = some v := by
    intro t h
    rw [find?_delete] at h
    exact h.1
  unfold evict at h
  split at h
  · dsimp only at h
    split at h
    · exact hlive t (hfold _ _ h)
    · exact hlive t h
  · exact h

theorem localResolve_spec (tag : String) (now : Int) (aliases : List Alias)
    (state : LocalState) :
    (∀ key b, (localResolve tag now state aliases).1.aliases.find? key = some b →
      state.aliases.find? key = some b) ∧
    ∀ resolution, (localResolve tag now state aliases).2 = some resolution →
      resolution.accountTag = tag ∧
        ∃ a ∈ aliases, ∃ b, state.aliases.find? (localKey tag a.digest) = some b ∧
          b.sessionId = resolution.sessionId := by
  induction aliases generalizing state with
  | nil => exact ⟨fun _ _ h => h, nofun⟩
  | cons a rest ih =>
    -- whatever state the rest is resolved in, it holds no new entry
    have hrest : ∀ state' : LocalState,
        (∀ key b, state'.aliases.find? key = some b → state.aliases.find? key = some b) →
        (∀ key b, (localResolve tag now state' rest).1.aliases.find? key = some b →
          state.aliases.find? key = some b) ∧
        ∀ resolution, (localResolve tag now state' rest).2 = some resolution →
          resolution.accountTag = tag ∧
            ∃ a' ∈ a :: rest, ∃ b, state.aliases.find? (localKey tag a'.digest) = some b ∧
              b.sessionId = resolution.sessionId := by
      intro state' hsub
      obtain ⟨hkeep, hfound⟩ := ih state'
      refine ⟨fun key b h => hsub key b (hkeep key b h), fun resolution h => ?_⟩
      obtain ⟨htag, a', ha', b, hb, hid⟩ := hfound resolution h
      exact ⟨htag, a', mem_cons_of_mem _ ha', b, hsub _ b hb, hid⟩
    have hwithout : ∀ key b, (remove state.aliases (localKey tag a.digest)).find? key =
        some b → state.aliases.find? key = some b := fun _ _ h => find?_remove h
    unfold localResolve
    dsimp only
    split
    · exact hrest state (fun _ _ h => h)
    · rename_i binding hbinding
      split
      · exact hrest _ hwithout
      · split
        · exact hrest _ hwithout
        · split
          · exact hrest _ hwithout
          · refine ⟨fun _ _ h => h, ?_⟩
            rintro resolution ⟨⟩
            exact ⟨rfl, a, mem_cons_self .., binding, hbinding, rfl⟩

theorem find?_storeAlias {b : LocalAlias} {t : Table String LocalAlias}
    (h : (storeAlias tag binding overwrite t a).find? key = some b) :
    t.find? key = some b ∨ key = localKey tag a.digest ∧ b = binding := by
  have hput : (t.put (localKey tag a.digest) binding).find? key = some b →
      t.find? key = some b ∨ key = localKey tag a.digest ∧ b = binding := by
    intro h
    rcases find?_put_cases h with ⟨hkey, hb⟩ | hold
    · exact .inr ⟨hkey, hb⟩
    · exact .inl hold
  unfold storeAlias at h
  dsimp only at h
  split at h
  · exact hput h
  · split at h
    · exact .inl h
    · exact hput h

theorem localStoreResolution_aliases {input : AffinityInput} {b : LocalAlias}
    (h : (localStoreResolution ttl now picked state input resolution overwrite).aliases.find? key
      = some b) :
    state.aliases.find? key = some b ∨
      ∃ a ∈ input.aliases, key = localKey input.accountTag a.digest ∧
        b.sessionId = resolution.sessionId := by
  have hfold : ∀ (binding : LocalAlias) (aliases : List Alias) (t : Table String LocalAlias),
      (aliases.foldl (storeAlias input.accountTag binding overwrite) t).find? key = some b →
        t.find? key = some b ∨
          ∃ a ∈ aliases, key = localKey input.accountTag a.digest ∧ b = binding := by
    intro binding aliases
    induction aliases with
    | nil => exact fun _ h => .inl h
    | cons a _ ih =>
      intro t h
      rcases ih _ h with h | ⟨a', ha', hkey, hb⟩
      · rcases find?_storeAlias h with h | ⟨hkey, hb⟩
        · exact .inl h
        · exact .inr ⟨a, mem_cons_self .., hkey, hb⟩
      · exact .inr ⟨a', mem_cons_of_mem _ ha', hkey, hb⟩
  rcases hfold _ _ _ h with h | ⟨a, ha, hkey, hb⟩
  · exact .inl (find?_evict h)
  · exact .inr ⟨a, ha, hkey, by rw [hb]⟩

theorem localRebind_aliases (ttl now : Int) (state : LocalState)
    (resolution : AffinityResolution) (oldHome : String) :
    (localRebind ttl now state resolution oldHome).aliases = state.aliases := by
  unfold localRebind
  dsimp only
  split
  · split
    · rfl
    · rfl
  · rfl

/-! ## Redis -/

theorem find?_putNx {v : String} (h : (putNx redis key value).find? key' = some v) :
    redis.find? key' = some v ∨ key' = key ∧ v = value := by
  unfold putNx at h
  split at h
  · exact .inl h
  · rcases find?_put_cases h with hnew | hold
    · exact .inr hnew
    · exact .inl hold

theorem writes_nothing {s : Shared} (h : cmd.writes = []) : cmd.Writes env s := by
  intro key value hmem
  rw [h] at hmem
  cases hmem

theorem execute_writes {v : String} (h : (execute redis cmd).1.find? key = some v) :
    redis.find? key = some v ∨ (key, v) ∈ cmd.writes := by
  have hput : ∀ {redis : Redis} {key' v' : String}, (redis.put key' v').find? key = some v →
      redis.find? key = some v ∨ (key, v) = (key', v') := by
    intro redis key' v' h
    rcases find?_put_cases h with ⟨rfl, rfl⟩ | hold
    · exact .inr rfl
    · exact .inl hold
  cases cmd with
  | mget keys | get key' | expire key' => exact .inl h
  | set =>
    rcases hput h with hold | hnew
    · exact .inl hold
    · exact .inr (by simp [Cmd.writes, hnew])
  | setNx =>
    rcases find?_putNx h with hold | ⟨hkey, hv⟩
    · exact .inl hold
    · exact .inr (by simp [Cmd.writes, hkey, hv])
  | claim =>
    simp only [execute] at h
    split at h
    · exact .inl h
    · rcases hput h with hold | hnew
      · rcases find?_putNx hold with hold | ⟨hkey, hv⟩
        · exact .inl hold
        · exact .inr (by simp [Cmd.writes, hkey, hv])
      · exact .inr (by simp [Cmd.writes, hnew])
  | cleanup =>
    simp only [execute] at h
    split at h
    · exact .inl (find?_remove h)
    · exact .inl h
  | rebind =>
    simp only [execute] at h
    split at h
    · split at h
      · rcases hput h with hold | hnew
        · exact .inl hold
        · exact .inr (by simp [Cmd.writes, hnew])
      · exact .inl h
    · rcases hput h with hold | hnew
      · exact .inl hold
      · exact .inr (by simp [Cmd.writes, hnew])

/-! ## Actions -/

def Action.Safe (env : Env) (p : Nat) (r : Request) (s : Shared) : Action → Prop
  | .localResolve input => Inferred env p r input
  | .localStore input resolution _ =>
    Inferred env p r input ∧ Suits env p s r resolution.sessionId
  | .propose input resolution request =>
    request = r ∧ Inferred env p r input ∧ resolution.sessionId = input.primary.digest
  | .localRebind _ _ | .connect => True
  | .redis cmd => cmd.Writes env s
  | .pipe cmds => ∀ cmd ∈ cmds, cmd.Writes env s

section Actions

variable {env : Env} {config : Nat → Config} {s t : Shared} {p : Nat} {r : Request}

theorem Inv.withLocal (h : Inv env s)
    (hstate : ∀ key binding, state.aliases.find? key = some binding →
      LocalEntry env s key binding.sessionId) : Inv env (s.withLocal p state) where
  locals := by
    intro q key binding hfind
    simp only [Shared.withLocal] at hfind
    split at hfind
    · exact hstate key binding hfind
    · exact h.locals q key binding hfind
  redis := h.redis
  inFlight := h.inFlight
  claims := h.claims

theorem Inv.claim (h : Inv env s) (hc : ∃ input, Inferred env c.process c.request input ∧
      c.sessionId = input.primary.digest ∧ c.accountTag = input.accountTag) :
    Inv env { s with claims := s.claims ++ [c] } := by
  have hlater : s.claims ⊆ s.claims ++ [c] := List.subset_append_left _ _
  exact {
    locals := fun q key binding hfind => (h.locals q key binding hfind).later hlater
    redis := fun key id hfind => (h.redis key id hfind).later hlater
    inFlight := fun cmd hcmd key value hkv => (h.inFlight cmd hcmd key value hkv).later hlater
    claims := fun c' hc' => by
      rcases mem_append.mp hc' with hold | hnew
      · exact h.claims c' hold
      · rw [mem_singleton.mp hnew]
        exact hc }

theorem Inv.send (h : Inv env s) {cmds : List Cmd} (hcmds : ∀ cmd ∈ cmds, cmd.Writes env s) :
    Inv env { s with inFlight := s.inFlight ++ cmds } where
  locals := h.locals
  redis := h.redis
  inFlight := fun cmd hcmd => by
    rcases mem_append.mp hcmd with hold | hnew
    · exact h.inFlight cmd hold
    · exact hcmds cmd hnew
  claims := h.claims

theorem Inv.execute (h : Inv env s) (hcmd : cmd.Writes env s) :
    Inv env { s with redis := (execute s.redis cmd).1 } where
  locals := h.locals
  redis := fun key id hfind => by
    rcases execute_writes hfind with hold | hnew
    · exact h.redis key id hold
    · exact hcmd key id hnew
  inFlight := h.inFlight
  claims := h.claims

theorem suits_claim (hc : c ∈ t.claims) (hrequest : c.request = r)
    (htag : c.accountTag = env.accountTag p r.accountScope) : Suits env p t r c.sessionId :=
  fun _ hvalue => ⟨c, hc, htag, by rw [hrequest, hvalue], rfl⟩

theorem Inv.store (hinj : env.Injective) (h : Inv env s) {input : AffinityInput}
    (hinput : Inferred env p r input) (hsuits : Suits env p s r resolution.sessionId) :
    Inv env (s.withLocal p (localStoreResolution ttl now picked (s.locals p) input resolution
      overwrite)) := by
  refine h.withLocal (fun key binding hfind => ?_)
  rcases localStoreResolution_aliases hfind with hold | ⟨a, ha, rfl, hid⟩
  · exact h.locals p key binding hold
  · rw [hid]
    exact hinput.localEntry hinj hsuits ha

theorem perform_safe (config : Nat → Config) (hinj : env.Injective) (h : Inv env s)
    {action : Action} (hsafe : action.Safe env p r s) (o : Outcome) :
    Inv env (perform config s (p, action) o).1 ∧
      s.claims ⊆ (perform config s (p, action) o).1.claims := by
  have hsame : s.claims ⊆ s.claims := fun _ h => h
  cases action with
  | localResolve input =>
    have hspec := localResolve_spec input.accountTag o.now input.resolutionAliases (s.locals p)
    exact ⟨h.withLocal fun key b hfind => h.locals p key b (hspec.1 key b hfind), hsame⟩
  | localStore => exact ⟨h.store hinj hsafe.1 hsafe.2, hsame⟩
  | propose input resolution request =>
    obtain ⟨hrequest, hinput, hid⟩ := hsafe
    have hlater : s.claims ⊆ s.claims ++ [⟨p, request, resolution.sessionId,
        input.accountTag⟩] := List.subset_append_left _ _
    have hclaimed : Inv env { s with
        claims := s.claims ++ [⟨p, request, resolution.sessionId, input.accountTag⟩] } :=
      h.claim ⟨input, hrequest ▸ hinput, hid, rfl⟩
    refine ⟨hclaimed.store (p := p) hinj hinput ?_, hlater⟩
    have hmem : ⟨p, request, resolution.sessionId, input.accountTag⟩ ∈
        s.claims ++ [⟨p, request, resolution.sessionId, input.accountTag⟩] := by
      simp
    exact suits_claim (c := ⟨p, request, resolution.sessionId, input.accountTag⟩) hmem hrequest
      hinput.accountTag
  | localRebind =>
    refine ⟨h.withLocal fun key b hfind => ?_, hsame⟩
    rw [localRebind_aliases] at hfind
    exact h.locals p key b hfind
  | connect => exact ⟨h, hsame⟩
  | redis =>
    simp only [perform]
    split
    · exact ⟨h.execute hsafe, hsame⟩
    · exact ⟨h.send (fun cmd' hcmd' => by rw [mem_singleton.mp hcmd']; exact hsafe), hsame⟩
  | pipe => exact ⟨h.send hsafe, hsame⟩

theorem outside_safe (h : Inv env s) (e : Outside) :
    Inv env (outside s e) ∧ s.claims ⊆ (outside s e).claims := by
  have hsame : s.claims ⊆ s.claims := fun _ h => h
  cases e with
  | evictAlias q =>
    exact ⟨h.withLocal fun key' b hfind => h.locals q key' b (find?_remove hfind), hsame⟩
  | evictSession q => exact ⟨h.withLocal fun key' b hfind => h.locals q key' b hfind, hsame⟩
  | expire =>
    exact ⟨{ h with redis := fun key' id hfind => h.redis key' id (find?_remove hfind) }, hsame⟩
  | execute index =>
    simp only [outside]
    split
    · rename_i cmd hcmd
      have hsafe := h.inFlight cmd (mem_of_getElem? hcmd)
      have hdone := h.execute hsafe
      exact ⟨{ hdone with
        inFlight := fun cmd' hcmd' => h.inFlight cmd' (List.mem_of_mem_eraseIdx hcmd') }, hsame⟩
    · exact ⟨h, hsame⟩
  | lose =>
    exact ⟨{ h with
      inFlight := fun cmd hcmd => h.inFlight cmd (List.mem_of_mem_eraseIdx hcmd) }, hsame⟩

end Actions

/-! ## Programs -/

section Programs

variable {env : Env} {config : Nat → Config} {s : Shared} {p : Nat} {r : Request}
  {input : AffinityInput}

/-- The rule, for the programs of a request. -/
abbrev Keeps (env : Env) (config : Nat → Config) {α : Type} (Q : α → Shared → Prop)
    (op : Op α) (s : Shared) : Prop :=
  Program.Keeps (perform config) (protocol env) Q op s

theorem keeps_pure {Q : α → Shared → Prop} {a : α} (h : ∀ t, s.claims ⊆ t.claims → Q a t) :
    Keeps env config Q (pure a) s := h

theorem keeps_act (hinj : env.Injective) {Q : Reply → Shared → Prop} {a : Action}
    (hsafe : ∀ t, s.claims ⊆ t.claims → Inv env t → a.Safe env p r t)
    (hreply : ∀ t o, s.claims ⊆ t.claims → Inv env t → ∀ u,
      (perform config t (p, a) o).1.claims ⊆ u.claims → Q (perform config t (p, a) o).2 u) :
    Keeps env config Q (act p a) s := by
  intro t ht hinv o
  obtain ⟨hinv', hlater⟩ := perform_safe config hinj hinv (hsafe t ht hinv) o
  exact ⟨hinv', hlater, hreply t o ht hinv⟩

theorem keeps_silent (hinj : env.Injective) {a : Action}
    (hsafe : ∀ t, s.claims ⊆ t.claims → Inv env t → a.Safe env p r t) :
    Keeps env config (fun _ t => s.claims ⊆ t.claims) (act p a) s := by
  intro t ht hinv o
  obtain ⟨hinv', hlater⟩ := perform_safe config hinj hinv (hsafe t ht hinv) o
  exact ⟨hinv', hlater, fun u hu => List.Subset.trans (List.Subset.trans ht hlater) hu⟩

theorem keeps_read (r : Request) (hinj : env.Injective) (h : cmd.writes = []) :
    Keeps env config (fun _ t => s.claims ⊆ t.claims) (act p (.redis cmd)) s :=
  keeps_silent hinj (r := r) (fun _ _ _ => writes_nothing h)

/-- The resolution is one that a request of the same session claimed. -/
structure Resolves (env : Env) (p : Nat) (r : Request) (resolution : AffinityResolution)
    (s : Shared) : Prop where
  accountTag : resolution.accountTag = env.accountTag p r.accountScope
  suits : Suits env p s r resolution.sessionId

theorem Resolves.later {t : Shared} (h : Resolves env p r resolution s)
    (hlater : s.claims ⊆ t.claims) : Resolves env p r resolution t :=
  ⟨h.accountTag, h.suits.later hlater⟩

/-- What an operation may answer. -/
def MayResolve (env : Env) (p : Nat) (r : Request) (found : Option AffinityResolution)
    (s : Shared) : Prop :=
  ∀ resolution ∈ found, Resolves env p r resolution s

theorem keeps_localResolve (hinj : env.Injective) (h : Inferred env p r input) :
    Keeps env config (fun reply t => MayResolve env p r reply.found? t)
      (act p (.localResolve input)) s := by
  refine keeps_act hinj (r := r) (fun _ _ _ => h) (fun t o ht hinv u hu resolution hmem => ?_)
  obtain ⟨htag, a, ha, b, hb, hid⟩ := (localResolve_spec input.accountTag o.now
    input.resolutionAliases (t.locals p)).2 resolution hmem
  refine ⟨htag.trans h.accountTag, ?_⟩
  rw [← hid]
  exact (h.suits_of_local hinv ha hb).later hu

/-- The sessions that `MGET` found suit the request. -/
theorem keeps_firstHome (hinj : env.Injective) (h : Inferred env p r input)
    {found : List (Alias × Option String)}
    (hfound : ∀ a sessionId, (a, some sessionId) ∈ found → Suits env p s r sessionId) :
    Keeps env config
      (fun result t => ∀ found, result = .ok found → MayResolve env p r found t)
      (firstHome p input.accountTag found) s := by
  induction found generalizing s with
  | nil =>
    refine keeps_pure (fun t _ found hok => ?_)
    cases hok
    exact nofun
  | cons entry rest ih =>
    obtain ⟨a, value⟩ := entry
    have hrest : ∀ t, s.claims ⊆ t.claims → ∀ a sessionId, (a, some sessionId) ∈ rest →
        Suits env p t r sessionId :=
      fun t ht a id hmem => (hfound a id (mem_cons_of_mem _ hmem)).later ht
    cases value with
    | none => exact ih (hrest s fun _ h => h)
    | some sessionId =>
      have hsuits := hfound a sessionId (mem_cons_self ..)
      refine Program.keeps_bind ((keeps_read r hinj rfl).mono (fun reply t ht => ?_))
      cases reply with
      | text =>
        dsimp only
        split
        · refine keeps_pure (fun u hu found hok => ?_)
          cases hok
          rintro resolution ⟨⟩
          exact ⟨h.accountTag, hsuits.later (List.Subset.trans ht hu)⟩
        · exact ih (hrest t ht)
      | _ => exact keeps_pure nofun

theorem keeps_connect (r : Request) (hinj : env.Injective) :
    Keeps env config (fun _ t => s.claims ⊆ t.claims) (act p .connect) s :=
  keeps_silent hinj (r := r) (fun _ _ _ => trivial)

theorem mem_zip_map {β : Type} {f : α → β} {l : List α} {a : α} {b : β}
    (h : (a, b) ∈ l.zip (l.map f)) : a ∈ l ∧ f a = b := by
  induction l with
  | nil => cases h
  | cons _ _ ih =>
    rcases mem_cons.mp h with h | h
    · cases h
      exact ⟨mem_cons_self .., rfl⟩
    · obtain ⟨ha, hb⟩ := ih h
      exact ⟨mem_cons_of_mem _ ha, hb⟩

section

variable (hinj : env.Injective) (h : Inferred env p r input)
include hinj h

theorem keeps_redisResolve :
    Keeps env config
      (fun result t => ∀ found, result = .ok found → MayResolve env p r found t)
      (redisResolve p input) s := by
  have hnone : ∀ t, MayResolve env p r none t := nofun
  refine Program.keeps_bind ((keeps_connect r hinj).mono (fun reply t ht => ?_))
  cases reply with
  | unavailable => exact keeps_pure (fun _ _ _ hok => by cases hok; exact hnone _)
  | done =>
    let aliases := input.resolutionAliases
    -- what `MGET` finds under the request's aliases suits it, then and later
    have hget : Keeps env config
        (fun reply u => ∀ values, reply = .texts values → ∀ a sessionId,
          (a, some sessionId) ∈ aliases.zip values → Suits env p u r sessionId)
        (act p (.redis (.mget
          (aliases.map (fun a => redisAliasKey input.accountTag a.digest))))) t := by
      refine keeps_act hinj (r := r) (fun _ _ _ => writes_nothing rfl) (fun u o _ hinv w hw => ?_)
      intro values hvalues a sessionId hmem
      simp only [perform] at hvalues hw
      split at hvalues
      · rename_i hanswered
        rw [if_pos hanswered] at hw
        rw [← Reply.texts.inj hvalues, List.map_map] at hmem
        obtain ⟨ha, hfind⟩ := mem_zip_map hmem
        exact (h.suits_of_redis hinv ha hfind).later hw
      · cases hvalues
    refine Program.keeps_bind (hget.mono (fun reply u hreply => ?_))
    cases reply with
    | texts values => exact keeps_firstHome hinj h (hreply values rfl)
    | _ => exact keeps_pure nofun
  | _ => exact keeps_pure nofun

theorem keeps_redisRemember (hres : Resolves env p r resolution s) :
    Keeps env config (fun _ t => s.claims ⊆ t.claims) (redisRemember p input resolution) s := by
  have hend : ∀ {t : Shared} {result : Except Unit Unit}, s.claims ⊆ t.claims →
      Keeps env config (fun _ u => s.claims ⊆ u.claims) (pure result) t :=
    fun ht => keeps_pure (fun u hu => List.Subset.trans ht hu)
  refine Program.keeps_bind ((keeps_connect r hinj).mono (fun reply t ht => ?_))
  cases reply with
  | done =>
    have hsession : Keeps env config (fun _ u => t.claims ⊆ u.claims)
        (act p (.redis (.setNx (redisSessionKey input.accountTag resolution.sessionId)
          resolution.home))) t := by
      refine keeps_silent hinj (r := r) (fun u _ _ key value hmem => ?_)
      cases mem_singleton.mp hmem
      rw [h.accountTag]
      exact redisEntry_session _ _
    refine Program.keeps_bind (hsession.mono (fun reply u hu => ?_))
    have hu := List.Subset.trans ht hu
    cases reply with
    | text value =>
      refine Program.keeps_bind ((keeps_read r hinj rfl).mono (fun reply v hv => ?_))
      have hv := List.Subset.trans hu hv
      cases reply with
      | number =>
        have hpipe : Keeps env config (fun _ w => v.claims ⊆ w.claims)
            (act p (.pipe (input.aliases.map (fun a =>
              let key := redisAliasKey input.accountTag a.digest
              if a.kind = .native then .set key resolution.sessionId
              else .setNx key resolution.sessionId)))) v := by
          refine keeps_silent hinj (r := r) (fun w hw _ cmd hcmd key value hmem => ?_)
          obtain ⟨a, ha, rfl⟩ := mem_map.mp hcmd
          have hentry := h.redisEntry (s := w) hinj
            (hres.suits.later (List.Subset.trans hv hw)) ha
          dsimp only at hmem
          split at hmem
          · cases mem_singleton.mp hmem
            exact hentry
          · cases mem_singleton.mp hmem
            exact hentry
        refine Program.keeps_bind (hpipe.mono (fun reply w hw => ?_))
        have hw := List.Subset.trans hv hw
        cases reply with
        | _ => exact hend hw
      | _ => exact hend hv
    | _ => exact hend hu
  | _ => exact hend ht

theorem keeps_claimQuery (hsuits : Suits env p s r input.primary.digest) (home : String) :
    Keeps env config
      (fun result t => ∀ found, result = .ok found → MayResolve env p r found t)
      (claimQuery p input input.primary.digest home) s := by
  have hnone : ∀ t, MayResolve env p r none t := by simp [MayResolve]
  have hprimary : input.primary ∈ input.aliases := List.head_mem input.nonempty
  have hwinner : Keeps env config
      (fun reply t => s.claims ⊆ t.claims ∧
        ∀ winner, reply = .text (some winner) → Suits env p t r winner)
      (act p (.redis (.claim (redisAliasKey input.accountTag input.primary.digest)
        (redisSessionKey input.accountTag input.primary.digest) input.primary.digest home)))
      s := by
    refine keeps_act hinj (r := r) ?_ ?_
    · intro t ht _ key value hmem
      rcases mem_cons.mp hmem with hmem | hmem
      · cases hmem
        exact h.redisEntry hinj (hsuits.later ht) hprimary
      · cases mem_singleton.mp hmem
        rw [h.accountTag]
        exact redisEntry_session _ _
    · intro t o ht hinv u hu
      simp only [perform] at hu ⊢
      split at hu
      · rename_i hanswered
        rw [if_pos hanswered]
        refine ⟨List.Subset.trans ht hu, fun winner hreply => ?_⟩
        simp only [execute] at hreply
        split at hreply
        · rename_i existing hfind
          cases hreply
          exact (h.suits_of_redis hinv input.primary_mem hfind).later hu
        · cases hreply
          exact hsuits.later (List.Subset.trans ht hu)
      · rename_i hfailed
        rw [if_neg hfailed]
        exact ⟨List.Subset.trans ht hu, by simp⟩
  refine Program.keeps_bind (hwinner.mono (fun reply t ht => ?_))
  obtain ⟨ht, hreply⟩ := ht
  cases reply with
  | text winner =>
    cases winner with
    | none => exact keeps_pure (by simp)
    | some winner =>
      have hsuits' := hreply winner rfl
      refine Program.keeps_bind ((keeps_read r hinj rfl).mono (fun reply u hu => ?_))
      cases reply with
      | text home' =>
        cases home' with
        | some =>
          refine keeps_pure (fun v hv found hok => ?_)
          cases hok
          rintro resolution ⟨⟩
          exact ⟨h.accountTag, hsuits'.later (List.Subset.trans hu hv)⟩
        | none =>
          refine Program.keeps_bind ((keeps_read r hinj rfl).mono (fun reply v hv => ?_))
          cases reply with
          | number => exact keeps_pure (fun _ _ _ hok => by cases hok; exact hnone _)
          | _ => exact keeps_pure (by simp)
      | _ => exact keeps_pure (by simp)
  | _ => exact keeps_pure (by simp)

theorem keeps_redisClaim (hsuits : Suits env p s r input.primary.digest) (home : String) :
    Keeps env config
      (fun result t => ∀ found, result = .ok found → MayResolve env p r found t)
      (redisClaim p input input.primary.digest home) s := by
  have hnone : ∀ t, MayResolve env p r none t := nofun
  refine Program.keeps_bind ((keeps_connect r hinj).mono (fun reply t ht => ?_))
  cases reply with
  | unavailable => exact keeps_pure (fun _ _ _ hok => by cases hok; exact hnone _)
  | done =>
    refine Program.keeps_bind
      ((keeps_claimQuery hinj h (hsuits.later ht) home).mono (fun result u hresult => ?_))
    have hlater : ∀ v, u.claims ⊆ v.claims → ∀ found, result = .ok found →
        MayResolve env p r found v :=
      fun v hv found hok resolution hmem => (hresult found hok resolution hmem).later hv
    cases result with
    | error => exact keeps_pure hlater
    | ok found =>
      cases found with
      | none => exact keeps_pure hlater
      | some winner =>
        have hwinner := hresult _ rfl winner rfl
        refine Program.keeps_bind ((keeps_redisRemember hinj h hwinner).mono (fun _ v hv => ?_))
        refine keeps_pure (fun w hw found hok => ?_)
        cases hok
        exact hlater w (List.Subset.trans hv hw) _ rfl
  | _ => exact keeps_pure nofun

theorem keeps_localStore (hres : Resolves env p r resolution s) (overwrite : Bool) :
    Keeps env config (fun _ t => s.claims ⊆ t.claims)
      (act p (.localStore input resolution overwrite)) s :=
  keeps_silent hinj (r := r) (fun _ ht _ => ⟨h, hres.suits.later ht⟩)

end

theorem keeps_localRebind (r : Request) (hinj : env.Injective)
    (resolution : AffinityResolution) (oldHome : String) :
    Keeps env config (fun _ t => s.claims ⊆ t.claims)
      (act p (.localRebind resolution oldHome)) s :=
  keeps_silent hinj (r := r) (fun _ _ _ => trivial)

/-! ## Operations of a request -/

theorem keeps_answer (h : Resolves env p r resolution s) :
    Keeps env config (Resolves env p r) (pure resolution) s :=
  keeps_pure (fun _ hu => h.later hu)

theorem keeps_found {found : Option AffinityResolution} (h : MayResolve env p r found s) :
    Keeps env config (MayResolve env p r) (pure found) s :=
  keeps_pure (fun _ hu resolution hmem => (h resolution hmem).later hu)

theorem mayResolve_none : MayResolve env p r none s := nofun

theorem mayResolve_some (h : Resolves env p r resolution s) :
    MayResolve env p r (some resolution) s := by
  rintro _ ⟨⟩
  exact h

theorem mayResolve_join {result : Except Unit (Option AffinityResolution)}
    (h : ∀ found, result = .ok found → MayResolve env p r found s) :
    MayResolve env p r result.toOption.join s := by
  cases result with
  | error => exact mayResolve_none
  | ok found => exact h found rfl

section

variable (hinj : env.Injective) (h : Inferred env p r input)
include hinj h

theorem keeps_resolve : Keeps env config (MayResolve env p r) (resolve p input) s := by
  refine Program.keeps_bind ((keeps_localResolve hinj h).mono (fun reply t hreply => ?_))
  cases hfound : reply.found? with
  | some =>
    rw [hfound] at hreply
    exact keeps_found hreply
  | none =>
    refine Program.keeps_bind ((keeps_redisResolve hinj h).mono (fun result u hresult => ?_))
    have hresult := mayResolve_join hresult
    cases hjoin : result.toOption.join with
    | none => exact keeps_found mayResolve_none
    | some resolution =>
      rw [hjoin] at hresult
      have hres := hresult resolution rfl
      exact Program.keeps_bind ((keeps_localStore hinj h hres true).mono
        (fun _ v hv => keeps_found (mayResolve_some (hres.later hv))))

theorem keeps_claim (home : String) :
    Keeps env config (Resolves env p r) (claim p r input home) s := by
  refine Program.keeps_bind ((keeps_localResolve hinj h).mono (fun reply t hreply => ?_))
  cases hfound : reply.found? with
  | some resolution =>
    rw [hfound] at hreply
    exact keeps_answer (hreply resolution rfl)
  | none =>
    let resolution : AffinityResolution := ⟨input.primary.digest, home, .new, input.accountTag⟩
    have hpropose : Keeps env config (fun _ u => Resolves env p r resolution u)
        (act p (.propose input resolution r)) t := by
      refine keeps_act hinj (r := r) (fun _ _ _ => ⟨rfl, h, rfl⟩) (fun u o _ _ v hv => ?_)
      refine ⟨h.accountTag, ?_⟩
      have hmem : ⟨p, r, input.primary.digest, input.accountTag⟩ ∈ v.claims :=
        hv (mem_append_right _ (mem_singleton_self _))
      exact suits_claim hmem rfl h.accountTag
    refine Program.keeps_bind (hpropose.mono (fun _ u hproposed => ?_))
    refine Program.keeps_bind
      ((keeps_redisClaim hinj h hproposed.suits home).and_later.mono (fun result v hv => ?_))
    have hresult := mayResolve_join hv.2
    cases hjoin : result.toOption.join with
    | none => exact keeps_answer (hproposed.later hv.1)
    | some winner =>
      rw [hjoin] at hresult
      have hres := hresult winner rfl
      exact Program.keeps_bind ((keeps_localStore hinj h hres true).mono
        (fun _ w hw => keeps_answer (hres.later hw)))

theorem keeps_remember (hres : Resolves env p r resolution s) :
    Keeps env config (fun _ t => s.claims ⊆ t.claims) (remember p input resolution) s := by
  refine Program.keeps_bind ((keeps_localStore hinj h hres false).mono (fun _ t ht => ?_))
  refine Program.keeps_bind ((keeps_redisRemember hinj h (hres.later ht)).mono (fun _ u hu => ?_))
  exact keeps_pure (fun v hv => List.Subset.trans (List.Subset.trans ht hu) hv)

end

theorem keeps_rebind (hinj : env.Injective) (hres : Resolves env p r resolution s)
    (newHome : String) :
    Keeps env config (Resolves env p r) (rebind p resolution newHome) s := by
  have hhome : ∀ {t : Shared} (home : String), s.claims ⊆ t.claims →
      Resolves env p r { resolution with home := home } t :=
    fun home ht => ⟨hres.accountTag, hres.suits.later ht⟩
  unfold rebind
  split
  · exact keeps_answer hres
  · refine Program.keeps_bind ((keeps_localRebind r hinj _ _).mono (fun _ t ht => ?_))
    have hredis : Keeps env config (fun _ u => s.claims ⊆ u.claims)
        (redisRebind p { resolution with home := newHome } resolution.home) t := by
      refine Program.keeps_bind ((keeps_connect r hinj).mono (fun reply u hu => ?_))
      have hu := List.Subset.trans ht hu
      have hend : ∀ {u : Shared} {result : Except Unit (Option String)},
          s.claims ⊆ u.claims →
            Keeps env config (fun _ w => s.claims ⊆ w.claims) (pure result) u :=
        fun hu => keeps_pure (fun w hw => List.Subset.trans hu hw)
      cases reply with
      | done =>
        have hscript : Keeps env config (fun _ v => u.claims ⊆ v.claims)
            (act p (.redis (.rebind
              (redisSessionKey resolution.accountTag resolution.sessionId)
              resolution.home newHome))) u := by
          refine keeps_silent hinj (r := r) (fun v _ _ key value hmem => ?_)
          cases mem_singleton.mp hmem
          rw [hres.accountTag]
          exact redisEntry_session _ _
        refine Program.keeps_bind (hscript.mono (fun reply v hv => ?_))
        have hv := List.Subset.trans hu hv
        cases reply with
        | text home =>
          cases home with
          | none | some home => exact hend hv
        | _ => exact hend hv
      | _ => exact hend hu
    refine Program.keeps_bind (hredis.mono (fun result u hu => ?_))
    cases result.toOption.join with
    | none => exact keeps_answer (hhome newHome hu)
    | some sharedHome =>
      dsimp only
      split
      · refine Program.keeps_bind ((keeps_localRebind r hinj _ _).mono (fun _ v hv => ?_))
        exact keeps_answer (hhome sharedHome (List.Subset.trans hu hv))
      · exact keeps_answer (hhome newHome hu)

end Programs

/-! ## Every run -/

/-- What a request knows between its calls. -/
def Owns (env : Env) (session : Session) (s : Shared) : Prop :=
  (∀ input, session.input = some input →
    Inferred env session.process session.request input) ∧
    MayResolve env session.process session.request session.resolution s

theorem respects {config : Nat → Config} (hinj : env.Injective) :
    Threads.Respects (protocol env) (Owns env) (code env config) where
  stable := fun h hlater => ⟨h.1, fun resolution hmem => (h.2 resolution hmem).later hlater⟩
  start := fun _ _ => ⟨fun _ h => infer_inferred h, mayResolve_none⟩
  outside := fun h => outside_safe h _
  prog := by
    rintro ⟨p, r, input, resolution⟩ call s - ⟨hinput, hres⟩
    have hsome : ∀ {found : Option AffinityResolution} {t : Shared},
        MayResolve env p r found t → Owns env ⟨p, r, input, found⟩ t :=
      fun h => ⟨hinput, h⟩
    have hidle : ∀ {found : Option AffinityResolution}, MayResolve env p r found s →
        Keeps env config (fun a t => Owns env ⟨p, r, input, a⟩ t) (pure found) s :=
      fun h => (keeps_found h).mono (fun _ _ h => hsome h)
    have hanswer : ∀ {op : Op AffinityResolution},
        Keeps env config (Resolves env p r) op s →
          Keeps env config (fun a t => Owns env ⟨p, r, input, a⟩ t)
            (op >>= fun resolution => pure (some resolution)) s := by
      intro op hop
      refine Program.keeps_bind (hop.mono (fun resolution t hres => ?_))
      exact (keeps_found (mayResolve_some hres)).mono (fun _ _ h => hsome h)
    cases call with
    | resolve =>
      cases input with
      | none => exact hidle mayResolve_none
      | some input =>
        exact (keeps_resolve hinj (hinput input rfl)).mono (fun _ _ h => hsome h)
    | claim proposedHome =>
      cases input with
      | none => exact hidle mayResolve_none
      | some input => exact hanswer (keeps_claim hinj (hinput input rfl) proposedHome)
    | remember =>
      cases resolution with
      | none => cases input <;> exact hidle mayResolve_none
      | some resolution =>
        cases input with
        | none => exact hidle hres
        | some input =>
          have hmine := hres resolution rfl
          refine Program.keeps_bind
            ((keeps_remember hinj (hinput input rfl) hmine).mono (fun _ t ht => ?_))
          exact (keeps_found (mayResolve_some (hmine.later ht))).mono (fun _ _ h => hsome h)
    | rebind newHome =>
      cases resolution with
      | none => exact hidle mayResolve_none
      | some resolution => exact hanswer (keeps_rebind hinj (hres resolution rfl) newHome)

/-- A request with a native id only ever has a session that a request of the
same account with the same id has claimed, and that no other request has. -/
theorem native_sessions_isolated (env : Env) (config : Nat → Config) (hinj : env.Injective)
    (events : List (Threads.Event (Nat × Request) Call Outcome Outside)) (thread : Nat)
    (t : Thread Session (Nat × Action) Reply (Option AffinityResolution))
    (ht : (runFrom env config events).threads.find? thread = some t) (value : String)
    (hvalue : t.mine.request.nativeId = some value) (resolution : AffinityResolution)
    (hres : t.mine.resolution = some resolution) :
    (∃ c ∈ (runFrom env config events).shared.claims,
      c.accountTag = resolution.accountTag ∧ c.sessionId = resolution.sessionId) ∧
    ∀ c ∈ (runFrom env config events).shared.claims,
      c.accountTag = resolution.accountTag → c.sessionId = resolution.sessionId →
        c.request.accountScope = t.mine.request.accountScope ∧
          c.request.nativeId = some value := by
  have hkept := Threads.kept_run (C := code env config) (respects hinj) inv_start events
  have hmine := (hkept.own thread t ht).2 resolution hres
  obtain ⟨c₀, hc₀, htag₀, hvalue₀, hid₀⟩ := hmine.suits value hvalue
  refine ⟨⟨c₀, hc₀, htag₀.trans hmine.accountTag.symm, hid₀⟩, fun c hc htag hid => ?_⟩
  obtain ⟨input, hinput, hsession, haccount⟩ := hkept.inv.claims c hc
  obtain ⟨input₀, hinput₀, hsession₀, -⟩ := hkept.inv.claims c₀ hc₀
  refine ⟨?_, ?_⟩
  · have htags := (haccount.symm.trans htag).trans hmine.accountTag
    exact Env.accountTag_inj hinj (hinput.accountTag.symm.trans htags)
  · -- both sessions are named after the same digest, and that is of the native id
    have hdigest : input.primary.digest = env.digestParts c₀.process "native" [value] := by
      rw [← hsession, hid, ← hid₀, hsession₀, hinput₀.native hvalue₀]
    exact hinput.native_eq hinj (List.head_mem input.nonempty)
      ⟨nativeId_valid hvalue₀, _, .inl rfl, hdigest⟩

def twoRequests : List (Threads.Event (Nat × Request) Call Outcome Outside) :=
  let body (text : String) : Meter.Value :=
    .object [("session_id", .string " session "), ("messages", .array [.string text])]
  let steps (thread : Nat) : List (Threads.Event (Nat × Request) Call Outcome Outside) :=
    List.replicate 12 (.step thread ⟨1000, true, [], []⟩)
  [.begin 0 (0, ⟨"account", [], body "first"⟩), .call 0 (.claim "home")] ++ steps 0 ++
    [.begin 1 (1, ⟨"account", [], body "second"⟩), .call 1 .resolve] ++ steps 1

def identityEnv : Env := ⟨fun _ m => m, fun _ => ""⟩

def redisConfig : Nat → Config := fun _ => ⟨60, true⟩

def secondRequest : Thread Session (Nat × Action) Reply (Option AffinityResolution) :=
  ((runFrom identityEnv redisConfig twoRequests).threads.find? 1).get (by decide +kernel)

def secondResolution : AffinityResolution :=
  secondRequest.mine.resolution.get (by decide +kernel)

/-- The second request of a session gets the home that the first one claimed. -/
theorem second_request_isolated :
    secondResolution.home = "home" ∧
    (∃ c ∈ (runFrom identityEnv redisConfig twoRequests).shared.claims,
      c.accountTag = secondResolution.accountTag ∧ c.sessionId = secondResolution.sessionId) ∧
    ∀ c ∈ (runFrom identityEnv redisConfig twoRequests).shared.claims,
      c.accountTag = secondResolution.accountTag → c.sessionId = secondResolution.sessionId →
        c.request.accountScope = secondRequest.mine.request.accountScope ∧
          c.request.nativeId = some "session" :=
  ⟨by decide +kernel,
    native_sessions_isolated identityEnv redisConfig (fun _ _ _ _ h => h) twoRequests 1
      secondRequest (Option.some_get _).symm "session" (by decide +kernel) secondResolution
      (Option.some_get _).symm⟩

end ApiToken.Affinity
