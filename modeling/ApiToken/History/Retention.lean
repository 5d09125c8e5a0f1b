import ApiToken.History.Store

/-!
# Stored responses stay bound to their tenant

Whatever the calls, their order and the failures of Redis: every copy of a
response, in a local map or in Redis, is of a write that its tenant made. In a
run without lapses a copy also ends with the retention time of a write of its
response, and a copy of a deleted response is over.
-/

namespace ApiToken.History

variable {process ends : Nat} {state : Table String LocalEntry} {e : LocalEntry}
  {history h : StoredHistory} {a : Answer}

/-- Tags tell tenants apart, whatever keys they are made with. -/
def Env.Injective (env : Env) : Prop :=
  ∀ seed seed' a b, env.scopeTag seed a = env.scopeTag seed' b → a = b

def Env.Reads (env : Env) : Prop :=
  ∀ envelope bytes, env.toVec envelope = some bytes → env.fromSlice bytes = some envelope

section Invariant

variable (env : Env) (config : Nat → Config)

/-! ## Copies -/

/-- There is a copy of the response that ends at a millisecond. -/
inductive Shared.Holds (s : Shared) (id : String) : Nat → Prop where
  | mapped {process : Nat} {e : LocalEntry} (h : (s.mapOf process).find? id = some e) :
      s.Holds id (e.expiresAt * 1000)
  | shared {key : String} {e : RedisEntry} {seed : Seed} {plaintext : List UInt8}
      (h : s.redis.find? key = some e) (hblob : e.blob = .sealed seed id plaintext) :
      s.Holds id e.deadline

/-- A copy that lives until `ends` is within a put's time, and not past its delete. -/
structure Shared.InOrder (s : Shared) (id : String) (ends : Nat) : Prop where
  retained : ∃ w ∈ s.writes, w.history.responseId = id ∧ ends ≤ w.deadline
  deleted : id ∈ s.deleted → ends ≤ s.now

/-- What a put of a process sends to Redis is what it sealed. -/
def Cmd.Sound : Cmd → Prop
  | .set process tenant history plaintext =>
    env.toVec ⟨env.scopeTag (config process).seed tenant, history⟩ = some plaintext
  | _ => True

/-- Whatever is stored or on its way stems from a put. -/
structure Inv (s : Shared) : Prop where
  mapped : ∀ process id e, (s.mapOf process).find? id = some e →
    ∃ w ∈ s.writes, e.scopeTag = env.scopeTag (config process).seed w.tenant ∧
      e.history = w.history ∧ w.history.responseId = id
  shared : ∀ key e seed aad plaintext, s.redis.find? key = some e →
    e.blob = .sealed seed aad plaintext → key = redisKey aad ∧
      ∃ w ∈ s.writes, env.toVec ⟨env.scopeTag seed w.tenant, w.history⟩ = some plaintext ∧
        w.history.responseId = aad
  inFlight : ∀ cmd ∈ s.inFlight, cmd.Sound env config
  deleted : ∀ id ∈ s.deleted, ∃ w ∈ s.writes, w.history.responseId = id
  inOrder : s.lapses = [] → ∀ id ends, s.Holds id ends → s.InOrder id ends

/-- The state only moves forward. -/
structure Shared.Later (s t : Shared) : Prop where
  writes : s.writes ⊆ t.writes
  deleted : s.deleted ⊆ t.deleted
  now : s.now ≤ t.now
  lapses : t.lapses = [] → s.lapses = []

theorem Shared.Later.refl (s : Shared) : s.Later s :=
  ⟨fun _ h => h, fun _ h => h, Nat.le_refl _, id⟩

theorem Shared.Later.trans {s t u : Shared} (h : s.Later t) (h' : t.Later u) : s.Later u :=
  ⟨fun _ hw => h'.writes (h.writes hw), fun _ hid => h'.deleted (h.deleted hid),
    Nat.le_trans h.now h'.now, fun hu => h.lapses (h'.lapses hu)⟩

def protocol : Program.Protocol Shared where
  inv := Inv env config
  later := Shared.Later
  refl := Shared.Later.refl
  trans := Shared.Later.trans

end Invariant

/-! ## Small facts -/

variable {env : Env} {config : Nat → Config} {s t : Shared}

@[simp] theorem note_locals (s : Shared) (l : Lapse) (b : Bool) :
    (s.note l b).locals = s.locals := by cases b <;> rfl

@[simp] theorem note_redis (s : Shared) (l : Lapse) (b : Bool) :
    (s.note l b).redis = s.redis := by cases b <;> rfl

@[simp] theorem note_writes (s : Shared) (l : Lapse) (b : Bool) :
    (s.note l b).writes = s.writes := by cases b <;> rfl

@[simp] theorem note_deleted (s : Shared) (l : Lapse) (b : Bool) :
    (s.note l b).deleted = s.deleted := by cases b <;> rfl

@[simp] theorem note_now (s : Shared) (l : Lapse) (b : Bool) :
    (s.note l b).now = s.now := by cases b <;> rfl

@[simp] theorem note_inFlight (s : Shared) (l : Lapse) (b : Bool) :
    (s.note l b).inFlight = s.inFlight := by cases b <;> rfl

@[simp] theorem note_mapOf (s : Shared) (l : Lapse) (b : Bool) (process : Nat) :
    (s.note l b).mapOf process = s.mapOf process := by cases b <;> rfl

@[simp] theorem note_secs (s : Shared) (l : Lapse) (b : Bool) :
    (s.note l b).secs = s.secs := by cases b <;> rfl

@[simp] theorem note_lapses (s : Shared) (l : Lapse) (b : Bool) :
    (s.note l b).lapses = [] ↔ b = false ∧ s.lapses = [] := by
  cases b <;> simp [Shared.note]

theorem find?_remove {ρ : Type} {t : Table String ρ} {key key' : String} {v : ρ}
    (h : (remove t key).find? key' = some v) : t.find? key' = some v ∧ key' ≠ key := by
  obtain ⟨hfind, hkey⟩ := find?_delete.mp h
  exact ⟨hfind, by simpa using hkey⟩

variable {id : String} {now : Nat}

theorem mapOf_withLocal {process' : Nat}
    (h : ((s.withLocal process state).mapOf process').find? id = some e) :
    (process' = process ∧ state.find? id = some e) ∨ (s.mapOf process').find? id = some e := by
  by_cases hp : process' = process
  · subst hp
    left
    simpa [Shared.mapOf, Shared.withLocal] using h
  · right
    rw [Shared.mapOf, Shared.withLocal, find?_put_ne _ _ (Ne.symm hp)] at h
    exact h

theorem localGet_fst {id' : String} {t : Table String LocalEntry}
    (h : (localGet now id t).1.find? id' = some e) : t.find? id' = some e := by
  unfold localGet at h
  split at h
  · split at h
    · exact (find?_remove h).1
    · exact h
  · exact h

theorem localGet_snd {t : Table String LocalEntry} (h : (localGet now id t).2 = some e) :
    t.find? id = some e ∧ now < e.expiresAt := by
  unfold localGet at h
  split at h
  · rename_i e' hfind
    split at h
    · cases h
    · rename_i hlive
      rw [some.injEq] at h
      subst h
      exact ⟨hfind, Nat.lt_of_not_le hlive⟩
  · cases h

theorem localPut_cases {localCap expiresAt picked : Nat} {tag : Tag}
    {t : Table String LocalEntry}
    (h : (localPut localCap now expiresAt picked tag history t).find? id = some e) :
    (id = history.responseId ∧ e = ⟨tag, history, expiresAt⟩) ∨ t.find? id = some e := by
  rcases find?_put_cases h with ⟨hid, he⟩ | hold
  · exact .inl ⟨hid, he⟩
  right
  split at hold
  · split at hold
    · exact (find?_delete.mp (find?_remove hold).1).1
    · exact (find?_delete.mp hold).1
  · exact (find?_delete.mp hold).1

/-! ## Keeping the invariant -/

theorem Shared.InOrder.later (h : s.InOrder id ends) (hlater : s.Later t)
    (hdeleted : id ∈ t.deleted → id ∈ s.deleted ∨ ends ≤ t.now) :
    t.InOrder id ends where
  retained := by
    obtain ⟨w, hw, hid⟩ := h.retained
    exact ⟨w, hlater.writes hw, hid⟩
  deleted := by
    intro hid
    rcases hdeleted hid with hold | hover
    · exact Nat.le_trans (h.deleted hold) hlater.now
    · exact hover

theorem Inv.step (h : Inv env config s) (hlater : s.Later t) (hdeleted : t.deleted = s.deleted)
    (hmapped : ∀ process id e, (t.mapOf process).find? id = some e →
      (s.mapOf process).find? id = some e ∨
        (∃ w ∈ t.writes, e.scopeTag = env.scopeTag (config process).seed w.tenant ∧
          e.history = w.history ∧ w.history.responseId = id) ∧
        (t.lapses = [] → t.InOrder id (e.expiresAt * 1000)))
    (hshared : ∀ key e, t.redis.find? key = some e → s.redis.find? key = some e ∨
      ∀ seed aad plaintext, e.blob = .sealed seed aad plaintext →
        (key = redisKey aad ∧
          ∃ w ∈ t.writes, env.toVec ⟨env.scopeTag seed w.tenant, w.history⟩ = some plaintext ∧
            w.history.responseId = aad) ∧
        (t.lapses = [] → t.InOrder aad e.deadline))
    (hinFlight : ∀ cmd ∈ t.inFlight, cmd ∈ s.inFlight ∨ cmd.Sound env config) :
    Inv env config t where
  mapped := by
    intro process id e he
    rcases hmapped process id e he with hold | ⟨hw, -⟩
    · obtain ⟨w, hw, hrest⟩ := h.mapped process id e hold
      exact ⟨w, hlater.writes hw, hrest⟩
    · exact hw
  shared := by
    intro key e seed aad plaintext he hblob
    rcases hshared key e he with hold | hnew
    · obtain ⟨hkey, w, hw, hrest⟩ := h.shared key e seed aad plaintext hold hblob
      exact ⟨hkey, w, hlater.writes hw, hrest⟩
    · exact (hnew seed aad plaintext hblob).1
  inFlight := by
    intro cmd hcmd
    rcases hinFlight cmd hcmd with hold | hnew
    · exact h.inFlight cmd hold
    · exact hnew
  deleted := by
    intro id hid
    rw [hdeleted] at hid
    obtain ⟨w, hw, hrest⟩ := h.deleted id hid
    exact ⟨w, hlater.writes hw, hrest⟩
  inOrder := by
    intro hclean id ends hholds
    have hbefore := h.inOrder (hlater.lapses hclean)
    have hsame : id ∈ t.deleted → id ∈ s.deleted ∨ ends ≤ t.now :=
      fun hid => .inl (hdeleted ▸ hid)
    cases hholds with
    | mapped he =>
      rcases hmapped _ _ _ he with hold | ⟨-, hnew⟩
      · exact (hbefore _ _ (.mapped hold)).later hlater hsame
      · exact hnew hclean
    | shared he hblob =>
      rcases hshared _ _ he with hold | hnew
      · exact (hbefore _ _ (.shared hold hblob)).later hlater hsame
      · exact (hnew _ _ _ hblob).2 hclean

theorem Inv.shrink (h : Inv env config s)
    (hstate : ∀ id e, state.find? id = some e → (s.mapOf process).find? id = some e) :
    Inv env config (s.withLocal process state) := by
  refine h.step ⟨fun _ h => h, fun _ h => h, Nat.le_refl _, id⟩ rfl ?_ (fun _ _ h => .inl h)
    (fun _ h => .inl h)
  intro process' id e he
  left
  rcases mapOf_withLocal he with ⟨rfl, hold⟩ | hold
  · exact hstate id e hold
  · exact hold

theorem withLocal_later (s : Shared) (process : Nat) (state : Table String LocalEntry) :
    s.Later (s.withLocal process state) := ⟨fun _ h => h, fun _ h => h, Nat.le_refl _, id⟩

theorem Inv.execute (h : Inv env config s) {cmd : Cmd} (hcmd : cmd.Sound env config) :
    Inv env config (execute config s cmd).1 ∧ s.Later (execute config s cmd).1 := by
  cases cmd with
  | get key =>
    have hsame : (History.execute config s (.get key)).1 = s := by
      simp only [History.execute]
      split <;> rfl
    rw [hsame]
    exact ⟨h, .refl s⟩
  | del key =>
    refine ⟨h.step ⟨fun _ h => h, fun _ h => h, Nat.le_refl _, id⟩ rfl (fun _ _ _ h => .inl h)
      ?_ (fun _ h => .inl h), ⟨fun _ h => h, fun _ h => h, Nat.le_refl _, id⟩⟩
    exact fun key e he => .inl (find?_remove he).1
  | set process tenant history plaintext =>
    have hlater :
        s.Later (History.execute config s (.set process tenant history plaintext)).1 := by
      simp only [History.execute]
      exact ⟨fun _ hw => by simp [hw], fun _ h => by simpa using h, by simp,
        fun hl => ((note_lapses ..).mp hl).2⟩
    refine ⟨h.step hlater (by simp [History.execute]) ?_ ?_ ?_, hlater⟩
    · intro process' id e he
      left
      simpa [History.execute, Shared.mapOf] using he
    · intro key e he
      simp only [History.execute, note_redis] at he
      rcases find?_put_cases he with ⟨rfl, rfl⟩ | hold
      · right
        rintro seed aad plaintext' hblob
        injection hblob with hseed haad hplain
        subst hseed haad hplain
        refine ⟨⟨rfl, _, mem_cons_self .., hcmd, rfl⟩, fun hclean => ?_⟩
        simp only [History.execute, note_lapses] at hclean
        refine ⟨⟨_, mem_cons_self .., rfl, ?_⟩, fun hid => ?_⟩
        · simp [Write.deadline]
        · -- a deleted response would have been a lapse
          simp only [History.execute, note_deleted] at hid
          simp [Shared.isDeleted, hid] at hclean
      · exact .inl hold
    · intro cmd hmem
      left
      simpa [History.execute] using hmem

theorem Inv.writeLocal (h : Inv env config s) (process : Nat) (tenant : String)
    (history : StoredHistory) (picked : Nat) :
    Inv env config (writeLocal env config s process tenant history picked) ∧
      s.Later (writeLocal env config s process tenant history picked) := by
  have hlater : s.Later (History.writeLocal env config s process tenant history picked) := by
    simp only [History.writeLocal]
    exact ⟨fun _ hw => by simp [hw], fun _ h => by simpa [Shared.withLocal] using h,
      by simp [Shared.withLocal], fun hl => ((note_lapses ..).mp hl).2⟩
  refine ⟨h.step hlater (by simp [History.writeLocal, Shared.withLocal]) ?_ ?_ ?_, hlater⟩
  · intro process' id e he
    rcases mapOf_withLocal (s := s.note .reused (s.wasPut history.responseId)) he with
      ⟨rfl, hput⟩ | hold
    · rcases localPut_cases hput with ⟨rfl, rfl⟩ | hold
      · right
        refine ⟨⟨_, mem_cons_self .., rfl, rfl, rfl⟩, fun hclean => ?_⟩
        obtain ⟨hfresh, -⟩ := (note_lapses ..).mp hclean
        refine ⟨⟨_, mem_cons_self .., rfl, ?_⟩, fun hid => ?_⟩
        · simp only [Write.deadline, Shared.secs, note_now]
          omega
        · -- what is deleted was put before, so that its id is used again
          simp only [History.writeLocal, note_deleted, Shared.withLocal] at hid
          obtain ⟨w, hw, hsame⟩ := h.deleted _ hid
          simp only [Shared.wasPut, List.any_eq_false, guard_iffs] at hfresh
          exact absurd hsame (hfresh w hw)
      · left
        simpa using hold
    · left
      simpa using hold
  · intro key e he
    left
    simpa [History.writeLocal, Shared.withLocal] using he
  · intro cmd hmem
    left
    simpa [History.writeLocal, Shared.withLocal] using hmem

theorem Inv.refreshLocal (h : Inv env config s) (process : Nat) {tenant : String}
    (picked : Nat) (hwrite : ∃ w ∈ s.writes, w.tenant = tenant ∧ w.history = history) :
    Inv env config (refreshLocal env config s process tenant history picked) ∧
      s.Later (refreshLocal env config s process tenant history picked) := by
  have hlater : s.Later (History.refreshLocal env config s process tenant history picked) := by
    simp only [History.refreshLocal]
    refine ⟨fun _ hw => by simpa [Shared.withLocal] using hw,
      fun _ h => by simpa [Shared.withLocal] using h, by simp [Shared.withLocal], fun hl => ?_⟩
    exact ((note_lapses ..).mp ((note_lapses ..).mp hl).2).2
  refine ⟨h.step hlater (by simp [History.refreshLocal, Shared.withLocal]) ?_ ?_ ?_, hlater⟩
  · intro process' id e he
    rcases mapOf_withLocal he with ⟨rfl, hput⟩ | hold
    · rcases localPut_cases hput with ⟨rfl, rfl⟩ | hold
      · right
        obtain ⟨w, hw, rfl, rfl⟩ := hwrite
        refine ⟨⟨w, hlater.writes hw, rfl, rfl, rfl⟩, fun hclean => ?_⟩
        obtain ⟨hlate, hclean⟩ := (note_lapses ..).mp hclean
        obtain ⟨hlive, -⟩ := (note_lapses ..).mp hclean
        refine ⟨?_, fun hid => ?_⟩
        · simp only [note_writes, guard_iffs, List.any_eq_true] at hlate
          obtain ⟨w', hw', hid, hends⟩ := hlate
          exact ⟨w', hlater.writes hw', hid, hends⟩
        · simp only [History.refreshLocal, note_deleted, Shared.withLocal] at hid
          simp [Shared.isDeleted, hid] at hlive
      · left
        simpa using hold
    · left
      simpa using hold
  · intro key e he
    left
    simpa [History.refreshLocal, Shared.withLocal] using he
  · intro cmd hmem
    left
    simpa [History.refreshLocal, Shared.withLocal] using hmem

theorem hasCopy_over (h : Inv env config s) (hnone : s.hasCopy id = false)
    (hholds : s.Holds id ends) : ends ≤ s.now := by
  simp only [Shared.hasCopy, guard_iffs] at hnone
  cases hholds with
  | @mapped process e he =>
    obtain ⟨state, hstate, hfind⟩ : ∃ state, s.locals.find? process = some state ∧
        state.find? id = some e := by
      simp only [Shared.mapOf] at he
      cases hcase : s.locals.find? process with
      | none => simp [hcase] at he
      | some state => exact ⟨state, rfl, by simpa [hcase] using he⟩
    have hany := any_eq_false_iff.mp hnone.1 process state hstate
    rw [hfind, any_some, decide_eq_false_iff_not, Shared.secs] at hany
    omega
  | shared he hblob =>
    obtain ⟨rfl, -⟩ := h.shared _ _ _ _ _ he hblob
    have hredis := hnone.2
    simp only [he, any_some, guard_iffs] at hredis
    omega

theorem Inv.delete (h : Inv env config s) (hwrite : ∃ w ∈ s.writes, w.history.responseId = id) :
    let t : Shared := { s.note .left (s.hasCopy id) with deleted := id :: s.deleted }
    Inv env config t ∧ s.Later t := by
  intro t
  have hlater : s.Later t := by
    refine ⟨fun _ hw => by simpa [t] using hw, fun _ h => mem_cons_of_mem _ h, by simp [t],
      fun hl => ((note_lapses ..).mp hl).2⟩
  have hholds : ∀ {id' ends}, t.Holds id' ends → s.Holds id' ends := by
    intro id' ends hh
    cases hh with
    | mapped he => exact .mapped (by simpa [t, Shared.mapOf] using he)
    | shared he hblob => exact .shared (by simpa [t] using he) hblob
  refine ⟨⟨?_, ?_, ?_, ?_, ?_⟩, hlater⟩
  · intro process id' e he
    simpa [t] using h.mapped process id' e (by simpa [t, Shared.mapOf] using he)
  · intro key e seed aad plaintext he hblob
    simpa [t] using h.shared key e seed aad plaintext (by simpa [t] using he) hblob
  · exact fun cmd hcmd => h.inFlight cmd (by simpa [t] using hcmd)
  · intro id' hid'
    rcases mem_cons.mp hid' with rfl | hold
    · simpa [t] using hwrite
    · simpa [t] using h.deleted id' hold
  · intro hclean id' ends hh
    obtain ⟨hnone, hbefore⟩ := (note_lapses ..).mp hclean
    refine (h.inOrder hbefore id' ends (hholds hh)).later hlater (fun hid' => ?_)
    rcases mem_cons.mp hid' with rfl | hold
    · right
      simpa [t] using hasCopy_over h hnone (hholds hh)
    · exact .inl hold

/-! ## Actions -/

def Action.Safe (env : Env) (config : Nat → Config) (s : Shared) : Action → Prop
  | .localPut tenant history .get => ∃ w ∈ s.writes, w.tenant = tenant ∧ w.history = history
  | .redis cmd => cmd.Sound env config
  | .deleted id => ∃ w ∈ s.writes, w.history.responseId = id
  | _ => True

theorem perform_safe (h : Inv env config s) {process : Nat} {action : Action}
    (hsafe : action.Safe env config s) (o : Outcome) :
    Inv env config (perform env config s (process, action) o).1 ∧
      s.Later (perform env config s (process, action) o).1 := by
  cases action with
  | begin id | connect | nonce => exact ⟨h, .refl s⟩
  | localGet => exact ⟨h.shrink (fun _ _ he => localGet_fst he), withLocal_later ..⟩
  | localRemove => exact ⟨h.shrink (fun _ _ he => (find?_remove he).1), withLocal_later ..⟩
  | localPut tenant history writer =>
    cases writer with
    | put => exact h.writeLocal process tenant history o.picked
    | get => exact h.refreshLocal process o.picked hsafe
  | redis =>
    simp only [perform]
    split
    · exact h.execute hsafe
    · refine ⟨h.step ⟨fun _ h => h, fun _ h => h, Nat.le_refl _, id⟩ rfl
        (fun _ _ _ h => .inl h) (fun _ _ h => .inl h) ?_,
        ⟨fun _ h => h, fun _ h => h, Nat.le_refl _, id⟩⟩
      intro cmd' hmem
      rcases mem_cons.mp hmem with rfl | hold
      · exact .inr hsafe
      · exact .inl hold
  | deleted => exact h.delete hsafe

theorem outside_safe (h : Inv env config s) (e : Outside) :
    Inv env config (outside config s e) ∧ s.Later (outside config s e) := by
  have hsame : ∀ {t : Shared}, t.writes = s.writes → t.deleted = s.deleted → s.now ≤ t.now →
      t.lapses = s.lapses → s.Later t := by
    intro t hw hd hn hl
    exact ⟨fun _ h => hw ▸ h, fun _ h => hd ▸ h, hn, fun h => hl ▸ h⟩
  cases e with
  | tick ms =>
    have hlater := hsame (t := outside config s (.tick ms)) rfl rfl (Nat.le_add_right ..) rfl
    exact ⟨h.step hlater rfl (fun _ _ _ h => .inl h) (fun _ _ h => .inl h)
      (fun _ h => .inl h), hlater⟩
  | evict => exact ⟨h.shrink (fun _ _ he => (find?_remove he).1), withLocal_later ..⟩
  | expire key =>
    have hlater := hsame (t := outside config s (.expire key)) rfl rfl (Nat.le_refl _) rfl
    exact ⟨h.step hlater rfl (fun _ _ _ h => .inl h)
      (fun _ _ he => .inl (find?_remove he).1) (fun _ h => .inl h), hlater⟩
  | overwrite key bytes deadline =>
    have hlater := hsame (t := outside config s (.overwrite key bytes deadline)) rfl rfl
      (Nat.le_refl _) rfl
    refine ⟨h.step hlater rfl (fun _ _ _ h => .inl h) (fun key' e he => ?_)
      (fun _ h => .inl h), hlater⟩
    rcases find?_put_cases he with ⟨-, rfl⟩ | hold
    · exact .inr (nofun)
    · exact .inl hold
  | execute index =>
    simp only [outside]
    split
    · rename_i cmd hcmd
      have hless : Inv env config { s with inFlight := s.inFlight.eraseIdx index } :=
        h.step (hsame rfl rfl (Nat.le_refl _) rfl) rfl (fun _ _ _ h => .inl h)
          (fun _ _ h => .inl h) (fun _ h => .inl (List.mem_of_mem_eraseIdx h))
      obtain ⟨hinv, hlater⟩ := hless.execute (h.inFlight cmd (mem_of_getElem? hcmd))
      exact ⟨hinv, ⟨hlater.writes, hlater.deleted, hlater.now, hlater.lapses⟩⟩
    · exact ⟨h, .refl s⟩
  | lose index =>
    have hlater := hsame (t := outside config s (.lose index)) rfl rfl (Nat.le_refl _) rfl
    exact ⟨h.step hlater rfl (fun _ _ _ h => .inl h) (fun _ _ h => .inl h)
      (fun _ h => .inl (List.mem_of_mem_eraseIdx h)), hlater⟩

theorem inv_start : Inv env config Shared.start where
  mapped := fun _ _ _ h => by simp [Shared.start, Shared.mapOf] at h
  shared := fun _ _ _ _ _ h => by simp [Shared.start] at h
  inFlight := fun _ h => by simp [Shared.start] at h
  deleted := fun _ h => by simp [Shared.start] at h
  inOrder := by
    intro _ id ends hholds
    cases hholds with
    | mapped he => simp [Shared.start, Shared.mapOf] at he
    | shared he => simp [Shared.start] at he

/-! ## Programs -/

section Programs

variable {p : Nat} {tenant id : String} {begun : Shared}

abbrev Keeps (env : Env) (config : Nat → Config) {α : Type} (Q : α → Shared → Prop) (op : Op α)
    (s : Shared) : Prop :=
  Program.Keeps (perform env config) (protocol env config) Q op s

theorem keeps_pure {α : Type} {Q : α → Shared → Prop} {a : α} (h : ∀ t, s.Later t → Q a t) :
    Keeps env config Q (pure a) s := h

theorem keeps_act {Q : Reply → Shared → Prop} {a : Action}
    (hsafe : ∀ t, s.Later t → Inv env config t → a.Safe env config t)
    (hQ : ∀ t o, s.Later t → Inv env config t →
      ∀ u, (perform env config t (p, a) o).1.Later u → Q (perform env config t (p, a) o).2 u) :
    Keeps env config Q (act p a) s := by
  intro t ht hinv o
  obtain ⟨hinv', hlater⟩ := perform_safe hinv (hsafe t ht hinv) o
  exact ⟨hinv', hlater, hQ t o ht hinv⟩

theorem keeps_silent (a : Action)
    (hsafe : ∀ t, s.Later t → Inv env config t → a.Safe env config t) :
    Keeps env config (fun _ t => s.Later t) (act p a) s := by
  refine keeps_act hsafe (fun t o ht hinv u hu => ?_)
  exact (ht.trans (perform_safe hinv (hsafe t ht hinv) o).2).trans hu

def MayReturn (tenant id : String) (now : Nat) (deleted : Bool) (h : StoredHistory)
    (s : Shared) : Prop :=
  (∃ w ∈ s.writes, w.tenant = tenant ∧ w.history = h ∧ h.responseId = id) ∧
    (s.lapses = [] →
      deleted = false ∧ ∃ w ∈ s.writes, w.history.responseId = id ∧ now < w.deadline)

theorem MayReturn.later {deleted : Bool} (hmay : MayReturn tenant id now deleted h s)
    (hlater : s.Later t) :
    MayReturn tenant id now deleted h t := by
  obtain ⟨⟨w, hw, hrest⟩, horder⟩ := hmay
  refine ⟨⟨w, hlater.writes hw, hrest⟩, fun hclean => ?_⟩
  obtain ⟨hdeleted, w', hw', hrest'⟩ := horder (hlater.lapses hclean)
  exact ⟨hdeleted, w', hlater.writes hw', hrest'⟩

theorem mayReturn_of_live (hinv : Inv env config t) (hbegun : begun.Later t)
    (hholds : t.Holds id ends) (hlive : t.now < ends)
    (hwrite : ∃ w ∈ t.writes, w.tenant = tenant ∧ w.history = h ∧ h.responseId = id) :
    MayReturn tenant id begun.now (begun.isDeleted id) h t := by
  refine ⟨hwrite, fun hclean => ?_⟩
  have horder := hinv.inOrder hclean id ends hholds
  obtain ⟨w, hw, hid, hends⟩ := horder.retained
  have hnow := hbegun.now
  refine ⟨?_, w, hw, hid, by omega⟩
  simp only [Shared.isDeleted, guard_iffs]
  intro hdeleted
  have hover := horder.deleted (hbegun.deleted hdeleted)
  omega

theorem readShared_mayReturn (hinj : env.Injective) (hreads : env.Reads)
    (hinv : Inv env config t) (hbegun : begun.Later t) {e : RedisEntry}
    (he : t.redis.find? (redisKey id) = some e) (hlive : t.now < e.deadline)
    (hread : readShared env config p tenant id e.blob = .ok h) :
    MayReturn tenant id begun.now (begun.isDeleted id) h t := by
  unfold readShared at hread
  split at hread
  · cases hread
  rename_i plaintext hopen
  have hblob : e.blob = .sealed (config p).seed id plaintext := by
    cases hcase : e.blob with
    | other => simp [hcase, Blob.decrypt] at hopen
    | sealed seed aad plaintext' =>
      simp only [hcase, Blob.decrypt] at hopen
      split at hopen
      · rename_i hsame
        rw [hsame.1, hsame.2, some.inj hopen]
      · cases hopen
  split at hread
  · cases hread
  rename_i envelope hslice
  split at hread
  · cases hread
  rename_i htag
  split at hread
  · cases hread
  rename_i hid
  obtain ⟨-, w, hw, hvec, haad⟩ := hinv.shared _ _ _ _ _ he hblob
  rw [hreads _ _ hvec, some.injEq] at hslice
  subst hslice
  rw [Except.ok.injEq] at hread
  simp only [ne_eq, not_not] at htag
  exact mayReturn_of_live hinv hbegun (.shared he hblob) hlive
    ⟨w, hw, hinj _ _ _ _ htag, hread, hread ▸ haad⟩

theorem keeps_getShared (hinj : env.Injective) (hreads : env.Reads) (hbegun : begun.Later s) :
    Keeps env config
      (fun result t => ∀ h, result = .ok h →
        MayReturn tenant id begun.now (begun.isDeleted id) h t)
      (getShared env config p tenant id) s := by
  refine Program.keeps_bind
    ((keeps_silent .connect (fun _ _ _ => trivial)).mono (fun reply t ht => ?_))
  have hbegun := hbegun.trans ht
  cases reply with
  | done =>
    have hget : Keeps env config
        (fun reply u => begun.Later u ∧ ∀ blob, reply = .blob (some blob) →
          ∀ h, readShared env config p tenant id blob = .ok h →
            MayReturn tenant id begun.now (begun.isDeleted id) h u)
        (act p (.redis (.get (redisKey id)))) t := by
      refine keeps_act (fun _ _ _ => trivial) (fun u o hu hinv v hv => ?_)
      have hsafe := @perform_safe env config u hinv p (.redis (.get (redisKey id))) trivial o
      refine ⟨(hbegun.trans (hu.trans hsafe.2)).trans hv, fun blob hblob h hread => ?_⟩
      refine MayReturn.later ?_ (hsafe.2.trans hv)
      simp only [perform] at hblob
      split at hblob
      · simp only [execute] at hblob
        split at hblob
        · rename_i e he
          injection hblob with hblob
          split at hblob
          · rename_i hlive
            rw [some.injEq] at hblob
            subst hblob
            exact readShared_mayReturn hinj hreads hinv (hbegun.trans hu) he hlive hread
          · cases hblob
        · simp at hblob
      · cases hblob
    refine Program.keeps_bind (hget.mono (fun reply u hreply => ?_))
    obtain ⟨hu, hreply⟩ := hreply
    cases reply with
    | blob b =>
      cases b with
      | none => exact keeps_pure (by simp)
      | some blob =>
        dsimp only
        split
        · exact keeps_pure (by simp)
        · rename_i h hread
          have hmay := hreply blob rfl h hread
          refine Program.keeps_bind
            ((keeps_silent (.localPut tenant h .get) (fun v hv _ => ?_)).mono (fun _ v hv => ?_))
          · obtain ⟨w, hw, htenant, hhistory, -⟩ := (hmay.later hv).1
            exact ⟨w, hw, htenant, hhistory⟩
          · refine keeps_pure (fun v' hv' h' hok => ?_)
            cases hok
            exact hmay.later (hv.trans hv')
    | _ => exact keeps_pure (by simp)
  | _ => exact keeps_pure (by simp)

theorem keeps_get (hinj : env.Injective) (hreads : env.Reads) (hbegun : begun.Later s) :
    Keeps env config
      (fun result t => ∀ h, result = .ok h →
        MayReturn tenant id begun.now (begun.isDeleted id) h t)
      (get env config p tenant id) s := by
  have hlocal : Keeps env config
      (fun reply u => begun.Later u ∧ ∀ e, reply = .entry (some e) →
        e.scopeTag = env.scopeTag (config p).seed tenant →
          MayReturn tenant id begun.now (begun.isDeleted id) e.history u)
      (act p (.localGet id)) s := by
    refine keeps_act (fun _ _ _ => trivial) (fun t o ht hinv u hu => ?_)
    have hsafe := @perform_safe env config t hinv p (.localGet id) trivial o
    refine ⟨(hbegun.trans (ht.trans hsafe.2)).trans hu, fun e he htag => ?_⟩
    refine MayReturn.later ?_ (hsafe.2.trans hu)
    simp only [perform, Reply.entry.injEq] at he
    obtain ⟨hfind, hlive⟩ := localGet_snd he
    obtain ⟨w, hw, htag', hhistory, hid⟩ := hinv.mapped p id e hfind
    refine mayReturn_of_live hinv (hbegun.trans ht) (.mapped hfind)
      (by simp only [Shared.secs] at hlive; omega)
      ⟨w, hw, hinj _ _ _ _ (htag'.symm.trans htag), hhistory.symm, hhistory ▸ hid⟩
  refine Program.keeps_bind (hlocal.mono (fun reply t hreply => ?_))
  obtain ⟨ht, hreply⟩ := hreply
  cases reply with
  | entry found =>
    cases found with
    | none => exact keeps_getShared hinj hreads ht
    | some e =>
      dsimp only
      split
      · exact keeps_pure nofun
      · rename_i htag
        refine keeps_pure (fun u hu h hok => ?_)
        cases hok
        exact (hreply e rfl (not_not.mp htag)).later hu
  | _ => exact keeps_getShared hinj hreads ht

theorem keeps_put (history : StoredHistory) :
    Keeps env config (fun _ _ => True) (put env config p tenant history) s := by
  have hend : ∀ {u : Shared} {result : Except HistoryError Unit},
      Keeps env config (fun _ _ => True) (pure result) u := keeps_pure (fun _ _ => trivial)
  unfold put
  split
  · exact hend
  rename_i plaintext hvec
  split
  · exact hend
  refine Program.keeps_bind
    ((keeps_silent (.localPut tenant history .put) (fun _ _ _ => trivial)).mono (fun _ t _ => ?_))
  refine Program.keeps_bind
    ((keeps_silent .connect (fun _ _ _ => trivial)).mono (fun reply u _ => ?_))
  cases reply with
  | done =>
    refine Program.keeps_bind
      ((keeps_silent .nonce (fun _ _ _ => trivial)).mono (fun reply v _ => ?_))
    cases reply with
    | done =>
      refine Program.keeps_bind ((keeps_silent
        (.redis (.set p tenant history plaintext)) (fun _ _ _ => hvec)).mono
          (fun reply w _ => ?_))
      cases reply <;> exact hend
    | _ => exact hend
  | _ => exact hend

theorem keeps_deleteShared (hwrite : ∃ w ∈ s.writes, w.history.responseId = id) :
    Keeps env config (fun _ _ => True) (deleteShared p id) s := by
  have hend : ∀ {u : Shared} {result : Except HistoryError Unit},
      Keeps env config (fun _ _ => True) (pure result) u := keeps_pure (fun _ _ => trivial)
  have hdeleted : ∀ {u : Shared}, s.Later u →
      Keeps env config (fun _ t => u.Later t) (act p (.deleted id)) u := by
    intro u hu
    refine keeps_silent (.deleted id) (fun v hv _ => ?_)
    obtain ⟨w, hw, hid⟩ := hwrite
    exact ⟨w, hv.writes (hu.writes hw), hid⟩
  refine Program.keeps_bind
    ((keeps_silent (.localRemove id) (fun _ _ _ => trivial)).mono (fun _ t ht => ?_))
  refine Program.keeps_bind
    ((keeps_silent .connect (fun _ _ _ => trivial)).mono (fun reply u hu => ?_))
  have hu := ht.trans hu
  cases reply with
  | unavailable => exact Program.keeps_bind ((hdeleted hu).mono (fun _ _ _ => hend))
  | done =>
    refine Program.keeps_bind ((keeps_silent (.redis (.del (redisKey id)))
      (fun _ _ _ => trivial)).mono (fun reply v hv => ?_))
    cases reply with
    | done => exact Program.keeps_bind ((hdeleted (hu.trans hv)).mono (fun _ _ _ => hend))
    | _ => exact hend
  | _ => exact hend

theorem keeps_delete (hinj : env.Injective) (hreads : env.Reads) :
    Keeps env config (fun _ _ => True) (delete env config p tenant id) s := by
  refine Program.keeps_bind ((keeps_get hinj hreads (.refl s)).mono (fun result t hresult => ?_))
  cases result with
  | error => exact keeps_pure (fun _ _ => trivial)
  | ok h =>
    obtain ⟨w, hw, -, hhistory, hid⟩ := (hresult h rfl).1
    exact keeps_deleteShared ⟨w, hw, hhistory ▸ hid⟩

end Programs

/-! ## Every run -/

def Answer.Good (a : Answer) (s : Shared) : Prop :=
  ∀ tenant id h, a.call = .get tenant id → a.result = .ok (some h) →
    MayReturn tenant id a.begun a.deletedBefore h s

theorem keeps_prog (hinj : env.Injective) (hreads : env.Reads) (caller : Caller) (call : Call) :
    Keeps env config (fun a t => a.Good t) (caller.prog env config call) s := by
  have hbegin : Keeps env config
      (fun reply u => ∀ now deleted, reply = .began now deleted →
        ∃ begun : Shared, begun.Later u ∧ now = begun.now ∧ deleted = begun.isDeleted call.id)
      (act caller.process (.begin call.id)) s := by
    refine keeps_act (fun _ _ _ => trivial) (fun t o _ _ u hu now deleted hreply => ?_)
    simp only [perform, Reply.began.injEq] at hreply
    exact ⟨t, hu, hreply.1.symm, hreply.2.symm⟩
  refine Program.keeps_bind (hbegin.mono (fun reply t hreply => ?_))
  have hother : ∀ {u : Shared} {now : Nat} {deleted : Bool}
      {result : Except HistoryError (Option StoredHistory)},
      (∀ h, result ≠ .ok (some h)) →
      Keeps env config (fun (a : Answer) u => a.Good u) (pure ⟨call, now, deleted, result⟩) u :=
    fun hne => keeps_pure (fun _ _ _ _ h _ hok => absurd hok (hne h))
  cases reply with
  | began now deleted =>
    obtain ⟨begun, hbegun, rfl, rfl⟩ := hreply now deleted rfl
    have hsilent : ∀ {op : Op (Except HistoryError Unit)},
        call.run env config caller.process = (op >>= fun result =>
          pure (result.map fun _ => none)) →
        Keeps env config (fun _ _ => True) op t →
        Keeps env config (fun (a : Answer) u => a.Good u)
          (call.run env config caller.process >>= fun result =>
            pure ⟨call, begun.now, begun.isDeleted call.id, result⟩) t := by
      intro op hrun hop
      rw [hrun]
      refine Program.keeps_bind (Program.keeps_bind (hop.mono (fun result u _ => ?_)))
      refine keeps_pure (fun v _ => hother (fun h hok => ?_))
      cases result <;> cases hok
    cases call with
    | put _ history => exact hsilent rfl (keeps_put history)
    | delete => exact hsilent rfl (keeps_delete hinj hreads)
    | get =>
      refine Program.keeps_bind (Program.keeps_bind
        ((keeps_get hinj hreads hbegun).mono (fun result u hresult => ?_)))
      refine keeps_pure (fun v hv => keeps_pure (fun w hw tenant' id' h hcall hok => ?_))
      cases hcall
      cases result with
      | error => cases hok
      | ok =>
        cases hok
        exact (hresult _ rfl).later (hv.trans hw)
  | _ => exact hother (fun h hok => by cases hok)

def Owns (caller : Caller) (s : Shared) : Prop := ∀ a ∈ caller.answers, a.Good s

theorem Answer.Good.later (h : a.Good s) (hlater : s.Later t) : a.Good t :=
  fun tenant id history hcall hok => (h tenant id history hcall hok).later hlater

theorem respects (hinj : env.Injective) (hreads : env.Reads) :
    Threads.Respects (protocol env config) Owns (code env config) where
  stable := fun h hlater a ha => (h a ha).later hlater
  start := fun _ _ _ ha => absurd ha not_mem_nil
  outside := fun h => outside_safe h _
  prog := by
    intro caller call s _ hown
    have hall : Keeps env config (fun a t => s.Later t ∧ a.Good t)
        (caller.prog env config call) s :=
      (keeps_prog hinj hreads caller call).and_later
    refine hall.mono (fun a t hat b hb => ?_)
    rcases mem_cons.mp hb with rfl | hold
    · exact hat.2
    · exact (hown b hold).later hat.1

/-- What a get returned, for which tenant and under which id. -/
def Answer.got (a : Answer) : Option (String × String × StoredHistory) :=
  match a.call, a.result with
  | .get tenant id, .ok (some h) => some (tenant, id, h)
  | _, _ => none

theorem Answer.Good.of_got (h : a.Good s) {tenant : String}
    (hgot : a.got = some (tenant, id, history)) :
    MayReturn tenant id a.begun a.deletedBefore history s := by
  unfold Answer.got at hgot
  split at hgot
  · rename_i hcall hresult
    cases hgot
    exact h _ _ _ hcall hresult
  · cases hgot

section Claims

variable (m : Threads Shared Caller (Nat × Action) Reply Answer)

/-- Every history that a get returned satisfies `P`. -/
def Returns (P : Answer → String → String → StoredHistory → Prop) : Prop :=
  ∀ thread t a tenant id h, m.threads.find? thread = some t → a ∈ t.mine.answers →
    a.got = some (tenant, id, h) → P a tenant id h

def TenantBound : Prop :=
  Returns m fun _ tenant id h =>
    ∃ w ∈ m.shared.writes, w.tenant = tenant ∧ w.history = h ∧ h.responseId = id

def StaysDeleted : Prop := Returns m fun a _ _ _ => a.deletedBefore = false

/-- The retention time after its last put was not over when the get began. -/
def Retained : Prop :=
  Returns m fun a _ id _ =>
    ∃ w ∈ m.shared.writes, w.history.responseId = id ∧ a.begun < w.deadline

end Claims

/-- Responses stay with their tenant in every run. In one without lapses they
also stay deleted and end with their retention time. -/
theorem responses_stay_bound (env : Env) (config : Nat → Config) (hinj : env.Injective)
    (hreads : env.Reads) (events : List (Threads.Event Nat Call Outcome Outside)) :
    TenantBound (runFrom env config events) ∧
      ((runFrom env config events).shared.lapses = [] →
        StaysDeleted (runFrom env config events) ∧ Retained (runFrom env config events)) := by
  have hkept := Threads.kept_run (C := code env config) (respects hinj hreads) inv_start events
  have hmay : ∀ thread t a tenant id h,
      (runFrom env config events).threads.find? thread = some t → a ∈ t.mine.answers →
      a.got = some (tenant, id, h) →
      MayReturn tenant id a.begun a.deletedBefore h (runFrom env config events).shared :=
    fun thread t a _ _ _ ht ha hgot => (hkept.own thread t ht a ha).of_got hgot
  refine ⟨fun thread t a tenant id h ht ha hgot => (hmay thread t a tenant id h ht ha hgot).1,
    fun hclean => ⟨?_, ?_⟩⟩
  · exact fun thread t a tenant id h ht ha hgot =>
      ((hmay thread t a tenant id h ht ha hgot).2 hclean).1
  · exact fun thread t a tenant id h ht ha hgot =>
      ((hmay thread t a tenant id h ht ha hgot).2 hclean).2

/-! ## Two instances -/

/-- Tenants are their own tags, and one response has a text. -/
def plainEnv : Env where
  scopeTag := fun _ tenant => utf8 tenant.toList
  toVec := fun envelope =>
    match envelope with
    | ⟨tag, ⟨id, model, [], createdAt, none, none⟩⟩ =>
      if id = "resp" ∧ model = "model" ∧ createdAt = 0 then some tag else none
    | _ => none
  fromSlice := fun bytes => some ⟨bytes, ⟨"resp", "model", [], 0, none, none⟩⟩

theorem plainEnv_injective : plainEnv.Injective := by
  intro _ _ a b h
  have htext := congrArg fromUtf8 h
  rw [plainEnv, fromUtf8_utf8, fromUtf8_utf8, some.injEq] at htext
  exact String.toList_inj.mp htext

theorem plainEnv_reads : plainEnv.Reads := by
  intro envelope bytes h
  simp only [plainEnv] at h ⊢
  split at h
  · split at h
    · rename_i hsame
      obtain ⟨rfl, rfl, rfl⟩ := hsame
      rw [some.inj h]
    · cases h
  · cases h

def slots : Nat → Config := fun _ => ⟨[1], 60, 16, true⟩

def response : StoredHistory := ⟨"resp", "model", [], 0, none, none⟩

def calls (thread : Nat) (call : Call) : List (Threads.Event Nat Call Outcome Outside) :=
  .call thread call :: List.replicate 8 (.step thread ⟨true, 0⟩)

def readElsewhere (after : Nat) : List (Threads.Event Nat Call Outcome Outside) :=
  [.begin 0 0, .begin 1 1] ++ calls 0 (.put "tenant" response) ++ [.outside (.tick after)] ++
    calls 1 (.get "tenant" "resp")

def deletedElsewhere : List (Threads.Event Nat Call Outcome Outside) :=
  readElsewhere 0 ++ calls 0 (.delete "tenant" "resp") ++ calls 1 (.get "tenant" "resp")

def readAgain : List (Threads.Event Nat Call Outcome Outside) :=
  readElsewhere 59000 ++ [.outside (.tick 59000)] ++ calls 1 (.get "tenant" "resp")

/-- The second caller got a history with an answer that `p` holds of. -/
def gotWith (p : Answer → Bool) (m : Threads Shared Caller (Nat × Action) Reply Answer) : Bool :=
  (m.threads.find? 1).any fun t => t.mine.answers.any fun a => a.got.isSome && p a

theorem not_returns {p : Answer → Bool} {P : Answer → String → String → StoredHistory → Prop}
    {m : Threads Shared Caller (Nat × Action) Reply Answer} (h : gotWith p m = true)
    (hp : ∀ a tenant id h, p a = true → ¬ P a tenant id h) : ¬ Returns m P := by
  intro hall
  obtain ⟨t, ht, hany⟩ := (Option.any_eq_true _ _).mp h
  obtain ⟨a, ha, hgot⟩ := List.any_eq_true.mp hany
  rw [Bool.and_eq_true] at hgot
  obtain ⟨⟨tenant, id, history⟩, hgot'⟩ := isSome_iff_exists.mp hgot.1
  exact hp a tenant id history hgot.2 (hall 1 t a tenant id history ht ha hgot')

/-- A process returns from its cache what another one deleted, and what is past its
retention. -/
theorem deleted_response_returned :
    (Lapse.reused ∉ (runFrom plainEnv slots deletedElsewhere).shared.lapses ∧
      ¬ StaysDeleted (runFrom plainEnv slots deletedElsewhere)) ∧
    Lapse.reused ∉ (runFrom plainEnv slots readAgain).shared.lapses ∧
      ¬ Retained (runFrom plainEnv slots readAgain) := by
  refine ⟨⟨by decide +kernel, ?_⟩, by decide +kernel, ?_⟩
  · refine not_returns (p := Answer.deletedBefore) (by decide +kernel) ?_
    intro a _ _ _ hdeleted hkept
    rw [hkept] at hdeleted
    cases hdeleted
  · refine not_returns
      (p := fun a => (runFrom plainEnv slots readAgain).shared.writes.all
        fun w => w.deadline ≤ a.begun)
      (by decide +kernel) ?_
    rintro a _ _ _ hover ⟨w, hw, -, hlive⟩
    have hends := all_eq_true.mp hover w hw
    simp only [guard_iffs] at hends
    omega

/-- Within the retention time: a put, a read, a delete, and a read elsewhere. -/
def deletedInTime : List (Threads.Event Nat Call Outcome Outside) :=
  [.begin 0 0, .begin 1 1] ++ calls 0 (.put "tenant" response) ++
    calls 0 (.get "tenant" "resp") ++ [.outside (.tick 900)] ++
    calls 0 (.delete "tenant" "resp") ++ calls 1 (.get "tenant" "resp")

/-- Nothing lapses in it. -/
theorem read_stays_bound :
    (runFrom plainEnv slots deletedInTime).shared.lapses = [] ∧
      StaysDeleted (runFrom plainEnv slots deletedInTime) ∧
      Retained (runFrom plainEnv slots deletedInTime) := by
  have hclean : (runFrom plainEnv slots deletedInTime).shared.lapses = [] := by
    decide +kernel
  exact ⟨hclean, (responses_stay_bound plainEnv slots plainEnv_injective plainEnv_reads
    deletedInTime).2 hclean⟩

end ApiToken.History
