import ApiToken.Lib.Run
import ApiToken.Lib.Table

/-!
# Cooldowns across a restart

Gemini keeps the cooling deadline of each profile and model in memory and
writes it to one shared file, from which a process that starts restores those
that still lie ahead. A call of `cool_model_until` raises the deadline in
memory, reads the file, writes the changed document under a temporary name and
renames it; the calls of all requests interleave between these steps. The
document is its own JSON text here, and the state file is configured.
-/

namespace ApiToken.Forward.Cooldowns

/-! ## The file -/

/-- The deadline of a profile and a model. -/
abbrev CooldownState := String → String → Option Int

namespace CooldownState

def empty : CooldownState := fun _ _ => none

def set (document : CooldownState) (profile model : String) (deadline : Option Int) :
    CooldownState :=
  fun p m => if p = profile ∧ m = model then deadline else document p m

theorem set_self (d : CooldownState) (profile model : String) (deadline : Option Int) :
    d.set profile model deadline profile model = deadline :=
  if_pos ⟨rfl, rfl⟩

theorem set_other (d : CooldownState) {profile model p m : String} (deadline : Option Int)
    (h : ¬ (p = profile ∧ m = model)) : d.set profile model deadline p m = d p m :=
  if_neg h

end CooldownState

def active (now : Int) (deadline : Option Int) : Option Int :=
  deadline.filter (now < ·)

def loadActiveCooldowns (file : Option CooldownState) (now : Int) : CooldownState :=
  fun profile model => active now (file.getD .empty profile model)

theorem active_active {now later : Int} (h : now ≤ later) (deadline : Option Int) :
    active later (active now deadline) = active later deadline := by
  rw [active, active, active, Option.filter_filter]
  congr 1
  funext d
  by_cases hd : later < d
  · have hnow : now < d := by omega
    simp [hd, hnow]
  · simp [hd]

theorem active_later {now later : Int} {a b : Option Int} (h : now ≤ later)
    (hsame : active now a = active now b) : active later a = active later b := by
  rw [← active_active h a, hsame, active_active h b]

/-! ## The process -/

/-- A profile as it is loaded; `source` stands for what `matches` compares. -/
structure LoadedProfile where
  id : String
  source : Nat
deriving DecidableEq

/-- A profile object; `modelHealth` holds the `cooling_until` of each model. -/
structure GeminiProfile where
  loaded : LoadedProfile
  modelHealth : String → Int

def GeminiProfile.new (loaded : LoadedProfile) (restored : CooldownState) : GeminiProfile :=
  ⟨loaded, fun model => (restored loaded.id model).getD 0⟩

/-- How far a call of `cool_model_until` is. -/
inductive Progress where
  | marked
  | read (document : CooldownState)
  | written

def Progress.isMarked : Progress → Bool
  | .marked => true
  | _ => false

/-- A `cool` whose file is not yet replaced. -/
structure Call where
  profile : String
  model : String
  /-- `persisted_until`. -/
  deadline : Int
  progress : Progress

/-- The profiles in memory, their file, and the calls under way. -/
structure Process where
  now : Int
  /-- Every object ever made: a request holds on to one that was replaced. -/
  objects : List GeminiProfile
  /-- The roster, by the places of its objects. -/
  profiles : List Nat
  file : Option CooldownState
  tmp : Option CooldownState
  calls : Table Nat Call
  /-- What the file is to say: the largest deadline since the last success. -/
  largest : CooldownState

namespace Process

def start (now : Int) (loaded : List LoadedProfile) (file tmp : Option CooldownState) :
    Process where
  now
  objects := loaded.map (GeminiProfile.new · (loadActiveCooldowns file now))
  profiles := List.range loaded.length
  file
  tmp
  calls := .empty
  largest := loadActiveCooldowns file now

def document (s : Process) : CooldownState := s.file.getD .empty

/-- The largest deadline once `deadline` is set. -/
def raised (s : Process) (profile model : String) (deadline : Int) : Int :=
  (s.largest profile model).elim deadline (max deadline)

def setCooling (s : Process) (object : Nat) (profile : GeminiProfile) (model : String)
    (deadline : Int) : List GeminiProfile :=
  s.objects.set object
    { profile with modelHealth := Function.update profile.modelHealth model deadline }

/-- The part of `cool_model_until` under the lock of the health map. -/
def coolModelUntil (s : Process) (thread object : Nat) (model : String) (deadline : Int) :
    Process :=
  match s.objects[object]?, s.calls.find? thread with
  | some profile, none =>
    { s with
      objects := s.setCooling object profile model (max (profile.modelHealth model) deadline)
      calls := s.calls.put thread
        ⟨profile.loaded.id, model, max (profile.modelHealth model) deadline, .marked⟩
      largest := s.largest.set profile.loaded.id model
        (some (s.raised profile.loaded.id model deadline)) }
  | _, _ => s

/-- `persist_model_cooling` reads the file and inserts its entry. -/
def readCooldownState (s : Process) (thread : Nat) : Process :=
  match s.calls.find? thread with
  | some ⟨profile, model, deadline, .marked⟩ =>
    { s with calls := s.calls.put thread ⟨profile, model, deadline,
        .read (s.document.set profile model (some deadline))⟩ }
  | _ => s

def writeTmp (s : Process) (thread : Nat) : Process :=
  match s.calls.find? thread with
  | some ⟨profile, model, deadline, .read document⟩ =>
    { s with
      tmp := some document
      calls := s.calls.put thread ⟨profile, model, deadline, .written⟩ }
  | _ => s

def renameTmp (s : Process) (thread : Nat) : Process :=
  match s.calls.find? thread with
  | some ⟨_, _, _, .written⟩ =>
    { s with
      file := s.tmp.or s.file
      tmp := none
      calls := s.calls.delete (fun t _ => t == thread) }
  | _ => s

def markModelSuccess (s : Process) (object : Nat) (model : String) : Process :=
  match s.objects[object]? with
  | some profile =>
    { s with
      objects := s.setCooling object profile model 0
      largest := s.largest.set profile.loaded.id model none }
  | none => s

/-- `mark_model_failure` cools in memory only. -/
def markModelFailure (s : Process) (object : Nat) (model : String) (deadline : Int) :
    Process :=
  match s.objects[object]? with
  | some profile =>
    { s with
      objects := s.setCooling object profile model (max (profile.modelHealth model) deadline) }
  | none => s

/-- The loop of `reload_profiles`: an object that matches stays. -/
def reloadFrom (current : List Nat) (restored : CooldownState) :
    List LoadedProfile → List GeminiProfile → List Nat × List GeminiProfile
  | [], objects => ([], objects)
  | loaded :: rest, objects =>
    match current.find? (fun i => objects[i]?.any (·.loaded == loaded)) with
    | some i =>
      let (next, objects) := reloadFrom current restored rest objects
      (i :: next, objects)
    | none =>
      let (next, all) := reloadFrom current restored rest (objects ++ [.new loaded restored])
      (objects.length :: next, all)

def reloadProfiles (s : Process) (loaded : List LoadedProfile) : Process :=
  let (profiles, objects) :=
    reloadFrom s.profiles (loadActiveCooldowns s.file s.now) loaded s.objects
  { s with profiles, objects }

end Process

/-! ## Runs -/

inductive Step where
  | cool (thread object : Nat) (model : String) (deadline : Int)
  | read (thread : Nat)
  | write (thread : Nat)
  | rename (thread : Nat)
  | succeed (object : Nat) (model : String)
  | fail (object : Nat) (model : String) (deadline : Int)
  | reload (loaded : List LoadedProfile)
  | clock (now : Int)

def exec (s : Process) : Step → Process
  | .cool thread object model deadline => s.coolModelUntil thread object model deadline
  | .read thread => s.readCooldownState thread
  | .write thread => s.writeTmp thread
  | .rename thread => s.renameTmp thread
  | .succeed object model => s.markModelSuccess object model
  | .fail object model deadline => s.markModelFailure object model deadline
  | .reload loaded => s.reloadProfiles loaded
  | .clock now => { s with now := max s.now now }

def Process.quiet (s : Process) : Bool := s.calls.rows.isEmpty

def Restores (s : Process) : Prop :=
  ∀ profile model,
    loadActiveCooldowns s.file s.now profile model = active s.now (s.largest profile model)

def Carries (s : Process) (call : Call) : Prop :=
  active s.now (some call.deadline) = active s.now (s.largest call.profile call.model)

instance (s : Process) (call : Call) : Decidable (Carries s call) :=
  inferInstanceAs (Decidable (_ = _))

/-- The object knows the largest deadline, or the new one is larger; a success
comes when no deadline is due; the file is read when no call is between its read
and its rename, and by a call that carries the largest deadline or leaves one
that does to read after it. -/
def Meets (s : Process) : Step → Prop
  | .cool _ object model deadline => ∀ profile ∈ s.objects[object]?,
      active s.now (some (max (profile.modelHealth model) deadline)) =
        active s.now (some (s.raised profile.loaded.id model deadline))
  | .succeed object model => ∀ profile ∈ s.objects[object]?,
      active s.now (s.largest profile.loaded.id model) = none
  | .read thread => ∀ call ∈ s.calls.find? thread,
      s.calls.any (fun _ c => !c.progress.isMarked) = false ∧
        (Carries s call ∨ s.calls.any (fun other c => other != thread &&
          c.profile == call.profile && c.model == call.model && decide (Carries s c)) = true)
  | _ => True

instance (s : Process) : (step : Step) → Decidable (Meets s step)
  | .cool .. => inferInstanceAs (Decidable (∀ profile ∈ _, _))
  | .succeed .. => inferInstanceAs (Decidable (∀ profile ∈ _, _))
  | .read .. => inferInstanceAs (Decidable (∀ call ∈ _, _))
  | .write .. | .rename .. | .fail .. | .reload .. | .clock .. =>
    inferInstanceAs (Decidable True)

/-! ## The invariant -/

/-- The document that the file holds or is about to: of the calls at most one
is between its read and its rename. -/
inductive Coming (s : Process) (next : CooldownState) : Prop where
  | idle (marked : ∀ thread c, s.calls.find? thread = some c → c.progress = .marked)
      (file : s.document = next)
  | under (thread : Nat) (call : Call) (find : s.calls.find? thread = some call)
      (holds : call.progress = .read next ∨ call.progress = .written ∧ s.tmp = some next)
      (others : ∀ t c, s.calls.find? t = some c → t ≠ thread → c.progress = .marked)

/-- A call that has yet to read carries the deadline. -/
def Awaited (s : Process) (profile model : String) : Prop :=
  ∃ thread c, s.calls.find? thread = some c ∧ c.progress = .marked ∧
    c.profile = profile ∧ c.model = model ∧ Carries s c

/-- Every deadline still due is in the document or has yet to be read for. -/
def Inv (s : Process) : Prop :=
  ∃ next, Coming s next ∧ ∀ profile model,
    active s.now (next profile model) = active s.now (s.largest profile model) ∨
      Awaited s profile model

variable {s s' : Process} {thread object : Nat} {model : String} {deadline : Int} {call : Call}
  {next : CooldownState}

theorem Inv.frame (h : Inv s) (hcalls : s'.calls = s.calls) (hfile : s'.file = s.file)
    (htmp : s'.tmp = s.tmp) (hactive : ∀ profile model a,
      active s.now a = active s.now (s.largest profile model) →
        active s'.now a = active s'.now (s'.largest profile model)) : Inv s' := by
  obtain ⟨next, hcoming, hdue⟩ := h
  refine ⟨next, ?_, fun profile model => ?_⟩
  · cases hcoming with
    | idle marked file =>
      refine .idle (hcalls ▸ marked) ?_
      rw [← file, Process.document, hfile]
      rfl
    | under thread call find holds others =>
      exact .under thread call (hcalls ▸ find) (htmp ▸ holds) (hcalls ▸ others)
  · rcases hdue profile model with heq | ⟨thread, c, hfind, hmarked, rfl, rfl, hcarries⟩
    · exact .inl (hactive _ _ _ heq)
    · exact .inr ⟨thread, c, hcalls ▸ hfind, hmarked, rfl, rfl, hactive _ _ _ hcarries⟩

theorem inv_start (now : Int) (loaded : List LoadedProfile) (file tmp : Option CooldownState) :
    Inv (.start now loaded file tmp) :=
  ⟨file.getD .empty, .idle nofun rfl, fun _ _ => .inl (active_active le_rfl _).symm⟩

/-- A new call has yet to read; the others are as they were. -/
theorem inv_cool (h : Inv s) (hmeets : Meets s (.cool thread object model deadline)) :
    Inv (s.coolModelUntil thread object model deadline) := by
  unfold Process.coolModelUntil
  split
  · next profile hobject hfree =>
    obtain ⟨next, hcoming, hdue⟩ := h
    have hkept : ∀ t c, s.calls.find? t = some c → t ≠ thread := by
      rintro t c hfind rfl
      rw [hfree] at hfind
      cases hfind
    refine ⟨next, ?_, fun p m => ?_⟩
    · cases hcoming with
      | idle marked file =>
        refine .idle (fun t c hfind => ?_) file
        rcases find?_put_cases hfind with ⟨-, rfl⟩ | hold
        · rfl
        · exact marked t c hold
      | under t0 call find holds others =>
        refine .under t0 call ?_ holds fun t c hfind hne => ?_
        · rw [find?_put_ne _ _ (hkept t0 call find).symm, find]
        · rcases find?_put_cases hfind with ⟨-, rfl⟩ | hold
          · rfl
          · exact others t c hold hne
    · by_cases hpair : p = profile.loaded.id ∧ m = model
      · obtain ⟨rfl, rfl⟩ := hpair
        refine .inr ⟨thread, _, find?_put_self .., rfl, rfl, rfl, ?_⟩
        simp only [Carries, CooldownState.set_self]
        exact hmeets profile hobject
      · have hsame := congrArg (active s.now) (CooldownState.set_other s.largest
          (some (s.raised profile.loaded.id model deadline)) hpair).symm
        rcases hdue p m with heq | ⟨t, c, hfind, hmarked, rfl, rfl, hcarries⟩
        · exact .inl (heq.trans hsame)
        · refine .inr ⟨t, c, ?_, hmarked, rfl, rfl,
            hcarries.trans hsame⟩
          rw [find?_put_ne _ _ (hkept t c hfind).symm, hfind]
  · exact h

/-- A success at a time when nothing is due changes nothing that counts. -/
theorem inv_succeed (h : Inv s) (hmeets : Meets s (.succeed object model)) :
    Inv (s.markModelSuccess object model) := by
  unfold Process.markModelSuccess
  split
  · next profile hobject =>
    refine h.frame rfl rfl rfl fun p m a heq => ?_
    by_cases hpair : p = profile.loaded.id ∧ m = model
    · obtain ⟨rfl, rfl⟩ := hpair
      have hnone := CooldownState.set_self s.largest profile.loaded.id m none
      exact (heq.trans (hmeets profile hobject)).trans (congrArg (active s.now) hnone.symm)
    · have hsame := CooldownState.set_other s.largest none hpair
      exact heq.trans (congrArg (active s.now) hsame.symm)
  · exact h

theorem inv_read (h : Inv s) (hmeets : Meets s (.read thread)) :
    Inv (s.readCooldownState thread) := by
  unfold Process.readCooldownState
  split
  · next profile model deadline hcall =>
    obtain ⟨next, hcoming, hdue⟩ := h
    obtain ⟨hmarked, hcarries⟩ := hmeets _ hcall
    rw [any_eq_false_iff] at hmarked
    have hall : ∀ t c, s.calls.find? t = some c → c.progress = .marked := by
      intro t c hfind
      have := hmarked t c hfind
      cases hp : c.progress <;> simp_all [Progress.isMarked]
    obtain rfl : s.document = next := by
      cases hcoming with
      | idle _ file => exact file
      | under t c find holds =>
        rw [hall t c find] at holds
        rcases holds with hread | ⟨hwritten, -⟩
        · cases hread
        · cases hwritten
    refine ⟨_, .under thread _ (find?_put_self ..) (.inl rfl) fun t c hfind hne => ?_,
      fun p m => ?_⟩
    · rw [find?_put_ne _ _ hne.symm] at hfind
      exact hall t c hfind
    · -- an awaited call of another thread is still awaited
      have hawait : ∀ {t c}, t ≠ thread → s.calls.find? t = some c → c.profile = p →
          c.model = m → Carries s c → Awaited { s with calls := s.calls.put thread ⟨profile,
            model, deadline, .read (s.document.set profile model (some deadline))⟩ } p m :=
        fun {t c} hne hfind hp hm hc =>
          ⟨t, c, by rw [find?_put_ne _ _ hne.symm, hfind], hall t c hfind, hp, hm, hc⟩
      by_cases hpair : p = profile ∧ m = model
      · obtain ⟨rfl, rfl⟩ := hpair
        rw [CooldownState.set_self]
        rcases hcarries with hself | hother
        · exact .inl hself
        · obtain ⟨t, c, hfind, hc⟩ := any_eq_true_iff.mp hother
          simp only [guard_iffs, bne_iff_ne] at hc
          exact .inr (hawait hc.1.1.1 hfind hc.1.1.2 hc.1.2 hc.2)
      · rw [CooldownState.set_other _ _ hpair]
        rcases hdue p m with heq | ⟨t, c, hfind, -, hp, hm, hc⟩
        · exact .inl heq
        · refine .inr (hawait ?_ hfind hp hm hc)
          rintro rfl
          rw [hcall] at hfind
          cases hfind
          exact hpair ⟨hp.symm, hm.symm⟩
  · exact h

theorem Coming.the (h : Coming s next) (hfind : s.calls.find? thread = some call)
    (hnot : call.progress ≠ .marked) :
    (call.progress = .read next ∨ call.progress = .written ∧ s.tmp = some next) ∧
      ∀ t c, s.calls.find? t = some c → t ≠ thread → c.progress = .marked := by
  cases h with
  | idle marked => exact absurd (marked thread call hfind) hnot
  | under t0 c0 find holds others =>
    by_cases heq : thread = t0
    · subst heq
      rw [hfind] at find
      cases find
      exact ⟨holds, others⟩
    · exact absurd (others thread call hfind heq) hnot

theorem Awaited.keep {profile : String} (h : Awaited s profile model)
    (hfind : s.calls.find? thread = some call) (hnot : call.progress ≠ .marked)
    (hnow : s'.now = s.now) (hlargest : s'.largest = s.largest)
    (hcalls : ∀ t c, t ≠ thread → s.calls.find? t = some c → s'.calls.find? t = some c) :
    Awaited s' profile model := by
  obtain ⟨t, c, hc, hmarked, hp, hm, hcarries⟩ := h
  have hne : t ≠ thread := by
    rintro rfl
    rw [hfind] at hc
    cases hc
    exact hnot hmarked
  refine ⟨t, c, hcalls t c hne hc, hmarked, hp, hm, ?_⟩
  rw [Carries, hnow, hlargest]
  exact hcarries

theorem inv_write (h : Inv s) : Inv (s.writeTmp thread) := by
  unfold Process.writeTmp
  split
  · next profile model deadline document hcall =>
    obtain ⟨next, hcoming, hdue⟩ := h
    obtain ⟨hholds, hothers⟩ := hcoming.the hcall nofun
    obtain rfl : document = next := by simpa using hholds
    refine ⟨document, .under thread _ (find?_put_self ..) (.inr ⟨rfl, rfl⟩)
      fun t c hfind hne => ?_, fun p m => (hdue p m).imp_right fun hawait => ?_⟩
    · rw [find?_put_ne _ _ hne.symm] at hfind
      exact hothers t c hfind hne
    · refine hawait.keep hcall nofun rfl rfl fun t c hne hfind => ?_
      rw [find?_put_ne _ _ hne.symm, hfind]
  · exact h

theorem inv_rename (h : Inv s) : Inv (s.renameTmp thread) := by
  unfold Process.renameTmp
  split
  · next hcall =>
    obtain ⟨next, hcoming, hdue⟩ := h
    obtain ⟨hholds, hothers⟩ := hcoming.the hcall nofun
    obtain ⟨-, htmp⟩ := hholds.resolve_left nofun
    refine ⟨next, .idle (fun t c hfind => ?_) ?_,
      fun p m => (hdue p m).imp_right fun hawait => ?_⟩
    · obtain ⟨hold, hne⟩ := find?_delete.mp hfind
      exact hothers t c hold (by simpa using hne)
    · simp [Process.document, htmp]
    · refine hawait.keep hcall nofun rfl rfl fun t c hne hfind => ?_
      exact find?_delete.mpr ⟨hfind, by simpa using hne⟩
  · exact h

theorem inv_exec (s : Process) (step : Step) (h : Inv s) (hmeets : Meets s step) :
    Inv (exec s step) := by
  cases step with
  | cool => exact inv_cool h hmeets
  | read => exact inv_read h hmeets
  | write => exact inv_write h
  | rename => exact inv_rename h
  | succeed => exact inv_succeed h hmeets
  | fail object model deadline =>
    simp only [exec, Process.markModelFailure]
    split
    · exact h.frame rfl rfl rfl fun _ _ _ heq => heq
    · exact h
  | reload loaded => exact h.frame rfl rfl rfl fun _ _ _ heq => heq
  | clock now =>
    exact h.frame rfl rfl rfl fun _ _ _ heq => active_later (Int.le_max_left ..) heq

theorem Inv.restores (h : Inv s) (hquiet : s.quiet = true) : Restores s := by
  have hnone : ∀ thread c, s.calls.find? thread ≠ some c := by
    intro thread c hfind
    have hmem := mem_of_find? hfind
    rw [List.isEmpty_iff.mp hquiet] at hmem
    cases hmem
  obtain ⟨next, hcoming, hdue⟩ := h
  intro profile model
  cases hcoming with
  | idle _ file =>
    subst file
    rcases hdue profile model with heq | ⟨thread, c, hfind, -⟩
    · exact heq
    · exact absurd hfind (hnone thread c)
  | under thread call find => exact absurd find (hnone thread call)

/-- In every run whose steps meet the condition, whatever the process found
when it started. -/
theorem cooldowns_survive (now : Int) (loaded : List LoadedProfile)
    (file tmp : Option CooldownState) (steps : List Step)
    (hmeets : Along exec Meets (.start now loaded file tmp) steps)
    (hquiet : (run exec (.start now loaded file tmp) steps).quiet = true) :
    Restores (run exec (.start now loaded file tmp) steps) :=
  (run_invariant_along inv_exec (inv_start now loaded file tmp) hmeets).restores hquiet

def twoProfiles : Process := .start 0 [⟨"a", 0⟩, ⟨"b", 0⟩] none none

/-- One after the other, with an overlap before the file is read. -/
theorem cooldowns_survive_twice :
    Restores (run exec twoProfiles [.cool 0 0 "m" 100, .cool 1 1 "m" 90, .read 0, .write 0,
      .rename 0, .read 1, .write 1, .rename 1, .clock 95]) :=
  cooldowns_survive 0 _ none none _ (by decide +kernel) (by decide +kernel)

def cooled (object : Nat) (deadline : Int) : List Step :=
  [.cool 0 object "m" deadline, .read 0, .write 0, .rename 0]

/-- An entry is lost when two calls overlap, comes back after a success, and is
lowered through the object that a reload has made. -/
theorem cooldown_not_restored :
    (¬ ∀ steps : List Step, (run exec twoProfiles steps).quiet = true →
      Restores (run exec twoProfiles steps)) ∧
    ¬ Restores (run exec twoProfiles (cooled 0 100 ++ [.succeed 0 "m"])) ∧
    ¬ Restores (run exec twoProfiles (cooled 0 100 ++ [.reload [⟨"a", 1⟩]] ++ cooled 0 200
      ++ cooled 2 150)) := by
  refine ⟨fun hall => ?_, fun h => ?_, fun h => ?_⟩
  · have hlost := hall [.cool 0 0 "m" 100, .cool 1 1 "m" 100, .read 0, .read 1, .write 0,
      .write 1, .rename 0, .rename 1] (by decide +kernel) "a" "m"
    exact absurd hlost (by decide +kernel)
  · exact absurd (h "a" "m") (by decide +kernel)
  · exact absurd (h "a" "m") (by decide +kernel)

end ApiToken.Forward.Cooldowns
