import ApiToken.Lib.Run
import ApiToken.Pool.Availability
import ApiToken.Pool.Frames

/-!
# Death of a token

Beside the pool a run keeps, for one subscription, the failed probes since
the verdict was last cleared, whether a verdict was imported since, and the
token the roster last listed. A subscription dies of a failed probe only on
the evidence of an earlier one, and a new token revives it, as long as the
fingerprint the verdict carries tells the new token from the old. An entry
that was never probed carries none: a subscription killed by the operator
stays dead under its new token.
-/

namespace ApiToken.Pool

variable {c : Config} {e : String} {now : Int}

/-- The pool and what is known about the verdict on one subscription. -/
structure Watch where
  pool : Inner
  token : Option String
  evidence : List (String × Int)
  imported : Bool

def Watch.new (e : String) (r : Roster) : Watch :=
  ⟨.new r, (r.find? e).map Sub.token, [], false⟩

def rejects (http : Nat) : Bool := http = 401 || http = 403

/-- The reload lists the subscription with a token other than its last. -/
def Retokens (e : String) (w : Watch) (r : Roster) : Prop :=
  ∃ s old, r.find? e = some s ∧ w.token = some old ∧ s.token ≠ old

instance (e : String) (w : Watch) (r : Roster) : Decidable (Retokens e w r) :=
  match hs : r.find? e, ht : w.token with
  | some s, some old => decidable_of_iff (s.token ≠ old) (by simp [Retokens, hs, ht])
  | none, _ => isFalse (by simp [Retokens, hs])
  | some _, none => isFalse (by simp [Retokens, ht])

def Clears (e : String) (w : Watch) : Op → Prop
  | .recordProbe email http _ => email = e ∧ 200 ≤ http ∧ http < 300
  | .markHealthy email => email = e
  | .revive email => email = e ∧ e ∈ w.pool.roster.emails
  | .replaceSubs r => Retokens e w r
  | _ => False

instance (e : String) (w : Watch) : (op : Op) → Decidable (Clears e w op)
  | .recordProbe email http _ =>
    inferInstanceAs (Decidable (email = e ∧ 200 ≤ http ∧ http < 300))
  | .markHealthy email => inferInstanceAs (Decidable (email = e))
  | .revive email => inferInstanceAs (Decidable (email = e ∧ e ∈ w.pool.roster.emails))
  | .replaceSubs r => inferInstanceAs (Decidable (Retokens e w r))
  | .setPlan .. | .pick .. | .routeOperatorTarget .. | .routeAffinity ..
  | .route .. | .markUsed .. | .importHealth .. | .kill .. | .requestProbe ..
  | .endStream .. | .markCooling .. | .cool .. | .markDone .. | .recordSpend ..
  | .setUtil .. | .setQuotaSnapshots .. | .importState ..
  | .acceptPersistVersions .. | .mergePersistedState .. => inferInstanceAs (Decidable False)

/-- The failed probe a call reports of the subscription. -/
def Op.failure (e : String) (now : Int) : Op → List (String × Int)
  | .recordProbe email http fp => if email = e && rejects http then [(fp, now)] else []
  | _ => []

def Imports (e : String) (w : Watch) : Op → Bool
  | .importHealth rows => e ∈ w.pool.roster.emails && rows.any (fun r => r.email = e)
  | _ => false

def Watch.step (c : Config) (e : String) (w : Watch) (t : Int × Op) : Watch where
  pool := exec c w.pool t.1 t.2
  token :=
    match t.2 with
    | .replaceSubs r => ((r.find? e).map Sub.token).or w.token
    | _ => w.token
  evidence := if Clears e w t.2 then [] else t.2.failure e t.1 ++ w.evidence
  imported := if Clears e w t.2 then false else w.imported || Imports e w t.2

/-! ## The property of a step -/

/-- The call kills the subscription or imports a verdict on it. -/
def Orders (e : String) (w : Watch) : Op → Bool
  | .kill email _ => email = e
  | op => Imports e w op

/-- A death on the evidence of probes needs two of them, of the listed token
and far enough apart; a new token revives. -/
structure Corroborated (c : Config) (e : String) (w : Watch) (t : Int × Op) :
    Prop where
  death : isDead w.pool e = false → isDead (exec c w.pool t.1 t.2) e = true →
    Orders e w t.2 = false → w.imported = false →
    ∃ s http earlier, w.pool.roster.find? e = some s ∧
      t.2 = .recordProbe e http (c.tokenFp s.token) ∧ rejects http = true ∧
      (c.tokenFp s.token, earlier) ∈ w.evidence ∧ earlier + deadMinSecs ≤ t.1
  revival : ∀ r, t.2 = .replaceSubs r → Retokens e w r →
    isDead w.pool e = true →
    ((exec c w.pool t.1 t.2).entry e).authState = .healthy

/-! ## The condition on a step -/

def Completes (e : String) (w : Watch) (now : Int) (fp : String) : Prop :=
  let l := w.pool.entry e
  l.authTokenFp = fp ∧ l.firstAuthFailTs ≠ 0 ∧
    l.authFailStreak + 1 ≥ deadStreak ∧ now - l.firstAuthFailTs ≥ deadMinSecs

/-- A failed probe names its token, and one that completes a series is of the
token the roster lists. A reload with a new token finds the verdict marked
with another token, or finds nothing against the old one. -/
def Tied (c : Config) (e : String) (w : Watch) (t : Int × Op) : Prop :=
  match t.2 with
  | .recordProbe email http fp => email = e → rejects http = true →
      fp ≠ "" ∧ (Completes e w t.1 fp → ∃ s ∈ w.pool.roster.find? e, c.tokenFp s.token = fp)
  | .replaceSubs r => Retokens e w r → ∀ s ∈ r.find? e,
      let l := w.pool.entry e
      (l.authTokenFp ≠ "" ∧ l.authTokenFp ≠ c.tokenFp s.token) ∨
        (l.authState ≠ .dead ∧ l.firstAuthFailTs = 0)
  | _ => True

instance (e : String) (w : Watch) (now : Int) (fp : String) :
    Decidable (Completes e w now fp) :=
  inferInstanceAs (Decidable ((w.pool.entry e).authTokenFp = fp ∧
    (w.pool.entry e).firstAuthFailTs ≠ 0 ∧
    (w.pool.entry e).authFailStreak + 1 ≥ deadStreak ∧
    now - (w.pool.entry e).firstAuthFailTs ≥ deadMinSecs))

instance (c : Config) (e : String) (w : Watch) : (t : Int × Op) →
    Decidable (Tied c e w t)
  | (now, .recordProbe email http fp) =>
    inferInstanceAs (Decidable (email = e → rejects http = true →
      fp ≠ "" ∧ (Completes e w now fp → ∃ s ∈ w.pool.roster.find? e, c.tokenFp s.token = fp)))
  | (_, .replaceSubs r) =>
    inferInstanceAs (Decidable (Retokens e w r → ∀ s ∈ r.find? e,
      ((w.pool.entry e).authTokenFp ≠ "" ∧ (w.pool.entry e).authTokenFp ≠ c.tokenFp s.token) ∨
      ((w.pool.entry e).authState ≠ .dead ∧ (w.pool.entry e).firstAuthFailTs = 0)))
  | (_, .setPlan ..) | (_, .pick ..) | (_, .routeOperatorTarget ..)
  | (_, .routeAffinity ..) | (_, .route ..) | (_, .markUsed ..)
  | (_, .markHealthy ..) | (_, .importHealth ..) | (_, .revive ..) | (_, .kill ..)
  | (_, .requestProbe ..) | (_, .endStream ..) | (_, .markCooling ..)
  | (_, .cool ..) | (_, .markDone ..) | (_, .recordSpend ..) | (_, .setUtil ..)
  | (_, .setQuotaSnapshots ..) | (_, .importState ..)
  | (_, .acceptPersistVersions ..) | (_, .mergePersistedState ..) =>
    inferInstanceAs (Decidable True)

/-! ## Verdicts after a probe -/

section Probe

variable {l : Live} {http : Nat} {fp : String}

theorem retokened_other (hfp : fp ≠ "") (hne : l.authTokenFp ≠ fp) :
    (retokened l fp).verdict = ⟨.healthy, 0, 0, fp⟩ := by
  unfold retokened
  rw [if_pos ⟨hfp, hne⟩]
  rfl

theorem retokened_same (heq : l.authTokenFp = fp ∨ fp = "") : retokened l fp = l := by
  unfold retokened
  rw [if_neg]
  rintro ⟨hfp, hne⟩
  rcases heq with heq | heq
  · exact hne heq
  · exact hfp heq

theorem authFailed_first :
    (authFailed l http now).firstAuthFailTs
      = if l.firstAuthFailTs = 0 then now else l.firstAuthFailTs := by
  unfold authFailed
  dsimp only
  split <;> rfl

theorem authFailed_fp : (authFailed l http now).authTokenFp = l.authTokenFp := by
  unfold authFailed
  dsimp only
  split <;> rfl

theorem authFailed_dead (halive : l.authState ≠ .dead)
    (hdead : (authFailed l http now).authState = .dead) :
    l.firstAuthFailTs ≠ 0 ∧ l.authFailStreak + 1 ≥ deadStreak ∧
      now - l.firstAuthFailTs ≥ deadMinSecs := by
  unfold authFailed at hdead
  dsimp only at hdead
  split at hdead
  · rename_i hlong
    obtain ⟨hstreak, hspan⟩ := hlong
    simp only [countFailure] at hstreak hspan
    split at hspan
    · -- a first failure has no age
      unfold deadMinSecs at hspan
      omega
    · rename_i hfirst
      exact ⟨hfirst, hstreak, hspan⟩
  · simp only [countFailure] at hdead
    split at hdead
    · exact nomatch hdead
    · exact absurd hdead halive

end Probe

/-! ## The first failure on record is in the evidence -/

/-- The first failure a verdict counts from was seen since it was last
cleared, on the token the verdict is about. -/
def Watch.Grounded (e : String) (w : Watch) : Prop :=
  w.imported = false → (w.pool.entry e).firstAuthFailTs ≠ 0 →
    ((w.pool.entry e).authTokenFp, (w.pool.entry e).firstAuthFailTs) ∈ w.evidence

section Step

variable {w : Watch} {t : Int × Op}

theorem grounded_of_clean (h : ((w.step c e t).pool.entry e).firstAuthFailTs = 0) :
    (w.step c e t).Grounded e :=
  fun _ hfirst => absurd h hfirst

theorem Watch.Grounded.keep (h : w.Grounded e) (hclears : ¬ Clears e w t.2)
    (hfirst : ((exec c w.pool t.1 t.2).entry e).firstAuthFailTs
      = (w.pool.entry e).firstAuthFailTs)
    (hfp : ((exec c w.pool t.1 t.2).entry e).authTokenFp
      = (w.pool.entry e).authTokenFp) : (w.step c e t).Grounded e := by
  intro himported hne
  simp only [Watch.step, if_neg hclears, guard_iffs] at himported
  simp only [Watch.step, hfirst, hfp, if_neg hclears] at hne ⊢
  exact mem_append_right _ (h himported.1 hne)

theorem grounded_keepsVerdict (h : w.Grounded e)
    (hop : t.2.keepsVerdict = true) : (w.step c e t).Grounded e := by
  have hverdict := @exec_verdict _ c w.pool t.1 hop e
  have hclears : ¬ Clears e w t.2 := by
    cases hcall : t.2 <;> rw [hcall] at hop <;> first | exact id | exact nomatch hop
  exact h.keep hclears (congrArg Verdict.first hverdict) (congrArg Verdict.fp hverdict)

theorem entry_recordProbe_self (g : Inner) (http : Nat) (fp : String) :
    ((exec c g now (.recordProbe e http fp)).entry e) = applyProbe (g.entry e) http fp now := by
  simp only [exec, recordProbe, Inner.entry_modify_self]

theorem entry_recordProbe_ne (g : Inner) {email : String} (http : Nat) (fp : String)
    (hne : email ≠ e) :
    ((exec c g now (.recordProbe email http fp)).entry e) = g.entry e := by
  simp only [exec, recordProbe, Inner.entry_modify_ne _ _ hne]

theorem probed_cases (l : Live) (fp : String) (hfp : fp ≠ "") :
    (l.authTokenFp = fp ∧ (retokened { l with polledTs := now } fp).verdict = l.verdict) ∨
    (l.authTokenFp ≠ fp ∧
      (retokened { l with polledTs := now } fp).verdict = ⟨.healthy, 0, 0, fp⟩) := by
  by_cases heq : l.authTokenFp = fp
  · have hsame := retokened_same (l := { l with polledTs := now }) (Or.inl heq)
    refine Or.inl ⟨heq, ?_⟩
    rw [hsame]
    rfl
  · exact Or.inr ⟨heq, retokened_other hfp heq⟩

variable {http : Nat} {fp : String}

section

variable (h : w.Grounded e)
include h

theorem grounded_rejected (hrejects : rejects http = true) (hfp : fp ≠ "") :
    (w.step c e (now, .recordProbe e http fp)).Grounded e := by
  have hhttp : http = 401 ∨ http = 403 := by simpa [rejects] using hrejects
  have hclears : ¬ Clears e w (.recordProbe e http fp) := by
    rintro ⟨-, hlo, hhi⟩
    omega
  have hentry : (exec c w.pool now (.recordProbe e http fp)).entry e
      = authFailed (retokened { w.pool.entry e with polledTs := now } fp) http now := by
    rw [entry_recordProbe_self]
    simp only [applyProbe, if_pos hhttp]
  intro himported hne
  simp only [Watch.step, if_neg hclears, guard_iffs] at himported
  simp only [Watch.step, hentry, authFailed_first, authFailed_fp, if_neg hclears,
    Op.failure, decide_true, hrejects, Bool.and_self, if_true] at hne ⊢
  rcases @probed_cases now (w.pool.entry e) fp hfp with
    ⟨hsame, hv⟩ | ⟨-, hv⟩
  · have hfirst := congrArg Verdict.first hv
    have hmark := congrArg Verdict.fp hv
    simp only [Live.verdict] at hfirst hmark
    rw [hfirst, hmark]
    split
    · rw [hsame]
      exact mem_cons_self ..
    · rename_i hold
      exact mem_cons_of_mem _ (h himported.1 hold)
  · have hfirst := congrArg Verdict.first hv
    have hmark := congrArg Verdict.fp hv
    simp only [Live.verdict] at hfirst hmark
    rw [hfirst, hmark, if_pos rfl]
    exact mem_cons_self ..

theorem grounded_notRejected (hrejects : rejects http = false) :
    (w.step c e (now, .recordProbe e http fp)).Grounded e := by
  have hhttp : ¬ (http = 401 ∨ http = 403) := by simpa [rejects] using hrejects
  have hentry := @entry_recordProbe_self c e now w.pool http fp
  simp only [applyProbe, if_neg hhttp] at hentry
  by_cases hok : 200 ≤ http ∧ http < 300
  · apply grounded_of_clean
    rw [if_pos hok] at hentry
    simp only [Watch.step, hentry]
    rfl
  · have hclears : ¬ Clears e w (.recordProbe e http fp) := fun hc => hok hc.2
    rw [if_neg hok] at hentry
    by_cases hsame : (w.pool.entry e).authTokenFp = fp ∨ fp = ""
    · have hkept := retokened_same
        (l := { w.pool.entry e with polledTs := now }) hsame
      rw [hkept] at hentry
      exact h.keep hclears (by rw [hentry]) (by rw [hentry])
    · rw [not_or] at hsame
      have hother := retokened_other
        (l := { w.pool.entry e with polledTs := now }) hsame.2 hsame.1
      apply grounded_of_clean
      simp only [Watch.step, hentry]
      exact congrArg Verdict.first hother

theorem grounded_recordProbe {email : String}
    (htied : Tied c e w (now, .recordProbe email http fp)) :
    (w.step c e (now, .recordProbe email http fp)).Grounded e := by
  by_cases hemail : email = e
  · subst hemail
    cases hrejects : rejects http with
    | true => exact grounded_rejected h hrejects (htied rfl hrejects).1
    | false => exact grounded_notRejected h hrejects
  · have hentry := @entry_recordProbe_ne c e now w.pool _ http fp hemail
    exact h.keep (fun hc => hemail hc.1) (by rw [hentry]) (by rw [hentry])

theorem grounded_markHealthy (email : String) :
    (w.step c e (now, .markHealthy email)).Grounded e := by
  by_cases hemail : email = e
  · subst hemail
    apply grounded_of_clean
    simp only [Watch.step, exec, markHealthy, Inner.entry_modify_self]
    rfl
  · have hentry : (exec c w.pool now (.markHealthy email)).entry e = w.pool.entry e :=
      Inner.entry_modify_ne _ _ hemail
    exact h.keep hemail (by rw [hentry]) (by rw [hentry])

theorem grounded_revive (email : String) : (w.step c e (now, .revive email)).Grounded e := by
  by_cases hemail : email = e ∧ e ∈ w.pool.roster.emails
  · obtain ⟨rfl, hmem⟩ := hemail
    apply grounded_of_clean
    simp only [Watch.step, exec, revive, if_pos hmem, Inner.entry_modify_self]
    rfl
  · have hentry : (exec c w.pool now (.revive email)).entry e = w.pool.entry e := by
      simp only [exec, revive]
      split
      · rename_i hmem
        apply Inner.entry_modify_ne
        rintro rfl
        exact hemail ⟨rfl, hmem⟩
      · rfl
    exact h.keep hemail (by rw [hentry]) (by rw [hentry])

theorem grounded_kill (email reason : String) :
    (w.step c e (now, .kill email reason)).Grounded e := by
  have hframe : ∀ {α : Type} (π : Live → α),
      (∀ l, π (killed reason now l) = π l) →
      π ((exec c w.pool now (.kill email reason)).entry e) = π (w.pool.entry e) := by
    intro α π hπ
    simp only [exec, kill]
    split
    · exact Inner.modify_frame π hπ _ _
    · rfl
  exact h.keep id (hframe Live.firstAuthFailTs (fun _ => rfl))
    (hframe Live.authTokenFp (fun _ => rfl))

end

theorem entry_importHealth {rows : List SubHealth} {g : Inner}
    (h : (e ∈ g.roster.emails && rows.any (fun r => r.email = e)) = false) :
    (importHealth c g rows).entry e = g.entry e := by
  unfold importHealth
  induction rows generalizing g with
  | nil => rfl
  | cons r rest ih =>
    have hroster : (importHealthRow c g r).roster = g.roster := by
      unfold importHealthRow
      split <;> rfl
    have hentry : (importHealthRow c g r).entry e = g.entry e := by
      unfold importHealthRow
      split
      · rename_i s hfind
        apply Inner.entry_modify_ne
        intro heq
        obtain ⟨hmem, hemail⟩ := Roster.find?_spec hfind
        have hin : e ∈ g.roster.emails := by
          rw [← heq, ← hemail]
          exact mem_map_of_mem hmem
        simp [hin, heq] at h
      · rfl
    have hrest : (e ∈ (importHealthRow c g r).roster.emails &&
        rest.any (fun r => r.email = e)) = false := by
      rw [hroster]
      simp only [any_cons, Bool.and_eq_false_iff, guard_iffs] at h ⊢
      exact h.imp_right And.right
    rw [foldl_cons, ih hrest, hentry]

theorem grounded_importHealth (h : w.Grounded e) (rows : List SubHealth) :
    (w.step c e (now, .importHealth rows)).Grounded e := by
  cases himports : Imports e w (.importHealth rows) with
  | true =>
    intro himported
    have hclears : ¬ Clears e w (.importHealth rows) := id
    simp [Watch.step, if_neg hclears, himports] at himported
  | false =>
    have hentry := entry_importHealth (c := c) himports
    exact h.keep id (congrArg Live.firstAuthFailTs hentry) (congrArg Live.authTokenFp hentry)

theorem replaceSubs_cases (g : Inner) (r : Roster) :
    (exec c g now (.replaceSubs r)).entry e = g.entry e ∨
      ((exec c g now (.replaceSubs r)).entry e).firstAuthFailTs = 0 ∧
        ((exec c g now (.replaceSubs r)).entry e).authState = .healthy := by
  simp only [exec, entry_replaceSubs]
  cases r.find? e with
  | some =>
    dsimp only
    unfold replaceToken
    dsimp only
    split
    · exact Or.inr ⟨rfl, rfl⟩
    · exact Or.inl rfl
  | none =>
    dsimp only
    split
    · exact Or.inl rfl
    · exact Or.inr ⟨rfl, rfl⟩

theorem replaceSubs_retokens {g : Inner} {r : Roster} {s : Sub}
    (hs : r.find? e = some s) (hmark : (g.entry e).authTokenFp ≠ "")
    (hother : (g.entry e).authTokenFp ≠ c.tokenFp s.token) :
    ((exec c g now (.replaceSubs r)).entry e).firstAuthFailTs = 0 ∧
      ((exec c g now (.replaceSubs r)).entry e).authState = .healthy := by
  simp only [exec, entry_replaceSubs, hs]
  unfold replaceToken
  rw [if_pos ⟨hmark, hother⟩]
  exact ⟨rfl, rfl⟩

theorem grounded_replaceSubs (h : w.Grounded e) {r : Roster}
    (htied : Tied c e w (now, .replaceSubs r)) :
    (w.step c e (now, .replaceSubs r)).Grounded e := by
  rcases @replaceSubs_cases c e now w.pool r with
    hentry | ⟨hclean, -⟩
  · by_cases hnew : Retokens e w r
    · have ⟨s, _, hs, _⟩ := hnew
      apply grounded_of_clean
      rcases htied hnew s hs with ⟨hmark, hother⟩ | ⟨-, hclean⟩
      · exact (replaceSubs_retokens hs hmark hother).1
      · simp only [Watch.step, hentry]
        exact hclean
    · exact h.keep hnew (by rw [hentry]) (by rw [hentry])
  · exact grounded_of_clean hclean

theorem Watch.Grounded.step (h : w.Grounded e) (htied : Tied c e w t) :
    (w.step c e t).Grounded e := by
  obtain ⟨now, op⟩ := t
  cases op with
  | recordProbe => exact grounded_recordProbe h htied
  | markHealthy email => exact grounded_markHealthy h email
  | revive email => exact grounded_revive h email
  | kill email reason => exact grounded_kill h email reason
  | importHealth rows => exact grounded_importHealth h rows
  | replaceSubs => exact grounded_replaceSubs h htied
  | _ => exact grounded_keepsVerdict h rfl

/-! ## Deaths and revivals -/

theorem isDead_iff {g : Inner} : isDead g e = true ↔ (g.entry e).authState = .dead := by
  rw [isDead_eq, decide_eq_true_eq]

theorem retokened_alive {l : Live} (fp : String) (h : l.authState ≠ .dead) :
    (retokened l fp).authState ≠ .dead := by
  unfold retokened
  split
  · exact nofun
  · exact h

theorem probe_death {l : Live} (halive : l.authState ≠ .dead)
    (hdead : (applyProbe l http fp now).authState = .dead) :
    rejects http = true ∧ (fp ≠ "" → l.authTokenFp = fp ∧ l.firstAuthFailTs ≠ 0 ∧
      l.authFailStreak + 1 ≥ deadStreak ∧ now - l.firstAuthFailTs ≥ deadMinSecs) := by
  have hprobed : (retokened { l with polledTs := now } fp).authState ≠ .dead :=
    retokened_alive fp halive
  unfold applyProbe at hdead
  dsimp only at hdead
  split at hdead
  · rename_i hhttp
    refine ⟨by simpa [rejects] using hhttp, ?_⟩
    intro hfp
    obtain ⟨hfirst, hstreak, hspan⟩ := authFailed_dead hprobed hdead
    rcases @probed_cases now l fp hfp with ⟨hsame, hv⟩ | ⟨-, hv⟩
    · have hf := congrArg Verdict.first hv
      have hk := congrArg Verdict.streak hv
      simp only [Live.verdict] at hf hk
      rw [hf] at hfirst hspan
      rw [hk] at hstreak
      exact ⟨hsame, hfirst, hstreak, hspan⟩
    · exact absurd (congrArg Verdict.first hv) hfirst
  · split at hdead
    · exact nomatch hdead
    · exact absurd hdead hprobed

theorem death_by_probe (halive : isDead w.pool e = false)
    (hdead : isDead (exec c w.pool t.1 t.2) e = true) (horder : Orders e w t.2 = false) :
    ∃ http fp, t.2 = .recordProbe e http fp ∧ rejects http = true ∧
      (fp ≠ "" → Completes e w t.1 fp) := by
  have hstate : (w.pool.entry e).authState ≠ .dead := by
    intro h
    rw [isDead_iff.mpr h] at halive
    cases halive
  rw [isDead_iff] at hdead
  obtain ⟨now, op⟩ := t
  dsimp only at hdead horder ⊢
  cases hop : op.keepsVerdict with
  | true =>
    have hverdict := @exec_verdict _ c w.pool now hop e
    have hkept := congrArg Verdict.state hverdict
    exact absurd hdead (fun h => hstate (hkept.symm.trans h))
  | false =>
    cases op with
    | recordProbe email http fp =>
      by_cases hemail : email = e
      · subst hemail
        rw [entry_recordProbe_self] at hdead
        obtain ⟨hrejects, hlong⟩ := probe_death hstate hdead
        exact ⟨http, fp, rfl, hrejects, hlong⟩
      · rw [entry_recordProbe_ne _ _ _ hemail] at hdead
        exact absurd hdead hstate
    | markHealthy =>
      simp only [exec, markHealthy, Inner.entry_modify] at hdead
      split at hdead
      · cases hdead
      · exact absurd hdead hstate
    | revive =>
      simp only [exec, revive] at hdead
      split at hdead
      · rw [Inner.entry_modify] at hdead
        split at hdead
        · cases hdead
        · exact absurd hdead hstate
      · exact absurd hdead hstate
    | kill email =>
      have hne : email ≠ e := by simpa [Orders] using horder
      simp only [exec, kill] at hdead
      split at hdead
      · rw [Inner.entry_modify_ne _ _ hne] at hdead
        exact absurd hdead hstate
      · exact absurd hdead hstate
    | importHealth =>
      simp only [exec] at hdead
      rw [entry_importHealth horder] at hdead
      exact absurd hdead hstate
    | replaceSubs r =>
      rcases @replaceSubs_cases c e now w.pool r with
        h | ⟨-, h⟩
      · exact absurd hdead (h ▸ hstate)
      · rw [h] at hdead
        cases hdead
    | _ => cases hop

theorem Watch.Grounded.corroborated (h : w.Grounded e) (htied : Tied c e w t) :
    Corroborated c e w t where
  death halive hdead horder himported := by
    obtain ⟨http, fp, hcall, hrejects, hlong⟩ := death_by_probe halive hdead horder
    obtain ⟨now, op⟩ := t
    dsimp only at hcall
    subst hcall
    obtain ⟨hfp, hlisted⟩ := htied rfl hrejects
    have hcompletes := hlong hfp
    obtain ⟨s, hs, htoken⟩ := hlisted hcompletes
    obtain ⟨hmark, hfirst, -, hspan⟩ := hcompletes
    have hseen := h himported hfirst
    rw [hmark] at hseen
    refine ⟨s, http, _, hs, by rw [htoken], hrejects, by rw [htoken]; exact hseen, ?_⟩
    dsimp only at hspan ⊢
    omega
  revival r hcall hnew hdead := by
    obtain ⟨now, op⟩ := t
    dsimp only at hcall
    subst hcall
    have ⟨s, _, hs, _⟩ := hnew
    rcases htied hnew s hs with ⟨hmark, hother⟩ | ⟨halive, -⟩
    · exact (replaceSubs_retokens hs hmark hother).2
    · exact absurd (isDead_iff.mp hdead) halive

end Step

/-- Along a run whose verdicts stay tied to their token, every death without
an order rests on two probes of the listed token, and every new token
revives. -/
theorem auth_death_corroborated (c : Config) (e : String) (r : Roster)
    (ops : List (Int × Op)) (hops : Along (Watch.step c e) (Tied c e) (.new e r) ops) :
    Along (Watch.step c e) (Corroborated c e) (.new e r) ops := by
  have h0 : (Watch.new e r).Grounded e := fun _ hfirst => absurd rfl hfirst
  generalize Watch.new e r = w at h0 hops
  induction ops generalizing w with
  | nil => trivial
  | cons _ _ ih =>
    obtain ⟨ht, hops⟩ := hops
    exact ⟨h0.corroborated ht, ih _ (h0.step ht) hops⟩

def rosterNewToken : Roster := ⟨[{ subA with token := "token-a2" }, subB], by decide⟩

/-- `a` is rejected twice, seven minutes apart, and then gets a new token. -/
def revokedRun : List (Int × Op) :=
  [(1000, .recordProbe "a" 401 "fp:token-a"), (1420, .recordProbe "a" 401 "fp:token-a"),
   (1500, .replaceSubs rosterNewToken)]

/-- Two rejections of one token seven minutes apart, and a reload with a new token. -/
theorem auth_death_corroborated_revokedRun :
    Along (Watch.step plainConfig "a") (Tied plainConfig "a") (.new "a" rosterAB)
      revokedRun ∧
      Along (Watch.step plainConfig "a") (Corroborated plainConfig "a")
        (.new "a" rosterAB) revokedRun ∧
      isDead (run (Watch.step plainConfig "a") (.new "a" rosterAB)
        (revokedRun.take 2)).pool "a" = true := by
  have htied : Along (Watch.step plainConfig "a") (Tied plainConfig "a")
      (.new "a" rosterAB) revokedRun := by decide +kernel
  exact ⟨htied, auth_death_corroborated plainConfig "a" rosterAB revokedRun htied,
    by decide +kernel⟩

/-- `a`, killed before any probe marked its entry, stays dead under its new
token. -/
theorem killed_stays_dead_under_new_token :
    let w := run (Watch.step plainConfig "a") (.new "a" rosterAB) [(1000, .kill "a" "banned")]
    isDead w.pool "a" = true ∧ Retokens "a" w rosterNewToken ∧
      isDead (exec plainConfig w.pool 1001 (.replaceSubs rosterNewToken)) "a" = true ∧
      ¬ Along (Watch.step plainConfig "a") (Corroborated plainConfig "a")
        (.new "a" rosterAB)
        [(1000, .kill "a" "banned"), (1001, .replaceSubs rosterNewToken)] := by
  have hstates : isDead (run (Watch.step plainConfig "a") (.new "a" rosterAB)
      [(1000, .kill "a" "banned")]).pool "a" = true ∧
      Retokens "a" (run (Watch.step plainConfig "a") (.new "a" rosterAB)
        [(1000, .kill "a" "banned")]) rosterNewToken ∧
      isDead (exec plainConfig (run (Watch.step plainConfig "a") (.new "a" rosterAB)
        [(1000, .kill "a" "banned")]).pool 1001 (.replaceSubs rosterNewToken)) "a"
        = true := by decide +kernel
  obtain ⟨hdead, hnew, hafter⟩ := hstates
  refine ⟨hdead, hnew, hafter, ?_⟩
  rintro ⟨-, hreload, -⟩
  have hhealthy := hreload.revival rosterNewToken rfl hnew hdead
  exact nomatch hhealthy.symm.trans (isDead_iff.mp hafter)

end ApiToken.Pool
