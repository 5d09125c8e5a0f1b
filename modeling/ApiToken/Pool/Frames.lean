import ApiToken.Pool.State

/-!
# What the calls of the pool leave alone

An entry has a book (its in-flight slots and its spend that is not yet
durable) and a verdict (what is held against its token). Most calls keep one
or both of every entry. A reload that drops an entry loses both, so it is set
apart as `Drops`.
-/

namespace ApiToken.Pool

variable {α : Type*} {e : String} {op : Op} {g' : Inner} {answer : Option Sub}

variable {c : Config} {g : Inner} {now : Int}

def Live.book (l : Live) : Int × ℚ := (l.inflight, l.unpersistedSpendUsd)

structure Verdict where
  state : AuthState
  streak : Int
  first : Int
  fp : String

def Live.verdict (l : Live) : Verdict :=
  ⟨l.authState, l.authFailStreak, l.firstAuthFailTs, l.authTokenFp⟩

def Drops (g : Inner) (now : Int) (e : String) : Op → Prop
  | .replaceSubs r => e ∉ r.emails ∧ (g.entry e).coolingUntil ≤ now
  | _ => False

instance (g : Inner) (now : Int) (e : String) (op : Op) :
    Decidable (Drops g now e op) :=
  match op with
  | .replaceSubs r =>
    inferInstanceAs (Decidable (e ∉ r.emails ∧ (g.entry e).coolingUntil ≤ now))
  | .setPlan .. | .pick .. | .routeOperatorTarget .. | .routeAffinity ..
  | .route .. | .markUsed .. | .markHealthy .. | .recordProbe ..
  | .importHealth .. | .revive .. | .kill .. | .requestProbe .. | .endStream ..
  | .markCooling .. | .cool .. | .markDone .. | .recordSpend .. | .setUtil ..
  | .setQuotaSnapshots .. | .importState .. | .acceptPersistVersions ..
  | .mergePersistedState .. => inferInstanceAs (Decidable False)

/-! ## Books -/

theorem resetAuthHealthy_book (l : Live) : (resetAuthHealthy l).book = l.book := rfl

theorem retokened_book (l : Live) (fp : String) : (retokened l fp).book = l.book := by
  unfold retokened
  split
  · rfl
  · rfl

theorem authFailed_book (l : Live) (http : Nat) : (authFailed l http now).book = l.book := by
  unfold authFailed
  dsimp only
  split
  · rfl
  · rfl

theorem applyProbe_book (l : Live) (http : Nat) (fp : String) :
    (applyProbe l http fp now).book = l.book := by
  unfold applyProbe
  dsimp only
  split
  · rw [authFailed_book, retokened_book]
    rfl
  · split
    · rw [resetAuthHealthy_book, retokened_book]
      rfl
    · rw [retokened_book]
      rfl

theorem importVerdict_book (r : SubHealth) (fp : String) (l : Live) :
    (importVerdict r fp l).book = l.book := by
  unfold importVerdict
  split
  · rfl
  · rfl

theorem replaceToken_book (s : Sub) (l : Live) : (replaceToken c s l).book = l.book := by
  unfold replaceToken
  dsimp only
  split
  · rfl
  · rfl

theorem calibrate5_book (prior : ℚ) (u5 : Option ℚ) (safe : Bool) (l : Live) :
    (calibrate5 prior u5 safe l).book = l.book := by
  cases u5 <;> rfl

theorem calibrate7_book (prior : ℚ) (u7 : Option ℚ) (safe : Bool) (l : Live) :
    (calibrate7 prior u7 safe l).book = l.book := by
  cases u7 <;> rfl

theorem importHealth_book (rows : List SubHealth) (e : String) :
    ((importHealth c g rows).entry e).book = (g.entry e).book := by
  apply foldl_frame (fun g => (g.entry e).book)
  intro g r
  unfold importHealthRow
  split
  · exact Inner.modify_frame Live.book (importVerdict_book r _) _ _
  · rfl

theorem mergePersistedState_book (rows : List PoolStateRow) (e : String) :
    ((mergePersistedState c g rows).entry e).book = (g.entry e).book := by
  apply foldl_frame (fun g => (g.entry e).book)
  intro g r
  refine Inner.modify_frame Live.book ?_ _ _
  intro l
  rfl

theorem setUtil_book (email : String) (h : Header) (e : String) :
    ((setUtil c g email h now).entry e).book = (g.entry e).book := by
  refine Inner.modify_frame Live.book ?_ _ _
  intro l
  have hcal := calibrate7_book (c.prior7d * scaleOf g email) h.u7 (l.inflight ≤ 1)
    (calibrate5 (c.prior5h * scaleOf g email) h.u5 (l.inflight ≤ 1) l)
  rw [calibrate5_book] at hcal
  exact hcal

/-- A reload keeps of an entry what a change of token keeps, unless it drops
the entry. -/
theorem replaceSubs_frame (π : Live → α) {r : Roster}
    (htoken : ∀ s l, π (replaceToken c s l) = π l)
    (hkept : Drops g now e (.replaceSubs r) → π (g.entry e) = π {}) :
    π ((replaceSubs c g r now).2.entry e) = π (g.entry e) := by
  rw [entry_replaceSubs]
  cases hfind : r.find? e with
  | some s => exact htoken s _
  | none =>
    dsimp only
    split
    · rfl
    · rename_i hready
      exact (hkept ⟨Roster.find?_eq_none.mp hfind, not_lt.mp hready⟩).symm

/-- The call hands out no slot, gives none back, records no spend and
acknowledges none. -/
def Op.keepsBook : Op → Bool
  | .pick .. | .routeOperatorTarget .. | .routeAffinity .. | .route ..
  | .markUsed .. | .endStream .. | .markDone .. | .recordSpend ..
  | .importState .. | .acceptPersistVersions .. => false
  | _ => true

/-- Such a call keeps the book of an email, or the part `π` of it that is
empty whenever the entry is dropped. -/
theorem exec_book (π : Int × ℚ → α) (hop : op.keepsBook = true)
    (hkept : Drops g now e op → π (g.entry e).book = π (0, 0)) :
    π ((exec c g now op).entry e).book = π (g.entry e).book := by
  cases op with
  | pick | routeOperatorTarget | routeAffinity | route | markUsed | endStream
  | markDone | recordSpend | importState | acceptPersistVersions => exact nomatch hop
  | replaceSubs =>
    refine replaceSubs_frame (fun l => π l.book) ?_ hkept
    intro s l
    rw [replaceToken_book]
  | setPlan =>
    simp only [exec, setPlan]
    split
    · rfl
    · split <;> rfl
  | markHealthy email | markCooling email secs | cool email secs =>
    refine congrArg π (Inner.modify_frame Live.book ?_ _ _)
    intro l
    rfl
  | recordProbe _ http fp =>
    refine congrArg π (Inner.modify_frame Live.book ?_ _ _)
    intro l
    exact applyProbe_book l http fp
  | importHealth rows => exact congrArg π (importHealth_book rows e)
  | revive =>
    simp only [exec, revive]
    split
    · exact congrArg π (Inner.modify_frame Live.book resetAuthHealthy_book _ _)
    · rfl
  | kill =>
    simp only [exec, kill]
    split
    · refine congrArg π (Inner.modify_frame Live.book ?_ _ _)
      intro l
      rfl
    · rfl
  | requestProbe =>
    simp only [exec, requestProbe]
    split
    · split
      · rfl
      · refine congrArg π (Inner.modify_frame Live.book ?_ _ _)
        intro l
        rfl
    · rfl
  | setUtil email h => exact congrArg π (setUtil_book email h e)
  | setQuotaSnapshots =>
    simp only [exec, setQuotaSnapshots]
    split
    · rfl
    · refine congrArg π (Inner.modify_frame Live.book ?_ _ _)
      intro l
      rfl
  | mergePersistedState rows => exact congrArg π (mergePersistedState_book rows e)

/-! ## Slots and spend -/

theorem Handed.entry (h : Handed g g' now answer) (e : String) :
    g'.entry e =
      if answer.map Sub.email = some e then
        { g.entry e with
          lastUsed := now, inflight := saturate ((g.entry e).inflight + 1) }
      else g.entry e := by
  have hlive := h.live
  cases answer with
  | none =>
    rw [Inner.entry, hlive]
    rfl
  | some s =>
    have hentry : g'.entry e = (g.takeSlot s.email now).entry e := by
      rw [Inner.entry, hlive]
      rfl
    rw [hentry, Inner.takeSlot, Inner.entry_modify]
    by_cases heq : s.email = e
    · rw [if_pos heq, if_pos (by rw [map_some, heq])]
    · rw [if_neg heq, if_neg (by simpa using heq)]

theorem Handed.inflight (h : Handed g g' now answer) (e : String) :
    (g'.entry e).inflight =
      if answer.map Sub.email = some e then saturate ((g.entry e).inflight + 1)
      else (g.entry e).inflight := by
  rw [h.entry e]
  split <;> rfl

theorem Handed.unpersisted (h : Handed g g' now answer) (e : String) :
    (g'.entry e).unpersistedSpendUsd = (g.entry e).unpersistedSpendUsd := by
  rw [h.entry e]
  split <;> rfl

theorem importState_inflight (rows : List PoolStateRow) (e : String) :
    ((importState c g rows now).2.entry e).inflight = (g.entry e).inflight := by
  apply foldl_frame (fun g => (g.entry e).inflight)
  intro g r
  unfold importStateRow
  split
  · rfl
  · refine Inner.modify_frame Live.inflight ?_ _ _
    intro l
    rfl

theorem acceptPersistVersions_inflight (acks : List Acknowledged) (e : String) :
    ((acceptPersistVersions g acks).entry e).inflight = (g.entry e).inflight := by
  apply foldl_frame (fun g => (g.entry e).inflight)
  intro g a
  unfold acceptOne
  split
  · refine Inner.modify_frame Live.inflight ?_ _ _
    intro l
    rfl
  · rfl

/-- A call moves the counter of slots by the slot it hands out or gives
back. -/
theorem exec_inflight (hkept : Drops g now e op → (g.entry e).inflight = 0) :
    ((exec c g now op).entry e).inflight =
      if handedOut c g now op = some e then saturate ((g.entry e).inflight + 1)
      else if op.released = some e then max ((g.entry e).inflight - 1) 0
      else (g.entry e).inflight := by
  cases hop : op.keepsBook with
  | true =>
    have hout : handedOut c g now op = none ∧ op.released = none := by
      cases op <;> first | exact ⟨rfl, rfl⟩ | cases hop
    rw [hout.1, hout.2, if_neg (by simp), if_neg (by simp)]
    exact exec_book Prod.fst hop hkept
  | false =>
    cases op with
    | pick exclude allowFull => exact (pick_handed exclude allowFull now).inflight e
    | routeOperatorTarget target identify =>
      exact (routeOperatorTarget_handed target identify now).inflight e
    | routeAffinity home newlyClaimed identify =>
      exact (routeAffinity_handed home newlyClaimed identify now).inflight e
    | route session => exact (route_handed session now).inflight e
    | markUsed =>
      simp only [exec, markUsed, Inner.takeSlot, Inner.entry_modify, handedOut,
        some.injEq, Op.released]
      split <;> rfl
    | endStream =>
      simp only [exec, endStream, Inner.entry_modify, handedOut, Op.released,
        some.injEq, reduceCtorEq, if_false]
      split <;> rfl
    | markDone =>
      simp only [exec, markDone, Inner.entry_modify, handedOut, Op.released,
        some.injEq, reduceCtorEq, if_false]
      split <;> rfl
    | recordSpend =>
      refine Inner.modify_frame Live.inflight ?_ _ _
      intro l
      rfl
    | importState rows => exact importState_inflight rows e
    | acceptPersistVersions acks => exact acceptPersistVersions_inflight acks e
    | _ => cases hop

def Op.served : Op → Bool
  | .importState .. | .acceptPersistVersions .. | .mergePersistedState .. => false
  | .recordSpend _ nano => 0 < nano
  | _ => true

/-- Dollars a call records for an email. -/
def Op.spends (e : String) : Op → ℚ
  | .recordSpend email nano => if email = e then (nano : ℚ) / 1000000000 else 0
  | _ => 0

theorem exec_unpersisted (hop : op.served = true)
    (hkept : Drops g now e op → (g.entry e).unpersistedSpendUsd = 0) :
    ((exec c g now op).entry e).unpersistedSpendUsd
      = (g.entry e).unpersistedSpendUsd + op.spends e := by
  cases hbook : op.keepsBook with
  | true =>
    have hnone : op.spends e = 0 := by cases op <;> first | rfl | exact nomatch hbook
    rw [hnone, add_zero]
    exact exec_book Prod.snd hbook hkept
  | false =>
    cases op with
    | pick exclude allowFull =>
      exact ((pick_handed exclude allowFull now).unpersisted e).trans (add_zero _).symm
    | routeOperatorTarget target identify =>
      exact ((routeOperatorTarget_handed target identify now).unpersisted e).trans
        (add_zero _).symm
    | routeAffinity home newlyClaimed identify =>
      exact ((routeAffinity_handed home newlyClaimed identify now).unpersisted
        e).trans (add_zero _).symm
    | route session =>
      exact ((route_handed session now).unpersisted e).trans (add_zero _).symm
    | markUsed email | endStream email | markDone email =>
      refine Eq.trans ?_ (add_zero _).symm
      refine Inner.modify_frame Live.unpersistedSpendUsd ?_ _ _
      intro l
      rfl
    | recordSpend =>
      simp only [exec, recordSpend, Inner.entry_modify, Op.spends]
      split
      · rfl
      · rw [add_zero]
    | importState | acceptPersistVersions => exact nomatch hop
    | _ => exact nomatch hbook

/-! ## Verdicts -/

theorem calibrate5_verdict (prior : ℚ) (u5 : Option ℚ) (safe : Bool) (l : Live) :
    (calibrate5 prior u5 safe l).verdict = l.verdict := by
  cases u5 <;> rfl

theorem calibrate7_verdict (prior : ℚ) (u7 : Option ℚ) (safe : Bool) (l : Live) :
    (calibrate7 prior u7 safe l).verdict = l.verdict := by
  cases u7 <;> rfl

theorem setUtil_verdict (email : String) (h : Header) (e : String) :
    ((setUtil c g email h now).entry e).verdict = (g.entry e).verdict := by
  refine Inner.modify_frame Live.verdict ?_ _ _
  intro l
  have hcal := calibrate7_verdict (c.prior7d * scaleOf g email) h.u7
    (l.inflight ≤ 1) (calibrate5 (c.prior5h * scaleOf g email) h.u5 (l.inflight ≤ 1) l)
  rw [calibrate5_verdict] at hcal
  exact hcal

theorem importState_verdict (rows : List PoolStateRow) (e : String) :
    ((importState c g rows now).2.entry e).verdict = (g.entry e).verdict := by
  apply foldl_frame (fun g => (g.entry e).verdict)
  intro g r
  unfold importStateRow
  split
  · rfl
  · refine Inner.modify_frame Live.verdict ?_ _ _
    intro l
    rfl

theorem acceptPersistVersions_verdict (acks : List Acknowledged) (e : String) :
    ((acceptPersistVersions g acks).entry e).verdict = (g.entry e).verdict := by
  apply foldl_frame (fun g => (g.entry e).verdict)
  intro g a
  unfold acceptOne
  split
  · refine Inner.modify_frame Live.verdict ?_ _ _
    intro l
    rfl
  · rfl

theorem mergePersistedState_verdict (rows : List PoolStateRow) (e : String) :
    ((mergePersistedState c g rows).entry e).verdict = (g.entry e).verdict := by
  apply foldl_frame (fun g => (g.entry e).verdict)
  intro g r
  refine Inner.modify_frame Live.verdict ?_ _ _
  intro l
  rfl

theorem Handed.verdict (h : Handed g g' now answer) (e : String) :
    (g'.entry e).verdict = (g.entry e).verdict := by
  rw [h.entry e]
  split <;> rfl

/-- The call is none of those that judge a token. -/
def Op.keepsVerdict : Op → Bool
  | .replaceSubs .. | .markHealthy .. | .recordProbe .. | .importHealth ..
  | .revive .. | .kill .. => false
  | _ => true

theorem exec_verdict (hop : op.keepsVerdict = true) (e : String) :
    ((exec c g now op).entry e).verdict = (g.entry e).verdict := by
  cases op with
  | replaceSubs | markHealthy | recordProbe | importHealth | revive | kill =>
    exact nomatch hop
  | setPlan =>
    simp only [exec, setPlan]
    split
    · rfl
    · split <;> rfl
  | pick exclude allowFull => exact (pick_handed exclude allowFull now).verdict e
  | routeOperatorTarget target identify =>
    exact (routeOperatorTarget_handed target identify now).verdict e
  | routeAffinity home newlyClaimed identify =>
    exact (routeAffinity_handed home newlyClaimed identify now).verdict e
  | route session => exact (route_handed session now).verdict e
  | markUsed email | endStream email | markDone email
  | markCooling email secs | cool email secs | recordSpend email secs =>
    refine Inner.modify_frame Live.verdict ?_ _ _
    intro l
    rfl
  | requestProbe =>
    simp only [exec, requestProbe]
    split
    · split
      · rfl
      · refine Inner.modify_frame Live.verdict ?_ _ _
        intro l
        rfl
    · rfl
  | setUtil email h => exact setUtil_verdict email h e
  | setQuotaSnapshots =>
    simp only [exec, setQuotaSnapshots]
    split
    · rfl
    · refine Inner.modify_frame Live.verdict ?_ _ _
      intro l
      rfl
  | importState rows => exact importState_verdict rows e
  | acceptPersistVersions acks => exact acceptPersistVersions_verdict acks e
  | mergePersistedState rows => exact mergePersistedState_verdict rows e

end ApiToken.Pool
