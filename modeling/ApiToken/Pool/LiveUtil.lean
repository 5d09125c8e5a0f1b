import ApiToken.Pool.Availability
import ApiToken.Pool.State
import Mathlib.Tactic.Linarith

/-!
# Live utilization

What a subscription's windows are said to use, against the calls that it saw:
each window's last utilization, what was spent after the call that delivered
it, and what was spent after the last `set_util` call of any kind, which is
where the anchor that both windows share stands.
-/

namespace ApiToken.Pool

variable {scale u : ℚ} {l : Live} {w : Window} {now : Int} {calls : List UtilCall}

inductive UtilCall where
  | recordSpend (realNano : Int)
  | setUtil (h : Header) (now : Int)

namespace UtilCall

def exec (c : Config) (g : Inner) (email : String) : UtilCall → Inner
  | .recordSpend realNano => Pool.recordSpend g email realNano
  | .setUtil h now => Pool.setUtil c g email h now

end UtilCall

def execUtil (c : Config) (g : Inner) (email : String) (calls : List UtilCall) : Inner :=
  calls.foldl (fun g call => call.exec c g email) g

/-! ## What the calls delivered -/

def Header.util (h : Header) : Window → Option ℚ
  | .fiveHours => h.u5
  | .sevenDays => h.u7

/-- A window's last utilization, the spend recorded after the call that
delivered it, and the spend recorded after the last `set_util` call. -/
structure Seen where
  util : Option ℚ
  sinceOwn : ℚ
  sinceAny : ℚ

def Seen.after (w : Window) (s : Seen) : UtilCall → Seen
  | .recordSpend realNano =>
    { s with
      sinceOwn := s.sinceOwn + realNano / 1000000000
      sinceAny := s.sinceAny + realNano / 1000000000 }
  | .setUtil h _ =>
    match h.util w with
    | some u => ⟨some u, 0, 0⟩
    | none => { s with sinceAny := 0 }

def seen (w : Window) (calls : List UtilCall) : Seen :=
  calls.foldl (Seen.after w) ⟨none, 0, 0⟩

def UtilCall.Promised : UtilCall → Prop
  | .recordSpend realNano => 0 ≤ realNano
  | .setUtil h _ => ∀ w u, h.util w = some u → 0 ≤ u

/-! ## The windows of a subscription -/

namespace Live

def util (l : Live) : Window → ℚ
  | .fiveHours => l.util5h
  | .sevenDays => l.util7d

def reset (l : Live) : Window → Int
  | .fiveHours => l.reset5h
  | .sevenDays => l.reset7d

def cap (c : Config) (l : Live) (scale : ℚ) : Window → ℚ
  | .fiveHours => if l.cap5hUsd > 0 then l.cap5hUsd else c.prior5h * scale
  | .sevenDays => if l.cap7dUsd > 0 then l.cap7dUsd else c.prior7d * scale

def Open (l : Live) (w : Window) (now : Int) : Prop := ¬(l.reset w ≠ 0 ∧ now ≥ l.reset w)

theorem cap_pos (c : Config) (l : Live) (hscale : 0 < scale) (w : Window) :
    0 < l.cap c scale w := by
  have h5 := mul_pos c.prior5h_pos hscale
  have h7 := mul_pos c.prior7d_pos hscale
  cases w with
  | fiveHours =>
    change 0 < if l.cap5hUsd > 0 then l.cap5hUsd else c.prior5h * scale
    split <;> assumption
  | sevenDays =>
    change 0 < if l.cap7dUsd > 0 then l.cap7dUsd else c.prior7d * scale
    split <;> assumption

end Live

theorem planScale_pos (plan : String) : 0 < planScale plan := by
  unfold planScale
  split
  · norm_num
  · split
    · norm_num
    · split <;> norm_num

/-- `live_util` of an open window. -/
theorem liveUtil_of_open {c : Config} {g : Inner} {email : String}
    (hget : g.live.find? email = some l) (hopen : l.Open w now) (scale : ℚ) :
    liveUtil c g email scale w now =
      clamp 0 1 (l.util w + max (l.spentTotalUsd - l.spentAtHeaderUsd) 0 / l.cap c scale w) := by
  unfold Live.Open at hopen
  cases w with
  | fiveHours | sevenDays =>
    simp only [liveUtil, hget, windowUtil]
    exact if_neg hopen

/-! ## One call -/

theorem find?_modify_self (g : Inner) (email : String) (f : Live → Live) :
    (g.modify email f).live.find? email = some (f (g.entry email)) := by
  unfold Inner.modify
  rw [find?_put, if_pos rfl]

section

variable (c : Config) (g : Inner) (email : String)

theorem recordSpend_entry (realNano : Int) (w : Window) :
    ((recordSpend g email realNano).entry email).util w = (g.entry email).util w ∧
    ((recordSpend g email realNano).entry email).spentTotalUsd =
      (g.entry email).spentTotalUsd + realNano / 1000000000 ∧
    ((recordSpend g email realNano).entry email).spentAtHeaderUsd =
      (g.entry email).spentAtHeaderUsd := by
  unfold recordSpend
  rw [Inner.entry_modify_self]
  cases w <;> exact ⟨rfl, rfl, rfl⟩

theorem calibrate5_keeps (prior : ℚ) (u5 : Option ℚ) (safe : Bool) (l : Live) :
    (calibrate5 prior u5 safe l).util5h = l.util5h ∧
    (calibrate5 prior u5 safe l).util7d = l.util7d ∧
    (calibrate5 prior u5 safe l).spentTotalUsd = l.spentTotalUsd ∧
    (calibrate5 prior u5 safe l).cap7dUsd = l.cap7dUsd ∧
    (u5 = none → calibrate5 prior u5 safe l = l) := by
  cases u5 with
  | none => exact ⟨rfl, rfl, rfl, rfl, fun _ => rfl⟩
  | some => exact ⟨rfl, rfl, rfl, rfl, nofun⟩

theorem calibrate7_keeps (prior : ℚ) (u7 : Option ℚ) (safe : Bool) (l : Live) :
    (calibrate7 prior u7 safe l).util5h = l.util5h ∧
    (calibrate7 prior u7 safe l).util7d = l.util7d ∧
    (calibrate7 prior u7 safe l).spentTotalUsd = l.spentTotalUsd ∧
    (calibrate7 prior u7 safe l).cap5hUsd = l.cap5hUsd ∧
    (u7 = none → calibrate7 prior u7 safe l = l) := by
  cases u7 with
  | none => exact ⟨rfl, rfl, rfl, rfl, fun _ => rfl⟩
  | some => exact ⟨rfl, rfl, rfl, rfl, nofun⟩

/-- Every `set_util` call moves the anchor that both windows share. -/
theorem setUtil_entry (h : Header) (now : Int) (w : Window) :
    ((setUtil c g email h now).entry email).util w = (h.util w).getD ((g.entry email).util w) ∧
    ((setUtil c g email h now).entry email).spentTotalUsd = (g.entry email).spentTotalUsd ∧
    ((setUtil c g email h now).entry email).spentAtHeaderUsd = (g.entry email).spentTotalUsd := by
  unfold setUtil
  rw [Inner.entry_modify_self]
  have h5 := calibrate5_keeps (c.prior5h * scaleOf g email) h.u5
    (decide ((g.entry email).inflight ≤ 1)) (g.entry email)
  have h7 := calibrate7_keeps (c.prior7d * scaleOf g email) h.u7
    (decide ((g.entry email).inflight ≤ 1))
    (calibrate5 (c.prior5h * scaleOf g email) h.u5
      (decide ((g.entry email).inflight ≤ 1)) (g.entry email))
  refine ⟨?_, h7.2.2.1.trans h5.2.2.1, h7.2.2.1.trans h5.2.2.1⟩
  cases w with
  | fiveHours => exact congrArg (h.u5.getD ·) (h7.1.trans h5.1)
  | sevenDays => exact congrArg (h.u7.getD ·) (h7.2.1.trans h5.2.1)

theorem setUtil_cap {h : Header} (hnone : h.util w = none) (now : Int) (scale : ℚ) :
    ((setUtil c g email h now).entry email).cap c scale w = (g.entry email).cap c scale w := by
  unfold setUtil
  rw [Inner.entry_modify_self]
  have h5 := calibrate5_keeps (c.prior5h * scaleOf g email) h.u5
    (decide ((g.entry email).inflight ≤ 1)) (g.entry email)
  have h7 := calibrate7_keeps (c.prior7d * scaleOf g email) h.u7
    (decide ((g.entry email).inflight ≤ 1))
    (calibrate5 (c.prior5h * scaleOf g email) h.u5
      (decide ((g.entry email).inflight ≤ 1)) (g.entry email))
  cases w with
  | fiveHours =>
    have hcap := h7.2.2.2.1.trans (congrArg Live.cap5hUsd (h5.2.2.2.2 hnone))
    simp only [Live.cap, hcap]
  | sevenDays =>
    have hcap := (congrArg Live.cap7dUsd (h7.2.2.2.2 hnone)).trans h5.2.2.2.1
    simp only [Live.cap, hcap]

end

/-! ## Runs of calls -/

/-- The entry is what the calls so far make of it. -/
structure Tracks (g : Inner) (email : String) (w : Window) (s : Seen) : Prop where
  held : ∀ u, s.util = some u → g.live.find? email = some (g.entry email) ∧
    (g.entry email).util w = u ∧ 0 ≤ u ∧
    (g.entry email).spentTotalUsd - (g.entry email).spentAtHeaderUsd = s.sinceAny
  ordered : 0 ≤ s.sinceAny ∧ s.sinceAny ≤ s.sinceOwn

theorem find?_entry {g : Inner} {email : String} (h : g.live.find? email = some l) :
    g.live.find? email = some (g.entry email) := by
  rw [Inner.entry, h]
  rfl

theorem exec_tracks (c : Config) {g : Inner} {email : String} {s : Seen} {call : UtilCall}
    (hp : call.Promised) (h : Tracks g email w s) :
    Tracks (call.exec c g email) email w (s.after w call) := by
  obtain ⟨hheld, hpos, hle⟩ := h
  cases call with
  | recordSpend realNano =>
    have hspend : (0 : ℚ) ≤ realNano / 1000000000 := by
      have hnano : (0 : ℚ) ≤ realNano := by exact_mod_cast hp
      exact div_nonneg hnano (by norm_num)
    refine ⟨fun u hu => ?_, add_nonneg hpos hspend, add_le_add_left hle _⟩
    obtain ⟨-, hutil, hu0, hsince⟩ := hheld u hu
    obtain ⟨h1, h2, h3⟩ := recordSpend_entry g email realNano w
    refine ⟨find?_entry (find?_modify_self g email _), h1.trans hutil, hu0, ?_⟩
    simp only [UtilCall.exec, Seen.after, h2, h3, ← hsince]
    ring
  | setUtil header now =>
    obtain ⟨h1, h2, h3⟩ := setUtil_entry c g email header now w
    have hfind := find?_entry (find?_modify_self g email _) (g := setUtil c g email header now)
    cases hutil : header.util w with
    | some u =>
      simp only [Seen.after, hutil]
      refine ⟨fun u' hu' => ?_, le_refl _, le_refl _⟩
      cases hu'
      refine ⟨hfind, ?_, hp w u hutil, ?_⟩
      · simp only [UtilCall.exec, h1, hutil, getD_some]
      · simp only [UtilCall.exec, h2, h3, sub_self]
    | none =>
      simp only [Seen.after, hutil]
      refine ⟨fun u hu => ?_, le_refl _, hpos.trans hle⟩
      obtain ⟨-, hheldUtil, hu0, -⟩ := hheld u hu
      refine ⟨hfind, ?_, hu0, ?_⟩
      · simp only [UtilCall.exec, h1, hutil, getD_none, hheldUtil]
      · simp only [UtilCall.exec, h2, h3, sub_self]

theorem execUtil_tracks (c : Config) (g : Inner) (email : String) (w : Window)
    (hp : ∀ call ∈ calls, call.Promised) :
    Tracks (execUtil c g email calls) email w (seen w calls) := by
  have hrun : ∀ (g : Inner) (s : Seen), Tracks g email w s →
      Tracks (execUtil c g email calls) email w (calls.foldl (Seen.after w) s) := by
    induction calls with
    | nil => exact fun g s h => h
    | cons call _ ih =>
      intro g s h
      exact ih (fun other hmem => hp other (mem_cons_of_mem _ hmem)) _ _
        (exec_tracks c (hp call mem_cons_self) h)
  exact hrun g _ ⟨nofun, le_refl _, le_refl _⟩

/-! ## The law and where it holds -/

theorem clamp_eq_min {x : ℚ} (h : 0 ≤ x) : clamp 0 1 x = min 1 x :=
  max_eq_right (le_min zero_le_one h)

/-- Two sums under the same ceiling are the same, or the smaller one is over it. -/
theorem min_add_div_eq_iff {a b cap : ℚ} (hcap : 0 < cap) (hab : a ≤ b) :
    min 1 (u + a / cap) = min 1 (u + b / cap) ↔ b = a ∨ 1 ≤ u + a / cap := by
  have hdiv : u + a / cap ≤ u + b / cap := by
    have := div_le_div_of_nonneg_right hab hcap.le
    linarith
  constructor
  · intro h
    by_cases hover : 1 ≤ u + a / cap
    · exact .inr hover
    · rw [min_eq_right (le_of_not_ge hover)] at h
      have hb : u + b / cap = u + a / cap := by
        rcases min_choice 1 (u + b / cap) with hmin | hmin
        · exact absurd (h.trans hmin).ge hover
        · exact (h.trans hmin).symm
      refine .inl ?_
      have := add_left_cancel hb
      rwa [div_left_inj' hcap.ne'] at this
  · rintro (rfl | hover)
    · rfl
    · rw [min_eq_left hover, min_eq_left (hover.trans hdiv)]

theorem liveUtil_execUtil (c : Config) (g : Inner) (email : String) (w : Window)
    (hp : ∀ call ∈ calls, call.Promised) (hu : (seen w calls).util = some u)
    (hopen : ((execUtil c g email calls).entry email).Open w now) (hscale : 0 < scale) :
    liveUtil c (execUtil c g email calls) email scale w now =
      min 1 (u + (seen w calls).sinceAny /
        ((execUtil c g email calls).entry email).cap c scale w) := by
  obtain ⟨hheld, hpos, -⟩ := execUtil_tracks c g email w hp
  obtain ⟨hfind, hutil, hu0, hsince⟩ := hheld u hu
  rw [liveUtil_of_open hfind hopen, hutil, hsince, max_eq_left hpos]
  exact clamp_eq_min (add_nonneg hu0 (div_nonneg hpos (Live.cap_pos c _ hscale w).le))

/-- A window's live utilization counts what was spent since its own header
exactly where no spend was recorded between that header and the last `set_util`
call, or the window is full without it; and a call without a value for the
window, after one that had a value, leaves it exactly where nothing was spent
since the last call, or the window was full at its header. -/
theorem liveUtil_lawful_iff (c : Config) (g : Inner) (email : String) (w : Window)
    (calls : List UtilCall) (hp : ∀ call ∈ calls, call.Promised) (u : ℚ)
    (hu : (seen w calls).util = some u) (plan : String) (now : Int)
    (hopen : ((execUtil c g email calls).entry email).Open w now) :
    (liveUtil c (execUtil c g email calls) email (planScale plan) w now =
        min 1 (u + (seen w calls).sinceOwn /
          ((execUtil c g email calls).entry email).cap c (planScale plan) w) ↔
      (seen w calls).sinceOwn = (seen w calls).sinceAny ∨
        1 ≤ u + (seen w calls).sinceAny /
          ((execUtil c g email calls).entry email).cap c (planScale plan) w) ∧
    ∀ (h : Header) (at_ : Int), h.util w = none →
      ((setUtil c (execUtil c g email calls) email h at_).entry email).Open w now →
      (liveUtil c (setUtil c (execUtil c g email calls) email h at_) email
          (planScale plan) w now =
        liveUtil c (execUtil c g email calls) email (planScale plan) w now ↔
      (seen w calls).sinceAny = 0 ∨ 1 ≤ u) := by
  have hscale := planScale_pos plan
  have hcap := Live.cap_pos c ((execUtil c g email calls).entry email) hscale w
  obtain ⟨hheld, hpos, hle⟩ := execUtil_tracks c g email w hp
  rw [liveUtil_execUtil c g email w hp hu hopen hscale]
  refine ⟨min_add_div_eq_iff hcap hle, fun h at_ hnone hstill => ?_⟩
  -- the state after the call, read with nothing spent since
  obtain ⟨-, hutil, hu0, -⟩ := hheld u hu
  obtain ⟨h1, h2, h3⟩ := setUtil_entry c (execUtil c g email calls) email h at_ w
  have hfind := find?_entry (find?_modify_self (execUtil c g email calls) email _)
    (g := setUtil c (execUtil c g email calls) email h at_)
  rw [liveUtil_of_open hfind hstill, h1, hnone, getD_none, hutil, h2, h3, sub_self,
    max_self, setUtil_cap c _ email hnone, clamp_eq_min (by simpa using hu0),
    min_add_div_eq_iff hcap hpos, zero_div, add_zero]

/-- A header with both windows, five dollars, and a failed probe: `set_util`
with nothing to set. -/
def probeAfterSpend : List UtilCall :=
  [.setUtil ⟨some (1 / 10), some (1 / 5), none, none, none⟩ 1000,
   .recordSpend 5000000000,
   .setUtil ⟨none, none, none, none, none⟩ 1060]

/-- Before the failed probe both halves of the law are as their conditions say. -/
theorem liveUtil_lawful_spend :
    liveUtil plainConfig (execUtil plainConfig (.new rosterAB) "a" (probeAfterSpend.take 2))
      "a" (planScale "max20") .fiveHours 1060 = min 1 (1 / 10 + 5 / 50) := by
  have hp : ∀ call ∈ probeAfterSpend.take 2, call.Promised := by
    intro call hmem
    simp only [probeAfterSpend, take_succ_cons, List.take_zero, mem_cons,
      not_mem_nil, or_false] at hmem
    rcases hmem with rfl | rfl
    · intro w u hu
      cases w <;> simp only [Header.util, some.injEq] at hu <;> rw [← hu] <;> norm_num
    · simp [UtilCall.Promised]
  have hlaw := (liveUtil_lawful_iff plainConfig (.new rosterAB) "a" .fiveHours
    (probeAfterSpend.take 2) hp (1 / 10) (by decide +kernel) "max20" 1060
    (by unfold Live.Open; decide +kernel)).1.mpr (.inl (by decide +kernel))
  rw [hlaw]
  decide +kernel

/-- The failed probe forgets the five dollars. -/
theorem probe_forgets_spend :
    liveUtil plainConfig (execUtil plainConfig (.new rosterAB) "a" probeAfterSpend)
        "a" (planScale "max20") .fiveHours 1060 = 1 / 10 ∧
      (seen .fiveHours probeAfterSpend).util = some (1 / 10) ∧
      (seen .fiveHours probeAfterSpend).sinceOwn = 5 ∧
      liveUtil plainConfig (execUtil plainConfig (.new rosterAB) "a" (probeAfterSpend.take 2))
        "a" (planScale "max20") .fiveHours 1060 = 1 / 5 := by
  decide +kernel

end ApiToken.Pool
