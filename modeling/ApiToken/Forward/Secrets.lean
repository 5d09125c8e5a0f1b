import Mathlib.Data.List.Infix
import ApiToken.Lib.Run

/-!
# Secrets that rotate

A provider answers a credential with its replacement, which is written to the
disk and then taken over in memory. KIMI replaces the refresh token of a
profile, Suno the session cookie. The calls of one profile follow each other
under its lock; each step of a call can fail, and its caller can be dropped.
-/

namespace ApiToken.Forward.Secrets

/-! ## The steps after an answer -/

/-- What becomes of a replacement that was received and parsed. -/
inductive Fate where
  /-- It is refused before it is written. -/
  | refused
  /-- The writer fails, before the rename or after it. -/
  | failed (renamed : Bool)
  /-- The writer cannot be joined. -/
  | lost (renamed : Bool)
  /-- The caller is dropped while the writer, which goes on, is at work. -/
  | dropped (renamed : Bool)
  | stored
deriving DecidableEq

/-- Is the file replaced in the end? -/
def Fate.renamed : Fate → Bool
  | .refused => false
  | .failed renamed | .lost renamed | .dropped renamed => renamed
  | .stored => true

/-- What the process and the disk hold. -/
structure Held (σ : Type) where
  memory : σ
  disk : σ

variable {σ : Type} {fate : Fate} {new : σ}

/-- The memory follows the disk, and only after the writer has returned. -/
def Held.take (h : Held σ) (new : σ) (fate : Fate) : Held σ where
  memory := if fate = .stored then new else h.memory
  disk := if fate.renamed then new else h.disk

@[simp] theorem Held.take_stored (h : Held σ) : h.take new .stored = ⟨new, new⟩ := rfl

/-! ## KIMI -/

namespace Kimi

/-- A refresh token is known by its number: the provider replaces one by a new
one, which is the next number. The process receives it when it has parsed the
answer. -/
inductive Event where
  | presented (token : Nat)
  | replaced (token : Nat)
  | received (token : Nat)

/-- The newest token the provider has issued. -/
def issued : List Event → Nat
  | [] => 0
  | .replaced _ :: past => issued past + 1
  | _ :: past => issued past

/-- The newest token the process has received. -/
def newest : List Event → Nat
  | [] => 0
  | .received token :: _ => token
  | _ :: past => newest past

structure State where
  held : Held Nat
  log : List Event

def State.start : State := ⟨⟨0, 0⟩, []⟩

inductive Answer where
  /-- The provider gives none, or one without a replacement. -/
  | failed
  /-- The status 400 or 401. -/
  | refused
  /-- The provider answers with a replacement, but the answer does not arrive,
  or is not read or parsed. -/
  | unread
  | parsed (fate : Fate)

inductive Refreshed where
  | token
  | auth
  | otherwise
deriving DecidableEq

def refreshOnce (s : State) : Answer → State × Refreshed
  | .failed => ({ s with log := .presented s.held.memory :: s.log }, .otherwise)
  | .refused => ({ s with log := .presented s.held.memory :: s.log }, .auth)
  | .unread =>
    ({ s with log := .replaced s.held.memory :: .presented s.held.memory :: s.log }, .otherwise)
  | .parsed fate =>
    (⟨s.held.take (issued s.log + 1) fate, .received (issued s.log + 1) ::
        .replaced s.held.memory :: .presented s.held.memory :: s.log⟩,
      match fate with
      | .stored => .token
      | .failed _ => .auth
      | .refused | .lost _ | .dropped _ => .otherwise)

/-- What a call of `access_token` meets. A caller that is dropped at an await
without effect is one of these cases too. -/
structure Call where
  /-- The token in memory was not rejected, and needs no refresh. -/
  reuse : Bool
  first : Answer
  /-- The roster is read again, and has the profile. -/
  reloads : Bool
  /-- The token that was read needs no refresh. -/
  reuseFresh : Bool
  second : Answer

def accessToken (s : State) (c : Call) : State :=
  if c.reuse then s
  else
    let (s, refreshed) := refreshOnce s c.first
    if refreshed = .auth ∧ c.reloads ∧ s.held.disk ≠ s.held.memory then
      let s := { s with held := ⟨s.held.disk, s.held.disk⟩ }
      if c.reuseFresh then s else (refreshOnce s c.second).1
    else s

/-- The newest token received is held, whatever was presented was the newest,
and had not been replaced. -/
structure Lawful (s : State) : Prop where
  held : s.held.memory = newest s.log ∨ s.held.disk = newest s.log
  used : ∀ t past, .presented t :: past <:+ s.log →
    t = newest past ∧ Event.replaced t ∉ past

def Answer.Stores : Answer → Prop
  | .failed | .refused => True
  | .unread => False
  | .parsed fate => fate = .stored

def Call.Stores (c : Call) : Prop :=
  c.reuse = true ∨ c.first.Stores ∨
    (∃ fate, c.first = .parsed fate ∧ fate = .failed true) ∧ c.reloads = true ∧
      (c.reuseFresh = true ∨ c.second.Stores)

/-- Memory and disk hold the newest token, and only older ones were replaced. -/
structure Inv (s : State) : Prop where
  memory : s.held.memory = newest s.log
  disk : s.held.disk = newest s.log
  issued : issued s.log = newest s.log
  replaced : ∀ t, Event.replaced t ∈ s.log → t < newest s.log
  used : ∀ t past, .presented t :: past <:+ s.log →
    t = newest past ∧ Event.replaced t ∉ past

variable {s : State}

theorem Inv.lawful (h : Inv s) : Lawful s := ⟨.inl h.memory, h.used⟩

theorem Inv.present (h : Inv s) :
    ∀ t past, .presented t :: past <:+ .presented s.held.memory :: s.log →
      t = newest past ∧ Event.replaced t ∉ past := by
  intro t past hsuffix
  rcases List.suffix_cons_iff.mp hsuffix with heq | hsuffix
  · cases heq
    rw [h.memory]
    exact ⟨rfl, fun hmem => Nat.lt_irrefl _ (h.replaced _ hmem)⟩
  · exact h.used t past hsuffix

theorem Inv.unanswered (h : Inv s) :
    Inv { s with log := .presented s.held.memory :: s.log } where
  memory := h.memory
  disk := h.disk
  issued := h.issued
  replaced t ht := h.replaced t ((mem_cons.mp ht).resolve_left nofun)
  used := h.present

theorem Inv.answered (h : Inv s) :
    Inv ⟨⟨Kimi.issued s.log + 1, Kimi.issued s.log + 1⟩, .received (Kimi.issued s.log + 1) ::
      .replaced s.held.memory :: .presented s.held.memory :: s.log⟩ where
  memory := rfl
  disk := rfl
  issued := rfl
  replaced t ht := by
    show t < Kimi.issued s.log + 1
    rw [h.issued]
    rcases mem_cons.mp ((mem_cons.mp ht).resolve_left nofun) with heq | ht
    · cases heq
      rw [h.memory]
      exact Nat.lt_succ_self _
    · exact (h.unanswered.replaced t ht).trans (Nat.lt_succ_self _)
  used t past hsuffix := by
    refine h.present t past ?_
    have hrest := (List.suffix_cons_iff.mp hsuffix).resolve_left nofun
    exact (List.suffix_cons_iff.mp hrest).resolve_left nofun

theorem Inv.refreshOnce (h : Inv s) {a : Answer} (ha : a.Stores) : Inv (refreshOnce s a).1 := by
  cases a with
  | failed => exact h.unanswered
  | refused => exact h.unanswered
  | unread => cases ha
  | parsed fate =>
    obtain rfl : fate = .stored := ha
    exact h.answered

theorem Inv.accessToken (h : Inv s) {c : Call} (hc : c.Stores) : Inv (accessToken s c) := by
  unfold Kimi.accessToken
  by_cases hreuse : c.reuse = true
  · rw [if_pos hreuse]
    exact h
  rw [if_neg hreuse]
  rcases hc.resolve_left hreuse with hfirst | ⟨⟨fate, hfirst, rfl⟩, hreloads, hsecond⟩
  · have hinv := h.refreshOnce hfirst
    have hsame : (Kimi.refreshOnce s c.first).1.held.disk =
        (Kimi.refreshOnce s c.first).1.held.memory := hinv.disk.trans hinv.memory.symm
    simp only [hsame, ne_eq, not_true_eq_false, and_false, if_false]
    exact hinv
  · have hdiffer : Kimi.issued s.log + 1 ≠ s.held.memory := by
      rw [h.memory, h.issued]
      exact Nat.succ_ne_self _
    simp only [hfirst, Kimi.refreshOnce, Held.take, Fate.renamed, hreloads, reduceCtorEq,
      ↓reduceIte, true_and, if_pos hdiffer]
    split
    · exact h.answered
    · next hfresh => exact h.answered.refreshOnce (hsecond.resolve_left hfresh)

theorem start_inv : Inv State.start :=
  ⟨rfl, rfl, rfl, nofun, fun _ _ h => absurd (List.suffix_nil.mp h) (cons_ne_nil _ _)⟩

theorem lawful_of_stores {calls : List Call} (hcalls : ∀ c ∈ calls, c.Stores) :
    Lawful (run accessToken .start calls) :=
  (run_invariant_along (C := fun _ c => c.Stores) (fun _ _ h hc => h.accessToken hc) start_inv
    (along_forall.mpr hcalls)).lawful

end Kimi

/-! ## Suno -/

namespace Suno

variable {Cookie SetCookie : Type} [DecidableEq Cookie]
  (merge : Cookie → List SetCookie → Option Cookie)

structure State (Cookie : Type) where
  held : Held Cookie
  newest : Cookie
  used : Bool

def State.start (cookie : Cookie) : State Cookie := ⟨⟨cookie, cookie⟩, cookie, true⟩

/-- `apply_rotation`, of which `fate` is the end. -/
def applyRotation (h : Held Cookie) (setCookie : List SetCookie) (fate : Fate) : Held Cookie :=
  match merge h.memory setCookie with
  | none => h
  | some merged => if merged = h.memory then h else h.take merged fate

/-- What a call of `jwt` or of `observe_response` meets. -/
inductive Call (SetCookie : Type) where
  /-- The JWT is cached. -/
  | cached
  /-- The JWT is minted: the answer's cookies, and whether it is a success
  whose body is read and parses. -/
  | mint (setCookie : List SetCookie) (minted : Bool) (fate : Fate)
  /-- A business call was answered; its observer may be dropped before it has
  the lock. -/
  | observe (setCookie : List SetCookie) (locked : Bool) (fate : Fate)

def State.receive (s : State Cookie) (setCookie : List SetCookie) : State Cookie :=
  { s with newest := (merge s.newest setCookie).getD s.newest }

def State.present (s : State Cookie) : State Cookie :=
  { s with used := s.used && s.held.memory = s.newest }

/-- Both `jwt` and a business call present the cookie in memory. -/
def step (s : State Cookie) : Call SetCookie → State Cookie
  | .cached => s
  | .mint setCookie applied fate | .observe setCookie applied fate =>
    let s := s.present.receive merge setCookie
    if applied then { s with held := applyRotation merge s.held setCookie fate } else s

structure Lawful (s : State Cookie) : Prop where
  held : s.held.memory = s.newest ∨ s.held.disk = s.newest
  used : s.used = true

/-- The answer's cookies change nothing, or they are applied and stored. -/
def Stores (s : State Cookie) : Call SetCookie → Prop
  | .cached => True
  | .mint setCookie applied fate | .observe setCookie applied fate =>
    (merge s.held.memory setCookie).getD s.held.memory = s.held.memory ∨
      applied = true ∧ fate = .stored

def Inv (s : State Cookie) : Prop := s.held = ⟨s.newest, s.newest⟩ ∧ s.used = true

variable {merge} {s : State Cookie}

theorem Inv.answered (h : Inv s) {setCookie : List SetCookie} {applied : Bool} {fate : Fate}
    (hstores : (merge s.held.memory setCookie).getD s.held.memory = s.held.memory ∨
      applied = true ∧ fate = .stored) : Inv (step merge s (.mint setCookie applied fate)) := by
  obtain ⟨hheld, hused⟩ := h
  have hmemory : s.held.memory = s.newest := by rw [hheld]
  have hpresent : s.present.receive merge setCookie =
      ⟨s.held, (merge s.newest setCookie).getD s.newest, true⟩ := by
    simp [State.present, State.receive, hused, hmemory]
  rw [hmemory] at hstores
  simp only [step, hpresent, applyRotation, hmemory]
  cases hmerge : merge s.newest setCookie with
  | none => cases applied <;> exact ⟨hheld, rfl⟩
  | some merged =>
    rw [hmerge, getD_some] at hstores
    by_cases hsame : merged = s.newest
    · cases applied <;> simp [hsame, hheld, Inv]
    · obtain ⟨rfl, rfl⟩ := hstores.resolve_left hsame
      simp [hsame, Inv]

theorem Inv.step (h : Inv s) {c : Call SetCookie} (hc : Stores merge s c) :
    Inv (step merge s c) := by
  cases c with
  | cached => exact h
  | mint => exact h.answered hc
  | observe => exact h.answered hc

theorem lawful_of_stores {cookie : Cookie} {calls : List (Call SetCookie)}
    (hcalls : Along (step merge) (Stores merge) (.start cookie) calls) :
    Lawful (run (step merge) (.start cookie) calls) := by
  have h : Inv (run (step merge) (.start cookie) calls) :=
    run_invariant_along (fun _ _ h hc => h.step hc) ⟨rfl, rfl⟩ hcalls
  exact ⟨.inl (by rw [h.1]), h.2⟩

end Suno

/-! ## Both planes -/

def refresh (first : Kimi.Answer) : Kimi.Call := ⟨false, first, true, true, .failed⟩

end ApiToken.Forward.Secrets
