import ApiToken.Turns.TurnActions

/-!
# What one action of a poll can do

The facts a poll has gathered by each of its checks, as long as it has not
given up. The first check finds no live lease, so every turn that was
published up to the epoch the poll read is gone; the checks under the
barrier say the same of every turn the ledger or the FIFO knows, and of
every turn in the snapshot. `Extends` is what any action leaves of the
world, and a poll's facts survive whatever extends the world.
-/

namespace ApiToken.Turns

open World

def PollPc.checked : PollPc → Bool
  | .begun | .over => false
  | _ => true

def PollPc.hasSnapshot : PollPc → Bool
  | .fetched | .sameEpoch | .idleAgain | .locked | .lockedEpoch | .lastDrain
  | .drained => true
  | _ => false

/-- The epoch was compared under the barrier that is still held. -/
def PollPc.fenced : PollPc → Bool
  | .lockedEpoch | .lastDrain | .drained => true
  | _ => false

def PollPc.idleLocked : PollPc → Bool
  | .lastDrain | .drained => true
  | _ => false

/-- What holds of a poll wherever it stands. -/
structure Poll.Sound (plane : Plane) (w : World) (q : Poll) : Prop where
  object : ∃ p, w.profiles.find? q.profile = some p ∧ q.turnEpoch ≤ p.turnEpoch
  /-- The turns published up to the epoch read are gone. -/
  idle : q.pc.checked = true → ∀ t r, w.turns.find? t = some r →
    r.profile = q.profile → r.pc ≠ .leasing → r.ticket ≤ q.turnEpoch → r.pc = .gone
  /-- The snapshot reflects turns that had a lease. -/
  turns : q.pc.hasSnapshot = true → ∀ e ∈ q.snapshot,
    ∃ r, w.turns.find? e.request = some r ∧ r.subject = e.subject ∧ r.pc ≠ .leasing
  subject : q.pc.hasSnapshot = true → ∀ e ∈ q.snapshot,
    ∀ p, w.profiles.find? q.profile = some p → e.subject = p.subject
  /-- On a plane that counts first it has every metered one of them. -/
  complete : q.pc.hasSnapshot = true → plane.countsFirst = true →
    ∀ t r, w.turns.find? t = some r → r.profile = q.profile → r.pc ≠ .leasing →
      r.ticket ≤ q.turnEpoch → r.metered = true → eventOf t r ∈ q.snapshot
  fenced : q.pc.fenced = true → ∀ e, w.delivery.Knows e →
    ∀ r, w.turns.find? e.request = some r → r.profile = q.profile →
      r.ticket ≤ q.turnEpoch
  released : q.pc.idleLocked = true → ∀ e ∈ q.snapshot,
    ∀ r, w.turns.find? e.request = some r → r.profile = q.profile → r.pc = .gone
  empty : q.pc = .drained → w.delivery.queue.queue = []

/-- What an action leaves of the world; `mover` is the poll that acts. -/
structure Extends (mover : Option Nat) (w w' : World) : Prop where
  profiles : ∀ o p, w.profiles.find? o = some p →
    ∃ p', w'.profiles.find? o = some p' ∧ p'.subject = p.subject ∧
      p.turnEpoch ≤ p'.turnEpoch
  turns : ∀ t r, w.turns.find? t = some r →
    ∃ r', w'.turns.find? t = some r' ∧ r.Evolves r'
  /-- A turn is new, or went on, or has just been published after every epoch
  read so far. -/
  origins : ∀ t r', w'.turns.find? t = some r' → r'.pc = .leasing ∨
    (∃ r, w.turns.find? t = some r ∧ r.pc ≠ .leasing ∧ r.Evolves r') ∨
    (∃ p, w.profiles.find? r'.profile = some p ∧ p.turnEpoch < r'.ticket)
  lost : ∀ loss ∈ w.delivery.lost, loss ∈ w'.delivery.lost
  held : ∀ p, some p ≠ mover → w.turnDrain = some (.poll p) →
    w'.turnDrain = some (.poll p) ∧
      w'.delivery.queue = w.delivery.queue ∧ w'.delivery.ledger = w.delivery.ledger

section

variable {plane : Plane} {w w' : World} {mover : Option Nat}

theorem Extends.published (h : Extends mover w w') {q : Poll} (hq : q.Sound plane w)
    {t : Nat} {r' : Turn} (hr' : w'.turns.find? t = some r')
    (hprofile : r'.profile = q.profile) (hpc : r'.pc ≠ .leasing)
    (hticket : r'.ticket ≤ q.turnEpoch) :
    ∃ r, w.turns.find? t = some r ∧ r.pc ≠ .leasing ∧ r.profile = q.profile ∧
      r.ticket ≤ q.turnEpoch ∧ r.Evolves r' := by
  rcases h.origins t r' hr' with hleasing | ⟨r, hr, hrpc, hev⟩ | ⟨p, hp, hlater⟩
  · exact absurd hleasing hpc
  · refine ⟨r, hr, hrpc, hev.profile.symm.trans hprofile, ?_, hev⟩
    rw [← (hev.published hrpc).2]
    exact hticket
  · obtain ⟨p0, hp0, hepoch⟩ := hq.object
    rw [hprofile, hp0] at hp
    cases hp
    omega

theorem Poll.Sound.extend (hs : w.Sound plane) {p : Nat} {q : Poll}
    (hp : w.polls.find? p = some q) (hq : q.Sound plane w)
    (h : Extends mover w w') (hne : some p ≠ mover) : q.Sound plane w' := by
  have hheld : q.pc.holdsBarrier = true →
      w'.delivery.queue = w.delivery.queue ∧ w'.delivery.ledger = w.delivery.ledger :=
    fun hpc => (h.held p hne (hs.pollBarrier p q hp hpc)).2
  constructor
  case object =>
    obtain ⟨p0, hp0, hepoch⟩ := hq.object
    obtain ⟨p', hp', -, hle⟩ := h.profiles _ _ hp0
    exact ⟨p', hp', hepoch.trans hle⟩
  case idle =>
    intro hpc t r' hr' hprofile hrpc hticket
    obtain ⟨r, hr, hpub, hsame, hle, hev⟩ := h.published hq hr' hprofile hrpc hticket
    have hgone := hq.idle hpc t r hr hsame hpub hle
    rw [hev.gone hgone]
    exact hgone
  case turns =>
    intro hpc e he
    obtain ⟨r, hr, hsubject, hpub⟩ := hq.turns hpc e he
    obtain ⟨r', hr', hev⟩ := h.turns _ _ hr
    exact ⟨r', hr', hev.subject.trans hsubject, (hev.published hpub).1⟩
  case subject =>
    intro hpc e he p' hp'
    obtain ⟨p0, hp0, -⟩ := hq.object
    obtain ⟨p1, hp1, hsame, -⟩ := h.profiles _ _ hp0
    rw [hp'] at hp1
    cases hp1
    rw [hsame]
    exact hq.subject hpc e he p0 hp0
  case complete =>
    intro hpc hplane t r' hr' hprofile hrpc hticket hm
    obtain ⟨r, hr, hpub, hsame, hle, hev⟩ := h.published hq hr' hprofile hrpc hticket
    have hchecked : q.pc.checked = true := by
      revert hpc
      cases q.pc <;> decide
    have hgone := hq.idle hchecked t r hr hsame hpub hle
    rw [hev.gone hgone] at hm ⊢
    exact hq.complete hpc hplane t r hr hsame hpub hle hm
  case fenced =>
    intro hpc e he r' hr' hprofile
    obtain ⟨hqueue, hledger⟩ := hheld (by revert hpc; cases q.pc <;> decide)
    have hknown : w.delivery.Knows e := by
      unfold Delivery.Knows Delivery.queued at he ⊢
      rw [hqueue, hledger] at he
      exact he
    obtain ⟨r, hr, -, -, hdel⟩ := hs.known e hknown
    obtain ⟨r2, hr2, hev⟩ := h.turns _ _ hr
    rw [hr'] at hr2
    cases hr2
    have hpub : r.pc ≠ .leasing := by
      intro hl
      rw [hl] at hdel
      cases hdel
    rw [(hev.published hpub).2]
    exact hq.fenced hpc e hknown r hr (hev.profile.symm.trans hprofile)
  case released =>
    intro hpc e he r' hr' hprofile
    have hsnap : q.pc.hasSnapshot = true := by
      revert hpc
      cases q.pc <;> decide
    obtain ⟨r, hr, -, -⟩ := hq.turns hsnap e he
    obtain ⟨r2, hr2, hev⟩ := h.turns _ _ hr
    rw [hr'] at hr2
    cases hr2
    have hgone := hq.released hpc e he r hr (hev.profile.symm.trans hprofile)
    rw [hev.gone hgone]
    exact hgone
  case empty =>
    intro hpc
    rw [(hheld (by rw [hpc]; rfl)).1]
    exact hq.empty hpc

end

theorem TurnStep.extend {plane : Plane} {w w' : World} {t : Nat} {r r' : Turn}
    {p p' : RuntimeProfile} {fresh : List TurnEvent}
    (h : TurnStep plane w w' t r r' p p' fresh) : Extends none w w' where
  profiles _ _ := h.object_kept
  turns _ _ := h.turn_evolves
  origins := by
    intro t1 r1 h1
    rcases h.turn_cases h1 with ⟨rfl, rfl⟩ | ⟨-, hold⟩
    · by_cases hpc : r.pc = .leasing
      · by_cases hpc' : r1.pc = .leasing
        · exact .inl hpc'
        · refine .inr (.inr ⟨p, ?_, h.published hpc hpc'⟩)
          rw [h.evolves.profile]
          exact h.objectBefore
      · exact .inr (.inl ⟨r, h.before, hpc, h.evolves⟩)
    · by_cases hpc : r1.pc = .leasing
      · exact .inl hpc
      · exact .inr (.inl ⟨r1, hold, hpc, .refl r1⟩)
  lost := h.delivers.lost
  held p _ hheld := h.others _ (by simp) hheld

/-- Poll `p` goes from `q` to `q'`; `profile` is its object. -/
structure PollStep (w w' : World) (p : Nat) (q q' : Poll) (profile : RuntimeProfile) :
    Prop where
  before : w.polls.find? p = some q
  objectBefore : w.profiles.find? q.profile = some profile
  polls : ∀ p', w'.polls.find? p' = if p = p' then some q' else w.polls.find? p'
  turns : w'.turns = w.turns
  profiles : w'.profiles = w.profiles
  countedSame : w'.counted = w.counted
  same : q'.profile = q.profile ∧ q'.turnEpoch = q.turnEpoch
  accounts : ∀ e, w.delivery.Accounts e → w'.delivery.Accounts e
  knows : ∀ e, w'.delivery.Knows e → w.delivery.Knows e
  lost : ∀ loss ∈ w.delivery.lost, loss ∈ w'.delivery.lost
  barrier : q'.pc.holdsBarrier = true → w'.turnDrain = some (.poll p)
  others : ∀ h, h ≠ .poll p → w.turnDrain = some h → w'.turnDrain = some h ∧
    w'.delivery.queue = w.delivery.queue ∧ w'.delivery.ledger = w.delivery.ledger
  checked : q'.pc.checked = true → q.pc.checked = true ∨ profile.inflight = 0
  snapshot : q'.pc.hasSnapshot = true →
    (q.pc.hasSnapshot = true ∧ q'.snapshot = q.snapshot) ∨
      (q.pc.checked = true ∧ q'.snapshot = w.snapshot profile.subject)
  fenced : q'.pc.fenced = true →
    q.pc.fenced = true ∨ profile.turnEpoch = q.turnEpoch
  released : q'.pc.idleLocked = true → q'.snapshot = q.snapshot ∧
    q.pc.hasSnapshot = true ∧ (q.pc.idleLocked = true ∨ profile.inflight = 0)
  empty : q'.pc = .drained → w'.delivery.queue.queue = []
  observed : ∀ o ∈ w'.delivery.observations, o ∈ w.delivery.observations ∨
    o.HasOwnTurn ∨ (q.pc = .drained ∧ o = w.observation q profile)

namespace PollStep

variable {plane : Plane} {w w' : World} {p : Nat} {q q' : Poll}
  {profile : RuntimeProfile}

section

variable (h : PollStep w w' p q q' profile)
include h

theorem poll_cases {p1 : Nat} {q1 : Poll} (h1 : w'.polls.find? p1 = some q1) :
    (p1 = p ∧ q1 = q') ∨ (p1 ≠ p ∧ w.polls.find? p1 = some q1) := by
  rw [h.polls] at h1
  split at h1
  · rename_i heq
    exact .inl ⟨heq.symm, (some.inj h1).symm⟩
  · rename_i hne
    exact .inr ⟨fun e => hne e.symm, h1⟩

theorem sound (hs : w.Sound plane) : w'.Sound plane := by
  constructor
  case turns =>
    intro t r hr
    rw [h.turns] at hr
    have hold := hs.turns t r hr
    refine { hold with object := ?_, barrier := ?_, accounted := ?_, counted := ?_ }
    · rw [h.profiles]
      exact hold.object
    · intro hpc
      exact (h.others _ (by simp) (hold.barrier hpc)).1
    · intro hm hd
      exact h.accounts _ (hold.accounted hm hd)
    · rw [h.countedSame]
      exact hold.counted
  case inflight =>
    rw [h.profiles, h.turns]
    exact hs.inflight
  case counted =>
    rw [h.countedSame, h.turns]
    exact hs.counted
  case known =>
    intro e he
    rw [h.turns]
    exact hs.known e (h.knows e he)
  case pollBarrier =>
    intro p1 q1 hq1 hpc
    rcases h.poll_cases hq1 with ⟨rfl, rfl⟩ | ⟨hne, hold⟩
    · exact h.barrier hpc
    · refine (h.others _ ?_ (hs.pollBarrier p1 q1 hold hpc)).1
      intro heq
      injection heq with heq
      exact hne heq

theorem extend : Extends (some p) w w' where
  profiles o p1 hp1 := ⟨p1, by rw [h.profiles]; exact hp1, rfl, le_refl _⟩
  turns t r hr := ⟨r, by rw [h.turns]; exact hr, .refl r⟩
  origins t r hr := by
    rw [h.turns] at hr
    by_cases hpc : r.pc = .leasing
    · exact .inl hpc
    · exact .inr (.inl ⟨r, hr, hpc, .refl r⟩)
  lost := h.lost
  held p1 hne hheld := by
    refine h.others _ ?_ hheld
    intro heq
    injection heq with heq
    exact hne (congrArg some heq)

theorem poll_sound (hs : w.Sound plane) (hq : q.Sound plane w) : q'.Sound plane w' := by
  have hidle : q'.pc.checked = true → ∀ t r, w.turns.find? t = some r →
      r.profile = q.profile → r.pc ≠ .leasing → r.ticket ≤ q.turnEpoch → r.pc = .gone := by
    intro hpc t r hr hprofile hpub hticket
    rcases h.checked hpc with hbefore | hzero
    · exact hq.idle hbefore t r hr hprofile hpub hticket
    · exact hs.gone_of_idle hr (by rw [hprofile]; exact h.objectBefore) hzero
  obtain ⟨hprofile, hepoch⟩ := h.same
  constructor
  case object =>
    rw [hprofile, hepoch, h.profiles]
    exact hq.object
  case idle =>
    rw [hprofile, hepoch, h.turns]
    exact hidle
  case turns =>
    rw [h.turns]
    intro hpc e he
    rcases h.snapshot hpc with ⟨hbefore, hsame⟩ | ⟨-, hnow⟩
    · rw [hsame] at he
      exact hq.turns hbefore e he
    · rw [hnow] at he
      exact hs.counted e (List.mem_of_mem_filter he)
  case subject =>
    rw [hprofile, h.profiles]
    intro hpc e he p1 hp1
    rcases h.snapshot hpc with ⟨hbefore, hsame⟩ | ⟨-, hnow⟩
    · rw [hsame] at he
      exact hq.subject hbefore e he p1 hp1
    · rw [h.objectBefore] at hp1
      cases hp1
      rw [hnow] at he
      exact of_decide_eq_true (mem_filter.mp he).2
  case complete =>
    rw [hprofile, hepoch, h.turns]
    intro hpc hplane t r hr hobject hpub hticket hm
    rcases h.snapshot hpc with ⟨hbefore, hsame⟩ | ⟨-, hnow⟩
    · rw [hsame]
      exact hq.complete hbefore hplane t r hr hobject hpub hticket hm
    · rw [hnow]
      have hturn := hs.turns t r hr
      obtain ⟨p1, hp1, hsubject, -⟩ := hturn.object
      rw [hobject, h.objectBefore] at hp1
      cases hp1
      refine mem_filter.mpr ⟨hturn.counted hplane hm, ?_⟩
      exact decide_eq_true hsubject.symm
  case fenced =>
    rw [hprofile, hepoch, h.turns]
    intro hpc e he r hr hobject
    rcases h.fenced hpc with hbefore | hsame
    · exact hq.fenced hbefore e (h.knows e he) r hr hobject
    · obtain ⟨p1, hp1, -, hticket⟩ := (hs.turns _ r hr).object
      rw [hobject, h.objectBefore] at hp1
      cases hp1
      obtain ⟨r1, hr1, -, -, hdel⟩ := hs.known e (h.knows e he)
      rw [hr] at hr1
      cases hr1
      rw [← hsame]
      refine hticket ?_
      intro hl
      rw [hl] at hdel
      cases hdel
  case released =>
    rw [hprofile, h.turns]
    intro hpc e he r hr hobject
    obtain ⟨hsame, hsnap, hgone⟩ := h.released hpc
    rw [hsame] at he
    rcases hgone with hbefore | hzero
    · exact hq.released hbefore e he r hr hobject
    · exact hs.gone_of_idle hr (by rw [hobject]; exact h.objectBefore) hzero
  case empty => exact h.empty

end

end PollStep

end ApiToken.Turns
