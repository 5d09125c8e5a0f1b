import ApiToken.Turns.Plane

/-!
# What one action of a turn can do

`Sound` is what holds between any two actions: the counter of an object is
the number of its live leases, the barrier has one holder, and a metered
turn that was handed over is in the FIFO, in the ledger, or lost for a
reason. `TurnStep` says once what an action of a turn may change, and
`Sound` is kept by everything that does no more.
-/

namespace ApiToken.Turns

variable {t₁ o : Nat} {r₁ : Turn} {q : RuntimeProfile}

def TurnPc.hasEvent : TurnPc → Bool
  | .finalizing | .enqueueing | .locked | .writing | .draining => true
  | _ => false

def Turn.weight (r : Turn) (o : Nat) : Int :=
  if r.profile = o ∧ r.pc ≠ .gone then 1 else 0

theorem Turn.weight_nonneg (r : Turn) (o : Nat) : 0 ≤ r.weight o := by
  unfold Turn.weight
  split <;> omega

/-- What holds of a turn wherever it stands. -/
structure Turn.Sound (plane : Plane) (w : World) (t : Nat) (r : Turn) : Prop where
  object : ∃ p, w.profiles.find? r.profile = some p ∧ p.subject = r.subject ∧
    (r.pc ≠ .leasing → r.ticket ≤ p.turnEpoch)
  barrier : r.pc.holdsBarrier = true → w.turnDrain = some (.turn t)
  metered : r.pc.hasEvent = true → r.metered = true
  unmetered : r.pc = .leasing ∨ r.pc = .running → r.metered = false
  accounted : r.metered = true → r.pc.delivered = true →
    w.delivery.Accounts (World.eventOf t r)
  counted : plane.countsFirst = true → r.metered = true →
    World.eventOf t r ∈ w.counted

/-- The invariant of turns and counters. -/
structure World.Sound (plane : Plane) (w : World) : Prop where
  turns : ∀ t r, w.turns.find? t = some r → r.Sound plane w t
  inflight : ∀ o p, w.profiles.find? o = some p →
    (p.inflight : Int) = w.turns.sumBy (fun _ r => r.weight o)
  counted : ∀ e ∈ w.counted, ∃ r, w.turns.find? e.request = some r ∧
    r.subject = e.subject ∧ r.pc ≠ .leasing
  known : ∀ e, w.delivery.Knows e → ∃ r, w.turns.find? e.request = some r ∧
    r.subject = e.subject ∧ r.metered = true ∧ r.pc.delivered = true
  pollBarrier : ∀ p q, w.polls.find? p = some q → q.pc.holdsBarrier = true →
    w.turnDrain = some (.poll p)

/-- What a step keeps of a turn. -/
structure Turn.Evolves (r r' : Turn) : Prop where
  profile : r'.profile = r.profile
  subject : r'.subject = r.subject
  published : r.pc ≠ .leasing → r'.pc ≠ .leasing ∧ r'.ticket = r.ticket
  gone : r.pc = .gone → r' = r
  metered : r.metered = true → r'.metered = true
  delivered : r.pc.delivered = true → r'.pc.delivered = true

protected theorem Turn.Evolves.refl (r : Turn) : r.Evolves r where
  profile := rfl
  subject := rfl
  published h := ⟨h, rfl⟩
  gone _ := rfl
  metered h := h
  delivered h := h

/-- Turn `t` goes from `r` to `r'`, and its object from `p` to `p'`; `fresh`
are the events that the action hands over. -/
structure TurnStep (plane : Plane) (w w' : World) (t : Nat) (r r' : Turn)
    (p p' : RuntimeProfile) (fresh : List TurnEvent) : Prop where
  before : w.turns.find? t = some r
  objectBefore : w.profiles.find? r.profile = some p
  turns : w'.turns = w.turns.put t r'
  profiles : ∀ o, w'.profiles.find? o =
    if r.profile = o then some p' else w.profiles.find? o
  polls : w'.polls = w.polls
  countedSame : w'.counted = w.counted
  subject : p'.subject = p.subject
  epoch : p.turnEpoch ≤ p'.turnEpoch
  inflight : (p'.inflight : Int) = p.inflight - r.weight r.profile + r'.weight r.profile
  evolves : r.Evolves r'
  ticket : r'.pc ≠ .leasing → r'.ticket ≤ p'.turnEpoch
  published : r.pc = .leasing → r'.pc ≠ .leasing → p.turnEpoch < r'.ticket
  delivers : Delivers fresh w.delivery w'.delivery
  handed : ∀ e ∈ fresh, e = World.eventOf t r ∧ r'.metered = true ∧
    r'.pc.delivered = true
  metered : r'.pc.hasEvent = true → r'.metered = true
  unmetered : r'.pc = .leasing ∨ r'.pc = .running → r'.metered = false
  accounted : r'.metered = true → r'.pc.delivered = true →
    (r.metered = true ∧ r.pc.delivered = true) ∨
      w'.delivery.Accounts (World.eventOf t r)
  priced : r'.metered = true → r.metered = true ∨
    (plane.countsFirst = true → World.eventOf t r ∈ w.counted)
  barrier : r'.pc.holdsBarrier = true → w'.turnDrain = some (.turn t)
  others : ∀ h, h ≠ .turn t → w.turnDrain = some h → w'.turnDrain = some h ∧
    w'.delivery.queue = w.delivery.queue ∧ w'.delivery.ledger = w.delivery.ledger

namespace TurnStep

variable {plane : Plane} {w w' : World} {t : Nat} {r r' : Turn}
  {p p' : RuntimeProfile} {fresh : List TurnEvent}

section

variable (h : TurnStep plane w w' t r r' p p' fresh)
include h

theorem event_eq : World.eventOf t r' = World.eventOf t r := by
  unfold World.eventOf
  rw [h.evolves.subject]

theorem turn_cases (h1 : w'.turns.find? t₁ = some r₁) :
    (t₁ = t ∧ r₁ = r') ∨ (t₁ ≠ t ∧ w.turns.find? t₁ = some r₁) := by
  rw [h.turns, find?_put] at h1
  split at h1
  · rename_i heq
    exact .inl ⟨heq.symm, (some.inj h1).symm⟩
  · rename_i hne
    exact .inr ⟨fun e => hne e.symm, h1⟩

theorem turn_evolves (h1 : w.turns.find? t₁ = some r₁) :
    ∃ r2, w'.turns.find? t₁ = some r2 ∧ r₁.Evolves r2 := by
  rw [h.turns, find?_put]
  by_cases ht : t = t₁
  · subst ht
    rw [h.before] at h1
    cases h1
    exact ⟨r', if_pos rfl, h.evolves⟩
  · exact ⟨r₁, by rw [if_neg ht]; exact h1, .refl r₁⟩

theorem object_kept (hq : w.profiles.find? o = some q) :
    ∃ q', w'.profiles.find? o = some q' ∧ q'.subject = q.subject ∧
      q.turnEpoch ≤ q'.turnEpoch := by
  rw [h.profiles]
  by_cases ho : r.profile = o
  · subst ho
    rw [h.objectBefore] at hq
    cases hq
    exact ⟨p', if_pos rfl, h.subject, h.epoch⟩
  · exact ⟨q, by rw [if_neg ho]; exact hq, rfl, le_refl _⟩

theorem self_sound (hs : w.Sound plane) : r'.Sound plane w' t := by
  have hold := hs.turns t r h.before
  obtain ⟨q, hq, hsubject, -⟩ := hold.object
  rw [h.objectBefore] at hq
  cases hq
  constructor
  case object =>
    refine ⟨p', ?_, ?_, h.ticket⟩
    · rw [h.profiles, h.evolves.profile, if_pos rfl]
    · rw [h.subject, hsubject, h.evolves.subject]
  case barrier => exact h.barrier
  case metered => exact h.metered
  case unmetered => exact h.unmetered
  case accounted =>
    intro hm hd
    rw [h.event_eq]
    rcases h.accounted hm hd with ⟨hmetered, hbefore⟩ | hnow
    · exact h.delivers.accounts _ (.inl (hold.accounted hmetered hbefore))
    · exact hnow
  case counted =>
    intro hplane hm
    rw [h.event_eq, h.countedSame]
    rcases h.priced hm with hr | hin
    · exact hold.counted hplane hr
    · exact hin hplane

theorem other_sound (hne : t₁ ≠ t) (hold : r₁.Sound plane w t₁) : r₁.Sound plane w' t₁ := by
  obtain ⟨q, hq, hsubject, hticket⟩ := hold.object
  obtain ⟨q', hq', hsame, hepoch⟩ := h.object_kept hq
  constructor
  case object =>
    refine ⟨q', hq', hsame.trans hsubject, ?_⟩
    intro hpc
    exact (hticket hpc).trans hepoch
  case barrier =>
    intro hpc
    have hother : Holder.turn t₁ ≠ .turn t := by
      intro heq
      injection heq with heq
      exact hne heq
    exact (h.others _ hother (hold.barrier hpc)).1
  case metered => exact hold.metered
  case unmetered => exact hold.unmetered
  case accounted =>
    intro hm hd
    exact h.delivers.accounts _ (.inl (hold.accounted hm hd))
  case counted =>
    rw [h.countedSame]
    exact hold.counted

theorem inflight_sound (hs : w.Sound plane) (hq : w'.profiles.find? o = some q) :
    (q.inflight : Int) = w'.turns.sumBy (fun _ r => r.weight o) := by
  rw [h.turns, sumBy_put _ _ h.before]
  rw [h.profiles] at hq
  by_cases ho : r.profile = o
  · subst ho
    rw [if_pos rfl] at hq
    cases hq
    rw [h.inflight, hs.inflight _ _ h.objectBefore]
  · rw [if_neg ho] at hq
    have hr : r.weight o = 0 := if_neg (fun hand => ho hand.1)
    have hr' : r'.weight o = 0 := if_neg (fun hand => ho (h.evolves.profile.symm.trans hand.1))
    rw [hr, hr', hs.inflight _ _ hq]
    omega

theorem sound (hs : w.Sound plane) : w'.Sound plane := by
  constructor
  case turns =>
    intro t₁ r₁ h1
    rcases h.turn_cases h1 with ⟨rfl, rfl⟩ | ⟨hne, hold⟩
    · exact h.self_sound hs
    · exact h.other_sound hne (hs.turns _ _ hold)
  case inflight =>
    intro o q hq
    exact h.inflight_sound hs hq
  case counted =>
    intro e he
    rw [h.countedSame] at he
    obtain ⟨r₁, hr1, hsubject, hpc⟩ := hs.counted e he
    obtain ⟨r2, hr2, hev⟩ := h.turn_evolves hr1
    exact ⟨r2, hr2, hev.subject.trans hsubject, (hev.published hpc).1⟩
  case known =>
    intro e he
    rcases h.delivers.knows e he with hold | hnew
    · obtain ⟨r₁, hr1, hsubject, hm, hd⟩ := hs.known e hold
      obtain ⟨r2, hr2, hev⟩ := h.turn_evolves hr1
      exact ⟨r2, hr2, hev.subject.trans hsubject, hev.metered hm, hev.delivered hd⟩
    · obtain ⟨rfl, hm, hd⟩ := h.handed e hnew
      refine ⟨r', ?_, h.evolves.subject, hm, hd⟩
      rw [h.turns]
      exact find?_put_self _ _ _
  case pollBarrier =>
    intro p1 q hq hpc
    rw [h.polls] at hq
    exact (h.others _ (by simp) (hs.pollBarrier p1 q hq hpc)).1

end

end TurnStep

end ApiToken.Turns
