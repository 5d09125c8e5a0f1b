import ApiToken.Credits.Account

/-!
# An attributed delta is the generation's own consumption

While the fence of a generation is unbroken, the account's counter is what
its baseline showed, moved by its own create call and by nothing else. What
breaks this without breaking the fence is listed in `Account.fenced`; a run
that goes through none of these holes attributes to each generation its own
cost.
-/

namespace ApiToken.Credits

open Account

variable {d : Int} {h₁ o : Nat} {H : Generation} {q' : Profile} {b : Baseline}

variable {opening : Opening}

/-- The snapshot shows the counter at `c`, as far as it shows it. -/
def BillingSnapshot.Shows (opening : Opening) (s : BillingSnapshot) (c : Nat) : Prop :=
  (∀ left, s.totalCreditsLeft = some left → left = opening.credits - c) ∧
    (∀ usage, s.monthlyUsage = some usage → usage = opening.usage + c)

theorem billing_shows (a : Account) (halves : Halves) :
    (a.billing opening halves).Shows opening a.consumed := by
  unfold billing
  constructor
  · intro left h
    simp only [Option.ite_none_right_eq_some] at h
    exact (some.inj h.2).symm
  · intro usage h
    simp only [Option.ite_none_right_eq_some] at h
    exact (some.inj h.2).symm

theorem creditDelta_shows {before after : BillingSnapshot} {c0 c1 : Nat}
    (hbefore : before.Shows opening c0) (hafter : after.Shows opening c1)
    (h : creditDelta before after = some d) : d = c1 - c0 := by
  unfold creditDelta at h
  split at h
  · rename_i x y hx hy
    split at h
    · have := hbefore.1 x hx
      have := hafter.1 y hy
      cases h
      omega
    · cases h
  · split at h
    · rename_i x y hx hy
      split at h
      · have := hbefore.2 x hx
        have := hafter.2 y hy
        cases h
        omega
      · cases h
    · cases h

theorem money_attributed {succeeded : Bool} {delta : Option Int} {reserve : Int}
    (h : money succeeded delta reserve = .attributed d) : delta = some d := by
  unfold money at h
  cases succeeded with
  | true =>
    cases delta with
    | none => cases h
    | some =>
      simp only [if_true] at h
      split at h
      · cases h
        rfl
      · cases h
  | false =>
    cases delta with
    | none => cases h
    | some =>
      simp only [if_bool] at h
      split at h
      · cases h
      · split at h
        · cases h
          rfl
        · cases h

def Pc.beforeCreate : Pc → Bool
  | .leasing | .leased | .baselineRead | .inflightLoaded => true
  | _ => false

def Generation.weight (G : Generation) (o : Nat) : Int :=
  if G.object = o ∧ G.pc ≠ .gone then 1 else 0

theorem Generation.weight_nonneg (G : Generation) (o : Nat) : 0 ≤ G.weight o := by
  unfold Generation.weight
  split <;> omega

theorem Generation.weight_live {G : Generation} (h : G.pc ≠ .gone) : G.weight G.object = 1 :=
  if_pos ⟨rfl, h⟩

def Generation.ownPart (G : Generation) : Nat := if G.executed then G.cost else 0

/-- What holds of a generation wherever it stands. -/
structure Generation.Sound (opening : Opening) (a : Account) (g : Nat) (G : Generation) :
    Prop where
  object : ∃ p, a.profiles.find? G.object = some p ∧
    (G.pc ≠ .leasing → G.ticket ≤ p.turnEpoch) ∧ G.idleEpoch ≤ p.turnEpoch ∧
      (∀ b, G.baseline = some b → b.epoch ≤ p.turnEpoch)
  unsent : G.pc.beforeCreate = true →
    G.sent = false ∧ G.executed = false ∧ G.baseline = none
  created : G.pc = .created ∨ G.pc = .postRead → G.executed = true
  read : G.pc = .baselineRead ∨ G.pc = .inflightLoaded → G.snapshot.Shows opening G.seen
  /-- It found itself alone among the leases taken by then. -/
  alone : G.pc = .inflightLoaded ∨ G.baseline ≠ none →
    ∀ h H, a.generations.find? h = some H → h ≠ g → H.object = G.object →
      H.pc ≠ .leasing → H.ticket ≤ G.idleEpoch → H.pc = .gone
  fence : ∀ b p, G.fence = some b → a.profiles.find? G.object = some p →
    p.turnEpoch = b.epoch →
      ∃ c, b.snapshot.Shows opening c ∧ a.consumed = c + G.ownPart
  post : G.pc = .postRead → ∀ b s p, G.baseline = some b → G.post = some s →
    a.profiles.find? G.object = some p → p.turnEpoch = b.epoch →
      ∃ c, b.snapshot.Shows opening c ∧ s.Shows opening (c + G.cost)

def Settlement.Own (a : Account) (s : Settlement) : Prop :=
  ∀ d, s.money = .attributed d → ∃ G, a.generations.find? s.generation = some G ∧ d = G.cost

/-- The invariant of an account. -/
structure Account.Sound (opening : Opening) (a : Account) : Prop where
  generations : ∀ g G, a.generations.find? g = some G → G.Sound opening a g
  inflight : ∀ o p, a.profiles.find? o = some p →
    (p.inflight : Int) = a.generations.sumBy (fun _ G => G.weight o)
  settlements : ∀ s ∈ a.settlements, s.Own a

/-- What a step keeps of a generation. -/
structure Generation.Evolves (G G' : Generation) : Prop where
  object : G'.object = G.object
  cost : G'.cost = G.cost
  published : G.pc ≠ .leasing → G'.pc ≠ .leasing ∧ G'.ticket = G.ticket
  gone : G.pc = .gone → G'.pc = .gone

/-- Generation `g` goes from `G` to `G'`, and its object from `p` to `p'`. -/
structure Step (opening : Opening) (a a' : Account) (g : Nat) (G G' : Generation)
    (p p' : Profile) : Prop where
  before : a.generations.find? g = some G
  objectBefore : a.profiles.find? G.object = some p
  generations : a'.generations = a.generations.put g G'
  profiles : ∀ o, a'.profiles.find? o =
    if G.object = o then some p' else a.profiles.find? o
  epoch : p.turnEpoch ≤ p'.turnEpoch
  inflight : (p'.inflight : Int) =
    p.inflight - G.weight G.object + G'.weight G.object
  evolves : G.Evolves G'
  published : G.pc = .leasing → G'.pc ≠ .leasing → p.turnEpoch < G'.ticket
  self : G'.Sound opening a' g
  /-- The counter stands still under every other unbroken fence. -/
  others : ∀ h H b q, h ≠ g → a.generations.find? h = some H → H.fence = some b →
    a.profiles.find? H.object = some q → q.turnEpoch = b.epoch → a'.consumed = a.consumed
  settlements : ∀ s ∈ a'.settlements, s ∈ a.settlements ∨ s.Own a'

namespace Step

variable {a a' : Account} {g : Nat} {G G' : Generation} {p p' : Profile}

section

variable (h : Step opening a a' g G G' p p')
include h

theorem generation_cases (hH : a'.generations.find? h₁ = some H) :
    (h₁ = g ∧ H = G') ∨ (h₁ ≠ g ∧ a.generations.find? h₁ = some H) := by
  rw [h.generations, find?_put] at hH
  split at hH
  · rename_i heq
    exact .inl ⟨heq.symm, (some.inj hH).symm⟩
  · rename_i hne
    exact .inr ⟨fun e => hne e.symm, hH⟩

theorem generation_kept (hH : a.generations.find? h₁ = some H) :
    ∃ H', a'.generations.find? h₁ = some H' ∧ H'.cost = H.cost := by
  rw [h.generations, find?_put]
  by_cases hg : g = h₁
  · subst hg
    rw [h.before] at hH
    cases hH
    exact ⟨G', if_pos rfl, h.evolves.cost⟩
  · exact ⟨H, by rw [if_neg hg]; exact hH, rfl⟩

theorem object_before (hq' : a'.profiles.find? o = some q') :
    ∃ q, a.profiles.find? o = some q ∧ q.turnEpoch ≤ q'.turnEpoch := by
  rw [h.profiles] at hq'
  split at hq'
  · rename_i ho
    subst ho
    cases hq'
    exact ⟨p, h.objectBefore, h.epoch⟩
  · exact ⟨q', hq', le_refl _⟩

theorem object_after {q : Profile} (hq : a.profiles.find? o = some q) :
    ∃ q', a'.profiles.find? o = some q' ∧ q.turnEpoch ≤ q'.turnEpoch := by
  rw [h.profiles]
  by_cases ho : G.object = o
  · subst ho
    rw [h.objectBefore] at hq
    cases hq
    exact ⟨p', if_pos rfl, h.epoch⟩
  · exact ⟨q, by rw [if_neg ho]; exact hq, le_refl _⟩

theorem still_unbroken (hs : H.Sound opening a h₁) (hb : H.baseline = some b)
    (hq' : a'.profiles.find? H.object = some q') (heq : q'.turnEpoch = b.epoch) :
    ∃ q, a.profiles.find? H.object = some q ∧ q.turnEpoch = b.epoch := by
  obtain ⟨q, hq, hle⟩ := h.object_before hq'
  obtain ⟨q0, hq0, -, -, hepoch⟩ := hs.object
  rw [hq] at hq0
  cases hq0
  have := hepoch b hb
  exact ⟨q, hq, by omega⟩

end

theorem fence_baseline (h : H.fence = some b) : H.baseline = some b := by
  unfold Generation.fence at h
  split at h
  · exact h
  · exact h
  · cases h

theorem other_sound (h : Step opening a a' g G G' p p') (hne : h₁ ≠ g)
    (hH : a.generations.find? h₁ = some H) (hs : H.Sound opening a h₁) :
    H.Sound opening a' h₁ := by
  constructor
  case object =>
    obtain ⟨q, hq, hticket, hidle, hepoch⟩ := hs.object
    obtain ⟨q', hq', hle⟩ := h.object_after hq
    refine ⟨q', hq', ?_, hidle.trans hle, ?_⟩
    · exact fun hpc => (hticket hpc).trans hle
    · exact fun b hb => (hepoch b hb).trans hle
  case unsent => exact hs.unsent
  case created => exact hs.created
  case read => exact hs.read
  case alone =>
    intro hpc h2 K hK hne2 hobject hpub hticket
    rcases h.generation_cases hK with ⟨rfl, rfl⟩ | ⟨-, hold⟩
    · rw [h.evolves.object] at hobject
      by_cases hleasing : G.pc = .leasing
      · -- a lease published just now comes after every idle epoch
        have hlater := h.published hleasing hpub
        obtain ⟨q, hq, -, hidle, -⟩ := hs.object
        rw [← hobject, h.objectBefore] at hq
        cases hq
        omega
      · obtain ⟨-, hsame⟩ := h.evolves.published hleasing
        rw [hsame] at hticket
        exact h.evolves.gone (hs.alone hpc h2 G h.before hne2 hobject hleasing hticket)
    · exact hs.alone hpc h2 K hold hne2 hobject hpub hticket
  case fence =>
    intro b q' hb hq' heq
    obtain ⟨q, hq, hepoch⟩ := h.still_unbroken hs (fence_baseline hb) hq' heq
    rw [h.others h₁ H b q hne hH hb hq hepoch]
    exact hs.fence b q hb hq hepoch
  case post =>
    intro hpc b s q' hb hpost hq' heq
    obtain ⟨q, hq, hepoch⟩ := h.still_unbroken hs hb hq' heq
    exact hs.post hpc b s q hb hpost hq hepoch

theorem sound (h : Step opening a a' g G G' p p') (hs : a.Sound opening) : a'.Sound opening := by
  constructor
  case generations =>
    intro h₁ H hH
    rcases h.generation_cases hH with ⟨rfl, rfl⟩ | ⟨hne, hold⟩
    · exact h.self
    · exact h.other_sound hne hold (hs.generations _ _ hold)
  case inflight =>
    intro o q hq
    rw [h.generations, sumBy_put _ _ h.before]
    rw [h.profiles] at hq
    by_cases ho : G.object = o
    · subst ho
      rw [if_pos rfl] at hq
      cases hq
      rw [h.inflight, hs.inflight _ _ h.objectBefore]
    · rw [if_neg ho] at hq
      have hG : G.weight o = 0 := if_neg (fun hand => ho hand.1)
      have hG' : G'.weight o = 0 := if_neg (fun hand => ho (h.evolves.object.symm.trans hand.1))
      rw [hG, hG', hs.inflight _ _ hq]
      omega
  case settlements =>
    intro s hmem
    rcases h.settlements s hmem with hold | hown
    · intro d hd
      obtain ⟨H, hH, hcost⟩ := hs.settlements s hold d hd
      obtain ⟨H', hH', hsame⟩ := h.generation_kept hH
      exact ⟨H', hH', by rw [hsame]; exact hcost⟩
    · exact hown

end Step

/-- On an object with one live lease, the lease that found this is the only
one. -/
theorem Account.Sound.alone {a : Account} (hs : a.Sound opening) {g h : Nat}
    {G : Generation} {p : Profile} (hG : a.generations.find? g = some G)
    (hp : a.profiles.find? G.object = some p) (hone : p.inflight = 1)
    (hlive : G.pc ≠ .gone) (hH : a.generations.find? h = some H) (hne : h ≠ g)
    (hobject : H.object = G.object) : H.pc = .gone := by
  by_contra hother
  have hle := Table.weights_le_sumBy (fun _ K => Generation.weight K G.object)
    (fun _ K => K.weight_nonneg _) hG hH hne
  have hsum := hs.inflight _ _ hp
  have hH1 : H.weight G.object = 1 := if_pos ⟨hobject, hother⟩
  rw [Generation.weight_live hlive, hH1] at hle
  omega

end ApiToken.Credits
