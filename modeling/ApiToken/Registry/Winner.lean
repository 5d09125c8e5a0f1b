import ApiToken.Registry.ExactlyOnce

/-!
# One paid winner per execution group

Attempts of one logical request share an execution group; the first
positive settlement of a group takes its winner row and every later one is
billed nothing. Retention may remove reservations of a group one by one,
so the statements are about a set of reservations that exist together at
some point and about every run from there.
-/

namespace ApiToken.Registry

variable {op : Op} {ops : List Op} {ts actual : Int} {requestId : String}
  {intent : Intent} {c : AccountCollection} {b : Option Int}

def charged (s : Store) (id : String) : Prop :=
  s.ledger.any (isChargeOf id) = true

/-- The request has a usage row. -/
def metered (s : Store) (id : String) : Prop :=
  s.usageEvents.any (isUsageOf id) = true

instance (s : Store) (id : String) : Decidable (charged s id) :=
  inferInstanceAs (Decidable (_ = true))

instance (s : Store) (id : String) : Decidable (metered s id) :=
  inferInstanceAs (Decidable (_ = true))

/-! ## Admissions -/

/-- The request ids a call admits. -/
def admittedBy (s : Store) (op : Op) : List String :=
  ((exec s op).reservations.rows.map Prod.fst).filter (fun id => (s.reservations.find? id).isNone)

/-- The request ids a run admits, in order. -/
def admissions : Store → List Op → List String
  | _, [] => []
  | s, op :: ops => admittedBy s op ++ admissions (exec s op) ops

theorem admissions_append (s : Store) (ops1 ops2 : List Op) :
    admissions s (ops1 ++ ops2) = admissions s ops1 ++ admissions (run exec s ops1) ops2 := by
  induction ops1 generalizing s with
  | nil => rfl
  | cons _ _ ih => simp [admissions, ih]

variable {s s' : Store} {id : String} {r : Reservation} {o : OutboxRow}

theorem mem_admittedBy :
    id ∈ admittedBy s op ↔ s.reservations.find? id = none ∧
      ∃ r, (exec s op).reservations.find? id = some r := by
  simp only [admittedBy, mem_filter, mem_map, isNone_iff_eq_none]
  constructor
  · rintro ⟨⟨⟨k, r⟩, hmem, rfl⟩, hnone⟩
    exact ⟨hnone, r, find?_eq_some_iff.mpr hmem⟩
  · rintro ⟨hnone, r, hr⟩
    exact ⟨⟨(id, r), mem_of_find? hr, rfl⟩, hnone⟩

theorem admissions_of_reservation (h : (run exec s ops).reservations.find? id = some r) :
    (∃ r0, s.reservations.find? id = some r0) ∨ id ∈ admissions s ops := by
  induction ops generalizing s with
  | nil => exact Or.inl ⟨r, h⟩
  | cons _ _ ih =>
    rcases ih h with ⟨r1, hr1⟩ | hmem
    · cases hr0 : s.reservations.find? id with
      | some r0 => exact Or.inl ⟨r0, rfl⟩
      | none =>
        have hadm := mem_admittedBy.mpr ⟨hr0, r1, hr1⟩
        exact Or.inr (mem_append_left _ hadm)
    · exact Or.inr (mem_append_right _ hmem)

/-! ## Reservations persist between retention passes -/

theorem reservation_transition (hr : s.reservations.find? id = some r) (hstep : Transition s s') :
    ∃ r', s'.reservations.find? id = some r' ∧ r'.groupId = r.groupId ∧
      (r.state.terminal = true → r' = r) := by
  -- rewriting the row of one request
  have hput : ∀ {id' : String} {r1 r2 : Reservation},
      s.reservations.find? id' = some r1 → r2.groupId = r1.groupId →
      (r1.state.terminal = true → r2 = r1) →
      ∃ r', (s.reservations.put id' r2).find? id = some r' ∧
        r'.groupId = r.groupId ∧ (r.state.terminal = true → r' = r) := by
    intro id' r1 r2 hr1 hgroup hsame
    by_cases heq : id' = id
    · subst heq
      rw [hr] at hr1
      cases hr1
      exact ⟨r2, find?_put_self _ _ _, hgroup, hsame⟩
    · exact ⟨r, by rw [find?_put_ne _ _ heq, hr], rfl, fun _ => rfl⟩
  cases hstep with
  | @admitNew id' _ _ _ _ _ _ _ _ _ _ _ _ hnew =>
    have hne : id' ≠ id := by
      rintro rfl
      rw [hnew] at hr
      cases hr
    exact ⟨r, by rw [← hr]; exact find?_put_ne _ _ hne, rfl, fun _ => rfl⟩
  | touch hr1 hlive _ | settle hr1 _ hlive =>
    refine hput hr1 rfl ?_
    intro hterm
    rw [hlive] at hterm
    cases hterm
  | @enqueue _ r1 intent ts hr1 =>
    refine hput hr1 ?_ ?_
    · unfold Reservation.markPending
      split <;> rfl
    · intro hterm
      rcases markPending_state r1 intent.actualNano ts with
        ⟨-, hsame⟩ | ⟨hlive, -⟩
      · exact hsame
      · rw [hlive] at hterm
        cases hterm
  | @requeue _ r1 o ts hr1 =>
    refine hput hr1 ?_ ?_
    · unfold Reservation.markPending
      split <;> rfl
    · intro hterm
      rcases markPending_state r1 o.intent.actualNano ts with
        ⟨-, hsame⟩ | ⟨hlive, -⟩
      · exact hsame
      · rw [hlive] at hterm
        cases hterm
  | owners | topup | delivery | confirm | failure => exact ⟨r, hr, rfl, fun _ => rfl⟩

theorem reservation_transitions (h : ∃ r, s.reservations.find? id = some r)
    (hpath : Transitions s s') :
    ∃ r, s'.reservations.find? id = some r := by
  refine reflTransGen_invariant
    (I := fun t : Store => ∃ r, t.reservations.find? id = some r) ?_ h hpath
  rintro t t' ⟨r, hr⟩ hstep
  obtain ⟨r', hr', -⟩ := reservation_transition hr hstep
  exact ⟨r', hr'⟩

/-! ## Rows belong to the reservation that earned them -/

/-- Charges and usage rows belong to reservations that ended so. -/
structure OwnRows (s : Store) : Prop where
  charge : ∀ id r, s.reservations.find? id = some r → charged s id →
    r.state.terminal = true ∧ ∃ a, r.actualNano = some a ∧ 0 < a
  usage : ∀ id r, s.reservations.find? id = some r → metered s id →
    r.state = .settled
  paid : ∀ id r a, s.reservations.find? id = some r →
    r.state.terminal = true → r.actualNano = some a → 0 < a → charged s id
  /-- Only a settle carries usage. -/
  intent_usage : ∀ id o, s.settlementOutbox.find? id = some o →
    o.intent.disposition ≠ .settle → o.intent.usage = {}

theorem charged_settle {ledger : List LedgerRow}
    (h : chargeLedger s ts requestId r intent c actual = .ok ledger) (id : String) :
    ledger.any (isChargeOf id) = true ↔ charged s id ∨ requestId = id ∧ 0 < actual := by
  rcases chargeLedger_cases h with ⟨hpos, -, rfl⟩ | ⟨hzero, rfl⟩
  · simp [charged, isChargeOf, chargeRow, hpos, any_append]
  · have : ¬ 0 < actual := by omega
    simp [charged, this]

theorem metered_settle {losing : Bool} {usage : List UsageEvent}
    (h : meterUsage s ts requestId r intent c actual losing = .ok usage) (id : String)
    (hm : usage.any (isUsageOf id) = true) :
    metered s id ∨ requestId = id ∧ losing = false ∧ intent.usage.model ≠ "" := by
  rcases meterUsage_cases h with ⟨hwin, hmodel, -, rfl⟩ | rfl
  · simp only [any_append, guard_iffs, any_cons, any_nil, Bool.or_false, isUsageOf,
      usageRow] at hm
    rcases hm with hold | hnew
    · exact Or.inl hold
    · exact Or.inr ⟨hnew, hwin, hmodel⟩
  · exact Or.inl hm

section Preservation

variable {s s' : Store}

section

variable (h : OwnRows s)
include h

variable {id : String} {r : Reservation}

theorem OwnRows.live (hr : s.reservations.find? id = some r) (hlive : r.state.terminal = false) :
    ¬ charged s id ∧ ¬ metered s id := by
  constructor
  · intro hc
    have hterm := (h.charge id r hr hc).1
    rw [hlive] at hterm
    cases hterm
  · intro hm
    rw [h.usage id r hr hm] at hlive
    cases hlive

theorem OwnRows.rewrite {r' : Reservation} (hcharged : ∀ i, charged s' i ↔ charged s i)
    (hmetered : ∀ i, metered s' i → metered s i)
    (hres : s'.reservations = s.reservations.put id r')
    (hrow : (r'.state.terminal = false ∧ ¬ charged s id ∧ ¬ metered s id) ∨
      s.reservations.find? id = some r')
    (hintent : ∀ i o, s'.settlementOutbox.find? i = some o →
      o.intent.disposition ≠ .settle → o.intent.usage = {}) : OwnRows s' where
  charge := by
    intro i r hr hc
    rw [hres, find?_put] at hr
    rw [hcharged] at hc
    split at hr
    · rename_i heq
      subst heq
      cases hr
      rcases hrow with ⟨-, hnot, -⟩ | hsame
      · exact absurd hc hnot
      · exact h.charge id r' hsame hc
    · exact h.charge i r hr hc
  usage := by
    intro i r hr hm
    rw [hres, find?_put] at hr
    split at hr
    · rename_i heq
      subst heq
      cases hr
      rcases hrow with ⟨-, -, hnot⟩ | hsame
      · exact absurd (hmetered _ hm) hnot
      · exact h.usage id r' hsame (hmetered _ hm)
    · exact h.usage i r hr (hmetered _ hm)
  paid := by
    intro i r a hr hterm ha hpos
    rw [hres, find?_put] at hr
    rw [hcharged]
    split at hr
    · rename_i heq
      subst heq
      cases hr
      rcases hrow with ⟨hlive, -, -⟩ | hsame
      · rw [hlive] at hterm
        cases hterm
      · exact h.paid id r' a hsame hterm ha hpos
    · exact h.paid i r a hr hterm ha hpos
  intent_usage := hintent

theorem OwnRows.frame (hres : s'.reservations = s.reservations)
    (hcharged : ∀ i, charged s' i ↔ charged s i) (hmetered : ∀ i, metered s' i → metered s i)
    (hintent : ∀ i o, s'.settlementOutbox.find? i = some o →
      o.intent.disposition ≠ .settle → o.intent.usage = {}) : OwnRows s' where
  charge := by
    intro i r hr hc
    rw [hres] at hr
    exact h.charge i r hr ((hcharged i).mp hc)
  usage := by
    intro i r hr hm
    rw [hres] at hr
    exact h.usage i r hr (hmetered i hm)
  paid := by
    intro i r a hr hterm ha hpos
    rw [hres] at hr
    exact (hcharged i).mpr (h.paid i r a hr hterm ha hpos)
  intent_usage := hintent

theorem OwnRows.outbox_put (ho : o.intent.disposition ≠ .settle → o.intent.usage = {}) :
    ∀ i o', (s.settlementOutbox.put id o).find? i = some o' →
      o'.intent.disposition ≠ .settle → o'.intent.usage = {} := by
  intro i o' hfind
  rw [find?_put] at hfind
  split at hfind
  · cases hfind
    exact ho
  · exact h.intent_usage i o' hfind

theorem OwnRows.markPending (hr : s.reservations.find? id = some r) (actual ts : Int) :
    ((r.markPending actual ts).state.terminal = false ∧
      ¬ charged s id ∧ ¬ metered s id) ∨
      s.reservations.find? id = some (r.markPending actual ts) := by
  rcases markPending_state r actual ts with ⟨-, hsame⟩ | ⟨hlive, hstate⟩
  · exact Or.inr (by rw [hsame, hr])
  · exact Or.inl ⟨by rw [hstate]; rfl, h.live hr hlive⟩

theorem ownRows_settle (hr : s.reservations.find? id = some r)
    (hlive : r.state.terminal = false) (ho : s.settlementOutbox.find? id = some o)
    (hledger : chargeLedger s ts id r o.intent c (effectiveActual s id o r) = .ok s'.ledger)
    (husage : meterUsage s ts id r o.intent c (effectiveActual s id o r)
      (isLosingAttempt s id (r.effectiveGroupId id) o.intent.actualNano)
      = .ok s'.usageEvents)
    (hres : s'.reservations = s.reservations.put id
      (r.settle (effectiveCancel s id o r) (effectiveActual s id o r) c ts))
    (hintent : ∀ i o, s'.settlementOutbox.find? i = some o →
      o.intent.disposition ≠ .settle → o.intent.usage = {}) : OwnRows s' where
  charge := by
    intro i r' hr' hc
    rw [hres, find?_put] at hr'
    rcases (charged_settle hledger i).mp hc with hold | ⟨rfl, hpos⟩
    · split at hr'
      · rename_i heq
        subst heq
        exact absurd hold (h.live hr hlive).1
      · exact h.charge i r' hr' hold
    · rw [if_pos rfl] at hr'
      cases hr'
      exact ⟨by cases effectiveCancel s id o r <;> rfl, _, rfl, hpos⟩
  usage := by
    intro i r' hr' hm
    rw [hres, find?_put] at hr'
    rcases metered_settle husage i hm with hold | ⟨rfl, hwin, hmodel⟩
    · split at hr'
      · rename_i heq
        subst heq
        exact absurd hold (h.live hr hlive).2
      · exact h.usage i r' hr' hold
    · rw [if_pos rfl] at hr'
      cases hr'
      have hsettle : o.intent.disposition = .settle := by
        by_contra hne
        rw [h.intent_usage id o ho hne] at hmodel
        exact hmodel rfl
      have hcancel : effectiveCancel s id o r = false := by
        simp [effectiveCancel, hwin, hsettle]
      rw [hcancel]
      rfl
  paid := by
    intro i r' a hr' hterm ha hpos
    rw [hres, find?_put] at hr'
    refine (charged_settle hledger i).mpr ?_
    split at hr'
    · rename_i heq
      subst heq
      cases hr'
      have hactual : effectiveActual s id o r = a := some.inj ha
      exact Or.inr ⟨rfl, hactual ▸ hpos⟩
    · exact Or.inl (h.paid i r' a hr' hterm ha hpos)
  intent_usage := hintent

theorem ownRows_transition (hstep : Transition s s')
    (hfresh : ∀ id r, s.reservations.find? id = none →
      s'.reservations.find? id = some r → ¬ charged s id ∧ ¬ metered s id) :
    OwnRows s' := by
  cases hstep with
  | owners | delivery =>
    exact h.frame rfl (fun _ => Iff.rfl) (fun _ hm => hm) h.intent_usage
  | topup _ _ hkind =>
    refine h.frame rfl ?_ (fun _ hm => hm) h.intent_usage
    intro i
    simp [charged, isChargeOf, hkind, any_append]
  | admitNew hnew =>
    have hrows := hfresh _ _ hnew (find?_put_self _ _ _)
    exact h.rewrite (fun _ => Iff.rfl) (fun _ hm => hm) rfl (Or.inl ⟨rfl, hrows⟩) h.intent_usage
  | touch hr hlive hstate =>
    refine h.rewrite (fun _ => Iff.rfl) (fun _ hm => hm) rfl (Or.inl ⟨?_, ?_⟩) h.intent_usage
    · rcases hstate with rfl | ⟨-, rfl⟩
      · exact hlive
      · rfl
    · exact h.live hr hlive
  | enqueue hr _ _ _ _ hcancel =>
    exact h.rewrite (fun _ => Iff.rfl) (fun _ hm => hm) rfl
      (h.markPending hr _ _) (h.outbox_put hcancel)
  | requeue hr =>
    exact h.rewrite (fun _ => Iff.rfl) (fun _ hm => hm) rfl (h.markPending hr _ _) h.intent_usage
  | confirm _ ho | failure ho =>
    have hintent := h.intent_usage _ _ ho
    exact h.frame rfl (fun _ => Iff.rfl) (fun _ hm => hm) (h.outbox_put hintent)
  | settle hr ho hlive _ _ _ _ _ _ hledger husage =>
    have hintent := h.intent_usage _ _ ho
    exact ownRows_settle h hr hlive ho hledger husage rfl (h.outbox_put hintent)

theorem ownRows_pruned (olderThanTs : Int) (billed : Nat) :
    OwnRows (pruned s olderThanTs billed) where
  charge := by
    intro i r hr hc
    rw [charged, pruned_ledger] at hc
    exact h.charge i r (pruned_reservation hr) hc
  usage := by
    intro i r hr hm
    rw [metered, pruned_usageEvents] at hm
    exact h.usage i r (pruned_reservation hr) hm
  paid := by
    intro i r a hr hterm ha hpos
    rw [charged, pruned_ledger]
    exact h.paid i r a (pruned_reservation hr) hterm ha hpos
  intent_usage := fun i o ho => h.intent_usage i o (pruned_outbox ho)

end

/-! ## A request id is admitted once -/

def hasRows (s : Store) (id : String) : Prop := charged s id ∨ metered s id

theorem hasRows_transition (hstep : Transition s s') (h : hasRows s' id) :
    hasRows s id ∨ ∃ r, s.reservations.find? id = some r := by
  cases hstep with
  | topup _ _ hkind =>
    rcases h with hc | hm
    · simp only [charged, any_append, guard_iffs, any_cons, any_nil, Bool.or_false,
        isChargeOf] at hc
      rcases hc with hold | ⟨hk, -⟩
      · exact Or.inl (Or.inl hold)
      · exact absurd hk hkind
    · exact Or.inl (Or.inr hm)
  | settle hr _ _ _ _ _ _ _ _ hledger husage =>
    rcases h with hc | hm
    · rcases (charged_settle hledger id).mp hc with hold | ⟨rfl, -⟩
      · exact Or.inl (Or.inl hold)
      · exact Or.inr ⟨_, hr⟩
    · rcases metered_settle husage id hm with hold | ⟨rfl, -⟩
      · exact Or.inl (Or.inr hold)
      · exact Or.inr ⟨_, hr⟩
  | owners | admitNew | touch | delivery | enqueue | requeue | confirm | failure => exact Or.inl h

theorem hasRows_transitions (hpath : Transitions s s') (h : hasRows s' id) :
    hasRows s id ∨ ∃ r, s'.reservations.find? id = some r := by
  induction hpath with
  | refl => exact Or.inl h
  | tail _ hlast ih =>
    rcases hasRows_transition hlast h with hrows | hres
    · rcases ih hrows with hold | hres
      · exact Or.inl hold
      · exact Or.inr (reservation_transitions hres (.single hlast))
    · exact Or.inr (reservation_transitions hres (.single hlast))

theorem hasRows_exec (h : hasRows (exec s op) id) :
    hasRows s id ∨ ∃ r, (exec s op).reservations.find? id = some r := by
  rcases exec_cases s op with hpath | ⟨olderThanTs, billed, heq⟩
  · exact hasRows_transitions hpath h
  · rw [heq, hasRows, charged, metered, pruned_ledger, pruned_usageEvents] at h
    exact Or.inl h

theorem ownRows_exec (h : OwnRows s) (hfresh : ∀ id ∈ admittedBy s op, ¬ hasRows s id) :
    OwnRows (exec s op) := by
  rcases exec_cases s op with hpath | ⟨olderThanTs, billed, heq⟩
  · -- inside a call, whatever a transition admits is still there at the end
    have hfresh' : ∀ id, s.reservations.find? id = none →
        (∃ r, (exec s op).reservations.find? id = some r) → ¬ hasRows s id :=
      fun id hnone hres => hfresh id (mem_admittedBy.mpr ⟨hnone, hres⟩)
    revert hfresh'
    generalize exec s op = s' at hpath
    intro hfresh'
    induction hpath with
    | refl => exact h
    | @tail b c hpre hlast ih =>
      have hb : OwnRows b := by
        refine ih fun id hnone hres => hfresh' id hnone ?_
        exact reservation_transitions hres (.single hlast)
      refine ownRows_transition hb hlast ?_
      intro id r hnone hsome
      have hnot : ¬ hasRows b id := by
        intro hrows
        have hstart : s.reservations.find? id = none := by
          by_contra hne
          obtain ⟨r0, hr0⟩ := Option.ne_none_iff_exists'.mp hne
          obtain ⟨r1, hr1⟩ := reservation_transitions ⟨r0, hr0⟩ hpre
          rw [hnone] at hr1
          cases hr1
        rcases hasRows_transitions hpre hrows with hold | ⟨r1, hr1⟩
        · exact hfresh' id hstart ⟨r, hsome⟩ hold
        · rw [hnone] at hr1
          cases hr1
      exact ⟨fun hc => hnot (Or.inl hc), fun hm => hnot (Or.inr hm)⟩
  · rw [heq]
    exact ownRows_pruned h olderThanTs billed

theorem ownRows_run_aux (ops : List Op) (s : Store) (used : List String) (h : OwnRows s)
    (hused : ∀ id, hasRows s id ∨ (∃ r, s.reservations.find? id = some r) → id ∈ used)
    (hnodup : (used ++ admissions s ops).Nodup) : OwnRows (run exec s ops) := by
  induction ops generalizing s used with
  | nil => exact h
  | cons op _ ih =>
    rw [admissions, ← append_assoc] at hnodup
    have hdisjoint : ∀ id ∈ admittedBy s op, id ∉ used := by
      intro id hmem hin
      have hpre := (nodup_append.mp hnodup).1
      exact (nodup_append.mp hpre).2.2 id hin id hmem rfl
    refine ih (exec s op) (used ++ admittedBy s op) ?_ ?_ hnodup
    · exact ownRows_exec h fun id hmem hrows => hdisjoint id hmem (hused id (Or.inl hrows))
    · intro id hid
      rw [mem_append]
      have hres : hasRows s id ∨
          ∃ r, (exec s op).reservations.find? id = some r := by
        rcases hid with hrows | hres
        · exact hasRows_exec hrows
        · exact Or.inr hres
      rcases hres with hrows | hres
      · exact Or.inl (hused id (Or.inl hrows))
      · cases hr0 : s.reservations.find? id with
        | some r0 => exact Or.inl (hused id (Or.inr ⟨r0, hr0⟩))
        | none => exact Or.inr (mem_admittedBy.mpr ⟨hr0, hres⟩)

end Preservation

theorem ownRows_run (h : s.Initial) (hids : (admissions s ops).Nodup) :
    OwnRows (run exec s ops) := by
  refine ownRows_run_aux ops s [] ?_ ?_ (by simpa using hids)
  · constructor <;> simp [h.reservations, h.settlementOutbox]
  · intro id hid
    simp [hasRows, charged, metered, h.ledger, h.usageEvents, h.reservations] at hid

/-! ## A set of reservations of one group -/

section Group

variable (member : String → Prop) (group : String)

/-- Of the requests in `member`, at most one is charged; while any of their
reservations is left, the charged one is the group's winner. -/
structure OnePaid (s : Store) : Prop where
  group_of : ∀ id r, member id → s.reservations.find? id = some r →
    r.effectiveGroupId id = group
  winner : ∀ id id' r, member id → member id' →
    s.reservations.find? id' = some r → charged s id →
    ∃ w, s.executionGroupWinner.find? group = some w ∧ w.winnerRequestId = id
  unique : ∀ id id', member id → member id' → charged s id → charged s id' →
    id = id'

variable {member group} {s s' : Store}

theorem winner_transition (hstep : Transition s s') {g : String}
    {w : GroupWinner} (h : s.executionGroupWinner.find? g = some w) :
    s'.executionGroupWinner.find? g = some w := by
  cases hstep with
  | settle _ _ _ _ hwinners => exact (electWinner_keeps hwinners).1 g w h
  | owners | topup | admitNew | touch | delivery | enqueue | requeue | confirm | failure => exact h

theorem charged_transition (hstep : Transition s s') (h : charged s' id) :
    charged s id ∨ ∃ r, s.reservations.find? id = some r ∧
      (∃ w, s'.executionGroupWinner.find? (r.effectiveGroupId id) = some w ∧
        w.winnerRequestId = id) ∧
      ∀ w, s.executionGroupWinner.find? (r.effectiveGroupId id) = some w →
        w.winnerRequestId = id := by
  cases hstep with
  | topup _ _ hkind =>
    simp only [charged, any_append, guard_iffs, any_cons, any_nil, Bool.or_false, isChargeOf] at h
    rcases h with hold | ⟨hk, -⟩
    · exact Or.inl hold
    · exact absurd hk hkind
  | @settle requestId r o _ _ _ _ _ _ _ _ hr _ _ _ hwinners _ _ _ _ hledger =>
    rcases (charged_settle hledger id).mp h with hold | ⟨rfl, hpos⟩
    · exact Or.inl hold
    · have hnot : isLosingAttempt s requestId (r.effectiveGroupId requestId)
          o.intent.actualNano = false := by
        by_contra hlose
        rw [effectiveActual, if_pos (by simpa using hlose)] at hpos
        exact absurd hpos (by decide)
      have hactual : 0 < o.intent.actualNano := by
        rw [effectiveActual, hnot] at hpos
        exact hpos
      obtain ⟨w, hw, hself⟩ := (electWinner_keeps hwinners).2 hactual
      refine Or.inr ⟨r, hr, ⟨w, hw, hself hnot⟩, ?_⟩
      intro w' hw'
      simpa [isLosingAttempt, hactual, hw'] using hnot
  | owners | admitNew | touch | delivery | enqueue | requeue | confirm | failure => exact Or.inl h

theorem onePaid_transition (h : OnePaid member group s) (hstep : Transition s s')
    (hback : ∀ id, member id → s.reservations.find? id = none →
      s'.reservations.find? id = none) : OnePaid member group s' := by
  -- a member that has a reservation now had one before
  have hbefore : ∀ {id r}, member id → s'.reservations.find? id = some r →
      ∃ r0, s.reservations.find? id = some r0 ∧ r.groupId = r0.groupId := by
    intro id r hmem hr
    cases hr0 : s.reservations.find? id with
    | none =>
      rw [hback id hmem hr0] at hr
      cases hr
    | some r0 =>
      obtain ⟨r', hr', hgroup, -⟩ := reservation_transition hr0 hstep
      rw [hr] at hr'
      cases hr'
      exact ⟨r0, rfl, hgroup⟩
  have hunique : ∀ id id', member id → member id' → charged s' id →
      charged s' id' → id = id' := by
    -- a new charge finds the group free or its own
    have hnew : ∀ id id', member id → member id' → charged s id →
        (∃ r, s.reservations.find? id' = some r ∧
          ∀ w, s.executionGroupWinner.find? (r.effectiveGroupId id') = some w →
            w.winnerRequestId = id') → id = id' := by
      rintro id id' hmem hmem' hc ⟨r, hr, hfree⟩
      obtain ⟨w, hw, hid⟩ := h.winner id id' r hmem hmem' hr hc
      rw [h.group_of id' r hmem' hr] at hfree
      exact hid.symm.trans (hfree w hw)
    intro id id' hmem hmem' hc hc'
    rcases charged_transition hstep hc with hold | ⟨r, hr, ⟨w, hw, hid⟩, hfree⟩
    · rcases charged_transition hstep hc' with hold' | ⟨r', hr', -, hfree'⟩
      · exact h.unique id id' hmem hmem' hold hold'
      · exact hnew id id' hmem hmem' hold ⟨r', hr', hfree'⟩
    · rcases charged_transition hstep hc' with
        hold' | ⟨r', hr', ⟨w', hw', hid'⟩, -⟩
      · exact (hnew id' id hmem' hmem hold' ⟨r, hr, hfree⟩).symm
      · rw [h.group_of id r hmem hr] at hw
        rw [h.group_of id' r' hmem' hr', hw] at hw'
        cases hw'
        exact hid.symm.trans hid'
  refine ⟨?_, ?_, hunique⟩
  · intro id r hmem hr
    obtain ⟨r0, hr0, hgroup⟩ := hbefore hmem hr
    rw [← h.group_of id r0 hmem hr0]
    simp [Reservation.effectiveGroupId, hgroup]
  · intro id id' r hmem hmem' hr hc
    obtain ⟨r0, hr0, -⟩ := hbefore hmem' hr
    rcases charged_transition hstep hc with hold | ⟨r', hr', ⟨w, hw, hid⟩, -⟩
    · obtain ⟨w, hw, hid⟩ := h.winner id id' r0 hmem hmem' hr0 hold
      exact ⟨w, winner_transition hstep hw, hid⟩
    · rw [h.group_of id r' hmem hr'] at hw
      exact ⟨w, hw, hid⟩

theorem onePaid_pruned (h : OnePaid member group s) (olderThanTs : Int)
    (billed : Nat) : OnePaid member group (pruned s olderThanTs billed) where
  group_of := fun id r hmem hr => h.group_of id r hmem (pruned_reservation hr)
  winner := by
    intro id id' r hmem hmem' hr hc
    rw [charged, pruned_ledger] at hc
    obtain ⟨w, hw, hid⟩ := h.winner id id' r hmem hmem' (pruned_reservation hr) hc
    have hgroup := h.group_of id' r hmem' (pruned_reservation hr)
    exact ⟨w, pruned_winner.mpr ⟨hw, id', r, hr, hgroup⟩, hid⟩
  unique := by
    intro id id' hmem hmem' hc hc'
    rw [charged, pruned_ledger] at hc hc'
    exact h.unique id id' hmem hmem' hc hc'

def NotReadmitted (member : String → Prop) (s : Store) (op : Op) : Prop :=
  ∀ id, member id → id ∉ admittedBy s op

/-- Along the transitions of a call, a member that is missing at the end was
missing all the way. -/
theorem not_readmitted_path {b c : Store} (hpre : Transitions s b) (hlast : Transition b c)
    (hend : s.reservations.find? id = none → c.reservations.find? id = none) :
    (s.reservations.find? id = none → b.reservations.find? id = none) ∧
      (b.reservations.find? id = none → c.reservations.find? id = none) := by
  constructor
  · intro hnone
    cases hb : b.reservations.find? id with
    | none => rfl
    | some r =>
      obtain ⟨r', hr'⟩ := reservation_transitions ⟨r, hb⟩ (.single hlast)
      rw [hend hnone] at hr'
      cases hr'
  · intro hnone
    refine hend ?_
    cases hs : s.reservations.find? id with
    | none => rfl
    | some r =>
      obtain ⟨r', hr'⟩ := reservation_transitions ⟨r, hs⟩ hpre
      rw [hnone] at hr'
      cases hr'

theorem onePaid_exec (h : OnePaid member group s) (hno : NotReadmitted member s op) :
    OnePaid member group (exec s op) := by
  rcases exec_cases s op with hpath | ⟨olderThanTs, billed, heq⟩
  · have hback : ∀ id, member id → s.reservations.find? id = none →
        (exec s op).reservations.find? id = none := by
      intro id hmem hnone
      cases hr : (exec s op).reservations.find? id with
      | none => rfl
      | some r => exact absurd (mem_admittedBy.mpr ⟨hnone, r, hr⟩) (hno id hmem)
    revert hback
    generalize exec s op = s' at hpath
    intro hback
    induction hpath with
    | refl => exact h
    | tail hpre hlast ih =>
      have hb := ih fun id hmem => (not_readmitted_path hpre hlast (hback id hmem)).1
      exact onePaid_transition hb hlast fun id hmem =>
        (not_readmitted_path hpre hlast (hback id hmem)).2
  · rw [heq]
    exact onePaid_pruned h olderThanTs billed

end Group

/-! ## Replays after retention -/

section Replay

variable {s s' : Store} {id : String} {o : OutboxRow} {r : Reservation}

/-- While the reservation is left it is the terminal row `r`, and everything
a replay of the payload of `o` compares is in place. -/
structure ReplayKept (s : Store) (id : String) (o : OutboxRow)
    (r : Reservation) : Prop where
  row : ∀ r', s.reservations.find? id = some r' → r' = r
  committed : ∀ r', s.reservations.find? id = some r' → Committed s id o r
  evidence : ∀ r', s.reservations.find? id = some r' →
    validateEvidence s id o.intent.terminal = .ok ()
  intent : ∀ o', s.settlementOutbox.find? id = some o' → o'.intent = o.intent

theorem fact_transition (hstep : Transition s s')
    (hr : s.reservations.find? id = some r) (hterm : r.state.terminal = true) :
    (∀ f, s'.requestFacts.find? id = some f → s.requestFacts.find? id = some f) ∨
    (s'.executionGroupWinner = s.executionGroupWinner ∧
      factLifecycle s' id = factLifecycle s id ∧
      ∃ o', s.settlementOutbox.find? id = some o' ∧
        ∀ f e, s'.requestFacts.find? id = some f →
          o'.intent.terminal = some e →
          f.terminal = some (e, settledOutcome s id o' r)) := by
  cases hstep with
  | @admitNew id' _ _ _ _ _ _ _ _ _ _ _ _ hnew _ _ _ _ _ hfacts =>
    have hne : id' ≠ id := by
      rintro rfl
      rw [hnew] at hr
      cases hr
    refine Or.inl fun f hf => ?_
    rw [← hfacts.other hne]
    exact hf
  | @delivery id' r1 fact ts hr1 hstate hfact =>
    have hne : id' ≠ id := by
      rintro rfl
      rw [hr] at hr1
      cases hr1
      rw [hstate] at hterm
      cases hterm
    refine Or.inl fun f hf => ?_
    rw [← hf]
    exact (find?_put_ne _ _ hne).symm
  | @confirm id' r1 o' _ _ facts hr1 ho _ _ _ _ hfacts =>
    obtain ⟨hother, hwritten, hlifecycle⟩ := finalizeTerminal_facts hfacts
    by_cases heq : id' = id
    · subst heq
      rw [hr] at hr1
      cases hr1
      exact Or.inr ⟨rfl, hlifecycle _ rfl, o', ho, hwritten⟩
    · refine Or.inl fun f hf => ?_
      rw [← hother id heq]
      exact hf
  | @settle id' r1 _ _ _ _ _ _ _ facts _ hr1 _ hlive _ _ _ _ _ _ _ _ hfacts =>
    have hne : id' ≠ id := by
      rintro rfl
      rw [hr] at hr1
      cases hr1
      rw [hlive] at hterm
      cases hterm
    refine Or.inl fun f hf => ?_
    rw [← (finalizeTerminal_facts hfacts).1 id hne]
    exact hf
  | owners | topup | touch | enqueue | requeue | failure => exact Or.inl fun _ hf => hf

theorem replayKept_transition (h : ReplayKept s id o r) (hstep : Transition s s')
    (hback : s.reservations.find? id = none → s'.reservations.find? id = none)
    (hintent : ∀ o', s'.settlementOutbox.find? id = some o' →
      o'.intent = o.intent) : ReplayKept s' id o r := by
  cases hr0 : s.reservations.find? id with
  | none =>
    have hnone := hback hr0
    constructor
    · simp [hnone]
    · simp [hnone]
    · simp [hnone]
    · exact hintent
  | some r0 =>
    obtain rfl := h.row r0 hr0
    have hc := h.committed r0 hr0
    have hev := h.evidence r0 hr0
    obtain ⟨r', hr', -, hsame⟩ := reservation_transition hr0 hstep
    obtain rfl := hsame hc.terminal
    have hkept : Committed s' id o r' ∧
        validateEvidence s' id o.intent.terminal = .ok () := by
      rcases fact_transition hstep hr0 hc.terminal with
        hfact | ⟨hwinner, hlifecycle, o', ho', hwritten⟩
      · exact ⟨hc.transport (fun w hw => winner_transition hstep hw) hfact,
          validateEvidence_forget hfact hev⟩
      · -- the stored intent is the one replayed, so its outcome is the same
        have hsame' := h.intent o' ho'
        have hwin : 0 < o.intent.actualNano →
            s'.executionGroupWinner.find? (r'.effectiveGroupId id)
              = s.executionGroupWinner.find? (r'.effectiveGroupId id) :=
          fun _ => by rw [hwinner]
        refine ⟨?_, by rw [validateEvidence_congr hlifecycle]; exact hev⟩
        refine
          { terminal := hc.terminal
            actual := by rw [effectiveActual_congr hwin]; exact hc.actual
            pin := hc.pin
            split := by rw [effectiveActual_congr hwin]; exact hc.split
            fact := ?_
            winner := by rw [hwinner]; exact hc.winner }
        intro f e hf he
        rw [hwritten f e hf (by rw [hsame']; exact he), settledOutcome_congr hwin]
        simp only [settledOutcome, effectiveActual, hsame']
    constructor
    · intro r'' hr''
      rw [hr'] at hr''
      exact (some.inj hr'').symm
    · exact fun _ _ => hkept.1
    · exact fun _ _ => hkept.2
    · exact hintent

theorem replayKept_pruned (h : ReplayKept s id o r) (olderThanTs : Int)
    (billed : Nat) : ReplayKept (pruned s olderThanTs billed) id o r where
  row := fun r' hr' => h.row r' (pruned_reservation hr')
  committed := by
    intro r' hr'
    obtain rfl := h.row r' (pruned_reservation hr')
    refine (h.committed r' (pruned_reservation hr')).transport ?_ (fun f hf => pruned_fact hf)
    exact fun w hw => pruned_winner.mpr ⟨hw, id, r', hr', rfl⟩
  evidence := fun r' hr' => validateEvidence_forget (fun f hf => pruned_fact hf)
    (h.evidence r' (pruned_reservation hr'))
  intent := fun o' ho' => h.intent o' (pruned_outbox ho')

def KeepsIntent (id : String) (intent : Intent) (s : Store) (op : Op) : Prop :=
  ∀ o', (exec s op).settlementOutbox.find? id = some o' → o'.intent = intent

theorem replayKept_exec (h : ReplayKept s id o r) (hno : id ∉ admittedBy s op)
    (hkeep : KeepsIntent id o.intent s op) : ReplayKept (exec s op) id o r := by
  rcases exec_cases s op with hpath | ⟨olderThanTs, billed, heq⟩
  · have hback : s.reservations.find? id = none →
        (exec s op).reservations.find? id = none := by
      intro hnone
      cases hr : (exec s op).reservations.find? id with
      | none => rfl
      | some r => exact absurd (mem_admittedBy.mpr ⟨hnone, r, hr⟩) hno
    have hkeep' : ∀ o', (exec s op).settlementOutbox.find? id = some o' →
        o'.intent = o.intent := hkeep
    revert hback hkeep'
    generalize exec s op = s' at hpath
    intro hback hkeep'
    induction hpath with
    | refl => exact h
    | @tail b c hpre hlast ih =>
      have hends := not_readmitted_path hpre hlast hback
      -- an intent stored on the way is still stored at the end
      have hb : ∀ o', b.settlementOutbox.find? id = some o' →
          o'.intent = o.intent := by
        intro o' ho'
        obtain ⟨o'', ho'', hsame⟩ := stored_transition ⟨o', ho', rfl⟩ hlast
        exact hsame.symm.trans (hkeep' o'' ho'')
      exact replayKept_transition (ih hends.1 hb) hlast hends.2 hkeep'
  · rw [heq]
    exact replayKept_pruned h olderThanTs billed

theorem replayKept_replay (h : ReplayKept s id o r) (hr : s.reservations.find? id = some r)
    (hbasis : o.intent.chargeBasisNano.any (· < 0) = false) {disposition : Disposition}
    {reference : Option String} {usage : Option UsageEventInput}
    {evidence : Option RequestFactTerminalEvidence}
    (hintent : persistedIntent actual disposition reference usage evidence
      = o.intent) (ts ts' : Int) :
    ∃ s2 s3 b, enqueueOutbox s ts id actual disposition reference usage evidence
        = .ok ((), s2) ∧
      processOutboxRequest s2 ts' id = .ok (b, s3) ∧
      s3.reservations.find? id = some r ∧ SameMoney s s3 := by
  have hc := h.committed r hr
  have hev := h.evidence r hr
  have hterm := hc.terminal
  have hevidence : validateEvidence s id evidence = .ok () := by
    rw [← hintent] at hev
    exact hev
  have hactual : (r.state.terminal && r.actualNano.isNone) = false := by simp [hc.actual]
  have hpend : r.markPending o.intent.actualNano ts = r := by
    simp [Reservation.markPending, hterm]
  -- the enqueue stores the payload again, or finds it stored
  have hinsert : ∃ outbox o2, insertIntent s ts id o.intent = .ok outbox ∧
      outbox.find? id = some o2 ∧ o2.intent = o.intent := by
    unfold insertIntent
    cases ho : s.settlementOutbox.find? id with
    | none => exact ⟨_, _, rfl, find?_put_self _ _ _, rfl⟩
    | some o' =>
      have hsame := h.intent o' ho
      exact ⟨_, o', by simp [bailIf, failIf, hsame, bind, Except.bind, pure,
        Except.pure], ho, hsame⟩
  obtain ⟨outbox, o2, hins, ho2, hintent2⟩ := hinsert
  let s2 : Store :=
    { s with settlementOutbox := outbox, reservations := s.reservations.put id r }
  have henqueue : enqueueOutbox s ts id actual disposition reference usage
      evidence = .ok ((), s2) := by
    simp only [enqueueOutbox, bind_eq_ok, exists_unit, pure_eq_ok, orFail_eq_ok,
      bailIf_eq_ok, failIf_eq_ok, hintent]
    exact ⟨r, hr, hevidence, hactual, hbasis, outbox, hins, by rw [hpend]⟩
  have hr2 : s2.reservations.find? id = some r := find?_put_self _ _ _
  have hc1 : Committed s2 id o r := hc.transport (fun _ hw => hw) (fun _ hf => hf)
  have hev2 : validateEvidence s2 id o2.intent.terminal = .ok () := by
    rw [hintent2]
    exact hev
  obtain ⟨s3, hprocess, hmoney, hres, -⟩ :=
    processOutboxRequest_replay ts' ho2 hr2 (hc1.of_intent hintent2) hev2
  exact ⟨s2, s3, _, henqueue, hprocess, by rw [hres]; exact hr2, hmoney⟩

end Replay

/-! ## The group theorem -/

def inGroup (s : Store) (group id : String) : Prop :=
  ∃ r, s.reservations.find? id = some r ∧ r.effectiveGroupId id = group

theorem onePaid_start (hsound : Sound s) (hown : OwnRows s) (group : String) :
    OnePaid (inGroup s group) group s := by
  have hwinner : ∀ id, inGroup s group id → charged s id →
      ∃ w, s.executionGroupWinner.find? group = some w ∧ w.winnerRequestId = id := by
    rintro id ⟨r, hr, rfl⟩ hc
    obtain ⟨hterm, a, ha, hpos⟩ := hown.charge id r hr hc
    exact (hsound.lifecycle id).paid_winner r a hr hterm ha hpos
  refine ⟨?_, fun id _ _ hmem _ _ hc => hwinner id hmem hc, ?_⟩
  · rintro id r ⟨r', hr', hgroup⟩ hr
    rw [hr] at hr'
    cases hr'
    exact hgroup
  · intro id id' hmem hmem' hc hc'
    obtain ⟨w, hw, hid⟩ := hwinner id hmem hc
    obtain ⟨w', hw', hid'⟩ := hwinner id' hmem' hc'
    rw [hw] at hw'
    cases hw'
    exact hid.symm.trans hid'

/-- If the run admits no id twice, a run that follows admits none of the ids
that are there. -/
theorem along_notReadmitted {member : String → Prop}
    (h : ∀ id, member id → id ∉ admissions s ops) :
    Along exec (NotReadmitted member) s ops := by
  induction ops generalizing s with
  | nil => trivial
  | cons _ _ ih =>
    refine ⟨fun id hmem hadm => ?_, ih fun id hmem hadm => ?_⟩
    · exact h id hmem (mem_append_left _ hadm)
    · exact h id hmem (mem_append_right _ hadm)

theorem not_admitted_later (h : s.Initial) {ops1 ops2 : List Op}
    (hids : (admissions s (ops1 ++ ops2)).Nodup)
    (hr : (run exec s ops1).reservations.find? id = some r) :
    id ∉ admissions (run exec s ops1) ops2 := by
  intro hlater
  rw [admissions_append, nodup_append] at hids
  rcases admissions_of_reservation hr with ⟨r0, hr0⟩ | hearlier
  · simp [h.reservations] at hr0
  · exact hids.2.2 id hearlier id hlater rfl

theorem applySettlement_rows (h : applySettlement s ts id o r = .ok (b, s')) :
    ∃ c, chargeLedger s ts id r o.intent c (effectiveActual s id o r)
        = .ok s'.ledger ∧
      meterUsage s ts id r o.intent c (effectiveActual s id o r)
        (isLosingAttempt s id (r.effectiveGroupId id) o.intent.actualNano)
        = .ok s'.usageEvents ∧
      s'.reservations.find? id = some
        (r.settle (effectiveCancel s id o r) (effectiveActual s id o r) c ts) := by
  simp only [applySettlement, ok_steps] at h
  obtain ⟨winners, hwinners, h⟩ := h
  rw [isLosingAttempt_elect hwinners] at h
  obtain ⟨-, c, -, _, -, _, hledger, _, husage, _, -, -, rfl⟩ := h
  exact ⟨c, hledger, husage, find?_put_self _ _ _⟩

theorem positive_settlement (hown : OwnRows s) (ho : s.settlementOutbox.find? id = some o)
    (hr : s.reservations.find? id = some r) (hlive : r.state.terminal = false)
    (hpending : o.state ≠ .done) (hpos : 0 < o.intent.actualNano)
    (h : processOutboxRequest s ts id = .ok (b, s')) :
    ∃ r', s'.reservations.find? id = some r' ∧ r'.state.terminal = true ∧
      ((r'.actualNano = some o.intent.actualNano ∧ charged s' id) ∨
        (r'.state = .canceled ∧ r'.actualNano = some 0 ∧ ¬ charged s' id ∧ ¬ metered s' id)) := by
  have happly : applySettlement s ts id o r = .ok (b, s') := by
    simp only [processOutboxRequest, ho, hr, ok_steps, hlive, hpending] at h
    exact h.2
  obtain ⟨c, hledger, husage, hr'⟩ := applySettlement_rows happly
  obtain ⟨hnotCharged, hnotMetered⟩ := hown.live hr hlive
  refine ⟨_, hr', by cases effectiveCancel s id o r <;> rfl, ?_⟩
  cases hlose : isLosingAttempt s id (r.effectiveGroupId id)
      o.intent.actualNano with
  | false =>
    have hfull : effectiveActual s id o r = o.intent.actualNano := by
      simp [effectiveActual, hlose]
    refine Or.inl ⟨by rw [hfull]; rfl, ?_⟩
    exact (charged_settle hledger id).mpr (Or.inr ⟨rfl, by rw [hfull]; exact hpos⟩)
  | true =>
    have hzero : effectiveActual s id o r = 0 := by simp [effectiveActual, hlose]
    have hcancel : effectiveCancel s id o r = true := by simp [effectiveCancel, hlose]
    refine Or.inr ⟨by rw [hcancel]; rfl, by rw [hzero]; rfl, ?_, ?_⟩
    · intro hc
      rcases (charged_settle hledger id).mp hc with hold | ⟨-, hgt⟩
      · exact hnotCharged hold
      · rw [hzero] at hgt
        exact absurd hgt (by decide)
    · intro hm
      rcases metered_settle husage id hm with hold | ⟨-, hwin, -⟩
      · exact hnotMetered hold
      · rw [hlose] at hwin
        cases hwin

/-- Single paid winner. Take the reservations of one effective group that
exist at some point of a run, and whatever happens afterwards:

1. at most one of them is ever charged;
2. every other one that ends, ends with amount zero, and without a usage
   row unless it was settled (a zero amount is metered but not charged);
3. an attempt that asks for a positive amount either is charged in full or
   ends canceled with amount zero, no charge row and no usage row;
4. as long as the reservation of an applied request is left, an exact replay
   of its intent is accepted and keeps its outcome;
5. retention removes the winner row exactly when no reservation of the group
   is left. -/
theorem single_paid_winner (s₀ : Store) (h₀ : s₀.Initial)
    (ops₁ ops₂ : List Op) (hids : (admissions s₀ (ops₁ ++ ops₂)).Nodup) (group : String) :
    let s₁ := run exec s₀ ops₁
    let s := run exec s₁ ops₂
    (∀ id id', inGroup s₁ group id → inGroup s₁ group id' →
      charged s id → charged s id' → id = id') ∧
    (∀ id r, inGroup s₁ group id → s.reservations.find? id = some r →
      r.state.terminal = true → ¬ charged s id →
      r.actualNano = some 0 ∧ (r.state ≠ .settled → ¬ metered s id)) ∧
    (∀ id o r ts b s', s.settlementOutbox.find? id = some o →
      s.reservations.find? id = some r → r.state.terminal = false →
      0 < o.intent.actualNano → processOutboxRequest s ts id = .ok (b, s') →
      ∃ r', s'.reservations.find? id = some r' ∧ r'.state.terminal = true ∧
        ((r'.actualNano = some o.intent.actualNano ∧ charged s' id) ∨
          (r'.state = .canceled ∧ r'.actualNano = some 0 ∧ ¬ charged s' id ∧
            ¬ metered s' id))) ∧
    (∀ id o r, s₁.settlementOutbox.find? id = some o →
      s₁.reservations.find? id = some r → o.state = .done →
      Along exec (KeepsIntent id o.intent) s₁ ops₂ →
      ∀ r', s.reservations.find? id = some r' → r' = r ∧
        ∀ actual disposition reference usage evidence ts ts',
          persistedIntent actual disposition reference usage evidence
            = o.intent →
          ∃ s₂ s₃ b, enqueueOutbox s ts id actual disposition reference usage
              evidence = .ok ((), s₂) ∧
            processOutboxRequest s₂ ts' id = .ok (b, s₃) ∧
            s₃.reservations.find? id = some r ∧ SameMoney s s₃) ∧
    (∀ w olderThanTs billed, s.executionGroupWinner.find? group = some w →
      ((pruned s olderThanTs billed).executionGroupWinner.find? group = none ↔
        ∀ id, ¬ inGroup (pruned s olderThanTs billed) group id)) := by
  intro s₁ s
  have hids₁ : (admissions s₀ ops₁).Nodup := by
    rw [admissions_append] at hids
    exact (nodup_append.mp hids).1
  have hsound₁ : Sound s₁ := sound_run h₀ ops₁
  have hown₁ : OwnRows s₁ := ownRows_run h₀ hids₁
  have hrun : run exec s₀ (ops₁ ++ ops₂) = s := run_append exec s₀ ops₁ ops₂
  have hsound : Sound s := hrun ▸ sound_run h₀ (ops₁ ++ ops₂)
  have hown : OwnRows s := hrun ▸ ownRows_run h₀ hids
  refine ⟨?_, ?_, ?_, ?_, ?_⟩
  · have hpaid : OnePaid (inGroup s₁ group) group s := by
      refine run_invariant_along (C := NotReadmitted (inGroup s₁ group))
        (fun t op ht hno => onePaid_exec ht hno)
        (onePaid_start hsound₁ hown₁ group) (along_notReadmitted ?_)
      rintro id ⟨r, hr, -⟩
      exact not_admitted_later h₀ hids hr
    exact hpaid.unique
  · intro id r _ hr hterm hnot
    constructor
    · obtain ⟨a, c, u, ha, -, -, hc, hu, hsum⟩ := hsound.money.split id r hr hterm
      have hzero : ¬ 0 < a := fun hpos =>
        hnot (hown.paid id r a hr hterm ha hpos)
      rw [ha, show a = 0 by omega]
    · exact fun hne hm => hne (hown.usage id r hr hm)
  · intro id o r ts b s' ho hr hlive hpos h
    exact positive_settlement hown ho hr hlive
      ((hsound.lifecycle id).not_done hr ho hlive) hpos h
  · intro id o r ho hr hdone hkeep r' hr'
    have hstart : ReplayKept s₁ id o r := by
      have hc := (hsound₁.lifecycle id).done_committed o r ho hr hdone
      refine ⟨?_, fun _ _ => hc, fun _ _ => (hsound₁.lifecycle id).evidence o ho,
        ?_⟩
      · intro r₁ hr₁
        rw [hr] at hr₁
        exact (some.inj hr₁).symm
      · intro o₁ ho₁
        rw [ho] at ho₁
        cases ho₁
        rfl
    have hkept : ReplayKept s id o r := by
      refine run_invariant_along
        (C := fun t op => NotReadmitted (· = id) t op ∧
          KeepsIntent id o.intent t op)
        (fun t op ht hno => replayKept_exec ht (hno.1 id rfl) hno.2) hstart ?_
      refine along_and.mpr ⟨along_notReadmitted ?_, hkeep⟩
      rintro id' rfl
      exact not_admitted_later h₀ hids hr
    obtain rfl := hkept.row r' hr'
    refine ⟨rfl, ?_⟩
    intro actual disposition reference usage evidence ts ts' hintent
    exact replayKept_replay hkept hr' ((hsound₁.lifecycle id).basis o ho)
      hintent ts ts'
  · intro w olderThanTs billed hw
    constructor
    · rintro hnone id ⟨r, hr, hgroup⟩
      rw [pruned_winner.mpr ⟨hw, id, r, hr, hgroup⟩] at hnone
      cases hnone
    · intro hempty
      cases hkept : (pruned s olderThanTs billed).executionGroupWinner.find?
          group with
      | none => rfl
      | some =>
        obtain ⟨-, id, r, hr, hgroup⟩ := pruned_winner.mp hkept
        exact absurd ⟨r, hr, hgroup⟩ (hempty id)

/-! ## Two attempts of one group -/

def pairGroup : String := "aaaaaaaa-aaaa-4aaa-8aaa-aaaaaaaaaaaa"

def pairOwner : Owner := { instanceId := "engine", epoch := 1 }

/-- Two attempts are admitted; the first settles for a positive amount. -/
def pairRun : List Op :=
  [.claimInstance 1000 "engine" 60,
   .accountTopup 1000 "acct" 5000000000 none,
   .reserve (fun _ => 1000) 1000 pairOwner "paid" "acct" "key" 0 60
     ⟨some pairGroup, 1, by decide⟩ none none,
   .reserve (fun _ => 1000) 1000 pairOwner "free" "acct" "key" 0 60
     ⟨some pairGroup, 2, by decide⟩ none none,
   .enqueueSettlement 1001 "paid" 700 none none none,
   .processOutboxRequest 1002 "paid"]

def pairMetered : List Op :=
  [.enqueueSettlement 1003 "free" 0 none
     (some { model := "claude", outputTokens := 12 }) none,
   .processOutboxRequest 1004 "free"]

/-- Retention, long after the first attempt ended. -/
def pairPruned : List Op := [.maintenancePrune 10000000 7000000 0]

/-- An attempt other than the winner can keep a usage row: it asked for
nothing and settled. And a replay of the winner's intent fails once its own
reservation is gone, although the other attempt and the winner row are
still there. -/
theorem single_paid_winner_pair :
    ((admissions soloStore (pairRun ++ pairMetered)).Nodup ∧
      ((run exec soloStore (pairRun ++ pairMetered)).reservations.find?
        "free").map (fun r => (r.effectiveGroupId "free", r.state, r.actualNano))
        = some (pairGroup, .settled, some 0) ∧
      charged (run exec soloStore (pairRun ++ pairMetered)) "paid" ∧
      metered (run exec soloStore (pairRun ++ pairMetered)) "free") ∧
    (((run exec soloStore (pairRun ++ pairPruned)).reservations.find?
        "free").map (fun r => r.effectiveGroupId "free") = some pairGroup ∧
      ((run exec soloStore (pairRun ++ pairPruned)).executionGroupWinner.find?
        pairGroup).map (·.winnerRequestId) = some "paid" ∧
      (enqueueSettlement (run exec soloStore (pairRun ++ pairPruned)) 10000001
        "paid" 700 none none none).isOk = false) := by
  decide

/-- The theorem at a run in which both attempts end. -/
theorem single_paid_winner_metered :
    (admissions soloStore (pairRun ++ pairMetered)).Nodup ∧
    charged (run exec (run exec soloStore pairRun) pairMetered) "paid" ∧
    ∀ id, inGroup (run exec soloStore pairRun) pairGroup id →
      charged (run exec (run exec soloStore pairRun) pairMetered) id →
      id = "paid" := by
  refine ⟨by decide, by decide, ?_⟩
  intro id hmem hc
  exact (single_paid_winner soloStore soloStore_initial pairRun pairMetered
    (by decide) pairGroup).1 id "paid" hmem ⟨_, rfl, by decide⟩ hc (by decide)

end ApiToken.Registry
