import ApiToken.Registry.ExactlyOnce

/-!
# The delivery fence

`mark_delivering` is the last check before an answer leaves the engine: a
`true` is meant to say that what is delivered from now on can still be
charged. It accepts a reservation in `settlement_pending`, and that state
does not tell a queued charge from a queued cancel. `fencedCancel` is the
one situation in which the fence answers `true` over a cancel.
-/

namespace ApiToken.Registry

variable {s s' : Store} {ts lease : Int} {owner : Owner} {id : String}
  {recordFact : Bool}

/-- The request for which the call answers `true`. -/
def deliveredBy (s : Store) : Op → Option String
  | .markDelivering ts owner id lease recordFact =>
    match markDelivering s ts owner id lease recordFact with
    | .ok (true, _) => some id
    | _ => none
  | _ => none

/-- No cancel is queued or committed for the request. -/
def chargeable (s : Store) (id : String) : Bool :=
  (s.settlementOutbox.find? id).all (fun o => o.intent.disposition != .cancel)
    && (s.reservations.find? id).all (fun r => r.state != .canceled)

/-- Whenever the call answers `true`, what it delivers can be charged. -/
def FenceHolds (s : Store) (op : Op) : Prop :=
  (deliveredBy s op).all (chargeable (exec s op)) = true

instance (s : Store) (op : Op) : Decidable (FenceHolds s op) :=
  inferInstanceAs (Decidable (_ = true))

def fencedCancel (s : Store) : Op → Bool
  | .markDelivering ts owner id _ _ =>
    ownerLive s owner ts
      && (s.reservations.find? id).any (fun r => r.ownedBy owner && r.state == .settlementPending)
      && (s.settlementOutbox.find? id).any (fun o => o.intent.disposition == .cancel)
  | _ => false

/-- What a `true` answer says about the state it was given in. -/
theorem markDelivering_true
    (h : markDelivering s ts owner id lease recordFact = .ok (true, s')) :
    ownerLive s owner ts = true ∧
    ∃ r r', s.reservations.find? id = some r ∧ r.ownedBy owner = true ∧
      s'.settlementOutbox = s.settlementOutbox ∧
      s'.reservations.find? id = some r' ∧
      (((r.state = .reserved ∨ r.state = .delivering) ∧ r'.state = .delivering) ∨
        ((r.state = .settlementPending ∨ r.state = .settled) ∧ r' = r)) := by
  simp only [markDelivering, ok_steps, assertOwner, bailIf_eq_ok, guard_iffs] at h
  obtain ⟨hlive, h⟩ := h
  refine ⟨hlive, ?_⟩
  split at h
  · simp at h
  rename_i r hfind
  obtain ⟨hr, howned⟩ := filter_eq_some_iff.mp hfind
  split at h
  · rename_i hstate
    simp only [ok_steps] at h
    obtain ⟨facts, -, -, rfl⟩ := h
    exact ⟨r, _, hr, howned, rfl, find?_put_self _ _ _, Or.inl ⟨Or.inl hstate, rfl⟩⟩
  · rename_i hstate
    simp only [ok_steps] at h
    obtain ⟨facts, -, -, rfl⟩ := h
    exact ⟨r, r, hr, howned, rfl, hr, Or.inl ⟨Or.inr hstate, hstate⟩⟩
  · rename_i hstate
    simp only [ok_steps] at h
    obtain ⟨-, rfl⟩ := h
    exact ⟨r, r, hr, howned, rfl, hr, Or.inr ⟨Or.inl hstate, rfl⟩⟩
  · rename_i hstate
    simp only [ok_steps] at h
    obtain ⟨-, rfl⟩ := h
    exact ⟨r, r, hr, howned, rfl, hr, Or.inr ⟨Or.inr hstate, rfl⟩⟩
  · simp at h

/-- A live owner of a reservation with a queued cancel is answered `true`. -/
theorem markDelivering_fencedCancel
    (h : fencedCancel s (.markDelivering ts owner id lease recordFact) = true) :
    markDelivering s ts owner id lease recordFact = .ok (true, s) := by
  simp only [fencedCancel, guard_iffs, Option.any_eq_true] at h
  obtain ⟨⟨hlive, r, hr, howned, hstate⟩, -⟩ := h
  have hfilter : (s.reservations.find? id).filter (·.ownedBy owner) = some r :=
    filter_eq_some_iff.mpr ⟨hr, howned⟩
  simp only [markDelivering, hfilter, hstate, bind_eq_ok, exists_unit,
    assertOwner, bailIf_eq_ok, hlive]
  exact ⟨rfl, rfl⟩

/-- In a reachable state, a delivery that is answered `true` meets the fence
exactly when no cancel is queued. -/
theorem chargeable_iff (hsound : Sound s) (hunpruned : Unpruned s)
    (h : markDelivering s ts owner id lease recordFact = .ok (true, s')) :
    chargeable s' id = true ↔
      fencedCancel s (.markDelivering ts owner id lease recordFact) = false := by
  obtain ⟨hlive, r, r', hr, howned, hout, hr', hcases⟩ := markDelivering_true h
  simp only [chargeable, hout, hr', fencedCancel, hlive, hr]
  rcases hcases with ⟨hopen, hstate'⟩ | ⟨hpend | hsettled, rfl⟩
  · -- nothing is queued for an open reservation
    have hnone := (hsound.lifecycle id).open_no_outbox r hr hopen
    simp [hnone, hstate']
  · cases ho : s.settlementOutbox.find? id with
    | none => simp [hpend]
    | some o => cases hd : o.intent.disposition <;> simp [hpend, hd, howned]
  · cases ho : s.settlementOutbox.find? id with
    | none => simp [hsettled]
    | some o =>
      have hne := hunpruned.settled_intent id r' o hr ho hsettled
      simp [hsettled, hne]

theorem fenceHolds_iff (hsound : Sound s) (hunpruned : Unpruned s) (op : Op) :
    FenceHolds s op ↔ fencedCancel s op = false := by
  cases op with
  | markDelivering ts owner id lease recordFact =>
    by_cases htrue : ∃ s', markDelivering s ts owner id lease recordFact = .ok (true, s')
    · obtain ⟨s', hmark⟩ := htrue
      rw [← chargeable_iff hsound hunpruned hmark]
      simp [FenceHolds, deliveredBy, exec, committed, hmark]
    · -- any other answer: vacuous, and the bad situation would answer `true`
      have hgood : fencedCancel s
          (.markDelivering ts owner id lease recordFact) = false := by
        by_contra hbad
        exact htrue ⟨s, markDelivering_fencedCancel (by simpa using hbad)⟩
      have hnone : deliveredBy s
          (.markDelivering ts owner id lease recordFact) = none := by
        simp only [deliveredBy]
        split
        · rename_i s' hmark
          exact absurd ⟨s', hmark⟩ htrue
        · rfl
      simp [FenceHolds, hnone, hgood]
  | _ => simp [FenceHolds, deliveredBy, fencedCancel]

def lateOwner : Owner := { instanceId := "engine", epoch := 1 }

def lateHeartbeat : List Op :=
  [.claimInstance 100 "engine" 10,
   .accountTopup 100 "acct" 5000000000 none,
   .reserve (fun _ => 100) 100 lateOwner "req" "acct" "key" 0 5 .direct none none,
   .enqueueExpired 120 "req" 0 .cancel none none,
   .heartbeatInstance 121 lateOwner 60,
   .markDelivering 122 lateOwner "req" 60 false]

end ApiToken.Registry
