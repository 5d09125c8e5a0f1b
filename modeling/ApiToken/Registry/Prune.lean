import ApiToken.Registry.Outbox

/-!
# Retention

`maintenance_prune`: bounded cleanup of lifecycle rows that are terminal
and older than a cutoff. Ledger and usage rows are never touched.
-/

namespace ApiToken.Registry

/-- `PRICING_REQUEST_LIFECYCLE_MIN_RETENTION_SECS`: thirty days. -/
def pricingRequestLifecycleMinRetentionSecs : Int := 30 * 24 * 60 * 60

def validateRequestLifecyclePruneCutoff (olderThanTs trustedNowTs : Int) :
    Except Error Unit := do
  bailIf (trustedNowTs ≤ 0) "trusted request lifecycle retention clock is invalid"
  bailIf (trustedNowTs - pricingRequestLifecycleMinRetentionSecs < olderThanTs)
    "request lifecycle cutoff violates minimum pricing retention"

/-- Each deletion takes at most this many rows. -/
def pruneBatch : Nat := 5000

/-- `DELETE … WHERE key IN (SELECT …)`. -/
def deleteSelected {ρ : Type} (t : Table String ρ) (p : String → ρ → Bool)
    (le : String × ρ → String × ρ → Bool) (n : Nat) : Table String ρ :=
  t.delete (fun k _ => ((t.select p le n).map Prod.fst).contains k)

section DeleteSelected

variable {ρ : Type} {t : Table String ρ} {p : String → ρ → Bool}
  {le : String × ρ → String × ρ → Bool} {n : Nat} {k : String} {r : ρ}

theorem deleteSelected_covers (h : t.find? k = some r)
    (hgone : (((t.select p le n).map Prod.fst).contains k) = true) : p k r = true := by
  simp only [List.contains_eq_mem, guard_iffs, mem_map] at hgone
  obtain ⟨⟨k', r'⟩, hmem, rfl⟩ := hgone
  obtain ⟨hfind, hp⟩ := mem_select hmem
  rw [h] at hfind
  cases hfind
  exact hp

theorem find?_deleteSelected
    (h : (deleteSelected t p le n).find? k = some r) : t.find? k = some r :=
  (find?_delete.mp h).1

theorem find?_deleteSelected_keep (h : t.find? k = some r)
    (hp : p k r = false) : (deleteSelected t p le n).find? k = some r := by
  refine find?_delete.mpr ⟨h, ?_⟩
  by_contra hne
  have hcover : p k r = true := deleteSelected_covers h (by simpa using hne)
  rw [hp] at hcover
  cases hcover

theorem sumBy_deleteSelected (w : String → ρ → Int)
    (h : ∀ k r, t.find? k = some r → p k r = true → w k r = 0) :
    (deleteSelected t p le n).sumBy w = t.sumBy w :=
  Table.sumBy_delete w _ fun k r hfind hgone =>
    h k r hfind (deleteSelected_covers hfind hgone)

end DeleteSelected

/-- The facts admitted before the cutoff. Facts that no billed request owns
share the batch, so `billed` of its rows are billed ones. -/
def pruneRequestFacts (s : Store) (olderThanTs : Int) (billed : Nat) : Store :=
  { s with
    requestFacts := deleteSelected s.requestFacts
      (fun _ f => decide (f.admission.admittedAt < olderThanTs))
      (fun x y => decide (x.2.admission.admittedAt ≤ y.2.admission.admittedAt))
      (min billed pruneBatch) }

def pruneOutbox (s : Store) (olderThanTs : Int) : Store :=
  { s with
    settlementOutbox := deleteSelected s.settlementOutbox
      (fun _ o => o.state == .done && o.committedTs.any (· < olderThanTs))
      (fun x y => decide (x.2.committedTs.getD 0 < y.2.committedTs.getD 0)
        || (x.2.committedTs == y.2.committedTs && decide (x.1 ≤ y.1)))
      pruneBatch }

def pruneReservations (s : Store) (olderThanTs : Int) : Store :=
  { s with
    reservations := deleteSelected s.reservations
      (fun id r => r.state.terminal && r.settledTs.any (· < olderThanTs)
        && (s.settlementOutbox.find? id).isNone)
      (fun x y => decide (x.2.settledTs.getD 0 < y.2.settledTs.getD 0)
        || (x.2.settledTs == y.2.settledTs && decide (x.1 ≤ y.1)))
      pruneBatch }

def pruneWinners (s : Store) : Store :=
  { s with
    executionGroupWinner := s.executionGroupWinner.delete (fun group _ =>
      !s.reservations.any (fun id r => r.effectiveGroupId id == group)) }

def pruneCapacityLeases (s : Store) (olderThanTs : Int) : Store :=
  { s with
    capacityLeases := deleteSelected s.capacityLeases
      (fun _ l => l.state != .active && l.releasedTs.any (· < olderThanTs))
      (fun x y => decide (x.2.releasedTs.getD 0 ≤ y.2.releasedTs.getD 0))
      pruneBatch }

/-- Expired owners that no live reservation or capacity lease refers to. -/
def pruneEngineInstances (s : Store) (olderThanTs : Int) : Store :=
  { s with
    engineInstances := s.engineInstances.delete (fun id i =>
      decide (i.leaseUntil < olderThanTs)
        && !s.reservations.any (fun _ r => r.ownerInstance == id
          && r.ownerEpoch == i.ownerEpoch && !r.state.terminal)
        && !s.capacityLeases.any (fun _ c => c.ownerInstance == id
          && c.ownerEpoch == i.ownerEpoch && c.state == .active)) }

/-- `MaintenanceReport`, the rows removed. -/
structure MaintenanceReport where
  requestFacts : Nat
  outbox : Nat
  reservations : Nat
  capacityLeases : Nat
  engineInstances : Nat

def pruneReport (s s' : Store) : MaintenanceReport :=
  { requestFacts := s.requestFacts.rows.length - s'.requestFacts.rows.length
    outbox := s.settlementOutbox.rows.length - s'.settlementOutbox.rows.length
    reservations := s.reservations.rows.length - s'.reservations.rows.length
    capacityLeases := s.capacityLeases.rows.length - s'.capacityLeases.rows.length
    engineInstances := s.engineInstances.rows.length - s'.engineInstances.rows.length }

/-- The deletions of `maintenance_prune`, in its order. -/
def pruned (s : Store) (olderThanTs : Int) (billed : Nat) : Store :=
  pruneEngineInstances (pruneCapacityLeases (pruneWinners
    (pruneReservations (pruneOutbox (pruneRequestFacts s olderThanTs billed)
      olderThanTs) olderThanTs)) olderThanTs) olderThanTs

def maintenancePrune (s : Store) (now olderThanTs : Int) (billed : Nat) :
    Except Error (MaintenanceReport × Store) := do
  validateRequestLifecyclePruneCutoff olderThanTs now
  let s' := pruned s olderThanTs billed
  return (pruneReport s s', s')

/-! ## What a retention pass leaves -/

section Pruned

variable {s : Store} {olderThanTs : Int} {billed : Nat}

@[simp] theorem pruned_accounts : (pruned s olderThanTs billed).accounts = s.accounts := by
  simp only [pruned, pruneEngineInstances, pruneCapacityLeases, pruneWinners,
    pruneReservations, pruneOutbox, pruneRequestFacts]

@[simp] theorem pruned_ledger : (pruned s olderThanTs billed).ledger = s.ledger := by
  simp only [pruned, pruneEngineInstances, pruneCapacityLeases, pruneWinners,
    pruneReservations, pruneOutbox, pruneRequestFacts]

@[simp] theorem pruned_usageEvents :
    (pruned s olderThanTs billed).usageEvents = s.usageEvents := by
  simp only [pruned, pruneEngineInstances, pruneCapacityLeases, pruneWinners,
    pruneReservations, pruneOutbox, pruneRequestFacts]

theorem pruned_reservation {id : String} {r : Reservation}
    (h : (pruned s olderThanTs billed).reservations.find? id = some r) :
    s.reservations.find? id = some r :=
  find?_deleteSelected h

theorem pruned_reservation_keep {id : String} {r : Reservation}
    (h : s.reservations.find? id = some r) (hkeep : r.state.terminal = false ∨
      ((pruned s olderThanTs billed).settlementOutbox.find? id).isSome) :
    (pruned s olderThanTs billed).reservations.find? id = some r := by
  refine find?_deleteSelected_keep h ?_
  rcases hkeep with hlive | hrow
  · simp [hlive]
  · have hsome : ((pruneOutbox (pruneRequestFacts s olderThanTs billed)
        olderThanTs).settlementOutbox.find? id).isSome = true := hrow
    rw [← Option.not_isNone, Bool.not_eq_true'] at hsome
    simp [hsome]

theorem pruned_outbox {id : String} {o : OutboxRow}
    (h : (pruned s olderThanTs billed).settlementOutbox.find? id = some o) :
    s.settlementOutbox.find? id = some o :=
  find?_deleteSelected h

theorem pruned_fact {id : String} {f : RequestFact}
    (h : (pruned s olderThanTs billed).requestFacts.find? id = some f) :
    s.requestFacts.find? id = some f :=
  find?_deleteSelected h

theorem sumBy_pruned_reservations (w : String → Reservation → Int)
    (h : ∀ id r, s.reservations.find? id = some r → r.state.terminal = true → w id r = 0) :
    (pruned s olderThanTs billed).reservations.sumBy w = s.reservations.sumBy w := by
  refine sumBy_deleteSelected w fun id r hfind hgone => ?_
  simp only [guard_iffs] at hgone
  exact h id r hfind hgone.1.1

theorem pruned_winner {group : String} {w : GroupWinner} :
    (pruned s olderThanTs billed).executionGroupWinner.find? group = some w ↔
      s.executionGroupWinner.find? group = some w ∧
        ∃ id r, (pruned s olderThanTs billed).reservations.find? id = some r ∧
          r.effectiveGroupId id = group := by
  have hdelete : (pruned s olderThanTs billed).executionGroupWinner.find? group
      = some w ↔ s.executionGroupWinner.find? group = some w ∧
        (!(pruned s olderThanTs billed).reservations.any
          (fun id r => r.effectiveGroupId id == group)) = false :=
    find?_delete
  rw [hdelete, Bool.not_eq_false', any_eq_true_iff]
  simp only [beq_iff_eq]

end Pruned

end ApiToken.Registry
