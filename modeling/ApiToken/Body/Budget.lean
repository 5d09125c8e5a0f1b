import ApiToken.Lib.Counter

/-!
# The body budget

`bounded-body/src/budget.rs`: a budget of units that reservations share. The
clones of a `Budget` have one `Inner`, so a budget is its `Inner`:
`capacity_units` and `unit_bytes` here, `used_units` the counter of the
machine. A reservation is a cell with its `units`. A call through `&mut self`
has its reservation alone; a step is one atomic operation on `used_units` or
one access to `units`.
-/

namespace ApiToken.Body

open Prog

/-- `ByteLimit` of `api-limits`. -/
structure ByteLimit where
  bytes : UInt64

inductive BudgetConfigError where
  | zeroCapacity | zeroUnit | arithmeticOverflow

inductive CapacityError where
  | arithmeticOverflow | exhausted

inductive ReservationError where
  | cannotGrowWithShrink

/-- What `Budget::new` accepts. -/
structure Budget where
  capacityUnits : Nat
  unitBytes : Nat
  capacity_pos : 0 < capacityUnits
  capacity_lt : capacityUnits < 2 ^ 64
  unit_pos : 0 < unitBytes

def Budget.new (capacity unit : ByteLimit) : Except BudgetConfigError Budget :=
  if capacity.bytes.toNat = 0 then .error .zeroCapacity
  else if hunit : unit.bytes.toNat = 0 then .error .zeroUnit
  else if hcapacity : capacity.bytes.toNat / unit.bytes.toNat = 0 then
    .error .zeroCapacity
  else .ok
    { capacityUnits := capacity.bytes.toNat / unit.bytes.toNat
      unitBytes := unit.bytes.toNat
      capacity_pos := Nat.pos_of_ne_zero hcapacity
      capacity_lt := (Nat.div_le_self _ _).trans_lt capacity.bytes.toNat_lt
      unit_pos := Nat.pos_of_ne_zero hunit }

def checkedAdd (a b : Nat) : Option Nat :=
  if a + b < 2 ^ 64 then some (a + b) else none

def unitsForCapacity (bytes unit : Nat) : Except CapacityError Nat :=
  if bytes = 0 then .ok 0
  else match checkedAdd bytes (unit - 1) with
    | none => .error .arithmeticOverflow
    | some rounded => .ok (rounded / unit)

/-! ## The calls -/

/-- The closure of `acquire`. -/
def Budget.admits (b : Budget) (units used : Nat) : Option Nat :=
  match checkedAdd used units with
  | none => none
  | some next => if next ≤ b.capacityUnits then some next else none

def Budget.acquire (b : Budget) (units : Nat) : ExceptT CapacityError Prog Unit :=
  if units = 0 then pure ()
  else ExceptT.mk (.fetchUpdate (b.admits units) fun
    | some _ => .ret (.ok ())
    | none => .ret (.error .exhausted))

def release (units : Nat) : Prog Unit :=
  if units = 0 then pure () else .fetchSub units (fun _ => .ret ())

def readUnits : Prog Nat := .readCell .ret

def setUnits (units : Nat) : Prog Unit := .writeCell units (.ret ())

/-- A `Reservation` is built and handed to the caller. -/
def newReservation (units : Nat) : Prog Unit := .newCell units (.ret ())

def forgetReservation : Prog Unit := .freeCell (.ret ())

def Budget.tryReserve (b : Budget) (weight : ByteLimit) : ExceptT CapacityError Prog Unit := do
  let units ← ExceptT.mk (pure (unitsForCapacity weight.bytes.toNat b.unitBytes))
  b.acquire units
  newReservation units

def Reservation.tryGrowTo (b : Budget) (weight : ByteLimit) : ExceptT CapacityError Prog Unit := do
  let target ← ExceptT.mk (pure (unitsForCapacity weight.bytes.toNat b.unitBytes))
  let units ← readUnits
  if target ≤ units then
    return ()
  b.acquire (target - units)
  setUnits target

def Reservation.shrinkTo (b : Budget) (weight : ByteLimit) :
    ExceptT ReservationError Prog Unit := do
  let target ← ExceptT.mk (pure
    ((unitsForCapacity weight.bytes.toNat b.unitBytes).mapError
      fun _ => ReservationError.cannotGrowWithShrink))
  let units ← readUnits
  if target > units then
    throw .cannotGrowWithShrink
  release (units - target)
  setUnits target

def Reservation.tryReplace (b : Budget) (weight : ByteLimit) : ExceptT CapacityError Prog Unit := do
  let target ← ExceptT.mk (pure (unitsForCapacity weight.bytes.toNat b.unitBytes))
  let units ← readUnits
  if target > units then
    b.acquire (target - units)
  else
    release (units - target)
  setUnits target

def Reservation.take : Prog Unit := do
  let units ← readUnits
  setUnits 0
  newReservation units

def Reservation.drop : Prog Unit := do
  let units ← readUnits
  release units
  setUnits 0
  forgetReservation

/-- The calls on the budget, and on a reservation by its name. -/
inductive Op where
  | tryReserve (weight : ByteLimit)
  | tryGrowTo (reservation : Nat) (weight : ByteLimit)
  | shrinkTo (reservation : Nat) (weight : ByteLimit)
  | tryReplace (reservation : Nat) (weight : ByteLimit)
  | take (reservation : Nat)
  | drop (reservation : Nat)

/-- `&mut self`. -/
def Op.target : Op → Option Nat
  | .tryReserve _ => none
  | .tryGrowTo reservation _ | .shrinkTo reservation _ | .tryReplace reservation _
  | .take reservation | .drop reservation => some reservation

inductive Answer where
  | ok
  | capacityError (e : CapacityError)
  | reservationError (e : ReservationError)

def Answer.fails (a : Answer) : Prop := a ≠ .ok

def answerCapacity (p : ExceptT CapacityError Prog Unit) : Prog Answer := do
  match ← p.run with
  | .ok () => return .ok
  | .error e => return .capacityError e

def answerReservation (p : ExceptT ReservationError Prog Unit) : Prog Answer := do
  match ← p.run with
  | .ok () => return .ok
  | .error e => return .reservationError e

def answerOk (p : Prog Unit) : Prog Answer := do
  p
  return .ok

def Op.prog (b : Budget) : Op → Prog Answer
  | .tryReserve weight => answerCapacity (b.tryReserve weight)
  | .tryGrowTo _ weight => answerCapacity (Reservation.tryGrowTo b weight)
  | .shrinkTo _ weight => answerReservation (Reservation.shrinkTo b weight)
  | .tryReplace _ weight => answerCapacity (Reservation.tryReplace b weight)
  | .take _ => answerOk Reservation.take
  | .drop _ => answerOk Reservation.drop

/-! ## What each call keeps -/

section Holds

variable {b : Budget} {bound : Nat} {h : Hand}

variable {units : Nat} {start : Option Nat}

theorem admits_some {used next : Nat} (hsome : b.admits units used = some next) :
    next = used + units ∧ next ≤ b.capacityUnits := by
  unfold Budget.admits checkedAdd at hsome
  split at hsome
  · cases hsome
  · rename_i sum hsum
    split at hsum
    · cases hsum
      split at hsome
      · cases hsome
        exact ⟨rfl, ‹_›⟩
      · cases hsome
    · cases hsum

theorem holds_acquire {Q : Except CapacityError Unit → Hand → Prop}
    (hok : Q (.ok ()) { h with share := h.share + units, moved := h.moved || units != 0 })
    (herr : Q (.error .exhausted) h) :
    Prog.Holds b.capacityUnits Q (b.acquire units).run h := by
  unfold Budget.acquire
  split
  · rename_i hzero
    subst hzero
    simp only [Nat.add_zero, bne_self_eq_false, Bool.or_false] at hok
    exact hok
  · intro n _ _
    cases hadmits : b.admits units n with
    | none => exact herr
    | some =>
      obtain ⟨rfl, hle⟩ := admits_some hadmits
      refine ⟨hle, by omega, ?_⟩
      have hshare : h.share + (n + units) - n = h.share + units := by omega
      have hmoved : (n + units != n) = (units != 0) := Bool.eq_iff_iff.mpr (by simp)
      show Q (.ok ()) _
      rw [hshare, hmoved]
      exact hok

theorem holds_release {Q : Unit → Hand → Prop} (hle : units ≤ h.share)
    (hok : Q () { h with share := h.share - units, moved := h.moved || units != 0 }) :
    Prog.Holds bound Q (release units) h := by
  unfold release
  split
  · rename_i hzero
    subst hzero
    simp only [Nat.sub_zero, bne_self_eq_false, Bool.or_false] at hok
    exact hok
  · exact ⟨hle, fun _ => hok⟩

/-- How a call ends that can fail: what it has is in the reservation, and a
failure has changed nothing. -/
def Kept {ε : Type} (start : Option Nat) : Except ε Unit → Hand → Prop
  | .ok _, h => h.share = h.cell.getD 0
  | .error _, h => h.share = h.cell.getD 0 ∧ h.moved = false ∧ h.cell = start

theorem holds_answerCapacity {p : ExceptT CapacityError Prog Unit}
    (hp : Prog.Holds bound (Kept start) p.run h) :
    Prog.Holds bound (Ends Answer.fails start) (answerCapacity p) h := by
  refine holds_bind.mpr (hp.mono fun r h hr => ?_)
  cases r with
  | ok => exact ⟨hr, fun hfails => absurd rfl hfails⟩
  | error => exact ⟨hr.1, fun _ => hr.2⟩

theorem holds_answerReservation {p : ExceptT ReservationError Prog Unit}
    (hp : Prog.Holds bound (Kept start) p.run h) :
    Prog.Holds bound (Ends Answer.fails start) (answerReservation p) h := by
  refine holds_bind.mpr (hp.mono fun r h hr => ?_)
  cases r with
  | ok => exact ⟨hr, fun hfails => absurd rfl hfails⟩
  | error => exact ⟨hr.1, fun _ => hr.2⟩

theorem holds_answerOk {p : Prog Unit}
    (hp : Prog.Holds bound (fun _ h => h.share = h.cell.getD 0) p h) :
    Prog.Holds bound (Ends Answer.fails start) (answerOk p) h := by
  refine holds_bind.mpr (hp.mono fun _ h hr => ?_)
  exact ⟨hr, fun hfails => absurd rfl hfails⟩

variable {weight : ByteLimit}

theorem holds_tryReserve :
    Prog.Holds b.capacityUnits (Kept none) (b.tryReserve weight).run
      { share := 0, cell := none, moved := false } := by
  unfold Budget.tryReserve
  refine holds_exceptT_bind.mpr ?_
  cases hunits : unitsForCapacity weight.bytes.toNat b.unitBytes with
  | error => exact ⟨rfl, rfl, rfl⟩
  | ok =>
    refine holds_exceptT_bind.mpr (holds_acquire ?_ ⟨rfl, rfl, rfl⟩)
    refine ⟨by simp, ?_⟩
    show _ - _ = 0
    simp

theorem holds_tryGrowTo (n : Nat) :
    Prog.Holds b.capacityUnits (Kept (some n)) (Reservation.tryGrowTo b weight).run
      { share := n, cell := some n, moved := false } := by
  unfold Reservation.tryGrowTo
  refine holds_exceptT_bind.mpr ?_
  cases htarget : unitsForCapacity weight.bytes.toNat b.unitBytes with
  | error => exact ⟨rfl, rfl, rfl⟩
  | ok target =>
    refine holds_exceptT_bind.mpr ⟨n, rfl, ?_⟩
    show Prog.Holds _ _ (ExceptT.run (if _ then _ else _)) _
    split
    · exact rfl
    · refine holds_exceptT_bind.mpr (holds_acquire ?_ ⟨rfl, rfl, rfl⟩)
      refine ⟨rfl, ?_⟩
      show n + (target - n) = target
      omega

theorem holds_shrinkTo (n : Nat) :
    Prog.Holds bound (Kept (some n)) (Reservation.shrinkTo b weight).run
      { share := n, cell := some n, moved := false } := by
  unfold Reservation.shrinkTo
  refine holds_exceptT_bind.mpr ?_
  cases htarget : unitsForCapacity weight.bytes.toNat b.unitBytes with
  | error => exact ⟨rfl, rfl, rfl⟩
  | ok target =>
    refine holds_exceptT_bind.mpr ⟨n, rfl, ?_⟩
    show Prog.Holds _ _ (ExceptT.run (if _ then _ else _)) _
    split
    · exact ⟨rfl, rfl, rfl⟩
    · refine holds_exceptT_bind.mpr (holds_bind.mpr (holds_release (Nat.sub_le ..) ?_))
      refine ⟨rfl, ?_⟩
      show n - (n - target) = target
      omega

theorem holds_tryReplace (n : Nat) :
    Prog.Holds b.capacityUnits (Kept (some n)) (Reservation.tryReplace b weight).run
      { share := n, cell := some n, moved := false } := by
  unfold Reservation.tryReplace
  refine holds_exceptT_bind.mpr ?_
  cases htarget : unitsForCapacity weight.bytes.toNat b.unitBytes with
  | error => exact ⟨rfl, rfl, rfl⟩
  | ok target =>
    refine holds_exceptT_bind.mpr ⟨n, rfl, ?_⟩
    show Prog.Holds _ _ (ExceptT.run (if _ then _ else _)) _
    split
    · refine holds_exceptT_bind.mpr (holds_acquire ?_ ⟨rfl, rfl, rfl⟩)
      refine ⟨rfl, ?_⟩
      show n + (target - n) = target
      omega
    · refine holds_exceptT_bind.mpr (holds_bind.mpr (holds_release (Nat.sub_le ..) ?_))
      refine ⟨rfl, ?_⟩
      show n - (n - target) = target
      omega

theorem holds_take (n : Nat) :
    Prog.Holds bound (fun _ h => h.share = h.cell.getD 0) Reservation.take
      { share := n, cell := some n, moved := false } :=
  ⟨n, rfl, rfl, le_refl n, Nat.sub_self n⟩

theorem holds_drop (n : Nat) :
    Prog.Holds bound (fun _ h => h.share = h.cell.getD 0) Reservation.drop
      { share := n, cell := some n, moved := false } := by
  refine holds_bind.mpr ⟨n, rfl, holds_bind.mpr (holds_release (le_refl n) ?_)⟩
  exact ⟨rfl, rfl, Nat.sub_self n⟩

theorem holds_prog (op : Op) (cell : Option Nat) (hcell : cell.isSome = op.target.isSome) :
    Prog.Holds b.capacityUnits (Ends Answer.fails cell) (op.prog b)
      { share := cell.getD 0, cell := cell, moved := false } := by
  cases op with
  | tryReserve =>
    cases cell with
    | none => exact holds_answerCapacity holds_tryReserve
    | some => cases hcell
  | tryGrowTo =>
    cases cell with
    | none => cases hcell
    | some n => exact holds_answerCapacity (holds_tryGrowTo n)
  | shrinkTo =>
    cases cell with
    | none => cases hcell
    | some n => exact holds_answerReservation (holds_shrinkTo n)
  | tryReplace =>
    cases cell with
    | none => cases hcell
    | some n => exact holds_answerCapacity (holds_tryReplace n)
  | take =>
    cases cell with
    | none => cases hcell
    | some n => exact holds_answerOk (holds_take n)
  | drop =>
    cases cell with
    | none => cases hcell
    | some n => exact holds_answerOk (holds_drop n)

end Holds

/-! ## Every interleaving -/

def Budget.exec (b : Budget) : Machine Answer → Machine.Event Op → Machine Answer :=
  Machine.exec Op.target (Op.prog b)

/-- Any number of threads call on a budget and its reservations, their atomic
steps in any order. While no call is under way `used_units` is the sum of the
reservations; it never exceeds the capacity; a `fetch_sub` that is due never
takes more than there is; and a call that is about to answer an error has left
`used_units` alone at each of its steps, and its reservation as it found it. -/
theorem budget_conserved (b : Budget) (events : List (Machine.Event Op)) :
    ((∀ thread, (run b.exec .fresh events).calls.find? thread = none) →
      ((run b.exec .fresh events).counter : Int) =
        (run b.exec .fresh events).cells.sumBy (fun _ units => (units : Int))) ∧
    (run b.exec .fresh events).counter ≤ b.capacityUnits ∧
    (∀ thread c units k, (run b.exec .fresh events).calls.find? thread = some c →
      c.prog = .fetchSub units k → units ≤ (run b.exec .fresh events).counter) ∧
    (∀ thread c a, (run b.exec .fresh events).calls.find? thread = some c →
      c.prog = .ret a → a ≠ .ok → c.moved = false ∧ c.cell.map Prod.snd = c.start) := by
  have h := conserved_run b.capacity_lt (holds_prog (b := b)) events
  change Conserved b.capacityUnits Answer.fails (run b.exec .fresh events) at h
  generalize run b.exec .fresh events = m at h ⊢
  refine ⟨fun hidle => ?_, h.bounded, fun thread c units k hc hprog => ?_,
    fun thread c a hc hprog ha => ?_⟩
  · have hnone : m.calls.sumBy (fun _ c => (c.share : Int)) = 0 := by
      have hrows : m.calls.rows = [] := List.eq_nil_iff_forall_not_mem.mpr fun x hx => by
        have hfind := find?_eq_some_iff.mpr hx
        rw [hidle] at hfind
        cases hfind
      simp [Table.sumBy, hrows]
    rw [h.total, hnone, add_zero]
  · have hholds := h.calls thread c hc
    rw [hprog] at hholds
    exact hholds.1.trans (h.share_le hc)
  · have hends := h.calls thread c hc
    rw [hprog] at hends
    exact hends.2 ha

end ApiToken.Body
