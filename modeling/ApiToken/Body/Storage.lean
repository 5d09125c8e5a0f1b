import ApiToken.Body.Budget

/-!
# The stored body

`bounded-body/src/storage.rs`: a body grows chunk by chunk, in memory up to a
threshold and in an unlinked spool file behind it, under one reservation of
the storage budget and one of the memory budget. What the budgets, the spool
directory and the files answer to a call is given with the call.
-/

namespace ApiToken.Body

variable {used more : Nat} {body : StoredBody} {sought : Bool}

/-! ## Configuration and reservations -/

structure StorageConfig where
  requestLimit : ByteLimit
  memoryThreshold : ByteLimit

inductive StorageError where
  | invalidConfig | tooLarge | arithmeticOverflow | storageExhausted | memoryExhausted
  | privateSpoolUnavailable | io

def StorageConfig.validate (c : StorageConfig) : Except StorageError StorageConfig :=
  if c.requestLimit.bytes.toNat = 0 then .error .invalidConfig
  else if c.requestLimit.bytes.toNat < c.memoryThreshold.bytes.toNat then .error .invalidConfig
  else .ok c

/-- `try_grow_to` of a reservation of `units` that finds `used` units taken. -/
def Budget.grow (b : Budget) (used units weight : Nat) : Except CapacityError Nat :=
  match unitsForCapacity weight b.unitBytes with
  | .error e => .error e
  | .ok target =>
    if target ≤ units then .ok units
    else if (b.admits (target - units) used).isSome then .ok target else .error .exhausted

/-- `shrink_to` of a reservation of `units`. -/
def Budget.shrink (b : Budget) (units weight : Nat) : Except ReservationError Nat :=
  match unitsForCapacity weight b.unitBytes with
  | .error _ => .error .cannotGrowWithShrink
  | .ok target => if units < target then .error .cannotGrowWithShrink else .ok target

/-- A `shrink_to` whose failure is ignored. -/
def Budget.rollback (b : Budget) (units weight : Nat) : Nat :=
  match b.shrink units weight with
  | .ok units => units
  | .error _ => units

def storageCapacity : CapacityError → StorageError
  | .arithmeticOverflow => .arithmeticOverflow
  | .exhausted => .storageExhausted

def memoryCapacity : CapacityError → StorageError
  | .arithmeticOverflow => .arithmeticOverflow
  | .exhausted => .memoryExhausted

/-! ## The store -/

inductive StoreState where
  | memory (bytes : List UInt8)
  | spool (file : List UInt8)
  | poisoned
deriving DecidableEq

structure BodyStore where
  config : StorageConfig
  storageBudget : Budget
  memoryBudget : Budget
  /-- The units of the two reservations. -/
  storage : Nat
  memory : Nat
  state : StoreState
  len : Nat

/-- A `write_all`: a failing one may have written any part. -/
inductive Write where
  | all
  | part (count : Nat)

def Write.succeeds : Write → Bool
  | .all => true
  | .part _ => false

def Write.file (w : Write) (file bytes : List UInt8) : List UInt8 :=
  match w with
  | .all => file ++ bytes
  | .part count => file ++ bytes.take count

/-- What a push meets. -/
structure World where
  storageUsed : Nat
  memoryUsed : Nat
  created : Bool
  /-- The write of the old bytes into a new file. -/
  spilled : Write
  written : Write
  flushed : Bool

/-- `belong` and `distinct` are the checks of the handles. -/
def BodyStore.start (config : StorageConfig) (storageBudget memoryBudget : Budget)
    (storage memory : Nat) (belong distinct : Bool) : Except StorageError BodyStore :=
  match config.validate with
  | .error e => .error e
  | .ok config =>
    if !belong || !distinct then .error .invalidConfig
    else .ok ⟨config, storageBudget, memoryBudget, storage, memory, .memory [], 0⟩

/-- The closure of `spill_and_push`. -/
def spillFile (bytes chunk : List UInt8) (w : World) : Except StorageError (List UInt8) :=
  if !w.created then .error .privateSpoolUnavailable
  else if !w.spilled.succeeds then .error .io
  else if !w.written.succeeds then .error .io
  else if !w.flushed then .error .io
  else .ok (w.written.file (w.spilled.file [] bytes) chunk)

def BodyStore.spillAndPush (s : BodyStore) (bytes chunk : List UInt8) (nextLen : Nat)
    (w : World) : Except StorageError Unit × BodyStore :=
  match checkedAdd s.len nextLen with
  | none => (.error .arithmeticOverflow, s)
  | some transition =>
    match s.storageBudget.grow w.storageUsed s.storage transition with
    | .error e => (.error (storageCapacity e), s)
    | .ok storage =>
      match spillFile bytes chunk w with
      | .error e => (.error e, { s with storage := s.storageBudget.rollback storage s.len })
      | .ok file =>
        let s := { s with storage, state := .spool file }
        match s.memoryBudget.shrink s.memory 0 with
        | .error _ => (.error .invalidConfig, s)
        | .ok memory =>
          let s := { s with memory }
          match s.storageBudget.shrink s.storage nextLen with
          | .error _ => (.error .invalidConfig, s)
          | .ok storage => (.ok (), { s with storage, len := nextLen })

def BodyStore.pushMemory (s : BodyStore) (bytes chunk : List UInt8) (nextLen : Nat)
    (w : World) : Except StorageError Unit × BodyStore :=
  match s.storageBudget.grow w.storageUsed s.storage nextLen with
  | .error e => (.error (storageCapacity e), s)
  | .ok storage =>
    match s.memoryBudget.grow w.memoryUsed s.memory nextLen with
    | .error e =>
      (.error (memoryCapacity e), { s with storage := s.storageBudget.rollback storage s.len })
    | .ok memory =>
      (.ok (), { s with storage, memory, state := .memory (bytes ++ chunk), len := nextLen })

def BodyStore.pushSpool (s : BodyStore) (file chunk : List UInt8) (nextLen : Nat)
    (w : World) : Except StorageError Unit × BodyStore :=
  match s.storageBudget.grow w.storageUsed s.storage nextLen with
  | .error e => (.error (storageCapacity e), s)
  | .ok storage =>
    let s := { s with storage, state := .spool (w.written.file file chunk) }
    if !w.written.succeeds then
      (.error .io,
        { s with storage := s.storageBudget.rollback storage s.len, state := .poisoned })
    else (.ok (), { s with len := nextLen })

def BodyStore.push (s : BodyStore) (chunk : List UInt8) (w : World) :
    Except StorageError Unit × BodyStore :=
  if s.state = .poisoned then (.error .io, s)
  else match checkedAdd s.len chunk.length with
    | none => (.error .arithmeticOverflow, s)
    | some nextLen =>
      if s.config.requestLimit.bytes.toNat < nextLen then (.error .tooLarge, s)
      else match s.state with
        | .memory bytes =>
          if nextLen ≤ s.config.memoryThreshold.bytes.toNat then
            s.pushMemory bytes chunk nextLen w
          else s.spillAndPush bytes chunk nextLen w
        | .spool file => s.pushSpool file chunk nextLen w
        | .poisoned => (.error .io, s)

/-! ## The stored body -/

inductive BodyKind where
  | memory (bytes : List UInt8)
  | spool (file : List UInt8)

structure StoredBody where
  kind : BodyKind
  len : Nat
  storage : Nat
  memory : Nat

def BodyStore.finish (s : BodyStore) (flushed : Bool) : Except StorageError StoredBody :=
  match s.storageBudget.shrink s.storage s.len with
  | .error _ => .error .invalidConfig
  | .ok storage =>
    match s.state with
    | .memory bytes =>
      match s.memoryBudget.shrink s.memory s.len with
      | .error _ => .error .invalidConfig
      | .ok memory => .ok ⟨.memory bytes, s.len, storage, memory⟩
    | .spool file =>
      match s.memoryBudget.shrink s.memory 0 with
      | .error _ => .error .invalidConfig
      | .ok memory =>
        if flushed then .ok ⟨.spool file, s.len, storage, memory⟩ else .error .io
    | .poisoned => .error .io

/-- `into_bytes`; `room`, `sought` and `readAll` say what of the allocation and
the file works. -/
def StoredBody.intoBytes (body : StoredBody) (b : Budget) (used : Nat)
    (room sought readAll : Bool) : Except StorageError (List UInt8) :=
  match body.kind with
  | .memory bytes => .ok bytes
  | .spool file =>
    match b.grow used body.memory body.len with
    | .error e => .error (memoryCapacity e)
    | .ok _ =>
      if !room then .error .memoryExhausted
      else if !sought || !readAll then .error .io
      else if file.length ≠ body.len then .error .io
      else .ok file

/-- `copy_to`, with what the writer has got. -/
def StoredBody.copyTo (body : StoredBody) (sought : Bool) (w : Write) :
    Except StorageError Unit × List UInt8 :=
  match body.kind with
  | .memory bytes => (if w.succeeds then .ok () else .error .io, w.file [] bytes)
  | .spool file =>
    if !sought then (.error .io, [])
    else (if w.succeeds then .ok () else .error .io, w.file [] file)

/-! ## Runs -/

def BodyStore.run (s : BodyStore) (pushes : List (List UInt8 × World)) : BodyStore :=
  pushes.foldl (fun s p => (s.push p.1 p.2).2) s

def BodyStore.accepted (s : BodyStore) : List (List UInt8 × World) → List UInt8
  | [] => []
  | (chunk, w) :: rest =>
    match s.push chunk w with
    | (.ok _, s') => chunk ++ s'.accepted rest
    | (.error _, s') => s'.accepted rest

def BodyStore.allFail (s : BodyStore) : List (List UInt8 × World) → Prop
  | [] => True
  | (chunk, w) :: rest =>
    (∃ e, (s.push chunk w).1 = .error e) ∧ (s.push chunk w).2.allFail rest

def StoreState.content : StoreState → Option (List UInt8)
  | .memory bytes => some bytes
  | .spool file => some file
  | .poisoned => none

def Budget.Pays (b : Budget) (units bytes : Nat) : Prop := bytes ≤ units * b.unitBytes

/-- What a push keeps of the store. -/
structure BodyStore.Sound (s : BodyStore) (accepted : List UInt8) : Prop where
  content : ∀ bytes, s.state.content = some bytes → bytes = accepted
  len : s.len = accepted.length
  storage : s.storageBudget.Pays s.storage s.len
  memory : ∀ bytes, s.state = .memory bytes → s.memoryBudget.Pays s.memory s.len

/-! ## Reservations pay -/

section Reservations

variable {b : Budget} {bytes units n : Nat}

theorem pays_iff (h : unitsForCapacity bytes b.unitBytes = .ok n) :
    b.Pays units bytes ↔ n ≤ units := by
  have hpos := b.unit_pos
  unfold unitsForCapacity at h
  unfold Budget.Pays
  split at h
  · next hzero =>
    cases h
    simp [hzero]
  · unfold checkedAdd at h
    split at h
    · cases h
    · next rounded hrounded =>
      split at hrounded
      · cases hrounded
        cases h
        rw [Nat.div_le_iff_le_mul_add_pred hpos, Nat.mul_comm]
        omega
      · cases hrounded

theorem pays_of_grow (h : b.grow used units bytes = .ok n) : b.Pays n bytes ∧ units ≤ n := by
  unfold Budget.grow at h
  split at h
  · cases h
  · next target htarget =>
    rw [pays_iff htarget]
    split at h
    · next hle => cases h; exact ⟨hle, le_rfl⟩
    · split at h
      · cases h; exact ⟨le_rfl, by omega⟩
      · cases h

theorem pays_of_shrink (h : b.shrink units bytes = .ok n) : b.Pays n bytes := by
  unfold Budget.shrink at h
  split at h
  · cases h
  · next target htarget =>
    split at h
    · cases h
    · cases h
      exact (pays_iff htarget).mpr le_rfl

theorem pays_rollback (h : b.Pays units bytes) : b.Pays (b.rollback units bytes) bytes := by
  unfold Budget.rollback
  split
  · next hshrink => exact pays_of_shrink hshrink
  · exact h

theorem Budget.Pays.mono (h : b.Pays units bytes) (hle : units ≤ more) :
    b.Pays more bytes := h.trans (Nat.mul_le_mul_right _ hle)

theorem shrink_zero : b.shrink units 0 = .ok 0 := rfl

theorem shrink_of_grow (h : b.grow used units more = .ok n) (hle : bytes ≤ more) :
    ∃ n', b.shrink n bytes = .ok n' := by
  have hpays := (pays_of_grow h).1
  have hok : ∃ target, unitsForCapacity bytes b.unitBytes = .ok target := by
    unfold Budget.grow at h
    unfold unitsForCapacity checkedAdd at h ⊢
    grind
  obtain ⟨target, htarget⟩ := hok
  have htle := (pays_iff htarget).mp (le_trans hle hpays)
  exact ⟨target, by simp only [Budget.shrink, htarget, if_neg (Nat.not_lt.mpr htle)]⟩

end Reservations

/-! ## One push -/

variable {file : List UInt8} {s : BodyStore}

section Push

variable {s s' : BodyStore} {acc chunk bytes : List UInt8} {w : World} {nextLen : Nat}
  {result : Except StorageError Unit}

/-- What a push does, accepted or refused. -/
structure Pushed (s s' : BodyStore) (acc chunk : List UInt8)
    (result : Except StorageError Unit) : Prop where
  accepted : result = .ok () → s'.Sound (acc ++ chunk)
  refused : ∀ e, result = .error e → s'.Sound acc ∧ (s'.state = s.state ∨ s'.state = .poisoned)

theorem Pushed.unchanged (h : s.Sound acc) (e : StorageError) : Pushed s s acc chunk (.error e) :=
  ⟨nofun, fun _ _ => ⟨h, .inl rfl⟩⟩

theorem Pushed.rolledBack (h : s.Sound acc) (e : StorageError) {weight storage : Nat}
    (hgrow : s.storageBudget.grow used s.storage weight = .ok storage) :
    Pushed s { s with storage := s.storageBudget.rollback storage s.len } acc chunk (.error e) :=
  ⟨nofun, fun _ _ => ⟨{ h with
    storage := pays_rollback (h.storage.mono (pays_of_grow hgrow).2) }, .inl rfl⟩⟩

theorem file_of_succeeds {w : Write} (h : w.succeeds = true) :
    w.file file chunk = file ++ chunk := by
  cases w with
  | all => rfl
  | part => cases h

theorem spillFile_eq_ok (h : spillFile bytes chunk w = .ok file) : file = bytes ++ chunk := by
  unfold spillFile at h
  split at h
  · cases h
  split at h
  · cases h
  next hspilled =>
  split at h
  · cases h
  next hwritten =>
  split at h
  · cases h
  · cases h
    rw [file_of_succeeds (by simpa using hwritten), file_of_succeeds (by simpa using hspilled)]
    rfl

theorem pushMemory_pushed (h : s.Sound acc) (hstate : s.state = .memory bytes)
    (hnext : nextLen = s.len + chunk.length)
    (hpush : s.pushMemory bytes chunk nextLen w = (result, s')) :
    Pushed s s' acc chunk result := by
  unfold BodyStore.pushMemory at hpush
  split at hpush
  · cases hpush
    exact .unchanged h _
  next storage hstorage =>
  split at hpush
  · cases hpush
    exact .rolledBack h _ hstorage
  · next memory hmemory =>
    cases hpush
    refine ⟨fun _ => ⟨fun _ hcontent => ?_, ?_, (pays_of_grow hstorage).1,
      fun _ _ => (pays_of_grow hmemory).1⟩, nofun⟩
    · cases hcontent
      rw [h.content bytes (by rw [hstate]; rfl)]
    · rw [length_append, ← h.len]
      exact hnext

theorem spillAndPush_pushed (h : s.Sound acc) (hstate : s.state = .memory bytes)
    (hnext : nextLen = s.len + chunk.length)
    (hpush : s.spillAndPush bytes chunk nextLen w = (result, s')) :
    Pushed s s' acc chunk result := by
  unfold BodyStore.spillAndPush at hpush
  split at hpush
  · cases hpush
    exact .unchanged h _
  next transition htransition =>
  split at hpush
  · cases hpush
    exact .unchanged h _
  next storage hstorage =>
  split at hpush
  · cases hpush
    exact .rolledBack h _ hstorage
  next file hfile =>
  -- the two shrinks of a finished spill cannot fail
  have hle : nextLen ≤ transition := by
    unfold checkedAdd at htransition
    grind
  obtain ⟨final, hfinal⟩ := shrink_of_grow hstorage hle
  simp only [shrink_zero, hfinal] at hpush
  cases hpush
  refine ⟨fun _ => ⟨fun _ hcontent => ?_, ?_, pays_of_shrink hfinal, nofun⟩, nofun⟩
  · cases hcontent
    rw [spillFile_eq_ok hfile, h.content bytes (by rw [hstate]; rfl)]
  · rw [length_append, ← h.len]
    exact hnext

theorem pushSpool_pushed (h : s.Sound acc) (hstate : s.state = .spool file)
    (hnext : nextLen = s.len + chunk.length)
    (hpush : s.pushSpool file chunk nextLen w = (result, s')) :
    Pushed s s' acc chunk result := by
  unfold BodyStore.pushSpool at hpush
  split at hpush
  · cases hpush
    exact .unchanged h _
  next storage hstorage =>
  simp only at hpush
  split at hpush
  · cases hpush
    exact ⟨nofun, fun _ _ => ⟨⟨nofun, h.len,
      pays_rollback (h.storage.mono (pays_of_grow hstorage).2), nofun⟩, .inr rfl⟩⟩
  · next hwritten =>
    cases hpush
    refine ⟨fun _ => ⟨fun _ hcontent => ?_, ?_, (pays_of_grow hstorage).1, nofun⟩, nofun⟩
    · cases hcontent
      rw [file_of_succeeds (by simpa using hwritten), h.content file (by rw [hstate]; rfl)]
    · rw [length_append, ← h.len]
      exact hnext

theorem push_pushed (h : s.Sound acc) (hpush : s.push chunk w = (result, s')) :
    Pushed s s' acc chunk result := by
  unfold BodyStore.push at hpush
  split at hpush
  · cases hpush
    exact .unchanged h _
  split at hpush
  · cases hpush
    exact .unchanged h _
  next nextLen hnext =>
  have hlen : nextLen = s.len + chunk.length := by
    unfold checkedAdd at hnext
    grind
  split at hpush
  · cases hpush
    exact .unchanged h _
  split at hpush
  · next bytes hstate =>
    split at hpush
    · exact pushMemory_pushed h hstate hlen hpush
    · exact spillAndPush_pushed h hstate hlen hpush
  · next file hstate => exact pushSpool_pushed h hstate hlen hpush
  · cases hpush
    exact .unchanged h _

end Push

/-! ## Whole runs -/

theorem start_sound {config : StorageConfig} {storageBudget memoryBudget : Budget}
    {storage memory : Nat} {belong distinct : Bool}
    (h : BodyStore.start config storageBudget memoryBudget storage memory belong distinct
      = .ok s) : s.Sound [] := by
  unfold BodyStore.start at h
  split at h
  · cases h
  · split at h
    · cases h
    · cases h
      exact ⟨fun _ hcontent => (some.inj hcontent).symm, rfl, Nat.zero_le _,
        fun _ _ => Nat.zero_le _⟩

theorem run_sound {acc : List UInt8} (h : s.Sound acc) (pushes : List (List UInt8 × World)) :
    (s.run pushes).Sound (acc ++ s.accepted pushes) := by
  induction pushes generalizing s acc with
  | nil => simpa [BodyStore.run, BodyStore.accepted] using h
  | cons p rest ih =>
    obtain ⟨chunk, w⟩ := p
    show ((s.push chunk w).2.run rest).Sound _
    cases hpush : s.push chunk w with
    | mk result s' =>
      have hpushed := push_pushed h hpush
      cases result with
      | ok u =>
        simp only [BodyStore.accepted, hpush, ← append_assoc]
        exact ih (hpushed.accepted rfl)
      | error e =>
        simp only [BodyStore.accepted, hpush]
        exact ih (hpushed.refused e rfl).1

theorem push_poisoned (h : s.state = .poisoned) (chunk : List UInt8) (w : World) :
    s.push chunk w = (.error .io, s) := by
  rw [BodyStore.push, if_pos h]

theorem poisoned_fails (h : s.state = .poisoned) (later : List (List UInt8 × World)) :
    s.allFail later ∧ s.run later = s := by
  induction later with
  | nil => exact ⟨trivial, rfl⟩
  | cons p rest ih =>
    obtain ⟨chunk, w⟩ := p
    have hpush := push_poisoned h chunk w
    refine ⟨⟨⟨.io, by rw [hpush]⟩, ?_⟩, ?_⟩
    · rw [hpush]
      exact ih.1
    · show (s.push chunk w).2.run rest = s
      rw [hpush]
      exact ih.2

theorem finish_poisoned (h : s.state = .poisoned) (flushed : Bool) :
    ∃ e, s.finish flushed = .error e := by
  unfold BodyStore.finish
  rw [h]
  split
  · exact ⟨_, rfl⟩
  · exact ⟨_, rfl⟩

def StoredBody.bytes (body : StoredBody) : List UInt8 :=
  match body.kind with
  | .memory bytes => bytes
  | .spool file => file

/-- What `finish` gives has the accepted bytes and still pays for them. -/
structure StoredBody.Holds (body : StoredBody) (s : BodyStore) (accepted : List UInt8) :
    Prop where
  bytes : body.bytes = accepted
  storage : s.storageBudget.Pays body.storage accepted.length
  memory : ∀ bytes, body.kind = .memory bytes → s.memoryBudget.Pays body.memory accepted.length

theorem finish_holds {acc : List UInt8} (h : s.Sound acc) {flushed : Bool}
    (hfinish : s.finish flushed = .ok body) : body.Holds s acc := by
  unfold BodyStore.finish at hfinish
  split at hfinish
  · cases hfinish
  next storage hstorage =>
  have hpays := pays_of_shrink hstorage
  rw [h.len] at hpays
  split at hfinish
  · next bytes hstate =>
    split at hfinish
    · cases hfinish
    · next memory hmemory =>
      cases hfinish
      refine ⟨h.content bytes (by rw [hstate]; rfl), hpays, fun _ _ => ?_⟩
      rw [← h.len]
      exact pays_of_shrink hmemory
  · next file hstate =>
    split at hfinish
    · cases hfinish
    · split at hfinish
      · cases hfinish
        exact ⟨h.content file (by rw [hstate]; rfl), hpays, nofun⟩
      · cases hfinish
  · cases hfinish

theorem intoBytes_eq_ok {b : Budget} {room readAll : Bool} {bytes : List UInt8}
    (h : body.intoBytes b used room sought readAll = .ok bytes) : bytes = body.bytes := by
  unfold StoredBody.intoBytes at h
  unfold StoredBody.bytes
  split at h
  · cases h; rfl
  · grind

theorem copyTo_eq_ok {w : Write} (h : (body.copyTo sought w).1 = .ok ()) :
    (body.copyTo sought w).2 = body.bytes := by
  unfold StoredBody.copyTo at h ⊢
  unfold StoredBody.bytes
  cases w with
  | all => grind [Write.file]
  | part => grind [Write.succeeds]

/-- Whatever fails on the way, the store has the accepted bytes and pays for them, a
failed push keeps it as it was or ends it, and what `finish` gives pays for those bytes
and is read back as them. -/
theorem body_store_exact {config : StorageConfig} {storageBudget memoryBudget : Budget}
    {storage memory : Nat} {belong distinct : Bool} {s₀ : BodyStore}
    (hstart : BodyStore.start config storageBudget memoryBudget storage memory belong distinct
      = .ok s₀) (pushes : List (List UInt8 × World)) :
    let s := s₀.run pushes
    s.Sound (s₀.accepted pushes)
    ∧ (∀ chunk w e s', s.push chunk w = (.error e, s') →
        s'.len = s.len ∧ (s'.state = s.state ∨
          ∀ later, s'.allFail later ∧ ∀ flushed, ∃ e, (s'.run later).finish flushed = .error e))
    ∧ ∀ flushed body, s.finish flushed = .ok body →
        body.Holds s (s₀.accepted pushes)
        ∧ (∀ b used room sought readAll bytes,
          body.intoBytes b used room sought readAll = .ok bytes → bytes = s₀.accepted pushes)
        ∧ ∀ sought w, (body.copyTo sought w).1 = .ok () →
            (body.copyTo sought w).2 = s₀.accepted pushes := by
  intro s
  have hsound : s.Sound (s₀.accepted pushes) := run_sound (start_sound hstart) pushes
  refine ⟨hsound, fun chunk w e s' hpush => ?_, fun flushed body hfinish => ?_⟩
  · obtain ⟨hsound', hstate⟩ := (push_pushed hsound hpush).refused e rfl
    refine ⟨by rw [hsound'.len, hsound.len], hstate.imp_right fun hpoisoned later => ?_⟩
    obtain ⟨hfail, hrun⟩ := poisoned_fails hpoisoned later
    exact ⟨hfail, fun flushed => by rw [hrun]; exact finish_poisoned hpoisoned flushed⟩
  · have hholds := finish_holds hsound hfinish
    exact ⟨hholds, fun _ _ _ _ _ _ hread => (intoBytes_eq_ok hread).trans hholds.bytes,
      fun _ _ hcopy => (copyTo_eq_ok hcopy).trans hholds.bytes⟩

def wideBudget : Budget where
  capacityUnits := 100
  unitBytes := 1
  capacity_pos := by decide
  capacity_lt := by decide
  unit_pos := by decide

def spillingPushes : List (List UInt8 × World) :=
  [([1, 2], ⟨0, 0, true, .all, .all, true⟩), ([3], ⟨0, 0, true, .part 1, .all, true⟩),
    ([3], ⟨0, 0, true, .all, .all, true⟩)]

/-- The second push fails half way and is undone, the third one is spooled. -/
theorem spilled_body_exact :
    let config : StorageConfig := ⟨⟨8⟩, ⟨2⟩⟩
    ∃ s₀, BodyStore.start config wideBudget wideBudget 0 0 true true = .ok s₀
      ∧ (s₀.run spillingPushes).state = .spool [1, 2, 3]
      ∧ (s₀.run spillingPushes).Sound [1, 2, 3] := by
  intro config
  have hstart : BodyStore.start config wideBudget wideBudget 0 0 true true
      = .ok ⟨config, wideBudget, wideBudget, 0, 0, .memory [], 0⟩ := rfl
  refine ⟨_, hstart, by decide +kernel, ?_⟩
  have haccepted : BodyStore.accepted ⟨config, wideBudget, wideBudget, 0, 0, .memory [], 0⟩
      spillingPushes = [1, 2, 3] := by decide +kernel
  exact haccepted ▸ (body_store_exact hstart spillingPushes).1

end ApiToken.Body
