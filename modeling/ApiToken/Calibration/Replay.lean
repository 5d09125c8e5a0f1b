import ApiToken.Calibration.Live

/-!
# Rebuilding an estimator from its observations

`replay_observations` of the Anthropic and the Gemini estimator and
`rebuild_from_history` of the KIMI one: they give the row a live estimator
has after the same observations. And in a live run nothing is attributed
twice: while the window goes on, what the anchor has advanced by is what was
measured, and the movement that was given up.
-/

namespace ApiToken.Calibration

variable {κ ν μ : Type}

/-! ## Rebuilding -/

def Row.withVersion (version : Int) (row : Row κ μ) : Row κ μ :=
  { row with version := version }

/-- `replay_observations`: observations of other windows are left out. -/
def Anthropic.replayObservations
    (observations : List (Observation Anthropic.Identity Source)) (version : Int) :
    Except Failure (Option (Row Anthropic.Identity Unit)) :=
  match observations with
  | [] => .ok none
  | first :: rest => do
      let calibration ← Anthropic.estimator.anchor first
      let row ← rest.foldlM
        (fun row o =>
          if o.identity = first.identity then Anthropic.estimator.observe row o
          else .ok row)
        (calibration.withVersion version)
      .ok (some row)

/-- `replay_observations`: an observation of another window is refused. -/
def ExactGemini.replayObservations
    (observations : List (Observation ExactGemini.Identity Source)) (version : Int) :
    Except Failure (Option (Row ExactGemini.Identity Unit)) :=
  match observations with
  | [] => .ok none
  | first :: rest => do
      let calibration ← ExactGemini.estimator.anchor first
      let row ← rest.foldlM
        (fun row o => do
          failIf (decide (o.identity ≠ first.identity))
            (.refused "mixed identity in Gemini calibration history")
          ExactGemini.estimator.observe row o)
        (calibration.withVersion version)
      .ok (some row)

def Estimator.currentOrNone (E : Estimator κ ν μ) (existing : Option (Row κ μ)) : Bool :=
  existing.all (fun row => decide (row.estimatorVersion = E.version))

def Anthropic.applyObservationWithHistory
    (existing : Option (Row Anthropic.Identity Unit))
    (history : List (Observation Anthropic.Identity Source))
    (o : Observation Anthropic.Identity Source) :
    Except Failure (Row Anthropic.Identity Unit) :=
  if Anthropic.estimator.currentOrNone existing then Anthropic.applyObservation existing o
  else do
    let rebuilt ← Anthropic.replayObservations history (Estimator.storedVersion existing)
    Anthropic.applyObservation rebuilt o

def ExactGemini.applyObservationWithHistory
    (existing : Option (Row ExactGemini.Identity Unit))
    (history : List (Observation ExactGemini.Identity Source))
    (o : Observation ExactGemini.Identity Source) :
    Except Failure (Row ExactGemini.Identity Unit) :=
  if ExactGemini.estimator.currentOrNone existing then ExactGemini.applyObservation existing o
  else do
    let replayed ← ExactGemini.replayObservations history (Estimator.storedVersion existing)
    let rebuilt ← orFail replayed
      (.refused "missing immutable history for Gemini estimator rebuild")
    ExactGemini.applyObservation (some rebuilt) o

def Kimi.applyObservationWithHistory
    (existing : Option (Row Kimi.Identity Kimi.Native))
    (history : List (Observation Kimi.Identity Kimi.Native))
    (o : Observation Kimi.Identity Kimi.Native) :
    Except Failure (Row Kimi.Identity Kimi.Native) :=
  if Kimi.estimator.currentOrNone existing then Kimi.applyObservation existing o
  else do
    let replayed ← Kimi.rebuildFromHistory history
    let rebuilt ← orFail replayed
      (.refused "missing immutable history for KIMI estimator rebuild")
    Kimi.applyObservation (some (rebuilt.withVersion (Estimator.storedVersion existing))) o

/-! ## The version is carried along -/

/-- Measuring does not read the version of a row. -/
def Estimator.Versionless (E : Estimator κ ν μ) : Prop :=
  ∀ (row : Row κ μ) (o : Observation κ ν) (deltaUsed deltaSpend version : Int),
    E.measure (row.withVersion version) o deltaUsed deltaSpend =
      (E.measure row o deltaUsed deltaSpend).map (·.withVersion version)

theorem recompute_withVersion (name : String) (row : Row κ μ) (version : Int) :
    recompute name (row.withVersion version) =
      (recompute name row).map (·.withVersion version) := by
  unfold recompute
  simp only [map_bind, apply_ite (Except.map (Row.withVersion version))]
  rfl

theorem measureInterval_withVersion (name : String) (row : Row κ μ)
    (o : Observation κ ν) (deltaUsed deltaSpend version : Int) :
    measureInterval name (row.withVersion version) o deltaUsed deltaSpend =
      (measureInterval name row o deltaUsed deltaSpend).map (·.withVersion version) := by
  unfold measureInterval
  simp only [map_bind, ← recompute_withVersion]
  rfl

theorem Anthropic.versionless : Anthropic.estimator.Versionless :=
  measureInterval_withVersion "Anthropic"

theorem ExactGemini.versionless : ExactGemini.estimator.Versionless :=
  measureInterval_withVersion "Gemini"

section Version

variable {E : Estimator κ ν μ}

theorem Estimator.weigh_withVersion (V : E.Versionless) (row : Row κ μ)
    (o : Observation κ ν) (version : Int) :
    E.weigh (row.withVersion version) o = (E.weigh row o).map (·.withVersion version) := by
  have hmeasure := V (E.seen row o (max row.resetsAt o.resetsAt)) o
    (o.usedFractionUnits - row.anchorUsedFractionUnits)
    (o.gatewaySpendNano - row.anchorSpendNano) version
  unfold Estimator.weigh
  simp only [map_bind, apply_ite (Except.map (Row.withVersion version)), ← hmeasure]
  rfl

theorem Estimator.observe_withVersion [DecidableEq κ] (V : E.Versionless) (row : Row κ μ)
    (o : Observation κ ν) (version : Int) :
    E.observe (row.withVersion version) o = (E.observe row o).map (·.withVersion version) := by
  unfold Estimator.observe
  simp only [map_bind, apply_ite (Except.map (Row.withVersion version)),
    ← Estimator.weigh_withVersion V]
  rfl

end Version

/-! ## Replaying is living -/

variable {row : Row κ μ}

section Replay

variable [DecidableEq κ] {E : Estimator κ ν μ} {D : κ → μ → Prop}
  {apply : Option (Row κ μ) → Observation κ ν → Except Failure (Row κ μ)}

def Replayable (E : Estimator κ ν μ) (observations : List (Observation κ ν)) : Prop :=
  (∀ o ∈ observations, E.validateObservation o = .ok ()) ∨
    observations.Pairwise (fun a b => a.observedAt ≤ b.observedAt)

def Follows (E : Estimator κ ν μ) (row : Row κ μ) (rest : List (Observation κ ν)) : Prop :=
  (∀ o ∈ rest, E.validateObservation o = .ok ()) ∨
    rest.Pairwise (fun a b => a.observedAt ≤ b.observedAt) ∧
      ∀ o ∈ rest, row.observedAt ≤ o.observedAt

omit [DecidableEq κ] in
theorem Estimator.Step.observedAt_le {row row' : Row κ μ} {o : Observation κ ν} {t : Int}
    (h : E.Step row o row') (hrow : row.observedAt ≤ t) (ho : o.observedAt ≤ t) :
    row'.observedAt ≤ t := by
  cases h with
  | stale h | farBehind h hb hf => exact hrow
  | began h hb | seen h hb hf | unattributed h hb hf hu hs => exact ho
  | measured _ _ _ _ _ hm =>
    obtain ⟨_, _, _, _, rfl⟩ := hm
    exact ho

theorem foldlM_observe (A : Applies E D apply) (L : E.Lawful D) (V : E.Versionless)
    {rest : List (Observation κ ν)} (version : Int) (hrow : E.Stored D row)
    (hid : ∀ o ∈ rest, o.identity = row.identity) (h : Follows E row rest) :
    rest.foldlM E.observe (row.withVersion version) >>= (fun row => .ok (some row)) =
      (rest.foldlM (fun existing o => (apply existing o).map some) (some row)).map
        (Option.map (Row.withVersion version)) := by
  induction rest generalizing row with
  | nil => rfl
  | cons o _ ih =>
    have ho : o.identity = row.identity := hid o (mem_cons_self ..)
    have hnext : apply (some row) o = E.observe row o := by
      refine A.next hrow ?_
      rcases h with hv | ⟨-, hle⟩
      · exact .inl ⟨hv o (mem_cons_self ..), ho⟩
      · exact .inr (hle o (mem_cons_self ..))
    rw [foldlM_cons, foldlM_cons, Estimator.observe_withVersion V, hnext]
    cases hobserved : E.observe row o with
    | error => rfl
    | ok =>
      have hstep := Estimator.observe_step L hrow hobserved
      obtain ⟨hv, -⟩ := Estimator.observe_accepted hobserved
      refine ih (hstep.stored L hrow ho hv) (fun x hx => ?_) ?_
      · rw [hstep.frame.1]
        exact hid x (mem_cons_of_mem _ hx)
      · rcases h with hvalid | ⟨hsorted, hle⟩
        · exact .inl (fun x hx => hvalid x (mem_cons_of_mem _ hx))
        · rw [pairwise_cons] at hsorted
          refine .inr ⟨hsorted.2, fun x hx => ?_⟩
          exact hstep.observedAt_le (hle x (mem_cons_of_mem _ hx)) (hsorted.1 x hx)

theorem replay_eq_live (A : Applies E D apply) (L : E.Lawful D) (V : E.Versionless)
    {first : Observation κ ν} {rest : List (Observation κ ν)} (version : Int)
    (hid : ∀ o ∈ first :: rest, o.identity = first.identity)
    (h : Replayable E (first :: rest)) :
    (do
      let calibration ← E.anchor first
      let row ← rest.foldlM E.observe (calibration.withVersion version)
      .ok (some row)) =
      (live apply (first :: rest)).map (Option.map (Row.withVersion version)) := by
  rw [live, foldlM_cons, A.first first]
  cases hanchor : E.anchor first with
  | error => rfl
  | ok =>
    obtain ⟨hv, rfl⟩ := Estimator.anchor_eq_ok.mp hanchor
    refine foldlM_observe A L V version (Estimator.stored_anchorRow L hv)
      (fun o ho => hid o (mem_cons_of_mem _ ho)) ?_
    rcases h with hvalid | hsorted
    · exact .inl (fun o ho => hvalid o (mem_cons_of_mem _ ho))
    · rw [pairwise_cons] at hsorted
      exact .inr ⟨hsorted.2, hsorted.1⟩

end Replay

theorem foldlM_congr_mem {α ι : Type} {f g : α → ι → Except Failure α} {l : List ι} {a : α}
    (h : ∀ a, ∀ x ∈ l, f a x = g a x) : l.foldlM f a = l.foldlM g a := by
  induction l generalizing a with
  | nil => rfl
  | cons x _ ih =>
    rw [foldlM_cons, foldlM_cons, h a x (mem_cons_self ..)]
    congr 1
    funext a'
    exact ih (fun a x hx => h a x (mem_cons_of_mem _ hx))

theorem Anthropic.replayObservations_eq
    {observations : List (Observation Anthropic.Identity Source)}
    {identity : Anthropic.Identity} (version : Int)
    (hid : ∀ o ∈ observations, o.identity = identity)
    (h : Replayable Anthropic.estimator observations) :
    Anthropic.replayObservations observations version =
      (live Anthropic.applyObservation observations).map
        (Option.map (Row.withVersion version)) := by
  cases observations with
  | nil => rfl
  | cons first rest =>
    have hfirst : ∀ o ∈ first :: rest, o.identity = first.identity := fun o ho =>
      (hid o ho).trans (hid first (mem_cons_self ..)).symm
    have hreplay := replay_eq_live (applies_applyObservation Anthropic.lawful)
      Anthropic.lawful Anthropic.versionless version hfirst h
    refine Eq.trans ?_ hreplay
    simp only [Anthropic.replayObservations]
    congr 1
    funext calibration
    rw [foldlM_congr_mem]
    intro row o ho
    rw [if_pos (hfirst o (mem_cons_of_mem _ ho))]

theorem ExactGemini.replayObservations_eq
    {observations : List (Observation ExactGemini.Identity Source)}
    {identity : ExactGemini.Identity} (version : Int)
    (hid : ∀ o ∈ observations, o.identity = identity)
    (h : Replayable ExactGemini.estimator observations) :
    ExactGemini.replayObservations observations version =
      (live ExactGemini.applyObservation observations).map
        (Option.map (Row.withVersion version)) := by
  cases observations with
  | nil => rfl
  | cons first rest =>
    have hfirst : ∀ o ∈ first :: rest, o.identity = first.identity := fun o ho =>
      (hid o ho).trans (hid first (mem_cons_self ..)).symm
    have hreplay := replay_eq_live (applies_applyObservation ExactGemini.lawful)
      ExactGemini.lawful ExactGemini.versionless version hfirst h
    refine Eq.trans ?_ hreplay
    simp only [ExactGemini.replayObservations]
    congr 1
    funext calibration
    rw [foldlM_congr_mem]
    intro row o ho
    simp [hfirst o (mem_cons_of_mem _ ho), failIf, bind, Except.bind]

/-! ## Nothing is attributed twice -/

def Estimator.StartsWindow (E : Estimator κ ν μ) (row : Row κ μ) (o : Observation κ ν) :
    Prop :=
  row.observedAt ≤ o.observedAt ∧ E.BeginsWindow row o

/-- What the anchor advanced by is what was measured, and the movement that
was given up. -/
structure Balanced (row row' : Row κ μ) : Prop where
  fraction : row'.anchorUsedFractionUnits - row.anchorUsedFractionUnits =
    (row'.observedFractionUnits - row.observedFractionUnits) +
      (row'.unattributedFractionUnits - row.unattributedFractionUnits)
  spend : row'.anchorSpendNano - row.anchorSpendNano =
    row'.observedSpendNano - row.observedSpendNano

theorem Balanced.refl (row : Row κ μ) : Balanced row row :=
  ⟨by omega, by omega⟩

theorem Balanced.trans {a b c : Row κ μ} (h : Balanced a b) (h' : Balanced b c) :
    Balanced a c := by
  have := h.fraction
  have := h.spend
  have := h'.fraction
  have := h'.spend
  exact ⟨by omega, by omega⟩

theorem Estimator.Step.balanced {E : Estimator κ ν μ} {row' : Row κ μ} {o : Observation κ ν}
    (h : E.Step row o row') (hno : ¬ E.StartsWindow row o) :
    Balanced row row' := by
  cases h with
  | stale h | farBehind h hb hf => exact .refl row
  | began h hb => exact absurd ⟨h, hb⟩ hno
  | seen =>
    constructor
    · simp only [Estimator.current, Estimator.seen]
      omega
    · simp only [Estimator.current, Estimator.seen]
      omega
  | unattributed =>
    constructor
    · simp only [Row.advanceAnchor, Estimator.current, Estimator.seen]
      omega
    · simp only [Row.advanceAnchor, Estimator.current, Estimator.seen]
      omega
  | measured _ _ _ _ _ hm =>
    obtain ⟨_, _, _, _, rfl⟩ := hm
    constructor
    · simp only [Row.advanceAnchor, Estimator.current, Estimator.seen]
      omega
    · simp only [Row.advanceAnchor, Estimator.current, Estimator.seen]
      omega

theorem live_append {ρ ο : Type} (apply : Option ρ → ο → Except Failure ρ)
    (pre seg : List ο) :
    live apply (pre ++ seg) = live apply pre >>= fun existing =>
      seg.foldlM (fun existing o => (apply existing o).map some) existing :=
  List.foldlM_append

section Attribution

variable [DecidableEq κ] {E : Estimator κ ν μ} {D : κ → μ → Prop}
  {apply : Option (Row κ μ) → Observation κ ν → Except Failure (Row κ μ)}

theorem live_stored (A : Applies E D apply) (L : E.Lawful D)
    {observations : List (Observation κ ν)} (h : live apply observations = .ok (some row)) :
    E.Stored D row := by
  have hends : EndsIn (fun _ => True)
      (fun existing : Option (Row κ μ) => ∀ row ∈ existing, E.Stored D row)
      (live apply observations) := by
    refine endsIn_foldlM (I := fun _ existing => ∀ row ∈ existing, E.Stored D row) (by simp) ?_
    intro done o rest existing _ hholds
    cases happly : apply existing o with
    | error => trivial
    | ok =>
      rintro _ ⟨⟩
      cases existing with
      | none =>
        rw [A.first, Estimator.anchor_eq_ok] at happly
        rw [happly.2]
        exact Estimator.stored_anchorRow L happly.1
      | some row => exact (A.step L (hholds row rfl) happly).2
  exact hends.of_eq_ok h row rfl

theorem live_balanced (A : Applies E D apply) (L : E.Lawful D)
    {pre seg : List (Observation κ ν)} {row' : Row κ μ} (hpre : live apply pre = .ok (some row))
    (hseg : live apply (pre ++ seg) = .ok (some row'))
    (hno : ∀ part o rest r, seg = part ++ o :: rest →
      live apply (pre ++ part) = .ok (some r) → ¬ E.StartsWindow r o) :
    Balanced row row' := by
  induction seg generalizing pre row with
  | nil =>
    rw [append_nil, hpre] at hseg
    cases hseg
    exact .refl _
  | cons o seg ih =>
    have hsplit : pre ++ o :: seg = pre ++ [o] ++ seg := by simp
    rw [hsplit, live_append, bind_eq_ok] at hseg
    obtain ⟨existing, hmid, hrest⟩ := hseg
    have hone : live apply (pre ++ [o]) = (apply (some row) o).map some := by
      rw [live_append, hpre]
      show ((apply (some row) o).map some >>= fun existing => .ok existing) = _
      cases apply (some row) o <;> rfl
    cases happly : apply (some row) o with
    | error =>
      rw [hone, happly] at hmid
      cases hmid
    | ok =>
      rw [happly] at hone
      have hstep := (A.step L (live_stored A L hpre) happly).1
      have hfirst : ¬ E.StartsWindow row o := hno [] o seg row rfl (by rw [append_nil, hpre])
      refine (hstep.balanced hfirst).trans (ih hone ?_ ?_)
      · rw [live_append, bind_eq_ok]
        exact ⟨existing, hmid, hrest⟩
      · intro part x rest r hx hr
        refine hno (o :: part) x rest r (by rw [hx]; rfl) ?_
        rw [← hr]
        congr 1
        simp

end Attribution

/-! ## The three estimators -/

def RebuildsLive [DecidableEq κ] (E : Estimator κ ν μ)
    (apply : Option (Row κ μ) → Observation κ ν → Except Failure (Row κ μ))
    (replay : List (Observation κ ν) → Int → Except Failure (Option (Row κ μ))) : Prop :=
  ∀ (identity : κ) (observations : List (Observation κ ν)) (version : Int),
    (∀ o ∈ observations, o.identity = identity) → Replayable E observations →
    replay observations version =
      (live apply observations).map (Option.map (Row.withVersion version))

/-- In every live run, the steps between two that begin a window are
balanced. -/
def AttributesOnce (E : Estimator κ ν μ)
    (apply : Option (Row κ μ) → Observation κ ν → Except Failure (Row κ μ)) : Prop :=
  ∀ (pre seg : List (Observation κ ν)) (row row' : Row κ μ),
    live apply pre = .ok (some row) → live apply (pre ++ seg) = .ok (some row') →
    (∀ part o rest r, seg = part ++ o :: rest → live apply (pre ++ part) = .ok (some r) →
      ¬ E.StartsWindow r o) →
    Balanced row row'

/-- For each estimator, rebuilding from history is living through it, and no
movement or spend is attributed twice on the way. -/
theorem rebuild_eq_live :
    (RebuildsLive Anthropic.estimator Anthropic.applyObservation
        Anthropic.replayObservations ∧
      AttributesOnce Anthropic.estimator Anthropic.applyObservation) ∧
    (RebuildsLive ExactGemini.estimator ExactGemini.applyObservation
        ExactGemini.replayObservations ∧
      AttributesOnce ExactGemini.estimator ExactGemini.applyObservation) ∧
    (RebuildsLive Kimi.estimator Kimi.applyObservation
        (fun observations version =>
          (Kimi.rebuildFromHistory observations).map (Option.map (Row.withVersion version))) ∧
      AttributesOnce Kimi.estimator Kimi.applyObservation) := by
  refine ⟨⟨?_, ?_⟩, ⟨?_, ?_⟩, ⟨?_, ?_⟩⟩
  · exact fun identity observations version hid h =>
      Anthropic.replayObservations_eq version hid h
  · exact fun pre seg row row' hpre hseg hno =>
      live_balanced (applies_applyObservation Anthropic.lawful) Anthropic.lawful hpre hseg hno
  · exact fun identity observations version hid h =>
      ExactGemini.replayObservations_eq version hid h
  · exact fun pre seg row row' hpre hseg hno =>
      live_balanced (applies_applyObservation ExactGemini.lawful) ExactGemini.lawful hpre hseg hno
  · exact fun identity observations version _ _ => rfl
  · exact fun pre seg row row' hpre hseg hno =>
      live_balanced Kimi.applies_applyObservation Kimi.lawful hpre hseg hno

/-- A five-hour window: movement without spend, seen twice and given up, then
movement with spend. -/
def sessionSnapshots : List (Observation Anthropic.Identity Source) :=
  [(1999990000, 10000000, 0), (1999990060, 20000000, 0), (1999990120, 20000000, 0),
    (1999990180, 40000000, 4000000000)].map (fun (observedAt, used, spend) =>
      ⟨⟨"subject", "max20", "5h", 300⟩, 2000000000, observedAt, used, 1000000, spend,
        ⟨"poll", none⟩⟩)

/-- The rebuilt row is the live one, and its unattributed movement is the one given up. -/
theorem session_rebuilt :
    Anthropic.replayObservations sessionSnapshots 7 =
      (live Anthropic.applyObservation sessionSnapshots).map (Option.map (Row.withVersion 7)) ∧
    ∃ row row', live Anthropic.applyObservation (sessionSnapshots.take 3) = .ok (some row) ∧
      live Anthropic.applyObservation sessionSnapshots = .ok (some row') ∧
      row.unattributedFractionUnits = 10000000 ∧ row'.samples = 1 ∧ Balanced row row' := by
  refine ⟨rebuild_eq_live.1.1 ⟨"subject", "max20", "5h", 300⟩ _ 7 (by decide +kernel)
    (.inl (by decide +kernel)), ?_⟩
  obtain ⟨row, hrow⟩ : ∃ row,
      live Anthropic.applyObservation (sessionSnapshots.take 3) = .ok (some row) :=
    ⟨_, rfl⟩
  obtain ⟨row', hrow'⟩ : ∃ row',
      live Anthropic.applyObservation sessionSnapshots = .ok (some row') := ⟨_, rfl⟩
  refine ⟨row, row', hrow, hrow', ?_, ?_, ?_⟩
  · cases hrow
    rfl
  · cases hrow'
    rfl
  · refine rebuild_eq_live.1.2 (sessionSnapshots.take 3) (sessionSnapshots.drop 3) row row'
      hrow (by rw [List.take_append_drop]; exact hrow') ?_
    intro part o rest r hsplit hr
    cases part with
    | nil =>
      cases hsplit
      rw [append_nil, hrow] at hr
      cases hr
      cases hrow
      rintro ⟨-, hbegins⟩
      revert hbegins
      decide +kernel
    | cons =>
      have hlength := congrArg List.length hsplit
      simp [sessionSnapshots] at hlength

end ApiToken.Calibration
