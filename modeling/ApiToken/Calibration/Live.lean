import ApiToken.Calibration.Lawful

/-!
# A live estimator

The rows a live estimator goes through, one observation after the other: each
is one its own validator accepts, and the anchor is always an observation
seen before. `Applies` is what the two forms of `apply_observation` have in
common.
-/

namespace ApiToken.Calibration

variable {κ ν μ : Type}

variable {row : Row κ μ} {o : Observation κ ν}

section Rows

variable {E : Estimator κ ν μ} {D : κ → μ → Prop}

theorem Estimator.resume_stored (L : E.Lawful D) (h : E.Stored D row) (o : Observation κ ν) :
    E.resume (some row) o = .ok row := by
  have haccepted := L.accepts h.sound h.described h.current h.version
  simp only [Estimator.resume, if_pos h.current, Estimator.fromRow, haccepted]
  rfl

theorem Estimator.anchor_eq_ok :
    E.anchor o = .ok row ↔ E.validateObservation o = .ok () ∧ row = E.anchorRow o := by
  simp only [Estimator.anchor, ok_steps, Except.ok.injEq]
  exact and_congr_right (fun _ => eq_comm)

theorem Estimator.anchor_bind (o : Observation κ ν) {f : Row κ μ → Except Failure (Row κ μ)}
    (h : E.validateObservation o = .ok () → f (E.anchorRow o) = .ok (E.anchorRow o)) :
    E.anchor o >>= f = E.anchor o := by
  unfold Estimator.anchor
  cases hv : E.validateObservation o with
  | error => rfl
  | ok => exact h hv

theorem Estimator.Step.anchored {row' : Row κ μ} (h : E.Step row o row') :
    row'.anchorSpendNano = row.anchorSpendNano ∨ row'.anchorSpendNano = o.gatewaySpendNano := by
  cases h with
  | stale h | farBehind h hb hf | seen h hb hf => exact .inl rfl
  | began h hb | unattributed h hb hf hu hs => exact .inr rfl
  | measured _ _ _ _ _ hm =>
    obtain ⟨_, _, _, _, rfl⟩ := hm
    exact .inr rfl

end Rows

variable [DecidableEq κ]

/-- How one observation is applied: without a row it anchors one, and to a
stored row it is an observation, unless it is stale. -/
structure Applies (E : Estimator κ ν μ) (D : κ → μ → Prop)
    (apply : Option (Row κ μ) → Observation κ ν → Except Failure (Row κ μ)) : Prop where
  first : ∀ o, apply none o = E.anchor o
  next : ∀ {row o}, E.Stored D row →
    E.validateObservation o = .ok () ∧ o.identity = row.identity ∨
      row.observedAt ≤ o.observedAt → apply (some row) o = E.observe row o
  stale : ∀ {row o row'}, E.Stored D row → o.observedAt < row.observedAt →
    apply (some row) o = .ok row' → row' = row

section Laws

variable {E : Estimator κ ν μ} {D : κ → μ → Prop}

theorem Estimator.observe_stale (hv : E.validateObservation o = .ok ())
    (hid : o.identity = row.identity) (h : o.observedAt < row.observedAt) :
    E.observe row o = .ok row := by
  unfold Estimator.observe
  rw [hv]
  simp [hid, failIf, h, bind, Except.bind]

theorem applies_applyObservation (L : E.Lawful D) : Applies E D E.applyObservation where
  first := fun o => by
    refine Estimator.anchor_bind o (fun hv => ?_)
    show (if (E.anchorRow o).observedAt ≤ o.observedAt then E.observe (E.anchorRow o) o
      else .ok (E.anchorRow o)) = _
    rw [if_pos (show (E.anchorRow o).observedAt ≤ o.observedAt from Int.le_refl _)]
    exact Estimator.observe_anchorRow L hv
  next := fun {row o} hrow h => by
    rw [Estimator.applyObservation, Estimator.resume_stored L hrow]
    show (if row.observedAt ≤ o.observedAt then E.observe row o else .ok row) = _
    by_cases hle : row.observedAt ≤ o.observedAt
    · rw [if_pos hle]
    · rcases h with ⟨hv, hid⟩ | h
      · rw [if_neg hle, Estimator.observe_stale hv hid (by omega)]
      · exact absurd h hle
  stale := fun {row o row'} hrow hstale h => by
    rw [Estimator.applyObservation, Estimator.resume_stored L hrow] at h
    change (if row.observedAt ≤ o.observedAt then E.observe row o else .ok row) = .ok row' at h
    rw [if_neg (by omega)] at h
    cases h
    rfl

end Laws

theorem Kimi.applies_applyObservation :
    Applies Kimi.estimator Kimi.Described Kimi.applyObservation where
  first := fun o => by
    refine Estimator.anchor_bind o (fun hv => ?_)
    show (Kimi.estimator.observe (Kimi.estimator.anchorRow o) o >>= fun row =>
      .ok { row with version := 0 }) = _
    rw [Estimator.observe_anchorRow Kimi.lawful hv]
    rfl
  next := fun {row o} hrow _ => by
    rw [Kimi.applyObservation, Estimator.resume_stored Kimi.lawful hrow]
    show (Kimi.estimator.observe row o >>= fun row' =>
      .ok { row' with version := row.version }) = _
    cases h : Kimi.estimator.observe row o with
    | error => rfl
    | ok row' =>
      have hversion := (Estimator.observe_step Kimi.lawful hrow h).frame.2.2.1
      show Except.ok { row' with version := row.version } = _
      rw [← hversion]
  stale := fun {row o row'} hrow hstale h => by
    rw [Kimi.applyObservation, Estimator.resume_stored Kimi.lawful hrow] at h
    obtain ⟨r, hr, h⟩ := bind_eq_ok.mp h
    obtain ⟨row0, hobserved, h⟩ := bind_eq_ok.mp h
    cases hr
    obtain ⟨hv, hid⟩ := Estimator.observe_accepted hobserved
    rw [Estimator.observe_stale hv hid hstale] at hobserved
    cases hobserved
    cases h
    rfl

/-! ## Runs -/

section Run

variable {E : Estimator κ ν μ} {D : κ → μ → Prop}
  {apply : Option (Row κ μ) → Observation κ ν → Except Failure (Row κ μ)}

theorem Applies.step (A : Applies E D apply) (L : E.Lawful D) {row' : Row κ μ}
    (hrow : E.Stored D row) (h : apply (some row) o = .ok row') :
    E.Step row o row' ∧ E.Stored D row' := by
  by_cases hle : row.observedAt ≤ o.observedAt
  · rw [A.next hrow (.inr hle)] at h
    have hstep := Estimator.observe_step L hrow h
    obtain ⟨hv, hid⟩ := Estimator.observe_accepted h
    exact ⟨hstep, hstep.stored L hrow hid hv⟩
  · rw [A.stale hrow (by omega) h]
    exact ⟨.stale (by omega), hrow⟩

/-- What a live estimator has after the observations `done`. -/
def Holds (E : Estimator κ ν μ) (D : κ → μ → Prop) (identity : κ)
    (done : List (Observation κ ν)) (existing : Option (Row κ μ)) : Prop :=
  match existing with
  | none => done = []
  | some row => E.Stored D row ∧ row.identity = identity ∧
      ∃ a ∈ done, row.anchorSpendNano = a.gatewaySpendNano

def RegressedIn (E : Estimator κ ν μ) (observations : List (Observation κ ν)) : Prop :=
  E.regression = .refused ∧ ∃ a b, List.Sublist [a, b] observations ∧
    b.gatewaySpendNano < a.gatewaySpendNano

/-- Valid observations of one window either overflow, or regress where that
is refused, or leave a row of the estimator. -/
theorem live_ends (A : Applies E D apply) (L : E.Lawful D) {identity : κ}
    {observations : List (Observation κ ν)}
    (hid : ∀ o ∈ observations, o.identity = identity)
    (hv : ∀ o ∈ observations, E.validateObservation o = .ok ()) :
    EndsIn (fun e => e.IsOverflow ∨ RegressedIn E observations)
      (Holds E D identity observations) (live apply observations) := by
  refine endsIn_foldlM (I := Holds E D identity) rfl ?_
  intro done o rest existing hsplit hholds
  have hmem : o ∈ observations := by simp [hsplit]
  have hlast : o ∈ done ++ [o] := by simp
  cases existing with
  | none =>
    rw [A.first o, Estimator.anchor_eq_ok.mpr ⟨hv o hmem, rfl⟩]
    exact ⟨Estimator.stored_anchorRow L (hv o hmem), hid o hmem, o, hlast, rfl⟩
  | some row =>
    obtain ⟨hrow, hidentity, a, ha, hanchor⟩ := hholds
    have hsame : o.identity = row.identity := (hid o hmem).trans hidentity.symm
    rw [A.next hrow (.inl ⟨hv o hmem, hsame⟩)]
    have hends := Estimator.observe_ends L hrow hsame (hv o hmem)
    cases hobserved : E.observe row o with
    | error =>
      rcases hends.of_eq_error hobserved with he | ⟨hrefused, hlow⟩
      · exact .inl he
      · refine .inr ⟨hrefused, a, o, ?_, hanchor ▸ hlow⟩
        rw [hsplit]
        exact (List.singleton_sublist.mpr ha).append
          (List.singleton_sublist.mpr (mem_cons_self ..))
    | ok =>
      have hstep := hends.of_eq_ok hobserved
      refine ⟨hstep.stored L hrow hsame (hv o hmem), hstep.frame.1.trans hidentity, ?_⟩
      rcases hstep.anchored with h | h
      · exact ⟨a, mem_append_left _ ha, h.trans hanchor⟩
      · exact ⟨o, hlast, h⟩

end Run

end ApiToken.Calibration
