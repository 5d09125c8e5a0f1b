import ApiToken.Calibration.CodexSound
import ApiToken.Calibration.Live

/-!
# Calibration rows stay valid

For each of the four estimators: valid observations of one window, folded one
after the other, leave after every one of them a row that the estimator's own
validator accepts again and whose published values are in order. Otherwise
the fold ends in an overflow, or in one of the refusals the estimator has for
ledgers that contradict each other.
-/

namespace ApiToken.Calibration

/-- After every prefix of the observations the fold has a good row, or ends
in one of the errors `E`. -/
def RowsAlong {ρ ο : Type} (E : Failure → Prop) (good : ρ → Prop)
    (apply : Option ρ → ο → Except Failure ρ) (observations : List ο) : Prop :=
  ∀ done, done <+: observations →
    EndsIn E (fun existing => (existing = none → done = []) ∧ ∀ row ∈ existing, good row)
      (live apply done)

theorem rowsAlong {κ ν μ : Type} [DecidableEq κ] {E : Estimator κ ν μ} {D : κ → μ → Prop}
    {apply : Option (Row κ μ) → Observation κ ν → Except Failure (Row κ μ)}
    (A : Applies E D apply) (L : E.Lawful D) {identity : κ}
    {observations : List (Observation κ ν)}
    (hid : ∀ o ∈ observations, o.identity = identity)
    (hv : ∀ o ∈ observations, E.validateObservation o = .ok ())
    {good : Row κ μ → Prop} (hgood : ∀ row, E.Stored D row → good row) :
    RowsAlong (fun e => e.IsOverflow ∨ RegressedIn E observations) good apply observations := by
  intro done hdone
  have hsub := hdone.subset
  refine (live_ends A L (fun o ho => hid o (hsub ho)) (fun o ho => hv o (hsub ho))).mono ?_ ?_
  · rintro e (he | ⟨hrefused, a, b, hab, hlow⟩)
    · exact .inl he
    · exact .inr ⟨hrefused, a, b, hab.trans hdone.sublist, hlow⟩
  · intro existing hholds
    cases existing with
    | none => exact ⟨fun _ => hholds, by simp⟩
    | some row => exact ⟨nofun, by simpa using hgood row hholds.1⟩

/-- The row can be saved. -/
structure Row.Valid {κ μ : Type} (validate : Row κ μ → Except Failure Unit)
    (row : Row κ μ) : Prop where
  accepted : validate row = .ok ()
  consistent : row.estimate.Consistent

structure Codex.Row.Valid (row : Codex.Row) : Prop where
  accepted : Codex.validateRow row = .ok ()
  api : row.api.Consistent
  credits : row.Untracked ∨ row.creditSamples = some row.samples ∧ row.credits.Consistent

theorem Estimator.Stored.valid {κ ν μ : Type} {E : Estimator κ ν μ} {D : κ → μ → Prop}
    (L : E.Lawful D) {row : Row κ μ} (h : E.Stored D row) : row.Valid E.validateRow :=
  ⟨L.accepts h.sound h.described h.current h.version, h.sound.evidence.consistent⟩

theorem anthropic_rows_valid {identity : Anthropic.Identity}
    {observations : List (Observation Anthropic.Identity Source)}
    (hid : ∀ o ∈ observations, o.identity = identity)
    (hv : ∀ o ∈ observations, Anthropic.validateObservation o = .ok ()) :
    RowsAlong Failure.IsOverflow (Row.Valid Anthropic.validateRow)
      Anthropic.applyObservation observations := by
  have h := rowsAlong (applies_applyObservation Anthropic.lawful) Anthropic.lawful hid hv
    (fun row hrow => hrow.valid Anthropic.lawful)
  intro done hdone
  refine (h done hdone).mono ?_ (fun _ hrow => hrow)
  rintro e (he | ⟨hrefused, -⟩)
  · exact he
  · cases hrefused

theorem exactGemini_rows_valid {identity : ExactGemini.Identity}
    {observations : List (Observation ExactGemini.Identity Source)}
    (hid : ∀ o ∈ observations, o.identity = identity)
    (hv : ∀ o ∈ observations, ExactGemini.validateObservation o = .ok ()) :
    RowsAlong
      (fun e => e.IsOverflow ∨ ∃ a b, List.Sublist [a, b] observations ∧
        b.gatewaySpendNano < a.gatewaySpendNano)
      (Row.Valid ExactGemini.validateRow) ExactGemini.applyObservation observations := by
  have h := rowsAlong (applies_applyObservation ExactGemini.lawful) ExactGemini.lawful hid hv
    (fun row hrow => hrow.valid ExactGemini.lawful)
  intro done hdone
  exact (h done hdone).mono (fun _ he => he.imp_right And.right) (fun _ hrow => hrow)

theorem kimi_rows_valid {identity : Kimi.Identity}
    {observations : List (Observation Kimi.Identity Kimi.Native)}
    (hid : ∀ o ∈ observations, o.identity = identity)
    (hv : ∀ o ∈ observations, Kimi.validateObservation o = .ok ()) :
    RowsAlong Failure.IsOverflow
      (fun row => row.Valid Kimi.validateRow ∧ Kimi.validateKimiCalibrationRow row = .ok ())
      Kimi.applyObservation observations := by
  have hgood : ∀ row, Kimi.estimator.Stored Kimi.Described row →
      row.Valid Kimi.validateRow ∧ Kimi.validateKimiCalibrationRow row = .ok () :=
    fun row hrow => ⟨hrow.valid Kimi.lawful, Kimi.validateKimiCalibrationRow_stored hrow⟩
  have h := rowsAlong Kimi.applies_applyObservation Kimi.lawful hid hv hgood
  intro done hdone
  refine (h done hdone).mono ?_ (fun _ hrow => hrow)
  rintro e (he | ⟨hrefused, -⟩)
  · exact he
  · cases hrefused

theorem codex_rows_valid {homeId : String} {mins : Int}
    {observations : List Codex.Observation}
    (hid : ∀ o ∈ observations, o.homeId = homeId ∧ o.windowDurationMins = mins)
    (hv : ∀ o ∈ observations, Codex.validateObservation o = .ok ()) :
    RowsAlong (fun e => e.IsOverflow ∨ Codex.ConflictIn observations) Codex.Row.Valid
      Codex.applyObservation observations := by
  intro done hdone
  have hsub := hdone.subset
  refine (Codex.live_ends (fun o ho => hid o (hsub ho)) (fun o ho => hv o (hsub ho))).mono ?_ ?_
  · rintro e (he | ⟨a, b, hab, hconflict⟩)
    · exact .inl he
    · exact .inr ⟨a, b, hab.trans hdone.sublist, hconflict⟩
  · intro existing hholds
    cases existing with
    | none => exact ⟨fun _ => hholds, by simp⟩
    | some =>
      refine ⟨nofun, ?_⟩
      rintro _ ⟨⟩
      exact ⟨Codex.validateRow_sound hholds.1, hholds.1.api.consistent,
        hholds.1.credits_consistent⟩

/-- The four estimators together. The exact Gemini estimator also refuses a
cumulative spend that an earlier observation exceeds, and the Codex estimator
ledgers in conflict with those of an earlier observation. -/
theorem calibration_rows_valid :
    (∀ (identity : Anthropic.Identity) (observations : List (Observation Anthropic.Identity Source)),
      (∀ o ∈ observations, o.identity = identity) →
      (∀ o ∈ observations, Anthropic.validateObservation o = .ok ()) →
      RowsAlong Failure.IsOverflow (Row.Valid Anthropic.validateRow)
        Anthropic.applyObservation observations) ∧ (∀ (identity : ExactGemini.Identity)
        (observations : List (Observation ExactGemini.Identity Source)),
      (∀ o ∈ observations, o.identity = identity) →
      (∀ o ∈ observations, ExactGemini.validateObservation o = .ok ()) →
      RowsAlong
        (fun e => e.IsOverflow ∨ ∃ a b, List.Sublist [a, b] observations ∧
          b.gatewaySpendNano < a.gatewaySpendNano)
        (Row.Valid ExactGemini.validateRow) ExactGemini.applyObservation observations) ∧
    (∀ (identity : Kimi.Identity) (observations : List (Observation Kimi.Identity Kimi.Native)),
      (∀ o ∈ observations, o.identity = identity) →
      (∀ o ∈ observations, Kimi.validateObservation o = .ok ()) →
      RowsAlong Failure.IsOverflow
        (fun row => row.Valid Kimi.validateRow ∧ Kimi.validateKimiCalibrationRow row = .ok ())
        Kimi.applyObservation observations) ∧
    ∀ (homeId : String) (mins : Int) (observations : List Codex.Observation),
      (∀ o ∈ observations, o.homeId = homeId ∧ o.windowDurationMins = mins) →
      (∀ o ∈ observations, Codex.validateObservation o = .ok ()) →
      RowsAlong (fun e => e.IsOverflow ∨ Codex.ConflictIn observations) Codex.Row.Valid
        Codex.applyObservation observations :=
  ⟨fun _ _ hid hv => anthropic_rows_valid hid hv,
    fun _ _ hid hv => exactGemini_rows_valid hid hv,
    fun _ _ hid hv => kimi_rows_valid hid hv,
    fun _ _ _ hid hv => codex_rows_valid hid hv⟩

/-! ## Runs -/

def bucketSnapshots (spend spend' : Int) : List (Observation ExactGemini.Identity Source) :=
  [⟨⟨"profile", "pro", "gemini-5h", "5h", 300⟩, 2000000000, 1999990000, 10000000, 1000000,
      spend, ⟨"poll", none⟩⟩,
    ⟨⟨"profile", "pro", "gemini-5h", "5h", 300⟩, 2000000000, 1999990600, 40000000, 1000000,
      spend', ⟨"poll", none⟩⟩]

/-- Thirty percent for three dollars: ten dollars a window, within bounds. -/
theorem bucket_row_valid :
    RowsAlong
      (fun e => e.IsOverflow ∨ ∃ a b,
        List.Sublist [a, b] (bucketSnapshots 2000000000 5000000000) ∧
          b.gatewaySpendNano < a.gatewaySpendNano)
      (Row.Valid ExactGemini.validateRow) ExactGemini.applyObservation
      (bucketSnapshots 2000000000 5000000000) ∧
    ((live ExactGemini.applyObservation (bucketSnapshots 2000000000 5000000000)).toOption.bind
      (·.map (·.currentCapacityNano))) = some (some 10000000000) :=
  ⟨calibration_rows_valid.2.1 ⟨"profile", "pro", "gemini-5h", "5h", 300⟩ _
    (by decide +kernel) (by decide +kernel), by decide +kernel⟩

/-- A cumulative spend that fell is refused, and that is no overflow. -/
theorem bucket_spend_refused :
    (∀ o ∈ bucketSnapshots 5000000000 2000000000,
      o.identity = ⟨"profile", "pro", "gemini-5h", "5h", 300⟩ ∧
        ExactGemini.validateObservation o = .ok ()) ∧
    live ExactGemini.applyObservation (bucketSnapshots 5000000000 2000000000) =
      .error (.refused "Gemini cumulative calibration spend regressed") ∧
    ¬ RowsAlong Failure.IsOverflow (Row.Valid ExactGemini.validateRow)
      ExactGemini.applyObservation (bucketSnapshots 5000000000 2000000000) := by
  have hrun : live ExactGemini.applyObservation (bucketSnapshots 5000000000 2000000000) =
      .error (.refused "Gemini cumulative calibration spend regressed") := by decide +kernel
  refine ⟨by decide +kernel, hrun, fun h => ?_⟩
  exact (h _ (List.prefix_refl _)).of_eq_error hrun

end ApiToken.Calibration
