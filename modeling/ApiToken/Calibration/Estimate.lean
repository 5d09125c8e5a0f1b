import ApiToken.Calibration.Arithmetic

/-!
# The evidence of one ledger

What an estimator has measured of one ledger and what it publishes of it:
nothing at all, or the sums of complete intervals, their ratio rounded to a
capacity, bounds around the exact ratio, and a score. All estimators keep
this one invariant, the Codex one for each of its two ledgers.
-/

namespace ApiToken.Calibration

structure Estimate where
  samples : Int
  fraction : Int
  spend : Int
  capacity : Option Int
  low : Option Int
  high : Option Int
  confidence : Int
  lastMeasuredAt : Option Int

structure Share (high : Option Int) (confidence : Int) : Prop where
  nonneg : 0 ≤ confidence
  le : confidence ≤ 10000
  unproved : high = none → confidence = 0

theorem share_clamp {high : Option Int} {score : Int} (h : high = none → score = 0) :
    Share high (clamp score 0 10000) where
  nonneg := (clamp_range (by decide)).1
  le := (clamp_range (by decide)).2
  unproved := fun hnone => by
    rw [h hnone]
    rfl

namespace Estimate

/-- No interval is complete yet. -/
structure Empty (e : Estimate) : Prop where
  samples : e.samples = 0
  fraction : e.fraction = 0
  spend : e.spend = 0
  capacity : e.capacity = none
  low : e.low = none
  high : e.high = none
  confidence : e.confidence = 0
  lastMeasured : e.lastMeasuredAt = none

/-- Some interval is complete, and the ratio is published. -/
structure Measured (e : Estimate) : Prop where
  samples : 0 < e.samples
  fraction : 0 < e.fraction
  spend : 0 < e.spend
  capacity : e.capacity = some (Ratio.nearest (fractionScale * e.spend) e.fraction)
  bounds : Bounded e.spend e.fraction e.low e.high
  share : Share e.high e.confidence
  lastMeasured : ∃ t, e.lastMeasuredAt = some t ∧ 0 < t

def Sound (e : Estimate) : Prop := e.Empty ∨ e.Measured

/-- What a reader of the published values relies on. -/
structure Consistent (e : Estimate) : Prop where
  low_le_capacity : ∀ l ∈ e.low, ∀ c ∈ e.capacity, l ≤ c
  capacity_le_high : ∀ c ∈ e.capacity, ∀ h ∈ e.high, c ≤ h
  low_le_high : ∀ l ∈ e.low, ∀ h ∈ e.high, l ≤ h
  /-- There is no bound without a capacity. -/
  published : e.capacity = none → e.low = none ∧ e.high = none
  /-- The evidence is completely empty, or completely measured. -/
  evidence : e.Empty ∨ 0 < e.samples ∧ 0 < e.fraction ∧ 0 < e.spend ∧
    e.capacity.isSome ∧ e.low.isSome ∧ e.lastMeasuredAt.isSome
  unproved : e.high = none → e.confidence = 0

variable {e : Estimate}

theorem Sound.sums_nonneg (h : e.Sound) : 0 ≤ e.samples ∧ 0 ≤ e.fraction ∧ 0 ≤ e.spend := by
  rcases h with he | hm
  · have := he.samples
    have := he.fraction
    have := he.spend
    omega
  · have := hm.samples
    have := hm.fraction
    have := hm.spend
    omega

theorem Sound.share (h : e.Sound) : Share e.high e.confidence := by
  rcases h with he | hm
  · rw [he.confidence]
    exact ⟨Int.le_refl 0, by decide, fun _ => rfl⟩
  · exact hm.share

theorem Sound.amounts (h : e.Sound) :
    (∀ c ∈ e.capacity, 0 ≤ c) ∧ (∀ l ∈ e.low, 0 ≤ l) ∧ ∀ b ∈ e.high, 0 ≤ b := by
  rcases h with he | hm
  · rw [he.capacity, he.low, he.high]
    simp
  · obtain ⟨hnonneg, ⟨l, hl, hlnonneg, hle⟩, hge⟩ := hm.bounds.ordered hm.spend hm.fraction rfl
    rw [hm.capacity, hl]
    refine ⟨by simpa using hnonneg, by simpa using hlnonneg, fun b hb => ?_⟩
    have := hge b hb
    omega

theorem Sound.consistent (h : e.Sound) : e.Consistent := by
  rcases h with he | hm
  · exact {
      low_le_capacity := by simp [he.low]
      capacity_le_high := by simp [he.capacity]
      low_le_high := by simp [he.low]
      published := fun _ => ⟨he.low, he.high⟩
      evidence := .inl he
      unproved := fun _ => he.confidence }
  · obtain ⟨-, ⟨l, hl, -, hle⟩, hge⟩ := hm.bounds.ordered hm.spend hm.fraction rfl
    have hcapacity := hm.capacity
    obtain ⟨t, ht, -⟩ := hm.lastMeasured
    exact {
      low_le_capacity := by simpa [hl, hcapacity] using hle
      capacity_le_high := by simpa [hcapacity] using hge
      low_le_high := fun l' hl' b hb => by
        rw [hl] at hl'
        cases hl'
        exact Int.le_trans hle (hge b hb)
      published := fun hnone => by rw [hcapacity] at hnone; cases hnone
      evidence := .inr ⟨hm.samples, hm.fraction, hm.spend, by simp [hcapacity],
        by simp [hl], by simp [ht]⟩
      unproved := hm.share.unproved }

theorem Sound.lastMeasured_pos (h : e.Sound) : ∀ t ∈ e.lastMeasuredAt, 0 < t := by
  rcases h with he | hm
  · simp [he.lastMeasured]
  · obtain ⟨t, ht, hpos⟩ := hm.lastMeasured
    simpa [ht] using hpos

theorem Sound.before (h : e.Sound) :
    e.samples = 0 ∧ e.spend = 0 ∧ e.fraction = 0 ∧ e.low = none ∨
      0 < e.samples ∧ 0 ≤ e.fraction ∧ Bounded e.spend e.fraction e.low e.high := by
  rcases h with he | hm
  · exact .inl ⟨he.samples, he.spend, he.fraction, he.low⟩
  · exact .inr ⟨hm.samples, Int.le_of_lt hm.fraction, hm.bounds⟩

def add (e : Estimate) (deltaUsed deltaSpend : Int) (low high : Option Int)
    (confidence measuredAt : Int) : Estimate where
  samples := e.samples + 1
  fraction := e.fraction + deltaUsed
  spend := e.spend + deltaSpend
  capacity := some (Ratio.nearest (fractionScale * (e.spend + deltaSpend))
    (e.fraction + deltaUsed))
  low := low
  high := high
  confidence := confidence
  lastMeasuredAt := some measuredAt

theorem Sound.add (h : e.Sound) {deltaUsed deltaSpend confidence measuredAt : Int}
    {low high : Option Int} (hu : 0 < deltaUsed) (hs : 0 < deltaSpend)
    (hbounds : Bounded (e.spend + deltaSpend) (e.fraction + deltaUsed) low high)
    (hshare : Share high confidence) (ht : 0 < measuredAt) :
    (e.add deltaUsed deltaSpend low high confidence measuredAt).Sound := by
  have hnonneg := h.sums_nonneg
  right
  constructor
  · show 0 < e.samples + 1
    omega
  · show 0 < e.fraction + deltaUsed
    omega
  · show 0 < e.spend + deltaSpend
    omega
  · rfl
  · exact hbounds
  · exact hshare
  · exact ⟨measuredAt, rfl, ht⟩

end Estimate

end ApiToken.Calibration
