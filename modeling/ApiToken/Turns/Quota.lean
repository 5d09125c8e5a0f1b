import ApiToken.Turns.Paired

/-!
# Quota polls of KIMI and GLM

A poll hands its snapshot to the writer only after its object was found
idle, with the epoch it began with, under the barrier that every delivery
takes, and after the FIFO drained. So the ledger beside the snapshot has
every metered turn of that object that the snapshot reflects, up to the
turns the delivery gave up. A turn that still holds a lease of another
object of the same subject is outside that check.
-/

namespace ApiToken.Turns

open World

/-- Beside a poll's snapshot stands a ledger that every metered turn in it
has reached: those of the polled object, and those of any other object that
no longer have a lease. Only a turn that was lost is missing. -/
def World.QuotaPaired (w : World) : Prop :=
  ∀ o ∈ w.delivery.observations, ∀ object, o.source = .poll object →
    ∀ t r, w.turns.find? t = some r → r.metered = true →
      (r.profile = object ∨ t ∉ o.held) → eventOf t r ∈ o.snapshot →
        eventOf t r ∈ o.ledger ∨ ∃ reason, (eventOf t r, reason) ∈ w.delivery.lost

theorem World.Paired.quota {plane : Plane} {w : World} (h : w.Paired plane) : w.QuotaPaired := by
  intro o ho object hsource t r hr hm hor hsnap
  have hpaired := h.observations o ho
  unfold Observation.Paired at hpaired
  rw [hsource] at hpaired
  obtain ⟨r', hr', -, hrest⟩ := hpaired.1 _ hsnap
  rw [show (eventOf t r).request = t from rfl, hr] at hr'
  cases hr'
  exact (hrest hor).2 hm

/-- In every run of either plane every poll's snapshot is paired so. -/
theorem quota_polls_are_paired (capacity : Nat) (events : List Event) :
    (runPlane kimi capacity events).QuotaPaired ∧ (runPlane glm capacity events).QuotaPaired :=
  ⟨(runPlane_paired kimi capacity events).quota, (runPlane_paired glm capacity events).quota⟩

/-- A turn of subject 7 that is counted, metered and handed over, with the
given outcome of its write; on `glm` the last write is the drain's. -/
def meteredTurn (write : Write) : List Event :=
  [.reload 0 7, .lease 1 0, .turn 1 ⟨true, write⟩, .count 1, .turn 1 ⟨true, write⟩,
    .turn 1 ⟨true, write⟩, .turn 1 ⟨true, write⟩, .turn 1 ⟨true, write⟩,
    .turn 1 ⟨true, write⟩, .turn 1 ⟨true, write⟩, .turn 1 ⟨true, write⟩]

def quietPoll : List Event :=
  .poll 1 0 :: List.replicate 12 (.pollStep 1 ⟨true, .durable⟩)

/-- A durable turn is in the ledger beside the next snapshot. -/
example : (runPlane kimi 4096 (meteredTurn .durable ++ quietPoll)).delivery.observations =
    [⟨.poll 0, 7, [⟨1, 7⟩], [⟨1, 7⟩], []⟩] := by
  decide +kernel

/-- A turn that was quarantined on a replay conflict is counted by the
provider, and no ledger will ever have it: not every metered turn of a
snapshot is in the ledger beside it. -/
theorem quarantined_turn_unpaired :
    ¬ ∀ plane ∈ [kimi, glm], ∀ (capacity : Nat) (events : List Event),
      ∀ o ∈ (runPlane plane capacity events).delivery.observations,
        ∀ object, o.source = .poll object →
        ∀ t r, (runPlane plane capacity events).turns.find? t = some r →
          r.metered = true → eventOf t r ∈ o.snapshot → eventOf t r ∈ o.ledger := by
  intro h
  have hin := h kimi (by decide) 4096 (meteredTurn .conflict ++ quietPoll)
    ⟨.poll 0, 7, [⟨1, 7⟩], [], []⟩ (by decide +kernel) 0 rfl 1
    ⟨0, 7, 1, true, none, .gone⟩ (by decide +kernel) rfl (by decide)
  exact absurd hin (by decide)

end ApiToken.Turns
