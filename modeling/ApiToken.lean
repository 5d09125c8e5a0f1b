import ApiToken.Registry.Conservation
import ApiToken.Registry.ExactlyOnce
import ApiToken.Registry.Delivery
import ApiToken.Registry.Winner
import ApiToken.Registry.Agreement
import ApiToken.Registry.Export
import ApiToken.Payout.AtMostOnce
import ApiToken.Payout.Covered
import ApiToken.Commerce.NetEffect
import ApiToken.Pricing.Replay
import ApiToken.Pricing.Confirmed
import ApiToken.Registry.Capacity
import ApiToken.Registry.Checkpoint
import ApiToken.Gemini.SentOnce
import ApiToken.Gemini.Coverage
import ApiToken.Gemini.Recovery
import ApiToken.Team.Authority
import ApiToken.Pool.Slots
import ApiToken.Pool.Spend
import ApiToken.Pool.AuthDeath
import ApiToken.Meter.Streaming
import ApiToken.Gemini.Splice
import ApiToken.Gemini.Progress
import ApiToken.Gemini.Reports
import ApiToken.Body.Budget
import ApiToken.Tariff.Book
import ApiToken.Billing.OneOutcome
import ApiToken.Gemini.Settleable
import ApiToken.Gemini.Recorded
import ApiToken.Router.Fallback
import ApiToken.Calibration.RowsValid
import ApiToken.Calibration.Drain
import ApiToken.Affinity.Isolated
import ApiToken.Media.OneCreate
import ApiToken.History.Retention
import ApiToken.Turns.Quota
import ApiToken.Turns.Balance
import ApiToken.Credits.Attributed
import ApiToken.Schema.Translation
import ApiToken.Pool.LiveUtil
import ApiToken.Meter.Cost
import ApiToken.Calibration.LedgerTruth
import ApiToken.Registry.HotBatch
import ApiToken.Registry.TopupOnce
import ApiToken.Forward.Persona
import ApiToken.Forward.Rotation
import ApiToken.Forward.LeaseIds
import ApiToken.Forward.Cooldowns
import ApiToken.Forward.Health
import ApiToken.Router.Selectors
import ApiToken.Router.Single
import ApiToken.Body.Storage
import ApiToken.Affinity.Transcript
import ApiToken.Forward.Secrets
import ApiToken.Team.Conserved
import ApiToken.Forward.SseAccounting
import ApiToken.Media.SunoDrain
import ApiToken.Forward.KimiSelection
import ApiToken.Gemini.Crypto
