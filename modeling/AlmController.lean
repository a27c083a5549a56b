import AlmController.State.Controller
import AlmController.State.Integration
import AlmController.State.Oracle
import AlmController.State.Reserve
import AlmController.External
import AlmController.World
import AlmController.Token
import AlmController.Shared
import AlmController.Ledger
import AlmController.Metering
import AlmController.Instructions
import AlmController.Introspection
import AlmController.Processor.Governance
import AlmController.Processor.Oracle
import AlmController.Processor.Reserve
import AlmController.Integrations.CctpBridge
import AlmController.Integrations.SplTokenExternal
import AlmController.Integrations.LzBridge
import AlmController.Integrations.AtomicSwap
import AlmController.Integrations.Kamino
import AlmController.Entrypoint
import AlmController.Lib.Trace
import AlmController.Transaction
import AlmController.Spec.Limiter
import AlmController.Spec.Flow
import AlmController.Spec.Parts
import AlmController.Spec.Protocol
import AlmController.Spec.Lending
import AlmController.Spec.Push
import AlmController.Spec.Pull
import AlmController.Spec.Sync
import AlmController.Spec.Access
import AlmController.Spec.Introspection
import AlmController.Spec.Borrow
import AlmController.Spec.Repay
import AlmController.Spec.Change
import AlmController.Spec.Governance
import AlmController.Spec.Integration
import AlmController.Spec.Oracle
import AlmController.Spec.Reserve
import AlmController.Spec.Swap
import AlmController.Spec.Effect
import AlmController.Spec.Sound
import AlmController.Spec.Metered
import AlmController.Theorems.OutflowBound
import AlmController.Lib.Bucket
import AlmController.Spec.Accrual
import AlmController.Theorems.RefreshSchedule
import AlmController.Lib.Rounding
import AlmController.Theorems.KaminoConversions
import AlmController.Lib.Tlv
import AlmController.Spec.Extensions
import AlmController.Theorems.MintExtensions
import AlmController.Spec.Price
import AlmController.Theorems.NonPositivePrice
import AlmController.Theorems.NeverOrphaned
import AlmController.Theorems.NoEscalation
import AlmController.Spec.Schedule
import AlmController.Theorems.LzProtocol
import AlmController.Theorems.Frozen
import AlmController.Theorems.LimiterInvariant
import AlmController.Theorems.MaxOutflow
import AlmController.Execution
import AlmController.Simulator
import AlmController.Theorems.OracleStaleness
import AlmController.Theorems.FundMovements
import AlmController.Spec.AtomicSwap
import AlmController.Theorems.AtomicSwapSafety
import AlmController.Theorems.SwapPrice
import AlmController.Spec.Settled
import AlmController.Spec.Errors
import AlmController.Theorems.SwapNetEffect
import AlmController.Theorems.CeilingDivision
import AlmController.Theorems.SwapPriceRounding
import AlmController.Codec
import AlmController.Theorems.AccountCodec
import AlmController.Spec.Underflow
import AlmController.Theorems.VaultTracking
import AlmController.Spec.Reported
import AlmController.Theorems.ReserveLedger
import AlmController.Theorems.LendingLedger
import AlmController.Simulator.Drift
import AlmController.Lib.Follows
import AlmController.Spec.Written
import AlmController.Spec.Destination
import AlmController.Lib.Replay
import AlmController.Spec.Deed
import AlmController.Spec.Deeds
import AlmController.Spec.SwapDeeds
import AlmController.Spec.GovernanceDeeds
import AlmController.Spec.Accounted
import AlmController.Spec.Settings
import AlmController.Theorems.AuditTrail
import AlmController.Theorems.Isolation
import AlmController.Theorems.Destinations
import AlmController.Theorems.PriceProvenance
import AlmController.Lib.BorshVec
import AlmController.Wire
import AlmController.Theorems.EventBytes
import AlmController.Spec.Enabled
import AlmController.Theorems.EmergencyBrake
import AlmController.Lib.Tank
import AlmController.Spec.Ideal
import AlmController.Theorems.IdealLimiter
import AlmController.CpiWire
import AlmController.Theorems.Resync
import AlmController.Theorems.SignedBytes
import AlmController.Theorems.Configurations
import AlmController.Spec.Reprice
