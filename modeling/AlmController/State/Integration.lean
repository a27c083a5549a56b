import AlmController.State.RateLimit
import AlmController.State.Controller

/-!
# Integration

The configuration and the state of the six kinds of integration, and the account
that holds them. The configuration also has its Borsh encoding here: the hash of
that encoding is a seed of the account's address.
-/

namespace AlmController

open Prog

/-! ## Configurations -/

structure SplTokenExternalConfig where
  program : Pubkey
  mint : Pubkey
  recipient : Pubkey
  tokenAccount : Pubkey
  padding : ByteArr 96
  deriving DecidableEq, Repr

structure CctpBridgeConfig where
  cctpTokenMessengerMinter : Pubkey
  cctpMessageTransmitter : Pubkey
  mint : Pubkey
  destinationAddress : Pubkey
  destinationDomain : UInt32
  padding : ByteArr 92
  deriving DecidableEq, Repr

structure LzBridgeConfig where
  program : Pubkey
  mint : Pubkey
  oftStore : Pubkey
  peerConfig : Pubkey
  oftTokenEscrow : Pubkey
  destinationAddress : Pubkey
  destinationEid : UInt32
  padding : ByteArr 28
  deriving DecidableEq, Repr

structure AtomicSwapConfig where
  inputToken : Pubkey
  outputToken : Pubkey
  oracle : Pubkey
  /-- Max allowed staleness of the oracle's last update slot from the clock slot. -/
  maxStaleness : UInt64
  expiryTimestamp : Int64
  maxSlippageBps : UInt16
  inputMintDecimals : UInt8
  outputMintDecimals : UInt8
  oraclePriceInverted : Bool
  padding : ByteArr 107
  deriving DecidableEq, Repr

structure DriftConfig where
  subAccountId : UInt16
  spotMarketIndex : UInt16
  poolId : UInt8
  padding : ByteArr 219
  deriving DecidableEq, Repr

structure KaminoConfig where
  market : Pubkey
  reserve : Pubkey
  reserveLiquidityMint : Pubkey
  obligation : Pubkey
  obligationId : UInt8
  padding : ByteArr 95
  deriving DecidableEq, Repr

inductive IntegrationConfig
  | Undefined (padding : ByteArr 224)
  | SplTokenExternal (config : SplTokenExternalConfig)
  | CctpBridge (config : CctpBridgeConfig)
  | LzBridge (config : LzBridgeConfig)
  | AtomicSwap (config : AtomicSwapConfig)
  | Drift (config : DriftConfig)
  | Kamino (config : KaminoConfig)
  deriving DecidableEq, Repr

instance : Borsh SplTokenExternalConfig :=
  Borsh.record (fun c => (c.program, c.mint, c.recipient, c.tokenAccount, c.padding))
    (fun (a, b, c, d, e) => ⟨a, b, c, d, e⟩) (fun _ => rfl) (fun _ => rfl)

instance : Borsh CctpBridgeConfig :=
  Borsh.record
    (fun c => (c.cctpTokenMessengerMinter, c.cctpMessageTransmitter, c.mint,
      c.destinationAddress, c.destinationDomain, c.padding))
    (fun (a, b, c, d, e, f) => ⟨a, b, c, d, e, f⟩) (fun _ => rfl) (fun _ => rfl)

instance : Borsh LzBridgeConfig :=
  Borsh.record
    (fun c => (c.program, c.mint, c.oftStore, c.peerConfig, c.oftTokenEscrow,
      c.destinationAddress, c.destinationEid, c.padding))
    (fun (a, b, c, d, e, f, g, h) => ⟨a, b, c, d, e, f, g, h⟩) (fun _ => rfl) (fun _ => rfl)

instance : Borsh AtomicSwapConfig :=
  Borsh.record
    (fun c => (c.inputToken, c.outputToken, c.oracle, c.maxStaleness, c.expiryTimestamp,
      c.maxSlippageBps, c.inputMintDecimals, c.outputMintDecimals, c.oraclePriceInverted,
      c.padding))
    (fun (a, b, c, d, e, f, g, h, i, j) => ⟨a, b, c, d, e, f, g, h, i, j⟩)
    (fun _ => rfl) (fun _ => rfl)

instance : Borsh DriftConfig :=
  Borsh.record (fun c => (c.subAccountId, c.spotMarketIndex, c.poolId, c.padding))
    (fun (a, b, c, d) => ⟨a, b, c, d⟩) (fun _ => rfl) (fun _ => rfl)

instance : Borsh KaminoConfig :=
  Borsh.record
    (fun c => (c.market, c.reserve, c.reserveLiquidityMint, c.obligation, c.obligationId,
      c.padding))
    (fun (a, b, c, d, e, f) => ⟨a, b, c, d, e, f⟩) (fun _ => rfl) (fun _ => rfl)

/-- The variant's index, then its fields. -/
instance : Borsh IntegrationConfig where
  write
    | .Undefined p => 0 :: Borsh.write p
    | .SplTokenExternal c => 1 :: Borsh.write c
    | .CctpBridge c => 2 :: Borsh.write c
    | .LzBridge c => 3 :: Borsh.write c
    | .AtomicSwap c => 4 :: Borsh.write c
    | .Drift c => 5 :: Borsh.write c
    | .Kamino c => 6 :: Borsh.write c
  read
    | 0 :: bs => Borsh.readAs .Undefined bs
    | 1 :: bs => Borsh.readAs .SplTokenExternal bs
    | 2 :: bs => Borsh.readAs .CctpBridge bs
    | 3 :: bs => Borsh.readAs .LzBridge bs
    | 4 :: bs => Borsh.readAs .AtomicSwap bs
    | 5 :: bs => Borsh.readAs .Drift bs
    | 6 :: bs => Borsh.readAs .Kamino bs
    | _ => none
  read_write c rest := by
    cases c <;> simp only [List.cons_append, Borsh.readAs_write]
  write_read {bs c rest} h := by
    split at h
    case h_8 => cases h
    all_goals
      obtain ⟨a, rfl, rfl⟩ := Borsh.readAs_eq_some h
      rfl

/-! ## States -/

structure SplTokenExternalState where
  padding : ByteArr 48
  deriving DecidableEq, Repr

structure CctpBridgeState where
  padding : ByteArr 48
  deriving DecidableEq, Repr

structure LzBridgeState where
  /-- A LZ push is underway: set by Push, cleared by ResetLzPushInFlight, so that
      several pushes cannot precede one OFT Send. -/
  pushInFlight : Bool
  padding : ByteArr 47
  deriving DecidableEq, Repr

structure AtomicSwapState where
  /-- Amount of token a in the reserve before the borrow step. -/
  lastBalanceA : UInt64
  /-- Amount of token b in the reserve before the borrow step. -/
  lastBalanceB : UInt64
  /-- Amount of token a borrowed. -/
  amountBorrowed : UInt64
  /-- Recipient's token a account balance before the borrow. -/
  recipientTokenAPre : UInt64
  /-- Recipient's token b account balance before the borrow. -/
  recipientTokenBPre : UInt64
  padding : ByteArr 8
  deriving DecidableEq, Repr

structure LendingState where
  /-- The tokens the Controller has a claim on: the deposit plus any interest. -/
  balance : UInt64
  padding : ByteArr 40
  deriving DecidableEq, Repr

inductive IntegrationState
  | Undefined (padding : ByteArr 48)
  | SplTokenExternal (state : SplTokenExternalState)
  | CctpBridge (state : CctpBridgeState)
  | LzBridge (state : LzBridgeState)
  | AtomicSwap (state : AtomicSwapState)
  | Drift (state : LendingState)
  | Kamino (state : LendingState)
  deriving DecidableEq, Repr

namespace AtomicSwapState

def hasSwapStarted (self : AtomicSwapState) : Prop := 0 < self.amountBorrowed

instance (self : AtomicSwapState) : Decidable self.hasSwapStarted :=
  inferInstanceAs (Decidable (_ < _))

def reset (self : AtomicSwapState) : AtomicSwapState :=
  { self with
    lastBalanceA := 0
    lastBalanceB := 0
    amountBorrowed := 0
    recipientTokenAPre := 0
    recipientTokenBPre := 0 }

end AtomicSwapState

/-! ## The account -/

structure Integration extends RateLimit where
  controller : Pubkey
  description : ByteArr 32
  /-- Hash of the configuration, a seed of the account's address. -/
  hash : ByteArr 32
  status : IntegrationStatus
  config : IntegrationConfig
  state : IntegrationState
  /-- Enables the `canLiquidate` privilege of a Permission. -/
  permitLiquidation : Bool
  padding : ByteArr 87
  deriving DecidableEq, Repr

namespace Integration

/-- `check_data`. -/
def checkData (self : Integration) (controller : Pubkey) : Except Error Unit :=
  check (self.controller ≠ controller)
    (SvmAlmControllerErrors.ControllerDoesNotMatchAccountData : Error)

/-- `refresh_rate_limit`. -/
def refreshRateLimit (self : Integration) (clock : Clock) : Except Error Integration := do
  let limiter ← self.toRateLimit.refreshRateLimit clock
  return { self with toRateLimit := limiter }

/-- `update_rate_limit_for_inflow`. -/
def updateRateLimitForInflow (self : Integration) (clock : Clock) (inflow : UInt64) :
    Except Error Integration := do
  let limiter ← self.toRateLimit.inflow clock inflow
  return { self with toRateLimit := limiter }

/-- `update_rate_limit_for_outflow`, which never allows an underflow. -/
def updateRateLimitForOutflow (self : Integration) (clock : Clock) (outflow : UInt64) :
    Except Error Integration := do
  let limiter ← self.toRateLimit.outflow clock outflow false
  return { self with toRateLimit := limiter }

/-- The new value that `update_and_save` writes: what ManageIntegration changes. -/
def update (self : Integration) (clock : Clock) (status : Option IntegrationStatus)
    (description : Option (ByteArr 32)) (rateLimitSlope rateLimitMaxOutflow : Option UInt64) :
    Except Error Integration := do
  let limiter ← self.toRateLimit.updateLimits clock rateLimitSlope rateLimitMaxOutflow
  return { self with
    toRateLimit := limiter
    status := status.getD self.status
    description := description.getD self.description }

end Integration

/-- Whether the Permission may liquidate, Push or Pull, depending on the Integration. -/
def Permission.mayLiquidate (self : Permission) (integration : Integration) : Prop :=
  self.allows canLiquidate ∧ integration.permitLiquidation = true

instance (self : Permission) (integration : Integration) :
    Decidable (self.mayLiquidate integration) := inferInstanceAs (Decidable (_ ∧ _))

end AlmController
