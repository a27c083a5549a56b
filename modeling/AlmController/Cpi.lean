import AlmController.External

/-!
# Cross-program invocations

One constructor for each instruction of another program that this one invokes,
with the accounts and arguments it is given, under the names of the source
(`integrations/*/cpi.rs` and the token, system and associated-token crates). What
an invocation does is decided by the program invoked, which is a parameter of the
model (`Chain.invoke`).
-/

namespace AlmController

/-- `TransferChecked` of either token program. -/
structure TransferChecked where
  fromAccount : Pubkey
  mint : Pubkey
  toAccount : Pubkey
  authority : Pubkey
  amount : UInt64
  decimals : UInt8
  tokenProgram : Pubkey
  deriving DecidableEq, Repr

/-- `CreateIdempotent` of the associated token program. -/
structure CreateIdempotent where
  fundingAccount : Pubkey
  account : Pubkey
  wallet : Pubkey
  mint : Pubkey
  systemProgram : Pubkey
  tokenProgram : Pubkey
  deriving DecidableEq, Repr

/-- CCTP `deposit_for_burn`. -/
structure DepositForBurn where
  controllerAuthority : Pubkey
  eventRentPayer : Pubkey
  senderAuthorityPda : Pubkey
  vault : Pubkey
  messageTransmitter : Pubkey
  tokenMessenger : Pubkey
  remoteTokenMessenger : Pubkey
  tokenMinter : Pubkey
  localToken : Pubkey
  burnTokenMint : Pubkey
  messageSentEventData : Pubkey
  eventAuthority : Pubkey
  tokenProgram : Pubkey
  amount : UInt64
  destinationDomain : UInt32
  mintRecipient : Pubkey
  deriving DecidableEq, Repr

/-- The accounts of klend's deposit and withdrawal, which name the reserve's vault
    `user_source_liquidity` and `user_liquidity_destination`. -/
structure KaminoLiquidityAccounts where
  owner : Pubkey
  obligation : Pubkey
  lendingMarket : Pubkey
  marketAuthority : Pubkey
  kaminoReserve : Pubkey
  reserveLiquidityMint : Pubkey
  reserveLiquiditySupply : Pubkey
  reserveCollateralMint : Pubkey
  reserveCollateralSupply : Pubkey
  userLiquidity : Pubkey
  collateralTokenProgram : Pubkey
  liquidityTokenProgram : Pubkey
  obligationFarmUserState : Pubkey
  reserveFarmState : Pubkey
  deriving DecidableEq, Repr

/-- klend `init_obligation`. -/
structure InitializeObligation where
  obligationOwner : Pubkey
  payer : Pubkey
  obligation : Pubkey
  lendingMarket : Pubkey
  ownerUserMetadata : Pubkey
  tag : UInt8
  id : UInt8
  deriving DecidableEq, Repr

/-- kfarms `harvest_reward`. -/
structure HarvestReward where
  owner : Pubkey
  userState : Pubkey
  farmState : Pubkey
  globalConfig : Pubkey
  rewardMint : Pubkey
  userRewardAta : Pubkey
  rewardsVault : Pubkey
  rewardsTreasuryVault : Pubkey
  farmVaultsAuthority : Pubkey
  scopePrices : Pubkey
  tokenProgram : Pubkey
  rewardIndex : Nat
  deriving DecidableEq, Repr

/-- The accounts and arguments of Drift's `deposit` and `withdraw`. -/
structure DriftTransfer where
  state : Pubkey
  user : Pubkey
  userStats : Pubkey
  authority : Pubkey
  spotMarketVault : Pubkey
  userTokenAccount : Pubkey
  tokenProgram : Pubkey
  remainingAccounts : List Pubkey
  marketIndex : UInt16
  amount : UInt64
  reduceOnly : Bool
  deriving DecidableEq, Repr

/-- An instruction of another program. -/
inductive Cpi
  -- system program
  | systemTransfer (source destination : Pubkey) (lamports : UInt64)
  | systemAllocate (account : Pubkey) (space : Nat)
  | systemAssign (account owner : Pubkey)
  | systemCreateAccount (source account : Pubkey) (lamports : UInt64) (space : Nat)
      (owner : Pubkey)
  -- token programs
  | transferChecked (ix : TransferChecked)
  | createIdempotent (ix : CreateIdempotent)
  -- CCTP
  | depositForBurn (ix : DepositForBurn)
  -- klend and kfarms
  | initializeUserMetadata (owner payer userMetadata referrerUserMetadata : Pubkey)
      (userLookupTable : Pubkey)
  | initializeObligation (ix : InitializeObligation)
  | initializeObligationFarmForReserve (payer owner obligation marketAuthority kaminoReserve
      reserveFarmState obligationFarm lendingMarket : Pubkey) (mode : UInt8)
  | refreshObligationAfterInit (lendingMarket obligation : Pubkey)
  | kaminoDeposit (accounts : KaminoLiquidityAccounts) (liquidityAmount : UInt64)
  | kaminoWithdraw (accounts : KaminoLiquidityAccounts) (collateralAmount : UInt64)
  | harvestReward (ix : HarvestReward)
  -- Drift
  | initializeUserStats (userStats state authority payer : Pubkey)
  | initializeUser (user userStats state authority payer : Pubkey) (subAccountId : UInt16)
      (name : ByteArr 32)
  | updateUserPoolId (user authority : Pubkey) (subAccountId : UInt16) (poolId : UInt8)
  | updateSpotMarketCumulativeInterest (state spotMarket oracle spotMarketVault : Pubkey)
  | driftDeposit (ix : DriftTransfer)
  | driftWithdraw (ix : DriftTransfer) (driftSigner : Pubkey)
  deriving DecidableEq, Repr

/-- The invocations that move tokens out of a vault or pull a position back. -/
def Cpi.movesFunds : Cpi → Bool
  | .transferChecked _ => true
  | .depositForBurn _ => true
  | .kaminoDeposit _ _ => true
  | .kaminoWithdraw _ _ => true
  | .driftDeposit _ => true
  | .driftWithdraw _ _ => true
  | _ => false

end AlmController
