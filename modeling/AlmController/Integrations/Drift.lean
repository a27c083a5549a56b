import AlmController.Integrations.Lending

/-!
# Drift

An Integration that lends tokens of a Reserve in a Drift spot market, on a
sub-account of the Controller.
-/

namespace AlmController

open Prog

variable [Chain]

/-! ## Addresses (`pdas.rs`) -/

def driftUserSeeds (controllerAuthority : Pubkey) (subAccountId : UInt16) : List (List UInt8) :=
  [asciiBytes "user", controllerAuthority.bytes, u16Bytes subAccountId]

def driftSpotMarketSeeds (marketIndex : UInt16) : List (List UInt8) :=
  [asciiBytes "spot_market", u16Bytes marketIndex]

def driftSpotMarketVaultSeeds (marketIndex : UInt16) : List (List UInt8) :=
  [asciiBytes "spot_market_vault", u16Bytes marketIndex]

def driftUserStatsSeeds (authority : Pubkey) : List (List UInt8) :=
  [asciiBytes "user_stats", authority.bytes]

def driftStateSeeds : List (List UInt8) := [asciiBytes "drift_state"]

/-! ## Configuration and state -/

/-- The configuration, when it is one of this protocol. -/
def IntegrationConfig.drift? : IntegrationConfig → Option DriftConfig
  | .Drift config => some config
  | _ => none

/-- The state, when it is one of this protocol. -/
def IntegrationState.drift? : IntegrationState → Option LendingState
  | .Drift state => some state
  | _ => none

/-- `DriftConfig::check_accounts`: the Integration is not used for another user or
    market. -/
def DriftConfig.checkAccounts (self : DriftConfig) (controllerAuthority driftUser : Pubkey)
    (spotMarketIndex : UInt16) : Except Error Unit := do
  let driftUserPda ← deriveAddress (driftUserSeeds controllerAuthority self.subAccountId)
    DRIFT_PROGRAM_ID
  check (driftUserPda ≠ driftUser) (.program .InvalidAccountData)
  check (spotMarketIndex ≠ self.spotMarketIndex) (.program .InvalidInstructionData)

/-- Store a new balance; an Integration in another state is refused. -/
def Integration.setDriftBalance (self : Integration) (balance : UInt64) :
    Except Error Integration := do
  let state ← okOr self.state.drift? (.program .InvalidAccountData)
  return { self with state := .Drift { state with balance := balance } }

/-! ## The value of a position -/

/-- `get_drift_lending_balance`, with the interest accrued so far. -/
def getDriftLendingBalance (spotMarketState : SpotMarket) (user : Pubkey) : Ix UInt64 := do
  let userState ← readData user ExtData.driftUser?
  match userState.spotPositions.toList.find? fun pos =>
      pos.marketIndex = spotMarketState.marketIndex with
  | some pos =>
    ofExcept (spotMarketState.getTokenAmount pos.scaledBalance.toNat pos.balanceType)
  | none => return 0

/-- `sync_drift_balance`. -/
def syncDriftBalance (controller : Controller) (integration : Integration)
    (integrationPubkey controllerPubkey controllerAuthority spotMarket user : Pubkey) :
    Ix UInt64 := do
  let state ← ofOption integration.state.drift? (.program .InvalidAccountData)
  let spotMarketState ← readData spotMarket ExtData.spotMarket?
  let newBalance ← getDriftLendingBalance spotMarketState user
  emitLendingBalanceSyncEvent controller integrationPubkey controllerPubkey controllerAuthority
    spotMarketState.mint state.balance newBalance
  return newBalance

/-- `find_spot_market_and_oracle_account_info_by_id`. -/
def findSpotMarketAndOracle (accountInfos : List AccountMeta) (marketIndex : UInt16) :
    Ix (AccountMeta × AccountMeta) := do
  let spotMarketPubkey ← ofExcept
    (deriveAddress (driftSpotMarketSeeds marketIndex) DRIFT_PROGRAM_ID)
  let spotMarketInfo ← ofOption (accountInfos.find? fun acct => acct.pubkey = spotMarketPubkey)
    (.program .NotEnoughAccountKeys)
  let spotMarket ← readData spotMarketInfo.pubkey ExtData.spotMarket?
  let oracleInfo ← ofOption (accountInfos.find? fun acct => acct.pubkey = spotMarket.oracle)
    (.program .NotEnoughAccountKeys)
  return (spotMarketInfo, oracleInfo)

/-! ## Initialize -/

structure InitializeDriftAccounts where
  mint : AccountMeta
  driftUser : AccountMeta
  driftUserStats : AccountMeta
  driftState : AccountMeta
  driftSpotMarket : AccountMeta
  rent : AccountMeta
  driftProgram : AccountMeta

def InitializeDriftAccounts.specs : List AccountSpec :=
  [{ owner := some [TOKEN_PROGRAM_ID, TOKEN_2022_PROGRAM_ID] },
    { attrs := [.writable], owner := some [DRIFT_PROGRAM_ID, SYSTEM_PROGRAM_ID] },
    { attrs := [.writable], owner := some [DRIFT_PROGRAM_ID, SYSTEM_PROGRAM_ID] },
    { attrs := [.writable], owner := some [DRIFT_PROGRAM_ID] },
    { owner := some [DRIFT_PROGRAM_ID] },
    { pubkey := some [RENT_ID] },
    { pubkey := some [DRIFT_PROGRAM_ID] }]

def InitializeDriftAccounts.bind : List AccountMeta → Option InitializeDriftAccounts
  | mint :: driftUser :: driftUserStats :: driftState :: driftSpotMarket :: rent ::
      driftProgram :: _ =>
    some ⟨mint, driftUser, driftUserStats, driftState, driftSpotMarket, rent, driftProgram⟩
  | _ => none

/-- `InitializeDriftAccounts::checked_from_accounts`. -/
def InitializeDriftAccounts.checkedFromAccounts (accountInfos : List AccountMeta)
    (controllerAuthority : Pubkey) (subAccountId spotMarketIndex : UInt16) :
    Ix InitializeDriftAccounts := do
  let ctx ← fromAccounts specs bind accountInfos
  validateMintExtensions ctx.mint.pubkey []
  checkDerived ctx.driftUser (driftUserSeeds controllerAuthority subAccountId) DRIFT_PROGRAM_ID
  checkDerived ctx.driftUserStats (driftUserStatsSeeds controllerAuthority) DRIFT_PROGRAM_ID
  checkDerived ctx.driftState driftStateSeeds DRIFT_PROGRAM_ID
  checkDerived ctx.driftSpotMarket (driftSpotMarketSeeds spotMarketIndex) DRIFT_PROGRAM_ID
  return ctx

/-- The sub-account and market, when the arguments are those of this protocol. -/
def InitializeArgs.drift? : InitializeArgs → Option (UInt16 × UInt16)
  | .Drift subAccountId spotMarketIndex => some (subAccountId, spotMarketIndex)
  | _ => none

/-- Create the Drift user when the system program owns its address, else check that its
    pool is the market's. -/
def initializeDriftUser (outerCtx : InitializeIntegrationAccounts)
    (innerCtx : InitializeDriftAccounts) (subAccountId : UInt16) (spotMarket : SpotMarket)
    (controller : Controller) : Ix Unit := do
  let w ← read id
  if w.owner innerCtx.driftUser.pubkey = SYSTEM_PROGRAM_ID then do
    invokeSigned
      (.initializeUser innerCtx.driftUser.pubkey innerCtx.driftUserStats.pubkey
        innerCtx.driftState.pubkey outerCtx.controllerAuthority.pubkey outerCtx.payer.pubkey
        subAccountId 0)
      outerCtx.controller.pubkey controller
    onlyIf (spotMarket.poolId ≠ 0)
      (invokeSigned
        (.updateUserPoolId innerCtx.driftUser.pubkey outerCtx.controllerAuthority.pubkey
          subAccountId spotMarket.poolId)
        outerCtx.controller.pubkey controller)
  else do
    let user ← readData innerCtx.driftUser.pubkey ExtData.driftUser?
    rejectIf (user.poolId ≠ spotMarket.poolId) (.program .InvalidAccountData)

def processInitializeDrift (outerCtx : InitializeIntegrationAccounts)
    (outerArgs : InitializeIntegrationArgs) (controller : Controller) :
    Ix (IntegrationConfig × IntegrationState) := do
  let (subAccountId, spotMarketIndex) ← ofOption outerArgs.innerArgs.drift?
    (.program .InvalidArgument)
  let innerCtx ← InitializeDriftAccounts.checkedFromAccounts outerCtx.remainingAccounts
    outerCtx.controllerAuthority.pubkey subAccountId spotMarketIndex
  let spotMarket ← readData innerCtx.driftSpotMarket.pubkey ExtData.spotMarket?
  rejectIf (spotMarket.marketIndex ≠ spotMarketIndex) (.program .InvalidAccountData)
  rejectIf (spotMarket.mint ≠ innerCtx.mint.pubkey) (.program .InvalidAccountData)
  let w ← read id
  onlyIf (w.owner innerCtx.driftUserStats.pubkey = SYSTEM_PROGRAM_ID)
    (invokeSigned
      (.initializeUserStats innerCtx.driftUserStats.pubkey innerCtx.driftState.pubkey
        outerCtx.controllerAuthority.pubkey outerCtx.payer.pubkey)
      outerCtx.controller.pubkey controller)
  initializeDriftUser outerCtx innerCtx subAccountId spotMarket controller
  return (
    .Drift
      { subAccountId := subAccountId
        spotMarketIndex := spotMarketIndex
        poolId := spotMarket.poolId
        padding := 0 },
    .Drift { balance := 0, padding := 0 })

/-! ## Push -/

structure PushDriftAccounts where
  state : AccountMeta
  user : AccountMeta
  userStats : AccountMeta
  spotMarketVault : AccountMeta
  reserveVault : AccountMeta
  tokenProgram : AccountMeta
  driftProgram : AccountMeta
  remainingAccounts : List AccountMeta

def PushDriftAccounts.specs : List AccountSpec :=
  [{ owner := some [DRIFT_PROGRAM_ID] },
    { attrs := [.writable], owner := some [DRIFT_PROGRAM_ID] },
    { attrs := [.writable], owner := some [DRIFT_PROGRAM_ID] },
    { attrs := [.writable], owner := some [TOKEN_PROGRAM_ID, TOKEN_2022_PROGRAM_ID] },
    { attrs := [.writable], owner := some [TOKEN_PROGRAM_ID, TOKEN_2022_PROGRAM_ID] },
    { pubkey := some [TOKEN_PROGRAM_ID, TOKEN_2022_PROGRAM_ID] },
    { pubkey := some [DRIFT_PROGRAM_ID] }]

def PushDriftAccounts.bind : List AccountMeta → Option PushDriftAccounts
  | state :: user :: userStats :: spotMarketVault :: reserveVault :: tokenProgram ::
      driftProgram :: remainingAccounts =>
    some ⟨state, user, userStats, spotMarketVault, reserveVault, tokenProgram, driftProgram,
      remainingAccounts⟩
  | _ => none

/-- `PushDriftAccounts::checked_from_accounts`. -/
def PushDriftAccounts.checkedFromAccounts (config : IntegrationConfig) (outerCtx : PushAccounts)
    (spotMarketIndex : UInt16) : Ix PushDriftAccounts := do
  let ctx ← fromAccounts specs bind outerCtx.remainingAccounts
  let config ← ofOption config.drift? (.program .InvalidAccountData)
  ofExcept (config.checkAccounts outerCtx.controllerAuthority.pubkey ctx.user.pubkey
    spotMarketIndex)
  checkDerived ctx.state driftStateSeeds DRIFT_PROGRAM_ID
  checkDerived ctx.userStats (driftUserStatsSeeds outerCtx.controllerAuthority.pubkey)
    DRIFT_PROGRAM_ID
  checkDerived ctx.spotMarketVault (driftSpotMarketVaultSeeds spotMarketIndex) DRIFT_PROGRAM_ID
  return ctx

/-- The market and the amount, when the arguments are those of this protocol. -/
def PushArgs.drift? : PushArgs → Option (UInt16 × UInt64)
  | .Drift spotMarketIndex amount => some (spotMarketIndex, amount)
  | _ => none

def processPushDrift (controller : Controller) (permission : Permission)
    (integration : Integration) (reserve : Reserve) (outerCtx : PushAccounts)
    (outerArgs : PushArgs) : Ix (Integration × Reserve) := do
  let (spotMarketIndex, amount) ← ofOption outerArgs.drift? (.program .InvalidArgument)
  rejectIf (amount = 0) (.program .InvalidArgument)
  rejectIf (¬ permission.mayReallocate) (.program .IncorrectAuthority)
  let innerCtx ← PushDriftAccounts.checkedFromAccounts integration.config outerCtx spotMarketIndex
  -- Sync the reserve balance before doing anything else.
  let synced ← reserve.syncBalance innerCtx.reserveVault outerCtx.controllerAuthority.pubkey
    outerCtx.controller.pubkey controller
  let (spotMarketInfo, oracleInfo) ← findSpotMarketAndOracle innerCtx.remainingAccounts
    spotMarketIndex
  invoke (.updateSpotMarketCumulativeInterest innerCtx.state.pubkey spotMarketInfo.pubkey
    oracleInfo.pubkey innerCtx.spotMarketVault.pubkey)
  let _ ← syncDriftBalance controller integration outerCtx.integration.pubkey
    outerCtx.controller.pubkey outerCtx.controllerAuthority.pubkey spotMarketInfo.pubkey
    innerCtx.user.pubkey
  let reserveVaultBefore ← TokenAccount.fromAccountInfo innerCtx.reserveVault.pubkey
  let spotMarketVaultBefore ← TokenAccount.fromAccountInfo innerCtx.spotMarketVault.pubkey
  invokeSigned
    (.driftDeposit
      { state := innerCtx.state.pubkey
        user := innerCtx.user.pubkey
        userStats := innerCtx.userStats.pubkey
        authority := outerCtx.controllerAuthority.pubkey
        spotMarketVault := innerCtx.spotMarketVault.pubkey
        userTokenAccount := innerCtx.reserveVault.pubkey
        tokenProgram := innerCtx.tokenProgram.pubkey
        remainingAccounts := innerCtx.remainingAccounts.map AccountMeta.pubkey
        marketIndex := spotMarketIndex
        amount := amount
        -- borrows are not supported, so this never pays one down
        reduceOnly := false })
    outerCtx.controller.pubkey controller
  let reserveVaultAfter ← TokenAccount.fromAccountInfo innerCtx.reserveVault.pubkey
  let reserveVaultBalanceDelta ← ofOption
    (reserveVaultBefore.amount.checkedSub reserveVaultAfter.amount) (.panic .unwrap)
  rejectIf (reserveVaultBalanceDelta ≠ amount) (.program .InvalidArgument)
  let spotMarketVaultAfter ← TokenAccount.fromAccountInfo innerCtx.spotMarketVault.pubkey
  let liquidityValueDelta ← ofOption
    (spotMarketVaultAfter.amount.checkedSub spotMarketVaultBefore.amount) (.panic .unwrap)
  emitEvent controller outerCtx.controllerAuthority.pubkey outerCtx.controller.pubkey
    (integrationEvent outerCtx.controller.pubkey outerCtx.integration.pubkey
      reserveVaultAfter.mint .Deposit liquidityValueDelta .Credit)
  emitEvent controller outerCtx.controllerAuthority.pubkey outerCtx.controller.pubkey
    (reserveEvent outerCtx.controller.pubkey outerCtx.reserveA.pubkey reserveVaultAfter.mint
      .Deposit reserveVaultBalanceDelta .Debit)
  let _ ← ofOption integration.state.drift? (.program .InvalidAccountData)
  let spotMarketState ← readData spotMarketInfo.pubkey ExtData.spotMarket?
  let balance ← getDriftLendingBalance spotMarketState innerCtx.user.pubkey
  let deposited ← ofExcept (integration.setDriftBalance balance)
  let clock ← read World.clock
  let deposited ← deposited.recordOutflow clock reserveVaultBalanceDelta
  let reserve ← synced.recordOutflow clock reserveVaultBalanceDelta false
  return (deposited, reserve)

/-! ## Pull -/

structure PullDriftAccounts where
  state : AccountMeta
  user : AccountMeta
  userStats : AccountMeta
  spotMarketVault : AccountMeta
  driftSigner : AccountMeta
  reserveVault : AccountMeta
  tokenProgram : AccountMeta
  driftProgram : AccountMeta
  remainingAccounts : List AccountMeta

def PullDriftAccounts.specs : List AccountSpec :=
  [{ owner := some [DRIFT_PROGRAM_ID] },
    { attrs := [.writable], owner := some [DRIFT_PROGRAM_ID] },
    { attrs := [.writable], owner := some [DRIFT_PROGRAM_ID] },
    { attrs := [.writable], owner := some [TOKEN_PROGRAM_ID, TOKEN_2022_PROGRAM_ID] },
    {},
    { attrs := [.writable], owner := some [TOKEN_PROGRAM_ID, TOKEN_2022_PROGRAM_ID] },
    { pubkey := some [TOKEN_PROGRAM_ID, TOKEN_2022_PROGRAM_ID] },
    { pubkey := some [DRIFT_PROGRAM_ID] }]

def PullDriftAccounts.bind : List AccountMeta → Option PullDriftAccounts
  | state :: user :: userStats :: spotMarketVault :: driftSigner :: reserveVault ::
      tokenProgram :: driftProgram :: remainingAccounts =>
    some ⟨state, user, userStats, spotMarketVault, driftSigner, reserveVault, tokenProgram,
      driftProgram, remainingAccounts⟩
  | _ => none

/-- `PullDriftAccounts::checked_from_accounts`. -/
def PullDriftAccounts.checkedFromAccounts (config : IntegrationConfig) (outerCtx : PushAccounts)
    (spotMarketIndex : UInt16) : Ix PullDriftAccounts := do
  let ctx ← fromAccounts specs bind outerCtx.remainingAccounts
  let config ← ofOption config.drift? (.program .InvalidAccountData)
  ofExcept (config.checkAccounts outerCtx.controllerAuthority.pubkey ctx.user.pubkey
    spotMarketIndex)
  checkDerived ctx.state driftStateSeeds DRIFT_PROGRAM_ID
  checkDerived ctx.userStats (driftUserStatsSeeds outerCtx.controllerAuthority.pubkey)
    DRIFT_PROGRAM_ID
  checkDerived ctx.spotMarketVault (driftSpotMarketVaultSeeds spotMarketIndex) DRIFT_PROGRAM_ID
  return ctx

/-- The market and the amount, when the arguments are those of this protocol. -/
def PullArgs.drift? : PullArgs → Option (UInt16 × UInt64)
  | .Drift spotMarketIndex amount => some (spotMarketIndex, amount)
  | _ => none

def processPullDrift (controller : Controller) (permission : Permission)
    (integration : Integration) (reserve : Reserve) (outerCtx : PushAccounts)
    (outerArgs : PullArgs) : Ix (Integration × Reserve) := do
  let (spotMarketIndex, amount) ← ofOption outerArgs.drift? (.program .InvalidArgument)
  rejectIf (amount = 0) (.program .InvalidArgument)
  rejectIf (¬ permission.mayReallocate ∧ ¬ permission.mayLiquidate integration)
    (.program .IncorrectAuthority)
  let innerCtx ← PullDriftAccounts.checkedFromAccounts integration.config outerCtx spotMarketIndex
  -- Sync the reserve balance before doing anything else.
  let synced ← reserve.syncBalance innerCtx.reserveVault outerCtx.controllerAuthority.pubkey
    outerCtx.controller.pubkey controller
  let (spotMarketInfo, oracleInfo) ← findSpotMarketAndOracle innerCtx.remainingAccounts
    spotMarketIndex
  invoke (.updateSpotMarketCumulativeInterest innerCtx.state.pubkey spotMarketInfo.pubkey
    oracleInfo.pubkey innerCtx.spotMarketVault.pubkey)
  let _ ← syncDriftBalance controller integration outerCtx.integration.pubkey
    outerCtx.controller.pubkey outerCtx.controllerAuthority.pubkey spotMarketInfo.pubkey
    innerCtx.user.pubkey
  let spotMarketVaultBefore ← TokenAccount.fromAccountInfo innerCtx.spotMarketVault.pubkey
  invokeSigned
    (.driftWithdraw
      { state := innerCtx.state.pubkey
        user := innerCtx.user.pubkey
        userStats := innerCtx.userStats.pubkey
        authority := outerCtx.controllerAuthority.pubkey
        spotMarketVault := innerCtx.spotMarketVault.pubkey
        userTokenAccount := innerCtx.reserveVault.pubkey
        tokenProgram := innerCtx.tokenProgram.pubkey
        remainingAccounts := innerCtx.remainingAccounts.map AccountMeta.pubkey
        marketIndex := spotMarketIndex
        amount := amount
        -- never withdraw more than was deposited
        reduceOnly := true }
      innerCtx.driftSigner.pubkey)
    outerCtx.controller.pubkey controller
  let reserveVaultAfter ← TokenAccount.fromAccountInfo innerCtx.reserveVault.pubkey
  let netInflow := reserveVaultAfter.amount.saturatingSub synced.lastBalance
  let spotMarketVaultAfter ← TokenAccount.fromAccountInfo innerCtx.spotMarketVault.pubkey
  let spotMarketVaultDelta :=
    spotMarketVaultBefore.amount.saturatingSub spotMarketVaultAfter.amount
  emitEvent controller outerCtx.controllerAuthority.pubkey outerCtx.controller.pubkey
    (integrationEvent outerCtx.controller.pubkey outerCtx.integration.pubkey
      reserveVaultAfter.mint .Withdrawal spotMarketVaultDelta .Debit)
  emitEvent controller outerCtx.controllerAuthority.pubkey outerCtx.controller.pubkey
    (reserveEvent outerCtx.controller.pubkey outerCtx.reserveA.pubkey reserveVaultAfter.mint
      .Withdrawal netInflow .Credit)
  let _ ← ofOption integration.state.drift? (.program .InvalidAccountData)
  let spotMarketState ← readData spotMarketInfo.pubkey ExtData.spotMarket?
  let balance ← getDriftLendingBalance spotMarketState innerCtx.user.pubkey
  let withdrawn ← ofExcept (integration.setDriftBalance balance)
  let clock ← read World.clock
  let withdrawn ← withdrawn.recordInflow clock netInflow
  let reserve ← synced.recordInflow clock netInflow
  return (withdrawn, reserve)

/-! ## Sync -/

structure SyncDriftAccounts where
  state : AccountMeta
  spotMarketVault : AccountMeta
  spotMarket : AccountMeta
  spotMarketOracle : AccountMeta
  user : AccountMeta
  driftProgram : AccountMeta

def SyncDriftAccounts.specs : List AccountSpec :=
  [{ owner := some [DRIFT_PROGRAM_ID] },
    { owner := some [TOKEN_PROGRAM_ID, TOKEN_2022_PROGRAM_ID] },
    { attrs := [.writable], owner := some [DRIFT_PROGRAM_ID] },
    {},
    { owner := some [DRIFT_PROGRAM_ID] },
    { pubkey := some [DRIFT_PROGRAM_ID] }]

def SyncDriftAccounts.bind : List AccountMeta → Option SyncDriftAccounts
  | state :: spotMarketVault :: spotMarket :: spotMarketOracle :: user :: driftProgram :: _ =>
    some ⟨state, spotMarketVault, spotMarket, spotMarketOracle, user, driftProgram⟩
  | _ => none

/-- `SyncDriftAccounts::checked_from_accounts`. -/
def SyncDriftAccounts.checkedFromAccounts (config : IntegrationConfig)
    (controllerAuthority : Pubkey) (accountInfos : List AccountMeta) : Ix SyncDriftAccounts := do
  let ctx ← fromAccounts specs bind accountInfos
  let config ← ofOption config.drift? (.program .InvalidAccountData)
  checkDerived ctx.spotMarketVault (driftSpotMarketVaultSeeds config.spotMarketIndex)
    DRIFT_PROGRAM_ID
  checkDerived ctx.spotMarket (driftSpotMarketSeeds config.spotMarketIndex) DRIFT_PROGRAM_ID
  checkDerived ctx.user (driftUserSeeds controllerAuthority config.subAccountId) DRIFT_PROGRAM_ID
  let spotMarket ← readData ctx.spotMarket.pubkey ExtData.spotMarket?
  rejectIf (spotMarket.oracle ≠ ctx.spotMarketOracle.pubkey)
    (SvmAlmControllerErrors.InvalidAccountData : Error)
  return ctx

def processSyncDrift (controller : Controller) (integration : Integration)
    (outerCtx : SyncIntegrationAccounts) : Ix Integration := do
  let innerCtx ← SyncDriftAccounts.checkedFromAccounts integration.config
    outerCtx.controllerAuthority.pubkey outerCtx.remainingAccounts
  invoke (.updateSpotMarketCumulativeInterest innerCtx.state.pubkey innerCtx.spotMarket.pubkey
    innerCtx.spotMarketOracle.pubkey innerCtx.spotMarketVault.pubkey)
  let newBalance ← syncDriftBalance controller integration outerCtx.integration.pubkey
    outerCtx.controller.pubkey outerCtx.controllerAuthority.pubkey innerCtx.spotMarket.pubkey
    innerCtx.user.pubkey
  ofExcept (integration.setDriftBalance newBalance)

end AlmController
