import AlmController.Integrations.Lending

/-!
# Kamino

An Integration that lends tokens of a Reserve through klend. The deposit is held by
an obligation of the Controller; its value is computed here from klend's own state.
Sync also harvests the farm rewards of the deposit.
-/

namespace AlmController

open Prog

variable [Chain]

/-! ## Addresses (`pdas.rs`) -/

def VANILLA_OBLIGATION_TAG : UInt8 := 0
def OBLIGATION_FARM_COLLATERAL_MODE : UInt8 := 0

def vanillaObligationSeeds (obligationId : UInt8) (authority market : Pubkey) :
    List (List UInt8) :=
  [[VANILLA_OBLIGATION_TAG], [obligationId], authority.bytes, market.bytes, (0 : Pubkey).bytes,
    (0 : Pubkey).bytes]

def userMetadataSeeds (user : Pubkey) : List (List UInt8) := [asciiBytes "user_meta", user.bytes]

def obligationFarmSeeds (reserveFarm obligation : Pubkey) : List (List UInt8) :=
  [asciiBytes "user", reserveFarm.bytes, obligation.bytes]

def marketAuthoritySeeds (market : Pubkey) : List (List UInt8) := [asciiBytes "lma", market.bytes]

def rewardsVaultSeeds (farmState rewardsVaultMint : Pubkey) : List (List UInt8) :=
  [asciiBytes "rvault", farmState.bytes, rewardsVaultMint.bytes]

def rewardsTreasuryVaultSeeds (globalConfig rewardsVaultMint : Pubkey) : List (List UInt8) :=
  [asciiBytes "tvault", globalConfig.bytes, rewardsVaultMint.bytes]

def farmVaultsAuthoritySeeds (farmState : Pubkey) : List (List UInt8) :=
  [asciiBytes "authority", farmState.bytes]

/-! ## Configuration and state -/

/-- The configuration, when it is one of this protocol. -/
def IntegrationConfig.kamino? : IntegrationConfig → Option KaminoConfig
  | .Kamino config => some config
  | _ => none

/-- The state, when it is one of this protocol. -/
def IntegrationState.kamino? : IntegrationState → Option LendingState
  | .Kamino state => some state
  | _ => none

/-- `KaminoConfig::check_accounts`; the market is only checked when provided. -/
def KaminoConfig.checkAccounts (self : KaminoConfig) (obligation kaminoReserve
    reserveLiquidityMint : Pubkey) (market : Option Pubkey) : Except Error Unit := do
  check (obligation ≠ self.obligation) (.program .InvalidAccountData)
  check (kaminoReserve ≠ self.reserve) (.program .InvalidAccountData)
  check (reserveLiquidityMint ≠ self.reserveLiquidityMint) (.program .InvalidAccountData)
  check (market.any (· ≠ self.market)) (.program .InvalidAccountData)

/-- Store a new balance; an Integration in another state is refused. -/
def Integration.setKaminoBalance (self : Integration) (balance : UInt64) :
    Except Error Integration := do
  let state ← okOr self.state.kamino? (.program .InvalidAccountData)
  return { self with state := .Kamino { state with balance := balance } }

/-! ## The value of a position -/

/-- The collateral that an obligation holds for a klend reserve, zero when it is closed
    or has no deposit. -/
def lpAmount (w : World) (kaminoReserve obligation : Pubkey) : Except Error UInt64 :=
  if isAccountEmpty w obligation then .ok 0
  else do
    let obligationState ← okOr ((w.data obligation).bind ExtData.obligation?)
      (.program .InvalidAccountData)
    return ((obligationState.getObligationCollateralForReserve kaminoReserve).map
      ObligationCollateral.depositedAmount).getD 0

/-- `get_kamino_lending_balance`: the liquidity behind the obligation's collateral. -/
def getKaminoLendingBalance (kaminoReserve obligation : Pubkey) : Ix UInt64 := do
  let w ← read id
  let lpAmount ← ofExcept (lpAmount w kaminoReserve obligation)
  if lpAmount = 0 then return 0
  else do
    let kaminoReserveState ← readData kaminoReserve ExtData.kaminoReserve?
    ofExcept (kaminoReserveState.collateralToLiquidity lpAmount)

/-- `sync_kamino_liquidity_value`. -/
def syncKaminoLiquidityValue (controller : Controller) (integration : Integration)
    (integrationPubkey controllerPubkey controllerAuthority liquidityMint kaminoReserve
      obligation : Pubkey) : Ix UInt64 := do
  let state ← ofOption integration.state.kamino? (.program .InvalidAccountData)
  let newLiquidityValue ← getKaminoLendingBalance kaminoReserve obligation
  emitLendingBalanceSyncEvent controller integrationPubkey controllerPubkey controllerAuthority
    liquidityMint state.balance newLiquidityValue
  return newLiquidityValue

/-! ## Initialize -/

structure InitializeKaminoAccounts where
  obligation : AccountMeta
  reserveLiquidityMint : AccountMeta
  userMetadata : AccountMeta
  referrerMetadata : AccountMeta
  obligationFarmCollateral : AccountMeta
  kaminoReserve : AccountMeta
  reserveFarmCollateral : AccountMeta
  marketAuthority : AccountMeta
  market : AccountMeta
  kaminoLendProgram : AccountMeta
  kaminoFarmsProgram : AccountMeta
  systemProgram : AccountMeta
  rent : AccountMeta

def InitializeKaminoAccounts.specs : List AccountSpec :=
  [{ attrs := [.writable] },
    { owner := some [TOKEN_PROGRAM_ID, TOKEN_2022_PROGRAM_ID] },
    { attrs := [.writable] },
    {},
    { attrs := [.writable], owner := some [KAMINO_FARMS_PROGRAM_ID, SYSTEM_PROGRAM_ID] },
    { attrs := [.writable], owner := some [KAMINO_LEND_PROGRAM_ID] },
    { attrs := [.writable] },
    {},
    { owner := some [KAMINO_LEND_PROGRAM_ID] },
    { pubkey := some [KAMINO_LEND_PROGRAM_ID] },
    { pubkey := some [KAMINO_FARMS_PROGRAM_ID] },
    { pubkey := some [SYSTEM_PROGRAM_ID] },
    { pubkey := some [RENT_ID] }]

def InitializeKaminoAccounts.bind : List AccountMeta → Option InitializeKaminoAccounts
  | obligation :: reserveLiquidityMint :: userMetadata :: referrerMetadata ::
      obligationFarmCollateral :: kaminoReserve :: reserveFarmCollateral :: marketAuthority ::
      market :: kaminoLendProgram :: kaminoFarmsProgram :: systemProgram :: rent :: _ =>
    some ⟨obligation, reserveLiquidityMint, userMetadata, referrerMetadata,
      obligationFarmCollateral, kaminoReserve, reserveFarmCollateral, marketAuthority, market,
      kaminoLendProgram, kaminoFarmsProgram, systemProgram, rent⟩
  | _ => none

/-- `InitializeKaminoAccounts::checked_from_accounts`. -/
def InitializeKaminoAccounts.checkedFromAccounts (accountInfos : List AccountMeta)
    (controllerAuthority : Pubkey) (obligationId : UInt8) : Ix InitializeKaminoAccounts := do
  let ctx ← fromAccounts specs bind accountInfos
  validateMintExtensions ctx.reserveLiquidityMint.pubkey []
  let w ← read id
  rejectIf (ctx.reserveFarmCollateral.pubkey ≠ 0 ∧
      w.owner ctx.reserveFarmCollateral.pubkey ≠ ctx.kaminoFarmsProgram.pubkey)
    (.program .InvalidAccountOwner)
  checkDerived ctx.obligation
    (vanillaObligationSeeds obligationId controllerAuthority ctx.market.pubkey)
    KAMINO_LEND_PROGRAM_ID
  checkDerived ctx.userMetadata (userMetadataSeeds controllerAuthority) KAMINO_LEND_PROGRAM_ID
  checkDerived ctx.obligationFarmCollateral
    (obligationFarmSeeds ctx.reserveFarmCollateral.pubkey ctx.obligation.pubkey)
    KAMINO_FARMS_PROGRAM_ID
  checkDerived ctx.marketAuthority (marketAuthoritySeeds ctx.market.pubkey) KAMINO_LEND_PROGRAM_ID
  -- the referrer is klend itself when there is none
  rejectIf (ctx.referrerMetadata.pubkey ≠ ctx.kaminoLendProgram.pubkey ∧
      w.owner ctx.referrerMetadata.pubkey ≠ ctx.kaminoLendProgram.pubkey)
    (.program .InvalidAccountOwner)
  return ctx

/-- `KaminoReserve::check_from_init_accounts`. -/
def KaminoReserve.checkFromInitAccounts (self : KaminoReserve)
    (innerCtx : InitializeKaminoAccounts) : Except Error Unit := do
  check (self.lendingMarket ≠ innerCtx.market.pubkey) (.program .InvalidAccountData)
  check (self.liquidity.mintPubkey ≠ innerCtx.reserveLiquidityMint.pubkey)
    (.program .InvalidAccountData)
  check (self.farmCollateral ≠ innerCtx.reserveFarmCollateral.pubkey)
    (.program .InvalidAccountData)

/-- The obligation id, when the arguments are those of this protocol. -/
def InitializeArgs.kaminoIntegration? : InitializeArgs → Option UInt8
  | .KaminoIntegration obligationId => some obligationId
  | _ => none

/-- Create the obligation when the system program owns its address, else check it. -/
def initializeObligation (outerCtx : InitializeIntegrationAccounts)
    (innerCtx : InitializeKaminoAccounts) (obligationId : UInt8) (controller : Controller) :
    Ix Unit := do
  let w ← read id
  if w.owner innerCtx.obligation.pubkey = SYSTEM_PROGRAM_ID then
    invokeSigned
      (.initializeObligation
        { obligationOwner := outerCtx.controllerAuthority.pubkey
          payer := outerCtx.payer.pubkey
          obligation := innerCtx.obligation.pubkey
          lendingMarket := innerCtx.market.pubkey
          ownerUserMetadata := innerCtx.userMetadata.pubkey
          tag := VANILLA_OBLIGATION_TAG
          id := obligationId })
      outerCtx.controller.pubkey controller
  else do
    let obligation ← readData innerCtx.obligation.pubkey ExtData.obligation?
    ofExcept (obligation.checkData outerCtx.controllerAuthority.pubkey innerCtx.market.pubkey)

/-- `process_initialize_kamino`: what does not exist yet is initialized with it. -/
def processInitializeKamino (outerCtx : InitializeIntegrationAccounts)
    (outerArgs : InitializeIntegrationArgs) (controller : Controller) :
    Ix (IntegrationConfig × IntegrationState) := do
  let obligationId ← ofOption outerArgs.innerArgs.kaminoIntegration? (.program .InvalidArgument)
  let innerCtx ← InitializeKaminoAccounts.checkedFromAccounts outerCtx.remainingAccounts
    outerCtx.controllerAuthority.pubkey obligationId
  let kaminoReserve ← readData innerCtx.kaminoReserve.pubkey ExtData.kaminoReserve?
  ofExcept (kaminoReserve.checkFromInitAccounts innerCtx)
  let w ← read id
  onlyIf (w.owner innerCtx.userMetadata.pubkey = SYSTEM_PROGRAM_ID)
    (invokeSigned
      (.initializeUserMetadata outerCtx.controllerAuthority.pubkey outerCtx.payer.pubkey
        innerCtx.userMetadata.pubkey innerCtx.referrerMetadata.pubkey 0)
      outerCtx.controller.pubkey controller)
  initializeObligation outerCtx innerCtx obligationId controller
  let w ← read id
  onlyIf (kaminoReserve.hasCollateralFarm ∧
      w.owner innerCtx.obligationFarmCollateral.pubkey = SYSTEM_PROGRAM_ID)
    (invoke
      (.initializeObligationFarmForReserve outerCtx.payer.pubkey
        outerCtx.controllerAuthority.pubkey innerCtx.obligation.pubkey
        innerCtx.marketAuthority.pubkey innerCtx.kaminoReserve.pubkey
        innerCtx.reserveFarmCollateral.pubkey innerCtx.obligationFarmCollateral.pubkey
        innerCtx.market.pubkey OBLIGATION_FARM_COLLATERAL_MODE))
  return (
    .Kamino
      { market := innerCtx.market.pubkey
        reserve := innerCtx.kaminoReserve.pubkey
        reserveLiquidityMint := innerCtx.reserveLiquidityMint.pubkey
        obligation := innerCtx.obligation.pubkey
        obligationId := obligationId
        padding := 0 },
    .Kamino { balance := 0, padding := 0 })

/-! ## Accounts of Push and Pull (`push_pull_accounts.rs`) -/

structure PushPullKaminoAccounts where
  reserveVault : AccountMeta
  obligation : AccountMeta
  kaminoReserve : AccountMeta
  kaminoReserveLiquidityMint : AccountMeta
  kaminoReserveLiquiditySupply : AccountMeta
  kaminoReserveCollateralMint : AccountMeta
  kaminoReserveCollateralSupply : AccountMeta
  marketAuthority : AccountMeta
  market : AccountMeta
  collateralTokenProgram : AccountMeta
  liquidityTokenProgram : AccountMeta
  instructionSysvarAccount : AccountMeta
  obligationFarmCollateral : AccountMeta
  reserveFarmCollateral : AccountMeta
  kaminoFarmsProgram : AccountMeta
  kaminoLendProgram : AccountMeta
  /-- Used for reinitializing an Obligation in Push. -/
  remainingAccounts : List AccountMeta

def PushPullKaminoAccounts.specs : List AccountSpec :=
  [{ attrs := [.writable], owner := some [TOKEN_PROGRAM_ID, TOKEN_2022_PROGRAM_ID] },
    { attrs := [.writable] },
    { attrs := [.writable], owner := some [KAMINO_LEND_PROGRAM_ID] },
    { owner := some [TOKEN_PROGRAM_ID, TOKEN_2022_PROGRAM_ID] },
    { attrs := [.writable], owner := some [TOKEN_PROGRAM_ID, TOKEN_2022_PROGRAM_ID] },
    { attrs := [.writable], owner := some [TOKEN_PROGRAM_ID] },
    { attrs := [.writable], owner := some [TOKEN_PROGRAM_ID] },
    {},
    { owner := some [KAMINO_LEND_PROGRAM_ID] },
    { pubkey := some [TOKEN_PROGRAM_ID] },
    { pubkey := some [TOKEN_PROGRAM_ID, TOKEN_2022_PROGRAM_ID] },
    { pubkey := some [INSTRUCTIONS_ID] },
    { attrs := [.writable] },
    { attrs := [.writable] },
    { pubkey := some [KAMINO_FARMS_PROGRAM_ID] },
    { pubkey := some [KAMINO_LEND_PROGRAM_ID] }]

def PushPullKaminoAccounts.bind : List AccountMeta → Option PushPullKaminoAccounts
  | reserveVault :: obligation :: kaminoReserve :: kaminoReserveLiquidityMint ::
      kaminoReserveLiquiditySupply :: kaminoReserveCollateralMint ::
      kaminoReserveCollateralSupply :: marketAuthority :: market :: collateralTokenProgram ::
      liquidityTokenProgram :: instructionSysvarAccount :: obligationFarmCollateral ::
      reserveFarmCollateral :: kaminoFarmsProgram :: kaminoLendProgram :: remainingAccounts =>
    some ⟨reserveVault, obligation, kaminoReserve, kaminoReserveLiquidityMint,
      kaminoReserveLiquiditySupply, kaminoReserveCollateralMint, kaminoReserveCollateralSupply,
      marketAuthority, market, collateralTokenProgram, liquidityTokenProgram,
      instructionSysvarAccount, obligationFarmCollateral, reserveFarmCollateral,
      kaminoFarmsProgram, kaminoLendProgram, remainingAccounts⟩
  | _ => none

/-- The check of the optional obligation farm: klend itself stands for "none". -/
def PushPullKaminoAccounts.checkObligationFarm (ctx : PushPullKaminoAccounts) : Ix Unit := do
  let w ← read id
  onlyIf (ctx.obligationFarmCollateral.pubkey ≠ ctx.kaminoLendProgram.pubkey) do
    rejectIf (w.owner ctx.obligationFarmCollateral.pubkey ≠ ctx.kaminoFarmsProgram.pubkey)
      (.program .InvalidAccountOwner)
    checkDerived ctx.obligationFarmCollateral
      (obligationFarmSeeds ctx.reserveFarmCollateral.pubkey ctx.obligation.pubkey)
      KAMINO_FARMS_PROGRAM_ID

/-- `PushPullKaminoAccounts::checked_from_accounts`. -/
def PushPullKaminoAccounts.checkedFromAccounts (controllerAuthority : Pubkey)
    (config : IntegrationConfig) (accountInfos : List AccountMeta) (reserve : Reserve) :
    Ix PushPullKaminoAccounts := do
  let ctx ← fromAccounts specs bind accountInfos
  let config ← ofOption config.kamino? (.program .InvalidAccountData)
  ofExcept (config.checkAccounts ctx.obligation.pubkey ctx.kaminoReserve.pubkey
    ctx.kaminoReserveLiquidityMint.pubkey (some ctx.market.pubkey))
  checkDerived ctx.marketAuthority (marketAuthoritySeeds ctx.market.pubkey) KAMINO_LEND_PROGRAM_ID
  let tokenAccount ← TokenAccount.fromAccountInfo ctx.reserveVault.pubkey
  rejectIf (tokenAccount.mint ≠ config.reserveLiquidityMint) (.program .InvalidAccountData)
  rejectIf (tokenAccount.owner ≠ controllerAuthority) (.program .InvalidAccountData)
  rejectIf (ctx.reserveVault.pubkey ≠ reserve.vault) (.program .InvalidAccountData)
  rejectIf (ctx.kaminoReserveLiquidityMint.pubkey ≠ reserve.mint) (.program .InvalidAccountData)
  let w ← read id
  rejectIf (ctx.reserveFarmCollateral.pubkey ≠ 0 ∧
      w.owner ctx.reserveFarmCollateral.pubkey ≠ ctx.kaminoFarmsProgram.pubkey)
    (.program .InvalidAccountOwner)
  ctx.checkObligationFarm
  return ctx

/-- The accounts of klend's deposit and withdrawal. -/
def PushPullKaminoAccounts.liquidityAccounts (ctx : PushPullKaminoAccounts) (owner : Pubkey) :
    KaminoLiquidityAccounts where
  owner := owner
  obligation := ctx.obligation.pubkey
  lendingMarket := ctx.market.pubkey
  marketAuthority := ctx.marketAuthority.pubkey
  kaminoReserve := ctx.kaminoReserve.pubkey
  reserveLiquidityMint := ctx.kaminoReserveLiquidityMint.pubkey
  reserveLiquiditySupply := ctx.kaminoReserveLiquiditySupply.pubkey
  reserveCollateralMint := ctx.kaminoReserveCollateralMint.pubkey
  reserveCollateralSupply := ctx.kaminoReserveCollateralSupply.pubkey
  userLiquidity := ctx.reserveVault.pubkey
  collateralTokenProgram := ctx.collateralTokenProgram.pubkey
  liquidityTokenProgram := ctx.liquidityTokenProgram.pubkey
  obligationFarmUserState := ctx.obligationFarmCollateral.pubkey
  reserveFarmState := ctx.reserveFarmCollateral.pubkey

/-! ## Push -/

structure InitializeObligationAccounts where
  payer : AccountMeta
  userMetadata : AccountMeta
  systemProgram : AccountMeta
  rent : AccountMeta

def InitializeObligationAccounts.specs : List AccountSpec :=
  [{ attrs := [.writable] },
    { owner := some [KAMINO_LEND_PROGRAM_ID] },
    { pubkey := some [SYSTEM_PROGRAM_ID] },
    { pubkey := some [RENT_ID] }]

def InitializeObligationAccounts.bind : List AccountMeta → Option InitializeObligationAccounts
  | payer :: userMetadata :: systemProgram :: rent :: _ =>
    some ⟨payer, userMetadata, systemProgram, rent⟩
  | _ => none

/-- `InitializeObligationAccounts::checked_from_accounts`. -/
def InitializeObligationAccounts.checkedFromAccounts (innerCtx : PushPullKaminoAccounts)
    (controllerAuthority : Pubkey) : Ix InitializeObligationAccounts := do
  let ctx ← fromAccounts specs bind innerCtx.remainingAccounts
  checkDerived ctx.userMetadata (userMetadataSeeds controllerAuthority) KAMINO_LEND_PROGRAM_ID
  return ctx

/-- An obligation that a full withdrawal closed is initialized again and refreshed; an
    open one must have room for the deposit. -/
def reopenObligation (controller : Controller) (integration : Integration)
    (outerCtx : PushAccounts) (innerCtx : PushPullKaminoAccounts) : Ix Unit := do
  let w ← read id
  if w.owner innerCtx.obligation.pubkey = SYSTEM_PROGRAM_ID then do
    let config ← ofOption integration.config.kamino? (.program .InvalidAccountData)
    let initObligationCtx ← InitializeObligationAccounts.checkedFromAccounts innerCtx
      outerCtx.controllerAuthority.pubkey
    invokeSigned
      (.initializeObligation
        { obligationOwner := outerCtx.controllerAuthority.pubkey
          payer := initObligationCtx.payer.pubkey
          obligation := innerCtx.obligation.pubkey
          lendingMarket := innerCtx.market.pubkey
          ownerUserMetadata := initObligationCtx.userMetadata.pubkey
          tag := VANILLA_OBLIGATION_TAG
          id := config.obligationId })
      outerCtx.controller.pubkey controller
    invoke (.refreshObligationAfterInit innerCtx.market.pubkey innerCtx.obligation.pubkey)
  else do
    let obligation ← readData innerCtx.obligation.pubkey ExtData.obligation?
    rejectIf (obligation.isDepositsFull = true ∧
        obligation.getObligationCollateralForReserve innerCtx.kaminoReserve.pubkey = none)
      (.program .InvalidAccountData)

/-- The amount, when the arguments are those of this protocol. -/
def PushArgs.kamino? : PushArgs → Option UInt64
  | .Kamino amount => some amount
  | _ => none

def processPushKamino (controller : Controller) (permission : Permission)
    (integration : Integration) (reserve : Reserve) (outerCtx : PushAccounts)
    (outerArgs : PushArgs) : Ix (Integration × Reserve) := do
  let clock ← read World.clock
  let amount ← ofOption outerArgs.kamino? (.program .InvalidArgument)
  rejectIf (amount = 0) (.program .InvalidArgument)
  rejectIf (¬ permission.mayReallocate) (.program .IncorrectAuthority)
  let innerCtx ← PushPullKaminoAccounts.checkedFromAccounts outerCtx.controllerAuthority.pubkey
    integration.config outerCtx.remainingAccounts reserve
  let w ← read id
  rejectIf (w.owner innerCtx.obligation.pubkey ≠ innerCtx.kaminoLendProgram.pubkey ∧
      w.owner innerCtx.obligation.pubkey ≠ SYSTEM_PROGRAM_ID)
    (.program .IllegalOwner)
  reopenObligation controller integration outerCtx innerCtx
  let synced ← reserve.syncBalance innerCtx.reserveVault outerCtx.controllerAuthority.pubkey
    outerCtx.controller.pubkey controller
  let _ ← syncKaminoLiquidityValue controller integration outerCtx.integration.pubkey
    outerCtx.controller.pubkey outerCtx.controllerAuthority.pubkey
    innerCtx.kaminoReserveLiquidityMint.pubkey innerCtx.kaminoReserve.pubkey
    innerCtx.obligation.pubkey
  -- for the exact amount leaving the vault
  let vaultBefore ← TokenAccount.fromAccountInfo innerCtx.reserveVault.pubkey
  let liquidityValueBefore ← getKaminoLendingBalance innerCtx.kaminoReserve.pubkey
    innerCtx.obligation.pubkey
  invokeSigned
    (.kaminoDeposit (innerCtx.liquidityAccounts outerCtx.controllerAuthority.pubkey) amount)
    outerCtx.controller.pubkey controller
  let vaultAfter ← TokenAccount.fromAccountInfo innerCtx.reserveVault.pubkey
  let liquidityAmountDelta := vaultBefore.amount.saturatingSub vaultAfter.amount
  let liquidityValueAfter ← getKaminoLendingBalance innerCtx.kaminoReserve.pubkey
    innerCtx.obligation.pubkey
  let liquidityValueDelta := liquidityValueAfter.saturatingSub liquidityValueBefore
  emitEvent controller outerCtx.controllerAuthority.pubkey outerCtx.controller.pubkey
    (integrationEvent outerCtx.controller.pubkey outerCtx.integration.pubkey
      innerCtx.kaminoReserveLiquidityMint.pubkey .Deposit liquidityValueDelta .Credit)
  emitEvent controller outerCtx.controllerAuthority.pubkey outerCtx.controller.pubkey
    (reserveEvent outerCtx.controller.pubkey outerCtx.reserveA.pubkey
      innerCtx.kaminoReserveLiquidityMint.pubkey .Deposit liquidityAmountDelta .Debit)
  let deposited ← ofExcept (integration.setKaminoBalance liquidityValueAfter)
  let deposited ← deposited.recordOutflow clock liquidityAmountDelta
  let reserve ← synced.recordOutflow clock liquidityAmountDelta false
  return (deposited, reserve)

/-! ## Pull -/

/-- The amount, when the arguments are those of this protocol. -/
def PullArgs.kamino? : PullArgs → Option UInt64
  | .Kamino amount => some amount
  | _ => none

def processPullKamino (controller : Controller) (permission : Permission)
    (integration : Integration) (reserve : Reserve) (outerCtx : PushAccounts)
    (outerArgs : PullArgs) : Ix (Integration × Reserve) := do
  let clock ← read World.clock
  let amount ← ofOption outerArgs.kamino? (.program .InvalidArgument)
  rejectIf (amount = 0) (.program .InvalidArgument)
  rejectIf (¬ permission.mayReallocate ∧ ¬ permission.mayLiquidate integration)
    (.program .IncorrectAuthority)
  let innerCtx ← PushPullKaminoAccounts.checkedFromAccounts outerCtx.controllerAuthority.pubkey
    integration.config outerCtx.remainingAccounts reserve
  let w ← read id
  rejectIf (w.owner innerCtx.obligation.pubkey ≠ innerCtx.kaminoLendProgram.pubkey)
    (.program .IllegalOwner)
  let synced ← reserve.syncBalance innerCtx.reserveVault outerCtx.controllerAuthority.pubkey
    outerCtx.controller.pubkey controller
  let liquidityValueBefore ← syncKaminoLiquidityValue controller integration
    outerCtx.integration.pubkey outerCtx.controller.pubkey outerCtx.controllerAuthority.pubkey
    innerCtx.kaminoReserveLiquidityMint.pubkey innerCtx.kaminoReserve.pubkey
    innerCtx.obligation.pubkey
  -- klend withdraws shares, so the amount is converted
  let kaminoReserveState ← readData innerCtx.kaminoReserve.pubkey ExtData.kaminoReserve?
  let collateralAmount ← ofExcept (kaminoReserveState.liquidityToCollateral amount)
  let vaultBefore ← TokenAccount.fromAccountInfo innerCtx.reserveVault.pubkey
  invokeSigned
    (.kaminoWithdraw (innerCtx.liquidityAccounts outerCtx.controllerAuthority.pubkey)
      collateralAmount)
    outerCtx.controller.pubkey controller
  let vaultAfter ← TokenAccount.fromAccountInfo innerCtx.reserveVault.pubkey
  let liquidityAmountDelta := vaultAfter.amount.saturatingSub vaultBefore.amount
  let liquidityValueAfter ← getKaminoLendingBalance innerCtx.kaminoReserve.pubkey
    innerCtx.obligation.pubkey
  let liquidityValueDelta := liquidityValueBefore.saturatingSub liquidityValueAfter
  emitEvent controller outerCtx.controllerAuthority.pubkey outerCtx.controller.pubkey
    (integrationEvent outerCtx.controller.pubkey outerCtx.integration.pubkey
      innerCtx.kaminoReserveLiquidityMint.pubkey .Withdrawal liquidityValueDelta .Debit)
  emitEvent controller outerCtx.controllerAuthority.pubkey outerCtx.controller.pubkey
    (reserveEvent outerCtx.controller.pubkey outerCtx.reserveA.pubkey
      innerCtx.kaminoReserveLiquidityMint.pubkey .Withdrawal liquidityAmountDelta .Credit)
  let withdrawn ← ofExcept (integration.setKaminoBalance liquidityValueAfter)
  let withdrawn ← withdrawn.recordInflow clock liquidityAmountDelta
  let reserve ← synced.recordInflow clock liquidityAmountDelta
  return (withdrawn, reserve)

/-! ## Sync -/

structure SyncKaminoAccounts where
  reserveVault : AccountMeta
  kaminoReserve : AccountMeta
  obligation : AccountMeta
  remainingAccounts : List AccountMeta

def SyncKaminoAccounts.specs : List AccountSpec :=
  [{ attrs := [.writable], owner := some [TOKEN_PROGRAM_ID, TOKEN_2022_PROGRAM_ID] },
    { owner := some [KAMINO_LEND_PROGRAM_ID] },
    { owner := some [KAMINO_LEND_PROGRAM_ID] }]

def SyncKaminoAccounts.bind : List AccountMeta → Option SyncKaminoAccounts
  | reserveVault :: kaminoReserve :: obligation :: remainingAccounts =>
    some ⟨reserveVault, kaminoReserve, obligation, remainingAccounts⟩
  | _ => none

/-- `SyncKaminoAccounts::checked_from_accounts`. -/
def SyncKaminoAccounts.checkedFromAccounts (config : IntegrationConfig)
    (accountInfos : List AccountMeta) (reserve : Reserve) : Ix SyncKaminoAccounts := do
  let ctx ← fromAccounts specs bind accountInfos
  let config ← ofOption config.kamino? (.program .InvalidAccountData)
  ofExcept (config.checkAccounts ctx.obligation.pubkey ctx.kaminoReserve.pubkey reserve.mint none)
  rejectIf (ctx.reserveVault.pubkey ≠ reserve.vault) (.program .InvalidAccountData)
  return ctx

structure HarvestKaminoAccounts where
  obligationFarm : AccountMeta
  kaminoReserveFarm : AccountMeta
  rewardsVault : AccountMeta
  rewardsTreasuryVault : AccountMeta
  farmVaultsAuthority : AccountMeta
  farmsGlobalConfig : AccountMeta
  rewardsAta : AccountMeta
  rewardsMint : AccountMeta
  scopePrices : AccountMeta
  rewardsTokenProgram : AccountMeta
  kaminoFarmsProgram : AccountMeta
  systemProgram : AccountMeta
  associatedTokenProgram : AccountMeta

def HarvestKaminoAccounts.specs : List AccountSpec :=
  [{ attrs := [.writable], owner := some [KAMINO_FARMS_PROGRAM_ID] },
    { attrs := [.writable], owner := some [KAMINO_FARMS_PROGRAM_ID] },
    { attrs := [.writable], owner := some [TOKEN_PROGRAM_ID, TOKEN_2022_PROGRAM_ID] },
    { attrs := [.writable], owner := some [TOKEN_PROGRAM_ID, TOKEN_2022_PROGRAM_ID] },
    {},
    { owner := some [KAMINO_FARMS_PROGRAM_ID] },
    { attrs := [.writable],
      owner := some [TOKEN_PROGRAM_ID, TOKEN_2022_PROGRAM_ID, SYSTEM_PROGRAM_ID] },
    { owner := some [TOKEN_PROGRAM_ID, TOKEN_2022_PROGRAM_ID] },
    {},
    { pubkey := some [TOKEN_PROGRAM_ID, TOKEN_2022_PROGRAM_ID] },
    { pubkey := some [KAMINO_FARMS_PROGRAM_ID] },
    { pubkey := some [SYSTEM_PROGRAM_ID] },
    { pubkey := some [ASSOCIATED_TOKEN_PROGRAM_ID] }]

def HarvestKaminoAccounts.bind : List AccountMeta → Option HarvestKaminoAccounts
  | obligationFarm :: kaminoReserveFarm :: rewardsVault :: rewardsTreasuryVault ::
      farmVaultsAuthority :: farmsGlobalConfig :: rewardsAta :: rewardsMint :: scopePrices ::
      rewardsTokenProgram :: kaminoFarmsProgram :: systemProgram :: associatedTokenProgram :: _ =>
    some ⟨obligationFarm, kaminoReserveFarm, rewardsVault, rewardsTreasuryVault,
      farmVaultsAuthority, farmsGlobalConfig, rewardsAta, rewardsMint, scopePrices,
      rewardsTokenProgram, kaminoFarmsProgram, systemProgram, associatedTokenProgram⟩
  | _ => none

/-- `HarvestKaminoAccounts::checked_from_accounts`. -/
def HarvestKaminoAccounts.checkedFromAccounts (obligation : Pubkey)
    (accountInfos : List AccountMeta) : Ix HarvestKaminoAccounts := do
  let ctx ← fromAccounts specs bind accountInfos
  checkDerived ctx.obligationFarm (obligationFarmSeeds ctx.kaminoReserveFarm.pubkey obligation)
    KAMINO_FARMS_PROGRAM_ID
  checkDerived ctx.rewardsVault
    (rewardsVaultSeeds ctx.kaminoReserveFarm.pubkey ctx.rewardsMint.pubkey)
    KAMINO_FARMS_PROGRAM_ID
  checkDerived ctx.rewardsTreasuryVault
    (rewardsTreasuryVaultSeeds ctx.farmsGlobalConfig.pubkey ctx.rewardsMint.pubkey)
    KAMINO_FARMS_PROGRAM_ID
  checkDerived ctx.farmVaultsAuthority (farmVaultsAuthoritySeeds ctx.kaminoReserveFarm.pubkey)
    KAMINO_FARMS_PROGRAM_ID
  return ctx

/-- Book rewards in the reserve's own mint: three events, then the inflow on both. -/
def bookRewards (controller : Controller) (integration : Integration) (reserve : Reserve)
    (outerCtx : SyncIntegrationAccounts) (reserveVault rewardsMint : Pubkey) :
    Ix (Integration × Reserve) := do
  let clock ← read World.clock
  -- The mints match, so the rewards account is the vault.
  let vault ← TokenAccount.fromAccountInfo reserveVault
  let reserveVaultBalanceDelta := vault.amount.saturatingSub reserve.lastBalance
  emitEvent controller outerCtx.controllerAuthority.pubkey outerCtx.controller.pubkey
    (integrationEvent outerCtx.controller.pubkey outerCtx.integration.pubkey rewardsMint .Sync
      reserveVaultBalanceDelta .Credit)
  emitEvent controller outerCtx.controllerAuthority.pubkey outerCtx.controller.pubkey
    (integrationEvent outerCtx.controller.pubkey outerCtx.integration.pubkey rewardsMint
      .Withdrawal reserveVaultBalanceDelta .Debit)
  emitEvent controller outerCtx.controllerAuthority.pubkey outerCtx.controller.pubkey
    (reserveEvent outerCtx.controller.pubkey outerCtx.reserve.pubkey rewardsMint .Withdrawal
      reserveVaultBalanceDelta .Credit)
  let reserve ← reserve.recordInflow clock reserveVaultBalanceDelta
  let integration ← integration.recordInflow clock reserveVaultBalanceDelta
  return (integration, reserve)

/-- Claim the farm rewards of a deposit. -/
def harvestRewards (controller : Controller) (integration : Integration) (reserve : Reserve)
    (outerCtx : SyncIntegrationAccounts) (innerCtx : SyncKaminoAccounts)
    (kaminoReserveState : KaminoReserve) : Ix (Integration × Reserve) := do
  let harvestCtx ← HarvestKaminoAccounts.checkedFromAccounts innerCtx.obligation.pubkey
    innerCtx.remainingAccounts
  rejectIf (kaminoReserveState.farmCollateral ≠ harvestCtx.kaminoReserveFarm.pubkey)
    (.program .InvalidAccountData)
  let reserveFarmState ← readData harvestCtx.kaminoReserveFarm.pubkey ExtData.farmState?
  let rewardIndex ← ofOption
    (reserveFarmState.findRewardIndex harvestCtx.rewardsMint.pubkey
      harvestCtx.rewardsTokenProgram.pubkey)
    (.program .InvalidAccountData)
  invoke (.createIdempotent
    { fundingAccount := outerCtx.payer.pubkey
      account := harvestCtx.rewardsAta.pubkey
      wallet := outerCtx.controllerAuthority.pubkey
      mint := harvestCtx.rewardsMint.pubkey
      systemProgram := harvestCtx.systemProgram.pubkey
      tokenProgram := harvestCtx.rewardsTokenProgram.pubkey })
  invokeSigned
    (.harvestReward
      { owner := outerCtx.controllerAuthority.pubkey
        userState := harvestCtx.obligationFarm.pubkey
        farmState := harvestCtx.kaminoReserveFarm.pubkey
        globalConfig := harvestCtx.farmsGlobalConfig.pubkey
        rewardMint := harvestCtx.rewardsMint.pubkey
        userRewardAta := harvestCtx.rewardsAta.pubkey
        rewardsVault := harvestCtx.rewardsVault.pubkey
        rewardsTreasuryVault := harvestCtx.rewardsTreasuryVault.pubkey
        farmVaultsAuthority := harvestCtx.farmVaultsAuthority.pubkey
        scopePrices := harvestCtx.scopePrices.pubkey
        tokenProgram := harvestCtx.rewardsTokenProgram.pubkey
        rewardIndex := rewardIndex })
    outerCtx.controller.pubkey controller
  if harvestCtx.rewardsMint.pubkey = reserve.mint then
    bookRewards controller integration reserve outerCtx innerCtx.reserveVault.pubkey
      harvestCtx.rewardsMint.pubkey
  else return (integration, reserve)

/-- Harvest only when the klend reserve has a farm and the accounts for it are given. -/
def maybeHarvest (controller : Controller) (integration : Integration) (reserve : Reserve)
    (outerCtx : SyncIntegrationAccounts) (innerCtx : SyncKaminoAccounts)
    (kaminoReserveState : KaminoReserve) : Ix (Integration × Reserve) :=
  if kaminoReserveState.hasCollateralFarm ∧ 0 < innerCtx.remainingAccounts.length then
    harvestRewards controller integration reserve outerCtx innerCtx kaminoReserveState
  else return (integration, reserve)

def processSyncKamino (controller : Controller) (integration : Integration) (reserve : Reserve)
    (outerCtx : SyncIntegrationAccounts) : Ix (Integration × Reserve) := do
  let innerCtx ← SyncKaminoAccounts.checkedFromAccounts integration.config
    outerCtx.remainingAccounts reserve
  -- Sync the reserve before main logic.
  let synced ← reserve.syncBalance innerCtx.reserveVault outerCtx.controllerAuthority.pubkey
    outerCtx.controller.pubkey controller
  let kaminoReserveState ← readData innerCtx.kaminoReserve.pubkey ExtData.kaminoReserve?
  let clock ← read World.clock
  -- The client must have refreshed the klend reserve in this slot.
  let isStale ← ofExcept (kaminoReserveState.lastUpdate.isStale clock.slot)
  rejectIf (isStale = true) (.program .InvalidAccountData)
  let (harvested, reserve) ← maybeHarvest controller integration synced outerCtx innerCtx
    kaminoReserveState
  let newBalance ← syncKaminoLiquidityValue controller harvested outerCtx.integration.pubkey
    outerCtx.controller.pubkey outerCtx.controllerAuthority.pubkey reserve.mint
    innerCtx.kaminoReserve.pubkey innerCtx.obligation.pubkey
  let updated ← ofExcept (harvested.setKaminoBalance newBalance)
  return (updated, reserve)

end AlmController
