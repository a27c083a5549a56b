import AlmController.Integrations.AtomicSwap
import AlmController.Integrations.CctpBridge
import AlmController.Integrations.Drift
import AlmController.Integrations.Kamino
import AlmController.Integrations.LzBridge
import AlmController.Integrations.SplTokenExternal

/-!
# Integrations

InitializeIntegration, ManageIntegration, SyncIntegration, Push and Pull: the checks
that all protocols share, and the dispatch to a protocol's own processor. Push and
Pull dispatch on the arguments of the caller, SyncIntegration on the stored
configuration.
-/

namespace AlmController

open Prog

variable [Chain]

/-! ## InitializeIntegration -/

/-- Each protocol's own part of InitializeIntegration. -/
def processInitializeProtocol (ctx : InitializeIntegrationAccounts)
    (args : InitializeIntegrationArgs) (controller : Controller) :
    Ix (IntegrationConfig × IntegrationState) :=
  match args.integrationType with
  | .SplTokenExternal => processInitializeSplTokenExternal ctx
  | .CctpBridge => processInitializeCctpBridge ctx args
  | .LzBridge => processInitializeLzBridge ctx args
  | .AtomicSwap => processInitializeAtomicSwap ctx args
  | .Drift => processInitializeDrift ctx args controller
  | .Kamino => processInitializeKamino ctx args controller

/-- `IntegrationConfig::hash`. -/
def IntegrationConfig.hash (config : IntegrationConfig) : ByteArr 32 :=
  Chain.keccak (Borsh.write config)

/-- `Integration::init_account`. -/
def Integration.initAccount (account payer : AccountMeta) (controller : Pubkey)
    (status : IntegrationStatus) (config : IntegrationConfig) (state : IntegrationState)
    (description : ByteArr 32) (rateLimitSlope rateLimitMaxOutflow : UInt64)
    (permitLiquidation : Bool) : Ix Integration := do
  let clock ← read World.clock
  let integration : Integration :=
    { toRateLimit := .init clock rateLimitSlope rateLimitMaxOutflow
      controller := controller
      description := description
      hash := config.hash
      status := status
      config := config
      state := state
      permitLiquidation := permitLiquidation
      padding := 0 }
  AlmController.initAccount account payer integration.seeds (.integration integration)
  return integration

def processInitializeIntegration (accounts : List AccountMeta) (instructionData : List UInt8) :
    Ix Unit := do
  let ctx ← fromAccounts InitializeIntegrationAccounts.specs InitializeIntegrationAccounts.bind
    accounts
  let args ← parseArgs InitializeIntegrationArgs instructionData
  let controller ← Controller.loadAndCheck ctx.controller ctx.controllerAuthority.pubkey
  controller.rejectHalted
  let permission ← Permission.loadAndCheck ctx.permission ctx.controller.pubkey
    ctx.authority.pubkey
  rejectIf (¬ permission.mayManageReservesAndIntegrations)
    (SvmAlmControllerErrors.UnauthorizedAction : Error)
  let (config, state) ← processInitializeProtocol ctx args controller
  let integration ← Integration.initAccount ctx.integration ctx.payer ctx.controller.pubkey
    args.status config state args.description args.rateLimitSlope args.rateLimitMaxOutflow
    args.permitLiquidation
  emitEvent controller ctx.controllerAuthority.pubkey ctx.controller.pubkey
    (.IntegrationUpdate
      { controller := ctx.controller.pubkey
        authority := ctx.authority.pubkey
        account := ctx.integration.pubkey
        oldState := none
        newState := some integration })

/-! ## ManageIntegration -/

structure ManageIntegrationAccounts where
  controller : AccountMeta
  controllerAuthority : AccountMeta
  authority : AccountMeta
  permission : AccountMeta
  integration : AccountMeta
  programId : AccountMeta

def ManageIntegrationAccounts.specs : List AccountSpec :=
  [{ owner := some [ID] },
    { attrs := [.empty], owner := some [SYSTEM_PROGRAM_ID] },
    { attrs := [.signer] },
    { owner := some [ID] },
    { attrs := [.writable], owner := some [ID] },
    { pubkey := some [ID] }]

def ManageIntegrationAccounts.bind : List AccountMeta → Option ManageIntegrationAccounts
  | controller :: controllerAuthority :: authority :: permission :: integration :: programId ::
      _ =>
    some ⟨controller, controllerAuthority, authority, permission, integration, programId⟩
  | _ => none

def processManageIntegration (accounts : List AccountMeta) (instructionData : List UInt8) :
    Ix Unit := do
  let ctx ← fromAccounts ManageIntegrationAccounts.specs ManageIntegrationAccounts.bind accounts
  let args ← parseArgs ManageIntegrationArgs instructionData
  let controller ← Controller.loadAndCheck ctx.controller ctx.controllerAuthority.pubkey
  controller.rejectHalted
  let permission ← Permission.loadAndCheck ctx.permission ctx.controller.pubkey
    ctx.authority.pubkey
  rejectIf (¬ permission.mayManageReservesAndIntegrations)
    (SvmAlmControllerErrors.UnauthorizedAction : Error)
  let integration ← Integration.loadAndCheck ctx.integration ctx.controller.pubkey
  let clock ← read World.clock
  let updated ← ofExcept (integration.update clock args.status args.description
    args.rateLimitSlope args.rateLimitMaxOutflow)
  save ctx.integration (.integration updated)
  emitEvent controller ctx.controllerAuthority.pubkey ctx.controller.pubkey
    (.IntegrationUpdate
      { controller := ctx.controller.pubkey
        authority := ctx.authority.pubkey
        account := ctx.integration.pubkey
        oldState := some integration
        newState := some updated })

/-! ## SyncIntegration -/

/-- Each protocol's own part of SyncIntegration; only Kamino needs the Reserve. -/
def processSyncProtocol (controller : Controller) (integration : Integration)
    (ctx : SyncIntegrationAccounts) : Ix Integration :=
  match integration.config with
  | .Kamino _ => do
    let reserve ← Reserve.loadAndCheck ctx.reserve ctx.controller.pubkey
    let (updated, synced) ← processSyncKamino controller integration reserve ctx
    save ctx.reserve (.reserve synced)
    return updated
  | .Drift _ => processSyncDrift controller integration ctx
  | _ => fail (.program .InvalidArgument)

def processSyncIntegration (accounts : List AccountMeta) : Ix Unit := do
  let clock ← read World.clock
  let ctx ← fromAccounts SyncIntegrationAccounts.specs SyncIntegrationAccounts.bind accounts
  let controller ← Controller.loadAndCheck ctx.controller ctx.controllerAuthority.pubkey
  controller.rejectHalted
  let integration ← Integration.loadAndCheck ctx.integration ctx.controller.pubkey
  let refreshed ← ofExcept (integration.refreshRateLimit clock)
  let updated ← processSyncProtocol controller refreshed ctx
  save ctx.integration (.integration updated)

/-! ## Push and Pull -/

/-- What both check before they dispatch: everyone involved is Active and belongs to
    the controller. The Integration comes back with its limiter refreshed. -/
def loadForFlow (ctx : PushAccounts) : Ix (Controller × Permission × Integration × Reserve) := do
  let clock ← read World.clock
  let controller ← Controller.loadAndCheck ctx.controller ctx.controllerAuthority.pubkey
  rejectIf (¬ controller.isActive)
    (SvmAlmControllerErrors.ControllerStatusDoesNotPermitAction : Error)
  let permission ← Permission.loadAndCheck ctx.permission ctx.controller.pubkey
    ctx.authority.pubkey
  rejectIf (permission.status ≠ .Active)
    (SvmAlmControllerErrors.PermissionStatusDoesNotPermitAction : Error)
  let integration ← Integration.loadAndCheck ctx.integration ctx.controller.pubkey
  rejectIf (integration.status ≠ .Active)
    (SvmAlmControllerErrors.IntegrationStatusDoesNotPermitAction : Error)
  let refreshed ← ofExcept (integration.refreshRateLimit clock)
  let reserveA ← Reserve.loadAndCheck ctx.reserveA ctx.controller.pubkey
  rejectIf (reserveA.status ≠ .Active)
    (SvmAlmControllerErrors.ReserveStatusDoesNotPermitAction : Error)
  return (controller, permission, refreshed, reserveA)

/-- Each protocol's own part of Push. -/
def processPushProtocol (tx : TxContext) (controller : Controller) (permission : Permission)
    (integration : Integration) (reserveA : Reserve) (ctx : PushAccounts) (args : PushArgs) :
    Ix (Integration × Reserve) :=
  match args with
  | .SplTokenExternal _ =>
    processPushSplTokenExternal controller permission integration reserveA ctx args
  | .CctpBridge _ => processPushCctpBridge controller permission integration reserveA ctx args
  | .LzBridge _ => processPushLzBridge tx controller permission integration reserveA ctx args
  | .Drift _ _ => processPushDrift controller permission integration reserveA ctx args
  | .Kamino _ => processPushKamino controller permission integration reserveA ctx args

/-- "Push" tokens out of a Reserve and into some downstream protocol. -/
def processPush (tx : TxContext) (accounts : List AccountMeta) (instructionData : List UInt8) :
    Ix Unit := do
  let ctx ← fromAccounts PushAccounts.specs PushAccounts.bind accounts
  let args ← parseArgs PushArgs instructionData
  let (controller, permission, integration, reserveA) ← loadForFlow ctx
  let (integration, reserveA) ← processPushProtocol tx controller permission integration reserveA
    ctx args
  save ctx.integration (.integration integration)
  save ctx.reserveA (.reserve reserveA)

/-- Each protocol's own part of Pull. -/
def processPullProtocol (controller : Controller) (permission : Permission)
    (integration : Integration) (reserveA : Reserve) (ctx : PushAccounts) (args : PullArgs) :
    Ix (Integration × Reserve) :=
  match args with
  | .Kamino _ => processPullKamino controller permission integration reserveA ctx args
  | .Drift _ _ => processPullDrift controller permission integration reserveA ctx args
  | _ => fail (.program .InvalidArgument)

/-- "Pull" tokens out of a downstream protocol and back into a Reserve. -/
def processPull (accounts : List AccountMeta) (instructionData : List UInt8) : Ix Unit := do
  let ctx ← fromAccounts PushAccounts.specs PushAccounts.bind accounts
  let args ← parseArgs PullArgs instructionData
  let (controller, permission, integration, reserveA) ← loadForFlow ctx
  let (integration, reserveA) ← processPullProtocol controller permission integration reserveA
    ctx args
  save ctx.integration (.integration integration)
  save ctx.reserveA (.reserve reserveA)

end AlmController
