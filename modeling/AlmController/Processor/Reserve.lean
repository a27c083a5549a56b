import AlmController.Instructions
import AlmController.Metering

/-!
# Reserves

InitializeReserve, ManageReserve and SyncReserve.
-/

namespace AlmController

open Prog

variable [Chain]

/-! ## InitializeReserve -/

structure InitializeReserveAccounts where
  payer : AccountMeta
  controller : AccountMeta
  controllerAuthority : AccountMeta
  authority : AccountMeta
  permission : AccountMeta
  reserve : AccountMeta
  mint : AccountMeta
  vault : AccountMeta
  tokenProgram : AccountMeta
  associatedTokenProgram : AccountMeta
  programId : AccountMeta
  systemProgram : AccountMeta

def InitializeReserveAccounts.specs : List AccountSpec :=
  [{ attrs := [.signer, .writable] },
    { owner := some [ID] },
    { attrs := [.empty], owner := some [SYSTEM_PROGRAM_ID] },
    { attrs := [.signer] },
    { owner := some [ID] },
    { attrs := [.writable, .empty], owner := some [SYSTEM_PROGRAM_ID] },
    { owner := some [TOKEN_PROGRAM_ID, TOKEN_2022_PROGRAM_ID] },
    { attrs := [.writable],
      owner := some [TOKEN_PROGRAM_ID, TOKEN_2022_PROGRAM_ID, SYSTEM_PROGRAM_ID] },
    { pubkey := some [TOKEN_PROGRAM_ID, TOKEN_2022_PROGRAM_ID] },
    { pubkey := some [ASSOCIATED_TOKEN_PROGRAM_ID] },
    { pubkey := some [ID] },
    { pubkey := some [SYSTEM_PROGRAM_ID] }]

def InitializeReserveAccounts.bind : List AccountMeta → Option InitializeReserveAccounts
  | payer :: controller :: controllerAuthority :: authority :: permission :: reserve :: mint ::
      vault :: tokenProgram :: associatedTokenProgram :: programId :: systemProgram :: _ =>
    some ⟨payer, controller, controllerAuthority, authority, permission, reserve, mint, vault,
      tokenProgram, associatedTokenProgram, programId, systemProgram⟩
  | _ => none

/-- `Reserve::init_account`. -/
def Reserve.initAccount (account payer : AccountMeta) (controller mint vault : Pubkey)
    (status : ReserveStatus) (rateLimitSlope rateLimitMaxOutflow : UInt64) : Ix Reserve := do
  let clock ← read World.clock
  let reserve := Reserve.init clock controller mint vault status rateLimitSlope
    rateLimitMaxOutflow
  AlmController.initAccount account payer reserve.seeds (.reserve reserve)
  return reserve

/-- Initialize a Controller's Reserve for a given token. -/
def processInitializeReserve (accounts : List AccountMeta) (instructionData : List UInt8) :
    Ix Unit := do
  let ctx ← fromAccounts InitializeReserveAccounts.specs InitializeReserveAccounts.bind accounts
  let args ← parseArgs InitializeReserveArgs instructionData
  let controller ← Controller.loadAndCheck ctx.controller ctx.controllerAuthority.pubkey
  controller.rejectHalted
  let permission ← Permission.loadAndCheck ctx.permission ctx.controller.pubkey
    ctx.authority.pubkey
  rejectIf (¬ permission.mayManageReservesAndIntegrations)
    (SvmAlmControllerErrors.UnauthorizedAction : Error)
  let _ ← Mint.fromAccountInfo ctx.mint.pubkey
  validateMintExtensions ctx.mint.pubkey []
  -- creates the vault, or checks the one that exists
  invoke (.createIdempotent
    { fundingAccount := ctx.payer.pubkey
      account := ctx.vault.pubkey
      wallet := ctx.controllerAuthority.pubkey
      mint := ctx.mint.pubkey
      systemProgram := ctx.systemProgram.pubkey
      tokenProgram := ctx.tokenProgram.pubkey })
  let reserve ← Reserve.initAccount ctx.reserve ctx.payer ctx.controller.pubkey ctx.mint.pubkey
    ctx.vault.pubkey args.status args.rateLimitSlope args.rateLimitMaxOutflow
  emitEvent controller ctx.controllerAuthority.pubkey ctx.controller.pubkey
    (.ReserveUpdate
      { controller := ctx.controller.pubkey
        authority := ctx.authority.pubkey
        account := ctx.reserve.pubkey
        oldState := none
        newState := some reserve })
  -- the initial sync
  let synced ← reserve.syncBalance ctx.vault ctx.controllerAuthority.pubkey ctx.controller.pubkey
    controller
  save ctx.reserve (.reserve synced)

/-! ## ManageReserve -/

structure ManageReserveAccounts where
  controller : AccountMeta
  controllerAuthority : AccountMeta
  authority : AccountMeta
  permission : AccountMeta
  reserve : AccountMeta
  programId : AccountMeta

def ManageReserveAccounts.specs : List AccountSpec :=
  [{ owner := some [ID] },
    { attrs := [.empty], owner := some [SYSTEM_PROGRAM_ID] },
    { attrs := [.signer] },
    { owner := some [ID] },
    { attrs := [.writable], owner := some [ID] },
    { pubkey := some [ID] }]

def ManageReserveAccounts.bind : List AccountMeta → Option ManageReserveAccounts
  | controller :: controllerAuthority :: authority :: permission :: reserve :: programId :: _ =>
    some ⟨controller, controllerAuthority, authority, permission, reserve, programId⟩
  | _ => none

/-- Change a Reserve's status or rate limit parameters. -/
def processManageReserve (accounts : List AccountMeta) (instructionData : List UInt8) :
    Ix Unit := do
  let ctx ← fromAccounts ManageReserveAccounts.specs ManageReserveAccounts.bind accounts
  let args ← parseArgs ManageReserveArgs instructionData
  let controller ← Controller.loadAndCheck ctx.controller ctx.controllerAuthority.pubkey
  controller.rejectHalted
  let permission ← Permission.loadAndCheck ctx.permission ctx.controller.pubkey
    ctx.authority.pubkey
  rejectIf (¬ permission.mayManageReservesAndIntegrations)
    (SvmAlmControllerErrors.UnauthorizedAction : Error)
  let reserve ← Reserve.loadAndCheck ctx.reserve ctx.controller.pubkey
  let clock ← read World.clock
  let updated ← ofExcept
    (reserve.update clock args.status args.rateLimitSlope args.rateLimitMaxOutflow)
  emitEvent controller ctx.controllerAuthority.pubkey ctx.controller.pubkey
    (.ReserveUpdate
      { controller := ctx.controller.pubkey
        authority := ctx.authority.pubkey
        account := ctx.reserve.pubkey
        oldState := some reserve
        newState := some updated })
  save ctx.reserve (.reserve updated)

/-! ## SyncReserve -/

structure SyncReserveAccounts where
  controller : AccountMeta
  controllerAuthority : AccountMeta
  reserve : AccountMeta
  vault : AccountMeta

def SyncReserveAccounts.specs : List AccountSpec :=
  [{ owner := some [ID] },
    { attrs := [.empty], owner := some [SYSTEM_PROGRAM_ID] },
    { attrs := [.writable], owner := some [ID] },
    {}]

def SyncReserveAccounts.bind : List AccountMeta → Option SyncReserveAccounts
  | controller :: controllerAuthority :: reserve :: vault :: _ =>
    some ⟨controller, controllerAuthority, reserve, vault⟩
  | _ => none

/-- Sync a Reserve with its vault; permissionless. -/
def processSyncReserve (accounts : List AccountMeta) : Ix Unit := do
  let ctx ← fromAccounts SyncReserveAccounts.specs SyncReserveAccounts.bind accounts
  let controller ← Controller.loadAndCheck ctx.controller ctx.controllerAuthority.pubkey
  controller.rejectHalted
  let reserve ← Reserve.loadAndCheck ctx.reserve ctx.controller.pubkey
  let synced ← reserve.syncBalance ctx.vault ctx.controllerAuthority.pubkey ctx.controller.pubkey
    controller
  save ctx.reserve (.reserve synced)

end AlmController
