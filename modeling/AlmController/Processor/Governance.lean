import AlmController.Instructions
import AlmController.Ledger

/-!
# Controllers and permissions

InitializeController, ManageController, ManagePermission and ClaimRent: the
instructions that decide who may do what, and none of which moves a token.
-/

namespace AlmController

open Prog

variable [Chain]

/-! ## InitializeController -/

structure InitializeControllerAccounts where
  payer : AccountMeta
  authority : AccountMeta
  controller : AccountMeta
  controllerAuthority : AccountMeta
  permission : AccountMeta
  programId : AccountMeta
  systemProgram : AccountMeta

def InitializeControllerAccounts.specs : List AccountSpec :=
  [{ attrs := [.signer, .writable] },
    { attrs := [.signer] },
    { attrs := [.writable, .empty], owner := some [SYSTEM_PROGRAM_ID] },
    { attrs := [.empty], owner := some [SYSTEM_PROGRAM_ID] },
    { attrs := [.writable, .empty], owner := some [SYSTEM_PROGRAM_ID] },
    { pubkey := some [ID] },
    { pubkey := some [SYSTEM_PROGRAM_ID] }]

def InitializeControllerAccounts.bind :
    List AccountMeta → Option InitializeControllerAccounts
  | payer :: authority :: controller :: controllerAuthority :: permission :: programId ::
      systemProgram :: _ =>
    some ⟨payer, authority, controller, controllerAuthority, permission, programId,
      systemProgram⟩
  | _ => none

/-- `Permission::init_account`. -/
def Permission.initAccount (account payer : AccountMeta) (controller authority : Pubkey)
    (status : PermissionStatus)
    (canManagePermissions canInvokeExternalTransfer canExecuteSwap canReallocate
      canFreezeController canUnfreezeController canManageReservesAndIntegrations
      canSuspendPermissions canLiquidate : Bool) : Ix Permission := do
  let permission : Permission :=
    { controller, authority, status, canManagePermissions, canInvokeExternalTransfer,
      canExecuteSwap, canReallocate, canFreezeController, canUnfreezeController,
      canManageReservesAndIntegrations, canSuspendPermissions, canLiquidate, padding := 0 }
  AlmController.initAccount account payer permission.seeds (.permission permission)
  return permission

/-- Initialize a Controller, with a new super Permission. -/
def processInitializeController (accounts : List AccountMeta) (instructionData : List UInt8) :
    Ix Unit := do
  let ctx ← fromAccounts InitializeControllerAccounts.specs InitializeControllerAccounts.bind
    accounts
  -- Instruction is permissioned by the Keel multisig.
  rejectIf (ctx.authority.pubkey ≠ KEEL_DEPLOYER_MSIG)
    (SvmAlmControllerErrors.UnauthorizedAction : Error)
  let args ← parseArgs InitializeControllerArgs instructionData
  rejectIf (args.status = .AtomicSwapLock) (.program .InvalidArgument)
  let controller ← Controller.initAccount ctx.controller ctx.controllerAuthority ctx.payer args.id
    args.status
  -- Only can manage permissions to begin with.
  let permission ← Permission.initAccount ctx.permission ctx.payer ctx.controller.pubkey
    ctx.authority.pubkey .Active true false false false false false false false false
  emitEvent controller ctx.controllerAuthority.pubkey ctx.controller.pubkey
    (.ControllerUpdate
      { controller := ctx.controller.pubkey
        authority := ctx.authority.pubkey
        account := ctx.controller.pubkey
        oldState := none
        newState := some controller })
  emitEvent controller ctx.controllerAuthority.pubkey ctx.controller.pubkey
    (.PermissionUpdate
      { controller := ctx.controller.pubkey
        authority := ctx.authority.pubkey
        account := ctx.permission.pubkey
        oldState := none
        newState := some permission })

/-! ## ManageController -/

structure ManageControllerAccounts where
  controller : AccountMeta
  controllerAuthority : AccountMeta
  authority : AccountMeta
  permission : AccountMeta
  programId : AccountMeta

def ManageControllerAccounts.specs : List AccountSpec :=
  [{ attrs := [.writable], owner := some [ID] },
    { attrs := [.empty], owner := some [SYSTEM_PROGRAM_ID] },
    { attrs := [.signer] },
    { owner := some [ID] },
    { pubkey := some [ID] }]

def ManageControllerAccounts.bind : List AccountMeta → Option ManageControllerAccounts
  | controller :: controllerAuthority :: authority :: permission :: programId :: _ =>
    some ⟨controller, controllerAuthority, authority, permission, programId⟩
  | _ => none

/-- Whether a permission may set the status. AtomicSwapLock is only set during atomic
    swap borrow, and reverted in repay. -/
def Permission.maySetStatus (self : Permission) : ControllerStatus → Prop
  | .Active => self.mayUnfreezeController
  | .PushPullFrozen => self.mayFreezeController
  | .Frozen => self.mayFreezeController
  | .AtomicSwapLock => False

instance (self : Permission) (status : ControllerStatus) : Decidable (self.maySetStatus status) := by
  cases status <;> unfold Permission.maySetStatus <;> infer_instance

/-- Change a Controller's status. -/
def processManageController (accounts : List AccountMeta) (instructionData : List UInt8) :
    Ix Unit := do
  let ctx ← fromAccounts ManageControllerAccounts.specs ManageControllerAccounts.bind accounts
  let args ← parseArgs ManageControllerArgs instructionData
  let controller ← Controller.loadAndCheck ctx.controller ctx.controllerAuthority.pubkey
  -- A frozen controller can only become Active.
  rejectIf (controller.isFrozen ∧ args.status ≠ .Active)
    (SvmAlmControllerErrors.ControllerFrozen : Error)
  let permission ← Permission.loadAndCheck ctx.permission ctx.controller.pubkey
    ctx.authority.pubkey
  rejectIf (¬ permission.maySetStatus args.status)
    (SvmAlmControllerErrors.UnauthorizedAction : Error)
  let updated ← controller.updateAndSave ctx.controller args.status
  emitEvent updated ctx.controllerAuthority.pubkey ctx.controller.pubkey
    (.ControllerUpdate
      { controller := ctx.controller.pubkey
        authority := ctx.authority.pubkey
        account := ctx.controller.pubkey
        oldState := some controller
        newState := some updated })

/-! ## ManagePermission -/

structure ManagePermissionAccounts where
  payer : AccountMeta
  controller : AccountMeta
  controllerAuthority : AccountMeta
  superAuthority : AccountMeta
  superPermission : AccountMeta
  authority : AccountMeta
  permission : AccountMeta
  programId : AccountMeta
  systemProgram : AccountMeta

def ManagePermissionAccounts.specs : List AccountSpec :=
  [{ attrs := [.signer, .writable] },
    { owner := some [ID] },
    { attrs := [.empty], owner := some [SYSTEM_PROGRAM_ID] },
    { attrs := [.signer] },
    { owner := some [ID] },
    {},
    { attrs := [.writable], owner := some [ID, SYSTEM_PROGRAM_ID] },
    { pubkey := some [ID] },
    { pubkey := some [SYSTEM_PROGRAM_ID] }]

def ManagePermissionAccounts.bind : List AccountMeta → Option ManagePermissionAccounts
  | payer :: controller :: controllerAuthority :: superAuthority :: superPermission ::
      authority :: permission :: programId :: systemProgram :: _ =>
    some ⟨payer, controller, controllerAuthority, superAuthority, superPermission, authority,
      permission, programId, systemProgram⟩
  | _ => none

/-- `verify_system_account`. -/
def verifySystemAccount (info : AccountMeta) (isWritable : Bool) : Ix Unit := do
  let w ← read id
  rejectIf (w.owner info.pubkey ≠ SYSTEM_PROGRAM_ID) (.program .InvalidAccountOwner)
  rejectIf (¬ w.dataIsEmpty info.pubkey) (.program .AccountAlreadyInitialized)
  rejectIf (isWritable = true ∧ info.isWritable = false) (.program .InvalidAccountData)

/-- A super Permission creates or updates a Permission: the new value and the old. -/
def managePermission (ctx : ManagePermissionAccounts) (args : ManagePermissionArgs) :
    Ix (Permission × Option Permission) := do
  let w ← read id
  if w.dataIsEmpty ctx.permission.pubkey then do
    verifySystemAccount ctx.permission true
    let permission ← Permission.initAccount ctx.permission ctx.payer ctx.controller.pubkey
      ctx.authority.pubkey args.status args.canManagePermissions args.canInvokeExternalTransfer
      args.canExecuteSwap args.canReallocate args.canFreezeController args.canUnfreezeController
      args.canManageReservesAndIntegrations args.canSuspendPermissions args.canLiquidate
    return (permission, none)
  else do
    let permission ← Permission.loadAndCheck ctx.permission ctx.controller.pubkey
      ctx.authority.pubkey
    let updated := permission.update (some args.status) (some args.canManagePermissions)
      (some args.canInvokeExternalTransfer) (some args.canExecuteSwap) (some args.canReallocate)
      (some args.canFreezeController) (some args.canUnfreezeController)
      (some args.canManageReservesAndIntegrations) (some args.canSuspendPermissions)
      (some args.canLiquidate)
    save ctx.permission (.permission updated)
    return (updated, some permission)

/-- A Permission with `canSuspendPermissions` suspends, and only suspends, an existing
    Permission. -/
def suspendPermission (ctx : ManagePermissionAccounts) (args : ManagePermissionArgs) :
    Ix (Permission × Option Permission) := do
  rejectIf (args.status ≠ .Suspended) (SvmAlmControllerErrors.UnauthorizedAction : Error)
  let permission ← Permission.loadAndCheck ctx.permission ctx.controller.pubkey
    ctx.authority.pubkey
  -- Suspending a manager could leave nobody who can undo it.
  rejectIf permission.mayManagePermissions (SvmAlmControllerErrors.UnauthorizedAction : Error)
  let updated := permission.update (some args.status) none none none none none none none none none
  save ctx.permission (.permission updated)
  return (updated, some permission)

/-- Which of the two a permission may do. -/
def changePermission (superPermission : Permission) (ctx : ManagePermissionAccounts)
    (args : ManagePermissionArgs) : Ix (Permission × Option Permission) :=
  if superPermission.mayManagePermissions then managePermission ctx args
  else if superPermission.maySuspendPermissions then suspendPermission ctx args
  else fail (SvmAlmControllerErrors.UnauthorizedAction : Error)

/-- Change or create a Permission. -/
def processManagePermission (accounts : List AccountMeta) (instructionData : List UInt8) :
    Ix Unit := do
  let ctx ← fromAccounts ManagePermissionAccounts.specs ManagePermissionAccounts.bind accounts
  let args ← parseArgs ManagePermissionArgs instructionData
  -- A permission cannot suspend itself or give up managing permissions.
  rejectIf (ctx.permission.pubkey = ctx.superPermission.pubkey ∧
      (args.status = .Suspended ∨ args.canManagePermissions = false))
    (SvmAlmControllerErrors.InvalidPermission : Error)
  let controller ← Controller.loadAndCheck ctx.controller ctx.controllerAuthority.pubkey
  controller.rejectHalted
  let superPermission ← Permission.loadAndCheck ctx.superPermission ctx.controller.pubkey
    ctx.superAuthority.pubkey
  let (permission, oldState) ← changePermission superPermission ctx args
  emitEvent controller ctx.controllerAuthority.pubkey ctx.controller.pubkey
    (.PermissionUpdate
      { controller := ctx.controller.pubkey
        authority := ctx.authority.pubkey
        account := ctx.permission.pubkey
        oldState := oldState
        newState := some permission })

/-! ## ClaimRent -/

structure ClaimRentAccounts where
  controller : AccountMeta
  controllerAuthority : AccountMeta
  authority : AccountMeta
  permission : AccountMeta
  destination : AccountMeta
  systemProgram : AccountMeta

def ClaimRentAccounts.specs : List AccountSpec :=
  [{ owner := some [ID] },
    { attrs := [.writable, .empty], owner := some [SYSTEM_PROGRAM_ID] },
    { attrs := [.signer] },
    { owner := some [ID] },
    { attrs := [.writable] },
    { pubkey := some [SYSTEM_PROGRAM_ID] }]

def ClaimRentAccounts.bind : List AccountMeta → Option ClaimRentAccounts
  | controller :: controllerAuthority :: authority :: permission :: destination ::
      systemProgram :: _ =>
    some ⟨controller, controllerAuthority, authority, permission, destination, systemProgram⟩
  | _ => none

/-- Send the lamports of the controller's authority to a destination. -/
def processClaimRent (accounts : List AccountMeta) : Ix Unit := do
  let ctx ← fromAccounts ClaimRentAccounts.specs ClaimRentAccounts.bind accounts
  let controller ← Controller.loadAndCheck ctx.controller ctx.controllerAuthority.pubkey
  rejectIf (¬ controller.isActive)
    (SvmAlmControllerErrors.ControllerStatusDoesNotPermitAction : Error)
  let permission ← Permission.loadAndCheck ctx.permission ctx.controller.pubkey
    ctx.authority.pubkey
  rejectIf (permission.status ≠ .Active)
    (SvmAlmControllerErrors.PermissionStatusDoesNotPermitAction : Error)
  rejectIf (permission.canReallocate = false) (.program .IncorrectAuthority)
  let w ← read id
  let lamports := (w.bank ctx.controllerAuthority.pubkey).lamports
  rejectIf (lamports = 0) (.program .InsufficientFunds)
  invokeSigned (.systemTransfer ctx.controllerAuthority.pubkey ctx.destination.pubkey lamports)
    ctx.controller.pubkey controller

end AlmController
