import AlmController.State.RateLimit

/-!
# Controller and Permission

The two accounts that decide who may do what. Only their data and their pure
methods are here; loading, creating and saving them is the business of
`Processor/Shared`.
-/

namespace AlmController

open Prog

structure Controller where
  id : UInt16
  bump : UInt8
  status : ControllerStatus
  authority : Pubkey
  authorityBump : UInt8
  padding : ByteArr 128
  deriving DecidableEq, Repr

namespace Controller

/-- All Controller operations normal. -/
def isActive (self : Controller) : Prop := self.status = .Active

/-- All Controller activity should be halted. -/
def isFrozen (self : Controller) : Prop := self.status = .Frozen

/-- Atomic swap repay can only be called in this status, which only Borrow sets. -/
def isAtomicSwapLocked (self : Controller) : Prop := self.status = .AtomicSwapLock

instance (self : Controller) : Decidable self.isActive := inferInstanceAs (Decidable (_ = _))

instance (self : Controller) : Decidable self.isFrozen := inferInstanceAs (Decidable (_ = _))

instance (self : Controller) : Decidable self.isAtomicSwapLocked :=
  inferInstanceAs (Decidable (_ = _))

/-- The new value that `update_and_save` writes. -/
def update (self : Controller) (status : ControllerStatus) : Except Error Controller := do
  check (self.status = status) (.program .InvalidArgument)
  return { self with status := status }

end Controller

/-- Account that tracks the permissions of a given address for a specific Controller. -/
structure Permission where
  /-- Controller this Permission applies to. -/
  controller : Pubkey
  /-- Address that has the power to use the enabled permissions. -/
  authority : Pubkey
  status : PermissionStatus
  /-- Create or modify other Permissions. -/
  canManagePermissions : Bool
  /-- Push SplTokenExternal transfers to a wallet external from the Controller. -/
  canInvokeExternalTransfer : Bool
  /-- Execute AtomicSwaps. -/
  canExecuteSwap : Bool
  /-- Push and Pull integrations that allocate liquidity. -/
  canReallocate : Bool
  /-- Freeze the Controller. -/
  canFreezeController : Bool
  /-- Unfreeze the Controller. -/
  canUnfreezeController : Bool
  /-- Initialize or update Reserves and Integrations. -/
  canManageReservesAndIntegrations : Bool
  /-- Suspend any Permission, except one with `canManagePermissions`. -/
  canSuspendPermissions : Bool
  /-- Pull funds from external Integrations and Push funds back to Ethereum Mainnet. -/
  canLiquidate : Bool
  padding : ByteArr 30
  deriving DecidableEq, Repr

namespace Permission

/-! The flags only count while the permission is Active; each method below is the
flag's reading under that rule. -/

/-- `self.status == Active && flag`. -/
def allows (self : Permission) (flag : Permission → Bool) : Prop :=
  self.status = .Active ∧ flag self = true

instance (self : Permission) (flag : Permission → Bool) : Decidable (self.allows flag) :=
  inferInstanceAs (Decidable (_ ∧ _))

abbrev mayFreezeController (self : Permission) : Prop := self.allows canFreezeController
abbrev mayUnfreezeController (self : Permission) : Prop := self.allows canUnfreezeController
abbrev mayManagePermissions (self : Permission) : Prop := self.allows canManagePermissions
abbrev maySuspendPermissions (self : Permission) : Prop := self.allows canSuspendPermissions
abbrev mayManageReservesAndIntegrations (self : Permission) : Prop :=
  self.allows canManageReservesAndIntegrations
abbrev mayExecuteSwap (self : Permission) : Prop := self.allows canExecuteSwap
abbrev mayReallocate (self : Permission) : Prop := self.allows canReallocate
abbrev mayInvokeExternalTransfer (self : Permission) : Prop :=
  self.allows canInvokeExternalTransfer

/-- The new value that `update_and_save` writes. The arguments stand in the order of
    the source's parameter list. -/
def update (self : Permission) (status : Option PermissionStatus)
    (canManagePermissions canInvokeExternalTransfer canExecuteSwap canReallocate
      canFreezeController canUnfreezeController canManageReservesAndIntegrations
      canSuspendPermissions canLiquidate : Option Bool) : Permission :=
  { self with
    status := status.getD self.status
    canManagePermissions := canManagePermissions.getD self.canManagePermissions
    canSuspendPermissions := canSuspendPermissions.getD self.canSuspendPermissions
    canInvokeExternalTransfer := canInvokeExternalTransfer.getD self.canInvokeExternalTransfer
    canExecuteSwap := canExecuteSwap.getD self.canExecuteSwap
    canReallocate := canReallocate.getD self.canReallocate
    canFreezeController := canFreezeController.getD self.canFreezeController
    canUnfreezeController := canUnfreezeController.getD self.canUnfreezeController
    canManageReservesAndIntegrations :=
      canManageReservesAndIntegrations.getD self.canManageReservesAndIntegrations
    canLiquidate := canLiquidate.getD self.canLiquidate }

/-- `check_data`: whose permission this is, and for which controller. -/
def checkData (self : Permission) (controller authority : Pubkey) : Except Error Unit := do
  check (self.authority ≠ authority) (.program .IncorrectAuthority)
  check (self.controller ≠ controller)
    (SvmAlmControllerErrors.ControllerDoesNotMatchAccountData : Error)

end Permission

end AlmController
