import AlmController.State.Integration
import AlmController.State.Oracle
import AlmController.State.Reserve

/-!
# Events (`events.rs`)

What the program tells off-chain services, by invoking its own EmitEvent.
-/

namespace AlmController

inductive AccountingAction
  | Sync
  | ExternalTransfer
  | Deposit
  | Withdrawal
  | BridgeSend
  | Swap
  deriving DecidableEq, Repr

inductive AccountingDirection
  /-- Indicates a net outflow of assets. -/
  | Debit
  /-- Indicates a net inflow of assets. -/
  | Credit
  deriving DecidableEq, Repr

structure AccountingEvent where
  controller : Pubkey
  integration : Option Pubkey
  reserve : Option Pubkey
  mint : Pubkey
  action : AccountingAction
  delta : UInt64
  direction : AccountingDirection
  deriving DecidableEq, Repr

/-- An update event: who changed which account of which controller, from what to
    what. The five update events of the source differ in the account type only. -/
structure UpdateEvent (α : Type) where
  authority : Pubkey
  controller : Pubkey
  /-- The account updated; the controller itself in a controller update. -/
  account : Pubkey
  oldState : Option α
  newState : Option α
  deriving DecidableEq, Repr

inductive SvmAlmControllerEvent
  | ControllerUpdate (event : UpdateEvent Controller)
  | PermissionUpdate (event : UpdateEvent Permission)
  | ReserveUpdate (event : UpdateEvent Reserve)
  | IntegrationUpdate (event : UpdateEvent Integration)
  | AccountingEvent (event : AccountingEvent)
  | OracleUpdate (event : UpdateEvent Oracle)
  deriving DecidableEq, Repr

/-- The signed amount of an accounting event: credits count up, debits down. -/
def AccountingEvent.signedDelta (e : AccountingEvent) : Int :=
  match e.direction with
  | .Credit => e.delta.toNat
  | .Debit => -e.delta.toNat

end AlmController
