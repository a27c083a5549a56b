import AlmController.Integrations.Context

/-!
# What the lending integrations share

The tokens the Controller has a claim on change on their own, as interest accrues.
The change is reported whenever the program looks.
-/

namespace AlmController

open Prog

variable [Chain]

/-- `emit_lending_balance_sync_event`. -/
def emitLendingBalanceSyncEvent (controller : Controller) (integrationPubkey controllerPubkey
    controllerAuthority mint : Pubkey) (prevBalance newBalance : UInt64) : Ix Unit :=
  onlyIf (prevBalance ≠ newBalance)
    (emitEvent controller controllerAuthority controllerPubkey
      (integrationEvent controllerPubkey integrationPubkey mint .Sync
        (newBalance.absDiff prevBalance)
        (if prevBalance < newBalance then .Credit else .Debit)))

/-- `is_account_empty`. -/
def isAccountEmpty (w : World) (account : Pubkey) : Prop :=
  w.dataIsEmpty account ∧ w.owner account = SYSTEM_PROGRAM_ID

omit [Chain] in
instance (w : World) (account : Pubkey) : Decidable (isAccountEmpty w account) :=
  inferInstanceAs (Decidable (_ ∧ _))

/-- A derived address of another program. -/
def deriveAddress (seeds : List (List UInt8)) (program : Pubkey) : Except Error Pubkey :=
  (findAddress seeds program).map Prod.fst

/-- Insist on a derived address. -/
def checkDerived (account : AccountMeta) (seeds : List (List UInt8)) (program : Pubkey) :
    Ix Unit := do
  let pda ← ofExcept (deriveAddress seeds program)
  rejectIf (account.pubkey ≠ pda) (SvmAlmControllerErrors.InvalidPda : Error)

end AlmController
