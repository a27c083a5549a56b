import AlmController.Instructions
import AlmController.Metering

/-!
# What the integrations share

The outer accounts that the dispatchers hand to a protocol's own processor, and the
end of a push, which the external transfer and the two bridges have in common.

A protocol's processor works on the Integration and the Reserve that the dispatcher
loaded, and returns them; the dispatcher saves both.
-/

namespace AlmController

open Prog

variable [Chain]

/-! ## Outer accounts -/

structure InitializeIntegrationAccounts where
  payer : AccountMeta
  controller : AccountMeta
  controllerAuthority : AccountMeta
  authority : AccountMeta
  permission : AccountMeta
  integration : AccountMeta
  programId : AccountMeta
  systemProgram : AccountMeta
  remainingAccounts : List AccountMeta

def InitializeIntegrationAccounts.specs : List AccountSpec :=
  [{ attrs := [.signer, .writable] },
    { owner := some [ID] },
    { attrs := [.empty], owner := some [SYSTEM_PROGRAM_ID] },
    { attrs := [.signer] },
    { owner := some [ID] },
    { attrs := [.writable, .empty], owner := some [SYSTEM_PROGRAM_ID] },
    { pubkey := some [ID] },
    { pubkey := some [SYSTEM_PROGRAM_ID] }]

def InitializeIntegrationAccounts.bind :
    List AccountMeta → Option InitializeIntegrationAccounts
  | payer :: controller :: controllerAuthority :: authority :: permission :: integration ::
      programId :: systemProgram :: remainingAccounts =>
    some ⟨payer, controller, controllerAuthority, authority, permission, integration, programId,
      systemProgram, remainingAccounts⟩
  | _ => none

/-- The accounts of Push, and of Pull: the two structs of the source are the same. Not
    all Integrations require more than one Reserve, and each checks its own remaining
    accounts. -/
structure PushAccounts where
  controller : AccountMeta
  controllerAuthority : AccountMeta
  authority : AccountMeta
  permission : AccountMeta
  integration : AccountMeta
  reserveA : AccountMeta
  programId : AccountMeta
  remainingAccounts : List AccountMeta

def PushAccounts.specs : List AccountSpec :=
  [{ owner := some [ID] },
    { attrs := [.writable, .empty], owner := some [SYSTEM_PROGRAM_ID] },
    { attrs := [.signer] },
    { owner := some [ID] },
    { attrs := [.writable], owner := some [ID] },
    { attrs := [.writable], owner := some [ID] },
    { pubkey := some [ID] }]

def PushAccounts.bind : List AccountMeta → Option PushAccounts
  | controller :: controllerAuthority :: authority :: permission :: integration :: reserveA ::
      programId :: remainingAccounts =>
    some ⟨controller, controllerAuthority, authority, permission, integration, reserveA,
      programId, remainingAccounts⟩
  | _ => none

structure SyncIntegrationAccounts where
  controller : AccountMeta
  controllerAuthority : AccountMeta
  payer : AccountMeta
  integration : AccountMeta
  /-- Synced before rewards are harvested into it. -/
  reserve : AccountMeta
  remainingAccounts : List AccountMeta

def SyncIntegrationAccounts.specs : List AccountSpec :=
  [{ owner := some [ID] },
    { attrs := [.writable, .empty], owner := some [SYSTEM_PROGRAM_ID] },
    { attrs := [.writable, .signer] },
    { attrs := [.writable], owner := some [ID] },
    { attrs := [.writable], owner := some [ID] }]

def SyncIntegrationAccounts.bind : List AccountMeta → Option SyncIntegrationAccounts
  | controller :: controllerAuthority :: payer :: integration :: reserve :: remainingAccounts =>
    some ⟨controller, controllerAuthority, payer, integration, reserve, remainingAccounts⟩
  | _ => none

/-! ## Accounting events -/

/-- An accounting event on a reserve. -/
def reserveEvent (controller reserve mint : Pubkey) (action : AccountingAction) (delta : UInt64)
    (direction : AccountingDirection) : SvmAlmControllerEvent :=
  .AccountingEvent
    { controller := controller
      integration := none
      reserve := some reserve
      mint := mint
      action := action
      delta := delta
      direction := direction }

/-- An accounting event on an integration: each debit of a reserve has its credit, to
    track the flow of funds. -/
def integrationEvent (controller integration mint : Pubkey) (action : AccountingAction)
    (delta : UInt64) (direction : AccountingDirection) : SvmAlmControllerEvent :=
  .AccountingEvent
    { controller := controller
      integration := some integration
      reserve := none
      mint := mint
      action := action
      delta := delta
      direction := direction }

/-! ## The end of a push -/

/-- After the transfer or burn: reload the vault, insist that exactly the amount left,
    book the outflow on the Integration and the Reserve, and emit both events. -/
def settlePush (controller : Controller) (outerCtx : PushAccounts) (vault mint : Pubkey)
    (action : AccountingAction) (amount postSyncBalance : UInt64) (integration : Integration)
    (reserve : Reserve) : Ix (Integration × Reserve) := do
  let clock ← read World.clock
  let vaultAccount ← TokenAccount.fromAccountInfo vault
  let reserveVaultBalanceDelta ← ofOption (postSyncBalance.checkedSub vaultAccount.amount)
    (.panic .unwrap)
  rejectIf (reserveVaultBalanceDelta ≠ amount) (.program .InvalidArgument)
  let integration ← integration.recordOutflow clock reserveVaultBalanceDelta
  let reserve ← reserve.recordOutflow clock reserveVaultBalanceDelta false
  emitEvent controller outerCtx.controllerAuthority.pubkey outerCtx.controller.pubkey
    (reserveEvent outerCtx.controller.pubkey outerCtx.reserveA.pubkey mint action
      reserveVaultBalanceDelta .Debit)
  emitEvent controller outerCtx.controllerAuthority.pubkey outerCtx.controller.pubkey
    (integrationEvent outerCtx.controller.pubkey outerCtx.integration.pubkey mint action
      reserveVaultBalanceDelta .Credit)
  return (integration, reserve)

end AlmController
