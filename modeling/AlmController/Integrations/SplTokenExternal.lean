import AlmController.Integrations.Context

/-!
# External transfers

An Integration that sends tokens of a Reserve to one recipient outside the
Controller.
-/

namespace AlmController

open Prog

variable [Chain]

/-! ## Initialize -/

structure InitializeSplTokenExternalAccounts where
  mint : AccountMeta
  recipient : AccountMeta
  tokenAccount : AccountMeta
  tokenProgram : AccountMeta
  associatedTokenProgram : AccountMeta

def InitializeSplTokenExternalAccounts.specs : List AccountSpec :=
  [{ owner := some [TOKEN_PROGRAM_ID, TOKEN_2022_PROGRAM_ID] },
    {},
    { attrs := [.writable],
      owner := some [TOKEN_PROGRAM_ID, TOKEN_2022_PROGRAM_ID, SYSTEM_PROGRAM_ID] },
    { pubkey := some [TOKEN_PROGRAM_ID, TOKEN_2022_PROGRAM_ID] },
    { pubkey := some [ASSOCIATED_TOKEN_PROGRAM_ID] }]

def InitializeSplTokenExternalAccounts.bind :
    List AccountMeta → Option InitializeSplTokenExternalAccounts
  | mint :: recipient :: tokenAccount :: tokenProgram :: associatedTokenProgram :: _ =>
    some ⟨mint, recipient, tokenAccount, tokenProgram, associatedTokenProgram⟩
  | _ => none

def processInitializeSplTokenExternal (outerCtx : InitializeIntegrationAccounts) :
    Ix (IntegrationConfig × IntegrationState) := do
  let innerCtx ← fromAccounts InitializeSplTokenExternalAccounts.specs
    InitializeSplTokenExternalAccounts.bind outerCtx.remainingAccounts
  let _ ← Mint.fromAccountInfo innerCtx.mint.pubkey
  validateMintExtensions innerCtx.mint.pubkey []
  invoke (.createIdempotent
    { fundingAccount := outerCtx.payer.pubkey
      account := innerCtx.tokenAccount.pubkey
      wallet := innerCtx.recipient.pubkey
      mint := innerCtx.mint.pubkey
      systemProgram := outerCtx.systemProgram.pubkey
      tokenProgram := innerCtx.tokenProgram.pubkey })
  return (
    .SplTokenExternal
      { program := innerCtx.tokenProgram.pubkey
        mint := innerCtx.mint.pubkey
        recipient := innerCtx.recipient.pubkey
        tokenAccount := innerCtx.tokenAccount.pubkey
        padding := 0 },
    .SplTokenExternal { padding := 0 })

/-! ## Push -/

structure PushSplTokenExternalAccounts where
  mint : AccountMeta
  vault : AccountMeta
  recipient : AccountMeta
  recipientTokenAccount : AccountMeta
  tokenProgram : AccountMeta
  associatedTokenProgram : AccountMeta
  systemProgram : AccountMeta

def PushSplTokenExternalAccounts.specs : List AccountSpec :=
  [{ owner := some [TOKEN_PROGRAM_ID, TOKEN_2022_PROGRAM_ID] },
    { attrs := [.writable], owner := some [TOKEN_PROGRAM_ID, TOKEN_2022_PROGRAM_ID] },
    {},
    { attrs := [.writable],
      owner := some [TOKEN_PROGRAM_ID, TOKEN_2022_PROGRAM_ID, SYSTEM_PROGRAM_ID] },
    { pubkey := some [TOKEN_PROGRAM_ID, TOKEN_2022_PROGRAM_ID] },
    { pubkey := some [ASSOCIATED_TOKEN_PROGRAM_ID] },
    { pubkey := some [SYSTEM_PROGRAM_ID] }]

def PushSplTokenExternalAccounts.bind : List AccountMeta → Option PushSplTokenExternalAccounts
  | mint :: vault :: recipient :: recipientTokenAccount :: tokenProgram ::
      associatedTokenProgram :: systemProgram :: _ =>
    some ⟨mint, vault, recipient, recipientTokenAccount, tokenProgram, associatedTokenProgram,
      systemProgram⟩
  | _ => none

/-- The configuration, when it is one of this protocol. -/
def IntegrationConfig.splTokenExternal? : IntegrationConfig → Option SplTokenExternalConfig
  | .SplTokenExternal config => some config
  | _ => none

/-- `PushSplTokenExternalAccounts::checked_from_accounts`. -/
def PushSplTokenExternalAccounts.checkedFromAccounts (config : IntegrationConfig)
    (accountInfos : List AccountMeta) : Ix PushSplTokenExternalAccounts := do
  let ctx ← fromAccounts specs bind accountInfos
  let config ← ofOption config.splTokenExternal? (.program .InvalidAccountData)
  let w ← read id
  rejectIf (ctx.mint.pubkey ≠ config.mint) (.program .InvalidAccountData)
  rejectIf (w.owner ctx.mint.pubkey ≠ config.program) (.program .InvalidAccountOwner)
  rejectIf (ctx.recipient.pubkey ≠ config.recipient) (.program .InvalidAccountData)
  rejectIf (ctx.recipientTokenAccount.pubkey ≠ config.tokenAccount) (.program .InvalidAccountData)
  rejectIf (w.owner ctx.recipientTokenAccount.pubkey ≠ ctx.tokenProgram.pubkey ∧
      w.owner ctx.recipientTokenAccount.pubkey ≠ SYSTEM_PROGRAM_ID)
    (.program .InvalidAccountOwner)
  rejectIf (ctx.tokenProgram.pubkey ≠ config.program) (.program .IncorrectProgramId)
  return ctx

/-- The amount, when the arguments are those of this protocol. -/
def PushArgs.splTokenExternal? : PushArgs → Option UInt64
  | .SplTokenExternal amount => some amount
  | _ => none

def processPushSplTokenExternal (controller : Controller) (permission : Permission)
    (integration : Integration) (reserve : Reserve) (outerCtx : PushAccounts)
    (outerArgs : PushArgs) : Ix (Integration × Reserve) := do
  let amount ← ofOption outerArgs.splTokenExternal? (.program .InvalidAccountData)
  rejectIf (amount = 0) (.program .InvalidArgument)
  rejectIf (¬ permission.mayInvokeExternalTransfer) (.program .IncorrectAuthority)
  let innerCtx ← PushSplTokenExternalAccounts.checkedFromAccounts integration.config
    outerCtx.remainingAccounts
  rejectIf (innerCtx.vault.pubkey ≠ reserve.vault) (.program .InvalidAccountData)
  rejectIf (innerCtx.mint.pubkey ≠ reserve.mint) (.program .InvalidAccountData)
  -- Sync the reserve before main logic.
  let synced ← reserve.syncBalance innerCtx.vault outerCtx.controllerAuthority.pubkey
    outerCtx.controller.pubkey controller
  invoke (.createIdempotent
    { fundingAccount := outerCtx.authority.pubkey
      account := innerCtx.recipientTokenAccount.pubkey
      wallet := innerCtx.recipient.pubkey
      mint := innerCtx.mint.pubkey
      systemProgram := innerCtx.systemProgram.pubkey
      tokenProgram := innerCtx.tokenProgram.pubkey })
  let mint ← Mint.fromAccountInfo innerCtx.mint.pubkey
  controller.transferTokens outerCtx.controller.pubkey outerCtx.controllerAuthority.pubkey
    innerCtx.vault.pubkey innerCtx.recipientTokenAccount.pubkey innerCtx.mint.pubkey amount
    mint.decimals innerCtx.tokenProgram.pubkey
  settlePush controller outerCtx innerCtx.vault.pubkey innerCtx.mint.pubkey .ExternalTransfer
    amount synced.lastBalance integration synced

end AlmController
