import AlmController.Integrations.Context

/-!
# CCTP bridge

An Integration that burns tokens of a Reserve to have them minted on another chain.
-/

namespace AlmController

open Prog

variable [Chain]

/-! ## Initialize -/

structure InitializeCctpBridgeAccounts where
  mint : AccountMeta
  localToken : AccountMeta
  remoteTokenMessenger : AccountMeta
  cctpMessageTransmitter : AccountMeta
  cctpTokenMessengerMinter : AccountMeta

def InitializeCctpBridgeAccounts.specs : List AccountSpec :=
  [{ owner := some [TOKEN_PROGRAM_ID, TOKEN_2022_PROGRAM_ID] },
    { owner := some [CCTP_TOKEN_MESSENGER_MINTER_PROGRAM_ID] },
    { owner := some [CCTP_TOKEN_MESSENGER_MINTER_PROGRAM_ID] },
    { pubkey := some [CCTP_MESSAGE_TRANSMITTER_PROGRAM_ID] },
    { pubkey := some [CCTP_TOKEN_MESSENGER_MINTER_PROGRAM_ID] }]

def InitializeCctpBridgeAccounts.bind : List AccountMeta → Option InitializeCctpBridgeAccounts
  | mint :: localToken :: remoteTokenMessenger :: cctpMessageTransmitter ::
      cctpTokenMessengerMinter :: _ =>
    some ⟨mint, localToken, remoteTokenMessenger, cctpMessageTransmitter,
      cctpTokenMessengerMinter⟩
  | _ => none

/-- `InitializeCctpBridgeAccounts::checked_from_accounts`. -/
def InitializeCctpBridgeAccounts.checkedFromAccounts (accountInfos : List AccountMeta) :
    Ix InitializeCctpBridgeAccounts := do
  let ctx ← fromAccounts specs bind accountInfos
  validateMintExtensions ctx.mint.pubkey []
  return ctx

/-- The destination, when the arguments are those of this protocol. -/
def InitializeArgs.cctpBridge? : InitializeArgs → Option (Pubkey × UInt32)
  | .CctpBridge destinationAddress destinationDomain =>
    some (destinationAddress, destinationDomain)
  | _ => none

def processInitializeCctpBridge (outerCtx : InitializeIntegrationAccounts)
    (outerArgs : InitializeIntegrationArgs) : Ix (IntegrationConfig × IntegrationState) := do
  let innerCtx ← InitializeCctpBridgeAccounts.checkedFromAccounts outerCtx.remainingAccounts
  let (destinationAddress, destinationDomain) ← ofOption outerArgs.innerArgs.cctpBridge?
    (.program .InvalidArgument)
  let localToken ← readData innerCtx.localToken.pubkey ExtData.localToken?
  rejectIf (localToken.mint ≠ innerCtx.mint.pubkey) (.program .InvalidAccountData)
  let remoteTokenMessenger ← readData innerCtx.remoteTokenMessenger.pubkey
    ExtData.remoteTokenMessenger?
  rejectIf (remoteTokenMessenger.domain ≠ destinationDomain) (.program .InvalidAccountData)
  return (
    .CctpBridge
      { cctpTokenMessengerMinter := innerCtx.cctpTokenMessengerMinter.pubkey
        cctpMessageTransmitter := innerCtx.cctpMessageTransmitter.pubkey
        mint := innerCtx.mint.pubkey
        destinationAddress := destinationAddress
        destinationDomain := destinationDomain
        padding := 0 },
    .CctpBridge { padding := 0 })

/-! ## Push -/

structure PushCctpBridgeAccounts where
  mint : AccountMeta
  vault : AccountMeta
  senderAuthorityPda : AccountMeta
  messageTransmitter : AccountMeta
  tokenMessenger : AccountMeta
  remoteTokenMessenger : AccountMeta
  tokenMinter : AccountMeta
  localToken : AccountMeta
  messageSentEventData : AccountMeta
  cctpMessageTransmitter : AccountMeta
  cctpTokenMessengerMinter : AccountMeta
  eventAuthority : AccountMeta
  tokenProgram : AccountMeta
  systemProgram : AccountMeta

def PushCctpBridgeAccounts.specs : List AccountSpec :=
  [{ owner := some [TOKEN_PROGRAM_ID, TOKEN_2022_PROGRAM_ID] },
    { attrs := [.writable], owner := some [TOKEN_PROGRAM_ID, TOKEN_2022_PROGRAM_ID] },
    {},
    {},
    {},
    { owner := some [CCTP_TOKEN_MESSENGER_MINTER_PROGRAM_ID] },
    {},
    { owner := some [CCTP_TOKEN_MESSENGER_MINTER_PROGRAM_ID] },
    { attrs := [.signer] },
    { pubkey := some [CCTP_MESSAGE_TRANSMITTER_PROGRAM_ID] },
    { pubkey := some [CCTP_TOKEN_MESSENGER_MINTER_PROGRAM_ID] },
    {},
    { pubkey := some [TOKEN_PROGRAM_ID, TOKEN_2022_PROGRAM_ID] },
    { pubkey := some [SYSTEM_PROGRAM_ID] }]

def PushCctpBridgeAccounts.bind : List AccountMeta → Option PushCctpBridgeAccounts
  | mint :: vault :: senderAuthorityPda :: messageTransmitter :: tokenMessenger ::
      remoteTokenMessenger :: tokenMinter :: localToken :: messageSentEventData ::
      cctpMessageTransmitter :: cctpTokenMessengerMinter :: eventAuthority :: tokenProgram ::
      systemProgram :: _ =>
    some ⟨mint, vault, senderAuthorityPda, messageTransmitter, tokenMessenger,
      remoteTokenMessenger, tokenMinter, localToken, messageSentEventData,
      cctpMessageTransmitter, cctpTokenMessengerMinter, eventAuthority, tokenProgram,
      systemProgram⟩
  | _ => none

/-- The configuration, when it is one of this protocol. -/
def IntegrationConfig.cctpBridge? : IntegrationConfig → Option CctpBridgeConfig
  | .CctpBridge config => some config
  | _ => none

/-- `PushCctpBridgeAccounts::checked_from_accounts`. -/
def PushCctpBridgeAccounts.checkedFromAccounts (config : IntegrationConfig)
    (accountInfos : List AccountMeta) : Ix PushCctpBridgeAccounts := do
  let ctx ← fromAccounts specs bind accountInfos
  let config ← ofOption config.cctpBridge? (.program .InvalidAccountData)
  rejectIf (ctx.mint.pubkey ≠ config.mint) (.program .InvalidAccountData)
  rejectIf (ctx.cctpTokenMessengerMinter.pubkey ≠ config.cctpTokenMessengerMinter)
    (.program .IncorrectProgramId)
  rejectIf (ctx.cctpMessageTransmitter.pubkey ≠ config.cctpMessageTransmitter)
    (.program .IncorrectProgramId)
  return ctx

/-- The amount, when the arguments are those of this protocol. -/
def PushArgs.cctpBridge? : PushArgs → Option UInt64
  | .CctpBridge amount => some amount
  | _ => none

def processPushCctpBridge (controller : Controller) (permission : Permission)
    (integration : Integration) (reserve : Reserve) (outerCtx : PushAccounts)
    (outerArgs : PushArgs) : Ix (Integration × Reserve) := do
  let amount ← ofOption outerArgs.cctpBridge? (.program .InvalidAccountData)
  rejectIf (amount = 0) (.program .InvalidArgument)
  rejectIf (¬ permission.mayReallocate ∧ ¬ permission.mayLiquidate integration)
    (.program .IncorrectAuthority)
  let innerCtx ← PushCctpBridgeAccounts.checkedFromAccounts integration.config
    outerCtx.remainingAccounts
  let config ← ofOption integration.config.cctpBridge? (.program .InvalidAccountData)
  let localMint ← readData innerCtx.localToken.pubkey ExtData.localToken?
  rejectIf (localMint.mint ≠ innerCtx.mint.pubkey) (.program .InvalidAccountData)
  let remoteTokenMessenger ← readData innerCtx.remoteTokenMessenger.pubkey
    ExtData.remoteTokenMessenger?
  rejectIf (remoteTokenMessenger.domain ≠ config.destinationDomain) (.program .InvalidAccountData)
  rejectIf (innerCtx.vault.pubkey ≠ reserve.vault) (.program .InvalidAccountData)
  rejectIf (innerCtx.mint.pubkey ≠ reserve.mint) (.program .InvalidAccountData)
  -- Sync the balance before doing anything else.
  let synced ← reserve.syncBalance innerCtx.vault outerCtx.controllerAuthority.pubkey
    outerCtx.controller.pubkey controller
  invokeSigned
    (.depositForBurn
      { controllerAuthority := outerCtx.controllerAuthority.pubkey
        eventRentPayer := outerCtx.authority.pubkey
        senderAuthorityPda := innerCtx.senderAuthorityPda.pubkey
        vault := innerCtx.vault.pubkey
        messageTransmitter := innerCtx.messageTransmitter.pubkey
        tokenMessenger := innerCtx.tokenMessenger.pubkey
        remoteTokenMessenger := innerCtx.remoteTokenMessenger.pubkey
        tokenMinter := innerCtx.tokenMinter.pubkey
        localToken := innerCtx.localToken.pubkey
        burnTokenMint := innerCtx.mint.pubkey
        messageSentEventData := innerCtx.messageSentEventData.pubkey
        eventAuthority := innerCtx.eventAuthority.pubkey
        tokenProgram := innerCtx.tokenProgram.pubkey
        amount := amount
        destinationDomain := config.destinationDomain
        mintRecipient := config.destinationAddress })
    outerCtx.controller.pubkey controller
  settlePush controller outerCtx innerCtx.vault.pubkey innerCtx.mint.pubkey .BridgeSend amount
    synced.lastBalance integration synced

end AlmController
