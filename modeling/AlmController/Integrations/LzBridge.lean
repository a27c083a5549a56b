import AlmController.Integrations.Context
import AlmController.Introspection

/-!
# LayerZero bridge

An Integration that bridges tokens with an OFT program's Send. The Send is too large
to be invoked, so a push is spread over the last three instructions of a
transaction: Push moves the tokens to the authority's own token account and checks
that the next instruction is the matching Send; the last one, ResetLzPushInFlight,
clears the flag that Push set.
-/

namespace AlmController

open Prog

variable [Chain]

/-! ## Initialize -/

structure InitializeLzBridgeAccounts where
  mint : AccountMeta
  oftStore : AccountMeta
  peerConfig : AccountMeta
  oftProgram : AccountMeta
  tokenEscrow : AccountMeta

/-- No addresses are enforced for the accounts of the OFT, in order to support several
    OFT programs. -/
def InitializeLzBridgeAccounts.specs : List AccountSpec :=
  [{ owner := some [TOKEN_PROGRAM_ID, TOKEN_2022_PROGRAM_ID] }, {}, {}, {}, {}]

def InitializeLzBridgeAccounts.bind : List AccountMeta → Option InitializeLzBridgeAccounts
  | mint :: oftStore :: peerConfig :: oftProgram :: tokenEscrow :: _ =>
    some ⟨mint, oftStore, peerConfig, oftProgram, tokenEscrow⟩
  | _ => none

/-- `InitializeLzBridgeAccounts::checked_from_accounts`. -/
def InitializeLzBridgeAccounts.checkedFromAccounts (accountInfos : List AccountMeta) :
    Ix InitializeLzBridgeAccounts := do
  let ctx ← fromAccounts specs bind accountInfos
  validateMintExtensions ctx.mint.pubkey [.TransferFeeConfig]
  let w ← read id
  rejectIf (w.owner ctx.oftStore.pubkey ≠ ctx.oftProgram.pubkey) (.program .InvalidAccountOwner)
  rejectIf (w.owner ctx.peerConfig.pubkey ≠ ctx.oftProgram.pubkey) (.program .InvalidAccountOwner)
  return ctx

/-- The destination, when the arguments are those of this protocol. -/
def InitializeArgs.lzBridge? : InitializeArgs → Option (Pubkey × UInt32)
  | .LzBridge destinationAddress destinationEid => some (destinationAddress, destinationEid)
  | _ => none

def OFT_PEER_CONFIG_SEED : List UInt8 := asciiBytes "Peer"

/-- `to_be_bytes` of a `u32`. -/
def u32BytesBe (n : UInt32) : List UInt8 := (Borsh.write n).reverse

def processInitializeLzBridge (outerCtx : InitializeIntegrationAccounts)
    (outerArgs : InitializeIntegrationArgs) : Ix (IntegrationConfig × IntegrationState) := do
  let innerCtx ← InitializeLzBridgeAccounts.checkedFromAccounts outerCtx.remainingAccounts
  let (destinationAddress, destinationEid) ← ofOption outerArgs.innerArgs.lzBridge?
    (.program .InvalidArgument)
  let oftStore ← readData innerCtx.oftStore.pubkey ExtData.oftStore?
  rejectIf (oftStore.tokenMint ≠ innerCtx.mint.pubkey) (.program .InvalidAccountData)
  rejectIf (oftStore.tokenEscrow ≠ innerCtx.tokenEscrow.pubkey) (.program .InvalidAccountData)
  let (expectedPeerConfigPda, _) ← ofExcept
    (findAddress
      [OFT_PEER_CONFIG_SEED, innerCtx.oftStore.pubkey.bytes, u32BytesBe destinationEid]
      innerCtx.oftProgram.pubkey)
  rejectIf (innerCtx.peerConfig.pubkey ≠ expectedPeerConfigPda)
    (SvmAlmControllerErrors.InvalidPda : Error)
  let _ ← readData innerCtx.peerConfig.pubkey ExtData.peerConfig?
  return (
    .LzBridge
      { program := innerCtx.oftProgram.pubkey
        mint := innerCtx.mint.pubkey
        oftStore := innerCtx.oftStore.pubkey
        peerConfig := innerCtx.peerConfig.pubkey
        oftTokenEscrow := innerCtx.tokenEscrow.pubkey
        destinationAddress := destinationAddress
        destinationEid := destinationEid
        padding := 0 },
    .LzBridge { pushInFlight := false, padding := 0 })

/-! ## The Send that must follow -/

structure PushLzBridgeAccounts where
  mint : AccountMeta
  vault : AccountMeta
  authorityTokenAccount : AccountMeta
  tokenProgram : AccountMeta
  associatedTokenProgram : AccountMeta
  systemProgram : AccountMeta
  sysvarInstruction : AccountMeta

def PushLzBridgeAccounts.specs : List AccountSpec :=
  [{ owner := some [TOKEN_PROGRAM_ID, TOKEN_2022_PROGRAM_ID] },
    { owner := some [TOKEN_PROGRAM_ID, TOKEN_2022_PROGRAM_ID] },
    {},
    { pubkey := some [TOKEN_PROGRAM_ID, TOKEN_2022_PROGRAM_ID] },
    { pubkey := some [ASSOCIATED_TOKEN_PROGRAM_ID] },
    { pubkey := some [SYSTEM_PROGRAM_ID] },
    { pubkey := some [INSTRUCTIONS_ID] }]

def PushLzBridgeAccounts.bind : List AccountMeta → Option PushLzBridgeAccounts
  | mint :: vault :: authorityTokenAccount :: tokenProgram :: associatedTokenProgram ::
      systemProgram :: sysvarInstruction :: _ =>
    some ⟨mint, vault, authorityTokenAccount, tokenProgram, associatedTokenProgram,
      systemProgram, sysvarInstruction⟩
  | _ => none

/-- The configuration, when it is one of this protocol. -/
def IntegrationConfig.lzBridge? : IntegrationConfig → Option LzBridgeConfig
  | .LzBridge config => some config
  | _ => none

/-- `PushLzBridgeAccounts::checked_from_accounts`. -/
def PushLzBridgeAccounts.checkedFromAccounts (config : IntegrationConfig)
    (accountInfos : List AccountMeta) : Ix PushLzBridgeAccounts := do
  let ctx ← fromAccounts specs bind accountInfos
  let config ← ofOption config.lzBridge? (.program .InvalidAccountData)
  rejectIf (ctx.mint.pubkey ≠ config.mint) (.program .InvalidAccountData)
  return ctx

/-- The arguments of an OFT Send, as far as they are checked. -/
structure OftSendParams where
  dstEid : UInt32
  /-- `to`. -/
  toAddress : ByteArr 32
  amountLd : UInt64
  deriving DecidableEq, Repr

instance : Borsh OftSendParams :=
  Borsh.record (fun p => (p.dstEid, p.toAddress, p.amountLd)) (fun (a, b, c) => ⟨a, b, c⟩)
    (fun _ => rfl) (fun _ => rfl)

/-- The first eight bytes of the hash of `global:send`. -/
def OftSendParams.DISCRIMINATOR : List UInt8 := [102, 251, 20, 187, 65, 75, 12, 69]

def OftSendParams.TRUNCATED_LEN : Nat := 4 + 32 + 8

/-- `OftSendParams::deserialize`, whose slices panic on short data. -/
def OftSendParams.deserialize (data : List UInt8) : Except Error OftSendParams := do
  check (data.length < 8) (.panic .index)
  check (data.take 8 ≠ DISCRIMINATOR) (.program .InvalidAccountData)
  check (data.length < TRUNCATED_LEN + 8) (.panic .index)
  okOr (Borsh.tryFromSlice ((data.drop 8).take TRUNCATED_LEN)) (.program .InvalidAccountData)

/-- Index of the Integration account in a ResetLzPushInFlight. -/
def RESET_LZ_PUSH_INTEGRATION_INDEX : Nat := 1

/-- `verify_send_ix_in_tx`: the transaction ends in Push, Send and Reset, and the Send
    is the one that this push pays for. -/
def verifySendIxInTx (tx : TxContext) (authority : Pubkey) (accounts : PushLzBridgeAccounts)
    (config : LzBridgeConfig) (integrationPubkey : Pubkey) (amount : UInt64) :
    Except Error Unit := do
  check (tx.ixLen < 3) (SvmAlmControllerErrors.InvalidInstructions : Error)
  check (tx.loadCurrentIndex ≠ tx.ixLen - 3)
    (SvmAlmControllerErrors.InvalidInstructionIndex : Error)
  -- the last instruction resets the same Integration
  let resetIx ← tx.loadInstructionAt (tx.ixLen - 1)
  check (resetIx.programId ≠ ID) (SvmAlmControllerErrors.InvalidInstructions : Error)
  let resetDisc ← okOr resetIx.data[0]? (.panic .index)
  check (resetDisc ≠ RESET_LZ_PUSH_IN_FLIGHT_DISC)
    (SvmAlmControllerErrors.InvalidInstructions : Error)
  let resetIntegration ← resetIx.getAccountKeyAt RESET_LZ_PUSH_INTEGRATION_INDEX
  check (resetIntegration ≠ integrationPubkey)
    (SvmAlmControllerErrors.InvalidInstructions : Error)
  -- the one before it sends what is pushed here
  let oftSendIx ← tx.loadInstructionAt (tx.ixLen - 2)
  check (oftSendIx.programId ≠ config.program)
    (SvmAlmControllerErrors.InvalidInstructions : Error)
  let sendArgs ← OftSendParams.deserialize oftSendIx.data
  let signer ← oftSendIx.getAccountKeyAt 0
  let peerConfig ← oftSendIx.getAccountKeyAt 1
  let oftStore ← oftSendIx.getAccountKeyAt 2
  let tokenSource ← oftSendIx.getAccountKeyAt 3
  let oftTokenEscrow ← oftSendIx.getAccountKeyAt 4
  let tokenMint ← oftSendIx.getAccountKeyAt 5
  let tokenProgram ← oftSendIx.getAccountKeyAt 6
  check (signer ≠ authority ∨ peerConfig ≠ config.peerConfig ∨ oftStore ≠ config.oftStore ∨
      tokenSource ≠ accounts.authorityTokenAccount.pubkey ∨
      oftTokenEscrow ≠ config.oftTokenEscrow ∨ tokenMint ≠ accounts.mint.pubkey ∨
      tokenProgram ≠ accounts.tokenProgram.pubkey)
    (SvmAlmControllerErrors.InvalidInstructions : Error)
  check (sendArgs.amountLd ≠ amount ∨ sendArgs.toAddress ≠ config.destinationAddress ∨
      sendArgs.dstEid ≠ config.destinationEid)
    (SvmAlmControllerErrors.InvalidInstructions : Error)

/-! ## Push -/

/-- The amount, when the arguments are those of this protocol. -/
def PushArgs.lzBridge? : PushArgs → Option UInt64
  | .LzBridge amount => some amount
  | _ => none

/-- The state, when it is one of this protocol. -/
def IntegrationState.lzBridge? : IntegrationState → Option LzBridgeState
  | .LzBridge state => some state
  | _ => none

def processPushLzBridge (tx : TxContext) (controller : Controller) (permission : Permission)
    (integration : Integration) (reserveA : Reserve) (outerCtx : PushAccounts)
    (outerArgs : PushArgs) : Ix (Integration × Reserve) := do
  let amount ← ofOption outerArgs.lzBridge? (.program .InvalidAccountData)
  rejectIf (amount = 0) (.program .InvalidArgument)
  rejectIf (¬ permission.mayReallocate ∧ ¬ permission.mayLiquidate integration)
    (.program .IncorrectAuthority)
  let innerCtx ← PushLzBridgeAccounts.checkedFromAccounts integration.config
    outerCtx.remainingAccounts
  let config ← ofOption integration.config.lzBridge? (.program .InvalidAccountData)
  -- no push may be in flight, and from here on one is
  let state ← ofOption integration.state.lzBridge? (.program .InvalidAccountData)
  rejectIf (state.pushInFlight = true) (SvmAlmControllerErrors.LZPushInFlight : Error)
  let inFlight := { integration with state := .LzBridge { state with pushInFlight := true } }
  rejectIf (innerCtx.vault.pubkey ≠ reserveA.vault) (.program .InvalidAccountData)
  rejectIf (innerCtx.mint.pubkey ≠ reserveA.mint) (.program .InvalidAccountData)
  ofExcept (verifySendIxInTx tx outerCtx.authority.pubkey innerCtx config
    outerCtx.integration.pubkey amount)
  -- Sync the balance before doing anything else.
  let synced ← reserveA.syncBalance innerCtx.vault outerCtx.controllerAuthority.pubkey
    outerCtx.controller.pubkey controller
  invoke (.createIdempotent
    { fundingAccount := outerCtx.authority.pubkey
      account := innerCtx.authorityTokenAccount.pubkey
      wallet := outerCtx.authority.pubkey
      mint := innerCtx.mint.pubkey
      systemProgram := innerCtx.systemProgram.pubkey
      tokenProgram := innerCtx.tokenProgram.pubkey })
  -- to where the OFT Send will burn or lock the tokens
  let mint ← Mint.fromAccountInfo innerCtx.mint.pubkey
  controller.transferTokens outerCtx.controller.pubkey outerCtx.controllerAuthority.pubkey
    innerCtx.vault.pubkey innerCtx.authorityTokenAccount.pubkey innerCtx.mint.pubkey amount
    mint.decimals innerCtx.tokenProgram.pubkey
  settlePush controller outerCtx innerCtx.vault.pubkey innerCtx.mint.pubkey .BridgeSend amount
    synced.lastBalance inFlight synced

/-! ## ResetLzPushInFlight -/

structure ResetLzPushInFlight where
  controller : AccountMeta
  integration : AccountMeta
  sysvarInstruction : AccountMeta

def ResetLzPushInFlight.specs : List AccountSpec :=
  [{ owner := some [ID] },
    { attrs := [.writable], owner := some [ID] },
    { pubkey := some [INSTRUCTIONS_ID] }]

def ResetLzPushInFlight.bind : List AccountMeta → Option ResetLzPushInFlight
  | controller :: integration :: sysvarInstruction :: _ =>
    some ⟨controller, integration, sysvarInstruction⟩
  | _ => none

/-- `validate_instruction`: this is the last instruction of the transaction, and not
    a call from another program. -/
def validateInstruction (tx : TxContext) : Except Error Unit := do
  check (tx.loadCurrentIndex ≠ tx.ixLen - 1)
    (SvmAlmControllerErrors.InvalidInstructionIndex : Error)
  let currIx ← tx.loadInstructionAt tx.loadCurrentIndex
  check (currIx.programId ≠ ID) (.program .IncorrectProgramId)
  let currDisc ← okOr currIx.data[0]? (.panic .index)
  check (currDisc ≠ RESET_LZ_PUSH_IN_FLIGHT_DISC)
    (SvmAlmControllerErrors.InvalidInstructions : Error)

/-- Clear the in-flight flag; permissionless, and blind to the controller's status. -/
def processResetLzPushInFlight (tx : TxContext) (accounts : List AccountMeta) : Ix Unit := do
  let ctx ← fromAccounts ResetLzPushInFlight.specs ResetLzPushInFlight.bind accounts
  ofExcept (validateInstruction tx)
  let integration ← Integration.loadAndCheck ctx.integration ctx.controller.pubkey
  let state ← ofOption integration.state.lzBridge? (.program .InvalidAccountData)
  save ctx.integration
    (.integration { integration with state := .LzBridge { state with pushInFlight := false } })

end AlmController
