import AlmController.Integrations.Context
import AlmController.Introspection

/-!
# Atomic swaps

A swap is two instructions of one transaction: Borrow hands out tokens of one
Reserve and locks the Controller, Repay takes back what is left of them and the
tokens of the other Reserve, compares the price with the oracle, and unlocks. What
Borrow leaves for Repay is in the Integration's state.
-/

namespace AlmController

open Prog

variable [Chain]

/-! ## Initialize -/

structure InitializeAtomicSwapAccounts where
  inputMint : AccountMeta
  outputMint : AccountMeta
  oracle : AccountMeta

def InitializeAtomicSwapAccounts.specs : List AccountSpec :=
  [{ owner := some [TOKEN_PROGRAM_ID, TOKEN_2022_PROGRAM_ID] },
    { owner := some [TOKEN_PROGRAM_ID, TOKEN_2022_PROGRAM_ID] },
    { owner := some [ID] }]

def InitializeAtomicSwapAccounts.bind : List AccountMeta → Option InitializeAtomicSwapAccounts
  | inputMint :: outputMint :: oracle :: _ => some ⟨inputMint, outputMint, oracle⟩
  | _ => none

/-- The slippage, staleness, expiry and inversion, when the arguments are those of this
    protocol. -/
def InitializeArgs.atomicSwap? : InitializeArgs → Option (UInt16 × UInt64 × Int64 × Bool)
  | .AtomicSwap maxSlippageBps maxStaleness expiryTimestamp oraclePriceInverted =>
    some (maxSlippageBps, maxStaleness, expiryTimestamp, oraclePriceInverted)
  | _ => none

def processInitializeAtomicSwap (outerCtx : InitializeIntegrationAccounts)
    (outerArgs : InitializeIntegrationArgs) : Ix (IntegrationConfig × IntegrationState) := do
  let innerCtx ← fromAccounts InitializeAtomicSwapAccounts.specs InitializeAtomicSwapAccounts.bind
    outerCtx.remainingAccounts
  -- Validate no same token swaps.
  rejectIf (innerCtx.inputMint.pubkey = innerCtx.outputMint.pubkey)
    (SvmAlmControllerErrors.InvalidAtomicSwapConfiguration : Error)
  let oracle ← Oracle.loadAndCheck innerCtx.oracle (some outerCtx.controller.pubkey) none
  let (maxSlippageBps, maxStaleness, expiryTimestamp, oraclePriceInverted) ←
    ofOption outerArgs.innerArgs.atomicSwap? (.program .InvalidArgument)
  let clock ← read World.clock
  rejectIf (clock.slot ≤ maxStaleness ∨ expiryTimestamp ≤ clock.unixTimestamp)
    (.program .InvalidArgument)
  let inputMint ← Mint.fromAccountInfo innerCtx.inputMint.pubkey
  validateMintExtensions innerCtx.inputMint.pubkey []
  let outputMint ← Mint.fromAccountInfo innerCtx.outputMint.pubkey
  validateMintExtensions innerCtx.outputMint.pubkey []
  -- The oracle quotes the input in the output, or the other way round.
  rejectIf (oraclePriceInverted = true ∧
      (innerCtx.outputMint.pubkey ≠ oracle.baseMint ∨
        innerCtx.inputMint.pubkey ≠ oracle.quoteMint))
    (SvmAlmControllerErrors.InvalidOracleForMints : Error)
  rejectIf (oraclePriceInverted = false ∧
      (innerCtx.outputMint.pubkey ≠ oracle.quoteMint ∨
        innerCtx.inputMint.pubkey ≠ oracle.baseMint))
    (SvmAlmControllerErrors.InvalidOracleForMints : Error)
  return (
    .AtomicSwap
      { inputToken := innerCtx.inputMint.pubkey
        outputToken := innerCtx.outputMint.pubkey
        oracle := innerCtx.oracle.pubkey
        maxStaleness := maxStaleness
        expiryTimestamp := expiryTimestamp
        maxSlippageBps := maxSlippageBps
        inputMintDecimals := inputMint.decimals
        outputMintDecimals := outputMint.decimals
        oraclePriceInverted := oraclePriceInverted
        padding := 0 },
    .AtomicSwap
      { lastBalanceA := 0
        lastBalanceB := 0
        amountBorrowed := 0
        recipientTokenAPre := 0
        recipientTokenBPre := 0
        padding := 0 })

/-- The configuration, when it is one of this protocol. -/
def IntegrationConfig.atomicSwap? : IntegrationConfig → Option AtomicSwapConfig
  | .AtomicSwap config => some config
  | _ => none

/-- The state, when it is one of this protocol. -/
def IntegrationState.atomicSwap? : IntegrationState → Option AtomicSwapState
  | .AtomicSwap state => some state
  | _ => none

/-! ## Borrow -/

structure AtomicSwapBorrow where
  controller : AccountMeta
  controllerAuthority : AccountMeta
  authority : AccountMeta
  permission : AccountMeta
  integration : AccountMeta
  reserveA : AccountMeta
  vaultA : AccountMeta
  mintA : AccountMeta
  reserveB : AccountMeta
  vaultB : AccountMeta
  recipientTokenAccountA : AccountMeta
  recipientTokenAccountB : AccountMeta
  tokenProgramA : AccountMeta
  sysvarInstruction : AccountMeta
  programId : AccountMeta

def AtomicSwapBorrow.specs : List AccountSpec :=
  [{ attrs := [.writable], owner := some [ID] },
    { attrs := [.empty], owner := some [SYSTEM_PROGRAM_ID] },
    { attrs := [.signer] },
    { owner := some [ID] },
    { attrs := [.writable], owner := some [ID] },
    { attrs := [.writable], owner := some [ID] },
    { attrs := [.writable], owner := some [TOKEN_PROGRAM_ID, TOKEN_2022_PROGRAM_ID] },
    { owner := some [TOKEN_PROGRAM_ID, TOKEN_2022_PROGRAM_ID] },
    { attrs := [.writable], owner := some [ID] },
    { owner := some [TOKEN_PROGRAM_ID, TOKEN_2022_PROGRAM_ID] },
    { attrs := [.writable], owner := some [TOKEN_PROGRAM_ID, TOKEN_2022_PROGRAM_ID] },
    { attrs := [.writable], owner := some [TOKEN_PROGRAM_ID, TOKEN_2022_PROGRAM_ID] },
    { pubkey := some [TOKEN_PROGRAM_ID, TOKEN_2022_PROGRAM_ID] },
    { pubkey := some [INSTRUCTIONS_ID] },
    { pubkey := some [ID] }]

def AtomicSwapBorrow.bind : List AccountMeta → Option AtomicSwapBorrow
  | controller :: controllerAuthority :: authority :: permission :: integration :: reserveA ::
      vaultA :: mintA :: reserveB :: vaultB :: recipientTokenAccountA ::
      recipientTokenAccountB :: tokenProgramA :: sysvarInstruction :: programId :: _ =>
    some ⟨controller, controllerAuthority, authority, permission, integration, reserveA, vaultA,
      mintA, reserveB, vaultB, recipientTokenAccountA, recipientTokenAccountB, tokenProgramA,
      sysvarInstruction, programId⟩
  | _ => none

/-- The loop over the instructions between Borrow and the last one: no other top-level
    call to this program is made. -/
def rejectInnerControllerIxs : List Instruction → Except Error Unit
  | [] => return ()
  | innerIx :: innerIxs => do
    check (innerIx.programId = ID) (SvmAlmControllerErrors.InvalidInstructions : Error)
    rejectInnerControllerIxs innerIxs

/-- `verify_repay_ix_in_tx`: Borrow is a top-level instruction, and the last one of the
    transaction is the Repay of the same swap. -/
def verifyRepayIxInTx (tx : TxContext) (integration recipientTokenAccountA
    recipientTokenAccountB vaultA vaultB : Pubkey) : Except Error Unit := do
  let currIndex := tx.loadCurrentIndex
  check (tx.ixLen - 1 ≤ currIndex) (SvmAlmControllerErrors.UnauthorizedAction : Error)
  -- not a call from another program
  let currIx ← tx.loadInstructionAt currIndex
  check (currIx.programId ≠ ID) (SvmAlmControllerErrors.InvalidInstructions : Error)
  let currIxDiscriminator ← okOr currIx.data[0]? (.program .InvalidInstructionData)
  check (currIxDiscriminator ≠ ATOMIC_SWAP_BORROW_IX_DISC)
    (SvmAlmControllerErrors.InvalidInstructions : Error)
  rejectInnerControllerIxs ((tx.instructions.take (tx.ixLen - 1)).drop (currIndex + 1))
  -- the last instruction is the Repay of this Integration
  let lastIx ← tx.loadInstructionAt (tx.ixLen - 1)
  check (lastIx.programId ≠ ID) (SvmAlmControllerErrors.InvalidInstructions : Error)
  let discriminator ← okOr lastIx.data[0]? (.program .InvalidInstructionData)
  check (discriminator ≠ ATOMIC_SWAP_REPAY_IX_DISC)
    (SvmAlmControllerErrors.InvalidInstructions : Error)
  let integrationAcc ← lastIx.getAccountKeyAt ATOMIC_SWAP_REPAY_INTEGRATION_IDX
  check (integrationAcc ≠ integration) (SvmAlmControllerErrors.InvalidInstructions : Error)
  -- and its payer accounts are the recipient accounts, which are not the vaults
  let payerAccountA ← lastIx.getAccountKeyAt ATOMIC_SWAP_REPAY_PAYER_ACCOUNT_A_IDX
  let payerAccountB ← lastIx.getAccountKeyAt ATOMIC_SWAP_REPAY_PAYER_ACCOUNT_B_IDX
  check (payerAccountA ≠ recipientTokenAccountA) (SvmAlmControllerErrors.InvalidAccountData : Error)
  check (payerAccountB ≠ recipientTokenAccountB) (SvmAlmControllerErrors.InvalidAccountData : Error)
  check (payerAccountA = vaultA ∨ payerAccountB = vaultB)
    (SvmAlmControllerErrors.InvalidAccountData : Error)

/-- Lend out tokens of Reserve A until the Repay of this transaction. -/
def processAtomicSwapBorrow (tx : TxContext) (accounts : List AccountMeta)
    (instructionData : List UInt8) : Ix Unit := do
  let ctx ← fromAccounts AtomicSwapBorrow.specs AtomicSwapBorrow.bind accounts
  let args ← parseArgs AtomicSwapBorrowArgs instructionData
  let controller ← Controller.loadAndCheck ctx.controller ctx.controllerAuthority.pubkey
  rejectIf (¬ controller.isActive)
    (SvmAlmControllerErrors.ControllerStatusDoesNotPermitAction : Error)
  let permission ← Permission.loadAndCheck ctx.permission ctx.controller.pubkey
    ctx.authority.pubkey
  rejectIf (¬ permission.mayExecuteSwap) (SvmAlmControllerErrors.UnauthorizedAction : Error)
  let clock ← read World.clock
  let reserveA ← Reserve.loadAndCheck ctx.reserveA ctx.controller.pubkey
  rejectIf (reserveA.vault ≠ ctx.vaultA.pubkey ∨ reserveA.mint ≠ ctx.mintA.pubkey)
    (SvmAlmControllerErrors.InvalidAccountData : Error)
  rejectIf (reserveA.status ≠ .Active)
    (SvmAlmControllerErrors.ReserveStatusDoesNotPermitAction : Error)
  let reserveB ← Reserve.loadAndCheck ctx.reserveB ctx.controller.pubkey
  rejectIf (reserveB.vault ≠ ctx.vaultB.pubkey) (SvmAlmControllerErrors.InvalidAccountData : Error)
  rejectIf (reserveB.status ≠ .Active)
    (SvmAlmControllerErrors.ReserveStatusDoesNotPermitAction : Error)
  -- Sync reserve balances and rate limits.
  let syncedA ← reserveA.syncBalance ctx.vaultA ctx.controllerAuthority.pubkey
    ctx.controller.pubkey controller
  let syncedB ← reserveB.syncBalance ctx.vaultB ctx.controllerAuthority.pubkey
    ctx.controller.pubkey controller
  let integration ← Integration.loadAndCheck ctx.integration ctx.controller.pubkey
  rejectIf (integration.status ≠ .Active)
    (SvmAlmControllerErrors.IntegrationStatusDoesNotPermitAction : Error)
  let refreshed ← ofExcept (integration.refreshRateLimit clock)
  let cfg ← ofOption refreshed.config.atomicSwap? (SvmAlmControllerErrors.Invalid : Error)
  let state ← ofOption refreshed.state.atomicSwap? (SvmAlmControllerErrors.Invalid : Error)
  rejectIf (cfg.inputToken ≠ syncedA.mint ∨ cfg.outputToken ≠ syncedB.mint)
    (SvmAlmControllerErrors.InvalidAccountData : Error)
  rejectIf state.hasSwapStarted (SvmAlmControllerErrors.SwapHasStarted : Error)
  rejectIf (cfg.expiryTimestamp ≤ clock.unixTimestamp)
    (SvmAlmControllerErrors.IntegrationHasExpired : Error)
  let vaultA ← TokenAccount.fromAccountInfo ctx.vaultA.pubkey
  let vaultB ← TokenAccount.fromAccountInfo ctx.vaultB.pubkey
  rejectIf (vaultA.mint ≠ syncedA.mint ∨ vaultB.mint ≠ syncedB.mint)
    (SvmAlmControllerErrors.InvalidAccountData : Error)
  let recipientTokenAAccount ← TokenAccount.fromAccountInfo ctx.recipientTokenAccountA.pubkey
  let recipientTokenBAccount ← TokenAccount.fromAccountInfo ctx.recipientTokenAccountB.pubkey
  rejectIf (vaultA.amount < args.amount) (.program .InsufficientFunds)
  rejectIf (args.amount = 0) (.program .InvalidArgument)
  -- Cache token balances and the amount borrowed for Repay.
  let started := { refreshed with
    state := .AtomicSwap
      { state with
        lastBalanceA := vaultA.amount
        lastBalanceB := vaultB.amount
        amountBorrowed := args.amount
        recipientTokenAPre := recipientTokenAAccount.amount
        recipientTokenBPre := recipientTokenBAccount.amount } }
  let mintA ← Mint.fromAccountInfo ctx.mintA.pubkey
  controller.transferTokens ctx.controller.pubkey ctx.controllerAuthority.pubkey
    ctx.vaultA.pubkey ctx.recipientTokenAccountA.pubkey ctx.mintA.pubkey args.amount
    mintA.decimals ctx.tokenProgramA.pubkey
  ofExcept (verifyRepayIxInTx tx ctx.integration.pubkey ctx.recipientTokenAccountA.pubkey
    ctx.recipientTokenAccountB.pubkey ctx.vaultA.pubkey ctx.vaultB.pubkey)
  -- The amount of the arguments is what the transfer takes from the vault.
  let lentA ← syncedA.recordOutflow clock args.amount false
  save ctx.reserveA (.reserve lentA)
  save ctx.reserveB (.reserve syncedB)
  let lent ← started.recordOutflow clock args.amount
  save ctx.integration (.integration lent)
  let _ ← controller.updateAndSave ctx.controller .AtomicSwapLock

/-! ## The price of a swap -/

/-- `pow10`. -/
def pow10 (decimals : Nat) : Option Int := checkedPow10 128 decimals

/-- `calc_swap_price`: the price of the input in the output, scaled by `precFactor`. The
    second branch divides earlier, when the full product does not fit. -/
def calcSwapPrice (inFactor outFactor precFactor outputAmount inputAmount : Int) :
    Except Error Int := do
  let step1 ← okOr (Word.checkedSigned 128 (outputAmount * inFactor)) (.panic .price)
  match Word.checkedSigned 128 (step1 * precFactor) with
  | some numerator => do
    let quotient ← okOr (Word.checkedDiv 128 numerator inputAmount) (.panic .price)
    okOr (Word.checkedDiv 128 quotient outFactor) (.panic .price)
  | none => do
    let quotient ← okOr (Word.checkedDiv 128 step1 outFactor) (.panic .price)
    let scaled ← okOr (Word.checkedSigned 128 (quotient * precFactor)) (.panic .price)
    okOr (Word.checkedDiv 128 scaled inputAmount) (.panic .price)

/-- `BPS_DENOMINATOR.saturating_sub(max_slippage_bps)`. -/
def slippageFactor (maxSlippageBps : UInt16) : Nat :=
  BPS_DENOMINATOR.toNat - maxSlippageBps.toNat

/-- `check_swap_slippage`. -/
def checkSwapSlippage (inputAmount : UInt64) (inputDecimals : UInt8) (outputAmount : UInt64)
    (outputDecimals : UInt8) (maxSlippageBps : UInt16) (oraclePrice : Int) (precision : UInt32) :
    Except Error Unit :=
  -- All tokens were repaid: any amount of output is ok.
  if inputAmount = 0 then return ()
  else do
    check (outputAmount = 0) (.program .InsufficientFunds)
    let inFactor ← okOr (pow10 inputDecimals.toNat) (.panic .price)
    let outFactor ← okOr (pow10 outputDecimals.toNat) (.panic .price)
    let precFactor ← okOr (pow10 precision.toNat) (.panic .price)
    let swapPrice ← calcSwapPrice inFactor outFactor precFactor outputAmount.toNat
      inputAmount.toNat
    let discounted ← okOr (Word.checkedSigned 128 (oraclePrice * slippageFactor maxSlippageBps))
      (.panic .price)
    let minSwapPrice ← okOr (checkedCeilDiv 128 discounted BPS_DENOMINATOR.toNat) (.panic .price)
    check (swapPrice < minSwapPrice) (SvmAlmControllerErrors.SlippageExceeded : Error)

/-! ## Repay -/

structure AtomicSwapRepay where
  payer : AccountMeta
  controller : AccountMeta
  controllerAuthority : AccountMeta
  authority : AccountMeta
  permission : AccountMeta
  integration : AccountMeta
  reserveA : AccountMeta
  vaultA : AccountMeta
  mintA : AccountMeta
  reserveB : AccountMeta
  vaultB : AccountMeta
  mintB : AccountMeta
  oracle : AccountMeta
  payerAccountA : AccountMeta
  payerAccountB : AccountMeta
  tokenProgramA : AccountMeta
  tokenProgramB : AccountMeta

def AtomicSwapRepay.specs : List AccountSpec :=
  [{ attrs := [.signer] },
    { attrs := [.writable], owner := some [ID] },
    { attrs := [.empty], owner := some [SYSTEM_PROGRAM_ID] },
    { attrs := [.signer] },
    { owner := some [ID] },
    { attrs := [.writable], owner := some [ID] },
    { attrs := [.writable], owner := some [ID] },
    { attrs := [.writable], owner := some [TOKEN_PROGRAM_ID, TOKEN_2022_PROGRAM_ID] },
    { owner := some [TOKEN_PROGRAM_ID, TOKEN_2022_PROGRAM_ID] },
    { attrs := [.writable], owner := some [ID] },
    { attrs := [.writable], owner := some [TOKEN_PROGRAM_ID, TOKEN_2022_PROGRAM_ID] },
    { owner := some [TOKEN_PROGRAM_ID, TOKEN_2022_PROGRAM_ID] },
    { owner := some [ID] },
    { attrs := [.writable], owner := some [TOKEN_PROGRAM_ID, TOKEN_2022_PROGRAM_ID] },
    { attrs := [.writable], owner := some [TOKEN_PROGRAM_ID, TOKEN_2022_PROGRAM_ID] },
    { pubkey := some [TOKEN_PROGRAM_ID, TOKEN_2022_PROGRAM_ID] },
    { pubkey := some [TOKEN_PROGRAM_ID, TOKEN_2022_PROGRAM_ID] }]

def AtomicSwapRepay.bind : List AccountMeta → Option AtomicSwapRepay
  | payer :: controller :: controllerAuthority :: authority :: permission :: integration ::
      reserveA :: vaultA :: mintA :: reserveB :: vaultB :: mintB :: oracle :: payerAccountA ::
      payerAccountB :: tokenProgramA :: tokenProgramB :: _ =>
    some ⟨payer, controller, controllerAuthority, authority, permission, integration, reserveA,
      vaultA, mintA, reserveB, vaultB, mintB, oracle, payerAccountA, payerAccountB,
      tokenProgramA, tokenProgramB⟩
  | _ => none

/-- A checked transfer into a vault, signed by the payer, and what the vault received:
    less than the amount when the token takes a fee. -/
def repayTokens (payer payerAccount vault mint tokenProgram : Pubkey)
    (amount balanceBefore : UInt64) : Ix UInt64 := do
  let mintAccount ← Mint.fromAccountInfo mint
  invoke (.transferChecked
    { fromAccount := payerAccount
      mint := mint
      toAccount := vault
      authority := payer
      amount := amount
      decimals := mintAccount.decimals
      tokenProgram := tokenProgram })
  let vaultAccount ← TokenAccount.fromAccountInfo vault
  ofOption (vaultAccount.amount.checkedSub balanceBefore) (.panic .unwrap)

/-- Repay what is left of token A: the amount finally spent, and the vault's gain. -/
def repayInput (ctx : AtomicSwapRepay) (amountBorrowed excessTokenA vaultABalanceBefore : UInt64) :
    Ix (UInt64 × UInt64) :=
  if 0 < excessTokenA then do
    let balanceADelta ← repayTokens ctx.payer.pubkey ctx.payerAccountA.pubkey ctx.vaultA.pubkey
      ctx.mintA.pubkey ctx.tokenProgramA.pubkey excessTokenA vaultABalanceBefore
    return (amountBorrowed.saturatingSub balanceADelta, balanceADelta)
  else return (amountBorrowed, 0)

/-- Close the swap that Borrow opened. -/
def processAtomicSwapRepay (accounts : List AccountMeta) : Ix Unit := do
  let ctx ← fromAccounts AtomicSwapRepay.specs AtomicSwapRepay.bind accounts
  let clock ← read World.clock
  let permission ← Permission.loadAndCheck ctx.permission ctx.controller.pubkey
    ctx.authority.pubkey
  rejectIf (¬ permission.mayExecuteSwap) (SvmAlmControllerErrors.UnauthorizedAction : Error)
  let locked ← Controller.loadAndCheck ctx.controller ctx.controllerAuthority.pubkey
  -- The status has to be AtomicSwapLock, from the previous Borrow.
  rejectIf (¬ locked.isAtomicSwapLocked) (SvmAlmControllerErrors.UnauthorizedAction : Error)
  let controller ← locked.updateAndSave ctx.controller .Active
  let reserveA ← Reserve.loadAndCheck ctx.reserveA ctx.controller.pubkey
  rejectIf (reserveA.vault ≠ ctx.vaultA.pubkey ∨ reserveA.mint ≠ ctx.mintA.pubkey)
    (SvmAlmControllerErrors.InvalidAccountData : Error)
  let reserveB ← Reserve.loadAndCheck ctx.reserveB ctx.controller.pubkey
  rejectIf (reserveB.vault ≠ ctx.vaultB.pubkey ∨ reserveB.mint ≠ ctx.mintB.pubkey)
    (SvmAlmControllerErrors.InvalidAccountData : Error)
  let integration ← Integration.loadAndCheck ctx.integration ctx.controller.pubkey
  let config ← ofOption integration.config.atomicSwap? (SvmAlmControllerErrors.Invalid : Error)
  let state ← ofOption integration.state.atomicSwap? (SvmAlmControllerErrors.Invalid : Error)
  rejectIf (config.inputToken ≠ reserveA.mint ∨ config.outputToken ≠ reserveB.mint ∨
      config.oracle ≠ ctx.oracle.pubkey)
    (SvmAlmControllerErrors.InvalidAccountData : Error)
  rejectIf (¬ state.hasSwapStarted) (SvmAlmControllerErrors.SwapNotStarted : Error)
  let vaultA ← TokenAccount.fromAccountInfo ctx.vaultA.pubkey
  let vaultB ← TokenAccount.fromAccountInfo ctx.vaultB.pubkey
  let payerAccountA ← TokenAccount.fromAccountInfo ctx.payerAccountA.pubkey
  -- No need to error if the user overspent and has less than before.
  let excessTokenA := payerAccountA.amount.saturatingSub state.recipientTokenAPre
  let payerAccountB ← TokenAccount.fromAccountInfo ctx.payerAccountB.pubkey
  let amount ← ofOption (payerAccountB.amount.checkedSub state.recipientTokenBPre)
    (.panic .unwrap)
  -- Neither vault may have changed since Borrow.
  let startingBalanceA ← ofOption (vaultA.amount.checkedAdd state.amountBorrowed) (.panic .unwrap)
  rejectIf (startingBalanceA ≠ state.lastBalanceA ∨ vaultB.amount ≠ state.lastBalanceB)
    (SvmAlmControllerErrors.InvalidSwapState : Error)
  let (finalInputAmount, balanceADelta) ← repayInput ctx state.amountBorrowed excessTokenA
    vaultA.amount
  let balanceBDelta ← repayTokens ctx.payer.pubkey ctx.payerAccountB.pubkey ctx.vaultB.pubkey
    ctx.mintB.pubkey ctx.tokenProgramB.pubkey amount vaultB.amount
  let oracle ← Oracle.loadAndCheck ctx.oracle (some ctx.controller.pubkey) none
  -- The difference of the slots wraps.
  rejectIf (oracle.lastUpdateSlot < clock.slot - config.maxStaleness)
    (SvmAlmControllerErrors.StaleOraclePrice : Error)
  let oraclePrice ← ofExcept (oracle.getPrice config.oraclePriceInverted)
  ofExcept (checkSwapSlippage finalInputAmount config.inputMintDecimals balanceBDelta
    config.outputMintDecimals config.maxSlippageBps oraclePrice oracle.precision)
  let closed := { integration with state := .AtomicSwap state.reset }
  let repaidA ← reserveA.recordInflow clock balanceADelta
  save ctx.reserveA (.reserve repaidA)
  let repaidB ← reserveB.recordInflow clock balanceBDelta
  save ctx.reserveB (.reserve repaidB)
  -- Credit the Integration with the amount of token A repaid.
  let repaid ← closed.recordInflow clock balanceADelta
  save ctx.integration (.integration repaid)
  emitEvent controller ctx.controllerAuthority.pubkey ctx.controller.pubkey
    (reserveEvent ctx.controller.pubkey ctx.reserveA.pubkey ctx.mintA.pubkey .Swap
      finalInputAmount .Debit)
  emitEvent controller ctx.controllerAuthority.pubkey ctx.controller.pubkey
    (reserveEvent ctx.controller.pubkey ctx.reserveB.pubkey ctx.mintB.pubkey .Swap
      balanceBDelta .Credit)

end AlmController
