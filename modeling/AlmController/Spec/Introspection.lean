import AlmController.Integrations.AtomicSwap
import AlmController.Integrations.LzBridge

/-!
# What introspection establishes

Borrow, a push over LayerZero and ResetLzPushInFlight look at the other instructions of
their transaction. Each check is a list of comparisons on the sysvar; what it means is
a shape of the transaction around the instruction, and that is all later arguments use.
-/

namespace AlmController

open Prog

/-- The key of the account at an index of an instruction. -/
def Instruction.keyAt (ix : Instruction) (index : Nat) : Option Pubkey :=
  ix.accounts[index]?.map AccountMeta.pubkey

/-- A call of this program with this discriminator. -/
def Instruction.Calls (ix : Instruction) (discriminator : UInt8) : Prop :=
  ix.programId = ID ∧ ix.data[0]? = some discriminator

/-! ## Borrow -/

/-- The shape that Borrow insists on: it is at top level, no top-level call to this
    program follows before the last instruction, and that one is the Repay. -/
structure TxContext.RepayFollows (tx : TxContext) (integration recipientA recipientB vaultA
    vaultB : Pubkey) : Prop where
  notLast : (tx.current : Nat) + 1 < tx.instructions.length
  direct : tx.currentIx.Calls ATOMIC_SWAP_BORROW_IX_DISC
  alone : ∀ ⦃j ix⦄, (tx.current : Nat) < j → j + 1 < tx.instructions.length →
    tx.instructions[j]? = some ix → ix.programId ≠ ID
  repay : ∃ ix, tx.instructions[tx.instructions.length - 1]? = some ix ∧
    ix.Calls ATOMIC_SWAP_REPAY_IX_DISC ∧
    ix.keyAt ATOMIC_SWAP_REPAY_INTEGRATION_IDX = some integration ∧
    ix.keyAt ATOMIC_SWAP_REPAY_PAYER_ACCOUNT_A_IDX = some recipientA ∧
    ix.keyAt ATOMIC_SWAP_REPAY_PAYER_ACCOUNT_B_IDX = some recipientB
  notVaultA : recipientA ≠ vaultA
  notVaultB : recipientB ≠ vaultB

theorem rejectInnerControllerIxs_ok {ixs : List Instruction} {u : Unit}
    (h : rejectInnerControllerIxs ixs = .ok u) : ∀ ix ∈ ixs, ix.programId ≠ ID := by
  induction ixs with
  | nil => exact fun _ hmem => absurd hmem List.not_mem_nil
  | cons innerIx innerIxs ih =>
    simp only [rejectInnerControllerIxs, except_bind_ok, check_ok] at h
    obtain ⟨_, hne, hrest⟩ := h
    exact List.forall_mem_cons.mpr ⟨hne, ih hrest⟩

theorem verifyRepayIxInTx_ok {tx : TxContext} {integration recipientA recipientB vaultA
    vaultB : Pubkey} {u : Unit}
    (h : verifyRepayIxInTx tx integration recipientA recipientB vaultA vaultB = .ok u) :
    tx.RepayFollows integration recipientA recipientB vaultA vaultB := by
  simp only [verifyRepayIxInTx, except_bind_ok, check_ok, okOr_ok, not_not, not_or,
    TxContext.loadInstructionAt_ok, Instruction.getAccountKeyAt_ok, exists_const] at h
  simp only [TxContext.loadCurrentIndex, TxContext.ixLen, TxContext.getElem?_current,
    Option.some.injEq, exists_eq_left'] at h
  obtain ⟨hindex, hprogram, _, hdata, rfl, _, hinner, lastIx, hlast, hlastProgram, h⟩ := h
  obtain ⟨_, hlastData, rfl, _, hinteg, rfl, _, hpayerA, _, hpayerB, rfl, rfl, hvaultA, hvaultB⟩ := h
  have hlen := tx.current.isLt
  refine ⟨by omega, ⟨hprogram, hdata⟩, ?_, ⟨lastIx, hlast, ⟨hlastProgram, hlastData⟩, hinteg,
    hpayerA, hpayerB⟩, hvaultA, hvaultB⟩
  intro j ix hj hjlen hget
  refine rejectInnerControllerIxs_ok hinner ix (List.mem_iff_getElem?.mpr ⟨j - (tx.current + 1), ?_⟩)
  rw [List.getElem?_drop, List.getElem?_take, Nat.add_sub_cancel' hj, if_pos (by omega)]
  exact hget

/-! ## LayerZero -/

/-- The Send that a push pays for: what is sent, where to, and from which accounts. -/
structure Instruction.Sends (ix : Instruction) (authority : Pubkey)
    (accounts : PushLzBridgeAccounts) (config : LzBridgeConfig) (amount : UInt64) : Prop where
  program : ix.programId = config.program
  params : ∃ args, OftSendParams.deserialize ix.data = .ok args ∧ args.amountLd = amount ∧
    args.toAddress = config.destinationAddress ∧ args.dstEid = config.destinationEid
  signer : ix.keyAt 0 = some authority
  peerConfig : ix.keyAt 1 = some config.peerConfig
  oftStore : ix.keyAt 2 = some config.oftStore
  tokenSource : ix.keyAt 3 = some accounts.authorityTokenAccount.pubkey
  oftTokenEscrow : ix.keyAt 4 = some config.oftTokenEscrow
  tokenMint : ix.keyAt 5 = some accounts.mint.pubkey
  tokenProgram : ix.keyAt 6 = some accounts.tokenProgram.pubkey

/-- The shape that a push over LayerZero insists on: it happens in the third-to-last
    instruction, and a Send and a Reset of the same integration follow. -/
structure TxContext.SendFollows (tx : TxContext) (authority : Pubkey)
    (accounts : PushLzBridgeAccounts) (config : LzBridgeConfig) (integration : Pubkey)
    (amount : UInt64) : Prop where
  position : (tx.current : Nat) + 3 = tx.instructions.length
  send : ∃ ix, tx.instructions[tx.instructions.length - 2]? = some ix ∧
    ix.Sends authority accounts config amount
  reset : ∃ ix, tx.instructions[tx.instructions.length - 1]? = some ix ∧
    ix.Calls RESET_LZ_PUSH_IN_FLIGHT_DISC ∧
    ix.keyAt RESET_LZ_PUSH_INTEGRATION_INDEX = some integration

theorem verifySendIxInTx_ok {tx : TxContext} {authority : Pubkey}
    {accounts : PushLzBridgeAccounts} {config : LzBridgeConfig} {integration : Pubkey}
    {amount : UInt64} {u : Unit}
    (h : verifySendIxInTx tx authority accounts config integration amount = .ok u) :
    tx.SendFollows authority accounts config integration amount := by
  simp only [verifySendIxInTx, except_bind_ok, check_ok, okOr_ok, not_not, not_or,
    TxContext.loadInstructionAt_ok, Instruction.getAccountKeyAt_ok, exists_const, not_lt] at h
  simp only [TxContext.loadCurrentIndex, TxContext.ixLen] at h
  obtain ⟨hlen, hindex, resetIx, hreset, hresetProgram, _, hdata, rfl, _, hkey, rfl, h⟩ := h
  obtain ⟨sendIx, hsend, hprogram, args, hargs, _, hsigner, _, hpeerConfig, _, hoftStore, h⟩ := h
  obtain ⟨_, htokenSource, _, hescrow, _, htokenMint, _, htokenProgram, haccounts, hparams⟩ := h
  obtain ⟨rfl, rfl, rfl, rfl, rfl, rfl, rfl⟩ := haccounts
  exact ⟨by omega, ⟨sendIx, hsend, hprogram, ⟨args, hargs, hparams⟩, hsigner, hpeerConfig,
    hoftStore, htokenSource, hescrow, htokenMint, htokenProgram⟩, resetIx, hreset,
    ⟨hresetProgram, hdata⟩, hkey⟩

/-- ResetLzPushInFlight is the last instruction of its transaction, called directly. -/
structure TxContext.IsReset (tx : TxContext) : Prop where
  position : (tx.current : Nat) + 1 = tx.instructions.length
  direct : tx.currentIx.Calls RESET_LZ_PUSH_IN_FLIGHT_DISC

theorem validateInstruction_ok {tx : TxContext} {u : Unit} (h : validateInstruction tx = .ok u) :
    tx.IsReset := by
  simp only [validateInstruction, except_bind_ok, check_ok, okOr_ok, not_not,
    TxContext.loadInstructionAt_ok, exists_const] at h
  simp only [TxContext.loadCurrentIndex, TxContext.ixLen, TxContext.getElem?_current,
    Option.some.injEq, exists_eq_left'] at h
  obtain ⟨hindex, hprogram, _, hdata, rfl⟩ := h
  have hlen := tx.current.isLt
  exact ⟨by omega, hprogram, hdata⟩

end AlmController
