import AlmController.World

/-!
# The instructions sysvar

A transaction is a list of top-level instructions, and an instruction can look at
that list and at the position of the top-level instruction being run. A call made
by another program sees the position of the top-level instruction it descends from,
which is how a processor finds out that it was not called directly.
-/

namespace AlmController

open Prog

structure Instruction where
  programId : Pubkey
  accounts : List AccountMeta
  data : List UInt8
  deriving DecidableEq, Repr

/-- What the sysvar says. Its counts are `u16`s, and the current instruction is one of
    those listed. -/
structure TxContext where
  instructions : List Instruction
  current : Fin instructions.length
  length_lt : instructions.length < 2 ^ 16

namespace TxContext

/-- The number of instructions, which the sysvar stores first. -/
def ixLen (tx : TxContext) : Nat := tx.instructions.length

/-- `load_current_index`. -/
def loadCurrentIndex (tx : TxContext) : Nat := tx.current

/-- `load_instruction_at`. -/
def loadInstructionAt (tx : TxContext) (index : Nat) : Except Error Instruction :=
  okOr tx.instructions[index]? (.program .InvalidInstructionData)

/-- The top-level instruction being run. -/
def currentIx (tx : TxContext) : Instruction := tx.instructions[tx.current]

theorem getElem?_current {tx : TxContext} :
    tx.instructions[(tx.current : Nat)]? = some tx.currentIx :=
  List.getElem?_eq_getElem tx.current.isLt

theorem loadInstructionAt_ok {tx : TxContext} {index : Nat} {ix : Instruction} :
    tx.loadInstructionAt index = .ok ix ↔ tx.instructions[index]? = some ix :=
  okOr_ok

end TxContext

/-- `get_account_meta_at`, of which only the key is read. -/
def Instruction.getAccountKeyAt (ix : Instruction) (index : Nat) : Except Error Pubkey :=
  okOr (ix.accounts[index]?.map AccountMeta.pubkey) (.program .InvalidArgument)

theorem Instruction.getAccountKeyAt_ok {ix : Instruction} {index : Nat} {k : Pubkey} :
    ix.getAccountKeyAt index = .ok k ↔ ix.accounts[index]?.map AccountMeta.pubkey = some k :=
  okOr_ok

end AlmController
