import AlmController.Processor.Governance
import AlmController.Processor.Integration
import AlmController.Processor.Oracle
import AlmController.Processor.Reserve

/-!
# The entrypoint

The first byte of an instruction's data says which processor runs.
-/

namespace AlmController

open Prog

variable [Chain]

/-- The processor behind a discriminator. -/
def dispatch (tx : TxContext) (discriminator : UInt8) (accounts : List AccountMeta)
    (instructionData : List UInt8) : Ix Unit :=
  match discriminator with
  | 0 => processEmitEvent accounts instructionData
  | 1 => processInitializeController accounts instructionData
  | 2 => processManageController accounts instructionData
  | 3 => processManagePermission accounts instructionData
  | 4 => processInitializeReserve accounts instructionData
  | 5 => processManageReserve accounts instructionData
  | 6 => processInitializeIntegration accounts instructionData
  | 7 => processManageIntegration accounts instructionData
  | 8 => processSyncReserve accounts
  | 9 => processSyncIntegration accounts
  | 10 => processPush tx accounts instructionData
  | 11 => processPull accounts instructionData
  | 12 => processInitializeOracle accounts instructionData
  | 13 => processUpdateOracle accounts instructionData
  | 14 => processRefreshOracle accounts
  | 15 => processAtomicSwapBorrow tx accounts instructionData
  | 16 => processAtomicSwapRepay accounts
  | 17 => processResetLzPushInFlight tx accounts
  | 18 => processClaimRent accounts
  | _ => fail (.program .InvalidInstructionData)

/-- `process_instruction`. -/
def processInstruction (tx : TxContext) (accounts : List AccountMeta)
    (instructionData : List UInt8) : Ix Unit :=
  match instructionData with
  | [] => fail (.program .InvalidInstructionData)
  | discriminator :: instructionData => dispatch tx discriminator accounts instructionData

end AlmController
