import AlmController.Lib.Borsh
import AlmController.Lib.Prog
import AlmController.Lib.Word

/-!
# Keys, constants, errors and statuses

The vocabulary of the program: `constants.rs`, `error.rs` and the field-free
enumerations of `enums/`. Every enumeration gets its Borsh instance here, since
the tag byte of a status is what instruction arguments and account data carry.
-/

namespace AlmController

/-! ## Byte arrays and keys -/

/-- `[u8; n]`, with the first byte least significant. -/
abbrev ByteArr (n : Nat) := BitVec (8 * n)

/-- A 32-byte account address. -/
abbrev Pubkey := ByteArr 32

/-- The bytes of an array, first byte first (`as_ref`). -/
def ByteArr.bytes {n : Nat} (a : ByteArr n) : List UInt8 := Borsh.write a

/-- `b"..."`. -/
def asciiBytes (s : String) : List UInt8 := s.toList.map fun c => UInt8.ofNat c.toNat

/-! ## Program addresses -/

/-- `crate::ID`: ALM1JSnEhc5PkNecbSZotgprBuJujL5objTbwGtpTgTd. -/
def ID : Pubkey := 0x2436da871b3e318ee2bc8b93737dcc8f48f52802908ea055fb42f1e86fd6ad8a

/-- Multisig held by Keel for permissioned initialization. -/
def KEEL_DEPLOYER_MSIG : Pubkey :=
  0x5fb1ce6560db588f3c970d84c5fd1a42f32b572865386a33913bb197a48c61aa

def SYSTEM_PROGRAM_ID : Pubkey := 0

def TOKEN_PROGRAM_ID : Pubkey :=
  0xa900ff7e85f58c3a91375b5fed85b41cac79ebce46e1cbd993a165d7e1f6dd06

def TOKEN_2022_PROGRAM_ID : Pubkey :=
  0xfc8ba1d828f9bdfe270db9834dfc1ab6dacd6ce4bc5d4218de8f75eee1f6dd06

def ASSOCIATED_TOKEN_PROGRAM_ID : Pubkey :=
  0x59f8e9dbd87b8e048410ffda99135a0b830d8e1429103dbbf189244e8f25978c

def CCTP_MESSAGE_TRANSMITTER_PROGRAM_ID : Pubkey :=
  0xce0805d8d15db48e2d0798183cbfc0cdcdef5860543a9f75425d5fdb89c95fa6

def CCTP_TOKEN_MESSENGER_MINTER_PROGRAM_ID : Pubkey :=
  0x2e72edb981ffb8ed23c84ca553cf5a01fd91977cd62f0490d55a9a4143c95fa6

def KAMINO_LEND_PROGRAM_ID : Pubkey :=
  0x08005b43b369beb612af152f710211f93dff72a88b412c68e3cc5812b1acb204

def KAMINO_FARMS_PROGRAM_ID : Pubkey :=
  0x01c71c25a2a2e83fdad06844b85930618cde85de56616e121fe5d3631710b0d8

def DRIFT_PROGRAM_ID : Pubkey :=
  0xf6534a85891f5679814bae51d180e16f963613e23f297a8ac960c99ebedb5409

def SWITCHBOARD_ON_DEMAND_PROGRAM_ID : Pubkey :=
  0x73650c045c466f4787da74c257979dcd8e9631b72fd92bf1047ee4f246bd7306

/-- The address of the instructions sysvar. -/
def INSTRUCTIONS_ID : Pubkey :=
  0x000000085fcbbadba57556218fc624c1c0c2fd5504d4da3566d17b1817d5a706

/-- The address of the rent sysvar. -/
def RENT_ID : Pubkey := 0x000000008ad9dbe344fda19b08eeda587ff14a3d4cc98c21515c2c1917d5a706

/-! ## `constants.rs` -/

def CONTROLLER_SEED : List UInt8 := asciiBytes "controller"
def CONTROLLER_AUTHORITY_SEED : List UInt8 := asciiBytes "controller_authority"
def PERMISSION_SEED : List UInt8 := asciiBytes "permission"
def RESERVE_SEED : List UInt8 := asciiBytes "reserve"
def INTEGRATION_SEED : List UInt8 := asciiBytes "integration"
def ORACLE_SEED : List UInt8 := asciiBytes "oracle"

def SECONDS_PER_DAY : Nat := 86400
def BPS_DENOMINATOR : UInt16 := 10000

def ATOMIC_SWAP_BORROW_IX_DISC : UInt8 := 15
def ATOMIC_SWAP_REPAY_IX_DISC : UInt8 := 16
def ATOMIC_SWAP_REPAY_INTEGRATION_IDX : Nat := 5
def ATOMIC_SWAP_REPAY_PAYER_ACCOUNT_A_IDX : Nat := 13
def ATOMIC_SWAP_REPAY_PAYER_ACCOUNT_B_IDX : Nat := 14

/-- `RESET_LZ_PUSH_IN_FLIGHT_DISC`. -/
def RESET_LZ_PUSH_IN_FLIGHT_DISC : UInt8 := 17

/-! ## Errors -/

inductive SvmAlmControllerErrors
  | Invalid
  | InvalidPda
  | InvalidAccountData
  | UnauthorizedAction
  | ControllerStatusDoesNotPermitAction
  | PermissionStatusDoesNotPermitAction
  | IntegrationStatusDoesNotPermitAction
  | ReserveStatusDoesNotPermitAction
  | StaleOraclePrice
  | UnsupportedOracleType
  | SwapNotStarted
  | SwapHasStarted
  | InvalidSwapState
  | InvalidInstructions
  | SlippageExceeded
  | IntegrationHasExpired
  | RateLimited
  | InvalidControllerAuthority
  | InvalidPermission
  | InvalidTokenMintExtension
  | InvalidAtomicSwapConfiguration
  | ControllerDoesNotMatchAccountData
  | LZPushInFlight
  | InvalidInstructionIndex
  | InvalidReserve
  | DataNotChangedSinceLastSync
  | ControllerFrozen
  | InvalidIntegrationArgs
  | InvalidOracleForMints
  | SerializationFailed
  | ControllerAtomicSwapLocked
  deriving DecidableEq, Repr

/-- The runtime's error codes that the program returns, and its own. -/
inductive ProgramError
  | AccountAlreadyInitialized
  | AccountDataTooSmall
  | ArithmeticOverflow
  | Custom (e : SvmAlmControllerErrors)
  | IllegalOwner
  | Immutable
  | IncorrectAuthority
  | IncorrectProgramId
  | InsufficientFunds
  | InvalidAccountData
  | InvalidAccountOwner
  | InvalidArgument
  | InvalidInstructionData
  | InvalidSeeds
  | MissingRequiredSignature
  | NotEnoughAccountKeys
  deriving DecidableEq, Repr

/-- Where an `unwrap`, an index or a checked conversion can abort. The limiter's
    panics are told apart, because properties speak about them one by one. -/
inductive Panic
  /-- `checked_sub` of the two timestamps, in `calculate_rate_limit_increment`. -/
  | timePassed
  /-- `checked_mul` or `checked_add` of the accrued units, in the same function. -/
  | accruedUnits
  /-- `checked_sub` of the gap between maximum and available. -/
  | rateLimitGap
  /-- `checked_add` of `last_balance` in `update_for_inflow`. -/
  | lastBalanceAdd
  /-- `checked_sub` of `last_balance` in `update_for_outflow`. -/
  | lastBalanceSub
  /-- An arithmetic `unwrap` in a price computation. -/
  | price
  /-- A slice or array index out of bounds. -/
  | index
  /-- Any other failed `unwrap`. -/
  | unwrap
  deriving DecidableEq, Repr

/-- How an instruction fails: with an error code, by a panic, because an instruction
    it invoked failed, or because the runtime refused what it did (a signature it
    cannot give, a write to a read-only account). All abort the transaction. -/
inductive Error
  | program (e : ProgramError)
  | panic (p : Panic)
  | cpi
  | runtime
  deriving DecidableEq, Repr

instance : Coe ProgramError Error := ⟨Error.program⟩

instance : Coe SvmAlmControllerErrors Error := ⟨fun e => .program (.Custom e)⟩

/-! ## Statuses (`enums/`) -/

inductive ControllerStatus
  /-- All instructions interacting with the Controller should revert, except to
      change the status to Active. -/
  | Frozen
  /-- Normal operations. -/
  | Active
  /-- Push or Pull instructions revert, but all other operations are valid. -/
  | PushPullFrozen
  /-- All instructions revert during an AtomicSwap transaction. -/
  | AtomicSwapLock
  deriving DecidableEq, Repr

inductive PermissionStatus
  | Suspended
  | Active
  deriving DecidableEq, Repr

inductive ReserveStatus
  | Suspended
  | Active
  deriving DecidableEq, Repr

inductive IntegrationStatus
  | Suspended
  | Active
  deriving DecidableEq, Repr

inductive IntegrationType
  | SplTokenExternal
  | CctpBridge
  | LzBridge
  | AtomicSwap
  | Drift
  | Kamino
  deriving DecidableEq, Repr

namespace ControllerStatus

def toByte : ControllerStatus → UInt8
  | Frozen => 0
  | Active => 1
  | PushPullFrozen => 2
  | AtomicSwapLock => 3

def ofByte : UInt8 → Option ControllerStatus
  | 0 => some Frozen
  | 1 => some Active
  | 2 => some PushPullFrozen
  | 3 => some AtomicSwapLock
  | _ => none

instance : Borsh ControllerStatus :=
  Borsh.restrict toByte ofByte fun n s => by
    cases s <;> (unfold ofByte toByte; split <;> grind)

end ControllerStatus

namespace PermissionStatus

def toByte : PermissionStatus → UInt8
  | Suspended => 0
  | Active => 1

def ofByte : UInt8 → Option PermissionStatus
  | 0 => some Suspended
  | 1 => some Active
  | _ => none

instance : Borsh PermissionStatus :=
  Borsh.restrict toByte ofByte fun n s => by
    cases s <;> (unfold ofByte toByte; split <;> grind)

end PermissionStatus

namespace ReserveStatus

def toByte : ReserveStatus → UInt8
  | Suspended => 0
  | Active => 1

def ofByte : UInt8 → Option ReserveStatus
  | 0 => some Suspended
  | 1 => some Active
  | _ => none

instance : Borsh ReserveStatus :=
  Borsh.restrict toByte ofByte fun n s => by
    cases s <;> (unfold ofByte toByte; split <;> grind)

end ReserveStatus

namespace IntegrationStatus

def toByte : IntegrationStatus → UInt8
  | Suspended => 0
  | Active => 1

def ofByte : UInt8 → Option IntegrationStatus
  | 0 => some Suspended
  | 1 => some Active
  | _ => none

instance : Borsh IntegrationStatus :=
  Borsh.restrict toByte ofByte fun n s => by
    cases s <;> (unfold ofByte toByte; split <;> grind)

end IntegrationStatus

namespace IntegrationType

def toByte : IntegrationType → UInt8
  | SplTokenExternal => 0
  | CctpBridge => 1
  | LzBridge => 2
  | AtomicSwap => 3
  | Drift => 4
  | Kamino => 5

def ofByte : UInt8 → Option IntegrationType
  | 0 => some SplTokenExternal
  | 1 => some CctpBridge
  | 2 => some LzBridge
  | 3 => some AtomicSwap
  | 4 => some Drift
  | 5 => some Kamino
  | _ => none

instance : Borsh IntegrationType :=
  Borsh.restrict toByte ofByte fun n s => by
    cases s <;> (unfold ofByte toByte; split <;> grind)

end IntegrationType

end AlmController
