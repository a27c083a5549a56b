import AlmController.World

/-!
# Token accounts, mints and their extensions

How the program reads accounts of the two token programs
(`pinocchio-token-interface`, `pinocchio-token2022/src/extensions`,
`processor/shared/token_extensions.rs`). A mint is read from its bytes, since the
extension walk is a loop over them; every slice that can run out of bounds panics
here as it does there.
-/

namespace AlmController

open Prog

/-! ## Reading accounts -/

/-- `TokenAccount::from_account_info`. -/
def TokenAccount.fromAccountInfo (k : Pubkey) : Ix TokenAccount := do
  let w ← read id
  rejectIf (w.owner k ≠ TOKEN_2022_PROGRAM_ID ∧ w.owner k ≠ TOKEN_PROGRAM_ID)
    (.program .InvalidAccountData)
  let t ← readData k ExtData.token?
  rejectIf (t.dataLen < BASE_LEN) (.program .InvalidAccountData)
  -- A Token account has no extensions; with Token-2022 a multisig is not supported.
  rejectIf (if w.owner k = TOKEN_PROGRAM_ID then t.dataLen ≠ BASE_LEN
      else t.dataLen = MULTISIG_ACCOUNT_LENGTH)
    (.program .InvalidAccountData)
  return t

theorem TokenAccount.fromAccountInfo_ok {k : Pubkey} {t : TokenAccount} {w w' : World}
    (h : TokenAccount.fromAccountInfo k w = .ok (t, w')) :
    w = w' ∧ w.keel k = none ∧ w.bank.token? k = some t := by
  simp only [fromAccountInfo, bind_ok, read_ok, readData_ok, rejectIf_ok, pure_ok] at h
  obtain ⟨_, _, ⟨rfl, rfl⟩, _, _, ⟨-, rfl⟩, _, _, ⟨hkeel, ht, rfl⟩, _, _, ⟨-, rfl⟩, _, _,
    ⟨-, rfl⟩, rfl, rfl⟩ := h
  exact ⟨rfl, hkeel, ht⟩

/-- The part of a mint's data that the program reads. -/
structure Mint where
  decimals : UInt8
  deriving DecidableEq, Repr

/-- Size of a mint without extensions, in both token programs. -/
def Mint.BASE_LEN : Nat := 82

/-- Where the decimals stand in a mint's data. -/
def Mint.DECIMALS_OFFSET : Nat := 44

/-- `Mint::from_account_info`. -/
def Mint.fromAccountInfo (k : Pubkey) : Ix Mint := do
  let w ← read id
  rejectIf (w.owner k ≠ TOKEN_2022_PROGRAM_ID ∧ w.owner k ≠ TOKEN_PROGRAM_ID)
    (.program .InvalidAccountData)
  let data ← readData k ExtData.bytes?
  rejectIf (data.length < BASE_LEN) (.program .InvalidAccountData)
  rejectIf (w.owner k = TOKEN_PROGRAM_ID ∧ data.length ≠ BASE_LEN) (.program .InvalidAccountData)
  onlyIf (BASE_LEN < data.length) do
    -- AccountType is at byte 165, and must be 1 for a mint.
    let accountType ← ofOption data[TokenAccount.BASE_LEN]? (.panic .index)
    rejectIf (accountType ≠ 1) (.program .InvalidAccountData)
    rejectIf (data.length = MULTISIG_ACCOUNT_LENGTH) (.program .InvalidAccountData)
  let decimals ← ofOption data[DECIMALS_OFFSET]? (.panic .index)
  return { decimals := decimals }

/-! ## Extensions -/

inductive ExtensionType
  | Uninitialized
  | TransferFeeConfig
  | TransferFeeAmount
  | MintCloseAuthority
  | ConfidentialTransferMint
  | ConfidentialTransferAccount
  | DefaultAccountState
  | ImmutableOwner
  | MemoTransfer
  | NonTransferable
  | InterestBearingConfig
  | CpiGuard
  | PermanentDelegate
  | NonTransferableAccount
  | TransferHook
  | TransferHookAccount
  | ConfidentialTransferFeeConfig
  | ConfidentialTransferFeeAmount
  | MetadataPointer
  | TokenMetadata
  | GroupPointer
  | TokenGroup
  | GroupMemberPointer
  | TokenGroupMember
  | ConfidentialMintBurn
  | ScaledUiAmount
  | Pausable
  | PausableAccount
  deriving DecidableEq, Repr

/-- The types in the order of their codes. -/
def ExtensionType.all : List ExtensionType :=
  [.Uninitialized, .TransferFeeConfig, .TransferFeeAmount, .MintCloseAuthority,
    .ConfidentialTransferMint, .ConfidentialTransferAccount, .DefaultAccountState,
    .ImmutableOwner, .MemoTransfer, .NonTransferable, .InterestBearingConfig, .CpiGuard,
    .PermanentDelegate, .NonTransferableAccount, .TransferHook, .TransferHookAccount,
    .ConfidentialTransferFeeConfig, .ConfidentialTransferFeeAmount, .MetadataPointer,
    .TokenMetadata, .GroupPointer, .TokenGroup, .GroupMemberPointer, .TokenGroupMember,
    .ConfidentialMintBurn, .ScaledUiAmount, .Pausable, .PausableAccount]

/-- `u16::from_le_bytes`. -/
def u16FromLe (b₀ b₁ : UInt8) : Nat := b₀.toNat + 256 * b₁.toNat

/-- `ExtensionType::from_bytes`. -/
def ExtensionType.fromBytes (b₀ b₁ : UInt8) : Option ExtensionType :=
  ExtensionType.all[u16FromLe b₀ b₁]?

/-- `EXTENSIONS_PADDING` and `EXTENSION_START_OFFSET`. -/
def EXTENSIONS_PADDING : Nat := 83
def EXTENSION_START_OFFSET : Nat := 1

/-- Where a mint's extensions begin: after the base, the padding and the account type. -/
def extensionsStart : Nat := Mint.BASE_LEN + EXTENSIONS_PADDING + EXTENSION_START_OFFSET

/-- The loop of `get_all_extensions_for_mint` over the bytes that are left. Each round
    consumes at least four of them, which bounds the rounds by `fuel`. -/
def extensionTypes : (fuel : Nat) → List UInt8 → Except Error (List ExtensionType)
  | 0, _ => .ok []
  | _, [] => .ok []
  | fuel + 1, t₀ :: t₁ :: rest => do
    let extType ← okOr (ExtensionType.fromBytes t₀ t₁) (.program .InvalidAccountData)
    match rest with
    | l₀ :: l₁ :: value => do
      let types ← extensionTypes fuel (value.drop (u16FromLe l₀ l₁))
      return extType :: types
    | _ => .error (.panic .index)
  | _, [_] => .error (.panic .index)

/-- `get_all_extensions_for_mint`: the types of all extensions, in order. -/
def getAllExtensionsForMint (data : List UInt8) : Except Error (List ExtensionType) := do
  check (data.length < extensionsStart) (.panic .index)
  extensionTypes data.length (data.drop extensionsStart)

/-- The loop of `get_extension_from_bytes`: the value of the first extension of the
    given type and length. -/
def findExtension (type : ExtensionType) (len : Nat) :
    (fuel : Nat) → List UInt8 → Except Error (Option (List UInt8))
  | 0, _ => .ok none
  | _, [] => .ok none
  | fuel + 1, t₀ :: t₁ :: rest =>
    match ExtensionType.fromBytes t₀ t₁, rest with
    | none, _ => .ok none
    | some extType, l₀ :: l₁ :: value =>
      let extLen := u16FromLe l₀ l₁
      if extType = type ∧ extLen = len then
        if value.length < len then .error (.panic .index) else .ok (some (value.take len))
      else findExtension type len fuel (value.drop extLen)
    | some _, _ => .error (.panic .index)
  | _, [_] => .error (.panic .index)

/-- `get_extension_from_bytes` of a mint extension. -/
def getExtensionFromBytes (type : ExtensionType) (len : Nat) (data : List UInt8) :
    Except Error (Option (List UInt8)) := do
  check (data.length < extensionsStart) (.panic .index)
  findExtension type len data.length (data.drop extensionsStart)

/-- `PausableConfig::LEN`: an authority and the paused flag. -/
def PausableConfig.LEN : Nat := 33

/-- `TransferHook::LEN`: an authority and a program id. -/
def TransferHook.LEN : Nat := 64

def VALID_MINT_EXTENSIONS : List ExtensionType :=
  [.InterestBearingConfig, .ScaledUiAmount, .TransferFeeConfig, .MintCloseAuthority,
    .PermanentDelegate, .DefaultAccountState, .ConfidentialTransferMint, .ConfidentialMintBurn,
    .MetadataPointer, .TokenMetadata, .GroupPointer, .TokenGroup, .GroupMemberPointer,
    .TokenGroupMember, .TransferHook, .Pausable]

/-- The body of the loop of `validate_mint_extensions`. -/
def validateExtension (blockedExtensionsOverride : List ExtensionType) (data : List UInt8)
    (extension : ExtensionType) : Except Error Unit := do
  check (blockedExtensionsOverride.contains extension)
    (SvmAlmControllerErrors.InvalidTokenMintExtension : Error)
  check (¬ VALID_MINT_EXTENSIONS.contains extension)
    (SvmAlmControllerErrors.InvalidTokenMintExtension : Error)
  if extension = .Pausable then do
    -- Pausable is allowed, but the mint must not be paused.
    let value ← getExtensionFromBytes .Pausable PausableConfig.LEN data
    let config ← okOr value (.program .InvalidAccountData)
    let paused ← okOr config[32]? (.panic .index)
    check (0 < paused) (SvmAlmControllerErrors.InvalidTokenMintExtension : Error)
  else if extension = .TransferHook then do
    -- TransferHook is only allowed if the hook program ID is null.
    let value ← getExtensionFromBytes .TransferHook TransferHook.LEN data
    let config ← okOr value (.program .InvalidAccountData)
    check (config.drop 32 ≠ List.replicate 32 0)
      (SvmAlmControllerErrors.InvalidTokenMintExtension : Error)
  else return ()

/-- The loop of `validate_mint_extensions`. -/
def validateExtensions (blockedExtensionsOverride : List ExtensionType) (data : List UInt8) :
    List ExtensionType → Except Error Unit
  | [] => return ()
  | extension :: extensions => do
    validateExtension blockedExtensionsOverride data extension
    validateExtensions blockedExtensionsOverride data extensions

/-- `validate_mint_extensions`. A token-2022 account whose data is not that of a mint
    has no extension walk to speak of; none passes the `Mint` checks. -/
def validateMintExtensions (k : Pubkey) (blockedExtensionsOverride : List ExtensionType) :
    Ix Unit := do
  let w ← read id
  onlyIf (w.owner k = TOKEN_2022_PROGRAM_ID) do
    let data ← readData k ExtData.bytes?
    onlyIf (Mint.BASE_LEN < data.length) do
      let extensions ← ofExcept (getAllExtensionsForMint data)
      ofExcept (validateExtensions blockedExtensionsOverride data extensions)

end AlmController
