import AlmController.Ledger

/-!
# The bytes of an account

`keel_account.rs`: how the program's five account types are written to account data
and read back. The rest of the model keeps the accounts in a typed table
(`KeelTable`); here is the byte string each entry of that table stands for, with the
`save` and `deserialize` that work on bytes, and the theorems that the typed
operations of `Shared` and `Ledger` do the same.

The encoding of a type is built with its round trip (`Borsh`) and with its length
(`Borsh.Sized`), field by field in the order of the source. What is left to compare
by hand is one number per type: the length that the fields add up to, and the `LEN`
that stands beside the struct.
-/

namespace AlmController

open Prog

/-! ## Statuses, configurations and states -/

instance : Borsh.Sized IntegrationStatus := .restrict IntegrationStatus.toByte fun _ => rfl

instance : Borsh.Sized ControllerStatus := .restrict ControllerStatus.toByte fun _ => rfl

instance : Borsh.Sized PermissionStatus := .restrict PermissionStatus.toByte fun _ => rfl

instance : Borsh.Sized ReserveStatus := .restrict ReserveStatus.toByte fun _ => rfl

instance : Borsh.Sized SplTokenExternalConfig :=
  ⟨224, fun c => Borsh.Sized.length_write
    (c.program, c.mint, c.recipient, c.tokenAccount, c.padding)⟩

instance : Borsh.Sized CctpBridgeConfig :=
  ⟨224, fun c => Borsh.Sized.length_write
    (c.cctpTokenMessengerMinter, c.cctpMessageTransmitter, c.mint, c.destinationAddress,
      c.destinationDomain, c.padding)⟩

instance : Borsh.Sized LzBridgeConfig :=
  ⟨224, fun c => Borsh.Sized.length_write
    (c.program, c.mint, c.oftStore, c.peerConfig, c.oftTokenEscrow, c.destinationAddress,
      c.destinationEid, c.padding)⟩

instance : Borsh.Sized AtomicSwapConfig :=
  ⟨224, fun c => Borsh.Sized.length_write
    (c.inputToken, c.outputToken, c.oracle, c.maxStaleness, c.expiryTimestamp, c.maxSlippageBps,
      c.inputMintDecimals, c.outputMintDecimals, c.oraclePriceInverted, c.padding)⟩

instance : Borsh.Sized DriftConfig :=
  ⟨224, fun c => Borsh.Sized.length_write (c.subAccountId, c.spotMarketIndex, c.poolId, c.padding)⟩

instance : Borsh.Sized KaminoConfig :=
  ⟨224, fun c => Borsh.Sized.length_write
    (c.market, c.reserve, c.reserveLiquidityMint, c.obligation, c.obligationId, c.padding)⟩

/-- Every variant is padded to the same length. -/
instance : Borsh.Sized IntegrationConfig where
  size := 225
  length_write c := by
    cases c with
    | Undefined p => exact congrArg (· + 1) (Borsh.Sized.length_write p)
    | SplTokenExternal c => exact congrArg (· + 1) (Borsh.Sized.length_write c)
    | CctpBridge c => exact congrArg (· + 1) (Borsh.Sized.length_write c)
    | LzBridge c => exact congrArg (· + 1) (Borsh.Sized.length_write c)
    | AtomicSwap c => exact congrArg (· + 1) (Borsh.Sized.length_write c)
    | Drift c => exact congrArg (· + 1) (Borsh.Sized.length_write c)
    | Kamino c => exact congrArg (· + 1) (Borsh.Sized.length_write c)

instance : Borsh SplTokenExternalState :=
  Borsh.record (fun s => s.padding) (fun p => ⟨p⟩) (fun _ => rfl) (fun _ => rfl)

instance : Borsh CctpBridgeState :=
  Borsh.record (fun s => s.padding) (fun p => ⟨p⟩) (fun _ => rfl) (fun _ => rfl)

instance : Borsh LzBridgeState :=
  Borsh.record (fun s => (s.pushInFlight, s.padding)) (fun (a, b) => ⟨a, b⟩) (fun _ => rfl)
    (fun _ => rfl)

instance : Borsh AtomicSwapState :=
  Borsh.record
    (fun s => (s.lastBalanceA, s.lastBalanceB, s.amountBorrowed, s.recipientTokenAPre,
      s.recipientTokenBPre, s.padding))
    (fun (a, b, c, d, e, f) => ⟨a, b, c, d, e, f⟩) (fun _ => rfl) (fun _ => rfl)

instance : Borsh LendingState :=
  Borsh.record (fun s => (s.balance, s.padding)) (fun (a, b) => ⟨a, b⟩) (fun _ => rfl)
    (fun _ => rfl)

/-- The variant's index, then its fields. -/
instance : Borsh IntegrationState where
  write
    | .Undefined p => 0 :: Borsh.write p
    | .SplTokenExternal s => 1 :: Borsh.write s
    | .CctpBridge s => 2 :: Borsh.write s
    | .LzBridge s => 3 :: Borsh.write s
    | .AtomicSwap s => 4 :: Borsh.write s
    | .Drift s => 5 :: Borsh.write s
    | .Kamino s => 6 :: Borsh.write s
  read
    | 0 :: bs => Borsh.readAs .Undefined bs
    | 1 :: bs => Borsh.readAs .SplTokenExternal bs
    | 2 :: bs => Borsh.readAs .CctpBridge bs
    | 3 :: bs => Borsh.readAs .LzBridge bs
    | 4 :: bs => Borsh.readAs .AtomicSwap bs
    | 5 :: bs => Borsh.readAs .Drift bs
    | 6 :: bs => Borsh.readAs .Kamino bs
    | _ => none
  read_write s rest := by
    cases s <;> simp only [List.cons_append, Borsh.readAs_write]
  write_read {bs s rest} h := by
    split at h
    case h_8 => cases h
    all_goals
      obtain ⟨a, rfl, rfl⟩ := Borsh.readAs_eq_some h
      rfl

instance : Borsh.Sized SplTokenExternalState :=
  ⟨48, fun s => Borsh.Sized.length_write s.padding⟩

instance : Borsh.Sized CctpBridgeState := ⟨48, fun s => Borsh.Sized.length_write s.padding⟩

instance : Borsh.Sized LzBridgeState :=
  ⟨48, fun s => Borsh.Sized.length_write (s.pushInFlight, s.padding)⟩

instance : Borsh.Sized AtomicSwapState :=
  ⟨48, fun s => Borsh.Sized.length_write
    (s.lastBalanceA, s.lastBalanceB, s.amountBorrowed, s.recipientTokenAPre,
      s.recipientTokenBPre, s.padding)⟩

instance : Borsh.Sized LendingState :=
  ⟨48, fun s => Borsh.Sized.length_write (s.balance, s.padding)⟩

instance : Borsh.Sized IntegrationState where
  size := 49
  length_write s := by
    cases s with
    | Undefined p => exact congrArg (· + 1) (Borsh.Sized.length_write p)
    | SplTokenExternal s => exact congrArg (· + 1) (Borsh.Sized.length_write s)
    | CctpBridge s => exact congrArg (· + 1) (Borsh.Sized.length_write s)
    | LzBridge s => exact congrArg (· + 1) (Borsh.Sized.length_write s)
    | AtomicSwap s => exact congrArg (· + 1) (Borsh.Sized.length_write s)
    | Drift s => exact congrArg (· + 1) (Borsh.Sized.length_write s)
    | Kamino s => exact congrArg (· + 1) (Borsh.Sized.length_write s)

/-! ## The five account structs -/

/-- The fields in the order they are declared, which is the order they are written in. -/
def Controller.fields (self : Controller) :=
  (self.id, self.bump, self.status, self.authority, self.authorityBump, self.padding)

instance : Borsh Controller :=
  Borsh.record Controller.fields (fun (a, b, c, d, e, f) => ⟨a, b, c, d, e, f⟩) (fun _ => rfl)
    (fun _ => rfl)

def Permission.fields (self : Permission) :=
  (self.controller, self.authority, self.status, self.canManagePermissions,
    self.canInvokeExternalTransfer, self.canExecuteSwap, self.canReallocate,
    self.canFreezeController, self.canUnfreezeController, self.canManageReservesAndIntegrations,
    self.canSuspendPermissions, self.canLiquidate, self.padding)

instance : Borsh Permission :=
  Borsh.record Permission.fields
    (fun (a, b, c, d, e, f, g, h, i, j, k, l, m) => ⟨a, b, c, d, e, f, g, h, i, j, k, l, m⟩)
    (fun _ => rfl) (fun _ => rfl)

def Reserve.fields (self : Reserve) :=
  (self.controller, self.mint, self.vault, self.status, self.rateLimitSlope,
    self.rateLimitMaxOutflow, self.rateLimitOutflowAmountAvailable, self.rateLimitRemainder,
    self.lastBalance, self.lastRefreshTimestamp, self.lastRefreshSlot, self.padding)

instance : Borsh Reserve :=
  Borsh.record Reserve.fields
    (fun (controller, mint, vault, status, slope, maxOutflow, available, remainder, lastBalance,
        timestamp, slot, padding) =>
      ⟨⟨slope, maxOutflow, available, remainder, timestamp, slot⟩, controller, mint, vault, status,
        lastBalance, padding⟩)
    (fun _ => rfl) (fun _ => rfl)

def Integration.fields (self : Integration) :=
  (self.controller, self.description, self.hash, self.status, self.rateLimitSlope,
    self.rateLimitMaxOutflow, self.rateLimitOutflowAmountAvailable, self.rateLimitRemainder,
    self.lastRefreshTimestamp, self.lastRefreshSlot, self.config, self.state,
    self.permitLiquidation, self.padding)

instance : Borsh Integration :=
  Borsh.record Integration.fields
    (fun (controller, description, hash, status, slope, maxOutflow, available, remainder,
        timestamp, slot, config, state, permitLiquidation, padding) =>
      ⟨⟨slope, maxOutflow, available, remainder, timestamp, slot⟩, controller, description, hash,
        status, config, state, permitLiquidation, padding⟩)
    (fun _ => rfl) (fun _ => rfl)

def Feed.fields (self : Feed) := (self.priceFeed, self.oracleType, self.reserved)

instance : Borsh Feed :=
  Borsh.record Feed.fields (fun (a, b, c) => ⟨a, b, c⟩) (fun _ => rfl) (fun _ => rfl)

def Oracle.fields (self : Oracle) :=
  (self.version, self.authority, self.nonce, self.value, self.precision, self.lastUpdateSlot,
    self.controller, self.baseMint, self.quoteMint, self.reserved, self.feed)

instance : Borsh Oracle :=
  Borsh.record Oracle.fields
    (fun (a, b, c, d, e, f, g, h, i, j, k) => ⟨a, b, c, d, e, f, g, h, i, j, k⟩) (fun _ => rfl)
    (fun _ => rfl)

/-! The fields add up to the `LEN` beside each struct. -/

instance : Borsh.Sized Controller :=
  ⟨Controller.LEN, fun c => Borsh.Sized.length_write c.fields⟩

instance : Borsh.Sized Permission :=
  ⟨Permission.LEN, fun p => Borsh.Sized.length_write p.fields⟩

instance : Borsh.Sized Reserve := ⟨Reserve.LEN, fun r => Borsh.Sized.length_write r.fields⟩

instance : Borsh.Sized Integration :=
  ⟨Integration.LEN, fun i => Borsh.Sized.length_write i.fields⟩

instance : Borsh.Sized Feed := ⟨96, fun f => Borsh.Sized.length_write f.fields⟩

instance : Borsh.Sized Oracle := ⟨Oracle.LEN, fun o => Borsh.Sized.length_write o.fields⟩

/-! ## `discriminator.rs` -/

inductive AccountDiscriminators
  | UninitializedDiscriminator
  | ControllerDiscriminator
  | PermissionDiscriminator
  | IntegrationDiscriminator
  | ReserveDiscriminator
  | OracleDiscriminator
  deriving DecidableEq, Repr

def AccountDiscriminators.toByte : AccountDiscriminators → UInt8
  | UninitializedDiscriminator => 0
  | ControllerDiscriminator => 1
  | PermissionDiscriminator => 2
  | IntegrationDiscriminator => 3
  | ReserveDiscriminator => 4
  | OracleDiscriminator => 5

/-- The implementors of the trait `KeelAccount`. -/
inductive AccountType
  | controller
  | permission
  | reserve
  | integration
  | oracle
  deriving DecidableEq, Repr

namespace AccountType

def Data : AccountType → Type
  | controller => Controller
  | permission => Permission
  | reserve => Reserve
  | integration => Integration
  | oracle => Oracle

def discriminator : AccountType → AccountDiscriminators
  | controller => .ControllerDiscriminator
  | permission => .PermissionDiscriminator
  | reserve => .ReserveDiscriminator
  | integration => .IntegrationDiscriminator
  | oracle => .OracleDiscriminator

def DISCRIMINATOR (t : AccountType) : UInt8 := t.discriminator.toByte

def LEN : AccountType → Nat
  | controller => Controller.LEN
  | permission => Permission.LEN
  | reserve => Reserve.LEN
  | integration => Integration.LEN
  | oracle => Oracle.LEN

instance : (t : AccountType) → Borsh t.Data
  | controller => inferInstanceAs (Borsh Controller)
  | permission => inferInstanceAs (Borsh Permission)
  | reserve => inferInstanceAs (Borsh Reserve)
  | integration => inferInstanceAs (Borsh Integration)
  | oracle => inferInstanceAs (Borsh Oracle)

/-- No value of a type is written longer or shorter than `LEN`. -/
theorem length_write {t : AccountType} (a : t.Data) : (Borsh.write a).length = t.LEN := by
  cases t with
  | controller => exact Borsh.Sized.length_write (α := Controller) a
  | permission => exact Borsh.Sized.length_write (α := Permission) a
  | reserve => exact Borsh.Sized.length_write (α := Reserve) a
  | integration => exact Borsh.Sized.length_write (α := Integration) a
  | oracle => exact Borsh.Sized.length_write (α := Oracle) a

theorem DISCRIMINATOR_injective {t t' : AccountType} (h : t.DISCRIMINATOR = t'.DISCRIMINATOR) :
    t = t' := by
  cases t <;> cases t'
  case controller.controller => rfl
  case permission.permission => rfl
  case reserve.reserve => rfl
  case integration.integration => rfl
  case oracle.oracle => rfl
  all_goals exact absurd h (by decide)

theorem DISCRIMINATOR_ne_zero {t : AccountType} : t.DISCRIMINATOR ≠ 0 := by
  cases t <;> decide

end AccountType

/-! ## `keel_account.rs` -/

/-- An account as `save` receives it. -/
structure AccountInfo where
  owner : Pubkey
  data : List UInt8
  deriving DecidableEq, Repr

namespace AccountType

variable {t : AccountType}

/-- Discriminator and data. -/
def encode (t : AccountType) (a : t.Data) : List UInt8 := t.DISCRIMINATOR :: Borsh.write a

/-- `save`: what the account holds afterwards. -/
def save (t : AccountType) (a : t.Data) (accountInfo : AccountInfo) : Except Error AccountInfo := do
  -- ensure the account's owner is the program
  check (accountInfo.owner ≠ ID) (.program .InvalidAccountOwner)
  let serialized := t.encode a
  -- ensure the account has enough space
  check (accountInfo.data.length ≠ serialized.length) (.program .AccountDataTooSmall)
  return { accountInfo with data := serialized ++ accountInfo.data.drop serialized.length }

/-- `deserialize`: an empty account has no discriminator to look at. -/
def deserialize (t : AccountType) (data : List UInt8) : Except Error t.Data := do
  let discriminator ← okOr data[0]? (.panic .index)
  check (discriminator ≠ t.DISCRIMINATOR) (.program .InvalidAccountData)
  okOr (Borsh.tryFromSlice (data.drop DISCRIMINATOR_SIZE)) (.program .InvalidAccountData)

theorem length_encode {a : t.Data} : (t.encode a).length = DISCRIMINATOR_SIZE + t.LEN := by
  rw [encode, List.length_cons, length_write, DISCRIMINATOR_SIZE, Nat.add_comm]

/-- Little-endian fields after the discriminator. -/
example : (controller.encode ⟨258, 255, .PushPullFrozen, 7, 9, 0⟩).take 7 =
    [1, 2, 1, 255, 2, 7, 0] := by
  decide

theorem encode_injective {a b : t.Data} (h : t.encode a = t.encode b) : a = b :=
  Borsh.write_injective (List.cons.inj h).2

theorem save_ok {a : t.Data} {accountInfo accountInfo' : AccountInfo} :
    t.save a accountInfo = .ok accountInfo' ↔
      accountInfo.owner = ID ∧ accountInfo.data.length = DISCRIMINATOR_SIZE + t.LEN ∧
        accountInfo' = { accountInfo with data := t.encode a } := by
  simp only [save, except_bind_ok, check_ok, except_pure_ok, not_not, length_encode,
    exists_const]
  constructor
  · intro h
    obtain ⟨howner, hlength, rfl⟩ := h
    rw [List.drop_of_length_le hlength.le, List.append_nil]
    exact ⟨howner, hlength, rfl⟩
  · intro h
    obtain ⟨howner, hlength, rfl⟩ := h
    rw [List.drop_of_length_le hlength.le, List.append_nil]
    exact ⟨howner, hlength, rfl⟩

theorem deserialize_ok {data : List UInt8} {a : t.Data} :
    t.deserialize data = .ok a ↔ data = t.encode a := by
  cases data with
  | nil =>
    simp only [deserialize, encode, except_bind_ok, okOr_ok, List.getElem?_nil, reduceCtorEq,
      false_and, exists_const]
  | cons b data =>
    simp only [deserialize, encode, except_bind_ok, okOr_ok, check_ok, not_not, exists_const,
      List.getElem?_cons_zero, Option.some.injEq, exists_eq_left', DISCRIMINATOR_SIZE,
      List.drop_succ_cons, List.drop_zero, Borsh.tryFromSlice_eq_some, List.cons.injEq]

/-- The discriminator is looked at first. -/
theorem deserialize_encode_ne {t' : AccountType} {a : t.Data} (h : t' ≠ t) :
    t'.deserialize (t.encode a) = .error (.program .InvalidAccountData) := by
  have hne : t.DISCRIMINATOR ≠ t'.DISCRIMINATOR := by
    intro heq
    exact h (DISCRIMINATOR_injective heq).symm
  rw [deserialize, except_bind_error]
  refine .inr ⟨t.DISCRIMINATOR, rfl, ?_⟩
  rw [except_bind_error, check_error]
  exact .inl ⟨hne, rfl⟩

end AccountType

/-! ## The typed table stands for bytes -/

namespace AccountType

def pack : (t : AccountType) → t.Data → KeelAccount
  | controller, a => .controller a
  | permission, a => .permission a
  | reserve, a => .reserve a
  | integration, a => .integration a
  | oracle, a => .oracle a

def unpack : (t : AccountType) → KeelAccount → Option t.Data
  | controller, d => d.controller?
  | permission, d => d.permission?
  | reserve, d => d.reserve?
  | integration, d => d.integration?
  | oracle, d => d.oracle?

theorem unpack_eq {t : AccountType} {d : KeelAccount} {a : t.Data} :
    t.unpack d = some a ↔ d = t.pack a := by
  cases t with
  | controller => exact KeelAccount.controller?_eq
  | permission => exact KeelAccount.permission?_eq
  | reserve => exact KeelAccount.reserve?_eq
  | integration => exact KeelAccount.integration?_eq
  | oracle => exact KeelAccount.oracle?_eq

/-- No account is of two types. -/
theorem unpack_pack_ne {t t' : AccountType} {a : t.Data} (h : t' ≠ t) :
    t'.unpack (t.pack a) = none := by
  cases hread : t'.unpack (t.pack a) with
  | none => rfl
  | some a' =>
    have hpack : t.pack a = t'.pack a' := unpack_eq.mp hread
    cases t <;> cases t' <;> first | exact absurd rfl h | exact KeelAccount.noConfusion hpack

theorem dataLen_pack {t : AccountType} {a : t.Data} :
    (t.pack a).dataLen = DISCRIMINATOR_SIZE + t.LEN := by
  cases t <;> rfl

end AccountType

namespace KeelAccount

/-- The bytes of an account; between its creation and its first save they are zero. -/
def bytes : KeelAccount → List UInt8
  | .controller a => AccountType.controller.encode a
  | .permission a => AccountType.permission.encode a
  | .reserve a => AccountType.reserve.encode a
  | .integration a => AccountType.integration.encode a
  | .oracle a => AccountType.oracle.encode a
  | .allocated space => List.replicate space 0

theorem bytes_pack {t : AccountType} {a : t.Data} : (t.pack a).bytes = t.encode a := by
  cases t <;> rfl

/-- An account is in use, as one of the five types, or only allocated. -/
theorem cases_pack (d : KeelAccount) :
    (∃ t : AccountType, ∃ a : t.Data, d = t.pack a) ∨ ∃ space, d = .allocated space := by
  cases d with
  | controller a => exact .inl ⟨.controller, a, rfl⟩
  | permission a => exact .inl ⟨.permission, a, rfl⟩
  | reserve a => exact .inl ⟨.reserve, a, rfl⟩
  | integration a => exact .inl ⟨.integration, a, rfl⟩
  | oracle a => exact .inl ⟨.oracle, a, rfl⟩
  | allocated space => exact .inr ⟨space, rfl⟩

theorem length_bytes {d : KeelAccount} : d.bytes.length = d.dataLen := by
  rcases d.cases_pack with ⟨t, a, rfl⟩ | ⟨space, rfl⟩
  · rw [bytes_pack, AccountType.length_encode, AccountType.dataLen_pack]
  · exact List.length_replicate

/-- The bytes of an account are of one type, whatever their length. -/
theorem bytes_eq_encode {d : KeelAccount} {t : AccountType} {a : t.Data} :
    d.bytes = t.encode a ↔ d = t.pack a := by
  constructor
  · intro h
    rcases d.cases_pack with ⟨t', a', rfl⟩ | ⟨space, rfl⟩
    · rw [bytes_pack] at h
      obtain rfl : t' = t := AccountType.DISCRIMINATOR_injective (List.cons.inj h).1
      rw [AccountType.encode_injective h]
    · have hmem : t.DISCRIMINATOR ∈ List.replicate space (0 : UInt8) := by
        show _ ∈ bytes (.allocated space)
        rw [h]
        exact List.mem_cons_self
      exact absurd (List.eq_of_mem_replicate hmem) AccountType.DISCRIMINATOR_ne_zero
  · intro h
    rw [h, bytes_pack]

/-- Reading the typed table is `deserialize` of the bytes. -/
theorem unpack_iff_deserialize {d : KeelAccount} {t : AccountType} {a : t.Data} :
    t.unpack d = some a ↔ t.deserialize d.bytes = .ok a := by
  rw [AccountType.unpack_eq, AccountType.deserialize_ok, bytes_eq_encode]

end KeelAccount

section Refines

variable {w w' : World} {account : AccountMeta} {t : AccountType} {a : t.Data} {d : KeelAccount}

/-- Loading from the typed table is loading from the bytes. -/
theorem loadKeel_iff_deserialize (hd : w.keel account.pubkey = some d) :
    loadKeel account t.unpack w = .ok (a, w') ↔ t.deserialize d.bytes = .ok a ∧ w = w' := by
  rw [loadKeel_ok, ← KeelAccount.unpack_iff_deserialize]
  constructor
  · rintro ⟨d', hd', ha, hw⟩
    rw [hd] at hd'
    obtain rfl := Option.some.inj hd'
    exact ⟨ha, hw⟩
  · rintro ⟨ha, hw⟩
    exact ⟨d, hd, ha, hw⟩

/-- An account of another type is refused. -/
theorem loadKeel_refused (hd : w.keel account.pubkey = some d) (hnone : t.unpack d = none) :
    loadKeel account t.unpack w = .error (.program .InvalidAccountData) := by
  rw [loadKeel, bind_error]
  refine .inr ⟨w, w, rfl, ?_⟩
  rw [bind_error]
  refine .inr ⟨d, w, ofOption_ok.mpr ⟨hd, rfl⟩, ?_⟩
  exact ofOption_error.mpr ⟨hnone, rfl⟩

/-- Saving to the typed table is saving to the bytes, of an account that may be
    written. -/
theorem save_iff_save (hd : w.keel account.pubkey = some d) {u : Unit} :
    save account (t.pack a) w = .ok (u, w') ↔
      account.isWritable = true ∧
        t.save a ⟨ID, d.bytes⟩ = .ok ⟨ID, (t.pack a).bytes⟩ ∧
        w.setKeel account.pubkey (t.pack a) = w' := by
  rw [AlmController.save_ok, AccountType.save_ok, KeelAccount.length_bytes, KeelAccount.bytes_pack,
    AccountType.dataLen_pack]
  constructor
  · rintro ⟨⟨d', hd', hlength⟩, hwritable, hw⟩
    rw [hd] at hd'
    obtain rfl := Option.some.inj hd'
    exact ⟨hwritable, ⟨rfl, hlength, rfl⟩, hw⟩
  · rintro ⟨hwritable, ⟨-, hlength, -⟩, hw⟩
    exact ⟨⟨d, hd, hlength⟩, hwritable, hw⟩

end Refines

end AlmController
