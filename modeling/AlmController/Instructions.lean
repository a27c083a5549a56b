import AlmController.Base

/-!
# Instruction arguments (`instructions.rs`)

What follows the discriminator in an instruction's data. Every argument type has
its Borsh codec, so an instruction is accepted exactly when its data is the encoding
of some arguments.
-/

namespace AlmController

/-! ## Governance -/

structure InitializeControllerArgs where
  id : UInt16
  status : ControllerStatus
  deriving DecidableEq, Repr

instance : Borsh InitializeControllerArgs :=
  Borsh.record (fun a => (a.id, a.status)) (fun (a, b) => ⟨a, b⟩) (fun _ => rfl) (fun _ => rfl)

structure ManageControllerArgs where
  status : ControllerStatus
  deriving DecidableEq, Repr

instance : Borsh ManageControllerArgs :=
  Borsh.record (fun a => a.status) (fun a => ⟨a⟩) (fun _ => rfl) (fun _ => rfl)

structure ManagePermissionArgs where
  status : PermissionStatus
  canManagePermissions : Bool
  canInvokeExternalTransfer : Bool
  canExecuteSwap : Bool
  canReallocate : Bool
  canFreezeController : Bool
  canUnfreezeController : Bool
  canManageReservesAndIntegrations : Bool
  canSuspendPermissions : Bool
  canLiquidate : Bool
  deriving DecidableEq, Repr

instance : Borsh ManagePermissionArgs :=
  Borsh.record
    (fun a => (a.status, a.canManagePermissions, a.canInvokeExternalTransfer, a.canExecuteSwap,
      a.canReallocate, a.canFreezeController, a.canUnfreezeController,
      a.canManageReservesAndIntegrations, a.canSuspendPermissions, a.canLiquidate))
    (fun (a, b, c, d, e, f, g, h, i, j) => ⟨a, b, c, d, e, f, g, h, i, j⟩)
    (fun _ => rfl) (fun _ => rfl)

/-! ## Reserves, integrations and oracles -/

structure InitializeReserveArgs where
  status : ReserveStatus
  rateLimitSlope : UInt64
  rateLimitMaxOutflow : UInt64
  deriving DecidableEq, Repr

instance : Borsh InitializeReserveArgs :=
  Borsh.record (fun a => (a.status, a.rateLimitSlope, a.rateLimitMaxOutflow))
    (fun (a, b, c) => ⟨a, b, c⟩) (fun _ => rfl) (fun _ => rfl)

structure ManageReserveArgs where
  status : Option ReserveStatus
  rateLimitSlope : Option UInt64
  rateLimitMaxOutflow : Option UInt64
  deriving DecidableEq, Repr

instance : Borsh ManageReserveArgs :=
  Borsh.record (fun a => (a.status, a.rateLimitSlope, a.rateLimitMaxOutflow))
    (fun (a, b, c) => ⟨a, b, c⟩) (fun _ => rfl) (fun _ => rfl)

/-- The protocol-specific part of InitializeIntegration. -/
inductive InitializeArgs
  | SplTokenExternal
  | CctpBridge (destinationAddress : Pubkey) (destinationDomain : UInt32)
  | LzBridge (destinationAddress : Pubkey) (destinationEid : UInt32)
  | AtomicSwap (maxSlippageBps : UInt16) (maxStaleness : UInt64) (expiryTimestamp : Int64)
      (oraclePriceInverted : Bool)
  | Drift (subAccountId spotMarketIndex : UInt16)
  | KaminoIntegration (obligationId : UInt8)
  deriving DecidableEq, Repr

/-- The variant's index, then its fields. -/
instance : Borsh InitializeArgs where
  write
    | .SplTokenExternal => [0]
    | .CctpBridge a d => 1 :: Borsh.write (a, d)
    | .LzBridge a d => 2 :: Borsh.write (a, d)
    | .AtomicSwap a b c d => 3 :: Borsh.write (a, b, c, d)
    | .Drift a b => 4 :: Borsh.write (a, b)
    | .KaminoIntegration a => 5 :: Borsh.write a
  read
    | 0 :: bs => some (.SplTokenExternal, bs)
    | 1 :: bs => Borsh.readAs (α := Pubkey × UInt32) (fun (a, d) => .CctpBridge a d) bs
    | 2 :: bs => Borsh.readAs (α := Pubkey × UInt32) (fun (a, d) => .LzBridge a d) bs
    | 3 :: bs =>
      Borsh.readAs (α := UInt16 × UInt64 × Int64 × Bool)
        (fun (a, b, c, d) => .AtomicSwap a b c d) bs
    | 4 :: bs => Borsh.readAs (α := UInt16 × UInt16) (fun (a, b) => .Drift a b) bs
    | 5 :: bs => Borsh.readAs .KaminoIntegration bs
    | _ => none
  read_write c rest := by
    cases c with
    | SplTokenExternal => rfl
    | _ => simp only [List.cons_append, Borsh.readAs_write]
  write_read {bs c rest} h := by
    split at h
    case h_1 =>
      obtain ⟨rfl, rfl⟩ := Prod.mk.inj (Option.some.inj h)
      rfl
    case h_7 => cases h
    all_goals
      obtain ⟨a, rfl, rfl⟩ := Borsh.readAs_eq_some h
      rfl

structure InitializeIntegrationArgs where
  integrationType : IntegrationType
  status : IntegrationStatus
  description : ByteArr 32
  rateLimitSlope : UInt64
  rateLimitMaxOutflow : UInt64
  permitLiquidation : Bool
  innerArgs : InitializeArgs
  deriving DecidableEq, Repr

instance : Borsh InitializeIntegrationArgs :=
  Borsh.record
    (fun a => (a.integrationType, a.status, a.description, a.rateLimitSlope,
      a.rateLimitMaxOutflow, a.permitLiquidation, a.innerArgs))
    (fun (a, b, c, d, e, f, g) => ⟨a, b, c, d, e, f, g⟩) (fun _ => rfl) (fun _ => rfl)

structure ManageIntegrationArgs where
  status : Option IntegrationStatus
  description : Option (ByteArr 32)
  rateLimitSlope : Option UInt64
  rateLimitMaxOutflow : Option UInt64
  deriving DecidableEq, Repr

instance : Borsh ManageIntegrationArgs :=
  Borsh.record (fun a => (a.status, a.description, a.rateLimitSlope, a.rateLimitMaxOutflow))
    (fun (a, b, c, d) => ⟨a, b, c, d⟩) (fun _ => rfl) (fun _ => rfl)

structure InitializeOracleArgs where
  oracleType : UInt8
  nonce : Pubkey
  baseMint : Pubkey
  quoteMint : Pubkey
  deriving DecidableEq, Repr

instance : Borsh InitializeOracleArgs :=
  Borsh.record (fun a => (a.oracleType, a.nonce, a.baseMint, a.quoteMint))
    (fun (a, b, c, d) => ⟨a, b, c, d⟩) (fun _ => rfl) (fun _ => rfl)

structure FeedArgs where
  oracleType : UInt8
  deriving DecidableEq, Repr

instance : Borsh FeedArgs :=
  Borsh.record (fun a => a.oracleType) (fun a => ⟨a⟩) (fun _ => rfl) (fun _ => rfl)

structure UpdateOracleArgs where
  feedArgs : Option FeedArgs
  deriving DecidableEq, Repr

instance : Borsh UpdateOracleArgs :=
  Borsh.record (fun a => a.feedArgs) (fun a => ⟨a⟩) (fun _ => rfl) (fun _ => rfl)

/-! ## Moving funds -/

inductive PushArgs
  | SplTokenExternal (amount : UInt64)
  | CctpBridge (amount : UInt64)
  | LzBridge (amount : UInt64)
  | Drift (spotMarketIndex : UInt16) (amount : UInt64)
  | Kamino (amount : UInt64)
  deriving DecidableEq, Repr

instance : Borsh PushArgs where
  write
    | .SplTokenExternal a => 0 :: Borsh.write a
    | .CctpBridge a => 1 :: Borsh.write a
    | .LzBridge a => 2 :: Borsh.write a
    | .Drift i a => 3 :: Borsh.write (i, a)
    | .Kamino a => 4 :: Borsh.write a
  read
    | 0 :: bs => Borsh.readAs .SplTokenExternal bs
    | 1 :: bs => Borsh.readAs .CctpBridge bs
    | 2 :: bs => Borsh.readAs .LzBridge bs
    | 3 :: bs => Borsh.readAs (fun ((i, a) : UInt16 × UInt64) => .Drift i a) bs
    | 4 :: bs => Borsh.readAs .Kamino bs
    | _ => none
  read_write c rest := by
    cases c <;> simp only [List.cons_append, Borsh.readAs_write]
  write_read {bs c rest} h := by
    split at h
    case h_6 => cases h
    all_goals
      obtain ⟨a, rfl, rfl⟩ := Borsh.readAs_eq_some h
      rfl

inductive PullArgs
  | SplTokenExternal
  | CctpBridge
  | LzBridge
  | Kamino (amount : UInt64)
  | Drift (spotMarketIndex : UInt16) (amount : UInt64)
  deriving DecidableEq, Repr

instance : Borsh PullArgs where
  write
    | .SplTokenExternal => [0]
    | .CctpBridge => [1]
    | .LzBridge => [2]
    | .Kamino a => 3 :: Borsh.write a
    | .Drift i a => 4 :: Borsh.write (i, a)
  read
    | 0 :: bs => some (.SplTokenExternal, bs)
    | 1 :: bs => some (.CctpBridge, bs)
    | 2 :: bs => some (.LzBridge, bs)
    | 3 :: bs => Borsh.readAs .Kamino bs
    | 4 :: bs => Borsh.readAs (fun ((i, a) : UInt16 × UInt64) => .Drift i a) bs
    | _ => none
  read_write c rest := by
    cases c with
    | SplTokenExternal => rfl
    | CctpBridge => rfl
    | LzBridge => rfl
    | _ => simp only [List.cons_append, Borsh.readAs_write]
  write_read {bs c rest} h := by
    split at h
    case h_4 | h_5 =>
      obtain ⟨a, rfl, rfl⟩ := Borsh.readAs_eq_some h
      rfl
    case h_6 => cases h
    all_goals
      obtain ⟨rfl, rfl⟩ := Prod.mk.inj (Option.some.inj h)
      rfl

structure AtomicSwapBorrowArgs where
  amount : UInt64
  deriving DecidableEq, Repr

instance : Borsh AtomicSwapBorrowArgs :=
  Borsh.record (fun a => a.amount) (fun a => ⟨a⟩) (fun _ => rfl) (fun _ => rfl)

end AlmController
