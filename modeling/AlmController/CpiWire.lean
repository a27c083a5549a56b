import AlmController.Lib.Sha256
import AlmController.World

/-!
# The bytes of an invocation

`cpi_instruction!` (`macros.rs`) turns each struct of `integrations/*/cpi.rs` into the three things
an instruction is made of: the program, the accounts with their flags, and the data, which is an
8-byte discriminator and the Borsh of the arguments. `Cpi.raw?` is that, for all of its fourteen
uses. The instructions of the token, system and associated-token programs are built by crates.

What the program signs for is what these bytes say to the program that is invoked, and `read` is
how to read them: the program and the discriminator tell the instruction, its accounts stand in
their places, and so do its arguments. `read_raw` says that nothing is lost: from the bytes alone
everybody knows which invocation it was.
-/

namespace AlmController

/-- `anchor_discriminator`: the first 8 bytes of SHA256(namespace:name). -/
def anchorDiscriminator (ns name : String) : List UInt8 :=
  (Sha256.hash (asciiBytes ns ++ asciiBytes ":" ++ asciiBytes name)).take 8

/-! ## The instructions -/

/-- The uses of `cpi_instruction!`. -/
inductive AnchorIx
  -- kamino/cpi.rs
  | InitializeObligation
  | InitializeUserMetadata
  | InitializeObligationFarmForReserve
  | DepositReserveLiquidityAndObligationCollateralV2
  | WithdrawObligationCollateralAndRedeemReserveCollateralV2
  | HarvestReward
  | RefreshObligationAfterInit
  -- drift/cpi.rs
  | InitializeUserStats
  | UpdateUserPoolId
  | InitializeUser
  | Deposit
  | Withdraw
  | UpdateSpotMarketCumulativeInterest
  -- cctp_bridge/cpi.rs
  | DepositForBurn
  deriving DecidableEq, Repr

namespace AnchorIx

def all : List AnchorIx :=
  [InitializeObligation, InitializeUserMetadata, InitializeObligationFarmForReserve,
    DepositReserveLiquidityAndObligationCollateralV2,
    WithdrawObligationCollateralAndRedeemReserveCollateralV2, HarvestReward,
    RefreshObligationAfterInit, InitializeUserStats, UpdateUserPoolId, InitializeUser, Deposit,
    Withdraw, UpdateSpotMarketCumulativeInterest, DepositForBurn]

def program : AnchorIx → Pubkey
  | InitializeObligation | InitializeUserMetadata | InitializeObligationFarmForReserve
  | DepositReserveLiquidityAndObligationCollateralV2
  | WithdrawObligationCollateralAndRedeemReserveCollateralV2
  | RefreshObligationAfterInit => KAMINO_LEND_PROGRAM_ID
  | HarvestReward => KAMINO_FARMS_PROGRAM_ID
  | InitializeUserStats | UpdateUserPoolId | InitializeUser | Deposit | Withdraw
  | UpdateSpotMarketCumulativeInterest => DRIFT_PROGRAM_ID
  | DepositForBurn => CCTP_TOKEN_MESSENGER_MINTER_PROGRAM_ID

def name : AnchorIx → String
  | InitializeObligation => "init_obligation"
  | InitializeUserMetadata => "init_user_metadata"
  | InitializeObligationFarmForReserve => "init_obligation_farms_for_reserve"
  | DepositReserveLiquidityAndObligationCollateralV2 =>
    "deposit_reserve_liquidity_and_obligation_collateral_v2"
  | WithdrawObligationCollateralAndRedeemReserveCollateralV2 =>
    "withdraw_obligation_collateral_and_redeem_reserve_collateral_v2"
  | HarvestReward => "harvest_reward"
  | RefreshObligationAfterInit => "refresh_obligation"
  | InitializeUserStats => "initialize_user_stats"
  | UpdateUserPoolId => "update_user_pool_id"
  | InitializeUser => "initialize_user"
  | Deposit => "deposit"
  | Withdraw => "withdraw"
  | UpdateSpotMarketCumulativeInterest => "update_spot_market_cumulative_interest"
  | DepositForBurn => "deposit_for_burn"

def discriminator (ix : AnchorIx) : List UInt8 := anchorDiscriminator "global" ix.name

/-- The instruction of this program with this discriminator. -/
def find (program : Pubkey) (discriminator : List UInt8) : Option AnchorIx :=
  all.find? fun ix => ix.program = program ∧ ix.discriminator = discriminator

theorem length_discriminator {ix : AnchorIx} : ix.discriminator.length = 8 := by
  show (List.take 8 _).length = 8
  rw [List.length_take, Sha256.length_hash]
  rfl

/-- The discriminators, evaluated. -/
def discriminatorBytes : AnchorIx → List UInt8
  | InitializeObligation => [0xfb, 0x0a, 0xe7, 0x4c, 0x1b, 0x0b, 0x9f, 0x60]
  | InitializeUserMetadata => [0x75, 0xa9, 0xb0, 0x45, 0xc5, 0x17, 0x0f, 0xa2]
  | InitializeObligationFarmForReserve => [0x88, 0x3f, 0x0f, 0xba, 0xd3, 0x98, 0xa8, 0xa4]
  | DepositReserveLiquidityAndObligationCollateralV2 =>
    [0xd8, 0xe0, 0xbf, 0x1b, 0xcc, 0x97, 0x66, 0xaf]
  | WithdrawObligationCollateralAndRedeemReserveCollateralV2 =>
    [0xeb, 0x34, 0x77, 0x98, 0x95, 0xc5, 0x14, 0x07]
  | HarvestReward => [0x44, 0xc8, 0xe4, 0xe9, 0xb8, 0x20, 0xe2, 0xbc]
  | RefreshObligationAfterInit => [0x21, 0x84, 0x93, 0xe4, 0x97, 0xc0, 0x48, 0x59]
  | InitializeUserStats => [0xfe, 0xf3, 0x48, 0x62, 0xfb, 0x82, 0xa8, 0xd5]
  | UpdateUserPoolId => [0xdb, 0x56, 0x49, 0x6a, 0x38, 0xda, 0x80, 0x6d]
  | InitializeUser => [0x6f, 0x11, 0xb9, 0xfa, 0x3c, 0x7a, 0x26, 0xfe]
  | Deposit => [0xf2, 0x23, 0xc6, 0x89, 0x52, 0xe1, 0xf2, 0xb6]
  | Withdraw => [0xb7, 0x12, 0x46, 0x9c, 0x94, 0x6d, 0xa1, 0x22]
  | UpdateSpotMarketCumulativeInterest => [0x27, 0xa6, 0x8b, 0xf3, 0x9e, 0xa5, 0x9b, 0xe1]
  | DepositForBurn => [0xd7, 0x3c, 0x3d, 0x2e, 0x72, 0x37, 0x80, 0xb0]

theorem discriminator_eq {ix : AnchorIx} : ix.discriminator = ix.discriminatorBytes := by
  cases ix
  all_goals decide +kernel

/-- **No two have the same header.** -/
theorem find_header {ix : AnchorIx} : find ix.program ix.discriminator = some ix := by
  unfold find
  simp only [discriminator_eq]
  cases ix
  all_goals rfl

end AnchorIx

/-! ## Writing -/

/-- An instruction as the runtime gets it. -/
structure RawInstruction where
  programId : Pubkey
  accounts : List AccountMeta
  data : List UInt8
  deriving DecidableEq, Repr

-- the account types of `cpi_instruction!`
def readonly (k : Pubkey) : AccountMeta := ⟨k, false, false⟩
def writable (k : Pubkey) : AccountMeta := ⟨k, false, true⟩
def signer (k : Pubkey) : AccountMeta := ⟨k, true, false⟩
def writableSigner (k : Pubkey) : AccountMeta := ⟨k, true, true⟩

/-- `invoke_signed`: discriminator, then arguments. -/
def AnchorIx.invokeSigned (ix : AnchorIx) (accounts : List AccountMeta) (args : List UInt8) :
    RawInstruction :=
  ⟨ix.program, accounts, ix.discriminator ++ args⟩

/-- Remaining accounts keep the flags that they were passed with. -/
def remainingMetas (info : Pubkey → Bool × Bool) (ks : List Pubkey) : List AccountMeta :=
  ks.map fun k => ⟨k, (info k).1, (info k).2⟩

/-- The instruction that an invocation is sent as, given who signs and what is writable among the
    remaining accounts. -/
def Cpi.raw? (info : Pubkey → Bool × Bool) : Cpi → Option RawInstruction
  -- these are built by the system, token and associated-token crates
  | .systemTransfer _ _ _ | .systemAllocate _ _ | .systemAssign _ _
  | .systemCreateAccount _ _ _ _ _ | .transferChecked _ | .createIdempotent _ => none
  | .depositForBurn ix => some <| AnchorIx.DepositForBurn.invokeSigned
      [signer ix.controllerAuthority, writableSigner ix.eventRentPayer,
        readonly ix.senderAuthorityPda, writable ix.vault, writable ix.messageTransmitter,
        readonly ix.tokenMessenger, readonly ix.remoteTokenMessenger, readonly ix.tokenMinter,
        writable ix.localToken, writable ix.burnTokenMint, writableSigner ix.messageSentEventData,
        readonly CCTP_MESSAGE_TRANSMITTER_PROGRAM_ID,
        readonly CCTP_TOKEN_MESSENGER_MINTER_PROGRAM_ID, readonly ix.tokenProgram,
        readonly SYSTEM_PROGRAM_ID, readonly ix.eventAuthority,
        readonly CCTP_TOKEN_MESSENGER_MINTER_PROGRAM_ID]
      (Borsh.write (ix.amount, ix.destinationDomain, ix.mintRecipient))
  | .initializeUserMetadata owner payer userMetadata referrerUserMetadata userLookupTable =>
    some <| AnchorIx.InitializeUserMetadata.invokeSigned
      [signer owner, writableSigner payer, writable userMetadata, readonly referrerUserMetadata,
        readonly RENT_ID, readonly SYSTEM_PROGRAM_ID]
      (Borsh.write userLookupTable)
  | .initializeObligation ix => some <| AnchorIx.InitializeObligation.invokeSigned
      [signer ix.obligationOwner, writableSigner ix.payer, writable ix.obligation,
        readonly ix.lendingMarket, readonly SYSTEM_PROGRAM_ID, readonly SYSTEM_PROGRAM_ID,
        readonly ix.ownerUserMetadata, readonly RENT_ID, readonly SYSTEM_PROGRAM_ID]
      (Borsh.write (ix.tag, ix.id))
  | .initializeObligationFarmForReserve payer owner obligation marketAuthority kaminoReserve
      reserveFarmState obligationFarm lendingMarket mode =>
    some <| AnchorIx.InitializeObligationFarmForReserve.invokeSigned
      [writableSigner payer, readonly owner, writable obligation, readonly marketAuthority,
        writable kaminoReserve, writable reserveFarmState, writable obligationFarm,
        readonly lendingMarket, readonly KAMINO_FARMS_PROGRAM_ID, readonly RENT_ID,
        readonly SYSTEM_PROGRAM_ID]
      (Borsh.write mode)
  | .refreshObligationAfterInit lendingMarket obligation =>
    some <| AnchorIx.RefreshObligationAfterInit.invokeSigned
      [readonly lendingMarket, writable obligation] []
  | .kaminoDeposit a liquidityAmount =>
    some <| AnchorIx.DepositReserveLiquidityAndObligationCollateralV2.invokeSigned
      [writableSigner a.owner, writable a.obligation, readonly a.lendingMarket,
        readonly a.marketAuthority, writable a.kaminoReserve, readonly a.reserveLiquidityMint,
        writable a.reserveLiquiditySupply, writable a.reserveCollateralMint,
        writable a.reserveCollateralSupply, writable a.userLiquidity,
        readonly KAMINO_LEND_PROGRAM_ID, readonly a.collateralTokenProgram,
        readonly a.liquidityTokenProgram, readonly INSTRUCTIONS_ID,
        writable a.obligationFarmUserState, writable a.reserveFarmState,
        readonly KAMINO_FARMS_PROGRAM_ID]
      (Borsh.write liquidityAmount)
  | .kaminoWithdraw a collateralAmount =>
    -- the collateral comes before the liquidity here
    some <| AnchorIx.WithdrawObligationCollateralAndRedeemReserveCollateralV2.invokeSigned
      [writableSigner a.owner, writable a.obligation, readonly a.lendingMarket,
        readonly a.marketAuthority, writable a.kaminoReserve, readonly a.reserveLiquidityMint,
        writable a.reserveCollateralSupply, writable a.reserveCollateralMint,
        writable a.reserveLiquiditySupply, writable a.userLiquidity,
        readonly KAMINO_LEND_PROGRAM_ID, readonly a.collateralTokenProgram,
        readonly a.liquidityTokenProgram, readonly INSTRUCTIONS_ID,
        writable a.obligationFarmUserState, writable a.reserveFarmState,
        readonly KAMINO_FARMS_PROGRAM_ID]
      (Borsh.write collateralAmount)
  | .harvestReward ix => some <| AnchorIx.HarvestReward.invokeSigned
      [writableSigner ix.owner, writable ix.userState, writable ix.farmState,
        readonly ix.globalConfig, readonly ix.rewardMint, writable ix.userRewardAta,
        writable ix.rewardsVault, writable ix.rewardsTreasuryVault,
        readonly ix.farmVaultsAuthority, readonly ix.scopePrices, readonly ix.tokenProgram]
      (Borsh.write (UInt64.ofNat ix.rewardIndex))
  | .initializeUserStats userStats state authority payer =>
    some <| AnchorIx.InitializeUserStats.invokeSigned
      [writable userStats, writable state, signer authority, writableSigner payer,
        readonly RENT_ID, readonly SYSTEM_PROGRAM_ID] []
  | .initializeUser user userStats state authority payer subAccountId name =>
    some <| AnchorIx.InitializeUser.invokeSigned
      [writable user, writable userStats, writable state, signer authority, writableSigner payer,
        readonly RENT_ID, readonly SYSTEM_PROGRAM_ID]
      (Borsh.write (subAccountId, name))
  | .updateUserPoolId user authority subAccountId poolId =>
    some <| AnchorIx.UpdateUserPoolId.invokeSigned [writable user, signer authority]
      (Borsh.write (subAccountId, poolId))
  | .updateSpotMarketCumulativeInterest state spotMarket oracle spotMarketVault =>
    some <| AnchorIx.UpdateSpotMarketCumulativeInterest.invokeSigned
      [readonly state, writable spotMarket, readonly oracle, readonly spotMarketVault] []
  | .driftDeposit ix => some <| AnchorIx.Deposit.invokeSigned
      ([readonly ix.state, writable ix.user, writable ix.userStats, signer ix.authority,
        writable ix.spotMarketVault, writable ix.userTokenAccount, readonly ix.tokenProgram] ++
        remainingMetas info ix.remainingAccounts)
      (Borsh.write (ix.marketIndex, ix.amount, ix.reduceOnly))
  | .driftWithdraw ix driftSigner => some <| AnchorIx.Withdraw.invokeSigned
      ([readonly ix.state, writable ix.user, writable ix.userStats, signer ix.authority,
        writable ix.spotMarketVault, readonly driftSigner, writable ix.userTokenAccount,
        readonly ix.tokenProgram] ++ remainingMetas info ix.remainingAccounts)
      (Borsh.write (ix.marketIndex, ix.amount, ix.reduceOnly))

/-! ## Reading -/

/-- The invocation with these accounts and arguments. -/
def AnchorIx.read : AnchorIx → List Pubkey → List UInt8 → Option Cpi
  | DepositForBurn, [authority, payer, sender, vault, transmitter, messenger, remote, minter,
      localToken, mint, event, _, _, tokenProgram, _, eventAuthority, _], args => do
    let (amount, domain, recipient) ← (Borsh.tryFromSlice args : Option (UInt64 × UInt32 × Pubkey))
    return .depositForBurn ⟨authority, payer, sender, vault, transmitter, messenger, remote, minter,
      localToken, mint, event, eventAuthority, tokenProgram, amount, domain, recipient⟩
  | InitializeUserMetadata, [owner, payer, metadata, referrer, _, _], args => do
    let lookupTable ← (Borsh.tryFromSlice args : Option Pubkey)
    return .initializeUserMetadata owner payer metadata referrer lookupTable
  | InitializeObligation, [owner, payer, obligation, market, _, _, metadata, _, _], args => do
    let (tag, id) ← (Borsh.tryFromSlice args : Option (UInt8 × UInt8))
    return .initializeObligation ⟨owner, payer, obligation, market, metadata, tag, id⟩
  | InitializeObligationFarmForReserve, [payer, owner, obligation, authority, reserve, state, farm,
      market, _, _, _], args => do
    let mode ← (Borsh.tryFromSlice args : Option UInt8)
    return .initializeObligationFarmForReserve payer owner obligation authority reserve state farm
      market mode
  | RefreshObligationAfterInit, [market, obligation], [] =>
    return .refreshObligationAfterInit market obligation
  | DepositReserveLiquidityAndObligationCollateralV2, [owner, obligation, market, authority,
      reserve, mint, supply, collateralMint, collateralSupply, user, _, collateralProgram,
      liquidityProgram, _, obligationFarm, farm, _], args => do
    let amount ← (Borsh.tryFromSlice args : Option UInt64)
    return .kaminoDeposit ⟨owner, obligation, market, authority, reserve, mint, supply,
      collateralMint, collateralSupply, user, collateralProgram, liquidityProgram, obligationFarm,
      farm⟩ amount
  | WithdrawObligationCollateralAndRedeemReserveCollateralV2, [owner, obligation, market, authority,
      reserve, mint, collateralSupply, collateralMint, supply, user, _, collateralProgram,
      liquidityProgram, _, obligationFarm, farm, _], args => do
    let amount ← (Borsh.tryFromSlice args : Option UInt64)
    return .kaminoWithdraw ⟨owner, obligation, market, authority, reserve, mint, supply,
      collateralMint, collateralSupply, user, collateralProgram, liquidityProgram, obligationFarm,
      farm⟩ amount
  | HarvestReward, [owner, userState, farmState, config, mint, ata, vault, treasury, authority,
      prices, tokenProgram], args => do
    let index ← (Borsh.tryFromSlice args : Option UInt64)
    return .harvestReward ⟨owner, userState, farmState, config, mint, ata, vault, treasury,
      authority, prices, tokenProgram, index.toNat⟩
  | InitializeUserStats, [userStats, state, authority, payer, _, _], [] =>
    return .initializeUserStats userStats state authority payer
  | InitializeUser, [user, userStats, state, authority, payer, _, _], args => do
    let (id, name) ← (Borsh.tryFromSlice args : Option (UInt16 × ByteArr 32))
    return .initializeUser user userStats state authority payer id name
  | UpdateUserPoolId, [user, authority], args => do
    let (id, pool) ← (Borsh.tryFromSlice args : Option (UInt16 × UInt8))
    return .updateUserPoolId user authority id pool
  | UpdateSpotMarketCumulativeInterest, [state, market, oracle, vault], [] =>
    return .updateSpotMarketCumulativeInterest state market oracle vault
  | Deposit, state :: user :: userStats :: authority :: vault :: account :: tokenProgram :: rest,
      args => do
    let (market, amount, reduceOnly) ← (Borsh.tryFromSlice args : Option (UInt16 × UInt64 × Bool))
    return .driftDeposit ⟨state, user, userStats, authority, vault, account, tokenProgram, rest,
      market, amount, reduceOnly⟩
  | Withdraw, state :: user :: userStats :: authority :: vault :: driftSigner :: account ::
      tokenProgram :: rest, args => do
    let (market, amount, reduceOnly) ← (Borsh.tryFromSlice args : Option (UInt16 × UInt64 × Bool))
    return .driftWithdraw ⟨state, user, userStats, authority, vault, account, tokenProgram, rest,
      market, amount, reduceOnly⟩ driftSigner
  | _, _, _ => none

/-- Read an instruction: the program and the first 8 bytes say which it is. -/
def RawInstruction.read (raw : RawInstruction) : Option Cpi := do
  let ix ← AnchorIx.find raw.programId (raw.data.take 8)
  ix.read (raw.accounts.map AccountMeta.pubkey) (raw.data.drop 8)

/-- The index of a reward is a `u64`. -/
def Cpi.Fits : Cpi → Prop
  | .harvestReward ix => ix.rewardIndex < 2 ^ 64
  | _ => True

section RoundTrip

variable {info : Pubkey → Bool × Bool} {call : Cpi} {raw : RawInstruction}

theorem AnchorIx.read_invokeSigned {ix : AnchorIx} {accounts : List AccountMeta}
    {args : List UInt8} : (ix.invokeSigned accounts args).read =
      ix.read (accounts.map AccountMeta.pubkey) args := by
  have htake : (ix.discriminator ++ args).take 8 = ix.discriminator := by
    rw [← @AnchorIx.length_discriminator ix]
    exact List.take_left
  have hdrop : (ix.discriminator ++ args).drop 8 = args := by
    rw [← @AnchorIx.length_discriminator ix]
    exact List.drop_left
  show (AnchorIx.find ix.program ((ix.discriminator ++ args).take 8)).bind
    (fun ix' => ix'.read _ ((ix.discriminator ++ args).drop 8)) = _
  rw [htake, hdrop, AnchorIx.find_header]
  rfl

/-- Arguments that were written are read back. -/
theorem bind_tryFromSlice {α : Type} [Borsh α] {a : α} {f : α → Option Cpi} (h : f a = some call) :
    (Borsh.tryFromSlice (Borsh.write a)).bind f = some call := by
  rw [Borsh.tryFromSlice_eq_some.mpr rfl, Option.bind_some, h]

theorem remainingMetas_pubkey {ks : List Pubkey} :
    (remainingMetas info ks).map AccountMeta.pubkey = ks := by
  unfold remainingMetas
  rw [List.map_map]
  exact List.map_id ks

/-- **The bytes say which invocation it is.** -/
theorem read_raw (hfits : call.Fits) (h : call.raw? info = some raw) : raw.read = some call := by
  cases call with
  | systemTransfer => cases h
  | systemAllocate => cases h
  | systemAssign => cases h
  | systemCreateAccount => cases h
  | transferChecked => cases h
  | createIdempotent => cases h
  | depositForBurn ix =>
    obtain rfl := Option.some.inj h
    rw [AnchorIx.read_invokeSigned]
    exact bind_tryFromSlice (a := (ix.amount, ix.destinationDomain, ix.mintRecipient))
      (f := fun x => some (.depositForBurn
        { ix with amount := x.1, destinationDomain := x.2.1, mintRecipient := x.2.2 })) rfl
  | initializeUserMetadata owner payer userMetadata referrerUserMetadata userLookupTable =>
    obtain rfl := Option.some.inj h
    rw [AnchorIx.read_invokeSigned]
    exact bind_tryFromSlice (a := userLookupTable)
      (f := fun x => some (.initializeUserMetadata owner payer userMetadata referrerUserMetadata x)) rfl
  | initializeObligation ix =>
    obtain rfl := Option.some.inj h
    rw [AnchorIx.read_invokeSigned]
    exact bind_tryFromSlice (a := (ix.tag, ix.id))
      (f := fun x => some (.initializeObligation { ix with tag := x.1, id := x.2 })) rfl
  | initializeObligationFarmForReserve payer owner obligation marketAuthority kaminoReserve
      reserveFarmState obligationFarm lendingMarket mode =>
    obtain rfl := Option.some.inj h
    rw [AnchorIx.read_invokeSigned]
    exact bind_tryFromSlice (a := mode)
      (f := fun x => some (.initializeObligationFarmForReserve payer owner obligation marketAuthority
        kaminoReserve reserveFarmState obligationFarm lendingMarket x)) rfl
  | refreshObligationAfterInit =>
    obtain rfl := Option.some.inj h
    rw [AnchorIx.read_invokeSigned]
    rfl
  | kaminoDeposit accounts liquidityAmount =>
    obtain rfl := Option.some.inj h
    rw [AnchorIx.read_invokeSigned]
    exact bind_tryFromSlice (a := liquidityAmount)
      (f := fun x => some (.kaminoDeposit accounts x)) rfl
  | kaminoWithdraw accounts collateralAmount =>
    obtain rfl := Option.some.inj h
    rw [AnchorIx.read_invokeSigned]
    exact bind_tryFromSlice (a := collateralAmount)
      (f := fun x => some (.kaminoWithdraw accounts x)) rfl
  | harvestReward ix =>
    obtain rfl := Option.some.inj h
    have hindex : (UInt64.ofNat ix.rewardIndex).toNat = ix.rewardIndex :=
      UInt64.toNat_ofNat_of_lt hfits
    rw [AnchorIx.read_invokeSigned]
    refine bind_tryFromSlice (a := UInt64.ofNat ix.rewardIndex)
      (f := fun index => some (.harvestReward { ix with rewardIndex := index.toNat })) ?_
    rw [hindex]
  | initializeUserStats =>
    obtain rfl := Option.some.inj h
    rw [AnchorIx.read_invokeSigned]
    rfl
  | initializeUser user userStats state authority payer subAccountId name =>
    obtain rfl := Option.some.inj h
    rw [AnchorIx.read_invokeSigned]
    exact bind_tryFromSlice (a := (subAccountId, name))
      (f := fun x => some (.initializeUser user userStats state authority payer x.1 x.2)) rfl
  | updateUserPoolId user authority subAccountId poolId =>
    obtain rfl := Option.some.inj h
    rw [AnchorIx.read_invokeSigned]
    exact bind_tryFromSlice (a := (subAccountId, poolId))
      (f := fun x => some (.updateUserPoolId user authority x.1 x.2)) rfl
  | updateSpotMarketCumulativeInterest =>
    obtain rfl := Option.some.inj h
    rw [AnchorIx.read_invokeSigned]
    rfl
  | driftDeposit ix =>
    obtain rfl := Option.some.inj h
    rw [AnchorIx.read_invokeSigned, List.map_append, remainingMetas_pubkey]
    exact bind_tryFromSlice (a := (ix.marketIndex, ix.amount, ix.reduceOnly))
      (f := fun x => some (.driftDeposit
        { ix with marketIndex := x.1, amount := x.2.1, reduceOnly := x.2.2 })) rfl
  | driftWithdraw ix driftSigner =>
    obtain rfl := Option.some.inj h
    rw [AnchorIx.read_invokeSigned, List.map_append, remainingMetas_pubkey]
    exact bind_tryFromSlice (a := (ix.marketIndex, ix.amount, ix.reduceOnly))
      (f := fun x => some (.driftWithdraw
        { ix with marketIndex := x.1, amount := x.2.1, reduceOnly := x.2.2 } driftSigner)) rfl

end RoundTrip

end AlmController
