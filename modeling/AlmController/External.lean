import AlmController.Math

/-!
# Accounts of other programs

The program reads accounts it does not own: token accounts and mints, Kamino and
Drift state, CCTP and OFT configuration, Switchboard feeds. An account's data is
modelled at the level at which the program reads it: a value of the structure its
owner stores there, with the fields the program uses. Data the program parses byte
by byte itself (a mint with its extensions) stays bytes.

The arithmetic the program does on this state (`klend_protocol_state.rs`,
`drift/protocol_state.rs`) is here too, on the machine words the source uses.
-/

namespace AlmController

open Prog

/-! ## Tokens -/

/-- A token account of either token program. `dataLen` counts the extensions. -/
structure TokenAccount where
  mint : Pubkey
  owner : Pubkey
  amount : UInt64
  dataLen : Nat
  deriving DecidableEq, Repr

/-- Size of a token account without extensions, in both token programs. -/
def TokenAccount.BASE_LEN : Nat := 165

/-- Size of a multisig account, which must not be mistaken for a token account. -/
def MULTISIG_ACCOUNT_LENGTH : Nat := 355

/-! ## Kamino -/

structure LastUpdate where
  slot : UInt64
  stale : UInt8
  priceStatus : UInt8
  deriving DecidableEq, Repr

def STALE_AFTER_SLOTS_ELAPSED : UInt64 := 1

/-- `is_stale` with `PriceStatusFlags::NONE`, which every price status contains. -/
def LastUpdate.isStale (self : LastUpdate) (slot : UInt64) : Except Error Bool :=
  if self.stale ≠ 0 then .ok true
  else do
    let slotsElapsed ← okOr (slot.checkedSub self.slot) (.program .ArithmeticOverflow)
    return decide (STALE_AFTER_SLOTS_ELAPSED ≤ slotsElapsed)

structure ReserveLiquidity where
  mintPubkey : Pubkey
  availableAmount : UInt64
  borrowedAmountSf : BitVec 128
  accumulatedProtocolFeesSf : BitVec 128
  accumulatedReferrerFeesSf : BitVec 128
  pendingReferrerFeesSf : BitVec 128
  deriving DecidableEq, Repr

structure KaminoReserve where
  lastUpdate : LastUpdate
  lendingMarket : Pubkey
  farmCollateral : Pubkey
  liquidity : ReserveLiquidity
  /-- `collateral.mint_total_supply`. -/
  mintTotalSupply : UInt64
  deriving DecidableEq, Repr

namespace KaminoReserve

def hasCollateralFarm (self : KaminoReserve) : Prop := self.farmCollateral ≠ 0

instance (self : KaminoReserve) : Decidable self.hasCollateralFarm :=
  inferInstanceAs (Decidable (_ ≠ _))

/-- `Fraction::FRAC_NBITS`. -/
def FRAC_NBITS : Nat := 60

/-- `total_supply`, as the bits of a `FixedU128<U60>`: sums wrap in 128 bits. -/
def totalSupply (self : KaminoReserve) : BitVec 128 :=
  BitVec.ofNat 128 (self.liquidity.availableAmount.toNat <<< FRAC_NBITS)
    + self.liquidity.borrowedAmountSf
    - self.liquidity.accumulatedProtocolFeesSf
    - self.liquidity.accumulatedReferrerFeesSf
    - self.liquidity.pendingReferrerFeesSf

/-- `collateral_exchange_rate`: the collateral supply and the total liquidity, or
    one to one when either is zero. -/
def collateralExchangeRate (self : KaminoReserve) : Nat × Nat :=
  let totalLiquidity := self.totalSupply.toNat
  if self.mintTotalSupply = 0 ∨ totalLiquidity = 0 then (1, 1 <<< FRAC_NBITS)
  else (self.mintTotalSupply.toNat, totalLiquidity)

/-- `collateral_to_liquidity`: shares to tokens. The product is a `U256` product,
    which panics on overflow; the result must fit the 128-bit fraction, and its
    integer part is then truncated to 64 bits by `to_num`. -/
def collateralToLiquidity (self : KaminoReserve) (collateralAmount : UInt64) :
    Except Error UInt64 := do
  let (collateralSupply, liquidity) := self.collateralExchangeRate
  let extraScaled ← okOr
    (Word.checkedUnsigned 256 ((collateralAmount.toNat <<< FRAC_NBITS) * liquidity))
    (.panic .unwrap)
  let fraction ← okOr
    (Word.checkedUnsigned 128 ((extraScaled >>> FRAC_NBITS) / collateralSupply)) (.panic .unwrap)
  return UInt64.ofNat (fraction >>> FRAC_NBITS)

/-- `liquidity_to_collateral`: tokens to shares. The `u128` product of supply and
    amount cannot overflow; the result must fit 64 bits. -/
def liquidityToCollateral (self : KaminoReserve) (liquidityAmount : UInt64) :
    Except Error UInt64 := do
  let (collateralSupply, liquidity) := self.collateralExchangeRate
  let scaled := (collateralSupply * liquidityAmount.toNat) <<< FRAC_NBITS
  let fraction ← okOr
    (Word.checkedUnsigned 128 ((scaled <<< FRAC_NBITS) / liquidity)) (.panic .unwrap)
  okOr (UInt64.tryFrom (fraction >>> FRAC_NBITS)) (.panic .unwrap)

end KaminoReserve

structure ObligationCollateral where
  depositReserve : Pubkey
  depositedAmount : UInt64
  deriving DecidableEq, Repr

structure Obligation where
  lendingMarket : Pubkey
  owner : Pubkey
  deposits : Vector ObligationCollateral 8
  deriving DecidableEq, Repr

namespace Obligation

/-- `check_data`. -/
def checkData (self : Obligation) (controllerAuthority market : Pubkey) : Except Error Unit := do
  check (self.owner ≠ controllerAuthority) (.program .InvalidAccountData)
  check (self.lendingMarket ≠ market) (.program .InvalidAccountData)

/-- `is_deposits_full`: no slot has the default reserve. -/
def isDepositsFull (self : Obligation) : Bool :=
  (self.deposits.toList.find? fun c => c.depositReserve = 0).isNone

def getObligationCollateralForReserve (self : Obligation) (reserve : Pubkey) :
    Option ObligationCollateral :=
  self.deposits.toList.find? fun c => c.depositReserve = reserve

end Obligation

structure RewardInfo where
  mint : Pubkey
  tokenProgram : Pubkey
  rewardsAvailable : UInt64
  deriving DecidableEq, Repr

structure FarmState where
  rewardInfos : Vector RewardInfo 10
  deriving DecidableEq, Repr

/-- `find_reward_index_and_rewards_available`; only the index is used. -/
def FarmState.findRewardIndex (self : FarmState) (rewardMint rewardTokenProgram : Pubkey) :
    Option Nat :=
  self.rewardInfos.toList.findIdx? fun r =>
    r.mint = rewardMint ∧ r.tokenProgram = rewardTokenProgram

/-! ## Drift -/

structure SpotMarket where
  oracle : Pubkey
  mint : Pubkey
  cumulativeDepositInterest : BitVec 128
  cumulativeBorrowInterest : BitVec 128
  decimals : UInt32
  marketIndex : UInt16
  poolId : UInt8
  deriving DecidableEq, Repr

/-- `get_token_amount`: the tokens behind a scaled balance, rounded down for a
    deposit (0) and up for a borrow (1). -/
def SpotMarket.getTokenAmount (self : SpotMarket) (balance : Nat) (balanceType : UInt8) :
    Except Error UInt64 := do
  check (19 < self.decimals.toNat) (.panic .unwrap)
  let precisionDecrease := 10 ^ (19 - self.decimals.toNat)
  check (balanceType ≠ 0 ∧ balanceType ≠ 1) (.program .InvalidArgument)
  let cumulativeInterest :=
    if balanceType = 0 then self.cumulativeDepositInterest else self.cumulativeBorrowInterest
  let product ← okOr (Word.checkedUnsigned 128 (balance * cumulativeInterest.toNat))
    (.panic .unwrap)
  let tokenAmount ←
    if balanceType = 0 then .ok (product / precisionDecrease)
    else okOr (checkedCeilDivUnsigned 128 product precisionDecrease) (.panic .unwrap)
  okOr (UInt64.tryFrom tokenAmount) (.panic .unwrap)

structure SpotPosition where
  scaledBalance : UInt64
  marketIndex : UInt16
  balanceType : UInt8
  deriving DecidableEq, Repr

/-- A Drift `User`. -/
structure DriftUser where
  spotPositions : Vector SpotPosition 8
  poolId : UInt8
  deriving DecidableEq, Repr

/-! ## Bridges and feeds -/

/-- CCTP `LocalToken`. -/
structure LocalToken where
  mint : Pubkey
  deriving DecidableEq, Repr

/-- CCTP `RemoteTokenMessenger`. -/
structure RemoteTokenMessenger where
  domain : UInt32
  deriving DecidableEq, Repr

/-- LayerZero `OFTStore`. -/
structure OFTStore where
  tokenMint : Pubkey
  tokenEscrow : Pubkey
  deriving DecidableEq, Repr

/-- Switchboard `PullFeedAccountData`: the current result. -/
structure PullFeed where
  value : BitVec (8 * 16)
  slot : UInt64
  deriving DecidableEq, Repr

/-! ## The account table -/

/-- What an account of another program holds. -/
inductive ExtData
  | bytes (data : List UInt8)
  | token (account : TokenAccount)
  | kaminoReserve (reserve : KaminoReserve)
  | obligation (obligation : Obligation)
  | farmState (farm : FarmState)
  | spotMarket (market : SpotMarket)
  | driftUser (user : DriftUser)
  | localToken (token : LocalToken)
  | remoteTokenMessenger (messenger : RemoteTokenMessenger)
  | oftStore (store : OFTStore)
  | peerConfig
  | pullFeed (feed : PullFeed)
  deriving DecidableEq, Repr

namespace ExtData

/-! What a reader that expects one kind of data finds. -/

def bytes? : ExtData → Option (List UInt8)
  | .bytes x => some x
  | _ => none

def token? : ExtData → Option TokenAccount
  | .token x => some x
  | _ => none

def kaminoReserve? : ExtData → Option KaminoReserve
  | .kaminoReserve x => some x
  | _ => none

def obligation? : ExtData → Option Obligation
  | .obligation x => some x
  | _ => none

def farmState? : ExtData → Option FarmState
  | .farmState x => some x
  | _ => none

def spotMarket? : ExtData → Option SpotMarket
  | .spotMarket x => some x
  | _ => none

def driftUser? : ExtData → Option DriftUser
  | .driftUser x => some x
  | _ => none

def localToken? : ExtData → Option LocalToken
  | .localToken x => some x
  | _ => none

def remoteTokenMessenger? : ExtData → Option RemoteTokenMessenger
  | .remoteTokenMessenger x => some x
  | _ => none

def oftStore? : ExtData → Option OFTStore
  | .oftStore x => some x
  | _ => none

def peerConfig? : ExtData → Option Unit
  | .peerConfig => some ()
  | _ => none

def pullFeed? : ExtData → Option PullFeed
  | .pullFeed x => some x
  | _ => none

end ExtData

structure ExtAccount where
  owner : Pubkey
  lamports : UInt64
  data : ExtData
  deriving DecidableEq, Repr

/-- Every address has an account; one nobody created is empty and owned by the
    system program. -/
abbrev Bank := Pubkey → ExtAccount

def ExtAccount.empty : ExtAccount := ⟨SYSTEM_PROGRAM_ID, 0, .bytes []⟩

namespace Bank

/-- The token account at an address, if there is one. -/
def token? (bank : Bank) (k : Pubkey) : Option TokenAccount := (bank k).data.token?

/-- The tokens held at an address. -/
def tokenAmount (bank : Bank) (k : Pubkey) : Nat :=
  match bank.token? k with
  | some t => t.amount.toNat
  | none => 0

theorem tokenAmount_of_token? {bank : Bank} {k : Pubkey} {t : TokenAccount}
    (h : bank.token? k = some t) : bank.tokenAmount k = t.amount.toNat := by
  unfold tokenAmount
  rw [h]

end Bank

end AlmController
