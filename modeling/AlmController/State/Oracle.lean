import AlmController.Math
import AlmController.State.RateLimit

/-!
# Oracle

A price read from a Switchboard feed, and the two directions in which a swap can
quote it.
-/

namespace AlmController

open Prog

structure Feed where
  /-- Address of the price feed. -/
  priceFeed : Pubkey
  /-- Type of Oracle (0 = Switchboard). -/
  oracleType : UInt8
  reserved : ByteArr 63
  deriving DecidableEq, Repr

structure Oracle where
  version : UInt8
  /-- Authority required for update operations. -/
  authority : Pubkey
  /-- Nonce used as part of the PDA seed. -/
  nonce : Pubkey
  /-- Price stored with full precision, an `i128`. -/
  value : BitVec (8 * 16)
  /-- Precision of the value. -/
  precision : UInt32
  /-- Slot in which the value was last updated in the oracle feed. -/
  lastUpdateSlot : UInt64
  controller : Pubkey
  baseMint : Pubkey
  quoteMint : Pubkey
  reserved : ByteArr 64
  /-- `feeds: [Feed; 1]`. -/
  feed : Feed
  deriving DecidableEq, Repr

namespace Oracle

/-- `check_data`: only RefreshOracle passes neither a controller nor an authority. -/
def checkData (self : Oracle) (controller authority : Option Pubkey) : Except Error Unit := do
  check (controller.any (self.controller ≠ ·))
    (SvmAlmControllerErrors.ControllerDoesNotMatchAccountData : Error)
  check (authority.any (self.authority ≠ ·)) (.program .IncorrectAuthority)

/-- The price, or with `invert` its reciprocal at the same precision:
    `10^(2P) / (X * 10^P)`, rounded up. The exponent is a `u32` product and wraps. -/
def getPrice (self : Oracle) (invert : Bool) : Except Error Int := do
  if invert then
    let numerator ← okOr (checkedPow10 128 (self.precision * 2).toNat) (.panic .price)
    okOr (checkedCeilDiv 128 numerator self.value.toInt) (.panic .price)
  else
    return self.value.toInt

end Oracle

end AlmController
