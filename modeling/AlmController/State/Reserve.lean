import AlmController.State.RateLimit

/-!
# Reserve

A Reserve manages one token account of its Controller. It extends the limiter with
the last recorded balance of that token account, and its flow updates move the two
together.
-/

namespace AlmController

open Prog

structure Reserve extends RateLimit where
  /-- Controller the Reserve belongs to. -/
  controller : Pubkey
  mint : Pubkey
  /-- TokenAccount holding the Reserve's tokens. -/
  vault : Pubkey
  status : ReserveStatus
  /-- The last recorded balance of the vault. -/
  lastBalance : UInt64
  padding : ByteArr 120
  deriving DecidableEq, Repr

namespace Reserve

/-- `check_data`. -/
def checkData (self : Reserve) (controller : Pubkey) : Except Error Unit :=
  check (self.controller ≠ controller)
    (SvmAlmControllerErrors.ControllerDoesNotMatchAccountData : Error)

/-- `refresh_rate_limit`. -/
def refreshRateLimit (self : Reserve) (clock : Clock) : Except Error Reserve := do
  let limiter ← self.toRateLimit.refreshRateLimit clock
  return { self with toRateLimit := limiter }

/-- Increment the rate limit amount for inflows and update the last balance by the
    amount received. -/
def updateForInflow (self : Reserve) (clock : Clock) (inflow : UInt64) : Except Error Reserve := do
  let limiter ← self.toRateLimit.inflow clock inflow
  let lastBalance ← okOr (self.lastBalance.checkedAdd inflow) (.panic .lastBalanceAdd)
  return { self with toRateLimit := limiter, lastBalance := lastBalance }

/-- Decrement the rate limit amount for outflows and update the last balance by the
    amount sent. A permanent delegate can move more than is available, so a sync
    skips the underflow check. -/
def updateForOutflow (self : Reserve) (clock : Clock) (outflow : UInt64)
    (allowUnderflow : Bool) : Except Error Reserve := do
  let limiter ← self.toRateLimit.outflow clock outflow allowUnderflow
  let lastBalance ← okOr (self.lastBalance.checkedSub outflow) (.panic .lastBalanceSub)
  return { self with toRateLimit := limiter, lastBalance := lastBalance }

/-- `update`: what ManageReserve changes. -/
def update (self : Reserve) (clock : Clock) (status : Option ReserveStatus)
    (rateLimitSlope rateLimitMaxOutflow : Option UInt64) : Except Error Reserve := do
  let limiter ← self.toRateLimit.updateLimits clock rateLimitSlope rateLimitMaxOutflow
  return { self with toRateLimit := limiter, status := status.getD self.status }

/-- A reserve as `init_account` creates it. -/
def init (clock : Clock) (controller mint vault : Pubkey) (status : ReserveStatus)
    (rateLimitSlope rateLimitMaxOutflow : UInt64) : Reserve where
  toRateLimit := .init clock rateLimitSlope rateLimitMaxOutflow
  controller := controller
  mint := mint
  vault := vault
  status := status
  lastBalance := 0
  padding := 0

end Reserve

end AlmController
