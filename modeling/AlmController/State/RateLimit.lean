import AlmController.Base

/-!
# The outflow limiter

`Reserve` and `Integration` carry the same six fields and the same code over them
(`state/reserve.rs`, `state/integration.rs`, `rate_limit_utils.rs`). Here the six
fields are one structure that both extend, and the shared code is written once:

* `refreshRateLimit`: accrue what the elapsed seconds have earned;
* `inflow`, `outflow`: the flow updates, both of which insist on a refresh in the
  same slot and second;
* `updateLimits`: the part of `update` / `update_and_save` that sets slope and
  maximum.

What the two accounts do differently (the reserve's `last_balance`, the statuses)
is in their own modules.
-/

namespace AlmController

open Prog

/-- The clock sysvar, as far as the program reads it. -/
structure Clock where
  slot : UInt64
  unixTimestamp : Int64
  deriving DecidableEq, Repr

structure RateLimit where
  /-- The number of units replenished to the available amount per 24 hours. -/
  rateLimitSlope : UInt64
  /-- The cap of tokens that may outflow on a rolling window basis. -/
  rateLimitMaxOutflow : UInt64
  /-- The current amount of tokens able to outflow on a rolling window basis. -/
  rateLimitOutflowAmountAvailable : UInt64
  /-- Remainder from the previous refresh, in units of one 86400th. -/
  rateLimitRemainder : UInt64
  /-- Timestamp when the account was last updated. -/
  lastRefreshTimestamp : Int64
  /-- The slot where the account was last updated. -/
  lastRefreshSlot : UInt64
  deriving DecidableEq, Repr

/-- Calculate the increment and remainder for the rate limit based on the slope and
    the time since the last refresh. -/
def calculateRateLimitIncrement (unixTimestamp lastRefreshTimestamp : Int64)
    (rateLimitSlope rateLimitRemainder : UInt64) : Except Error (UInt64 × UInt64) := do
  let timePassed ← okOr
    (Word.checkedSigned 64 (unixTimestamp.abs.toInt - lastRefreshTimestamp.abs.toInt))
    (.panic .timePassed)
  let product ← okOr
    (Word.checkedUnsigned 128 (rateLimitSlope.toNat * Word.asUnsigned 128 timePassed))
    (.panic .accruedUnits)
  let accruedUnits ← okOr (Word.checkedUnsigned 128 (product + rateLimitRemainder.toNat))
    (.panic .accruedUnits)
  -- both conversions clamp: the increment to u64::MAX, the remainder to 0
  let increment := (UInt64.tryFrom (accruedUnits / SECONDS_PER_DAY)).getD UInt64.maxValue
  let remainder := (UInt64.tryFrom (accruedUnits % SECONDS_PER_DAY)).getD 0
  return (increment, remainder)

namespace RateLimit

/-- Refresh the rate limit amount based on the slope and the time since the last
    refresh. If the rate limit is set to `u64::MAX`, it will not refresh. -/
def refreshRateLimit (self : RateLimit) (clock : Clock) : Except Error RateLimit :=
  if self.rateLimitMaxOutflow ≠ UInt64.maxValue ∧ self.lastRefreshTimestamp ≠ clock.unixTimestamp
  then do
    let (increment, remainder) ← calculateRateLimitIncrement clock.unixTimestamp
      self.lastRefreshTimestamp self.rateLimitSlope self.rateLimitRemainder
    let available :=
      min (self.rateLimitOutflowAmountAvailable.saturatingAdd increment) self.rateLimitMaxOutflow
    return { self with
      rateLimitOutflowAmountAvailable := available
      rateLimitRemainder := if available = self.rateLimitMaxOutflow then 0 else remainder
      lastRefreshTimestamp := clock.unixTimestamp
      lastRefreshSlot := clock.slot }
  else
    .ok { self with
      lastRefreshTimestamp := clock.unixTimestamp
      lastRefreshSlot := clock.slot }

/-- The guard of the flow updates: the limiter was refreshed at this very clock. -/
def IsRefreshed (self : RateLimit) (clock : Clock) : Prop :=
  self.lastRefreshTimestamp = clock.unixTimestamp ∧ self.lastRefreshSlot = clock.slot

instance (self : RateLimit) (clock : Clock) : Decidable (self.IsRefreshed clock) :=
  inferInstanceAs (Decidable (_ ∧ _))

/-- Increment the rate limit amount for inflows, capped at the maximum. -/
def inflow (self : RateLimit) (clock : Clock) (inflow : UInt64) : Except Error RateLimit := do
  check (¬ self.IsRefreshed clock) (.program .InvalidArgument)
  return { self with
    rateLimitOutflowAmountAvailable :=
      min self.rateLimitMaxOutflow (self.rateLimitOutflowAmountAvailable.saturatingAdd inflow) }

/-- Decrement the rate limit amount for outflows. `allowUnderflow` clamps at zero
    instead of failing. -/
def outflow (self : RateLimit) (clock : Clock) (outflow : UInt64) (allowUnderflow : Bool) :
    Except Error RateLimit := do
  check (¬ self.IsRefreshed clock) (.program .InvalidArgument)
  if allowUnderflow then
    return { self with
      rateLimitOutflowAmountAvailable :=
        self.rateLimitOutflowAmountAvailable.saturatingSub outflow }
  else do
    let available ← okOr (self.rateLimitOutflowAmountAvailable.checkedSub outflow)
      (SvmAlmControllerErrors.RateLimited : Error)
    return { self with rateLimitOutflowAmountAvailable := available }

/-- Set a new maximum such that the gap from the maximum stays the same. -/
def setMaxOutflow (self : RateLimit) (rateLimitMaxOutflow : UInt64) : Except Error RateLimit := do
  let gap ← okOr (self.rateLimitMaxOutflow.checkedSub self.rateLimitOutflowAmountAvailable)
    (.panic .rateLimitGap)
  return { self with
    rateLimitMaxOutflow := rateLimitMaxOutflow
    rateLimitOutflowAmountAvailable := rateLimitMaxOutflow.saturatingSub gap
    rateLimitRemainder := if rateLimitMaxOutflow < gap then 0 else self.rateLimitRemainder }

/-- The limiter's part of `Reserve::update` and `Integration::update_and_save`. -/
def updateLimits (self : RateLimit) (clock : Clock)
    (rateLimitSlope rateLimitMaxOutflow : Option UInt64) : Except Error RateLimit := do
  let self ← self.refreshRateLimit clock
  let self := { self with rateLimitSlope := rateLimitSlope.getD self.rateLimitSlope }
  match rateLimitMaxOutflow with
  | some m => self.setMaxOutflow m
  | none => return self

/-- A limiter as `init_account` creates it: the full amount is available. -/
def init (clock : Clock) (rateLimitSlope rateLimitMaxOutflow : UInt64) : RateLimit where
  rateLimitSlope := rateLimitSlope
  rateLimitMaxOutflow := rateLimitMaxOutflow
  rateLimitOutflowAmountAvailable := rateLimitMaxOutflow
  rateLimitRemainder := 0
  lastRefreshTimestamp := clock.unixTimestamp
  lastRefreshSlot := clock.slot

end RateLimit

end AlmController
