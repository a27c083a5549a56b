import AlmController.Simulator
import AlmController.Spec.Clocked

/-!
# A limiter never panics

What `init_account` writes, every operation keeps: no more is available than the maximum,
and the remainder is less than a day. That is all the unwraps of the limiter ask for, so
none of them ever fails: not for any slope, not for any time that passed, and not for any
maximum, `0` and `u64::MAX` included.

`Reached` takes the operations one by one, so it also covers the values that an
instruction holds between loading an account and saving it.

`limiter_never_panics` has three parts: the reserve, the integration, and the accounts of any state
that was reached under a clock that does not go back. The clock is needed: after one that went
back, the time passed is negative, and is taken for a large number.
-/

namespace AlmController

open Prog

variable [Chain]

/-! ## Reached by operations -/

/-- The reserves that the operations lead to, each with the clock of its last operation,
    from `init_account` or from an account of the program. -/
inductive Reserve.Reached : Clock → Reserve → Prop
  | init {clock : Clock} {controller mint vault : Pubkey} {status : ReserveStatus}
      {slope maxOutflow : UInt64} : 0 ≤ clock.unixTimestamp.toInt →
        Reached clock (.init clock controller mint vault status slope maxOutflow)
  | account {w : World} {k : Pubkey} {r : Reserve} : ReachableForward w →
      w.keel k = some (.reserve r) → Reached w.clock r
  | later {clock clock' : Clock} {r : Reserve} : Reached clock r → clock.NotAfter clock' →
      Reached clock' r
  | refresh {clock : Clock} {r r' : Reserve} : Reached clock r →
      r.refreshRateLimit clock = .ok r' → Reached clock r'
  | inflow {clock : Clock} {r r' : Reserve} {n : UInt64} : Reached clock r →
      r.updateForInflow clock n = .ok r' → Reached clock r'
  | outflow {clock : Clock} {r r' : Reserve} {n : UInt64} {allow : Bool} : Reached clock r →
      r.updateForOutflow clock n allow = .ok r' → Reached clock r'
  | update {clock : Clock} {r r' : Reserve} {status : Option ReserveStatus}
      {slope maxOutflow : Option UInt64} : Reached clock r →
        r.update clock status slope maxOutflow = .ok r' → Reached clock r'

/-- The same of integrations. -/
inductive Integration.Reached : Clock → Integration → Prop
  | init {clock : Clock} {slope maxOutflow : UInt64} {i : Integration} :
      0 ≤ clock.unixTimestamp.toInt → i.toRateLimit = .init clock slope maxOutflow →
        Reached clock i
  | account {w : World} {k : Pubkey} {i : Integration} : ReachableForward w →
      w.keel k = some (.integration i) → Reached w.clock i
  | later {clock clock' : Clock} {i : Integration} : Reached clock i → clock.NotAfter clock' →
      Reached clock' i
  | refresh {clock : Clock} {i i' : Integration} : Reached clock i →
      i.refreshRateLimit clock = .ok i' → Reached clock i'
  | inflow {clock : Clock} {i i' : Integration} {n : UInt64} : Reached clock i →
      i.updateRateLimitForInflow clock n = .ok i' → Reached clock i'
  | outflow {clock : Clock} {i i' : Integration} {n : UInt64} : Reached clock i →
      i.updateRateLimitForOutflow clock n = .ok i' → Reached clock i'
  | update {clock : Clock} {i i' : Integration} {status : Option IntegrationStatus}
      {description : Option (ByteArr 32)} {slope maxOutflow : Option UInt64} : Reached clock i →
        i.update clock status description slope maxOutflow = .ok i' → Reached clock i'

section Operations

variable {clock : Clock} {r : Reserve} {i : Integration}

/-- **Whatever leads to a reserve leaves its limiter refreshable.** -/
theorem Reserve.Reached.refreshable (h : Reserve.Reached clock r) :
    r.toRateLimit.Refreshable clock := by
  -- by induction on the operations, each of which is a step of the limiter
  induction h with
  | init hnow => exact .init hnow
  | account hw hk => exact hw.limited.fit _ _ (limiterOf_reserve hk)
  | later _ hle ih => exact ih.later hle
  | refresh _ h ih => exact ih.steps (Reserve.Booked.of_refresh h).steps
  | inflow _ h ih => exact ih.steps (Reserve.Booked.of_inflow h).steps
  | outflow _ h ih => exact ih.steps (Reserve.Booked.of_outflow h).steps
  | update _ h ih =>
    simp only [Reserve.update, except_bind_ok, except_pure_ok] at h
    obtain ⟨l, hl, rfl⟩ := h
    exact ih.of_update hl

/-- And to an integration. -/
theorem Integration.Reached.refreshable (h : Integration.Reached clock i) :
    i.toRateLimit.Refreshable clock := by
  induction h with
  | init hnow hinit =>
    rw [hinit]
    exact .init hnow
  | account hw hk => exact hw.limited.fit _ _ (limiterOf_integration hk)
  | later _ hle ih => exact ih.later hle
  | refresh _ h ih => exact ih.steps (Integration.Booked.of_refresh h).steps
  | inflow _ h ih => exact ih.steps (Integration.Booked.of_inflow h).steps
  | outflow _ h ih => exact ih.steps (Integration.Booked.of_outflow h).steps
  | update _ h ih =>
    simp only [Integration.update, except_bind_ok, except_pure_ok] at h
    obtain ⟨l, hl, rfl⟩ := h
    exact ih.of_update hl

end Operations

/-! ## What never fails -/

/-- The bounds of a limiter, and the unwraps they keep from failing at every later clock. -/
structure RateLimit.NeverPanics (clock : Clock) (l : RateLimit) : Prop where
  available_le : l.rateLimitOutflowAmountAvailable ≤ l.rateLimitMaxOutflow
  remainder_lt : l.rateLimitRemainder < 86400
  /-- The gap of `update` and `update_and_save`. -/
  gap : ∃ gap, l.rateLimitMaxOutflow.checkedSub l.rateLimitOutflowAmountAvailable = some gap
  /-- Every unwrap of `calculate_rate_limit_increment`, for every slope. -/
  increment : ∀ {clock' : Clock} (slope : UInt64), clock.NotAfter clock' →
    ∃ increment, calculateRateLimitIncrement clock'.unixTimestamp l.lastRefreshTimestamp slope
      l.rateLimitRemainder = .ok increment
  /-- The limiter's part of `update` and `update_and_save`, the refresh included. -/
  update : ∀ {clock' : Clock} (slope maxOutflow : Option UInt64), clock.NotAfter clock' →
    ∃ l', l.updateLimits clock' slope maxOutflow = .ok l'

omit [Chain] in
/-- Every unwrap has its part of the invariant. -/
theorem RateLimit.Refreshable.neverPanics {clock : Clock} {l : RateLimit}
    (h : l.Refreshable clock) : l.NeverPanics clock := by
  have hle := h.1.available_le
  refine ⟨UInt64.le_iff_toNat_le.mpr hle, UInt64.lt_iff_toNat_lt.mpr h.1.remainder_lt, ?_, ?_, ?_⟩
  · cases hgap : l.rateLimitMaxOutflow.checkedSub l.rateLimitOutflowAmountAvailable with
    | some gap => exact ⟨gap, rfl⟩
    | none => exact absurd (UInt64.checkedSub_eq_none.mp hgap) (not_lt.mpr hle)
  · intro clock' slope hlater
    have ht := (h.later hlater).2
    obtain ⟨increment, remainder, hok, -, -⟩ :=
      calculateRateLimitIncrement_eq slope l.rateLimitRemainder ht.1 ht.2
    exact ⟨_, hok⟩
  · intro clock' slope maxOutflow hlater
    obtain ⟨l', hok, -⟩ := (h.later hlater).updateLimits slope maxOutflow
    exact ⟨l', hok⟩

/-- **Limiters never panic.** Under a clock that starts at or after the epoch and never
    goes back, every reserve and every integration that the operations lead to keeps its
    available amount within its maximum and its remainder below a day. So at any later
    clock none of the limiter's unwraps fails, whatever slope and maximum are set. -/
theorem limiter_never_panics :
    (∀ {clock : Clock} {r : Reserve}, Reserve.Reached clock r →
      r.toRateLimit.NeverPanics clock ∧
      ∀ {clock' : Clock} (status : Option ReserveStatus) (slope maxOutflow : Option UInt64),
        clock.NotAfter clock' → ∃ r', r.update clock' status slope maxOutflow = .ok r') ∧
    (∀ {clock : Clock} {i : Integration}, Integration.Reached clock i →
      i.toRateLimit.NeverPanics clock ∧
      ∀ {clock' : Clock} (status : Option IntegrationStatus) (description : Option (ByteArr 32))
        (slope maxOutflow : Option UInt64), clock.NotAfter clock' →
          ∃ i', i.update clock' status description slope maxOutflow = .ok i') ∧
    -- in particular every account of a reachable state
    (∀ {w : World} {k : Pubkey} {id : LimiterId} {l : RateLimit}, ReachableForward w →
      w.limiter? k = some (id, l) → l.NeverPanics w.clock) := by
  refine ⟨?_, ?_, ?_⟩
  · intro clock r h
    have hlimiter := h.refreshable.neverPanics
    refine ⟨hlimiter, fun status slope maxOutflow hlater => ?_⟩
    obtain ⟨l', hok⟩ := hlimiter.update slope maxOutflow hlater
    exact ⟨_, by rw [Reserve.update, hok]; rfl⟩
  · intro clock i h
    have hlimiter := h.refreshable.neverPanics
    refine ⟨hlimiter, fun status description slope maxOutflow hlater => ?_⟩
    obtain ⟨l', hok⟩ := hlimiter.update slope maxOutflow hlater
    exact ⟨_, by rw [Integration.update, hok]; rfl⟩
  · intro w k id l hw hl
    exact (hw.limited.fit k l (congrArg (Option.map Prod.snd) hl)).neverPanics

end AlmController

namespace AlmController

open Simulator

/-- A reserve with the steepest slope there is, from which everything was taken, and one of
    the small chain. -/
theorem limiter_never_panics_spent :
    RateLimit.NeverPanics ⟨2, 5⟩ ⟨UInt64.maxValue, 100, 0, 0, 5, 2⟩ ∧
      RateLimit.NeverPanics (swapWorld evenPrice).clock ⟨100, 1000, 1000, 0, 1000, 100⟩ := by
  refine ⟨?_, ?_⟩
  · have hinit : Reserve.Reached ⟨2, 5⟩ (.init ⟨2, 5⟩ 0 0 0 .Active UInt64.maxValue 100) :=
      .init (by decide)
    have hfull : Reserve.Reached ⟨2, 5⟩
        { Reserve.init ⟨2, 5⟩ 0 0 0 .Active UInt64.maxValue 100 with lastBalance := 100 } :=
      hinit.inflow (n := 100) rfl
    have hspent : Reserve.updateForOutflow
        { Reserve.init ⟨2, 5⟩ 0 0 0 .Active UInt64.maxValue 100 with lastBalance := 100 } ⟨2, 5⟩ 100
          false = .ok { Reserve.init ⟨2, 5⟩ 0 0 0 .Active UInt64.maxValue 100 with
            rateLimitOutflowAmountAvailable := 0 } := rfl
    exact (limiter_never_panics.1 (hfull.outflow hspent)).1
  · have hl : (swapWorld evenPrice).limiter? (reserveKey mintA) =
        some (.reserve controllerKey mintA, ⟨100, 1000, 1000, 0, 1000, 100⟩) := by decide +kernel
    exact limiter_never_panics.2.2 swapWorld_attained.reachableForward hl

end AlmController
