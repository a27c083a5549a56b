import AlmController.Spec.Log
import Mathlib.Tactic.Positivity

/-!
# What a limiter does over a list of flows

Within one instruction a limiter is refreshed, and flows are booked on it, in some
order. `RateLimit.Steps clock flows l l'` is that: the updates lead from `l` to `l'`
and book exactly `flows`. It is the only thing the rest of the development needs to
know about the limiter's code, for `Reserve.Booked` and `Integration.Booked` say that
an account went through such steps and that nothing else of it changed.

The bound on what a limiter lets out is carried by one number,

    credit = 86400 · available + remainder + slope · (now − last refresh),

the outflow that would be available if the accrual were paid out to the unit. Time
raises it by `slope` a second; every update pays for what it lets out with it
(`Steps.credit_le`).
-/

namespace AlmController

open Prog

/-! ## The updates of one instruction -/

namespace RateLimit

/-- The updates lead from `l` to `l'` and book these flows, in this order. -/
inductive Steps (clock : Clock) (l : RateLimit) : List Flow → RateLimit → Prop
  | nil : Steps clock l [] l
  | refresh {flows : List Flow} {l₁ l₂ : RateLimit} :
      Steps clock l flows l₁ → l₁.refreshRateLimit clock = .ok l₂ → Steps clock l flows l₂
  | inflow {flows : List Flow} {l₁ l₂ : RateLimit} {n : UInt64} :
      Steps clock l flows l₁ → l₁.inflow clock n = .ok l₂ →
        Steps clock l (flows ++ [(.inflow, n)]) l₂
  | outflow {flows : List Flow} {l₁ l₂ : RateLimit} {n : UInt64} {allow : Bool} :
      Steps clock l flows l₁ → l₁.outflow clock n allow = .ok l₂ →
        Steps clock l (flows ++ [(.outflow allow, n)]) l₂

variable {clock : Clock} {l l' l'' : RateLimit} {flows flows' : List Flow}

theorem Steps.trans (h : Steps clock l flows l') (h' : Steps clock l' flows' l'') :
    Steps clock l (flows ++ flows') l'' := by
  induction h' with
  | nil => simpa using h
  | refresh _ hrefresh ih => exact ih.refresh hrefresh
  | inflow _ hinflow ih => simpa using ih.inflow hinflow
  | outflow _ houtflow ih => simpa using ih.outflow houtflow

/-! ## What each update computes -/

theorem inflow_ok {n : UInt64} (h : l.inflow clock n = .ok l') :
    l.IsRefreshed clock ∧ l' = { l with
      rateLimitOutflowAmountAvailable :=
        min l.rateLimitMaxOutflow (l.rateLimitOutflowAmountAvailable.saturatingAdd n) } := by
  simp only [inflow, except_bind_ok, check_ok, except_pure_ok, not_not] at h
  obtain ⟨_, hrefreshed, rfl⟩ := h
  exact ⟨hrefreshed, rfl⟩

theorem outflow_ok {n : UInt64} {allow : Bool} (h : l.outflow clock n allow = .ok l') :
    l.IsRefreshed clock ∧ ∃ available : UInt64,
      l' = { l with rateLimitOutflowAmountAvailable := available } ∧
        available.toNat ≤ l.rateLimitOutflowAmountAvailable.toNat ∧
        (allow = false → l.rateLimitOutflowAmountAvailable.toNat = n.toNat + available.toNat) := by
  simp only [outflow, except_bind_ok, check_ok, not_not] at h
  obtain ⟨_, hrefreshed, h⟩ := h
  refine ⟨hrefreshed, ?_⟩
  cases allow with
  | true =>
    simp only [if_true, except_pure_ok] at h
    refine ⟨_, h.symm, ?_, fun hfalse => Bool.noConfusion hfalse⟩
    rw [UInt64.toNat_saturatingSub]
    exact Nat.sub_le _ _
  | false =>
    simp only [Bool.false_eq_true, if_false, except_bind_ok, okOr_ok, except_pure_ok,
      UInt64.checkedSub_eq_some] at h
    obtain ⟨available, havailable, rfl⟩ := h
    refine ⟨available, rfl, ?_, fun _ => havailable⟩
    rw [havailable]
    exact Nat.le_add_left _ _

/-- A refresh either accrues or only moves the timestamps. -/
theorem refreshRateLimit_ok (h : l.refreshRateLimit clock = .ok l') :
    (l.rateLimitMaxOutflow ≠ UInt64.maxValue ∧ l.lastRefreshTimestamp ≠ clock.unixTimestamp ∧
      ∃ increment remainder, calculateRateLimitIncrement clock.unixTimestamp
          l.lastRefreshTimestamp l.rateLimitSlope l.rateLimitRemainder =
            .ok (increment, remainder) ∧
        ∃ available, available = min (l.rateLimitOutflowAmountAvailable.saturatingAdd increment)
          l.rateLimitMaxOutflow ∧
        l' = { l with
          rateLimitOutflowAmountAvailable := available
          rateLimitRemainder := if available = l.rateLimitMaxOutflow then 0 else remainder
          lastRefreshTimestamp := clock.unixTimestamp
          lastRefreshSlot := clock.slot }) ∨
    ((l.rateLimitMaxOutflow = UInt64.maxValue ∨ l.lastRefreshTimestamp = clock.unixTimestamp) ∧
      l' = { l with
        lastRefreshTimestamp := clock.unixTimestamp
        lastRefreshSlot := clock.slot }) := by
  unfold refreshRateLimit at h
  split at h
  · rename_i hdue
    simp only [except_bind_ok, except_pure_ok] at h
    obtain ⟨⟨increment, remainder⟩, hcalc, rfl⟩ := h
    exact .inl ⟨hdue.1, hdue.2, increment, remainder, hcalc, _, rfl, rfl⟩
  · rename_i hdue
    refine .inr ⟨?_, (Except.ok.inj h).symm⟩
    by_cases hmax : l.rateLimitMaxOutflow = UInt64.maxValue
    · exact .inl hmax
    · exact .inr (not_not.mp fun hne => hdue ⟨hmax, hne⟩)

theorem refreshRateLimit_isRefreshed (h : l.refreshRateLimit clock = .ok l') :
    l'.IsRefreshed clock := by
  rcases refreshRateLimit_ok h with ⟨-, -, _, _, -, _, -, rfl⟩ | ⟨-, rfl⟩
  · exact ⟨rfl, rfl⟩
  · exact ⟨rfl, rfl⟩

end RateLimit

/-- The absolute value is the identity on non-negative timestamps. -/
theorem Int64.toInt_abs_of_nonneg {t : Int64} (h : 0 ≤ t.toInt) : t.abs.toInt = t.toInt := by
  show t.toBitVec.abs.toInt = t.toBitVec.toInt
  have hmsb : t.toBitVec.msb = false := by
    rw [BitVec.msb_eq_toInt]
    exact decide_eq_false (not_lt.mpr h)
  rw [BitVec.abs_eq, hmsb]
  rfl

/-- The units that have accrued: what the elapsed seconds earned, on top of the remainder. -/
def accruedUnits (now last : Int64) (slope remainder : UInt64) : Nat :=
  slope.toNat * (now.toInt - last.toInt).toNat + remainder.toNat

/-- **What a refresh accrues.** A clock that did not go back makes no step of the
    computation overflow. -/
theorem calculateRateLimitIncrement_eq {now last : Int64} (slope remainder : UInt64)
    (hlast : 0 ≤ last.toInt) (hle : last.toInt ≤ now.toInt) :
    ∃ increment remainder', calculateRateLimitIncrement now last slope remainder =
        .ok (increment, remainder') ∧
      increment.toNat = min (accruedUnits now last slope remainder / SECONDS_PER_DAY) (2 ^ 64 - 1) ∧
      remainder'.toNat = accruedUnits now last slope remainder % SECONDS_PER_DAY := by
  have hnow := now.toInt_lt
  have hslope := slope.toNat_lt_pow
  have hremainder := remainder.toNat_lt_pow
  have helapsed : (now.toInt - last.toInt).toNat < 2 ^ 63 := by omega
  have hproduct : slope.toNat * (now.toInt - last.toInt).toNat < 2 ^ 64 * 2 ^ 63 :=
    Nat.mul_lt_mul_of_lt_of_lt hslope helapsed
  have htime : Word.checkedSigned 64 (now.abs.toInt - last.abs.toInt) =
      some (now.toInt - last.toInt) := by
    rw [Int64.toInt_abs_of_nonneg (hlast.trans hle), Int64.toInt_abs_of_nonneg hlast]
    refine Word.checkedSigned_eq_some.mpr ⟨rfl, ?_⟩
    unfold Word.FitsSigned
    omega
  have hfirst : Word.checkedUnsigned 128
      (slope.toNat * Word.asUnsigned 128 (now.toInt - last.toInt)) =
        some (slope.toNat * (now.toInt - last.toInt).toNat) := by
    rw [Word.asUnsigned_of_nonneg (by omega) (by omega)]
    exact Word.checkedUnsigned_eq_some.mpr ⟨rfl, by omega⟩
  have hsecond : Word.checkedUnsigned 128
      (slope.toNat * (now.toInt - last.toInt).toNat + remainder.toNat) =
        some (accruedUnits now last slope remainder) :=
    Word.checkedUnsigned_eq_some.mpr ⟨rfl, by omega⟩
  have hlt : accruedUnits now last slope remainder % SECONDS_PER_DAY < SECONDS_PER_DAY :=
    Nat.mod_lt _ (by decide)
  refine ⟨(UInt64.tryFrom (accruedUnits now last slope remainder / SECONDS_PER_DAY)).getD
      UInt64.maxValue,
    (UInt64.tryFrom (accruedUnits now last slope remainder % SECONDS_PER_DAY)).getD 0, ?_,
    UInt64.toNat_tryFrom_getD_maxValue, UInt64.toNat_tryFrom_getD_of_lt (hlt.trans (by decide))⟩
  simp only [calculateRateLimitIncrement, except_bind_ok, okOr_ok, except_pure_ok]
  exact ⟨_, htime, _, hfirst, _, hsecond, rfl⟩

/-- Increment and remainder together are no more than what accrued. -/
theorem calculateRateLimitIncrement_ok {now last : Int64} {slope remainder increment
    remainder' : UInt64} (hlast : 0 ≤ last.toInt) (hle : last.toInt ≤ now.toInt)
    (h : calculateRateLimitIncrement now last slope remainder = .ok (increment, remainder')) :
    (SECONDS_PER_DAY * increment.toNat + remainder'.toNat : Int) ≤
      slope.toNat * (now.toInt - last.toInt) + remainder.toNat := by
  obtain ⟨increment₁, remainder₁, heq, hinc, hrem⟩ :=
    calculateRateLimitIncrement_eq slope remainder hlast hle
  rw [heq] at h
  obtain ⟨rfl, rfl⟩ := Prod.mk.inj (Except.ok.inj h)
  have htotal : (accruedUnits now last slope remainder : Int) =
      slope.toNat * (now.toInt - last.toInt) + remainder.toNat := by
    unfold accruedUnits
    push_cast
    rw [Int.toNat_of_nonneg (by omega)]
  have hdiv := Nat.div_add_mod (accruedUnits now last slope remainder) SECONDS_PER_DAY
  have hmul := Nat.mul_le_mul_left SECONDS_PER_DAY
    (hinc.le.trans (min_le_left _ _))
  rw [← htotal, hrem]
  norm_cast
  omega

namespace RateLimit

/-! ## Credit -/

/-- What the limiter owes at time `now`, in units of one 86400th of a token. -/
def credit (l : RateLimit) (now : Int) : Int :=
  SECONDS_PER_DAY * l.rateLimitOutflowAmountAvailable.toNat + l.rateLimitRemainder.toNat +
    l.rateLimitSlope.toNat * (now - l.lastRefreshTimestamp.toInt)

/-- The limiter was last refreshed at a non-negative time that is not in the future. -/
def Timely (l : RateLimit) (now : Int) : Prop :=
  0 ≤ l.lastRefreshTimestamp.toInt ∧ l.lastRefreshTimestamp.toInt ≤ now

variable {clock : Clock} {l l' : RateLimit} {flows : List Flow}

theorem refresh_timely (ht : l.Timely clock.unixTimestamp.toInt)
    (h : l.refreshRateLimit clock = .ok l') : l'.Timely clock.unixTimestamp.toInt := by
  have hts : l'.lastRefreshTimestamp = clock.unixTimestamp := (refreshRateLimit_isRefreshed h).1
  unfold Timely
  rw [hts]
  exact ⟨ht.1.trans ht.2, le_rfl⟩

/-- A refresh pays out no more than has accrued. -/
theorem refresh_credit_le (ht : l.Timely clock.unixTimestamp.toInt)
    (h : l.refreshRateLimit clock = .ok l') :
    l'.credit clock.unixTimestamp.toInt ≤ l.credit clock.unixTimestamp.toInt := by
  have hearned : 0 ≤ (l.rateLimitSlope.toNat : Int) *
      (clock.unixTimestamp.toInt - l.lastRefreshTimestamp.toInt) :=
    mul_nonneg (by positivity) (sub_nonneg.mpr ht.2)
  rcases refreshRateLimit_ok h with ⟨-, -, increment, remainder, hcalc, available, havail, rfl⟩ |
    ⟨-, rfl⟩
  · have hacc := calculateRateLimitIncrement_ok ht.1 ht.2 hcalc
    have hle : available.toNat ≤ l.rateLimitOutflowAmountAvailable.toNat + increment.toNat := by
      rw [havail, UInt64.toNat_min, UInt64.toNat_saturatingAdd]
      exact (min_le_left _ _).trans (min_le_left _ _)
    have hrem : (if available = l.rateLimitMaxOutflow then 0 else remainder).toNat ≤
        remainder.toNat := by
      split
      · exact Nat.zero_le _
      · exact le_rfl
    simp only [credit, SECONDS_PER_DAY] at hacc ⊢
    rw [sub_self, mul_zero]
    omega
  · simp only [credit]
    rw [sub_self, mul_zero]
    omega

theorem inflow_credit_le {n : UInt64} (h : l.inflow clock n = .ok l') :
    l'.credit clock.unixTimestamp.toInt ≤
      l.credit clock.unixTimestamp.toInt + SECONDS_PER_DAY * n.toNat := by
  obtain ⟨-, rfl⟩ := inflow_ok h
  have hmin : (min l.rateLimitMaxOutflow
      (l.rateLimitOutflowAmountAvailable.saturatingAdd n)).toNat ≤
        l.rateLimitOutflowAmountAvailable.toNat + n.toNat := by
    rw [UInt64.toNat_min, UInt64.toNat_saturatingAdd]
    exact (min_le_right _ _).trans (min_le_left _ _)
  simp only [credit, SECONDS_PER_DAY]
  omega

theorem outflow_credit_le {n : UInt64} {allow : Bool} (h : l.outflow clock n allow = .ok l') :
    l'.credit clock.unixTimestamp.toInt +
      SECONDS_PER_DAY * Flow.authorized (.outflow allow, n) ≤
        l.credit clock.unixTimestamp.toInt := by
  obtain ⟨-, available, rfl, hle, hexact⟩ := outflow_ok h
  cases allow with
  | true =>
    simp only [credit, SECONDS_PER_DAY, Flow.authorized]
    omega
  | false =>
    have hsum := hexact rfl
    simp only [credit, SECONDS_PER_DAY, Flow.authorized]
    omega

/-- What the steps of an instruction never touch. -/
theorem Steps.frame (h : Steps clock l flows l') :
    l'.rateLimitSlope = l.rateLimitSlope ∧ l'.rateLimitMaxOutflow = l.rateLimitMaxOutflow := by
  induction h with
  | nil => exact ⟨rfl, rfl⟩
  | refresh _ hrefresh ih =>
    rcases refreshRateLimit_ok hrefresh with ⟨-, -, _, _, -, _, -, rfl⟩ | ⟨-, rfl⟩
    · exact ih
    · exact ih
  | inflow _ hinflow ih =>
    obtain ⟨-, rfl⟩ := inflow_ok hinflow
    exact ih
  | outflow _ houtflow ih =>
    obtain ⟨-, _, rfl, -⟩ := outflow_ok houtflow
    exact ih

theorem Steps.timely (ht : l.Timely clock.unixTimestamp.toInt) (h : Steps clock l flows l') :
    l'.Timely clock.unixTimestamp.toInt := by
  induction h with
  | nil => exact ht
  | refresh _ hrefresh ih => exact refresh_timely ih hrefresh
  | inflow _ hinflow ih =>
    obtain ⟨-, rfl⟩ := inflow_ok hinflow
    exact ih
  | outflow _ houtflow ih =>
    obtain ⟨-, _, rfl, -⟩ := outflow_ok houtflow
    exact ih

/-- **The limiter pays.** Whatever an instruction does to a limiter, what it lets out
    comes off the credit, and only inflows add to it. -/
theorem Steps.credit_le (ht : l.Timely clock.unixTimestamp.toInt) (h : Steps clock l flows l') :
    l'.credit clock.unixTimestamp.toInt + SECONDS_PER_DAY * authorizedOut flows ≤
      l.credit clock.unixTimestamp.toInt + SECONDS_PER_DAY * totalIn flows := by
  induction h with
  | nil => simp
  | refresh hsteps hrefresh ih =>
    have hstep := refresh_credit_le (hsteps.timely ht) hrefresh
    linarith
  | inflow _ hinflow ih =>
    have hstep := inflow_credit_le hinflow
    simp only [authorizedOut_append, authorizedOut_cons, authorizedOut_nil, totalIn_append,
      totalIn_cons, totalIn_nil, Flow.authorized, Flow.received] at ih ⊢
    linarith
  | outflow _ houtflow ih =>
    have hstep := outflow_credit_le houtflow
    simp only [authorizedOut_append, authorizedOut_cons, authorizedOut_nil, totalIn_append,
      totalIn_cons, totalIn_nil, Flow.received] at ih ⊢
    linarith

end RateLimit

/-! ## Accounts whose limiter took the steps -/

/-- The reserve went through these flows: the limiter took the steps, the recorded
    balance moved by their sum, and nothing else changed. -/
structure Reserve.Booked (clock : Clock) (flows : List Flow) (r r' : Reserve) : Prop where
  steps : r.toRateLimit.Steps clock flows r'.toRateLimit
  frame : r' = { r with toRateLimit := r'.toRateLimit, lastBalance := r'.lastBalance }
  balance : (r'.lastBalance.toNat : Int) = r.lastBalance.toNat + net flows

/-- The integration went through these flows; its state may have changed as well. -/
structure Integration.Booked (clock : Clock) (flows : List Flow) (i i' : Integration) : Prop where
  steps : i.toRateLimit.Steps clock flows i'.toRateLimit
  frame : i' = { i with toRateLimit := i'.toRateLimit, state := i'.state }

section Booked

variable {clock : Clock} {flows flows' : List Flow} {r r' r'' : Reserve}
  {i i' i'' : Integration} {n : UInt64} {allow : Bool}

theorem Reserve.Booked.refl : Reserve.Booked clock [] r r := ⟨.nil, rfl, by simp⟩

theorem Reserve.Booked.trans (h : Reserve.Booked clock flows r r')
    (h' : Reserve.Booked clock flows' r' r'') : Reserve.Booked clock (flows ++ flows') r r'' := by
  refine ⟨h.steps.trans h'.steps, ?_, ?_⟩
  · conv_lhs => rw [h'.frame, h.frame]
  · rw [h'.balance, h.balance, net_append, add_assoc]

theorem Reserve.Booked.of_refresh (h : r.refreshRateLimit clock = .ok r') :
    Reserve.Booked clock [] r r' := by
  simp only [Reserve.refreshRateLimit, except_bind_ok, except_pure_ok] at h
  obtain ⟨l, hl, rfl⟩ := h
  exact ⟨.refresh .nil hl, rfl, by simp⟩

theorem Reserve.Booked.of_inflow (h : r.updateForInflow clock n = .ok r') :
    Reserve.Booked clock [(.inflow, n)] r r' := by
  simp only [Reserve.updateForInflow, except_bind_ok, okOr_ok, except_pure_ok,
    UInt64.checkedAdd_eq_some] at h
  obtain ⟨l, hl, last, hlast, rfl⟩ := h
  refine ⟨.inflow .nil hl, rfl, ?_⟩
  simp only [net_cons, net_nil, Flow.signed, hlast]
  push_cast
  ring

theorem Reserve.Booked.of_outflow (h : r.updateForOutflow clock n allow = .ok r') :
    Reserve.Booked clock [(.outflow allow, n)] r r' := by
  simp only [Reserve.updateForOutflow, except_bind_ok, okOr_ok, except_pure_ok,
    UInt64.checkedSub_eq_some] at h
  obtain ⟨l, hl, last, hlast, rfl⟩ := h
  refine ⟨.outflow .nil hl, rfl, ?_⟩
  simp only [net_cons, net_nil, Flow.signed, hlast]
  push_cast
  ring

theorem Reserve.Booked.limiterId_eq (h : Reserve.Booked clock flows r r') :
    r'.limiterId = r.limiterId := by
  rw [h.frame]
  rfl

theorem Reserve.Booked.controller_eq (h : Reserve.Booked clock flows r r') :
    r'.controller = r.controller := by
  rw [h.frame]

theorem Reserve.Booked.mint_eq (h : Reserve.Booked clock flows r r') : r'.mint = r.mint := by
  rw [h.frame]

theorem Reserve.Booked.vault_eq (h : Reserve.Booked clock flows r r') : r'.vault = r.vault := by
  rw [h.frame]

theorem Reserve.Booked.seeds_eq (h : Reserve.Booked clock flows r r') : r'.seeds = r.seeds := by
  rw [h.frame]
  rfl

theorem Integration.Booked.refl : Integration.Booked clock [] i i := ⟨.nil, rfl⟩

theorem Integration.Booked.trans (h : Integration.Booked clock flows i i')
    (h' : Integration.Booked clock flows' i' i'') :
    Integration.Booked clock (flows ++ flows') i i'' := by
  refine ⟨h.steps.trans h'.steps, ?_⟩
  conv_lhs => rw [h'.frame, h.frame]

theorem Integration.Booked.of_refresh (h : i.refreshRateLimit clock = .ok i') :
    Integration.Booked clock [] i i' := by
  simp only [Integration.refreshRateLimit, except_bind_ok, except_pure_ok] at h
  obtain ⟨l, hl, rfl⟩ := h
  exact ⟨.refresh .nil hl, rfl⟩

theorem Integration.Booked.of_inflow (h : i.updateRateLimitForInflow clock n = .ok i') :
    Integration.Booked clock [(.inflow, n)] i i' := by
  simp only [Integration.updateRateLimitForInflow, except_bind_ok, except_pure_ok] at h
  obtain ⟨l, hl, rfl⟩ := h
  exact ⟨.inflow .nil hl, rfl⟩

theorem Integration.Booked.of_outflow (h : i.updateRateLimitForOutflow clock n = .ok i') :
    Integration.Booked clock [(.outflow false, n)] i i' := by
  simp only [Integration.updateRateLimitForOutflow, except_bind_ok, except_pure_ok] at h
  obtain ⟨l, hl, rfl⟩ := h
  exact ⟨.outflow .nil hl, rfl⟩

theorem Integration.updateRateLimitForOutflow_state
    (h : i.updateRateLimitForOutflow clock n = .ok i') : i'.state = i.state := by
  simp only [updateRateLimitForOutflow, except_bind_ok, except_pure_ok] at h
  obtain ⟨_, -, rfl⟩ := h
  rfl

theorem Integration.updateRateLimitForInflow_state
    (h : i.updateRateLimitForInflow clock n = .ok i') : i'.state = i.state := by
  simp only [updateRateLimitForInflow, except_bind_ok, except_pure_ok] at h
  obtain ⟨_, -, rfl⟩ := h
  rfl

/-- A new state is no flow. -/
theorem Integration.Booked.of_state {state : IntegrationState} :
    Integration.Booked clock [] i { i with state := state } := ⟨.nil, rfl⟩

theorem Integration.Booked.limiterId_eq (h : Integration.Booked clock flows i i') :
    i'.limiterId = i.limiterId := by
  rw [h.frame]
  rfl

theorem Integration.Booked.controller_eq (h : Integration.Booked clock flows i i') :
    i'.controller = i.controller := by
  rw [h.frame]

theorem Integration.Booked.config_eq (h : Integration.Booked clock flows i i') :
    i'.config = i.config := by
  rw [h.frame]

theorem Integration.Booked.hash_eq (h : Integration.Booked clock flows i i') :
    i'.hash = i.hash := by
  rw [h.frame]

theorem Integration.Booked.seeds_eq (h : Integration.Booked clock flows i i') :
    i'.seeds = i.seeds := by
  rw [h.frame]
  rfl

end Booked

end AlmController
