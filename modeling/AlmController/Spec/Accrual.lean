import AlmController.Lib.Bucket
import AlmController.Spec.Limiter

/-!
# The limiter as a bucket

A limiter whose available amount is within its maximum and whose remainder is less than
a day is a token bucket, and a refresh is accrual into it (`refresh_holds`). The code
clamps where the bucket does not: a clamped increment fills the bucket either way.

`Valid` is that invariant. Every operation keeps it, and on a valid limiter no
operation stops at one of its own unwraps, whatever slope and maximum it carries.
-/

namespace AlmController

open Prog

namespace RateLimit

variable {clock clock' : Clock} {l l' l'' : RateLimit} {b : Bucket SECONDS_PER_DAY}

/-- The limiter's own invariant. -/
structure Valid (l : RateLimit) : Prop where
  available_le : l.rateLimitOutflowAmountAvailable.toNat ≤ l.rateLimitMaxOutflow.toNat
  remainder_lt : l.rateLimitRemainder.toNat < SECONDS_PER_DAY

/-- The limiter's numbers are those of the bucket. -/
structure Holds (l : RateLimit) (b : Bucket SECONDS_PER_DAY) : Prop where
  capacity : l.rateLimitMaxOutflow.toNat = b.capacity
  level : l.rateLimitOutflowAmountAvailable.toNat = b.level
  carry : l.rateLimitRemainder.toNat = b.carry

theorem Holds.valid (h : l.Holds b) : l.Valid := by
  refine ⟨?_, ?_⟩
  · rw [h.level, h.capacity]
    exact b.level_le
  · rw [h.carry]
    exact b.carry_lt

theorem Valid.holds (h : l.Valid) : ∃ b, l.Holds b :=
  ⟨⟨_, _, _, h.available_le, h.remainder_lt⟩, rfl, rfl, rfl⟩

/-- What a refresh does not touch, and the clock it leaves. -/
structure RefreshedAt (clock : Clock) (l l' : RateLimit) : Prop where
  slope : l'.rateLimitSlope = l.rateLimitSlope
  maxOutflow : l'.rateLimitMaxOutflow = l.rateLimitMaxOutflow
  timestamp : l'.lastRefreshTimestamp = clock.unixTimestamp
  slot : l'.lastRefreshSlot = clock.slot

/-- Refreshed at one clock from one limiter, and holding one bucket, is being equal. -/
theorem RefreshedAt.ext {l₁ l₂ : RateLimit} (h₁ : RefreshedAt clock l l₁)
    (h₂ : RefreshedAt clock l l₂) (hb₁ : l₁.Holds b) (hb₂ : l₂.Holds b) : l₁ = l₂ := by
  have havailable := UInt64.toNat_inj.mp (hb₁.level.trans hb₂.level.symm)
  have hremainder := UInt64.toNat_inj.mp (hb₁.carry.trans hb₂.carry.symm)
  obtain ⟨_, _, _, _, _, _⟩ := l₁
  obtain ⟨_, _, _, _, _, _⟩ := l₂
  rw [mk.injEq]
  exact ⟨h₁.slope.trans h₂.slope.symm, h₁.maxOutflow.trans h₂.maxOutflow.symm, havailable,
    hremainder, h₁.timestamp.trans h₂.timestamp.symm, h₁.slot.trans h₂.slot.symm⟩

/-! ## Refreshing -/

/-- The refresh accrues: there is a maximum, and time has passed. -/
def Due (l : RateLimit) (clock : Clock) : Prop :=
  l.rateLimitMaxOutflow ≠ UInt64.maxValue ∧ l.lastRefreshTimestamp ≠ clock.unixTimestamp

instance (l : RateLimit) (clock : Clock) : Decidable (l.Due clock) :=
  inferInstanceAs (Decidable (_ ∧ _))

/-- A refresh that is not due moves the timestamps. -/
theorem refresh_of_not_due (h : ¬ l.Due clock) : l.refreshRateLimit clock =
    .ok { l with lastRefreshTimestamp := clock.unixTimestamp, lastRefreshSlot := clock.slot } :=
  if_neg h

/-- **A refresh that is due accrues into the bucket** what the slope earned since. -/
theorem refresh_of_due (hb : l.Holds b) (ht : l.Timely clock.unixTimestamp.toInt)
    (hdue : l.Due clock) : ∃ l', l.refreshRateLimit clock = .ok l' ∧ RefreshedAt clock l l' ∧
      l'.Holds (b.accrue (l.rateLimitSlope.toNat *
        (clock.unixTimestamp.toInt - l.lastRefreshTimestamp.toInt).toNat)) := by
  obtain ⟨increment, remainder, hcalc, hinc, hrem⟩ :=
    calculateRateLimitIncrement_eq l.rateLimitSlope l.rateLimitRemainder ht.1 ht.2
  have hmax := l.rateLimitMaxOutflow.toNat_lt_pow
  have hsum : accruedUnits clock.unixTimestamp l.lastRefreshTimestamp l.rateLimitSlope
      l.rateLimitRemainder = b.carry + l.rateLimitSlope.toNat *
        (clock.unixTimestamp.toInt - l.lastRefreshTimestamp.toInt).toNat := by
    rw [accruedUnits, hb.carry, Nat.add_comm]
  rw [hsum] at hinc hrem
  -- the clamp changes nothing below the maximum
  have havailable : (min (l.rateLimitOutflowAmountAvailable.saturatingAdd increment)
      l.rateLimitMaxOutflow).toNat = (b.accrue (l.rateLimitSlope.toNat *
        (clock.unixTimestamp.toInt - l.lastRefreshTimestamp.toInt).toNat)).level := by
    rw [UInt64.toNat_min, UInt64.toNat_saturatingAdd, hinc, hb.level, hb.capacity,
      Bucket.accrue_level]
    have hcapacity := hb.capacity
    omega
  refine ⟨{ l with
    rateLimitOutflowAmountAvailable :=
      min (l.rateLimitOutflowAmountAvailable.saturatingAdd increment) l.rateLimitMaxOutflow
    rateLimitRemainder :=
      if min (l.rateLimitOutflowAmountAvailable.saturatingAdd increment)
        l.rateLimitMaxOutflow = l.rateLimitMaxOutflow then 0 else remainder
    lastRefreshTimestamp := clock.unixTimestamp
    lastRefreshSlot := clock.slot }, ?_, ?_, ?_⟩
  · unfold Due at hdue
    rw [refreshRateLimit, if_pos hdue, hcalc]
    rfl
  · exact ⟨rfl, rfl, rfl, rfl⟩
  · refine ⟨hb.capacity, havailable, ?_⟩
    rw [Bucket.accrue_level] at havailable
    rw [Bucket.accrue_carry]
    by_cases hfull : min (l.rateLimitOutflowAmountAvailable.saturatingAdd increment)
        l.rateLimitMaxOutflow = l.rateLimitMaxOutflow
    · rw [hfull, hb.capacity] at havailable
      rw [if_pos hfull, if_pos (by omega)]
      rfl
    · have hne : (min (l.rateLimitOutflowAmountAvailable.saturatingAdd increment)
          l.rateLimitMaxOutflow).toNat ≠ b.capacity := by
        rw [← hb.capacity]
        exact fun heq => hfull (UInt64.toNat_inj.mp heq)
      rw [if_neg hfull, if_neg (by omega), hrem]

/-- A refresh always succeeds on a valid limiter, and leaves a valid one. -/
theorem refresh_valid (hv : l.Valid) (ht : l.Timely clock.unixTimestamp.toInt) :
    ∃ l', l.refreshRateLimit clock = .ok l' ∧ RefreshedAt clock l l' ∧ l'.Valid := by
  by_cases hdue : l.Due clock
  · obtain ⟨b, hb⟩ := hv.holds
    obtain ⟨l', hrefresh, hat, hb'⟩ := refresh_of_due hb ht hdue
    exact ⟨l', hrefresh, hat, hb'.valid⟩
  · exact ⟨_, refresh_of_not_due hdue, ⟨rfl, rfl, rfl, rfl⟩, hv.available_le, hv.remainder_lt⟩

theorem Valid.refresh (hv : l.Valid) (ht : l.Timely clock.unixTimestamp.toInt)
    (h : l.refreshRateLimit clock = .ok l') : l'.Valid := by
  obtain ⟨l₁, hrefresh, -, hv₁⟩ := refresh_valid hv ht
  rw [h] at hrefresh
  obtain rfl := Except.ok.inj hrefresh
  exact hv₁

/-- The slot of the last refresh is only compared by the flow updates. -/
theorem refresh_slot {slot : UInt64} :
    ({ l with lastRefreshSlot := slot } : RateLimit).refreshRateLimit clock =
      l.refreshRateLimit clock := rfl

/-- **A refresh on the way changes nothing.** -/
theorem refresh_refresh (hv : l.Valid) (ht : l.Timely clock.unixTimestamp.toInt)
    (hle : clock.unixTimestamp.toInt ≤ clock'.unixTimestamp.toInt)
    (h : l.refreshRateLimit clock = .ok l') :
    l'.refreshRateLimit clock' = l.refreshRateLimit clock' := by
  obtain ⟨b, hb⟩ := hv.holds
  by_cases hmax : l.rateLimitMaxOutflow = UInt64.maxValue
  · -- without a maximum a refresh never accrues
    rw [refresh_of_not_due fun hdue => hdue.1 hmax] at h
    obtain rfl := Except.ok.inj h
    rw [refresh_of_not_due fun hdue : l.Due clock' => hdue.1 hmax]
    exact refresh_of_not_due fun hdue => hdue.1 hmax
  by_cases hfirst : l.lastRefreshTimestamp = clock.unixTimestamp
  · -- no time had passed at the first clock
    rw [refresh_of_not_due fun hdue => hdue.2 hfirst] at h
    obtain rfl := Except.ok.inj h
    rw [← hfirst]
    exact refresh_slot
  obtain ⟨l₁, hrefresh, hat, hb₁⟩ := refresh_of_due hb ht ⟨hmax, hfirst⟩
  rw [h] at hrefresh
  obtain rfl := Except.ok.inj hrefresh
  have hlast := ht.2
  have htimely : l.Timely clock'.unixTimestamp.toInt := ⟨ht.1, hlast.trans hle⟩
  have hlater : l.Due clock' := by
    refine ⟨hmax, fun heq => hfirst (Int64.toInt_inj.mp ?_)⟩
    rw [heq] at hlast ⊢
    omega
  obtain ⟨l₂, hrefresh₂, hat₂, hb₂⟩ := refresh_of_due hb htimely hlater
  rw [hrefresh₂]
  have hframe : ∀ {l₃}, RefreshedAt clock' l' l₃ → RefreshedAt clock' l l₃ := fun h₃ =>
    ⟨h₃.slope.trans hat.slope, h₃.maxOutflow.trans hat.maxOutflow, h₃.timestamp, h₃.slot⟩
  by_cases hsecond : l'.lastRefreshTimestamp = clock'.unixTimestamp
  · -- no time passed after it: the second refresh moves the slot only
    rw [refresh_of_not_due fun hdue => hdue.2 hsecond]
    rw [← hsecond, hat.timestamp] at hb₂
    have hat₃ : RefreshedAt clock' l' { l' with
        lastRefreshTimestamp := clock'.unixTimestamp
        lastRefreshSlot := clock'.slot } := ⟨rfl, rfl, rfl, rfl⟩
    exact congrArg _ ((hframe hat₃).ext hat₂ ⟨hb₁.capacity, hb₁.level, hb₁.carry⟩ hb₂)
  · -- two instalments
    have htimely₁ : l'.Timely clock'.unixTimestamp.toInt := by
      unfold Timely
      rw [hat.timestamp]
      exact ⟨ht.1.trans ht.2, hle⟩
    obtain ⟨l₃, hrefresh₃, hat₃, hb₃⟩ := refresh_of_due hb₁ htimely₁
      ⟨by rw [hat.maxOutflow]; exact hmax, hsecond⟩
    rw [hrefresh₃]
    rw [Bucket.accrue_accrue, hat.slope, hat.timestamp, ← Nat.mul_add] at hb₃
    have helapsed : (clock.unixTimestamp.toInt - l.lastRefreshTimestamp.toInt).toNat +
        (clock'.unixTimestamp.toInt - clock.unixTimestamp.toInt).toNat =
          (clock'.unixTimestamp.toInt - l.lastRefreshTimestamp.toInt).toNat := by
      omega
    rw [helapsed] at hb₃
    exact congrArg _ ((hframe hat₃).ext hat₂ hb₃ hb₂)

/-! ## The other operations keep the invariant -/

theorem Valid.inflow {n : UInt64} (hv : l.Valid) (h : l.inflow clock n = .ok l') : l'.Valid := by
  obtain ⟨-, rfl⟩ := inflow_ok h
  refine ⟨?_, hv.remainder_lt⟩
  rw [UInt64.toNat_min]
  exact min_le_left _ _

theorem Valid.outflow {n : UInt64} {allow : Bool} (hv : l.Valid)
    (h : l.outflow clock n allow = .ok l') : l'.Valid := by
  obtain ⟨-, available, rfl, hle, -⟩ := outflow_ok h
  exact ⟨hle.trans hv.available_le, hv.remainder_lt⟩

theorem Valid.steps {flows : List Flow} (hv : l.Valid) (ht : l.Timely clock.unixTimestamp.toInt)
    (h : Steps clock l flows l') : l'.Valid := by
  induction h with
  | nil => exact hv
  | refresh hsteps hrefresh ih => exact ih.refresh (hsteps.timely ht) hrefresh
  | inflow _ hinflow ih => exact ih.inflow hinflow
  | outflow _ houtflow ih => exact ih.outflow houtflow

/-- What has been consumed. -/
def consumed (l : RateLimit) : Nat :=
  l.rateLimitMaxOutflow.toNat - l.rateLimitOutflowAmountAvailable.toNat

/-- **A new maximum never panics**, and keeps what has been consumed up to itself. -/
theorem setMaxOutflow_valid {m : UInt64} (hv : l.Valid) :
    ∃ l', l.setMaxOutflow m = .ok l' ∧ l'.Valid ∧ l'.rateLimitMaxOutflow = m ∧
      l'.rateLimitOutflowAmountAvailable.toNat = m.toNat - l.consumed ∧
      l'.lastRefreshTimestamp = l.lastRefreshTimestamp := by
  have hle := hv.available_le
  cases hgap : l.rateLimitMaxOutflow.checkedSub l.rateLimitOutflowAmountAvailable with
  | none =>
    rw [UInt64.checkedSub_eq_none] at hgap
    omega
  | some gap =>
    have hsub := UInt64.checkedSub_eq_some.mp hgap
    have hconsumed : gap.toNat = l.consumed := by
      rw [consumed]
      omega
    have havailable : (m.saturatingSub gap).toNat = m.toNat - l.consumed := by
      rw [UInt64.toNat_saturatingSub, hconsumed]
    refine ⟨{ l with
      rateLimitMaxOutflow := m
      rateLimitOutflowAmountAvailable := m.saturatingSub gap
      rateLimitRemainder := if m < gap then 0 else l.rateLimitRemainder },
      ?_, ⟨?_, ?_⟩, ?_, ?_, ?_⟩
    · rw [setMaxOutflow, hgap]
      rfl
    · rw [havailable]
      exact Nat.sub_le _ _
    · show (if m < gap then 0 else l.rateLimitRemainder).toNat < _
      split
      · exact (by decide : 0 < SECONDS_PER_DAY)
      · exact hv.remainder_lt
    · rfl
    · exact havailable
    · rfl

/-- **Setting limits never panics**, for every slope and maximum. -/
theorem updateLimits_valid (slope maxOutflow : Option UInt64) (hv : l.Valid)
    (ht : l.Timely clock.unixTimestamp.toInt) :
    ∃ l', l.updateLimits clock slope maxOutflow = .ok l' ∧ l'.Valid ∧
      l'.Timely clock.unixTimestamp.toInt := by
  obtain ⟨l₁, hrefresh, hat, hv₁⟩ := refresh_valid hv ht
  have ht₁ := refresh_timely ht hrefresh
  have hv₂ : ({ l₁ with rateLimitSlope := slope.getD l₁.rateLimitSlope } : RateLimit).Valid :=
    ⟨hv₁.available_le, hv₁.remainder_lt⟩
  rw [updateLimits, hrefresh]
  cases maxOutflow with
  | none => exact ⟨_, rfl, hv₂, ht₁⟩
  | some m =>
    obtain ⟨l', hset, hv', -, -, hlast⟩ := setMaxOutflow_valid (m := m) hv₂
    refine ⟨l', hset, hv', ?_⟩
    unfold Timely
    rw [hlast]
    exact ht₁

theorem init_valid {slope maxOutflow : UInt64} : (init clock slope maxOutflow).Valid :=
  ⟨le_rfl, (by decide : 0 < SECONDS_PER_DAY)⟩

/-- The limiter may be refreshed at this clock. -/
def Refreshable (l : RateLimit) (clock : Clock) : Prop :=
  l.Valid ∧ l.Timely clock.unixTimestamp.toInt

end RateLimit

/-- The clock reads no earlier. -/
def Clock.NotAfter (clock clock' : Clock) : Prop :=
  clock.unixTimestamp.toInt ≤ clock'.unixTimestamp.toInt

section Refreshable

variable {clock clock' : Clock} {l l' : RateLimit}

theorem RateLimit.Refreshable.later (h : l.Refreshable clock) (hle : clock.NotAfter clock') :
    l.Refreshable clock' :=
  ⟨h.1, h.2.1, h.2.2.trans hle⟩

theorem RateLimit.Refreshable.init {slope maxOutflow : UInt64}
    (h : 0 ≤ clock.unixTimestamp.toInt) : (RateLimit.init clock slope maxOutflow).Refreshable clock :=
  ⟨init_valid, h, le_rfl⟩

theorem RateLimit.Refreshable.steps {flows : List Flow} (h : l.Refreshable clock)
    (hsteps : l.Steps clock flows l') : l'.Refreshable clock :=
  ⟨h.1.steps h.2 hsteps, hsteps.timely h.2⟩

/-- Setting the limits succeeds. -/
theorem RateLimit.Refreshable.updateLimits (slope maxOutflow : Option UInt64)
    (h : l.Refreshable clock) :
    ∃ l', l.updateLimits clock slope maxOutflow = .ok l' ∧ l'.Refreshable clock :=
  updateLimits_valid slope maxOutflow h.1 h.2

theorem RateLimit.Refreshable.of_update {slope maxOutflow : Option UInt64}
    (h : l.Refreshable clock) (hupdate : l.updateLimits clock slope maxOutflow = .ok l') :
    l'.Refreshable clock := by
  obtain ⟨l₁, hok, hl₁⟩ := h.updateLimits slope maxOutflow
  rw [hok] at hupdate
  exact Except.ok.inj hupdate ▸ hl₁

end Refreshable

end AlmController
