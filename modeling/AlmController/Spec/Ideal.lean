import AlmController.Lib.Tank
import AlmController.Spec.Clocked

/-!
# The limiter that rounds nothing

A limiter is meant to be a tank: `slope` flows in over a day, every inflow fills it, every outflow
drains it, and it holds no more than the maximum. The code counts whole tokens, divides by 86400,
carries a remainder, clamps to 64 bits, and accrues only when somebody refreshes it.

`RateLimit.Tracks clock l t` says that none of this matters: brought up to date at `clock`, the
limiter holds what the tank `t` holds, to within one token. A refresh on the way is invisible, so
the relation looks past when the limiter was refreshed last. The lemmas follow the ways in which
a limiter evolves: it is created, time passes, flows are booked, its limits are set.
-/

namespace AlmController

open Prog

/-- A flow, booked on a tank that holds 86400ths of a token. -/
def bookFlow (t : Tank) : Flow → Tank
  | (.inflow, n) => t.fill (SECONDS_PER_DAY * n.toNat)
  | (.outflow _, n) => t.drain (SECONDS_PER_DAY * n.toNat)

/-- Flows, booked in their order. -/
def bookFlows (t : Tank) (flows : List Flow) : Tank := flows.foldl bookFlow t

namespace RateLimit

variable {clock clock' : Clock} {l l' : RateLimit} {b : Bucket SECONDS_PER_DAY} {t : Tank}
  {flows : List Flow}

/-! ## The operations, on buckets -/

theorem Holds.inflow {n : UInt64} (hb : l.Holds b) (h : l.inflow clock n = .ok l') :
    l'.Holds (b.deposit n.toNat) := by
  obtain ⟨-, rfl⟩ := inflow_ok h
  refine ⟨hb.capacity, ?_, hb.carry⟩
  have hmax := l.rateLimitMaxOutflow.toNat_lt_pow
  have hcapacity := hb.capacity
  show (min _ _ : UInt64).toNat = min (b.level + n.toNat) b.capacity
  rw [UInt64.toNat_min, UInt64.toNat_saturatingAdd, hb.level]
  omega

/-- An outflow that is checked and one that is clamped leave the same. -/
theorem outflow_eq {n : UInt64} {allow : Bool} (h : l.outflow clock n allow = .ok l') :
    l' = { l with
      rateLimitOutflowAmountAvailable := l.rateLimitOutflowAmountAvailable.saturatingSub n } := by
  obtain ⟨-, available, rfl, -, hexact⟩ := outflow_ok h
  cases allow with
  | true =>
    simp only [outflow, except_bind_ok, check_ok, if_true, except_pure_ok] at h
    obtain ⟨_, -, h⟩ := h
    exact h.symm
  | false =>
    have havailable : available = l.rateLimitOutflowAmountAvailable.saturatingSub n := by
      apply UInt64.toNat_inj.mp
      rw [UInt64.toNat_saturatingSub, hexact rfl, Nat.add_sub_cancel_left]
    rw [havailable]

theorem Holds.outflow {n : UInt64} {allow : Bool} (hb : l.Holds b)
    (h : l.outflow clock n allow = .ok l') : l'.Holds (b.withdraw n.toNat) := by
  rw [outflow_eq h]
  refine ⟨hb.capacity, ?_, hb.carry⟩
  show (l.rateLimitOutflowAmountAvailable.saturatingSub n).toNat = b.level - n.toNat
  rw [UInt64.toNat_saturatingSub, hb.level]

theorem Holds.setMaxOutflow {m : UInt64} (hb : l.Holds b) (h : l.setMaxOutflow m = .ok l') :
    l'.Holds (b.resize m.toNat) := by
  simp only [RateLimit.setMaxOutflow, except_bind_ok, okOr_ok, except_pure_ok,
    UInt64.checkedSub_eq_some] at h
  obtain ⟨gap, hgap, rfl⟩ := h
  have hsub : gap.toNat = b.capacity - b.level := by
    rw [← hb.capacity, ← hb.level]
    omega
  refine ⟨rfl, ?_, ?_⟩
  · show (m.saturatingSub gap).toNat = m.toNat - (b.capacity - b.level)
    rw [UInt64.toNat_saturatingSub, hsub]
  · show (if m < gap then 0 else l.rateLimitRemainder).toNat =
      if m.toNat < b.capacity - b.level then 0 else b.carry
    rw [← hsub]
    by_cases hlt : m < gap
    · rw [if_pos hlt, if_pos (UInt64.lt_iff_toNat_lt.mp hlt)]
      rfl
    · rw [if_neg hlt, if_neg (fun h => hlt (UInt64.lt_iff_toNat_lt.mpr h)), hb.carry]

/-! ## Tracking a tank -/

/-- Brought up to date at this clock, the limiter holds what the tank holds, to within one
    token. -/
def Tracks (clock : Clock) (l : RateLimit) (t : Tank) : Prop :=
  ∃ l' b, l.refreshRateLimit clock = .ok l' ∧ l'.Holds b ∧ b.Tracks t

theorem refresh_of_isRefreshed (h : l.IsRefreshed clock) : l.refreshRateLimit clock = .ok l := by
  rw [refresh_of_not_due fun hdue => hdue.2 h.1, ← h.1, ← h.2]

theorem Tracks.of_isRefreshed (hl : l.IsRefreshed clock) (hb : l.Holds b) (h : b.Tracks t) :
    l.Tracks clock t :=
  ⟨l, b, refresh_of_isRefreshed hl, hb, h⟩

/-- What is up to date holds the bucket itself. -/
theorem Tracks.holds (h : l.Tracks clock t) (hl : l.IsRefreshed clock) :
    ∃ b, l.Holds b ∧ b.Tracks t := by
  obtain ⟨l', b, hrefresh, hb, htracks⟩ := h
  rw [refresh_of_isRefreshed hl] at hrefresh
  obtain rfl := Except.ok.inj hrefresh
  exact ⟨b, hb, htracks⟩

/-- A new limiter is a full tank. -/
theorem Tracks.init {slope maxOutflow : UInt64} :
    (RateLimit.init clock slope maxOutflow).Tracks clock
      (.full (SECONDS_PER_DAY * maxOutflow.toNat)) := by
  have hb : (RateLimit.init clock slope maxOutflow).Holds
      ⟨maxOutflow.toNat, maxOutflow.toNat, 0, le_rfl, by decide⟩ := ⟨rfl, rfl, rfl⟩
  exact .of_isRefreshed ⟨rfl, rfl⟩ hb (Bucket.Tracks.full rfl rfl)

/-- What the slope earns in so many seconds. A maximum of `u64::MAX` is not refilled: the program
    takes it for no limit at all, and leaves out the refresh. -/
def earned (l : RateLimit) (seconds : Nat) : Nat :=
  if l.rateLimitMaxOutflow = UInt64.maxValue then 0 else l.rateLimitSlope.toNat * seconds

/-- **Time passes.** -/
theorem Tracks.later (h : l.Tracks clock t) (hl : l.Refreshable clock)
    (hle : clock.NotAfter clock') :
    l.Tracks clock' (t.fill
      (l.earned (clock'.unixTimestamp.toInt - clock.unixTimestamp.toInt).toNat)) := by
  obtain ⟨l₁, b, hrefresh, hb, htracks⟩ := h
  have hl₁ : l₁.Refreshable clock := hl.steps (.refresh .nil hrefresh)
  have htimely : l₁.Timely clock'.unixTimestamp.toInt := (hl₁.later hle).2
  have hrefreshed := refreshRateLimit_isRefreshed hrefresh
  obtain ⟨hslope, hmax⟩ := (Steps.refresh .nil hrefresh : Steps clock l [] l₁).frame
  unfold Tracks
  rw [← refresh_refresh hl.1 hl.2 hle hrefresh]
  unfold earned
  rw [← hslope, ← hmax, ← hrefreshed.1]
  by_cases hdue : l₁.Due clock'
  · obtain ⟨l₂, hrefresh₂, -, hb₂⟩ := refresh_of_due hb htimely hdue
    rw [if_neg hdue.1]
    exact ⟨l₂, _, hrefresh₂, hb₂, htracks.accrue _⟩
  · -- there is no maximum, or no time passed
    have hnothing : (if l₁.rateLimitMaxOutflow = UInt64.maxValue then 0 else
        l₁.rateLimitSlope.toNat *
          (clock'.unixTimestamp.toInt - l₁.lastRefreshTimestamp.toInt).toNat) = 0 := by
      by_cases hnone : l₁.rateLimitMaxOutflow = UInt64.maxValue
      · exact if_pos hnone
      · have hsame : l₁.lastRefreshTimestamp = clock'.unixTimestamp :=
          not_not.mp fun hne => hdue ⟨hnone, hne⟩
        rw [if_neg hnone, hsame, sub_self]
        rfl
    rw [hnothing, Tank.fill_zero]
    exact ⟨_, b, refresh_of_not_due hdue, ⟨hb.capacity, hb.level, hb.carry⟩, htracks⟩

/-- **Flows are booked.** The refreshes between them change nothing. -/
theorem Tracks.steps (h : l.Tracks clock t) (hl : l.Refreshable clock)
    (hsteps : Steps clock l flows l') : l'.Tracks clock (bookFlows t flows) := by
  induction hsteps with
  | nil => exact h
  | @refresh flows l₁ l₂ hsteps hrefresh ih =>
    obtain ⟨l₃, b, hrefresh₃, hb, htracks⟩ := ih
    have hl₁ : l₁.Refreshable clock := hl.steps hsteps
    refine ⟨l₃, b, ?_, hb, htracks⟩
    rw [refresh_refresh hl₁.1 hl₁.2 le_rfl hrefresh]
    exact hrefresh₃
  | inflow _ hinflow ih =>
    have hrefreshed := (inflow_ok hinflow).1
    obtain ⟨b, hb, htracks⟩ := ih.holds hrefreshed
    have hrefreshed' : RateLimit.IsRefreshed _ clock := hrefreshed
    unfold bookFlows
    rw [List.foldl_append]
    refine .of_isRefreshed ?_ (hb.inflow hinflow) (htracks.deposit _)
    rw [(inflow_ok hinflow).2]
    exact hrefreshed'
  | outflow _ houtflow ih =>
    have hrefreshed := (outflow_ok houtflow).1
    obtain ⟨b, hb, htracks⟩ := ih.holds hrefreshed
    have hrefreshed' : RateLimit.IsRefreshed _ clock := hrefreshed
    unfold bookFlows
    rw [List.foldl_append]
    refine .of_isRefreshed ?_ (hb.outflow houtflow) (htracks.withdraw _)
    rw [outflow_eq houtflow]
    exact hrefreshed'

/-- **The limits are set.** What was earned before is earned at the old slope. -/
theorem Tracks.updated {slope maxOutflow : Option UInt64} (h : l.Tracks clock t)
    (hupdate : l.updateLimits clock slope maxOutflow = .ok l') :
    l'.Tracks clock (t.resize (SECONDS_PER_DAY * l'.rateLimitMaxOutflow.toNat)) := by
  simp only [updateLimits, except_bind_ok] at hupdate
  obtain ⟨l₁, hrefresh, hupdate⟩ := hupdate
  obtain ⟨l₂, b, hrefresh₂, hb, htracks⟩ := h
  rw [hrefresh] at hrefresh₂
  obtain rfl := Except.ok.inj hrefresh₂
  have hrefreshed := refreshRateLimit_isRefreshed hrefresh
  have hsloped : ({ l₁ with rateLimitSlope := slope.getD l₁.rateLimitSlope } : RateLimit).Holds b :=
    ⟨hb.capacity, hb.level, hb.carry⟩
  cases maxOutflow with
  | none =>
    obtain rfl := except_pure_ok.mp hupdate
    have hself : SECONDS_PER_DAY * l₁.rateLimitMaxOutflow.toNat = t.capacity := by
      rw [htracks.capacity, hb.capacity]
    refine .of_isRefreshed hrefreshed hsloped ?_
    show b.Tracks (t.resize (SECONDS_PER_DAY * l₁.rateLimitMaxOutflow.toNat))
    rw [hself, Tank.resize_self]
    exact htracks
  | some m =>
    have hb' := hsloped.setMaxOutflow hupdate
    simp only [setMaxOutflow, except_bind_ok, except_pure_ok] at hupdate
    obtain ⟨gap, -, rfl⟩ := hupdate
    exact .of_isRefreshed hrefreshed hb' (htracks.resize _)

/-! ## Asking the limiter -/

/-- A checked outflow goes through when there is enough. -/
theorem outflow_ok_iff {n : UInt64} (hl : l.IsRefreshed clock) :
    (∃ l', l.outflow clock n false = .ok l') ↔
      n.toNat ≤ l.rateLimitOutflowAmountAvailable.toNat := by
  constructor
  · intro h
    obtain ⟨l', h⟩ := h
    obtain ⟨-, _, -, -, hexact⟩ := outflow_ok h
    rw [hexact rfl]
    exact Nat.le_add_right _ _
  · intro hle
    cases hsub : l.rateLimitOutflowAmountAvailable.checkedSub n with
    | none => exact absurd hle (not_le.mpr (UInt64.checkedSub_eq_none.mp hsub))
    | some available =>
      refine ⟨{ l with rateLimitOutflowAmountAvailable := available }, ?_⟩
      simp only [outflow, except_bind_ok, check_ok, not_not, Bool.false_eq_true, if_false, hsub]
      exact ⟨(), hl, available, rfl, rfl⟩

/-- The limiter lets out what its tank holds, and no token more. -/
structure Agrees (clock : Clock) (l : RateLimit) (t : Tank) : Prop where
  capacity : t.capacity = SECONDS_PER_DAY * l.rateLimitMaxOutflow.toNat
  le : t.level ≤
    SECONDS_PER_DAY * l.rateLimitOutflowAmountAvailable.toNat + l.rateLimitRemainder.toNat
  lt : SECONDS_PER_DAY * l.rateLimitOutflowAmountAvailable.toNat + l.rateLimitRemainder.toNat <
    t.level + SECONDS_PER_DAY
  allows : ∀ n : UInt64, SECONDS_PER_DAY * n.toNat ≤ t.level →
    ∃ l', l.outflow clock n false = .ok l'
  refuses : ∀ n : UInt64, t.level + SECONDS_PER_DAY ≤ SECONDS_PER_DAY * n.toNat →
    ¬ ∃ l', l.outflow clock n false = .ok l'

theorem Tracks.agrees (h : l.Tracks clock t) :
    ∃ l', l.refreshRateLimit clock = .ok l' ∧ l'.Agrees clock t := by
  obtain ⟨l', b, hrefresh, hb, htracks⟩ := h
  have hrefreshed := refreshRateLimit_isRefreshed hrefresh
  have hle := htracks.le
  have hlt := htracks.lt
  have hcarry := b.carry_lt
  unfold Bucket.units at hle hlt
  rw [← hb.level, ← hb.carry] at hle hlt
  rw [← hb.carry] at hcarry
  refine ⟨l', hrefresh, ?_, hle, hlt, ?_, ?_⟩
  · rw [htracks.capacity, hb.capacity]
  · intro n hn
    apply (outflow_ok_iff hrefreshed).mpr
    by_contra hmore
    have hmul : SECONDS_PER_DAY * (l'.rateLimitOutflowAmountAvailable.toNat + 1) ≤
        SECONDS_PER_DAY * n.toNat := Nat.mul_le_mul_left _ (not_le.mp hmore)
    rw [Nat.mul_add, Nat.mul_one] at hmul
    omega
  · intro n hn hok
    have hmul := Nat.mul_le_mul_left SECONDS_PER_DAY ((outflow_ok_iff hrefreshed).mp hok)
    omega

/-! ## One instruction -/

/-- What an instruction that books these flows makes of a limiter. -/
inductive Books (clock : Clock) (flows : List Flow) : Option RateLimit → RateLimit → Prop
  | started {slope maxOutflow : UInt64} {l : RateLimit} :
      (init clock slope maxOutflow).Steps clock flows l → Books clock flows none l
  | booked {l l' : RateLimit} : l.Steps clock flows l' → Books clock flows (some l) l'
  | updated {slope maxOutflow : Option UInt64} {l l' : RateLimit} : flows = [] →
      l.updateLimits clock slope maxOutflow = .ok l' → Books clock flows (some l) l'

theorem Books.kept (h : flows = []) : Books clock flows (some l) l := by
  rw [h]
  exact .booked .nil

/-- The tank of a limiter that ends up as `l`: one that is new starts out full. -/
def tankAfter (flows : List Flow) (l : RateLimit) : Option Tank → Tank
  | none => bookFlows (.full (SECONDS_PER_DAY * l.rateLimitMaxOutflow.toNat)) flows
  | some t => (bookFlows t flows).resize (SECONDS_PER_DAY * l.rateLimitMaxOutflow.toNat)

/-- Flows leave a tank the size it has. -/
theorem bookFlows_capacity : (bookFlows t flows).capacity = t.capacity := by
  induction flows generalizing t with
  | nil => rfl
  | cons f flows ih =>
    unfold bookFlows at ih ⊢
    rw [List.foldl_cons, ih]
    rcases f with ⟨_ | _, _⟩
    · rfl
    · rfl

theorem Tracks.capacity (h : l.Tracks clock t) :
    t.capacity = SECONDS_PER_DAY * l.rateLimitMaxOutflow.toNat := by
  obtain ⟨l', b, hrefresh, hb, htracks⟩ := h
  rw [htracks.capacity, ← hb.capacity, (Steps.refresh .nil hrefresh : Steps clock l [] l').frame.2]

/-- **A limiter and its tank evolve together.** -/
theorem Books.tracks {l₀ : Option RateLimit} {t₀ : Option Tank} (h : Books clock flows l₀ l)
    (hold : ∀ l', l₀ = some l' → l'.Refreshable clock ∧ ∃ t, t₀ = some t ∧ l'.Tracks clock t)
    (hnew : l₀ = none → t₀ = none) (hnow : 0 ≤ clock.unixTimestamp.toInt) :
    l.Tracks clock (l.tankAfter flows t₀) := by
  cases h with
  | @started slope maxOutflow l hsteps =>
    rw [hnew rfl]
    unfold tankAfter
    rw [hsteps.frame.2]
    exact Tracks.init.steps (.init hnow) hsteps
  | @booked l₁ l hsteps =>
    obtain ⟨hl, t, rfl, htracks⟩ := hold l₁ rfl
    have hself : SECONDS_PER_DAY * l.rateLimitMaxOutflow.toNat = (bookFlows t flows).capacity := by
      rw [bookFlows_capacity, htracks.capacity, hsteps.frame.2]
    show l.Tracks clock ((bookFlows t flows).resize (SECONDS_PER_DAY * l.rateLimitMaxOutflow.toNat))
    rw [hself, Tank.resize_self]
    exact htracks.steps hl hsteps
  | @updated slope maxOutflow l₁ l hflows hupdate =>
    obtain ⟨-, t, rfl, htracks⟩ := hold l₁ rfl
    unfold tankAfter
    rw [hflows]
    exact htracks.updated hupdate

end RateLimit

variable [Chain]

/-- **Every instruction books on a limiter the flows that its entries tell of it.** -/
theorem Change.books {tx : TxContext} {accounts : List AccountMeta} {data : List UInt8}
    {w w' : World} {es : List LogEntry} {k : Pubkey} {old new : Option KeelAccount}
    {id : LimiterId} {l : RateLimit} (hs : SwapsDistinct w)
    (h : Change tx accounts data w w' es k old new)
    (hl : new.bind KeelAccount.limiter? = some (id, l)) (hid : id.address = some k) :
    RateLimit.Books w.clock (flowsOf id es) (limiterOf old) l := by
  have hlimiter : ∀ {a : KeelAccount} {p : LimiterId × RateLimit}, new = some a →
      a.limiter? = some p → p = (id, l) := by
    intro a p hnew hp
    rw [hnew, Option.bind_some, hp] at hl
    exact Option.some.inj hl
  cases h with
  | same hsilent =>
    have hold : limiterOf old = some l := by
      unfold limiterOf
      rw [hl]
      rfl
    rw [hold]
    exact .kept (hsilent.flows id hid)
  | newReserve _ _ _ _ _ _ hinit hbooked =>
    obtain ⟨rfl, rfl⟩ := Prod.mk.inj (hlimiter rfl rfl)
    obtain ⟨slope, maxOutflow, hinit⟩ := hinit
    exact .started (hinit ▸ hbooked.steps)
  | manageReserve hsilent _ _ _ _ hupdate =>
    obtain ⟨rfl, rfl⟩ := Prod.mk.inj (hlimiter rfl rfl)
    simp only [Reserve.update, except_bind_ok, except_pure_ok] at hupdate
    obtain ⟨l', hl', rfl⟩ := hupdate
    exact .updated (hsilent.flows _ hid) hl'
  | bookReserve _ _ hbooked =>
    obtain ⟨rfl, rfl⟩ := Prod.mk.inj (hlimiter rfl rfl)
    rw [hbooked.limiterId_eq]
    exact .booked hbooked.steps
  | swapReserve _ _ _ hbooked hflows =>
    obtain ⟨rfl, rfl⟩ := Prod.mk.inj (hlimiter rfl rfl)
    rw [hbooked.limiterId_eq, ← hflows hs]
    exact .booked hbooked.steps
  | newIntegration hsilent _ _ _ _ hinit =>
    obtain ⟨rfl, rfl⟩ := Prod.mk.inj (hlimiter rfl rfl)
    obtain ⟨slope, maxOutflow, hinit⟩ := hinit
    rw [hsilent.flows _ hid, hinit]
    exact .started .nil
  | manageIntegration hsilent _ _ _ _ hupdate =>
    obtain ⟨rfl, rfl⟩ := Prod.mk.inj (hlimiter rfl rfl)
    simp only [Integration.update, except_bind_ok, except_pure_ok] at hupdate
    obtain ⟨l', hl', rfl⟩ := hupdate
    exact .updated (hsilent.flows _ hid) hl'
  | bookIntegration _ _ _ hbooked =>
    obtain ⟨rfl, rfl⟩ := Prod.mk.inj (hlimiter rfl rfl)
    rw [hbooked.limiterId_eq]
    exact .booked hbooked.steps
  | lendIntegration _ _ hbooked =>
    obtain ⟨rfl, rfl⟩ := Prod.mk.inj (hlimiter rfl rfl)
    rw [hbooked.limiterId_eq]
    exact .booked hbooked.steps
  | repayIntegration _ _ _ hbooked =>
    obtain ⟨rfl, rfl⟩ := Prod.mk.inj (hlimiter rfl rfl)
    rw [hbooked.limiterId_eq]
    exact .booked hbooked.steps
  | resetIntegration hsilent =>
    obtain ⟨rfl, rfl⟩ := Prod.mk.inj (hlimiter rfl rfl)
    exact .kept (hsilent.flows _ hid)
  -- no other account has a limiter
  | _ => cases hl

end AlmController
