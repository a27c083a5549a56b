import AlmController.Instructions
import AlmController.Simulator
import AlmController.Theorems.LimiterInvariant

/-!
# Setting the maximum

`update` keeps the gap between the maximum and what is available, so that setting another
maximum neither refills nor drains the limiter. A maximum below the gap cannot: the gap is
cut down to it, and a later, higher maximum finds the smaller gap. So over several updates
at one time the gap that is left is the least of the old gap and every maximum on the way,
and the sequence ends where its last update alone would have ended exactly when none of the
maxima on the way was below what the last one can hold of the gap.

`max_outflow_restores_iff` says this of both kinds of account, for any number of updates, which may
set other things as well. All of them are at one time, and the gap is taken after a refresh at
that time, so the slope earns nothing in between.
-/

namespace AlmController

open Prog

/-! ## One update -/

/-- At this time a refresh leaves `c` consumed, whatever the slot. -/
def RateLimit.Consumes (time : Int64) (l : RateLimit) (c : Nat) : Prop :=
  ∀ slot, l.Refreshable ⟨slot, time⟩ ∧
    ∃ l', l.refreshRateLimit ⟨slot, time⟩ = .ok l' ∧ l'.consumed = c

section Updates

variable {time : Int64} {slot : UInt64} {l l' : RateLimit} {c : Nat}

/-- A limiter that was refreshed at this time is not refreshed again. -/
theorem RateLimit.Consumes.of_refreshed (h : l.Refreshable ⟨slot, time⟩)
    (hlast : l.lastRefreshTimestamp = time) : l.Consumes time l.consumed := by
  intro slot'
  refine ⟨h, _, RateLimit.refresh_of_not_due ?_, rfl⟩
  exact fun hdue => hdue.2 hlast

/-- What is consumed after a refresh at this time does not depend on the slot it is done in. -/
theorem RateLimit.Consumes.of_refreshable (h : l.Refreshable ⟨slot, time⟩)
    (hrefresh : l.refreshRateLimit ⟨slot, time⟩ = .ok l') : l.Consumes time l'.consumed := by
  intro slot'
  refine ⟨h, ?_⟩
  by_cases hdue : l.Due ⟨slot, time⟩
  · -- the slot is only written down
    have hdue' : l.Due ⟨slot', time⟩ := hdue
    have hrefreshable' : l.Refreshable ⟨slot', time⟩ := h
    obtain ⟨b, hb⟩ := h.1.holds
    obtain ⟨l₁, hok, hat, hb₁⟩ := RateLimit.refresh_of_due hb h.2 hdue
    obtain ⟨l₂, hok', hat', hb₂⟩ := RateLimit.refresh_of_due hb hrefreshable'.2 hdue'
    rw [hok] at hrefresh
    obtain rfl := Except.ok.inj hrefresh
    refine ⟨l₂, hok', ?_⟩
    rw [RateLimit.consumed, RateLimit.consumed, hat.maxOutflow, hat'.maxOutflow, hb₁.level,
      hb₂.level]
  · rw [RateLimit.refresh_of_not_due hdue] at hrefresh
    obtain rfl := Except.ok.inj hrefresh
    exact ⟨_, RateLimit.refresh_of_not_due (show ¬ l.Due ⟨slot', time⟩ from hdue), rfl⟩

/-- **One update.** What is consumed is cut down to the maximum that is set, if one is. -/
theorem RateLimit.Consumes.update (slot : UInt64) (slope maxOutflow : Option UInt64)
    (h : l.Consumes time c) :
    ∃ l' c', l.updateLimits ⟨slot, time⟩ slope maxOutflow = .ok l' ∧ l'.Consumes time c' ∧
      (∀ x, x ≤ c' ↔ x ≤ c ∧ ∀ m, maxOutflow = some m → x ≤ m.toNat) ∧
      ∀ m, maxOutflow = some m → l'.rateLimitOutflowAmountAvailable.toNat = m.toNat - c := by
  obtain ⟨hrefreshable, l₁, hrefresh, rfl⟩ := h slot
  have hrefreshed := RateLimit.refreshRateLimit_isRefreshed hrefresh
  have hvalid := hrefreshable.1.refresh hrefreshable.2 hrefresh
  have htimely := RateLimit.refresh_timely hrefreshable.2 hrefresh
  have hsloped : ({ l₁ with rateLimitSlope := slope.getD l₁.rateLimitSlope } : RateLimit).Valid :=
    ⟨hvalid.available_le, hvalid.remainder_lt⟩
  rw [RateLimit.updateLimits, hrefresh]
  cases maxOutflow with
  -- without a maximum only the slope changes, and what is consumed stays
  | none =>
    refine ⟨_, _, rfl, .of_refreshed ⟨hsloped, htimely⟩ hrefreshed.1, ?_, ?_⟩
    · intro x
      exact ⟨fun hx => ⟨hx, fun _ hm => absurd hm.symm (Option.some_ne_none _)⟩, And.left⟩
    · exact fun _ hm => absurd hm.symm (Option.some_ne_none _)
  | some m =>
    obtain ⟨l', hset, hvalid', hmax, havailable, hlast⟩ :=
      RateLimit.setMaxOutflow_valid (m := m) hsloped
    have htimely' : l'.Timely time.toInt := by
      unfold RateLimit.Timely
      rw [hlast]
      exact htimely
    -- the gap is taken from the new maximum, and no further than to zero
    have hconsumed : l'.consumed = min m.toNat l₁.consumed := by
      rw [RateLimit.consumed, hmax, havailable]
      show m.toNat - (m.toNat - l₁.consumed) = _
      omega
    have hrefreshable' : l'.Refreshable ⟨slot, time⟩ := ⟨hvalid', htimely'⟩
    refine ⟨l', _, hset, .of_refreshed hrefreshable' (hlast.trans hrefreshed.1), ?_, ?_⟩
    · intro x
      rw [hconsumed, le_min_iff, and_comm]
      simp only [Option.some.injEq, forall_eq']
    · intro m' hm'
      obtain rfl := Option.some.inj hm'
      exact havailable

/-! ## Sequences of updates -/

variable {α υ : Type} {f : α → υ → Except Error α} {limiter : α → RateLimit} {slot : υ → UInt64}
  {slope maxOutflow : υ → Option UInt64}

/-- `f` updates the limiter of an account, each time at this time. -/
def UpdatesLimits (time : Int64) (f : α → υ → Except Error α) (limiter : α → RateLimit)
    (slot : υ → UInt64) (slope maxOutflow : υ → Option UInt64) : Prop :=
  ∀ {a u l'}, (limiter a).updateLimits ⟨slot u, time⟩ (slope u) (maxOutflow u) = .ok l' →
    ∃ a', f a u = .ok a' ∧ limiter a' = l'

/-- What a sequence leaves consumed is the least of what was and every maximum set. -/
theorem UpdatesLimits.consumes (hf : UpdatesLimits time f limiter slot slope maxOutflow) {a : α}
    (us : List υ) (h : (limiter a).Consumes time c) :
    ∃ a' c', us.foldlM f a = .ok a' ∧ (limiter a').Consumes time c' ∧
      ∀ x, x ≤ c' ↔ x ≤ c ∧ ∀ u ∈ us, ∀ m, maxOutflow u = some m → x ≤ m.toNat := by
  -- by induction on the updates, which keep refreshed what is refreshed at this time
  induction us generalizing a c with
  | nil =>
    refine ⟨a, c, rfl, h, fun x => ?_⟩
    exact ⟨fun hx => ⟨hx, fun _ hmem => absurd hmem List.not_mem_nil⟩, And.left⟩
  | cons u us ih =>
    obtain ⟨l', c₁, hupdate, hl', hc₁, -⟩ := h.update (slot u) (slope u) (maxOutflow u)
    obtain ⟨a₁, ha₁, rfl⟩ := hf hupdate
    obtain ⟨a', c', hrest, ha', hc'⟩ := ih hl'
    refine ⟨a', c', ?_, ha', fun x => ?_⟩
    · rw [List.foldlM_cons, ha₁]
      exact hrest
    · rw [hc', hc₁, List.forall_mem_cons, and_assoc]

/-- **A sequence against its last update.** -/
theorem UpdatesLimits.last (hf : UpdatesLimits time f limiter slot slope maxOutflow) {a : α}
    (us : List υ) {u : υ} {m : UInt64} (hm : maxOutflow u = some m)
    (h : (limiter a).Consumes time c) :
    ∃ a' a₁, (us ++ [u]).foldlM f a = .ok a' ∧ f a u = .ok a₁ ∧
      (limiter a₁).rateLimitOutflowAmountAvailable.toNat = m.toNat - c ∧
      ((limiter a').rateLimitOutflowAmountAvailable.toNat = m.toNat - c ↔
        ∀ u ∈ us, ∀ m', maxOutflow u = some m' → min m.toNat c ≤ m'.toNat) := by
  obtain ⟨l₁, -, hupdate, -, -, havailable⟩ := h.update (slot u) (slope u) (maxOutflow u)
  obtain ⟨a₁, ha₁, rfl⟩ := hf hupdate
  obtain ⟨a₂, c₂, hprefix, ha₂, hc₂⟩ := hf.consumes us h
  obtain ⟨l', -, hupdate', -, -, havailable'⟩ :=
    ha₂.update (slot u) (slope u) (maxOutflow u)
  obtain ⟨a', ha', rfl⟩ := hf hupdate'
  refine ⟨a', a₁, ?_, ha₁, havailable m hm, ?_⟩
  · rw [List.foldlM_append, hprefix]
    show List.foldlM f a₂ [u] = _
    rw [List.foldlM_cons, ha']
    rfl
  -- what the last update finds consumed is less exactly if some maximum cut it down that far
  · have hle : c₂ ≤ c := ((hc₂ c₂).mp le_rfl).1
    have hmin := hc₂ (min m.toNat c)
    rw [havailable' m hm]
    constructor
    · intro heq
      exact (hmin.mp (by omega)).2
    · intro hall
      have hheld := hmin.mpr ⟨min_le_right _ _, hall⟩
      omega

end Updates

/-! ## The two accounts -/

/-- ManageReserve's update of the account, in some slot of this time. -/
def Reserve.manage (time : Int64) (r : Reserve) (u : UInt64 × ManageReserveArgs) :
    Except Error Reserve :=
  r.update ⟨u.1, time⟩ u.2.status u.2.rateLimitSlope u.2.rateLimitMaxOutflow

/-- ManageIntegration's update of the account, in some slot of this time. -/
def Integration.manage (time : Int64) (i : Integration) (u : UInt64 × ManageIntegrationArgs) :
    Except Error Integration :=
  i.update ⟨u.1, time⟩ u.2.status u.2.description u.2.rateLimitSlope u.2.rateLimitMaxOutflow

/-- ManageReserve updates the limiter, and then the status. -/
theorem Reserve.manage_updates {time : Int64} :
    UpdatesLimits time (Reserve.manage time) Reserve.toRateLimit Prod.fst
      (fun u => u.2.rateLimitSlope) (fun u => u.2.rateLimitMaxOutflow) := by
  intro r u l' h
  exact ⟨_, by rw [manage, Reserve.update, h]; rfl, rfl⟩

/-- And so does ManageIntegration, with the description. -/
theorem Integration.manage_updates {time : Int64} :
    UpdatesLimits time (Integration.manage time) Integration.toRateLimit Prod.fst
      (fun u => u.2.rateLimitSlope) (fun u => u.2.rateLimitMaxOutflow) := by
  intro i u l' h
  exact ⟨_, by rw [manage, Integration.update, h]; rfl, rfl⟩

variable [Chain]

/-- **Several maxima against the last of them.** Take a reserve or an integration that the
    operations lead to, refreshed at some time, and updates at that time of which the last
    sets a maximum. The last update alone leaves available what it sets less what was
    consumed. The whole sequence leaves the same exactly when no maximum on the way was
    below both the last one and what was consumed. -/
theorem max_outflow_restores_iff {clock : Clock} {m : UInt64} :
    (∀ (r r₀ : Reserve) (us : List (UInt64 × ManageReserveArgs)) (u : UInt64 × ManageReserveArgs),
      Reserve.Reached clock r → r.refreshRateLimit clock = .ok r₀ →
      u.2.rateLimitMaxOutflow = some m →
      ∃ r' r₁, (us ++ [u]).foldlM (Reserve.manage clock.unixTimestamp) r = .ok r' ∧
        r.manage clock.unixTimestamp u = .ok r₁ ∧
        r₁.rateLimitOutflowAmountAvailable.toNat = m.toNat - r₀.consumed ∧
        (r'.rateLimitOutflowAmountAvailable.toNat = m.toNat - r₀.consumed ↔
          ∀ u ∈ us, ∀ m', u.2.rateLimitMaxOutflow = some m' →
            min m.toNat r₀.consumed ≤ m'.toNat)) ∧
    (∀ (i i₀ : Integration) (us : List (UInt64 × ManageIntegrationArgs))
        (u : UInt64 × ManageIntegrationArgs),
      Integration.Reached clock i → i.refreshRateLimit clock = .ok i₀ →
      u.2.rateLimitMaxOutflow = some m →
      ∃ i' i₁, (us ++ [u]).foldlM (Integration.manage clock.unixTimestamp) i = .ok i' ∧
        i.manage clock.unixTimestamp u = .ok i₁ ∧
        i₁.rateLimitOutflowAmountAvailable.toNat = m.toNat - i₀.consumed ∧
        (i'.rateLimitOutflowAmountAvailable.toNat = m.toNat - i₀.consumed ↔
          ∀ u ∈ us, ∀ m', u.2.rateLimitMaxOutflow = some m' →
            min m.toNat i₀.consumed ≤ m'.toNat)) := by
  constructor
  · intro r r₀ us u hr hrefresh hm
    simp only [Reserve.refreshRateLimit, except_bind_ok, except_pure_ok] at hrefresh
    obtain ⟨l₀, hl₀, rfl⟩ := hrefresh
    exact Reserve.manage_updates.last us hm (.of_refreshable hr.refreshable hl₀)
  · intro i i₀ us u hi hrefresh hm
    simp only [Integration.refreshRateLimit, except_bind_ok, except_pure_ok] at hrefresh
    obtain ⟨l₀, hl₀, rfl⟩ := hrefresh
    exact Integration.manage_updates.last us hm (.of_refreshable hi.refreshable hl₀)

end AlmController

namespace AlmController

open Simulator

/-- A reserve that has spent its maximum of 100. -/
def spentReserve : Reserve :=
  { Reserve.init ⟨2, 5⟩ 0 0 0 .Active 0 100 with rateLimitOutflowAmountAvailable := 0 }

theorem spentReserve_reached : Reserve.Reached ⟨2, 5⟩ spentReserve := by
  have hinit : Reserve.Reached ⟨2, 5⟩ (.init ⟨2, 5⟩ 0 0 0 .Active 0 100) := .init (by decide)
  have hfull : Reserve.Reached ⟨2, 5⟩
      { Reserve.init ⟨2, 5⟩ 0 0 0 .Active 0 100 with lastBalance := 100 } :=
    hinit.inflow (n := 100) rfl
  have hspent : Reserve.updateForOutflow
      { Reserve.init ⟨2, 5⟩ 0 0 0 .Active 0 100 with lastBalance := 100 } ⟨2, 5⟩ 100 false =
        .ok spentReserve := rfl
  exact hfull.outflow hspent

theorem spentReserve_refresh : spentReserve.refreshRateLimit ⟨2, 5⟩ = .ok spentReserve := by
  decide +kernel

/-- Set the maximum, and nothing else. -/
def setMaximum (m : UInt64) : UInt64 × ManageReserveArgs := (2, ⟨none, none, some m⟩)

/-- Lowering the maximum to 10 and restoring it to 100 gives a spent reserve 90 to spend,
    where the last update alone gives nothing. -/
theorem max_outflow_refills :
    ¬ ∀ {clock : Clock} {r r₀ r' r₁ : Reserve} {us : List (UInt64 × ManageReserveArgs)}
        {u : UInt64 × ManageReserveArgs} {m : UInt64},
      Reserve.Reached clock r → r.refreshRateLimit clock = .ok r₀ →
      u.2.rateLimitMaxOutflow = some m →
      (us ++ [u]).foldlM (Reserve.manage clock.unixTimestamp) r = .ok r' →
      r.manage clock.unixTimestamp u = .ok r₁ →
        r'.rateLimitOutflowAmountAvailable = r₁.rateLimitOutflowAmountAvailable ∧
          r'.rateLimitOutflowAmountAvailable.toNat = m.toNat - r₀.consumed := by
  intro hclaim
  have hsequence : ([setMaximum 10] ++ [setMaximum 100]).foldlM (Reserve.manage 5) spentReserve =
      .ok { spentReserve with rateLimitOutflowAmountAvailable := 90 } := by decide +kernel
  have hlast : spentReserve.manage 5 (setMaximum 100) = .ok spentReserve := by
    decide +kernel
  exact absurd (hclaim spentReserve_reached spentReserve_refresh rfl hsequence hlast).1
    (by decide)

/-- Raising the maximum of a spent reserve to 200 and setting it back leaves it spent. -/
theorem max_outflow_restores_iff_raised :
    ∃ r' r₁, ([setMaximum 200] ++ [setMaximum 100]).foldlM (Reserve.manage 5) spentReserve =
        .ok r' ∧ spentReserve.manage 5 (setMaximum 100) = .ok r₁ ∧
      r₁.rateLimitOutflowAmountAvailable.toNat = 0 ∧
      r'.rateLimitOutflowAmountAvailable.toNat = 0 := by
  obtain ⟨r', r₁, hsequence, hlast, hsingle, hiff⟩ :=
    max_outflow_restores_iff.1 spentReserve spentReserve [setMaximum 200] (setMaximum 100)
      spentReserve_reached spentReserve_refresh rfl
  have hraised : ∀ u ∈ [setMaximum 200], ∀ m', u.2.rateLimitMaxOutflow = some m' →
      min (100 : UInt64).toNat spentReserve.consumed ≤ m'.toNat := by
    intro u hu m' hm'
    obtain rfl := List.mem_singleton.mp hu
    obtain rfl := Option.some.inj hm'
    decide
  exact ⟨r', r₁, hsequence, hlast, hsingle, hiff.mpr hraised⟩

end AlmController
