import AlmController.Spec.Sound

/-!
# Metered accounts

Reserves and integrations are metered alike: each carries a limiter, and flows are
booked on it under an identity that its address is derived from. `Change.meters` says
what any instruction does to the credit of either.
-/

namespace AlmController

open Prog

variable [Chain]

variable {tx : TxContext} {accounts : List AccountMeta} {data : List UInt8} {w w' : World}
  {es : List LogEntry} {k : Pubkey} {new : Option KeelAccount}

/-! ## The limiter of an account -/

/-- The limiter of an account, and the identity that its flows are booked under. -/
def KeelAccount.limiter? : KeelAccount → Option (LimiterId × RateLimit)
  | .reserve r => some (r.limiterId, r.toRateLimit)
  | .integration i => some (i.limiterId, i.toRateLimit)
  | _ => none

/-- The account at `k` is metered. -/
def World.limiter? (w : World) (k : Pubkey) : Option (LimiterId × RateLimit) :=
  (w.keel k).bind KeelAccount.limiter?

/-- What one instruction makes of a limiter: a new one starts out full, flows are booked on
    it, or its limits are set. -/
inductive RateLimit.Evolves (clock : Clock) : Option RateLimit → RateLimit → Prop
  | kept {l : RateLimit} : Evolves clock (some l) l
  | started {slope maxOutflow : UInt64} {flows : List Flow} {l : RateLimit} :
      (RateLimit.init clock slope maxOutflow).Steps clock flows l → Evolves clock none l
  | booked {flows : List Flow} {l l' : RateLimit} :
      l.Steps clock flows l' → Evolves clock (some l) l'
  | updated {slope maxOutflow : Option UInt64} {l l' : RateLimit} :
      l.updateLimits clock slope maxOutflow = .ok l' → Evolves clock (some l) l'

/-- The limiter of what is, or is not, at an address. -/
def limiterOf (a : Option KeelAccount) : Option RateLimit :=
  (a.bind KeelAccount.limiter?).map Prod.snd

omit [Chain] in
theorem limiterOf_reserve {r : Reserve} (h : w.keel k = some (.reserve r)) :
    limiterOf (w.keel k) = some r.toRateLimit := by
  rw [h]
  rfl

omit [Chain] in
theorem limiterOf_integration {i : Integration} (h : w.keel k = some (.integration i)) :
    limiterOf (w.keel k) = some i.toRateLimit := by
  rw [h]
  rfl

/-- **Every limiter evolves in these ways**, and never goes away. -/
theorem Change.evolves {old : Option KeelAccount} {l : RateLimit}
    (h : Change tx accounts data w w' es k old new) (hl : limiterOf new = some l) :
    RateLimit.Evolves w.clock (limiterOf old) l := by
  cases h with
  | same =>
    rw [hl]
    exact .kept
  | newReserve _ _ _ _ _ _ hinit hbooked =>
    obtain rfl := Option.some.inj hl
    obtain ⟨slope, maxOutflow, hinit⟩ := hinit
    exact .started (hinit ▸ hbooked.steps)
  | manageReserve _ _ _ _ _ hupdate =>
    obtain rfl := Option.some.inj hl
    simp only [Reserve.update, except_bind_ok, except_pure_ok] at hupdate
    obtain ⟨l', hl', rfl⟩ := hupdate
    exact .updated hl'
  | bookReserve _ _ hbooked =>
    obtain rfl := Option.some.inj hl
    exact .booked hbooked.steps
  | swapReserve _ _ _ hbooked =>
    obtain rfl := Option.some.inj hl
    exact .booked hbooked.steps
  | newIntegration _ _ _ _ _ hinit =>
    obtain rfl := Option.some.inj hl
    obtain ⟨slope, maxOutflow, hinit⟩ := hinit
    rw [hinit]
    exact .started .nil
  | manageIntegration _ _ _ _ _ hupdate =>
    obtain rfl := Option.some.inj hl
    simp only [Integration.update, except_bind_ok, except_pure_ok] at hupdate
    obtain ⟨l', hl', rfl⟩ := hupdate
    exact .updated hl'
  | bookIntegration _ _ _ hbooked =>
    obtain rfl := Option.some.inj hl
    exact .booked hbooked.steps
  | lendIntegration _ _ hbooked =>
    obtain rfl := Option.some.inj hl
    exact .booked hbooked.steps
  | repayIntegration _ _ _ hbooked =>
    obtain rfl := Option.some.inj hl
    exact .booked hbooked.steps
  | resetIntegration =>
    obtain rfl := Option.some.inj hl
    exact .kept
  -- no other account has a limiter
  | _ => cases hl

/-! ## Setting the limits -/

omit [Chain] in
/-- A new slope applies from now on, so it changes nothing that was earned. -/
theorem RateLimit.updateLimits_credit_le {l l' : RateLimit} {clock : Clock}
    {slope : Option UInt64} (ht : l.Timely clock.unixTimestamp.toInt)
    (h : l.updateLimits clock slope none = .ok l') :
    l'.Timely clock.unixTimestamp.toInt ∧
      l'.credit clock.unixTimestamp.toInt ≤ l.credit clock.unixTimestamp.toInt := by
  simp only [updateLimits, except_bind_ok, except_pure_ok] at h
  obtain ⟨refreshed, hrefresh, rfl⟩ := h
  have hts := (refreshRateLimit_isRefreshed hrefresh).1
  have htimely : refreshed.Timely clock.unixTimestamp.toInt := refresh_timely ht hrefresh
  refine ⟨htimely, ?_⟩
  have hle := refresh_credit_le ht hrefresh
  simp only [credit, hts, sub_self, mul_zero] at hle ⊢
  exact hle

/-- The instruction sets no maximum on the account at `k`. -/
def KeepsMaxOutflow (accounts : List AccountMeta) (data : List UInt8) (k : Pubkey) : Prop :=
  accounts[4]?.map AccountMeta.pubkey = some k →
    (∀ args : ManageReserveArgs, data = 5 :: Borsh.write args → args.rateLimitMaxOutflow = none) ∧
    (∀ args : ManageIntegrationArgs, data = 7 :: Borsh.write args →
      args.rateLimitMaxOutflow = none)

/-- What one instruction does to the limiter of an account: it lets out no more than the
    credit pays for. -/
def PaysFor (clock : Clock) (flows : List Flow) (l l' : RateLimit) : Prop :=
  l.Timely clock.unixTimestamp.toInt → l'.Timely clock.unixTimestamp.toInt ∧
    l'.credit clock.unixTimestamp.toInt + SECONDS_PER_DAY * authorizedOut flows ≤
      l.credit clock.unixTimestamp.toInt + SECONDS_PER_DAY * totalIn flows

omit [Chain] in
theorem PaysFor.of_steps {clock : Clock} {flows : List Flow} {l l' : RateLimit}
    (h : l.Steps clock flows l') : PaysFor clock flows l l' :=
  fun ht => ⟨h.timely ht, h.credit_le ht⟩

omit [Chain] in
theorem PaysFor.of_update {clock : Clock} {slope : Option UInt64} {l l' : RateLimit}
    (h : l.updateLimits clock slope none = .ok l') : PaysFor clock [] l l' := by
  intro ht
  obtain ⟨ht', hle⟩ := RateLimit.updateLimits_credit_le ht h
  refine ⟨ht', ?_⟩
  simpa using hle

/-- **Every instruction pays for what it lets out of a metered account.** -/
theorem Change.meters {a : KeelAccount} {id : LimiterId} {l : RateLimit} (hs : SwapsDistinct w)
    (hl : a.limiter? = some (id, l)) (hid : id.address = some k)
    (hkeeps : KeepsMaxOutflow accounts data k)
    (h : Change tx accounts data w w' es k (some a) new) :
    ∃ a' l', new = some a' ∧ a'.limiter? = some (id, l') ∧
      PaysFor w.clock (flowsOf id es) l l' := by
  have hsame : Silent k es → PaysFor w.clock (flowsOf id es) l l := by
    intro hsilent
    rw [hsilent.flows id hid]
    exact .of_steps .nil
  cases a with
  | reserve r =>
    obtain ⟨rfl, rfl⟩ := Prod.mk.inj (Option.some.inj hl)
    cases h with
    | same hsilent => exact ⟨_, _, rfl, rfl, hsame hsilent⟩
    | manageReserve hsilent hdata hnamed _ _ hupdate =>
      rw [(hkeeps hnamed).1 _ hdata] at hupdate
      simp only [Reserve.update, except_bind_ok, except_pure_ok] at hupdate
      obtain ⟨l', hl', rfl⟩ := hupdate
      refine ⟨_, l', rfl, rfl, ?_⟩
      rw [hsilent.flows _ hid]
      exact .of_update hl'
    | bookReserve _ _ hbooked =>
      refine ⟨_, _, rfl, ?_, .of_steps hbooked.steps⟩
      rw [KeelAccount.limiter?, hbooked.limiterId_eq]
    | swapReserve _ _ _ hbooked hflows =>
      rw [hflows hs] at hbooked
      refine ⟨_, _, rfl, ?_, .of_steps hbooked.steps⟩
      rw [KeelAccount.limiter?, hbooked.limiterId_eq]
  | integration i =>
    obtain ⟨rfl, rfl⟩ := Prod.mk.inj (Option.some.inj hl)
    have hbook : ∀ {i' : Integration}, Integration.Booked w.clock (flowsOf i.limiterId es) i i' →
        ∃ a' l', some (KeelAccount.integration i') = some a' ∧
          a'.limiter? = some (i.limiterId, l') ∧
            PaysFor w.clock (flowsOf i.limiterId es) i.toRateLimit l' := by
      intro i' hbooked
      refine ⟨_, _, rfl, ?_, .of_steps hbooked.steps⟩
      rw [KeelAccount.limiter?, hbooked.limiterId_eq]
    cases h with
    | same hsilent => exact ⟨_, _, rfl, rfl, hsame hsilent⟩
    | manageIntegration hsilent hdata hnamed _ _ hupdate =>
      rw [(hkeeps hnamed).2 _ hdata] at hupdate
      simp only [Integration.update, except_bind_ok, except_pure_ok] at hupdate
      obtain ⟨l', hl', rfl⟩ := hupdate
      refine ⟨_, l', rfl, rfl, ?_⟩
      rw [hsilent.flows _ hid]
      exact .of_update hl'
    | bookIntegration _ _ _ hbooked => exact hbook hbooked
    | lendIntegration _ _ hbooked => exact hbook hbooked
    | repayIntegration _ _ _ hbooked => exact hbook hbooked
    | resetIntegration hsilent => exact ⟨_, _, rfl, rfl, hsame hsilent⟩
  | _ => cases hl

/-! ## The maximum -/

section Maximum

omit [Chain]

variable {clock : Clock} {l l' : RateLimit} {flows : List Flow}

/-- No more is available than the maximum. -/
def RateLimit.Capped (l : RateLimit) : Prop :=
  l.rateLimitOutflowAmountAvailable.toNat ≤ l.rateLimitMaxOutflow.toNat

theorem RateLimit.Capped.init {slope maxOutflow : UInt64} :
    (RateLimit.init clock slope maxOutflow).Capped := Nat.le_refl maxOutflow.toNat

theorem RateLimit.Capped.refresh (h : l.Capped) (hrefresh : l.refreshRateLimit clock = .ok l') :
    l'.Capped := by
  rcases refreshRateLimit_ok hrefresh with ⟨-, -, _, _, -, _, rfl, rfl⟩ | ⟨-, rfl⟩
  · show UInt64.toNat (min _ _) ≤ l.rateLimitMaxOutflow.toNat
    rw [UInt64.toNat_min]
    exact min_le_right _ _
  · exact h

theorem RateLimit.Capped.steps (h : l.Capped) (hsteps : l.Steps clock flows l') : l'.Capped := by
  induction hsteps with
  | nil => exact h
  | refresh _ hrefresh ih => exact ih.refresh hrefresh
  | inflow _ hinflow ih =>
    obtain ⟨-, rfl⟩ := inflow_ok hinflow
    unfold Capped
    rw [UInt64.toNat_min]
    exact min_le_left _ _
  | outflow _ houtflow ih =>
    obtain ⟨-, available, rfl, hle, -⟩ := outflow_ok houtflow
    exact Nat.le_trans hle ih

theorem RateLimit.Capped.updated {slope maxOutflow : Option UInt64} (h : l.Capped)
    (hupdate : l.updateLimits clock slope maxOutflow = .ok l') : l'.Capped := by
  simp only [updateLimits, except_bind_ok] at hupdate
  obtain ⟨refreshed, hrefresh, hupdate⟩ := hupdate
  cases maxOutflow with
  | none =>
    obtain rfl := except_pure_ok.mp hupdate
    have hcapped : refreshed.Capped := h.refresh hrefresh
    exact hcapped
  | some m =>
    simp only [setMaxOutflow, except_bind_ok, except_pure_ok] at hupdate
    obtain ⟨gap, -, rfl⟩ := hupdate
    unfold Capped
    rw [UInt64.toNat_saturatingSub]
    exact Nat.sub_le _ _

theorem RateLimit.Evolves.capped {old : Option RateLimit} (h : RateLimit.Evolves clock old l)
    (hold : ∀ l, old = some l → l.Capped) : l.Capped := by
  cases h with
  | kept => exact hold _ rfl
  | started hsteps => exact RateLimit.Capped.init.steps hsteps
  | booked hsteps => exact (hold _ rfl).steps hsteps
  | updated hupdate => exact (hold _ rfl).updated hupdate

end Maximum

/-- **No limiter ever exceeds its maximum**, whatever the clock does. -/
theorem Reachable.capped {l : RateLimit} (h : Reachable w) (hl : limiterOf (w.keel k) = some l) :
    l.Capped := by
  obtain ⟨w₀, steps, hgenesis, htrace⟩ := h
  have hcapped : ∀ k l, limiterOf (w.keel k) = some l → l.Capped := by
    refine htrace.invariant (I := fun w => ∀ k l, limiterOf (w.keel k) = some l → l.Capped) ?_ ?_
    · intro w₁ m w₂ hcapped hmove k l hl
      rcases hmove.cases with ⟨_, _, _, _, -, heffect⟩ | ⟨-, hsame⟩
      · exact ((heffect.changes k).evolves hl).capped (hcapped k)
      · rw [hsame.keel] at hl
        exact hcapped k l hl
    · intro k l hl
      rw [hgenesis.keel] at hl
      cases hl
  exact hcapped k l hl

end AlmController
