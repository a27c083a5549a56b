import AlmController.Ledger

/-!
# Metered flows

The limiter's flow updates as the processors call them, each leaving a record of
what was booked on which account, and `sync_balance`, which brings a reserve in
line with its vault.
-/

namespace AlmController

open Prog

/-! ## Flows -/

def Reserve.limiterId (self : Reserve) : LimiterId := .reserve self.controller self.mint

def Integration.limiterId (self : Integration) : LimiterId :=
  .integration self.controller self.hash

/-- `reserve.update_for_inflow(clock, inflow)?`. -/
def Reserve.recordInflow (self : Reserve) (clock : Clock) (inflow : UInt64) : Ix Reserve := do
  let reserve ← ofExcept (self.updateForInflow clock inflow)
  record (.flow self.limiterId .inflow inflow)
  return reserve

/-- `reserve.update_for_outflow(clock, outflow, allow_underflow)?`. -/
def Reserve.recordOutflow (self : Reserve) (clock : Clock) (outflow : UInt64)
    (allowUnderflow : Bool) : Ix Reserve := do
  let reserve ← ofExcept (self.updateForOutflow clock outflow allowUnderflow)
  record (.flow self.limiterId (.outflow allowUnderflow) outflow)
  return reserve

/-- `integration.update_rate_limit_for_inflow(clock, inflow)?`. -/
def Integration.recordInflow (self : Integration) (clock : Clock) (inflow : UInt64) :
    Ix Integration := do
  let integration ← ofExcept (self.updateRateLimitForInflow clock inflow)
  record (.flow self.limiterId .inflow inflow)
  return integration

/-- `integration.update_rate_limit_for_outflow(clock, outflow)?`. -/
def Integration.recordOutflow (self : Integration) (clock : Clock) (outflow : UInt64) :
    Ix Integration := do
  let integration ← ofExcept (self.updateRateLimitForOutflow clock outflow)
  record (.flow self.limiterId (.outflow false) outflow)
  return integration

section Flows

variable {w w' : World} {clock : Clock} {n : UInt64} {allow : Bool} {r r' : Reserve}
  {i i' : Integration}

theorem Reserve.recordInflow_ok :
    r.recordInflow clock n w = .ok (r', w') ↔
      r.updateForInflow clock n = .ok r' ∧ w.addLog (.flow r.limiterId .inflow n) = w' := by
  simp only [recordInflow, bind_ok, ofExcept_ok, record_ok, pure_ok]
  constructor
  · rintro ⟨_, _, ⟨h, rfl⟩, _, _, rfl, rfl, rfl⟩
    exact ⟨h, rfl⟩
  · rintro ⟨h, rfl⟩
    exact ⟨r', w, ⟨h, rfl⟩, (), _, rfl, rfl, rfl⟩

theorem Reserve.recordOutflow_ok :
    r.recordOutflow clock n allow w = .ok (r', w') ↔
      r.updateForOutflow clock n allow = .ok r' ∧
        w.addLog (.flow r.limiterId (.outflow allow) n) = w' := by
  simp only [recordOutflow, bind_ok, ofExcept_ok, record_ok, pure_ok]
  constructor
  · rintro ⟨_, _, ⟨h, rfl⟩, _, _, rfl, rfl, rfl⟩
    exact ⟨h, rfl⟩
  · rintro ⟨h, rfl⟩
    exact ⟨r', w, ⟨h, rfl⟩, (), _, rfl, rfl, rfl⟩

theorem Integration.recordInflow_ok :
    i.recordInflow clock n w = .ok (i', w') ↔
      i.updateRateLimitForInflow clock n = .ok i' ∧
        w.addLog (.flow i.limiterId .inflow n) = w' := by
  simp only [recordInflow, bind_ok, ofExcept_ok, record_ok, pure_ok]
  constructor
  · rintro ⟨_, _, ⟨h, rfl⟩, _, _, rfl, rfl, rfl⟩
    exact ⟨h, rfl⟩
  · rintro ⟨h, rfl⟩
    exact ⟨i', w, ⟨h, rfl⟩, (), _, rfl, rfl, rfl⟩

theorem Integration.recordOutflow_ok :
    i.recordOutflow clock n w = .ok (i', w') ↔
      i.updateRateLimitForOutflow clock n = .ok i' ∧
        w.addLog (.flow i.limiterId (.outflow false) n) = w' := by
  simp only [recordOutflow, bind_ok, ofExcept_ok, record_ok, pure_ok]
  constructor
  · rintro ⟨_, _, ⟨h, rfl⟩, _, _, rfl, rfl, rfl⟩
    exact ⟨h, rfl⟩
  · rintro ⟨h, rfl⟩
    exact ⟨i', w, ⟨h, rfl⟩, (), _, rfl, rfl, rfl⟩

end Flows

/-! ## Syncing a reserve with its vault -/

variable [Chain]

/-- The event of a sync that found a difference. -/
def Reserve.syncEvent (self : Reserve) (reserveKey : Pubkey) (delta : UInt64)
    (direction : AccountingDirection) : SvmAlmControllerEvent :=
  .AccountingEvent
    { controller := self.controller
      integration := none
      reserve := some reserveKey
      mint := self.mint
      action := .Sync
      delta := delta
      direction := direction }

/-- `sync_balance`: refresh the limiter, then book the difference between the vault
    and the last recorded balance as an inflow, or as an outflow that may exceed
    what is available. -/
def Reserve.syncBalance (self : Reserve) (vault : AccountMeta)
    (controllerAuthority controllerKey : Pubkey) (controller : Controller) : Ix Reserve := do
  rejectIf (vault.pubkey ≠ self.vault) (.program .InvalidAccountData)
  rejectIf (controllerKey ≠ self.controller)
    (SvmAlmControllerErrors.ControllerDoesNotMatchAccountData : Error)
  let clock ← read World.clock
  let refreshed ← ofExcept (self.refreshRateLimit clock)
  let vaultAccount ← TokenAccount.fromAccountInfo vault.pubkey
  let newBalance := vaultAccount.amount
  if self.lastBalance = newBalance then return refreshed
  else do
    let absDelta := newBalance.absDiff self.lastBalance
    let (pda, _) ← ofExcept (findAddress self.seeds ID)
    if self.lastBalance < newBalance then do
      let reserve ← refreshed.recordInflow clock absDelta
      emitEvent controller controllerAuthority controllerKey (self.syncEvent pda absDelta .Credit)
      return reserve
    else do
      -- possible with Token2022 and a permanent delegate: allow the underflow
      let reserve ← refreshed.recordOutflow clock absDelta true
      emitEvent controller controllerAuthority controllerKey (self.syncEvent pda absDelta .Debit)
      return reserve

/-- The three ways a sync ends: nothing to book, an inflow, or an outflow. -/
inductive Reserve.Synced (k : Pubkey) (amount : UInt64) (w : World) :
    Reserve → Reserve → World → Prop
  | unchanged {r refreshed : Reserve} :
      r.refreshRateLimit w.clock = .ok refreshed → r.lastBalance = amount →
        Synced k amount w r refreshed w
  | credit {r refreshed r' : Reserve} :
      r.refreshRateLimit w.clock = .ok refreshed → r.lastBalance < amount →
        refreshed.updateForInflow w.clock (amount.absDiff r.lastBalance) = .ok r' →
        Synced k amount w r r'
          ((w.addLog (.flow r.limiterId .inflow (amount.absDiff r.lastBalance))).addLog
            (.event (r.syncEvent k (amount.absDiff r.lastBalance) .Credit)))
  | debit {r refreshed r' : Reserve} :
      r.refreshRateLimit w.clock = .ok refreshed → amount < r.lastBalance →
        refreshed.updateForOutflow w.clock (amount.absDiff r.lastBalance) true = .ok r' →
        Synced k amount w r r'
          ((w.addLog (.flow r.limiterId (.outflow true) (amount.absDiff r.lastBalance))).addLog
            (.event (r.syncEvent k (amount.absDiff r.lastBalance) .Debit)))

omit [Chain] in
theorem Reserve.refreshRateLimit_limiterId {r r' : Reserve} {clock : Clock}
    (h : r.refreshRateLimit clock = .ok r') : r'.limiterId = r.limiterId := by
  simp only [refreshRateLimit, except_bind_ok, except_pure_ok] at h
  obtain ⟨_, _, rfl⟩ := h
  rfl

theorem Reserve.syncBalance_ok {r r' : Reserve} {vault : AccountMeta} {authority ck k : Pubkey}
    {c : Controller} {w w' : World} (hk : pdaOf r.seeds = some k)
    (h : r.syncBalance vault authority ck c w = .ok (r', w')) :
    vault.pubkey = r.vault ∧ ck = r.controller ∧ ∃ t, w.bank.token? r.vault = some t ∧
      w.keel r.vault = none ∧ Reserve.Synced k t.amount w r r' w' := by
  simp only [syncBalance, bind_ok, rejectIf_ok, read_ok, ofExcept_ok, ite_ok, pure_ok, not_not,
    recordInflow_ok, recordOutflow_ok, findAddress, okOr_ok] at h
  obtain ⟨_, _, ⟨hvault, rfl⟩, _, _, ⟨hctl, rfl⟩, _, _, ⟨rfl, rfl⟩, refreshed, _, ⟨hrefresh, rfl⟩,
    t, _, ht, h⟩ := h
  obtain ⟨rfl, hkeel, ht⟩ := TokenAccount.fromAccountInfo_ok ht
  rw [hvault] at hkeel ht
  refine ⟨hvault, hctl, t, ht, hkeel, ?_⟩
  rcases h with ⟨heq, rfl, rfl⟩ | ⟨hne, p, _, ⟨hp, rfl⟩, h⟩
  · exact .unchanged hrefresh heq
  obtain rfl : p.1 = k := by simpa [pdaOf, hp] using hk
  rcases h with ⟨hlt, _, _, ⟨hflow, rfl⟩, _, _, hemit, rfl, rfl⟩ |
    ⟨hge, _, _, ⟨hflow, rfl⟩, _, _, hemit, rfl, rfl⟩
  · obtain ⟨-, rfl⟩ := emitEvent_ok hemit
    rw [refreshRateLimit_limiterId hrefresh]
    exact .credit hrefresh hlt hflow
  · obtain ⟨-, rfl⟩ := emitEvent_ok hemit
    rw [refreshRateLimit_limiterId hrefresh]
    exact .debit hrefresh (by grind) hflow

/-- `transfer_tokens`: a checked transfer out of a vault, under the authority's
    signature. -/
def Controller.transferTokens (self : Controller) (controllerKey controllerAuthority vault
    recipientTokenAccount mint : Pubkey) (amount : UInt64) (decimals : UInt8)
    (tokenProgram : Pubkey) : Ix Unit :=
  invokeSigned
    (.transferChecked
      { fromAccount := vault
        mint := mint
        toAccount := recipientTokenAccount
        authority := controllerAuthority
        amount := amount
        decimals := decimals
        tokenProgram := tokenProgram })
    controllerKey self

end AlmController
