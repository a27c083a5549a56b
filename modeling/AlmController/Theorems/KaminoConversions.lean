import AlmController.Lib.Rounding
import AlmController.Simulator
import AlmController.Spec.Deeds

/-!
# Shares and liquidity of a Kamino reserve

The conversions compute with 60 fractional bits inside of 256-bit integers and shift up
and down in different orders. Where the supply itself was computed without wrapping,
they are the two floors of one exact rate, and no step of them overflows.

What this protects is the Pull. klend withdraws shares, and the caller of a Pull names an amount
of liquidity: the program converts it at the rate that the reserve account of klend holds, and
signs for the withdrawal of the result and for nothing else (`processPull_redeems`). Both
roundings go against the caller, so these shares are never worth more than the amount, neither
exactly nor by the conversion back. What klend then pays out for them is klend's affair, and
not covered here.
-/

namespace AlmController

open Prog

namespace KaminoReserve

variable {self : KaminoReserve} {c l : UInt64}

/-! ## The exact rate -/

/-- The fees that the supply excludes, scaled. -/
def feesSf (self : KaminoReserve) : ℕ :=
  self.liquidity.accumulatedProtocolFeesSf.toNat + self.liquidity.accumulatedReferrerFeesSf.toNat +
    self.liquidity.pendingReferrerFeesSf.toNat

/-- What is available and what is borrowed, scaled. -/
def assetsSf (self : KaminoReserve) : ℕ :=
  self.liquidity.availableAmount.toNat * 2 ^ 60 + self.liquidity.borrowedAmountSf.toNat

/-- No running sum of the supply leaves the 128 bits. -/
structure SupplyInRange (reserve : KaminoReserve) : Prop where
  assets : reserve.assetsSf < 2 ^ 128
  fees : reserve.feesSf ≤ reserve.assetsSf

/-- The collateral supply and the total supply, scaled; one to one when either is zero. -/
def exactRate (self : KaminoReserve) : ℕ × ℕ :=
  if self.mintTotalSupply.toNat = 0 ∨ self.assetsSf - self.feesSf = 0 then (1, 2 ^ 60)
  else (self.mintTotalSupply.toNat, self.assetsSf - self.feesSf)

/-- A sum and three differences, none of which wraps. -/
theorem toNat_running_sums {w a : ℕ} {b p q r : BitVec w} (hsum : a + b.toNat < 2 ^ w)
    (hle : p.toNat + q.toNat + r.toNat ≤ a + b.toNat) :
    (BitVec.ofNat w a + b - p - q - r).toNat = a + b.toNat - (p.toNat + q.toNat + r.toNat) := by
  have hfirst : (BitVec.ofNat w a).toNat = a := by
    rw [BitVec.toNat_ofNat, Nat.mod_eq_of_lt ((Nat.le_add_right _ _).trans_lt hsum)]
  have h₁ : (BitVec.ofNat w a + b).toNat = a + b.toNat := by
    rw [BitVec.toNat_add_of_lt (by rwa [hfirst]), hfirst]
  have h₂ : (BitVec.ofNat w a + b - p).toNat = a + b.toNat - p.toNat := by
    rw [BitVec.toNat_sub_of_le (by rw [BitVec.le_def, h₁]; omega), h₁]
  have h₃ : (BitVec.ofNat w a + b - p - q).toNat = a + b.toNat - p.toNat - q.toNat := by
    rw [BitVec.toNat_sub_of_le (by rw [BitVec.le_def, h₂]; omega), h₂]
  rw [BitVec.toNat_sub_of_le (by rw [BitVec.le_def, h₃]; omega), h₃]
  omega

/-- In range, the supply of the source is the one of the naturals. -/
theorem totalSupply_toNat (h : self.SupplyInRange) :
    self.totalSupply.toNat = self.assetsSf - self.feesSf := by
  rw [totalSupply, Nat.shiftLeft_eq]
  exact toNat_running_sums h.assets h.fees

/-- And so is its rate, with the same exception when either supply is zero. -/
theorem collateralExchangeRate_eq (h : self.SupplyInRange) :
    self.collateralExchangeRate = self.exactRate := by
  have hzero : self.mintTotalSupply = 0 ↔ self.mintTotalSupply.toNat = 0 :=
    UInt64.toNat_inj.symm
  simp only [collateralExchangeRate, exactRate, totalSupply_toNat h, hzero, FRAC_NBITS,
    Nat.shiftLeft_eq, Nat.one_mul]

/-- Neither side of the rate is zero, which is what the exception is for. -/
theorem exactRate_pos (self : KaminoReserve) : 0 < self.exactRate.1 ∧ 0 < self.exactRate.2 := by
  unfold exactRate
  split
  · exact ⟨Nat.one_pos, Nat.two_pow_pos 60⟩
  · rename_i h
    obtain ⟨hsupply, hliquidity⟩ := not_or.mp h
    exact ⟨Nat.pos_of_ne_zero hsupply, Nat.pos_of_ne_zero hliquidity⟩

/-- The shares fit in 64 bits, and the scaled liquidity in 128. -/
theorem exactRate_lt (h : self.SupplyInRange) :
    self.exactRate.1 < 2 ^ 64 ∧ self.exactRate.2 < 2 ^ 128 := by
  have hsupply := self.mintTotalSupply.toNat_lt_pow
  have hassets := h.assets
  unfold exactRate
  split
  · exact ⟨by decide, by decide⟩
  · exact ⟨hsupply, by omega⟩

/-! ## The two floors -/

/-- `floor(c · L / (S · 2^60))`. -/
def exactLiquidity (self : KaminoReserve) (c : ℕ) : ℕ :=
  c * self.exactRate.2 / (self.exactRate.1 * 2 ^ 60)

/-- `floor(l · S · 2^60 / L)`. -/
def exactCollateral (self : KaminoReserve) (l : ℕ) : ℕ :=
  l * (self.exactRate.1 * 2 ^ 60) / self.exactRate.2

/-- A quotient that fits in 64 bits leaves 60 more for the fraction. -/
theorem lt_of_shift_lt {n : ℕ} (h : n / 2 ^ 60 < 2 ^ 64) : n < 2 ^ 128 := by
  omega

/-- From shares to liquidity, rounded down. -/
theorem collateralToLiquidity_eq (h : self.SupplyInRange)
    (hfits : self.exactLiquidity c.toNat < 2 ^ 64) :
    ∃ r, self.collateralToLiquidity c = .ok r ∧ r.toNat = self.exactLiquidity c.toNat := by
  have hc := c.toNat_lt_pow
  obtain ⟨-, hlt⟩ := exactRate_lt h
  -- shifting the product back down is exact, and the two divisions are one
  have hproduct : c.toNat * 2 ^ 60 * self.exactRate.2 < 2 ^ 124 * 2 ^ 128 :=
    Nat.mul_lt_mul_of_lt_of_lt (by omega) hlt
  have hshift : c.toNat * 2 ^ 60 * self.exactRate.2 / 2 ^ 60 = c.toNat * self.exactRate.2 := by
    rw [Nat.mul_right_comm, Nat.mul_div_cancel _ (Nat.two_pow_pos 60)]
  have hfloor : c.toNat * self.exactRate.2 / self.exactRate.1 / 2 ^ 60 =
      self.exactLiquidity c.toNat := Nat.div_div_eq_div_mul _ _ _
  have hfraction : c.toNat * self.exactRate.2 / self.exactRate.1 < 2 ^ 128 :=
    lt_of_shift_lt (by rw [hfloor]; exact hfits)
  refine ⟨UInt64.ofNat (self.exactLiquidity c.toNat), ?_, ?_⟩
  · simp only [collateralToLiquidity, collateralExchangeRate_eq h, FRAC_NBITS, Nat.shiftLeft_eq,
      Nat.shiftRight_eq_div_pow, except_bind_ok, okOr_ok, except_pure_ok,
      Word.checkedUnsigned_eq_some]
    exact ⟨_, ⟨rfl, by omega⟩, _, ⟨rfl, by rw [hshift]; exact hfraction⟩, by rw [hshift, hfloor]⟩
  · rw [UInt64.toNat_ofNat', Nat.mod_eq_of_lt hfits]

/-- From liquidity to shares, rounded down. -/
theorem liquidityToCollateral_eq (h : self.SupplyInRange)
    (hfits : self.exactCollateral l.toNat < 2 ^ 64) :
    ∃ s, self.liquidityToCollateral l = .ok s ∧ s.toNat = self.exactCollateral l.toNat := by
  obtain ⟨-, hpos⟩ := self.exactRate_pos
  -- both shifts are by what the last one takes back, so they cancel in one division
  have hfloor : self.exactRate.1 * l.toNat * 2 ^ 60 * 2 ^ 60 / self.exactRate.2 / 2 ^ 60 =
      self.exactCollateral l.toNat := by
    rw [Nat.div_div_eq_div_mul, Nat.mul_div_mul_right _ _ (Nat.two_pow_pos 60), exactCollateral,
      ← Nat.mul_assoc, Nat.mul_comm l.toNat]
  have hfraction : self.exactRate.1 * l.toNat * 2 ^ 60 * 2 ^ 60 / self.exactRate.2 < 2 ^ 128 :=
    lt_of_shift_lt (by rw [hfloor]; exact hfits)
  refine ⟨UInt64.ofNat (self.exactCollateral l.toNat), ?_, ?_⟩
  · simp only [liquidityToCollateral, collateralExchangeRate_eq h, FRAC_NBITS, Nat.shiftLeft_eq,
      Nat.shiftRight_eq_div_pow, except_bind_ok, okOr_ok, Word.checkedUnsigned_eq_some]
    refine ⟨_, ⟨rfl, hfraction⟩, UInt64.tryFrom_eq_some.mpr ?_⟩
    rw [hfloor, UInt64.toNat_ofNat', Nat.mod_eq_of_lt hfits]
  · rw [UInt64.toNat_ofNat', Nat.mod_eq_of_lt hfits]

end KaminoReserve

/-! ## What a pull redeems -/

namespace KaminoReserve

variable {reserve : KaminoReserve} {l s : UInt64}

/-- Where the conversion to shares returns, it returns the floor: its last step checks the range. -/
theorem liquidityToCollateral_ok (h : reserve.SupplyInRange)
    (hs : reserve.liquidityToCollateral l = .ok s) :
    s.toNat = reserve.exactCollateral l.toNat := by
  simp only [liquidityToCollateral, collateralExchangeRate_eq h, FRAC_NBITS, Nat.shiftLeft_eq,
    Nat.shiftRight_eq_div_pow, except_bind_ok, okOr_ok, Word.checkedUnsigned_eq_some] at hs
  obtain ⟨_, ⟨rfl, -⟩, hs⟩ := hs
  rw [UInt64.tryFrom_eq_some.mp hs, exactCollateral, Nat.div_div_eq_div_mul,
    Nat.mul_div_mul_right _ _ (Nat.two_pow_pos 60), ← Nat.mul_assoc, Nat.mul_comm l.toNat]

/-- **The shares that an amount converts to are worth at most the amount.** -/
theorem liquidityToCollateral_worth (h : reserve.SupplyInRange)
    (hs : reserve.liquidityToCollateral l = .ok s) :
    s.toNat * reserve.exactRate.2 ≤ l.toNat * (reserve.exactRate.1 * 2 ^ 60) ∧
      ∃ r, reserve.collateralToLiquidity s = .ok r ∧ r ≤ l := by
  have hfloor := liquidityToCollateral_ok h hs
  -- what was rounded down and is converted back is rounded down twice
  have hback : reserve.exactLiquidity s.toNat ≤ l.toNat := by
    rw [hfloor]
    exact Rounding.round_trip_le (Nat.mul_pos reserve.exactRate_pos.1 (Nat.two_pow_pos 60))
  refine ⟨?_, ?_⟩
  · rw [hfloor]
    exact Nat.div_mul_le_self _ _
  · obtain ⟨r, hr, hreq⟩ := collateralToLiquidity_eq h (hback.trans_lt l.toNat_lt_pow)
    refine ⟨r, hr, ?_⟩
    rw [UInt64.le_iff_toNat_le, hreq]
    exact hback

end KaminoReserve

section Pull

variable [Chain]

variable {accounts : List AccountMeta} {w w' : World} {u : Unit} {amount : UInt64}
  {ctx : PushAccounts} {c : Controller} {p : Permission} {i i' : Integration} {r r' : Reserve}

/-- klend is asked once, for the shares of the amount at the rate its reserve has then. -/
theorem processPullKamino_redeems (hk : pdaOf r.seeds = some ctx.reserveA.pubkey)
    (h : processPullKamino c p i r ctx (.Kamino amount) w = .ok ((i', r'), w')) :
    ∃ es ix shares reserve, w'.log = w.log ++ es ∧
      signedCalls es = [(.kaminoWithdraw ix shares, ctx.controller.pubkey)] ∧
      (w.bank ix.kaminoReserve).data.kaminoReserve? = some reserve ∧
      reserve.liquidityToCollateral amount = .ok shares := by
  simp only [processPullKamino, bind_ok, ofOption_ok, ofExcept_ok, rejectIf_ok, read_ok,
    readData_ok, invokeSigned_ok, pure_ok, Integration.recordInflow_ok, Reserve.recordInflow_ok,
    PullArgs.kamino?_eq, Prod.mk.injEq, and_assoc, exists_and_left, exists_eq_left',
    exists_const] at h
  obtain ⟨_, hamount, -, -, innerCtx, _, haccounts, -, synced, w₁, hsync, found, w₂, hreport,
    h⟩ := h
  obtain ⟨-, reserve, hreserve, shares, hshares, tb, _, hbefore, _, ⟨_, -, bank, hwithdraw, rfl⟩,
    h⟩ := h
  obtain ⟨ta, _, hafter, valueAfter, _, hvalue, _, _, hevent, _, _, hevent', h⟩ := h
  obtain ⟨_, -, _, -, _, -, -, -, rfl⟩ := h
  -- what each call of the processor did, in its order
  obtain rfl := PullArgs.Kamino.inj hamount
  obtain ⟨rfl, -, -⟩ := PushPullKaminoAccounts.checkedFromAccounts_ok haccounts
  obtain ⟨-, -, t, -, -, hsynced⟩ := Reserve.syncBalance_ok hk hsync
  obtain ⟨es₁, hsync⟩ := hsynced.run
  obtain ⟨es₂, hreport, -⟩ := syncKaminoLiquidityValue_run hreport
  obtain ⟨rfl, -, -⟩ := TokenAccount.fromAccountInfo_ok hbefore
  obtain ⟨rfl, -, -⟩ := TokenAccount.fromAccountInfo_ok hafter
  obtain rfl := readOnly_getKaminoLendingBalance hvalue
  obtain ⟨-, rfl⟩ := emitEvent_ok hevent
  obtain ⟨-, rfl⟩ := emitEvent_ok hevent'
  -- the two syncs before the withdrawal only emit events
  rw [hreport.bank, hsync.bank] at hreserve
  -- the withdrawal is logged between what the syncs told and four more entries of its own
  have hgrows : Extends w w₂ (es₁ ++ es₂) := hsync.grows.trans hreport.grows
  refine ⟨_, innerCtx.liquidityAccounts ctx.controllerAuthority.pubkey, shares, reserve,
    (hgrows.invoke hwithdraw).addLog.addLog.addLog.addLog.log, ?_, hreserve, hshares⟩
  simp only [signedCalls_append, hsync.unsigned, hreport.unsigned]
  rfl

/-- **A Pull redeems the shares of its amount, and nothing else.** -/
theorem processPull_redeems
    (h : processPull accounts (Borsh.write (PullArgs.Kamino amount)) w = .ok (u, w')) :
    ∃ es ix shares ck reserve, w'.log = w.log ++ es ∧
      signedCalls es = [(.kaminoWithdraw ix shares, ck)] ∧
      (w.bank ix.kaminoReserve).data.kaminoReserve? = some reserve ∧
      reserve.liquidityToCollateral amount = .ok shares := by
  simp only [processPull, bind_ok, fromAccounts_ok, parseArgs_ok, save_ok, Prod.exists, and_assoc,
    exists_and_left, exists_eq_left', exists_const] at h
  obtain ⟨haccounts, ctx, hbind, args, hargs, c, p, refreshed, r, _, hload, i', r', w₁, hrun, -, -,
    -, -, rfl⟩ := h
  obtain rfl := Borsh.write_injective hargs
  -- before the processor, nothing is invoked
  obtain ⟨rfl, i, hparties, -⟩ := loadForFlow_ok haccounts hbind hload
  obtain ⟨es, ix, shares, reserve, hlog, hcalls, hreserve, hshares⟩ :=
    processPullKamino_redeems hparties.reserve.seeds hrun
  exact ⟨es, ix, shares, _, reserve, hlog, hcalls, hreserve, hshares⟩

end Pull

/-- **The conversions are exact, and round against the caller.** -/
theorem kamino_conversions_exact [Chain] {reserve : KaminoReserve} (h : reserve.SupplyInRange) :
    -- no intermediate step of either direction overflows
    (∀ c l : UInt64, c.toNat * 2 ^ 60 * reserve.exactRate.2 < 2 ^ 256 ∧
      reserve.exactRate.1 * l.toNat < 2 ^ 128 ∧
      reserve.exactRate.1 * l.toNat * 2 ^ 60 * 2 ^ 60 < 2 ^ 256) ∧
    -- each is the floor of the exact amount
    (∀ c : UInt64, reserve.exactLiquidity c.toNat < 2 ^ 64 →
      ∃ r, reserve.collateralToLiquidity c = .ok r ∧ r.toNat = reserve.exactLiquidity c.toNat) ∧
    (∀ l : UInt64, reserve.exactCollateral l.toNat < 2 ^ 64 →
      ∃ s, reserve.liquidityToCollateral l = .ok s ∧ s.toNat = reserve.exactCollateral l.toNat) ∧
    -- both are monotone
    (∀ {c c' r r' : UInt64}, c ≤ c' → reserve.exactLiquidity c'.toNat < 2 ^ 64 →
      reserve.collateralToLiquidity c = .ok r → reserve.collateralToLiquidity c' = .ok r' →
        r ≤ r') ∧
    (∀ {l l' s s' : UInt64}, l ≤ l' → reserve.exactCollateral l'.toNat < 2 ^ 64 →
      reserve.liquidityToCollateral l = .ok s → reserve.liquidityToCollateral l' = .ok s' →
        s ≤ s') ∧
    -- there and back
    (∀ l : UInt64, reserve.exactCollateral l.toNat < 2 ^ 64 →
      ∃ s r, reserve.liquidityToCollateral l = .ok s ∧ reserve.collateralToLiquidity s = .ok r ∧
        (l.toNat : ℚ) - reserve.exactRate.2 / (reserve.exactRate.1 * 2 ^ 60) - 1 < r.toNat ∧
        r ≤ l) ∧
    -- a Pull redeems what its amount converts to, which is worth at most the amount
    (∀ {accounts : List AccountMeta} {w w' : World} {u : Unit} {amount : UInt64},
      processPull accounts (Borsh.write (PullArgs.Kamino amount)) w = .ok (u, w') →
        ∃ es ix shares ck state, w'.log = w.log ++ es ∧
          signedCalls es = [(.kaminoWithdraw ix shares, ck)] ∧
          (w.bank ix.kaminoReserve).data.kaminoReserve? = some state ∧
          state.liquidityToCollateral amount = .ok shares ∧
          (state.SupplyInRange →
            shares.toNat * state.exactRate.2 ≤ amount.toNat * (state.exactRate.1 * 2 ^ 60) ∧
            ∃ r, state.collateralToLiquidity shares = .ok r ∧ r ≤ amount)) := by
  obtain ⟨hsupply, hliquidity⟩ := KaminoReserve.exactRate_lt h
  obtain ⟨hS, hL⟩ := reserve.exactRate_pos
  have hp : 0 < reserve.exactRate.1 * 2 ^ 60 := Nat.mul_pos hS (Nat.two_pow_pos 60)
  refine ⟨?_, fun c => KaminoReserve.collateralToLiquidity_eq h,
    fun l => KaminoReserve.liquidityToCollateral_eq h, ?_, ?_, ?_, ?_⟩
  · intro c l
    -- the widest products are of 64 and 60 and 128 bits
    have hproduct : c.toNat * 2 ^ 60 * reserve.exactRate.2 < 2 ^ 124 * 2 ^ 128 :=
      Nat.mul_lt_mul_of_lt_of_lt (by have := c.toNat_lt_pow; omega) hliquidity
    have hscaled : reserve.exactRate.1 * l.toNat < 2 ^ 64 * 2 ^ 64 :=
      Nat.mul_lt_mul_of_lt_of_lt hsupply l.toNat_lt_pow
    omega
  -- a floor of a larger amount is no smaller, at one rate
  · intro c c' r r' hle hfits hr hr'
    have hmono : reserve.exactLiquidity c.toNat ≤ reserve.exactLiquidity c'.toNat :=
      Rounding.floor_mono (UInt64.le_iff_toNat_le.mp hle)
    obtain ⟨_, hc, heq⟩ := KaminoReserve.collateralToLiquidity_eq h (hmono.trans_lt hfits)
    obtain ⟨_, hc', heq'⟩ := KaminoReserve.collateralToLiquidity_eq h hfits
    rw [hr] at hc
    rw [hr'] at hc'
    obtain rfl := Except.ok.inj hc
    obtain rfl := Except.ok.inj hc'
    rw [UInt64.le_iff_toNat_le, heq, heq']
    exact hmono
  · intro l l' s s' hle _ hs hs'
    rw [UInt64.le_iff_toNat_le, KaminoReserve.liquidityToCollateral_ok h hs,
      KaminoReserve.liquidityToCollateral_ok h hs']
    exact Rounding.floor_mono (UInt64.le_iff_toNat_le.mp hle)
  · intro l hfits
    obtain ⟨s, hs, hseq⟩ := KaminoReserve.liquidityToCollateral_eq h hfits
    have hback : reserve.exactLiquidity s.toNat ≤ l.toNat := by
      rw [hseq]
      exact Rounding.round_trip_le hp
    obtain ⟨r, hr, hreq⟩ := KaminoReserve.collateralToLiquidity_eq h
      (hback.trans_lt l.toNat_lt_pow)
    refine ⟨s, r, hs, hr, ?_, ?_⟩
    -- the loss is one unit, and what one share is worth at most
    · have hloss := Rounding.lt_round_trip (x := l.toNat) hp hL
      rw [hreq, hseq]
      push_cast at hloss
      exact hloss
    · rw [UInt64.le_iff_toNat_le, hreq]
      exact hback
  · intro accounts w w' u amount hpull
    obtain ⟨es, ix, shares, ck, state, hlog, hcalls, hstate, hshares⟩ := processPull_redeems hpull
    refine ⟨es, ix, shares, ck, state, hlog, hcalls, hstate, hshares, ?_⟩
    intro hrange
    exact KaminoReserve.liquidityToCollateral_worth hrange hshares

namespace Simulator

/-- klend pays what the shares are worth at its reserve's rate, and takes them off the
    obligation. -/
def kaminoWithdraw (bank : Bank) (ix : KaminoLiquidityAccounts) (shares : UInt64) :
    Option Bank := do
  let reserve ← (bank ix.kaminoReserve).data.kaminoReserve?
  let obligation ← (bank ix.obligation).data.obligation?
  let paid ← (reserve.collateralToLiquidity shares).toOption
  let moved ← moveTokens bank ix.reserveLiquiditySupply ix.userLiquidity paid
  let deposits := obligation.deposits.map fun d =>
    if d.depositReserve = ix.kaminoReserve then
      { d with depositedAmount := d.depositedAmount - shares }
    else d
  setOther moved ix.obligation
    { moved ix.obligation with data := .obligation { obligation with deposits := deposits } }

/-- The small chain, with this withdrawal. -/
@[reducible] def kaminoChain : Chain :=
  { chain with
    invoke := fun _ call signers bank =>
      match call with
      | .kaminoWithdraw ix shares => kaminoWithdraw bank ix shares
      | call => invoke bank signers call }

def kaminoMarket : Pubkey := 0x70000
def kaminoReserveKey : Pubkey := 0x71000
def obligationKey : Pubkey := 0x72000
def kaminoSupply : Pubkey := 0x7300A
def kaminoShares : Pubkey := 0x74000
def kaminoSharesSupply : Pubkey := 0x75000
def marketAuthorityKey : Pubkey :=
  derived (marketAuthoritySeeds kaminoMarket) KAMINO_LEND_PROGRAM_ID

def kaminoConfig : KaminoConfig where
  market := kaminoMarket
  reserve := kaminoReserveKey
  reserveLiquidityMint := mintA
  obligation := obligationKey
  obligationId := 0
  padding := 0

def kaminoKey : Pubkey := integrationKey (.Kamino kaminoConfig)

def kaminoIntegration : Integration :=
  { swapIntegration with
    hash := (IntegrationConfig.Kamino kaminoConfig).hash
    config := .Kamino kaminoConfig
    state := .Kamino ⟨0, 0⟩ }

/-- One million available and three million borrowed, against two million shares. -/
def doubledReserve : KaminoReserve where
  lastUpdate := ⟨0, 0, 0⟩
  lendingMarket := kaminoMarket
  farmCollateral := 0
  liquidity := ⟨0, 1000000, BitVec.ofNat 128 (3000000 * 2 ^ 60), 0, 0, 0⟩
  mintTotalSupply := 2000000

/-- Who holds five thousand of them. -/
def kaminoObligation : Obligation where
  lendingMarket := kaminoMarket
  owner := authorityKey
  deposits := (Vector.replicate 8 ⟨0, 0⟩).set 0 ⟨kaminoReserveKey, 5000⟩

/-- What stands on the chain: two mints with a market, a feed, and klend. -/
def kaminoAccounts : List (Pubkey × ExtAccount) :=
  [(payer, ⟨SYSTEM_PROGRAM_ID, 1000, .bytes []⟩), (mintA, mintAccount), (mintB, mintAccount),
    (marketA, tokenAccount mintA market 10000), (marketB, tokenAccount mintB market 10000),
    (feed, ⟨SWITCHBOARD_ON_DEMAND_PROGRAM_ID, 1, .pullFeed ⟨0, 100⟩⟩),
    (kaminoMarket, ⟨KAMINO_LEND_PROGRAM_ID, 1, .bytes []⟩),
    (kaminoReserveKey, ⟨KAMINO_LEND_PROGRAM_ID, 1, .kaminoReserve doubledReserve⟩),
    (obligationKey, ⟨KAMINO_LEND_PROGRAM_ID, 1, .obligation kaminoObligation⟩),
    (kaminoSupply, tokenAccount mintA marketAuthorityKey 1000000),
    (kaminoShares, ⟨TOKEN_PROGRAM_ID, 1, .bytes []⟩),
    (kaminoSharesSupply, ⟨TOKEN_PROGRAM_ID, 1, .bytes []⟩)]

/-- The two reserves, and an integration with klend. -/
def kaminoWorld : World :=
  ((genesis kaminoAccounts).play setup).setKeel kaminoKey (.integration kaminoIntegration)

/-- Without a farm: klend's own address stands for none. -/
def pullKamino : List AccountMeta :=
  [plain controllerKey, plain authorityKey, signing operator, plain (permissionKey operator),
    plain kaminoKey, plain (reserveKey mintA), plain ID, plain (vaultKey mintA),
    plain obligationKey, plain kaminoReserveKey, plain mintA, plain kaminoSupply,
    plain kaminoShares, plain kaminoSharesSupply, plain marketAuthorityKey, plain kaminoMarket,
    plain TOKEN_PROGRAM_ID, plain TOKEN_PROGRAM_ID, plain INSTRUCTIONS_ID,
    plain KAMINO_LEND_PROGRAM_ID, plain 0, plain KAMINO_FARMS_PROGRAM_ID,
    plain KAMINO_LEND_PROGRAM_ID]

/-- The state after a Pull of 2001. -/
def pulledKamino : Option World :=
  match @processPull kaminoChain pullKamino (Borsh.write (PullArgs.Kamino 2001)) kaminoWorld with
  | .ok (_, w') => some w'
  | .error _ => none

/-- The shares that an invocation withdraws. -/
def redeemed : Cpi → Option UInt64
  | .kaminoWithdraw _ shares => some shares
  | _ => none

end Simulator

open Simulator

/-- There and back, 2001 tokens are a thousand shares and 2000 tokens; a Pull of 2001 redeems the
    thousand, and klend pays the 2000 into the vault that held 500. -/
theorem kamino_conversions_exact_doubled :
    (∃ s r, doubledReserve.liquidityToCollateral 2001 = .ok s ∧
      doubledReserve.collateralToLiquidity s = .ok r ∧
        ((2001 : UInt64).toNat : ℚ) - doubledReserve.exactRate.2 /
          (doubledReserve.exactRate.1 * 2 ^ 60) - 1 < r.toNat ∧ r ≤ 2001) ∧
    ∃ w' es ix ck,
      @processPull kaminoChain pullKamino (Borsh.write (PullArgs.Kamino 2001)) kaminoWorld =
        .ok ((), w') ∧ w'.bank.tokenAmount (vaultKey mintA) = 2500 ∧
      w'.log = kaminoWorld.log ++ es ∧ signedCalls es = [(.kaminoWithdraw ix 1000, ck)] := by
  have hexact := @kamino_conversions_exact kaminoChain doubledReserve ⟨by decide, by decide⟩
  obtain ⟨-, -, -, -, -, hround, hpull⟩ := hexact
  refine ⟨hround 2001 (by decide), ?_⟩
  have hrun : pulledKamino.map (fun w => (w.bank.tokenAmount (vaultKey mintA),
      (signedCalls w.log).getLast?.bind fun s => redeemed s.1)) = some (2500, some 1000) := by
    decide +kernel
  obtain ⟨w', hpulled, hfound⟩ := Option.map_eq_some_iff.mp hrun
  have hok : @processPull kaminoChain pullKamino (Borsh.write (PullArgs.Kamino 2001)) kaminoWorld =
      .ok ((), w') := by
    unfold pulledKamino at hpulled
    split at hpulled
    · rename_i heq
      rw [heq, Option.some.inj hpulled]
    · cases hpulled
  obtain ⟨es, ix, shares, ck, state, hlog, hcalls, -⟩ := hpull hok
  obtain ⟨hamount, hshares⟩ := Prod.mk.inj hfound
  have hlast : (signedCalls w'.log).getLast? = some (.kaminoWithdraw ix shares, ck) := by
    rw [hlog, signedCalls_append, hcalls, List.getLast?_concat]
  rw [hlast] at hshares
  obtain rfl : shares = 1000 := Option.some.inj hshares
  exact ⟨w', es, ix, ck, hok, hamount, hlog, hcalls⟩

end AlmController
