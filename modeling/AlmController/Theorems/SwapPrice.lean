import AlmController.Simulator
import AlmController.Spec.AtomicSwap
import AlmController.Spec.Price
import Mathlib.Algebra.Order.Field.Basic
import Mathlib.Data.Rat.Cast.Order
import Mathlib.Tactic.Positivity

/-!
# No swap trades below the oracle's price

Repay compares integers that were rounded on the way, and learns what was spent from a
balance that another instruction wrote down. Measured in the vaults, and with exact rational
numbers, what came in for what went out is worth the oracle's price less the slippage.

`swap_not_below_oracle` spans the whole transaction, from before the Borrow to its end, and is
about rational numbers only: no rounding is left in its statement. It is for an oracle value that
is positive. Values that are not are in `NonPositivePrice`, and where the oracle's value comes
from is in `PriceProvenance`. A swap that spent nothing has no price.
-/

namespace AlmController

open Prog

variable [Chain]

/-! ## Exact rates -/

/-- The price that the oracle stands for, or its reciprocal. -/
def Oracle.rate (o : Oracle) (inverted : Bool) : ℚ :=
  if inverted then 10 ^ o.precision.toNat / o.value.toInt else o.value.toInt / 10 ^ o.precision.toNat

/-- `input` tokens went out and `output` tokens came in: tokens in per token out. -/
def exchangeRate (cfg : AtomicSwapConfig) (input output : ℤ) : ℚ :=
  output * 10 ^ cfg.inputMintDecimals.toNat / (input * 10 ^ cfg.outputMintDecimals.toNat)

/-- What the slippage leaves of a price. -/
def slippageDiscount (maxSlippageBps : UInt16) : ℚ :=
  ((10000 - min maxSlippageBps.toNat 10000 : ℕ) : ℚ) / 10000

section Rates

omit [Chain]

variable {o : Oracle} {inverted : Bool} {price : ℤ} {slippage : UInt16}

/-- The discount is the factor that the source multiplies by, over ten thousand. -/
theorem slippageDiscount_eq : slippageDiscount slippage = (slippageFactor slippage : ℕ) / 10000 := by
  have hmin : 10000 - min slippage.toNat 10000 = slippageFactor slippage := by
    have hbps : BPS_DENOMINATOR.toNat = 10000 := rfl
    rw [slippageFactor, hbps]
    omega
  rw [slippageDiscount, hmin]

theorem slippageDiscount_nonneg : 0 ≤ slippageDiscount slippage := by
  unfold slippageDiscount
  positivity

/-- The price that Repay uses is no lower than the oracle's. -/
theorem rate_le_price (hvalue : 0 < o.value.toInt)
    (hfits : Word.FitsSigned 128 (10 ^ o.precision.toNat))
    (h : o.getPrice inverted = .ok price) :
    o.rate inverted ≤ price / 10 ^ o.precision.toNat := by
  have hpow : (0 : ℚ) < 10 ^ o.precision.toNat := by positivity
  -- directly it is the oracle's value itself; a reciprocal is rounded up
  cases inverted with
  | false =>
    rw [getPrice_direct h]
    exact le_rfl
  | true =>
    have hceil := getPrice_inverted hvalue hfits h
    have hvalue' : (0 : ℚ) < o.value.toInt := by exact_mod_cast hvalue
    show (10 ^ o.precision.toNat / o.value.toInt : ℚ) ≤ _
    rw [div_le_div_iff₀ hvalue' hpow]
    exact_mod_cast hceil

/-- **A swap that passed the check was at the oracle's rate**, less the slippage. -/
theorem discount_le_exchangeRate {cfg : AtomicSwapConfig} {input output : UInt64}
    (hinput : input ≠ 0) (hvalue : 0 < o.value.toInt) (hprice : o.getPrice inverted = .ok price)
    (h : checkSwapSlippage input cfg.inputMintDecimals output cfg.outputMintDecimals
      cfg.maxSlippageBps price o.precision = .ok ()) :
    o.rate inverted * slippageDiscount cfg.maxSlippageBps ≤
      exchangeRate cfg input.toNat output.toNat := by
  obtain ⟨-, _, _, -, -, -, hfits⟩ := checkSwapSlippage_passed hinput h
  have hcheck := checkSwapSlippage_ok hinput h
  have hpos : (0 : ℚ) < input.toNat := by exact_mod_cast input_pos hinput
  have hpow : (0 : ℚ) < 10 ^ o.precision.toNat := by positivity
  have hden : (0 : ℚ) < input.toNat * 10 ^ cfg.outputMintDecimals.toNat := by positivity
  -- what the check compared, with the divisions multiplied out
  have hcheck' : (price : ℚ) * (slippageFactor cfg.maxSlippageBps : ℕ) *
      (input.toNat * 10 ^ cfg.outputMintDecimals.toNat) ≤
        10000 * (output.toNat * 10 ^ cfg.inputMintDecimals.toNat * 10 ^ o.precision.toNat) := by
    exact_mod_cast hcheck
  -- every rounding on the way was in favour of the vaults
  calc o.rate inverted * slippageDiscount cfg.maxSlippageBps
      ≤ price / 10 ^ o.precision.toNat * slippageDiscount cfg.maxSlippageBps :=
        mul_le_mul_of_nonneg_right (rate_le_price hvalue hfits hprice) slippageDiscount_nonneg
    _ = price * (slippageFactor cfg.maxSlippageBps : ℕ) / (10 ^ o.precision.toNat * 10000) := by
        rw [slippageDiscount_eq, div_mul_div_comm]
    _ ≤ output.toNat * 10 ^ cfg.inputMintDecimals.toNat /
          (input.toNat * 10 ^ cfg.outputMintDecimals.toNat) := by
        rw [div_le_div_iff₀ (by positivity) hden]
        linarith
    _ = exchangeRate cfg input.toNat output.toNat := by
        unfold exchangeRate
        push_cast
        rfl

end Rates

/-! ## The vaults -/

variable {t : Transaction} {tx : TxContext} {w w' : World} {s r : Step World Move}

/-- What a vault lost from the one state to the other. -/
def vaultLoss (w w' : World) (vault : Pubkey) : ℤ :=
  w.bank.tokenAmount vault - w'.bank.tokenAmount vault

namespace SwapPair

/-- Vault A lost what was lent and did not come back. -/
theorem vaultLossA (x : SwapPair tx s r) (laws : TokenLaws) (hr : Reachable r.before) :
    vaultLoss s.before r.after x.rA.vault = x.amount.toNat - x.deltaA.toNat := by
  have hgained := x.vaultA_repaid laws hr
  rw [x.vaultA_kept laws] at hgained
  have hlent := x.vaultA_lent laws
  unfold vaultLoss
  omega

/-- Vault B gained what was measured. -/
theorem vaultLossB (x : SwapPair tx s r) (laws : TokenLaws) :
    vaultLoss s.before r.after x.rB.vault = -(x.deltaB.toNat : ℤ) := by
  have hgained := x.vaultB_repaid
  rw [x.vaultB_kept laws, x.vaultB_lent laws] at hgained
  unfold vaultLoss
  omega

end SwapPair

/-- What the configuration and the oracle of the Repay are. -/
theorem SwapPair.repaysAgainst (x : SwapPair tx s r) :
    ∃ tx' accounts data, r.move = .call tx' accounts (16 :: data) ∧
      RepaysAgainst accounts r.before x.o x.cfg := by
  obtain ⟨tx', accounts, data, hmove, hbind⟩ := x.repayMove
  obtain ⟨rest, rfl⟩ := AtomicSwapRepay.bind_eq hbind
  exact ⟨tx', _, data, hmove, ⟨_, rfl, x.repayParties.oracle.keel⟩, _, _, rfl,
    x.repayParties.integration.keel, x.repayRun.config⟩

/-- **The rate of a pair.** -/
theorem SwapPair.rate (x : SwapPair tx s r) (laws : TokenLaws) (hr : Reachable r.before)
    (hspent : 0 < vaultLoss s.before r.after x.rA.vault) (hvalue : 0 < x.o.value.toInt) :
    x.o.rate x.cfg.oraclePriceInverted * slippageDiscount x.cfg.maxSlippageBps ≤
      exchangeRate x.cfg (vaultLoss s.before r.after x.rA.vault)
        (-vaultLoss s.before r.after x.rB.vault) := by
  have hlossA := x.vaultLossA laws hr
  -- what Repay takes for spent is what the vault lost
  have hfinal : (x.final.toNat : ℤ) = vaultLoss s.before r.after x.rA.vault := by
    have hspent' := congrArg UInt64.toNat x.repayRun.spent
    rw [UInt64.toNat_saturatingSub, x.borrowRun.amountBorrowed] at hspent'
    omega
  -- so something was spent, and the check was made
  have hne : x.final ≠ 0 := by
    intro hzero
    rw [hzero] at hfinal
    have hcast : ((0 : UInt64).toNat : ℤ) = 0 := rfl
    omega
  obtain ⟨price, hprice, hcheck⟩ := x.repayRun.price
  rw [← hfinal, x.vaultLossB laws, neg_neg]
  exact discount_le_exchangeRate hne hvalue hprice hcheck

/-- **No committed swap trades below the oracle's price less the slippage**, measured in the
    vaults from before the Borrow to the end of the transaction. -/
theorem swap_not_below_oracle {pre post : List (Step World Move)} (laws : TokenLaws)
    (hw : Reachable w) (h : Commits w t (pre ++ s :: post) w') (hborrow : IsBorrow s) :
    ∃ tx accounts data mid r tx' accounts' data' o cfg vaultA vaultB,
      s.move = .call tx accounts (15 :: data) ∧ post = mid ++ [r] ∧
      r.move = .call tx' accounts' (16 :: data') ∧ RepaysAgainst accounts' r.before o cfg ∧
      accounts[6]?.map AccountMeta.pubkey = some vaultA ∧
      accounts[9]?.map AccountMeta.pubkey = some vaultB ∧
      (0 < vaultLoss s.before w' vaultA → 0 < o.value.toInt →
        o.rate cfg.oraclePriceInverted * slippageDiscount cfg.maxSlippageBps ≤
          exchangeRate cfg (vaultLoss s.before w' vaultA) (-vaultLoss s.before w' vaultB)) := by
  obtain ⟨i, last, borrow, repay, mid, r, hswap⟩ := h.swap hw hborrow
  obtain ⟨x⟩ := hswap.pair
  obtain ⟨accounts, hmove, hbind⟩ := x.borrowMove
  obtain ⟨hvaultA, hvaultB⟩ := x.vaults hbind
  obtain ⟨tx', accounts', data', hmove', hagainst⟩ := x.repaysAgainst
  refine ⟨_, accounts, _, mid, r, tx', accounts', data', x.o, x.cfg, x.rA.vault, x.rB.vault,
    hmove, hswap.after, hmove', hagainst, hvaultA, hvaultB, ?_⟩
  rw [← hswap.after_eq h.1]
  exact x.rate laws (hswap.reachable hw h.1)

end AlmController

namespace AlmController

open Simulator

/-- The example swap pays 60 tokens for 60, at a price of one. -/
theorem swap_not_below_oracle_example :
    ∃ steps w', Commits (swapWorld evenPrice) (swap (swapWorld evenPrice) 100 (sale 60 60))
        steps w' ∧
      vaultLoss (swapWorld evenPrice) w' (vaultKey mintA) = 60 ∧
      (swapOracle evenPrice).rate swapConfig.oraclePriceInverted *
          slippageDiscount swapConfig.maxSlippageBps ≤
        exchangeRate swapConfig (vaultLoss (swapWorld evenPrice) w' (vaultKey mintA))
          (-vaultLoss (swapWorld evenPrice) w' (vaultKey mintB)) := by
  obtain ⟨steps, w', hcommits, hcomputed⟩ := @swap_commits_steps evenPrice 100 (sale 60 60) _
    (fun x => (vaultLoss (swapWorld evenPrice) x.2 (vaultKey mintA),
      x.1.map fun s => (s.before.keel oracleKey, configAt s.before swapKey)))
    (60, List.replicate 3 (some (.oracle (swapOracle evenPrice)), some (.AtomicSwap swapConfig)))
    (by decide +kernel)
  obtain ⟨hloss, hkept⟩ := Prod.mk.inj hcomputed
  obtain ⟨s, between, r, _, _, rfl, hs, hr⟩ := swap_steps hcommits
  refine ⟨_, w', hcommits, hloss, ?_⟩
  have hborrow : IsBorrow s := ⟨_, _, Borsh.write (AtomicSwapBorrowArgs.mk 100), hs⟩
  obtain ⟨_, accounts, _, mid, r', _, accounts', _, o, cfg, vaultA, vaultB, hs', hpost, hr',
    hagainst, hA, hB, hrate⟩ :=
    @swap_not_below_oracle chain _ _ _ _ [] _ tokenLaws swapWorld_attained.reachable hcommits
      hborrow
  -- the accounts are those of the example's instructions
  obtain ⟨-, rfl, -⟩ := Move.call.inj (hs.symm.trans hs')
  obtain ⟨-, hlast⟩ := List.append_inj' (show [between] ++ [r] = mid ++ [r'] from hpost) rfl
  obtain rfl := (List.cons.inj hlast).1
  obtain ⟨-, rfl, -⟩ := Move.call.inj (hr.symm.trans hr')
  obtain rfl := Option.some.inj hA
  obtain rfl := Option.some.inj hB
  have hkept := (List.cons.inj (List.cons.inj (List.cons.inj hkept).2).2).1
  obtain ⟨horacle, hconfig⟩ := Prod.mk.inj hkept
  obtain ⟨⟨k, hk, ho⟩, k', i, hk', hi, hcfg⟩ := hagainst
  obtain rfl := Option.some.inj hk
  obtain rfl := Option.some.inj hk'
  obtain rfl := KeelAccount.oracle.inj (Option.some.inj (horacle.symm.trans ho))
  have hconfig' : configAt r.before swapKey = some i.config := by
    rw [configAt, show r.before.keel swapKey = _ from hi]
  obtain rfl := IntegrationConfig.AtomicSwap.inj
    ((Option.some.inj (hconfig.symm.trans hconfig')).trans hcfg)
  rw [hcommits.1.eq_head] at hrate
  refine hrate ?_ (by decide)
  show 0 < vaultLoss (swapWorld evenPrice) w' (vaultKey mintA)
  have hpos : (0 : ℤ) < 60 := by norm_num
  exact lt_of_lt_of_eq hpos hloss.symm

end AlmController
