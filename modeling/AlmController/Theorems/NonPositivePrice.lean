import AlmController.Simulator
import AlmController.Spec.Reprice

/-!
# A price that is not positive

RefreshOracle copies whatever the feed says, zero and negative values included, and Repay does not
look at the sign. What becomes of such a value depends on two things. An inverted zero has no
reciprocal, so no Repay gets past it. And the price is multiplied by what the slippage leaves of
10000: where that product is out of the range of an `i128`, no Repay that spent anything gets past
it, whatever was delivered. At a precision of 18 and a slippage of one percent these are the
inverted values from -1 to -58, and the direct values below about -1.7e34.

Everywhere else the price protects nothing (`nonpositive_price`). A direct value is at most zero
and a reciprocal at most one unit of the last digit, so the least price of the swap is at most
that; and whatever Repay succeeds at some positive value of the oracle succeeds at this one. The
check still turns away a Repay that delivered nothing, and, where the reciprocal is the one unit,
one whose own price is rounded down to zero.
-/

namespace AlmController

open Prog

variable [Chain]

variable {accounts : List AccountMeta} {w w' : World} {u : Unit} {o : Oracle}
  {cfg : AtomicSwapConfig}

/-- A Repay that spent something found a price whose discount is a number. -/
theorem RepaysAgainst.discounted (hagainst : RepaysAgainst accounts w o cfg)
    (h : processAtomicSwapRepay accounts w = .ok (u, w')) {spent : UInt64}
    (hspends : RepaySpends accounts w w' spent) (hspent : spent ≠ 0) :
    ∃ price, o.getPrice cfg.oraclePriceInverted = .ok price ∧
      Word.FitsSigned 128 (price * slippageFactor cfg.maxSlippageBps) := by
  obtain ⟨price, spent', received, hprice, hcheck, htold⟩ := hagainst.checked h
  obtain rfl := (htold spent).mp hspends
  obtain ⟨-, hfits, -⟩ := (checkSwapSlippage_ok_iff hspent).mp hcheck
  exact ⟨price, hprice, hfits⟩

omit [Chain] in
/-- At a price that asks for nothing, what passes at a positive one passes. -/
theorem PassesToo.of_positive {value : BitVec (8 * 16)} {price : Int}
    (hslippage : cfg.maxSlippageBps < 10000) (hpositive : 0 < o.value.toInt)
    (hvalue : value.toInt ≤ 0)
    (hprice : Oracle.getPrice { o with value := value } cfg.oraclePriceInverted = .ok price)
    (hfits : Word.FitsSigned 128 (price * slippageFactor cfg.maxSlippageBps)) :
    PassesToo o value cfg := by
  intro price₁ hprice₁
  refine ⟨price, hprice, fun input output hcheck => ?_⟩
  exact checkSwapSlippage_of_positive hslippage (getPrice_pos hpositive hprice₁)
    (getPrice_le_one (o := { o with value := value }) hvalue hprice) hfits hcheck

/-- **Where a price that is not positive fails closed, and where it does not.** -/
theorem nonpositive_price (hagainst : RepaysAgainst accounts w o cfg) (hvalue : o.value.toInt ≤ 0)
    (hslippage : cfg.maxSlippageBps < 10000) :
    -- the reciprocal of zero lets no Repay through
    (cfg.oraclePriceInverted = true → o.value.toInt = 0 →
      ∀ u w', processAtomicSwapRepay accounts w ≠ .ok (u, w')) ∧
    -- a price whose discount is out of range lets none through that spent something
    (∀ price, o.getPrice cfg.oraclePriceInverted = .ok price →
      ¬ Word.FitsSigned 128 (price * slippageFactor cfg.maxSlippageBps) →
        ∀ u w' spent, processAtomicSwapRepay accounts w = .ok (u, w') →
          RepaySpends accounts w w' spent → spent = 0) ∧
    -- any other lets through what any positive value of the oracle lets through
    ((cfg.oraclePriceInverted = true → o.value.toInt ≠ 0) →
      ∀ k value u w', accounts[12]?.map AccountMeta.pubkey = some k → 0 < BitVec.toInt value →
        processAtomicSwapRepay accounts (w.setKeel k (.oracle { o with value := value })) =
            .ok (u, w') →
          ∃ price, o.getPrice cfg.oraclePriceInverted = .ok price ∧
            (Word.FitsSigned 128 (price * slippageFactor cfg.maxSlippageBps) →
              processAtomicSwapRepay accounts w = .ok (u, w'.setKeel k (.oracle o)))) ∧
    -- because its check turns away no output but that of a swap at no price at all
    (∀ price, o.getPrice cfg.oraclePriceInverted = .ok price →
      Word.FitsSigned 128 (price * slippageFactor cfg.maxSlippageBps) →
        price ≤ 1 ∧ (cfg.oraclePriceInverted = false → price = o.value.toInt) ∧
        ∀ {input output p}, input ≠ 0 → output ≠ 0 →
          SwapPriced cfg.inputMintDecimals cfg.outputMintDecimals o.precision input output p →
            (checkSwapSlippage input cfg.inputMintDecimals output cfg.outputMintDecimals
                cfg.maxSlippageBps price o.precision = .ok () ↔ price ≤ 0 ∨ p ≠ 0)) := by
  refine ⟨?_, ?_, ?_, ?_⟩
  · intro hinverted hzero u w' h
    obtain ⟨price, -, -, hprice, -⟩ := hagainst.checked h
    rw [hinverted] at hprice
    exact getPrice_inverted_zero hzero hprice
  · intro price hprice hout u w' spent h hspends
    by_contra hspent
    obtain ⟨price', hprice', hfits⟩ := hagainst.discounted h hspends hspent
    obtain rfl := Except.ok.inj (hprice.symm.trans hprice')
    exact hout hfits
  · intro hzero k value u w' hk hpositive h
    have hother : RepaysAgainst accounts (w.setKeel k (.oracle { o with value := value }))
        { o with value := value } cfg := hagainst.setPrice hk
    obtain ⟨price₁, -, -, hprice₁, -⟩ := hother.checked h
    obtain ⟨price, hprice⟩ := getPrice_exists
      (show o.precision = Oracle.precision { o with value := value } from rfl) hzero hprice₁
    refine ⟨price, hprice, fun hfits => ?_⟩
    have hpasses : PassesToo { o with value := value } o.value cfg :=
      .of_positive hslippage hpositive hvalue hprice hfits
    have hrun := processAtomicSwapRepay_repriced hother hk hpasses h
    -- with its own value back, the oracle is the one that was there
    rw [World.setKeel_setKeel, World.setKeel_eq_self (hagainst.oracle_eq hk)] at hrun
    exact hrun
  · intro price hprice hfits
    have hle := getPrice_le_one hvalue hprice
    refine ⟨hle, ?_, ?_⟩
    · intro hdirect
      rw [hdirect] at hprice
      exact getPrice_direct hprice
    · intro input output p hinput houtput hpriced
      exact checkSwapSlippage_ok_iff_of_le_one hinput houtput hslippage hle hfits hpriced

end AlmController

namespace AlmController

open Simulator

/-- The value -58 is the last whose reciprocal is out of range once discounted by one percent. -/
example : (∃ price, Oracle.getPrice { swapOracle ⟨0, 0⟩ with value := BitVec.ofInt 128 (-58) } true =
      .ok price ∧ ¬ Word.FitsSigned 128 (price * slippageFactor 100)) ∧
    ∃ price, Oracle.getPrice { swapOracle ⟨0, 0⟩ with value := BitVec.ofInt 128 (-59) } true =
      .ok price ∧ Word.FitsSigned 128 (price * slippageFactor 100) :=
  ⟨⟨-17241379310344827586206896551724136, by decide, by decide⟩,
    -16949152542372881355932203389830507, by decide, by decide⟩

/-- A feed that says zero. -/
def zeroPrice : PullFeed := ⟨0, 100⟩

/-- At a price of zero, a swap spends 60 tokens for a single one and commits. -/
theorem zero_price_repaid :
    Reachable (swapWorld zeroPrice) ∧
    ((∃ o, (swapWorld zeroPrice).keel oracleKey = some (.oracle o) ∧ o.value.toInt ≤ 0) ∧
      ∃ i, (swapWorld zeroPrice).keel swapKey = some (.integration i) ∧
        i.config = .AtomicSwap swapConfig ∧ swapConfig.maxSlippageBps < 10000) ∧
    ∃ steps w', Commits (swapWorld zeroPrice)
        (swap (swapWorld zeroPrice) 100 (sale 60 1)) steps w' ∧
      (w'.bank.tokenAmount (vaultKey mintA) + 60, w'.bank.tokenAmount (vaultKey mintB)) =
        ((swapWorld zeroPrice).bank.tokenAmount (vaultKey mintA),
          (swapWorld zeroPrice).bank.tokenAmount (vaultKey mintB) + 1) := by
  refine ⟨swapWorld_attained.reachable, ⟨?_, ?_⟩, ?_⟩
  · exact ⟨swapOracle zeroPrice, by decide +kernel, by decide⟩
  · exact ⟨swapIntegration, by decide +kernel, rfl, by decide⟩
  · exact swap_commits (fun w' => (w'.bank.tokenAmount (vaultKey mintA) + 60,
      w'.bank.tokenAmount (vaultKey mintB))) (by decide +kernel)

/-- A feed that says minus five. -/
def fallenPrice : PullFeed := ⟨BitVec.ofInt 128 (-5), 100⟩

/-- The example's Repay pays 60 tokens for 60 at a price of one; at minus five it still would. -/
theorem nonpositive_price_fallen :
    ∃ w w', RepaysAgainst repay.accounts w (swapOracle fallenPrice) swapConfig ∧
      processAtomicSwapRepay repay.accounts w = .ok ((), w') := by
  obtain ⟨steps, w', hcommits, hkept⟩ := @swap_commits_steps evenPrice 100 (sale 60 60) _
    (fun x => x.1.map fun s => (s.before.keel oracleKey, configAt s.before swapKey))
    (List.replicate 3 (some (.oracle (swapOracle evenPrice)), some (.AtomicSwap swapConfig)))
    (by decide +kernel)
  obtain ⟨s, between, r, _, _, rfl, -, hr⟩ := swap_steps hcommits
  have hkept := (List.cons.inj (List.cons.inj (List.cons.inj hkept).2).2).1
  obtain ⟨horacle, hconfig⟩ := Prod.mk.inj hkept
  have hmem : r ∈ [s, between, r] := .tail _ (.tail _ (.head _))
  have hmove := hcommits.1.step_mem hmem
  rw [hr] at hmove
  cases hmove with
  | call _ hrun =>
    have hrun' : processAtomicSwapRepay repay.accounts r.before = .ok ((), r.after) := hrun
    have horacle' : r.before.keel oracleKey = some (.oracle (swapOracle evenPrice)) := horacle
    have hagainst : RepaysAgainst repay.accounts r.before (swapOracle evenPrice) swapConfig := by
      refine ⟨⟨oracleKey, rfl, horacle'⟩, swapKey, ?_⟩
      have hconfig' : configAt r.before swapKey = some (.AtomicSwap swapConfig) := hconfig
      unfold configAt at hconfig'
      split at hconfig'
      · rename_i i hi
        exact ⟨i, rfl, hi, Option.some.inj hconfig'⟩
      · cases hconfig'
    have hfallen : RepaysAgainst repay.accounts
        (r.before.setKeel oracleKey (.oracle (swapOracle fallenPrice))) (swapOracle fallenPrice)
        swapConfig :=
      @RepaysAgainst.setPrice repay.accounts r.before oracleKey (swapOracle evenPrice)
        fallenPrice.value swapConfig hagainst rfl
    -- with the value of one back in its oracle, it is the state that the Repay of the run started in
    have hback : (r.before.setKeel oracleKey (.oracle (swapOracle fallenPrice))).setKeel oracleKey
        (.oracle (swapOracle evenPrice)) = r.before := by
      rw [World.setKeel_setKeel, World.setKeel_eq_self horacle']
    have hpositive := (nonpositive_price hfallen (by decide) (by decide)).2.2.1
    obtain ⟨price, hprice, hsucceeds⟩ := hpositive (fun h => absurd h (by decide)) oracleKey
      evenPrice.value () r.after rfl (by decide) (by rw [← hback] at hrun'; exact hrun')
    have hdirect : price = (swapOracle fallenPrice).value.toInt := getPrice_direct hprice
    rw [hdirect] at hsucceeds
    exact ⟨_, _, hfallen, hsucceeds (by decide)⟩

end AlmController
