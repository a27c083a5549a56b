import AlmController.Spec.Price
import Mathlib.Algebra.Order.Field.Basic
import Mathlib.Data.Rat.Cast.Order
import Mathlib.Data.Rat.Floor
import Mathlib.Data.UInt
import Mathlib.Tactic.FieldSimp
import Mathlib.Tactic.Linarith
import Mathlib.Tactic.Positivity

/-!
# How far the price of a swap is rounded

Where the product of all three factors fits, the two divisions that follow are one, and the
price is the exact one rounded down. Where it does not, the fallback divides first: the unit
that this division may lose is multiplied by the precision, so the price is below the exact one
by at most that much over the input, and the unit of the second division.

A swap that beats the minimum by this margin therefore passes the check, on either branch.

`swap_price_rounding` says both, and what they mean for the check: a swap at the minimum passes on
the exact branch, and by the fallback one that leaves room for the error. It is for an input and
an output that are not zero, and for powers of ten that fit. The minimum itself is rounded up
before it is compared, which is in `CeilingDivision`.
-/

namespace AlmController

open Prog

/-! ## Truncated quotients of numbers that are not negative -/

section Quotients

variable {w : ℕ} {a b q : ℤ}

/-- They are the floor, within one of the exact quotient. -/
theorem checkedDiv_floor (ha : 0 ≤ a) (h : Word.checkedDiv w a b = some q) : q = a / b := by
  obtain ⟨-, rfl, -⟩ := Word.checkedDiv_eq_some.mp h
  exact Int.tdiv_eq_ediv_of_nonneg ha

/-- For rationals as for integers. -/
theorem floor_div (hb : 0 < b) : ⌊(a : ℚ) / b⌋ = a / b := by
  obtain ⟨n, rfl⟩ := Int.eq_ofNat_of_zero_le hb.le
  rw [Int.cast_natCast]
  exact Rat.floor_intCast_div_natCast a n

/-- So what a division loses is less than one. -/
theorem div_bounds (hb : 0 < b) : (a : ℚ) / b - 1 < (a / b : ℤ) ∧ ((a / b : ℤ) : ℚ) ≤ a / b := by
  rw [← floor_div hb]
  exact ⟨Int.sub_one_lt_floor _, Int.floor_le _⟩

end Quotients

/-! ## The two branches -/

/-- The price of a swap, not rounded. -/
def exactSwapPrice (inFactor outFactor precFactor output input : ℤ) : ℚ :=
  (output * inFactor * precFactor : ℚ) / (input * outFactor)

section Branches

variable {inFactor outFactor precFactor output input p : ℤ}

/-- **The branch of the full product** rounds once. -/
theorem calcSwapPrice_exact (hin : 0 < inFactor) (hout : 0 < outFactor) (hprec : 0 < precFactor)
    (houtput : 0 < output) (hinput : 0 < input)
    (hfits : Word.FitsSigned 128 (output * inFactor * precFactor))
    (h : calcSwapPrice inFactor outFactor precFactor output input = .ok p) :
    p = ⌊exactSwapPrice inFactor outFactor precFactor output input⌋ := by
  have hproduct : 0 ≤ output * inFactor * precFactor := by positivity
  have hbranch : Word.checkedSigned 128 (output * inFactor * precFactor) =
      some (output * inFactor * precFactor) := Word.checkedSigned_eq_some.mpr ⟨rfl, hfits⟩
  simp only [calcSwapPrice, except_bind_ok, okOr_ok, Word.checkedSigned_eq_some] at h
  obtain ⟨_, ⟨rfl, -⟩, h⟩ := h
  rw [hbranch] at h
  simp only [except_bind_ok, okOr_ok] at h
  obtain ⟨q, hq, hp⟩ := h
  obtain rfl := checkedDiv_floor hproduct hq
  obtain rfl := checkedDiv_floor (Int.ediv_nonneg hproduct hinput.le) hp
  have hfloor := floor_div (a := output * inFactor * precFactor) (mul_pos hinput hout)
  rw [Int.ediv_ediv_of_nonneg hinput.le, ← hfloor, exactSwapPrice]
  push_cast
  rfl

/-- **The fallback** rounds twice, and the first time before it multiplies. -/
theorem calcSwapPrice_fallback (hin : 0 < inFactor) (hout : 0 < outFactor) (hprec : 0 < precFactor)
    (houtput : 0 < output) (hinput : 0 < input)
    (hfits : ¬ Word.FitsSigned 128 (output * inFactor * precFactor))
    (h : calcSwapPrice inFactor outFactor precFactor output input = .ok p) :
    exactSwapPrice inFactor outFactor precFactor output input - (precFactor : ℚ) / input - 1 < p ∧
      (p : ℚ) ≤ exactSwapPrice inFactor outFactor precFactor output input := by
  have hstep : 0 ≤ output * inFactor := by positivity
  have hbranch : Word.checkedSigned 128 (output * inFactor * precFactor) = none := if_neg hfits
  simp only [calcSwapPrice, except_bind_ok, okOr_ok, Word.checkedSigned_eq_some] at h
  obtain ⟨_, ⟨rfl, -⟩, h⟩ := h
  rw [hbranch] at h
  simp only [except_bind_ok, okOr_ok, Word.checkedSigned_eq_some] at h
  obtain ⟨q, hq, _, ⟨rfl, -⟩, hp⟩ := h
  obtain rfl := checkedDiv_floor hstep hq
  obtain rfl := checkedDiv_floor (mul_nonneg (Int.ediv_nonneg hstep hout.le) hprec.le) hp
  have hinput' : (0 : ℚ) < input := Int.cast_pos.mpr hinput
  have hout' : (0 : ℚ) < outFactor := Int.cast_pos.mpr hout
  have hunit : (0 : ℚ) < (precFactor : ℚ) / input := div_pos (Int.cast_pos.mpr hprec) hinput'
  obtain ⟨hfirst, hfirst'⟩ := div_bounds (a := output * inFactor) hout
  obtain ⟨hsecond, hsecond'⟩ := div_bounds (a := output * inFactor / outFactor * precFactor) hinput
  -- the exact price is the exact first quotient times the unit
  have hexact : exactSwapPrice inFactor outFactor precFactor output input =
      ((output * inFactor : ℤ) : ℚ) / outFactor * ((precFactor : ℚ) / input) := by
    unfold exactSwapPrice
    push_cast
    field_simp
  have hrounded : ((output * inFactor / outFactor * precFactor : ℤ) : ℚ) / input =
      ((output * inFactor / outFactor : ℤ) : ℚ) * ((precFactor : ℚ) / input) := by
    push_cast
    ring
  rw [hrounded] at hsecond hsecond'
  rw [hexact]
  -- the first division loses less than one unit, which is then multiplied; the second less than
  -- one
  constructor
  · have hlost := mul_lt_mul_of_pos_right hfirst hunit
    linarith
  · have hkept := mul_le_mul_of_nonneg_right hfirst' hunit.le
    linarith

end Branches

/-! ## The check -/

variable {input output : UInt64} {inDec outDec : UInt8} {precision : UInt32}
  {inFactor outFactor precFactor p : ℤ}

/-- A power of ten that fits is one. -/
theorem pow10_pos {n : ℕ} {factor : ℤ} (h : pow10 n = some factor) : 0 < factor := by
  obtain ⟨rfl, -⟩ := checkedPow10_eq_some.mp h
  positivity

/-- An output that is not zero is positive as an integer. -/
theorem output_pos (houtput : 0 < output) : (0 : ℤ) < output.toNat :=
  Int.natCast_pos.mpr (UInt64.lt_iff_toNat_lt.mp houtput)

/-- What is computed and at least the minimum passes. -/
theorem checkSwapSlippage_passes {slippage : UInt16} {price discounted minimum : ℤ}
    (houtput : 0 < output) (hin : pow10 inDec.toNat = some inFactor)
    (hout : pow10 outDec.toNat = some outFactor) (hprec : pow10 precision.toNat = some precFactor)
    (h : calcSwapPrice inFactor outFactor precFactor output.toNat input.toNat = .ok p)
    (hdiscounted : Word.checkedSigned 128 (price * slippageFactor slippage) = some discounted)
    (hminimum : checkedCeilDiv 128 discounted BPS_DENOMINATOR.toNat = some minimum)
    (hle : minimum ≤ p) :
    checkSwapSlippage input inDec output outDec slippage price precision = .ok () := by
  unfold checkSwapSlippage
  split
  · rfl
  · have hne : output ≠ 0 := UInt64.pos_iff_ne_zero.mp houtput
    simp only [except_bind_ok, check_ok, okOr_ok]
    exact ⟨(), hne, inFactor, hin, outFactor, hout, precFactor, hprec, p, h, discounted, hdiscounted,
      minimum, hminimum, not_lt.mpr hle⟩

/-- **The error of a swap's price, and what it leaves of the check.** -/
theorem swap_price_rounding (hinput : 0 < input) (houtput : 0 < output)
    (hin : pow10 inDec.toNat = some inFactor) (hout : pow10 outDec.toNat = some outFactor)
    (hprec : pow10 precision.toNat = some precFactor)
    (h : calcSwapPrice inFactor outFactor precFactor output.toNat input.toNat = .ok p) :
    (Word.FitsSigned 128 (output.toNat * inFactor * precFactor) →
      p = ⌊exactSwapPrice inFactor outFactor precFactor output.toNat input.toNat⌋) ∧
    (¬ Word.FitsSigned 128 (output.toNat * inFactor * precFactor) →
      exactSwapPrice inFactor outFactor precFactor output.toNat input.toNat -
          (precFactor : ℚ) / input.toNat - 1 < p ∧
        (p : ℚ) ≤ exactSwapPrice inFactor outFactor precFactor output.toNat input.toNat) ∧
    -- so no swap is turned away by rounding
    ∀ {slippage : UInt16} {price discounted minimum : ℤ},
      Word.checkedSigned 128 (price * slippageFactor slippage) = some discounted →
      checkedCeilDiv 128 discounted BPS_DENOMINATOR.toNat = some minimum →
      ((minimum : ℚ) + (precFactor : ℚ) / input.toNat + 1 ≤
          exactSwapPrice inFactor outFactor precFactor output.toNat input.toNat →
        checkSwapSlippage input inDec output outDec slippage price precision = .ok ()) ∧
      (Word.FitsSigned 128 (output.toNat * inFactor * precFactor) →
        (minimum : ℚ) ≤ exactSwapPrice inFactor outFactor precFactor output.toNat input.toNat →
        checkSwapSlippage input inDec output outDec slippage price precision = .ok ()) := by
  -- the two branches, for the amounts of a swap
  have hexact := fun hfits => calcSwapPrice_exact (pow10_pos hin) (pow10_pos hout) (pow10_pos hprec)
    (output_pos houtput) (output_pos hinput) hfits h
  have hfallback := fun hfits => calcSwapPrice_fallback (pow10_pos hin) (pow10_pos hout)
    (pow10_pos hprec) (output_pos houtput) (output_pos hinput) hfits h
  refine ⟨hexact, hfallback, ?_⟩
  intro slippage price discounted minimum hdiscounted hminimum
  have hpasses := checkSwapSlippage_passes houtput hin hout hprec h hdiscounted hminimum
  have hfits_passes : Word.FitsSigned 128 (output.toNat * inFactor * precFactor) →
      (minimum : ℚ) ≤ exactSwapPrice inFactor outFactor precFactor output.toNat input.toNat →
      checkSwapSlippage input inDec output outDec slippage price precision = .ok () := by
    intro hfits hle
    rw [← Int.le_floor, ← hexact hfits] at hle
    exact hpasses hle
  refine ⟨fun hmargin => ?_, hfits_passes⟩
  have hunit : (0 : ℚ) ≤ (precFactor : ℚ) / input.toNat := by
    have hprec' := pow10_pos hprec
    positivity
  -- the margin covers what either branch loses; the exact one needs none of it
  by_cases hfits : Word.FitsSigned 128 (output.toNat * inFactor * precFactor)
  · exact hfits_passes hfits (by linarith)
  · obtain ⟨hlow, -⟩ := hfallback hfits
    have hlt : (minimum : ℚ) < p := by
      rw [Int.cast_natCast] at hlow
      linarith
    exact hpasses (Int.cast_lt.mp hlt).le

/-- Ten units for three, where the product fits, and 10^15 for three, where it does not. The first
    pass at their own price, with nothing to spare, and the second at one well below it. -/
theorem swap_price_rounding_exact_fallback :
    (∃ p, calcSwapPrice (10 ^ 9) (10 ^ 6) (10 ^ 18) (UInt64.toNat 10) (UInt64.toNat 3) = .ok p ∧
      p = ⌊exactSwapPrice (10 ^ 9) (10 ^ 6) (10 ^ 18) (UInt64.toNat 10) (UInt64.toNat 3)⌋) ∧
    checkSwapSlippage 3 9 10 6 0 3333333333333333333333 18 = .ok () ∧
    (∃ p, calcSwapPrice (10 ^ 9) (10 ^ 6) (10 ^ 18) (UInt64.toNat (10 ^ 15)) (UInt64.toNat 3) =
        .ok p ∧
      exactSwapPrice (10 ^ 9) (10 ^ 6) (10 ^ 18) (UInt64.toNat (10 ^ 15)) (UInt64.toNat 3) -
        ((10 ^ 18 : ℤ) : ℚ) / (UInt64.toNat 3) - 1 < p) ∧
    checkSwapSlippage 3 9 (10 ^ 15) 6 0 (10 ^ 34) 18 = .ok () := by
  have hexact : calcSwapPrice (10 ^ 9) (10 ^ 6) (10 ^ 18) (UInt64.toNat 10) (UInt64.toNat 3) =
      .ok 3333333333333333333333 := by decide +kernel
  have hfallback : calcSwapPrice (10 ^ 9) (10 ^ 6) (10 ^ 18) (UInt64.toNat (10 ^ 15))
      (UInt64.toNat 3) = .ok 333333333333333333333333333333333333 := by decide +kernel
  obtain ⟨hfloor, -, hpasses⟩ := @swap_price_rounding 3 10 9 6 18 _ _ _ _ (by decide) (by decide)
    (by decide) (by decide) (by decide) hexact
  obtain ⟨-, hbounds, hpasses'⟩ := @swap_price_rounding 3 (10 ^ 15) 9 6 18 _ _ _ _ (by decide)
    (by decide) (by decide) (by decide) (by decide) hfallback
  have hdiscounted : Word.checkedSigned 128 (3333333333333333333333 * slippageFactor 0) =
      some 33333333333333333333330000 := by decide
  have hdiscounted' : Word.checkedSigned 128 (10 ^ 34 * slippageFactor 0) = some (10 ^ 38) := by
    decide
  have hminimum : checkedCeilDiv 128 33333333333333333333330000 BPS_DENOMINATOR.toNat =
      some 3333333333333333333333 := by decide
  have hminimum' : checkedCeilDiv 128 (10 ^ 38) BPS_DENOMINATOR.toNat = some (10 ^ 34) := by decide
  have hten : UInt64.toNat 10 = 10 := rfl
  have hthree : UInt64.toNat 3 = 3 := rfl
  have hmany : UInt64.toNat (10 ^ 15) = 10 ^ 15 := by decide
  refine ⟨⟨_, hexact, hfloor (by decide)⟩, ?_, ⟨_, hfallback, (hbounds (by decide)).1⟩, ?_⟩
  -- exactly: the price is rounded down to the minimum itself
  · apply (hpasses hdiscounted hminimum).2 (by decide)
    norm_num [exactSwapPrice, hten, hthree]
  -- by the fallback: the minimum leaves room for the unit the quotient may have lost
  · apply (hpasses' hdiscounted' hminimum').1
    norm_num [exactSwapPrice, hmany, hthree]

end AlmController
