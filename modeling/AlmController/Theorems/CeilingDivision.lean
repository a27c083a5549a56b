import AlmController.Spec.Price
import Mathlib.Algebra.Order.Field.Basic
import Mathlib.Data.Rat.Cast.Order
import Mathlib.Data.Rat.Floor
import Mathlib.Tactic.Linarith
import Mathlib.Tactic.Positivity

/-!
# Where ceiling division is one

`checked_ceil_div` truncates, and adds one when the remainder is positive. The remainder has
the sign of the dividend, so on a negative divisor it says the opposite of what is asked: with
a positive dividend the truncated quotient is the ceiling already, and with a negative one it is
below. Neither caller is hurt: the one divides by ten thousand, and the other divides a
positive number, where a quotient that is one too large is still not below the exact one.

`ceiling_division` has three parts. The first is about the function itself, at every width, and is
exact: where the quotient fits, the result is the ceiling if and only if the divisor is positive
or divides the dividend. The other two are about the callers, and say what of this reaches them: a
reciprocal is not below the exact one if and only if the price is negative or its precision below
2^31, and the least price of a swap is the ceiling wherever the check gets as far as comparing it.
Division by zero and quotients that do not fit give nothing, as they do in Rust, and are outside
of the equivalence.
-/

namespace AlmController

open Prog

/-! ## The least integer above a quotient -/

section Ceiling

variable {a b q : ℤ} {x : ℚ}

/-- The least integer not below a number is its ceiling. -/
theorem isLeast_iff_ceil : IsLeast {n : ℤ | x ≤ n} q ↔ ⌈x⌉ = q := by
  have hleast : IsLeast {n : ℤ | x ≤ n} ⌈x⌉ := ⟨Int.le_ceil x, fun n hn => Int.ceil_le.mpr hn⟩
  constructor
  · intro h
    exact hleast.unique h
  · rintro rfl
    exact hleast

/-- The quotient as the truncated one and what is left. -/
theorem div_eq_tdiv_add (hb : b ≠ 0) : (a : ℚ) / b = a.tdiv b + (a.tmod b : ℚ) / b := by
  have hsplit : (a : ℚ) = a.tdiv b * b + a.tmod b := by exact_mod_cast (Int.tdiv_mul_add_tmod a b).symm
  have hb' : (b : ℚ) ≠ 0 := Int.cast_ne_zero.mpr hb
  rw [eq_comm, ← sub_eq_zero]
  field_simp
  linarith

/-- On a positive divisor the two inequalities say that it is the ceiling. -/
theorem ceil_eq_of_pos (hb : 0 < b) (hle : a ≤ q * b) (hlt : (q - 1) * b < a) :
    ⌈(a : ℚ) / b⌉ = q := by
  have hb' : (0 : ℚ) < b := Int.cast_pos.mpr hb
  rw [Int.ceil_eq_iff]
  constructor
  · rw [lt_div_iff₀ hb']
    exact_mod_cast hlt
  · rw [div_le_iff₀ hb']
    exact_mod_cast hle

/-- On a negative divisor, what is left of a positive dividend is negative: the truncated
    quotient is the ceiling. -/
theorem ceil_eq_tdiv (hb : b < 0) (hmod : 0 < a.tmod b) : ⌈(a : ℚ) / b⌉ = a.tdiv b := by
  have hb' : (b : ℚ) < 0 := Int.cast_lt_zero.mpr hb
  have hlt : a.tmod b < -b := by
    have habs := Int.tmod_lt_of_pos a (Int.neg_pos_of_neg hb)
    rwa [Int.tmod_neg] at habs
  have hlt' : (a.tmod b : ℚ) < -b := by exact_mod_cast hlt
  have hmod' : (0 : ℚ) < a.tmod b := Int.cast_pos.mpr hmod
  rw [div_eq_tdiv_add (Int.ne_of_lt hb), Int.ceil_eq_iff]
  constructor
  · have hleft : -1 < (a.tmod b : ℚ) / b := by
      rw [lt_div_iff_of_neg hb']
      linarith
    linarith
  · have hright : (a.tmod b : ℚ) / b < 0 := div_neg_of_pos_of_neg hmod' hb'
    linarith

/-- And what is left of a negative dividend is positive: the ceiling is one above. -/
theorem ceil_eq_tdiv_add_one (hb : b < 0) (hmod : a.tmod b < 0) :
    ⌈(a : ℚ) / b⌉ = a.tdiv b + 1 := by
  have hb' : (b : ℚ) < 0 := Int.cast_lt_zero.mpr hb
  have hlt : b < a.tmod b := by
    have habs := Int.lt_tmod_of_pos a (Int.neg_pos_of_neg hb)
    rwa [Int.tmod_neg, Int.neg_neg] at habs
  have hlt' : (b : ℚ) < a.tmod b := by exact_mod_cast hlt
  have hmod' : (a.tmod b : ℚ) < 0 := Int.cast_lt_zero.mpr hmod
  rw [div_eq_tdiv_add (Int.ne_of_lt hb), Int.ceil_eq_iff, Int.cast_add, Int.cast_one]
  constructor
  · have hleft : 0 < (a.tmod b : ℚ) / b := div_pos_of_neg_of_neg hmod' hb'
    linarith
  · have hright : (a.tmod b : ℚ) / b < 1 := by
      rw [div_lt_iff_of_neg hb']
      linarith
    linarith

end Ceiling

/-! ## The macro -/

section Macro

variable {w : ℕ} {a b q : ℤ}

/-- **When the result is the ceiling**: on a positive divisor, and when nothing is left. -/
theorem checkedCeilDiv_isLeast_iff (ha : Word.FitsSigned w a) (hb : b ≠ 0)
    (hq : Word.FitsSigned w (a.tdiv b)) :
    (∃ q, checkedCeilDiv w a b = some q ∧ IsLeast {n : ℤ | (a : ℚ) / b ≤ n} q) ↔
      0 < b ∨ b ∣ a := by
  simp only [checkedCeilDiv_eq ha hb hq, Option.some.injEq, exists_eq_left', isLeast_iff_ceil]
  -- a negative divisor by the sign of what is left; a positive one is always right
  rcases lt_or_gt_of_ne hb with hneg | hpos
  · have hnot : ¬ 0 < b := not_lt.mpr hneg.le
    rw [or_iff_right hnot, Int.dvd_iff_tmod_eq_zero]
    rcases lt_trichotomy (a.tmod b) 0 with hmod | hmod | hmod
    · rw [if_neg (not_lt.mpr hmod.le), ceil_eq_tdiv_add_one hneg hmod]
      omega
    · rw [hmod, if_neg (lt_irrefl 0), div_eq_tdiv_add hb, hmod, Int.cast_zero, zero_div, add_zero,
        Int.ceil_intCast]
      simp
    · rw [if_pos hmod, ceil_eq_tdiv hneg hmod]
      omega
  · refine iff_of_true ?_ (.inl hpos)
    obtain ⟨hle, hlt⟩ := checkedCeilDiv_eq_some hpos (checkedCeilDiv_eq ha hb hq)
    exact ceil_eq_of_pos hpos hle hlt

/-- The result is a number of its type. -/
theorem checkedCeilDiv_fits (h : checkedCeilDiv w a b = some q) : Word.FitsSigned w q := by
  simp only [checkedCeilDiv, Option.bind_eq_bind, Option.bind_eq_some_iff] at h
  obtain ⟨_, hdiv, _, -, h⟩ := h
  obtain ⟨-, rfl, hfits⟩ := Word.checkedDiv_eq_some.mp hdiv
  split at h
  · obtain ⟨rfl, hfits'⟩ := Word.checkedSigned_eq_some.mp h
    exact hfits'
  · obtain rfl := Option.some.inj h
    exact hfits

/-- On a positive dividend the result is never below the exact quotient, whatever the divisor. -/
theorem le_checkedCeilDiv (ha : 0 < a) (h : checkedCeilDiv w a b = some q) : (a : ℚ) / b ≤ q := by
  have hparts := h
  simp only [checkedCeilDiv, Option.bind_eq_bind, Option.bind_eq_some_iff] at hparts
  obtain ⟨_, hdiv, _, hrem, hparts⟩ := hparts
  obtain ⟨hb, rfl, -⟩ := Word.checkedDiv_eq_some.mp hdiv
  obtain ⟨-, rfl, -⟩ := Word.checkedRem_eq_some.mp hrem
  -- a negative divisor leaves nothing positive, so the truncated quotient is not below
  rcases lt_or_gt_of_ne hb with hneg | hpos
  · have hmod := Int.tmod_nonneg b ha.le
    have hleft : (a.tmod b : ℚ) / b ≤ 0 :=
      div_nonpos_of_nonneg_of_nonpos (Int.cast_nonneg hmod) (Int.cast_nonpos.mpr hneg.le)
    rw [div_eq_tdiv_add hb]
    split at hparts
    · obtain ⟨rfl, -⟩ := Word.checkedSigned_eq_some.mp hparts
      rw [Int.cast_add, Int.cast_one]
      linarith
    · obtain rfl := Option.some.inj hparts
      linarith
  · have hle := (checkedCeilDiv_eq_some hpos h).1
    rw [div_le_iff₀ (Int.cast_pos.mpr hpos)]
    exact_mod_cast hle

end Macro

/-! ## Its callers -/

section Callers

variable {o : Oracle} {price : ℤ} {input output : UInt64} {inDec outDec : UInt8}
  {slippage : UInt16} {precision : UInt32}

/-- A reciprocal is a ceiling division of a power of ten. -/
theorem getPrice_inverted_eq (h : o.getPrice true = .ok price) :
    checkedCeilDiv 128 (10 ^ (o.precision * 2).toNat) o.value.toInt = some price := by
  simp only [Oracle.getPrice, if_true, except_bind_ok, okOr_ok, checkedPow10_eq_some] at h
  obtain ⟨_, ⟨rfl, -⟩, hprice⟩ := h
  exact hprice

/-- The exponent, a `u32`, is the double of the precision when that fits. -/
theorem precision_mul_two (hprecision : o.precision.toNat < 2 ^ 31) :
    (o.precision * 2).toNat = 2 * o.precision.toNat := by
  rw [UInt32.toNat_mul, mul_comm]
  exact Nat.mod_eq_of_lt (show 2 * o.precision.toNat < 2 ^ 32 by omega)

/-- A price that fits 128 bits is far below the reciprocal at a precision whose double does
    not fit 32 bits. -/
theorem price_mul_value_lt {value : ℤ} (hprice : price < 2 ^ 127) (hvalue : 0 < value)
    (hfits : value < 2 ^ 127) {n : ℕ} (hn : 2 ^ 31 ≤ n) : price * value < 10 ^ (2 * n) := by
  have hsmall : (2 : ℤ) ^ 127 * 2 ^ 127 < 10 ^ 78 := by norm_num
  have hlarge : (10 : ℤ) ^ 78 ≤ 10 ^ (2 * n) := pow_le_pow_right₀ (by decide) (by omega)
  calc price * value ≤ 2 ^ 127 * value := mul_le_mul_of_nonneg_right hprice.le hvalue.le
    _ ≤ 2 ^ 127 * 2 ^ 127 := mul_le_mul_of_nonneg_left hfits.le (by positivity)
    _ < 10 ^ (2 * n) := hsmall.trans_le hlarge

/-- **The reciprocal is not below the exact one**, as long as the doubled precision does not
    wrap; of a negative value it never is. -/
theorem getPrice_inverted_ge_iff (hvalue : o.value.toInt ≠ 0) (h : o.getPrice true = .ok price) :
    (10 : ℚ) ^ (2 * o.precision.toNat) / o.value.toInt ≤ price ↔
      o.value.toInt < 0 ∨ o.precision.toNat < 2 ^ 31 := by
  have hprice := getPrice_inverted_eq h
  have hpow : ∀ n : ℕ, (0 : ℤ) < 10 ^ n := fun n => by positivity
  by_cases hprecision : o.precision.toNat < 2 ^ 31
  -- the exponent is the one that is meant
  · refine iff_of_true ?_ (.inr hprecision)
    have hle := le_checkedCeilDiv (hpow _) hprice
    rw [precision_mul_two hprecision] at hle
    exact_mod_cast hle
  rw [or_iff_left hprecision]
  rcases lt_or_gt_of_ne hvalue with hneg | hpos
  · -- the exact reciprocal is below the one of a smaller power
    refine iff_of_true ?_ hneg
    have hle := le_checkedCeilDiv (hpow _) hprice
    refine le_trans ?_ hle
    rw [Int.cast_pow, Int.cast_ofNat]
    refine div_le_div_of_nonpos_of_le (Int.cast_nonpos.mpr hneg.le) ?_
    refine pow_le_pow_right₀ (by norm_num) ?_
    rw [UInt32.toNat_mul, mul_comm]
    exact Nat.mod_le _ _
  -- the exact reciprocal is out of the range of prices, and the one computed is in it
  · refine iff_of_false ?_ (not_lt.mpr hpos.le)
    rw [not_le, lt_div_iff₀ (Int.cast_pos.mpr hpos)]
    have hlt := price_mul_value_lt (checkedCeilDiv_fits hprice).2 hpos BitVec.toInt_lt
      (not_lt.mp hprecision)
    exact_mod_cast hlt

/-- The least price that the slippage allows is rounded up. -/
theorem minimum_isLeast {minimum : ℤ}
    (h : checkedCeilDiv 128 (price * slippageFactor slippage) BPS_DENOMINATOR.toNat =
      some minimum) :
    IsLeast {n : ℤ | (price : ℚ) * slippageFactor slippage / 10000 ≤ n} minimum := by
  have hbps : (BPS_DENOMINATOR.toNat : ℤ) = 10000 := rfl
  rw [hbps] at h
  obtain ⟨hle, hlt⟩ := checkedCeilDiv_eq_some (by decide) h
  have hceil := ceil_eq_of_pos (by decide) hle hlt
  rw [Int.cast_mul, Int.cast_natCast, Int.cast_ofNat] at hceil
  exact isLeast_iff_ceil.mpr hceil

end Callers

/-- **Where ceiling division is one, and what its callers get.** -/
theorem ceiling_division {w : ℕ} {a b : ℤ} {o : Oracle} {price : ℤ} {input output : UInt64}
    {inDec outDec : UInt8} {slippage : UInt16} {precision : UInt32} :
    -- at every signed width
    (Word.FitsSigned w a → Word.FitsSigned w b → b ≠ 0 → Word.FitsSigned w (a.tdiv b) →
      ((∃ q, checkedCeilDiv w a b = some q ∧ IsLeast {n : ℤ | (a : ℚ) / b ≤ n} q) ↔
        0 < b ∨ b ∣ a)) ∧
    -- the reciprocal of a price
    (o.value.toInt ≠ 0 → o.getPrice true = .ok price →
      ((10 : ℚ) ^ (2 * o.precision.toNat) / o.value.toInt ≤ price ↔
        o.value.toInt < 0 ∨ o.precision.toNat < 2 ^ 31)) ∧
    -- the least price of a swap, whether it is met or not
    (input ≠ 0 →
      checkSwapSlippage input inDec output outDec slippage price precision = .ok () ∨
        checkSwapSlippage input inDec output outDec slippage price precision =
          .error (SvmAlmControllerErrors.SlippageExceeded : Error) →
      ∃ p minimum, calcSwapPrice (10 ^ inDec.toNat) (10 ^ outDec.toNat) (10 ^ precision.toNat)
          output.toNat input.toNat = .ok p ∧
        (checkSwapSlippage input inDec output outDec slippage price precision = .ok () ↔
          minimum ≤ p) ∧
        IsLeast {n : ℤ | (price : ℚ) * slippageFactor slippage / 10000 ≤ n} minimum) := by
  refine ⟨fun ha _ hb hq => checkedCeilDiv_isLeast_iff ha hb hq, getPrice_inverted_ge_iff, ?_⟩
  intro hinput h
  -- met or not, the comparison was made with this minimum
  rcases h with h | h
  · obtain ⟨-, p, minimum, hp, hmin, hle, -⟩ := checkSwapSlippage_passed hinput h
    exact ⟨p, minimum, hp, iff_of_true h hle, minimum_isLeast hmin⟩
  · obtain ⟨p, minimum, hp, hmin, hlt⟩ := checkSwapSlippage_exceeded h
    refine ⟨p, minimum, hp, iff_of_false ?_ (not_le.mpr hlt), minimum_isLeast hmin⟩
    rw [h]
    exact nofun

/-- A price of minus three. -/
def negativePrice : Oracle where
  version := 1
  authority := 0
  nonce := 0
  value := BitVec.ofInt 128 (-3)
  precision := 18
  lastUpdateSlot := 0
  controller := 0
  baseMint := 0
  quoteMint := 0
  reserved := 0
  feed := ⟨0, 0, 0⟩

/-- Minus seven by two is rounded up; and the reciprocal of minus three is not below the exact
    one, nor is the least price that a slippage of one percent leaves of ninety-nine. -/
theorem ceiling_division_seven :
    (∃ q, checkedCeilDiv 128 (-7) 2 = some q ∧
      IsLeast {n : ℤ | ((-7 : ℤ) : ℚ) / ((2 : ℤ) : ℚ) ≤ n} q) ∧
    (10 : ℚ) ^ (2 * negativePrice.precision.toNat) / negativePrice.value.toInt ≤
      ((-333333333333333333333333333333333332 : ℤ) : ℚ) ∧
    ∃ minimum : ℤ, IsLeast {n : ℤ | ((99 : ℤ) : ℚ) * slippageFactor 100 / 10000 ≤ n} minimum := by
  obtain ⟨hdiv, hreciprocal, -⟩ := @ceiling_division 128 (-7) 2 negativePrice
    (-333333333333333333333333333333333332) 1 99 0 0 100 0
  obtain ⟨-, minimum, -, -, hleast⟩ :=
    (@ceiling_division 128 (-7) 2 negativePrice 99 1 99 0 0 100 0).2.2 (by decide)
      (.inl (by decide))
  refine ⟨(hdiv (by decide) (by decide) (by decide) (by decide)).mpr (.inl (by decide)), ?_, ?_⟩
  · exact (hreciprocal (by decide) (by decide)).mpr (.inl (by decide))
  · exact ⟨minimum, hleast⟩

/-- Minus seven by minus two is rounded down, and the reciprocal of the price minus three is one
    above the ceiling. -/
theorem ceiling_division_negative :
    (checkedCeilDiv 128 (-7) (-2) = some 3 ∧
      ¬ IsLeast {n : ℤ | ((-7 : ℤ) : ℚ) / ((-2 : ℤ) : ℚ) ≤ n} 3) ∧
    (checkedCeilDiv 128 (10 ^ 36) (-3) = some (-333333333333333333333333333333333332) ∧
      ¬ IsLeast {n : ℤ | ((10 ^ 36 : ℤ) : ℚ) / ((-3 : ℤ) : ℚ) ≤ n}
        (-333333333333333333333333333333333332)) := by
  refine ⟨⟨by decide, fun h => ?_⟩, by decide, fun h => ?_⟩
  · have hle : ((-7 : ℤ) : ℚ) / ((-2 : ℤ) : ℚ) ≤ (3 : ℤ) := h.1
    norm_num at hle
  · have hle : ((10 ^ 36 : ℤ) : ℚ) / ((-3 : ℤ) : ℚ) ≤
        ((-333333333333333333333333333333333333 : ℤ) : ℚ) := by norm_num
    exact absurd (h.2 hle) (by decide)

end AlmController
