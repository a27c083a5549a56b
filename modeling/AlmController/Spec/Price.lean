import AlmController.Integrations.AtomicSwap
import Mathlib.Data.Int.Order.Basic

/-!
# The price of a swap

`check_swap_slippage` compares two prices that were rounded on the way. Every rounding
is against the swapper: the price of the swap is rounded down on either branch, and the
minimum is rounded up. Read as one inequality between integers, nothing of the rounding
is left (`checkSwapSlippage_ok`).
-/

namespace AlmController

open Prog

/-! ## Rounding down -/

/-- A truncated quotient of a non-negative number is below the exact one. -/
theorem checkedDiv_mul_le {w : Nat} {a b q : Int} (ha : 0 ≤ a) (hb : 0 < b)
    (h : Word.checkedDiv w a b = some q) : 0 ≤ q ∧ q * b ≤ a := by
  obtain ⟨-, rfl, -⟩ := Word.checkedDiv_eq_some.mp h
  have hdiv : a.tdiv b * b + a.tmod b = a := Int.tdiv_mul_add_tmod a b
  have hmod : 0 ≤ a.tmod b := Int.tmod_nonneg b ha
  exact ⟨Int.tdiv_nonneg ha hb.le, by linarith⟩

/-- **The price of a swap is rounded down**, on either branch. -/
theorem calcSwapPrice_le {inFactor outFactor precFactor output input p : Int} (hin : 0 ≤ inFactor)
    (hout : 0 < outFactor) (hprec : 0 ≤ precFactor) (houtput : 0 ≤ output) (hinput : 0 < input)
    (h : calcSwapPrice inFactor outFactor precFactor output input = .ok p) :
    0 ≤ p ∧ p * (input * outFactor) ≤ output * inFactor * precFactor := by
  simp only [calcSwapPrice, except_bind_ok, okOr_ok, Word.checkedSigned_eq_some] at h
  obtain ⟨_, ⟨rfl, -⟩, h⟩ := h
  have hstep : 0 ≤ output * inFactor := mul_nonneg houtput hin
  split at h
  · rename_i numerator hnumerator
    obtain ⟨rfl, -⟩ := Word.checkedSigned_eq_some.mp hnumerator
    simp only [except_bind_ok, okOr_ok] at h
    obtain ⟨q, hq, hp⟩ := h
    obtain ⟨hq0, hq⟩ := checkedDiv_mul_le (mul_nonneg hstep hprec) hinput hq
    obtain ⟨hp0, hp⟩ := checkedDiv_mul_le hq0 hout hp
    refine ⟨hp0, ?_⟩
    calc p * (input * outFactor) = p * outFactor * input := by ring
      _ ≤ q * input := mul_le_mul_of_nonneg_right hp hinput.le
      _ ≤ output * inFactor * precFactor := hq
  · simp only [except_bind_ok, okOr_ok, Word.checkedSigned_eq_some] at h
    obtain ⟨q, hq, _, ⟨rfl, -⟩, hp⟩ := h
    obtain ⟨hq0, hq⟩ := checkedDiv_mul_le hstep hout hq
    obtain ⟨hp0, hp⟩ := checkedDiv_mul_le (mul_nonneg hq0 hprec) hinput hp
    refine ⟨hp0, ?_⟩
    calc p * (input * outFactor) = p * input * outFactor := by ring
      _ ≤ q * precFactor * outFactor := mul_le_mul_of_nonneg_right hp hout.le
      _ = q * outFactor * precFactor := by ring
      _ ≤ output * inFactor * precFactor := mul_le_mul_of_nonneg_right hq hprec

/-! ## The check -/

variable {input output : UInt64} {inDec outDec : UInt8} {slippage : UInt16} {price : Int}
  {precision : UInt32}

/-- The price of the swap itself, where nothing on the way to it overflows. -/
def SwapPriced (inDec outDec : UInt8) (precision : UInt32) (input output : UInt64) (p : Int) :
    Prop :=
  ∃ inFactor outFactor precFactor, pow10 inDec.toNat = some inFactor ∧
    pow10 outDec.toNat = some outFactor ∧ pow10 precision.toNat = some precFactor ∧
    calcSwapPrice inFactor outFactor precFactor output.toNat input.toNat = .ok p

/-- The factors are powers of ten. -/
theorem SwapPriced.calc_eq {p : Int} (h : SwapPriced inDec outDec precision input output p) :
    calcSwapPrice (10 ^ inDec.toNat) (10 ^ outDec.toNat) (10 ^ precision.toNat) output.toNat
      input.toNat = .ok p ∧ Word.FitsSigned 128 (10 ^ precision.toNat) := by
  obtain ⟨_, _, _, hin, hout, hprec, hp⟩ := h
  obtain ⟨rfl, -⟩ := checkedPow10_eq_some.mp hin
  obtain ⟨rfl, -⟩ := checkedPow10_eq_some.mp hout
  obtain ⟨rfl, hfits⟩ := checkedPow10_eq_some.mp hprec
  exact ⟨hp, hfits⟩

/-- **The check of a swap that spent something**, read both ways. -/
theorem checkSwapSlippage_ok_iff (hinput : input ≠ 0) :
    checkSwapSlippage input inDec output outDec slippage price precision = .ok () ↔
      output ≠ 0 ∧ Word.FitsSigned 128 (price * slippageFactor slippage) ∧
        ∃ p minimum, SwapPriced inDec outDec precision input output p ∧
          checkedCeilDiv 128 (price * slippageFactor slippage) BPS_DENOMINATOR.toNat =
            some minimum ∧ minimum ≤ p := by
  rw [checkSwapSlippage, if_neg hinput]
  simp only [except_bind_ok, check_ok, okOr_ok, Word.checkedSigned_eq_some, not_lt, SwapPriced]
  constructor
  · intro h
    obtain ⟨_, houtput, inFactor, hin, outFactor, hout, precFactor, hprec, p, hp, h⟩ := h
    obtain ⟨_, ⟨rfl, hfits⟩, minimum, hmin, hle⟩ := h
    exact ⟨houtput, hfits, p, minimum, ⟨inFactor, outFactor, precFactor, hin, hout, hprec, hp⟩,
      hmin, hle⟩
  · intro h
    obtain ⟨houtput, hfits, p, minimum, ⟨inFactor, outFactor, precFactor, hin, hout, hprec, hp⟩,
      hmin, hle⟩ := h
    exact ⟨(), houtput, inFactor, hin, outFactor, hout, precFactor, hprec, p, hp, _, ⟨rfl, hfits⟩,
      minimum, hmin, hle⟩

/-- What a passed check of a swap that spent something compared. -/
theorem checkSwapSlippage_passed (hinput : input ≠ 0)
    (h : checkSwapSlippage input inDec output outDec slippage price precision = .ok ()) :
    output ≠ 0 ∧ ∃ p minimum,
      calcSwapPrice (10 ^ inDec.toNat) (10 ^ outDec.toNat) (10 ^ precision.toNat) output.toNat
        input.toNat = .ok p ∧
      checkedCeilDiv 128 (price * slippageFactor slippage) BPS_DENOMINATOR.toNat = some minimum ∧
      minimum ≤ p ∧ Word.FitsSigned 128 (10 ^ precision.toNat) := by
  obtain ⟨houtput, -, p, minimum, hpriced, hmin, hle⟩ := (checkSwapSlippage_ok_iff hinput).mp h
  exact ⟨houtput, p, minimum, hpriced.calc_eq.1, hmin, hle, hpriced.calc_eq.2⟩

theorem input_pos (hinput : input ≠ 0) : (0 : Int) < input.toNat := by
  have hne : input.toNat ≠ 0 := fun h0 => hinput (UInt64.toNat_inj.mp h0)
  omega

theorem SwapPriced.nonneg {p : Int} (hinput : input ≠ 0)
    (h : SwapPriced inDec outDec precision input output p) : 0 ≤ p :=
  (calcSwapPrice_le (by positivity) (by positivity) (by positivity) (by positivity)
    (input_pos hinput) h.calc_eq.1).1

theorem SwapPriced.unique {p p' : Int} (h : SwapPriced inDec outDec precision input output p)
    (h' : SwapPriced inDec outDec precision input output p') : p' = p :=
  Except.ok.inj (h'.calc_eq.1.symm.trans h.calc_eq.1)

/-- **What a passed check establishes**, without any rounding: the tokens received are
    worth the discounted price of the tokens spent. -/
theorem checkSwapSlippage_ok (hinput : input ≠ 0)
    (h : checkSwapSlippage input inDec output outDec slippage price precision = .ok ()) :
    price * slippageFactor slippage * (input.toNat * 10 ^ outDec.toNat) ≤
      10000 * (output.toNat * 10 ^ inDec.toNat * 10 ^ precision.toNat) := by
  obtain ⟨-, p, minimum, hp, hmin, hle, -⟩ := checkSwapSlippage_passed hinput h
  have hpos := input_pos hinput
  obtain ⟨hp0, hswap⟩ := calcSwapPrice_le (by positivity) (by positivity) (by positivity)
    (by positivity) hpos hp
  have hceil := (checkedCeilDiv_eq_some (by decide) hmin).1
  have hbps : (BPS_DENOMINATOR.toNat : Int) = 10000 := rfl
  rw [hbps] at hceil
  have hden : (0 : Int) < input.toNat * 10 ^ outDec.toNat := mul_pos hpos (by positivity)
  calc price * slippageFactor slippage * (input.toNat * 10 ^ outDec.toNat)
      ≤ p * 10000 * (input.toNat * 10 ^ outDec.toNat) := by
        refine mul_le_mul_of_nonneg_right (hceil.trans ?_) hden.le
        exact mul_le_mul_of_nonneg_right hle (by decide)
    _ = 10000 * (p * (input.toNat * 10 ^ outDec.toNat)) := by ring
    _ ≤ 10000 * (output.toNat * 10 ^ inDec.toNat * 10 ^ precision.toNat) :=
        mul_le_mul_of_nonneg_left hswap (by decide)

/-! ## The oracle's price -/

variable {o : Oracle} {inverted : Bool}

/-- Where the precision is one the check accepts, its double does not wrap. -/
theorem precision_double (h : Word.FitsSigned 128 (10 ^ o.precision.toNat)) :
    (o.precision * 2).toNat = 2 * o.precision.toNat := by
  have hlt : o.precision.toNat < 39 := by
    by_contra hge
    have hpow : (10 : Int) ^ 39 ≤ 10 ^ o.precision.toNat :=
      pow_le_pow_right₀ (by decide) (not_lt.mp hge)
    have hmax : (10 : Int) ^ o.precision.toNat < 2 ^ 127 := h.2
    have hsmall : (2 : Int) ^ 127 < 10 ^ 39 := by norm_num
    omega
  rw [UInt32.toNat_mul]
  have htwo : (2 : UInt32).toNat = 2 := rfl
  rw [htwo]
  omega

/-- The price of a positive value, times the value: the reciprocal is rounded up. -/
theorem getPrice_inverted (hvalue : 0 < o.value.toInt)
    (hfits : Word.FitsSigned 128 (10 ^ o.precision.toNat)) (h : o.getPrice true = .ok price) :
    10 ^ o.precision.toNat * 10 ^ o.precision.toNat ≤ price * o.value.toInt := by
  simp only [Oracle.getPrice, if_true, except_bind_ok, okOr_ok, checkedPow10_eq_some] at h
  obtain ⟨_, ⟨rfl, -⟩, hprice⟩ := h
  have hceil := (checkedCeilDiv_eq_some hvalue hprice).1
  rw [precision_double hfits, two_mul, pow_add] at hceil
  exact hceil

theorem getPrice_direct (h : o.getPrice false = .ok price) : price = o.value.toInt := by
  simp only [Oracle.getPrice, Bool.false_eq_true, if_false, except_pure_ok] at h
  exact h.symm

/-- A reciprocal of a negative value is at most one unit of the last digit. -/
theorem getPrice_inverted_neg (hvalue : o.value.toInt < 0) (h : o.getPrice true = .ok price) :
    price ≤ 1 := by
  simp only [Oracle.getPrice, if_true, except_bind_ok, okOr_ok, checkedPow10_eq_some] at h
  obtain ⟨_, ⟨rfl, -⟩, hprice⟩ := h
  simp only [checkedCeilDiv, Option.bind_eq_bind, Option.bind_eq_some_iff] at hprice
  obtain ⟨_, hq, _, hr, hprice⟩ := hprice
  obtain ⟨-, rfl, -⟩ := Word.checkedDiv_eq_some.mp hq
  obtain ⟨-, rfl, -⟩ := Word.checkedRem_eq_some.mp hr
  have hquotient : ((10 : Int) ^ (o.precision * 2).toNat).tdiv o.value.toInt ≤ 0 :=
    Int.tdiv_nonpos_of_nonneg_of_nonpos (by positivity) hvalue.le
  split at hprice
  · obtain ⟨rfl, -⟩ := Word.checkedSigned_eq_some.mp hprice
    linarith
  · obtain rfl := Option.some.inj hprice
    linarith

/-- There is no reciprocal of zero. -/
theorem getPrice_inverted_zero (hvalue : o.value.toInt = 0) : o.getPrice true ≠ .ok price := by
  intro h
  simp only [Oracle.getPrice, if_true, except_bind_ok, okOr_ok, checkedPow10_eq_some] at h
  obtain ⟨_, -, hprice⟩ := h
  simp only [checkedCeilDiv, Option.bind_eq_bind, Option.bind_eq_some_iff] at hprice
  obtain ⟨_, hq, -⟩ := hprice
  exact (Word.checkedDiv_eq_some.mp hq).1 hvalue

/-- A value that is not positive gives a price of at most one unit of the last digit. -/
theorem getPrice_le_one (hvalue : o.value.toInt ≤ 0) (h : o.getPrice inverted = .ok price) :
    price ≤ 1 := by
  cases inverted with
  | false =>
    rw [getPrice_direct h]
    linarith
  | true =>
    rcases lt_or_eq_of_le hvalue with hneg | hzero
    · exact getPrice_inverted_neg hneg h
    · exact absurd h (getPrice_inverted_zero hzero)

/-- A positive value gives a positive price. -/
theorem getPrice_pos (hvalue : 0 < o.value.toInt) (h : o.getPrice inverted = .ok price) :
    0 < price := by
  cases inverted with
  | false =>
    rw [getPrice_direct h]
    exact hvalue
  | true =>
    simp only [Oracle.getPrice, if_true, except_bind_ok, okOr_ok, checkedPow10_eq_some] at h
    obtain ⟨_, ⟨rfl, -⟩, hprice⟩ := h
    have hceil := (checkedCeilDiv_eq_some hvalue hprice).1
    have hpow : (0 : Int) < 10 ^ (o.precision * 2).toNat := by positivity
    exact pos_of_mul_pos_left (hpow.trans_le hceil) hvalue.le

/-- Where one value has a price, every other value has one, but zero when it is inverted. -/
theorem getPrice_exists {o' : Oracle} (hprecision : o'.precision = o.precision)
    (hzero : inverted = true → o'.value.toInt ≠ 0) (h : o.getPrice inverted = .ok price) :
    ∃ price', o'.getPrice inverted = .ok price' := by
  cases inverted with
  | false => exact ⟨_, rfl⟩
  | true =>
    simp only [Oracle.getPrice, if_true, except_bind_ok, okOr_ok, checkedPow10_eq_some] at h ⊢
    obtain ⟨_, ⟨rfl, hfits⟩, -⟩ := h
    rw [hprecision]
    have hpow : (0 : Int) ≤ 10 ^ (o.precision * 2).toNat := by positivity
    exact ⟨_, _, ⟨rfl, hfits⟩, checkedCeilDiv_eq hfits (hzero rfl) (hfits.tdiv (.inl hpow))⟩

/-! ## A price that asks for nothing -/

theorem slippageFactor_le : slippageFactor slippage ≤ 10000 := Nat.sub_le _ _

/-- A discounted price is at most the price, rounded up, for a price that is at most one. -/
theorem minimum_le {minimum n : Int} (hn : 0 ≤ n) (hprice : price ≤ n)
    (hmin : checkedCeilDiv 128 (price * slippageFactor slippage) BPS_DENOMINATOR.toNat =
      some minimum) : minimum ≤ n := by
  have hfactor : ((slippageFactor slippage : Nat) : Int) ≤ 10000 := by
    exact_mod_cast slippageFactor_le
  have hfactor0 : (0 : Int) ≤ (slippageFactor slippage : Nat) := Int.natCast_nonneg _
  have hleast := (checkedCeilDiv_eq_some (by decide) hmin).2
  have hbps : (BPS_DENOMINATOR.toNat : Int) = 10000 := rfl
  rw [hbps] at hleast
  have hdiscounted : price * slippageFactor slippage ≤ n * 10000 := by
    calc price * slippageFactor slippage ≤ n * slippageFactor slippage :=
          mul_le_mul_of_nonneg_right hprice hfactor0
      _ ≤ n * 10000 := mul_le_mul_of_nonneg_left hfactor hn
  linarith

theorem slippageFactor_pos (h : slippage < 10000) : 0 < slippageFactor slippage :=
  Nat.sub_pos_of_lt (UInt16.lt_iff_toNat_lt.mp h)

/-- The least price of a swap is a number, once the discounted price is one. -/
theorem minimum_exists (h : Word.FitsSigned 128 (price * slippageFactor slippage)) :
    ∃ minimum, checkedCeilDiv 128 (price * slippageFactor slippage) BPS_DENOMINATOR.toNat =
      some minimum :=
  ⟨_, checkedCeilDiv_eq h (by decide) (h.tdiv (.inr (by decide)))⟩

/-- A positive price asks for something. -/
theorem minimum_pos {minimum : Int} (hslippage : slippage < 10000) (hprice : 0 < price)
    (hmin : checkedCeilDiv 128 (price * slippageFactor slippage) BPS_DENOMINATOR.toNat =
      some minimum) : 0 < minimum := by
  have hfactor : (0 : Int) < (slippageFactor slippage : Nat) := by
    exact_mod_cast slippageFactor_pos hslippage
  have hceil := (checkedCeilDiv_eq_some (by decide) hmin).1
  exact pos_of_mul_pos_left ((mul_pos hprice hfactor).trans_le hceil) (by decide)

/-- The price of a swap only fails by a panic. -/
theorem calcSwapPrice_error {inFactor outFactor precFactor output input : Int} {e : Error}
    (h : calcSwapPrice inFactor outFactor precFactor output input = .error e) :
    e = .panic .price := by
  simp only [calcSwapPrice, except_bind_error, okOr_error] at h
  rcases h with ⟨-, rfl⟩ | ⟨_, -, h⟩
  · rfl
  split at h
  · simp only [except_bind_error, okOr_error] at h
    rcases h with ⟨-, rfl⟩ | ⟨_, -, -, rfl⟩
    · rfl
    · rfl
  · simp only [except_bind_error, okOr_error] at h
    rcases h with ⟨-, rfl⟩ | ⟨_, -, ⟨-, rfl⟩ | ⟨_, -, -, rfl⟩⟩
    · rfl
    · rfl
    · rfl

/-- What a check that turned a swap away compared. -/
theorem checkSwapSlippage_exceeded
    (h : checkSwapSlippage input inDec output outDec slippage price precision =
      .error (SvmAlmControllerErrors.SlippageExceeded : Error)) :
    ∃ p minimum,
      calcSwapPrice (10 ^ inDec.toNat) (10 ^ outDec.toNat) (10 ^ precision.toNat) output.toNat
        input.toNat = .ok p ∧
      checkedCeilDiv 128 (price * slippageFactor slippage) BPS_DENOMINATOR.toNat = some minimum ∧
      p < minimum := by
  unfold checkSwapSlippage at h
  split at h
  · exact absurd h except_pure_ne
  simp only [except_bind_error, check_error, check_ok, okOr_error, okOr_ok, pow10,
    checkedPow10_eq_some] at h
  rcases h with ⟨-, h⟩ | ⟨_, -, ⟨-, h⟩ | ⟨_, ⟨rfl, -⟩, ⟨-, h⟩ | ⟨_, ⟨rfl, -⟩, ⟨-, h⟩ | ⟨_, ⟨rfl, -⟩, h⟩⟩⟩⟩
  · cases h
  · cases h
  · cases h
  · cases h
  rcases h with h | ⟨p, hp, ⟨-, h⟩ | ⟨_, hdiscounted, ⟨-, h⟩ | ⟨minimum, hmin, hlt, -⟩⟩⟩
  · cases calcSwapPrice_error h
  · cases h
  · cases h
  · obtain ⟨rfl, -⟩ := Word.checkedSigned_eq_some.mp hdiscounted
    exact ⟨p, minimum, hp, hmin, hlt⟩

/-- **A price of at most one unit of the last digit asks for nothing**, unless the swap itself is
    at no price at all. -/
theorem checkSwapSlippage_ok_iff_of_le_one {p : Int} (hinput : input ≠ 0) (houtput : output ≠ 0)
    (hslippage : slippage < 10000) (hprice : price ≤ 1)
    (hfits : Word.FitsSigned 128 (price * slippageFactor slippage))
    (hpriced : SwapPriced inDec outDec precision input output p) :
    checkSwapSlippage input inDec output outDec slippage price precision = .ok () ↔
      price ≤ 0 ∨ p ≠ 0 := by
  obtain ⟨minimum, hmin⟩ := minimum_exists hfits
  have hp := hpriced.nonneg hinput
  have hpassed : checkSwapSlippage input inDec output outDec slippage price precision = .ok () ↔
      minimum ≤ p := by
    rw [checkSwapSlippage_ok_iff hinput]
    constructor
    · intro h
      obtain ⟨-, -, p', minimum', hpriced', hmin', hle⟩ := h
      rw [hpriced'.unique hpriced, Option.some.inj (hmin.symm.trans hmin')]
      exact hle
    · intro hle
      exact ⟨houtput, hfits, p, minimum, hpriced, hmin, hle⟩
  rw [hpassed]
  by_cases hzero : price ≤ 0
  · -- the least price is not positive, and no swap is at a negative one
    have hle := minimum_le le_rfl hzero hmin
    exact iff_of_true (hle.trans hp) (.inl hzero)
  · -- the price is one, and so is the least price
    have hone := minimum_le zero_le_one hprice hmin
    have hpos := minimum_pos hslippage (not_le.mp hzero) hmin
    rw [or_iff_right hzero]
    omega

/-- **What passes at a positive price passes at one that asks for nothing.** -/
theorem checkSwapSlippage_of_positive {price' : Int} (hslippage : slippage < 10000)
    (hpositive : 0 < price) (hprice : price' ≤ 1)
    (hfits : Word.FitsSigned 128 (price' * slippageFactor slippage))
    (h : checkSwapSlippage input inDec output outDec slippage price precision = .ok ()) :
    checkSwapSlippage input inDec output outDec slippage price' precision = .ok () := by
  by_cases hinput : input = 0
  · rw [checkSwapSlippage, if_pos hinput]
    rfl
  · obtain ⟨houtput, -, p, minimum, hpriced, hmin, hle⟩ := (checkSwapSlippage_ok_iff hinput).mp h
    have hpos := minimum_pos hslippage hpositive hmin
    rw [checkSwapSlippage_ok_iff_of_le_one hinput houtput hslippage hprice hfits hpriced]
    exact .inr (by omega)

end AlmController
