import AlmController.Base

/-!
# Ceiling division (`math.rs`)

`checked_ceil_div` is implemented by one macro for every integer width. The signed
instances differ only in the width, which is a parameter here.
-/

namespace AlmController

/-- `checked_ceil_div` of an `i<w>`: the truncated quotient, plus one when the
    remainder is positive. -/
def checkedCeilDiv (w : Nat) (self rhs : Int) : Option Int := do
  let quotient ← Word.checkedDiv w self rhs
  let remainder ← Word.checkedRem w self rhs
  if remainder > 0 then Word.checkedSigned w (quotient + 1) else some quotient

/-- `checked_ceil_div` of a `u<w>`. -/
def checkedCeilDivUnsigned (w : Nat) (self rhs : Nat) : Option Nat :=
  if rhs = 0 then none
  else if self % rhs > 0 then Word.checkedUnsigned w (self / rhs + 1) else some (self / rhs)

/-- `10_i<w>.checked_pow(n)`. -/
def checkedPow10 (w n : Nat) : Option Int := Word.checkedSigned w (10 ^ n)

theorem checkedPow10_eq_some {w n : Nat} {m : Int} :
    checkedPow10 w n = some m ↔ (10 : Int) ^ n = m ∧ Word.FitsSigned w (10 ^ n) :=
  Word.checkedSigned_eq_some

/-- **What it computes.** Where the truncated quotient is representable, so is the one above it,
    when the remainder asks for it. -/
theorem checkedCeilDiv_eq {w : Nat} {a b : Int} (ha : Word.FitsSigned w a) (hb : b ≠ 0)
    (hq : Word.FitsSigned w (a.tdiv b)) :
    checkedCeilDiv w a b = some (if 0 < a.tmod b then a.tdiv b + 1 else a.tdiv b) := by
  have hdiv : Word.checkedDiv w a b = some (a.tdiv b) :=
    Word.checkedDiv_eq_some.mpr ⟨hb, rfl, hq⟩
  have hrem : Word.checkedRem w a b = some (a.tmod b) :=
    Word.checkedRem_eq_some.mpr ⟨hb, rfl, hq⟩
  rw [checkedCeilDiv, hdiv, hrem]
  show (if a.tmod b > 0 then Word.checkedSigned w (a.tdiv b + 1) else some (a.tdiv b)) = _
  by_cases hpos : 0 < a.tmod b
  · rw [if_pos hpos, if_pos hpos, Word.checkedSigned_eq_some]
    refine ⟨rfl, ?_⟩
    -- a positive remainder is that of a positive dividend, which is at least the quotient above
    have hsplit := Int.tdiv_mul_add_tmod a b
    have ha0 : 0 < a := by
      by_contra hneg
      have hmod := Int.tmod_nonneg b (show 0 ≤ -a by omega)
      rw [Int.neg_tmod] at hmod
      omega
    have hle : a.tdiv b + 1 ≤ a := by
      rcases lt_or_gt_of_ne hb with hneg | hbpos
      · have hnonpos : a.tdiv b ≤ 0 := Int.tdiv_nonpos_of_nonneg_of_nonpos ha0.le hneg.le
        omega
      · have hnonneg : 0 ≤ a.tdiv b := Int.tdiv_nonneg ha0.le hbpos.le
        have hmul : a.tdiv b * 1 ≤ a.tdiv b * b := mul_le_mul_of_nonneg_left hbpos hnonneg
        omega
    exact ⟨by have := hq.1; omega, lt_of_le_of_lt hle ha.2⟩
  · rw [if_neg hpos, if_neg hpos]

/-- On a positive divisor the result is the ceiling: the least integer whose product with
    the divisor reaches the dividend. -/
theorem checkedCeilDiv_eq_some {w : Nat} {a b q : Int} (hb : 0 < b)
    (h : checkedCeilDiv w a b = some q) : a ≤ q * b ∧ (q - 1) * b < a := by
  simp only [checkedCeilDiv, Option.bind_eq_bind, Option.bind_eq_some_iff] at h
  obtain ⟨q', hq, r, hr, h⟩ := h
  obtain ⟨-, rfl, -⟩ := Word.checkedDiv_eq_some.mp hq
  obtain ⟨-, rfl, -⟩ := Word.checkedRem_eq_some.mp hr
  have hdiv : a.tdiv b * b + a.tmod b = a := Int.tdiv_mul_add_tmod a b
  have hmod : a.tmod b < b := Int.tmod_lt_of_pos a hb
  -- the remainder has the sign of the dividend, and a negative one means rounded up already
  have hneg : -b < a.tmod b := by
    have habs := Int.lt_tmod_of_pos a hb
    linarith
  split at h
  · rename_i hpos
    obtain ⟨rfl, -⟩ := Word.checkedSigned_eq_some.mp h
    constructor <;> nlinarith
  · rename_i hzero
    obtain rfl := Option.some.inj h
    constructor <;> nlinarith

end AlmController
