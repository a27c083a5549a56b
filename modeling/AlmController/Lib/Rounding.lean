import Mathlib.Algebra.Order.Field.Basic
import Mathlib.Data.Rat.Cast.Order
import Mathlib.Tactic.FieldSimp
import Mathlib.Tactic.Linarith
import Mathlib.Tactic.Positivity

/-!
# Floor division, there and back

Amounts of two units convert at a rate `p : q`, rounding down each way. Going there and
back never gains, and loses less than one unit and the worth of one unit.
-/

namespace Rounding

variable {x y p q : ℕ}

theorem floor_mono (h : x ≤ y) : x * p / q ≤ y * p / q :=
  Nat.div_le_div_right (Nat.mul_le_mul_right p h)

/-- A floor is less than one below the exact quotient. -/
theorem mul_lt_floor_succ (hq : 0 < q) : x * p < (x * p / q + 1) * q :=
  (Nat.div_lt_iff_lt_mul hq).mp (Nat.lt_succ_self _)

/-- **There and back never gains.** -/
theorem round_trip_le (hp : 0 < p) : x * p / q * q / p ≤ x := by
  have hfloor : x * p / q * q ≤ x * p := Nat.div_mul_le_self _ _
  calc x * p / q * q / p ≤ x * p / p := Nat.div_le_div_right hfloor
    _ = x := Nat.mul_div_cancel x hp

/-- **And loses less than one unit and what a unit of the other is worth.** -/
theorem lt_round_trip (hp : 0 < p) (hq : 0 < q) :
    (x : ℚ) - q / p - 1 < (x * p / q * q / p : ℕ) := by
  have hthere : x * p < (x * p / q + 1) * q := mul_lt_floor_succ hq
  have hback : x * p / q * q < (x * p / q * q / p + 1) * p := mul_lt_floor_succ hp
  have hsum : x * p < (x * p / q * q / p + 1) * p + q := by
    rw [Nat.add_mul, Nat.one_mul] at hthere
    omega
  have hp' : (0 : ℚ) < p := by exact_mod_cast hp
  have hcast : (x : ℚ) * p < ((x * p / q * q / p : ℕ) + 1) * p + q := by exact_mod_cast hsum
  have hdiv : (x : ℚ) < (x * p / q * q / p : ℕ) + 1 + q / p := by
    rw [← mul_lt_mul_iff_left₀ hp', add_mul (_ + 1 : ℚ), div_mul_cancel₀ _ hp'.ne']
    exact hcast
  linarith

end Rounding
