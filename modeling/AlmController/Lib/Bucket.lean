import Mathlib.Data.Nat.Basic
import Mathlib.Order.MinMax
import Mathlib.Tactic.Ring

/-!
# Token buckets

A bucket holds whole tokens up to a capacity, and carries the fraction of the next
token, in `unit`ths. It accrues units; when it is full the fraction is lost. The
invariant is part of the type, so there is no bucket above its capacity.

The one law that matters is `accrue_accrue`: accruing in two instalments is accruing
once. Rounding loses nothing, because what a division leaves over is carried.
-/

@[ext]
structure Bucket (unit : ℕ) where
  capacity : ℕ
  level : ℕ
  carry : ℕ
  level_le : level ≤ capacity
  carry_lt : carry < unit

namespace Bucket

variable {unit : ℕ} {b : Bucket unit} {m n : ℕ}

theorem unit_pos (b : Bucket unit) : 0 < unit := Nat.zero_lt_of_lt b.carry_lt

/-- Accrue `n` units. -/
def accrue (b : Bucket unit) (n : ℕ) : Bucket unit where
  capacity := b.capacity
  level := min (b.level + (b.carry + n) / unit) b.capacity
  carry := if b.capacity ≤ b.level + (b.carry + n) / unit then 0 else (b.carry + n) % unit
  level_le := min_le_right _ _
  carry_lt := by
    split
    · exact b.unit_pos
    · exact Nat.mod_lt _ b.unit_pos

theorem accrue_level : (b.accrue n).level = min (b.level + (b.carry + n) / unit) b.capacity := rfl

theorem accrue_carry : (b.accrue n).carry =
    if b.capacity ≤ b.level + (b.carry + n) / unit then 0 else (b.carry + n) % unit := rfl

/-- Full, and with nothing carried. -/
def full (b : Bucket unit) : Bucket unit :=
  ⟨b.capacity, b.capacity, 0, le_rfl, b.unit_pos⟩

theorem accrue_of_le (h : b.capacity ≤ b.level + (b.carry + n) / unit) : b.accrue n = b.full := by
  ext
  · rfl
  · exact min_eq_right h
  · exact if_pos h

theorem full_accrue : b.full.accrue n = b.full :=
  accrue_of_le (Nat.le_add_right _ _)

/-- What a division leaves over, and what comes later, divide together. -/
theorem carried_div (hunit : 0 < unit) (a n : ℕ) :
    a / unit + (a % unit + n) / unit = (a + n) / unit := by
  conv_rhs => rw [← Nat.div_add_mod a unit, add_assoc]
  rw [Nat.mul_add_div hunit]

/-- **Two instalments are one.** -/
theorem accrue_accrue : (b.accrue m).accrue n = b.accrue (m + n) := by
  have hdiv := carried_div b.unit_pos (b.carry + m) n
  by_cases hfull : b.capacity ≤ b.level + (b.carry + m) / unit
  · -- once full it stays full, and the larger instalment fills it as well
    have hmore : b.capacity ≤ b.level + (b.carry + (m + n)) / unit := by
      rw [← add_assoc, ← hdiv]
      exact hfull.trans (Nat.add_le_add_left (Nat.le_add_right _ _) _)
    rw [accrue_of_le hfull, full_accrue, accrue_of_le hmore]
  · have hlevel : (b.accrue m).level = b.level + (b.carry + m) / unit :=
      min_eq_left (not_le.mp hfull).le
    have hcarry : (b.accrue m).carry = (b.carry + m) % unit := if_neg hfull
    have hsum : (b.accrue m).level + ((b.accrue m).carry + n) / unit =
        b.level + (b.carry + (m + n)) / unit := by
      rw [hlevel, hcarry, add_assoc, hdiv, add_assoc]
    ext
    · rfl
    · rw [accrue_level, hsum]
      rfl
    · rw [accrue_carry, hsum, hcarry, Nat.mod_add_mod, add_assoc]
      rfl

end Bucket
