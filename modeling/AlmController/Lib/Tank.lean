import AlmController.Lib.Bucket
import Mathlib.Algebra.Order.Sub.Basic

/-!
# The tank behind a bucket

A bucket counts whole tokens and carries the rest. A `Tank` is what it stands for: it holds an
amount in `unit`ths of a token up to its capacity, and it rounds nothing. Filling it, draining it
and giving it another size take one line each, so a tank is a specification that can be read.

A bucket `Tracks` a tank when they have the same size and the bucket holds what the tank holds or
more, by less than one token. Each operation of the bucket keeps that (`Tracks.accrue`,
`Tracks.deposit`, `Tracks.withdraw`, `Tracks.resize`). So the error of a bucket does not grow with
the length of a run: it never comes to a token.

The bucket is the one that holds more. Where an operation fills it or empties it, a tank loses the
fraction and a bucket may keep it.
-/

@[ext]
structure Tank where
  capacity : ℕ
  level : ℕ
  level_le : level ≤ capacity

namespace Tank

variable {t : Tank} {m n : ℕ}

/-- A full tank. -/
def full (capacity : ℕ) : Tank := ⟨capacity, capacity, le_rfl⟩

/-- What does not fit in is lost. -/
def fill (t : Tank) (n : ℕ) : Tank :=
  ⟨t.capacity, min (t.level + n) t.capacity, min_le_right _ _⟩

/-- No more is taken out than there is. -/
def drain (t : Tank) (n : ℕ) : Tank :=
  ⟨t.capacity, t.level - n, (Nat.sub_le _ _).trans t.level_le⟩

/-- Another size, with the same room left. -/
def resize (t : Tank) (m : ℕ) : Tank := ⟨m, m - (t.capacity - t.level), Nat.sub_le _ _⟩

theorem fill_zero : t.fill 0 = t := by
  ext
  · rfl
  · exact min_eq_left t.level_le

theorem resize_self : t.resize t.capacity = t := by
  ext
  · rfl
  · exact Nat.sub_sub_self t.level_le

end Tank

namespace Bucket

variable {unit : ℕ} {b : Bucket unit} {t : Tank} {m n : ℕ}

/-! ## The other operations of a bucket -/

/-- Put whole tokens in. -/
def deposit (b : Bucket unit) (n : ℕ) : Bucket unit where
  capacity := b.capacity
  level := min (b.level + n) b.capacity
  carry := b.carry
  level_le := min_le_right _ _
  carry_lt := b.carry_lt

/-- Take whole tokens out, as many as there are. -/
def withdraw (b : Bucket unit) (n : ℕ) : Bucket unit where
  capacity := b.capacity
  level := b.level - n
  carry := b.carry
  level_le := (Nat.sub_le _ _).trans b.level_le
  carry_lt := b.carry_lt

/-- Another capacity, with the same gap below it. A gap that does not fit empties the bucket. -/
def resize (b : Bucket unit) (m : ℕ) : Bucket unit where
  capacity := m
  level := m - (b.capacity - b.level)
  carry := if m < b.capacity - b.level then 0 else b.carry
  level_le := Nat.sub_le _ _
  carry_lt := by
    split
    · exact b.unit_pos
    · exact b.carry_lt

/-! ## Tracking -/

/-- All that a bucket holds, in `unit`ths. -/
def units (b : Bucket unit) : ℕ := unit * b.level + b.carry

/-- The bucket holds what the tank holds, or more by less than one token. -/
structure Tracks (b : Bucket unit) (t : Tank) : Prop where
  capacity : t.capacity = unit * b.capacity
  le : t.level ≤ b.units
  lt : b.units < t.level + unit

theorem Tracks.full (hfull : b.level = b.capacity) (hcarry : b.carry = 0) :
    b.Tracks (.full (unit * b.capacity)) := by
  have hunits : b.units = unit * b.capacity := by rw [units, hfull, hcarry, Nat.add_zero]
  refine ⟨rfl, ?_, ?_⟩
  · exact hunits.ge
  · rw [hunits]
    exact Nat.lt_add_of_pos_right b.unit_pos

/-- What accrues into a bucket that stays below its capacity is all kept. -/
theorem units_accrue (h : ¬ b.capacity ≤ b.level + (b.carry + n) / unit) :
    (b.accrue n).units = b.units + n := by
  have hlevel : (b.accrue n).level = b.level + (b.carry + n) / unit :=
    min_eq_left (not_le.mp h).le
  have hcarry : (b.accrue n).carry = (b.carry + n) % unit := if_neg h
  calc (b.accrue n).units
      = unit * b.level + (unit * ((b.carry + n) / unit) + (b.carry + n) % unit) := by
        rw [units, hlevel, hcarry, Nat.mul_add, Nat.add_assoc]
    _ = unit * b.level + (b.carry + n) := by rw [Nat.div_add_mod]
    _ = b.units + n := by rw [units, Nat.add_assoc]

theorem units_full : b.full.units = unit * b.capacity := Nat.add_zero _

/-- A bucket below its capacity has room for the rest of a token. -/
theorem units_lt (h : b.level < b.capacity) : b.units < unit * b.capacity := by
  have hmul : unit * (b.level + 1) ≤ unit * b.capacity := Nat.mul_le_mul_left unit h
  have hcarry := b.carry_lt
  rw [Nat.mul_add, Nat.mul_one] at hmul
  unfold units
  omega

theorem Tracks.accrue (h : b.Tracks t) (n : ℕ) : (b.accrue n).Tracks (t.fill n) := by
  have hle := h.le
  have hlt := h.lt
  have hcapacity := h.capacity
  by_cases hfull : b.capacity ≤ b.level + (b.carry + n) / unit
  · -- the bucket fills up, so the tank does, or lacks less than a token
    have henough : unit * b.capacity ≤ b.units + n := by
      have hmul := Nat.mul_le_mul_left unit hfull
      have hdiv := Nat.div_add_mod (b.carry + n) unit
      rw [Nat.mul_add] at hmul
      unfold units
      omega
    rw [accrue_of_le hfull]
    refine ⟨h.capacity, ?_, ?_⟩
    · rw [units_full, ← hcapacity]
      exact min_le_right _ _
    · rw [units_full, ← hcapacity]
      show t.capacity < min (t.level + n) t.capacity + unit
      have hunit := b.unit_pos
      omega
  · have hunits := units_accrue hfull
    have hroom : (b.accrue n).units < unit * b.capacity := by
      apply units_lt (b := b.accrue n)
      rw [accrue_level]
      exact (min_le_left _ _).trans_lt (not_le.mp hfull)
    have hlevel : (t.fill n).level = t.level + n := by
      apply min_eq_left
      omega
    refine ⟨h.capacity, ?_, ?_⟩
    · rw [hlevel, hunits]
      omega
    · rw [hlevel, hunits]
      omega

theorem Tracks.deposit (h : b.Tracks t) (n : ℕ) :
    (b.deposit n).Tracks (t.fill (unit * n)) := by
  have hle := h.le
  have hlt := h.lt
  have hcapacity := h.capacity
  unfold units at hle hlt
  have hunits : (b.deposit n).units =
      min (unit * b.level + unit * n) (unit * b.capacity) + b.carry := by
    rw [units, ← Nat.mul_add, Nat.mul_min_mul_left]
    rfl
  refine ⟨h.capacity, ?_, ?_⟩
  · rw [hunits]
    show min (t.level + unit * n) t.capacity ≤ _
    omega
  · rw [hunits]
    show _ < min (t.level + unit * n) t.capacity + unit
    have hcarry := b.carry_lt
    omega

theorem Tracks.withdraw (h : b.Tracks t) (n : ℕ) :
    (b.withdraw n).Tracks (t.drain (unit * n)) := by
  have hle := h.le
  have hlt := h.lt
  have hcarry := b.carry_lt
  unfold units at hle hlt
  have hunits : (b.withdraw n).units = unit * b.level - unit * n + b.carry := by
    rw [units, ← Nat.mul_sub]
    rfl
  refine ⟨h.capacity, ?_, ?_⟩
  · rw [hunits]
    show t.level - unit * n ≤ _
    by_cases hn : n ≤ b.level
    · have hmul := Nat.mul_le_mul_left unit hn
      omega
    · -- the tank is empty: it held less than one token more than the bucket
      have hmul : unit * (b.level + 1) ≤ unit * n := Nat.mul_le_mul_left unit (not_le.mp hn)
      rw [Nat.mul_add, Nat.mul_one] at hmul
      omega
  · rw [hunits]
    show _ < t.level - unit * n + unit
    omega

theorem Tracks.resize (h : b.Tracks t) (m : ℕ) :
    (b.resize m).Tracks (t.resize (unit * m)) := by
  have hle := h.le
  have hlt := h.lt
  have hcapacity := h.capacity
  have hcarry := b.carry_lt
  have hgap : unit * (b.capacity - b.level) = unit * b.capacity - unit * b.level :=
    Nat.mul_sub _ _ _
  have hlevel := Nat.mul_le_mul_left unit b.level_le
  unfold units at hle hlt
  by_cases hfit : m < b.capacity - b.level
  · -- the gap does not fit, so both are empty
    have hmul : unit * (m + 1) ≤ unit * (b.capacity - b.level) := Nat.mul_le_mul_left unit hfit
    rw [Nat.mul_add, Nat.mul_one] at hmul
    have hunits : (b.resize m).units = 0 := by
      have hempty : (b.resize m).level = 0 := Nat.sub_eq_zero_of_le hfit.le
      have hnothing : (b.resize m).carry = 0 := if_pos hfit
      rw [units, hempty, hnothing]
      rfl
    refine ⟨rfl, ?_, ?_⟩
    · rw [hunits]
      show unit * m - (t.capacity - t.level) ≤ 0
      omega
    · rw [hunits]
      exact Nat.add_pos_right _ b.unit_pos
  · have hunits : (b.resize m).units = unit * m - (unit * b.capacity - unit * b.level) + b.carry := by
      have hkept : (b.resize m).carry = b.carry := if_neg hfit
      rw [units, hkept, ← hgap, ← Nat.mul_sub]
      rfl
    have hmul : unit * (b.capacity - b.level) ≤ unit * m :=
      Nat.mul_le_mul_left unit (not_lt.mp hfit)
    refine ⟨rfl, ?_, ?_⟩
    · rw [hunits]
      show unit * m - (t.capacity - t.level) ≤ _
      omega
    · rw [hunits]
      show _ < unit * m - (t.capacity - t.level) + unit
      omega

end Bucket
