import Mathlib.Tactic.Ring
import Mathlib.Tactic.Linarith

/-!
# Checked and saturating machine arithmetic

The operations on fixed-width integers that a program chooses when it does not
want to wrap: `checked_*` answers `none` on overflow, `saturating_*` clamps,
`abs_diff` cannot overflow. Each comes with one lemma that says what it computes
over `Nat` or `Int`, and the proofs of the development use only these lemmas.

The unsigned 64-bit type is Lean's `UInt64`. The 128-bit types have no Lean
counterpart, so operations on them are range checks on an `Int` or a `Nat`: the
value a program holds is the number itself, and `checkedSigned 128`,
`checkedUnsigned 128` say whether the machine could have represented it.
-/

namespace UInt64

def checkedAdd (a b : UInt64) : Option UInt64 :=
  if a.toNat + b.toNat < 2 ^ 64 then some (a + b) else none

def checkedSub (a b : UInt64) : Option UInt64 :=
  if b ≤ a then some (a - b) else none

def saturatingAdd (a b : UInt64) : UInt64 := (a.checkedAdd b).getD (UInt64.ofNat (2 ^ 64 - 1))

def saturatingSub (a b : UInt64) : UInt64 := (a.checkedSub b).getD 0

def absDiff (a b : UInt64) : UInt64 := if a < b then b - a else a - b

/-- `u64::MAX`. -/
def maxValue : UInt64 := UInt64.ofNat (2 ^ 64 - 1)

/-- `u64::try_from`, from a non-negative number. -/
def tryFrom (n : Nat) : Option UInt64 := if n < 2 ^ 64 then some (UInt64.ofNat n) else none

variable {a b c : UInt64}

theorem toNat_maxValue : maxValue.toNat = 2 ^ 64 - 1 := rfl

theorem toNat_lt_pow (a : UInt64) : a.toNat < 2 ^ 64 := a.toNat_lt

theorem checkedAdd_eq_some : a.checkedAdd b = some c ↔ c.toNat = a.toNat + b.toNat := by
  unfold checkedAdd
  have hc := toNat_lt_pow c
  split
  · rename_i h
    rw [Option.some.injEq, ← UInt64.toNat_inj, UInt64.toNat_add, Nat.mod_eq_of_lt h]
    exact eq_comm
  · simp only [reduceCtorEq, false_iff]
    omega

theorem checkedAdd_eq_none : a.checkedAdd b = none ↔ 2 ^ 64 ≤ a.toNat + b.toNat := by
  unfold checkedAdd
  split <;> simp <;> omega

theorem checkedSub_eq_some : a.checkedSub b = some c ↔ a.toNat = b.toNat + c.toNat := by
  unfold checkedSub
  split
  · rename_i h
    have hle := UInt64.le_iff_toNat_le.mp h
    rw [Option.some.injEq, ← UInt64.toNat_inj, UInt64.toNat_sub_of_le _ _ h]
    omega
  · rename_i h
    rw [UInt64.le_iff_toNat_le] at h
    simp only [reduceCtorEq, false_iff]
    omega

theorem checkedSub_eq_none : a.checkedSub b = none ↔ a.toNat < b.toNat := by
  unfold checkedSub
  split
  · rename_i h
    rw [UInt64.le_iff_toNat_le] at h
    simp only [reduceCtorEq, false_iff]
    omega
  · rename_i h
    rw [UInt64.le_iff_toNat_le] at h
    simp only [true_iff]
    omega

theorem toNat_saturatingAdd : (a.saturatingAdd b).toNat = min (a.toNat + b.toNat) (2 ^ 64 - 1) := by
  unfold saturatingAdd
  cases h : a.checkedAdd b with
  | none =>
    rw [checkedAdd_eq_none] at h
    simp only [Option.getD_none, UInt64.toNat_ofNat']
    omega
  | some c =>
    rw [checkedAdd_eq_some] at h
    have hc := toNat_lt_pow c
    simp only [Option.getD_some]
    omega

theorem toNat_saturatingSub : (a.saturatingSub b).toNat = a.toNat - b.toNat := by
  unfold saturatingSub
  cases h : a.checkedSub b with
  | none =>
    rw [checkedSub_eq_none] at h
    simp only [Option.getD_none, UInt64.toNat_ofNat]
    omega
  | some c =>
    rw [checkedSub_eq_some] at h
    simp only [Option.getD_some]
    omega

theorem toNat_absDiff : (a.absDiff b).toNat = (a.toNat - b.toNat) + (b.toNat - a.toNat) := by
  unfold absDiff
  split
  · rename_i h
    have hlt := UInt64.lt_iff_toNat_lt.mp h
    rw [UInt64.toNat_sub_of_le _ _ (UInt64.le_iff_toNat_le.mpr hlt.le)]
    omega
  · rename_i h
    rw [UInt64.lt_iff_toNat_lt, not_lt] at h
    rw [UInt64.toNat_sub_of_le _ _ (UInt64.le_iff_toNat_le.mpr h)]
    omega

theorem tryFrom_eq_some {n : Nat} : tryFrom n = some a ↔ a.toNat = n := by
  unfold tryFrom
  have ha := toNat_lt_pow a
  split
  · rename_i h
    rw [Option.some.injEq, ← UInt64.toNat_inj, UInt64.toNat_ofNat', Nat.mod_eq_of_lt h]
    exact eq_comm
  · simp only [reduceCtorEq, false_iff]
    omega

theorem tryFrom_eq_none {n : Nat} : tryFrom n = none ↔ 2 ^ 64 ≤ n := by
  unfold tryFrom
  split <;> simp <;> omega

/-- A conversion that clamps. -/
theorem toNat_tryFrom_getD_maxValue {n : Nat} :
    ((tryFrom n).getD maxValue).toNat = min n (2 ^ 64 - 1) := by
  cases h : tryFrom n with
  | some a =>
    have ha := toNat_lt_pow a
    rw [tryFrom_eq_some] at h
    rw [Option.getD_some, h]
    omega
  | none =>
    rw [tryFrom_eq_none] at h
    rw [Option.getD_none, toNat_maxValue]
    omega

theorem toNat_tryFrom_getD_of_lt {n : Nat} (h : n < 2 ^ 64) : ((tryFrom n).getD b).toNat = n := by
  unfold tryFrom
  rw [if_pos h, Option.getD_some, UInt64.toNat_ofNat', Nat.mod_eq_of_lt h]

end UInt64

namespace Word

/-- The numbers a two's complement integer of `w` bits holds. -/
def FitsSigned (w : Nat) (n : Int) : Prop := -2 ^ (w - 1) ≤ n ∧ n < 2 ^ (w - 1)

instance (w : Nat) (n : Int) : Decidable (FitsSigned w n) := inferInstanceAs (Decidable (_ ∧ _))

/-- The result of a checked operation on `i<w>` whose exact value is `n`. -/
def checkedSigned (w : Nat) (n : Int) : Option Int := if FitsSigned w n then some n else none

/-- The result of a checked operation on `u<w>` whose exact value is `n`. -/
def checkedUnsigned (w : Nat) (n : Nat) : Option Nat := if n < 2 ^ w then some n else none

/-- `x as u<w>` of a signed integer: two's complement. -/
def asUnsigned (w : Nat) (n : Int) : Nat := (n % 2 ^ w).toNat

/-- `checked_div` of an `i<w>`, which truncates towards zero. -/
def checkedDiv (w : Nat) (a b : Int) : Option Int :=
  if b = 0 then none else checkedSigned w (a.tdiv b)

/-- `checked_rem` of an `i<w>`: the remainder of `checkedDiv`, and like it `none`
    on the smallest number divided by minus one. -/
def checkedRem (w : Nat) (a b : Int) : Option Int :=
  if b = 0 then none
  else if FitsSigned w (a.tdiv b) then some (a.tmod b) else none

variable {w : Nat} {n m q : Int}

theorem checkedSigned_eq_some : checkedSigned w n = some m ↔ n = m ∧ FitsSigned w n := by
  unfold checkedSigned
  split <;> simp [*]

theorem checkedUnsigned_eq_some {n m : Nat} :
    checkedUnsigned w n = some m ↔ n = m ∧ n < 2 ^ w := by
  unfold checkedUnsigned
  split <;> simp [*]

/-- A quotient fits where the dividend does, except below the smallest number. -/
theorem FitsSigned.tdiv (hn : FitsSigned w n) (h : 0 ≤ n ∨ 0 ≤ m) : FitsSigned w (n.tdiv m) := by
  obtain ⟨hlow, hhigh⟩ := hn
  have habs : (n.tdiv m).natAbs ≤ n.natAbs := by
    rw [Int.natAbs_tdiv]
    exact Nat.div_le_self _ _
  unfold FitsSigned
  generalize (2 : Int) ^ (w - 1) = bound at *
  by_cases hsign : 0 ≤ n
  · omega
  · have hm : 0 ≤ m := h.resolve_left hsign
    have hquotient := Int.tdiv_nonneg (show 0 ≤ -n by omega) hm
    rw [Int.neg_tdiv] at hquotient
    omega

theorem asUnsigned_of_nonneg (h : 0 ≤ n) (h' : n < 2 ^ w) : asUnsigned w n = n.toNat := by
  unfold asUnsigned
  rw [Int.emod_eq_of_lt h h']

theorem checkedDiv_eq_some :
    checkedDiv w n m = some q ↔ m ≠ 0 ∧ n.tdiv m = q ∧ FitsSigned w (n.tdiv m) := by
  unfold checkedDiv
  split <;> simp [*, checkedSigned_eq_some]

theorem checkedRem_eq_some :
    checkedRem w n m = some q ↔ m ≠ 0 ∧ n.tmod m = q ∧ FitsSigned w (n.tdiv m) := by
  unfold checkedRem
  split
  · simp [*]
  · split <;> simp [*]

end Word
