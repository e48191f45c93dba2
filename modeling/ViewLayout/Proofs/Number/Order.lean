import Mathlib.Algebra.Order.Field.Basic
import Mathlib.Algebra.Order.Field.Rat
import Mathlib.Order.Monotone.Basic
import Mathlib.Tactic.Linarith
import ViewLayout.Number.Binary64

/-!
# The values of numbers

A finite number stands for a rational: its significand times a power of two.
`Magnitude.value_le_iff` says that magnitudes are ordered as their patterns, and
`Binary64.atMost_iff` that numbers are compared by what they stand for.
-/

namespace ViewLayout

namespace Magnitude

variable {first second : Magnitude}

/-- The rational that a finite magnitude stands for. -/
def value (magnitude : Magnitude) : ℚ :=
  magnitude.significand * 2 ^ magnitude.exponent

/-- A pattern counted in units of the least positive magnitude. -/
def units (bits : Nat) : Nat :=
  if bits < 2 ^ 52 then bits else (2 ^ 52 + bits % 2 ^ 52) * 2 ^ (bits / 2 ^ 52 - 1)

/-- The value of a magnitude in units of the least one. -/
theorem value_eq_units (magnitude : Magnitude) :
    magnitude.value = units magnitude.bits * 2 ^ (-1074 : ℤ) := by
  have power : Nat.pow 2 52 = 2 ^ 52 := rfl
  unfold value significand exponent isSubnormal units
  by_cases small : magnitude.bits < 2 ^ 52
  · simp only [power, small, decide_true, ↓reduceIte]
  · have normal : 1 ≤ magnitude.bits / 2 ^ 52 := by omega
    have split : ((magnitude.bits / 2 ^ 52 : Nat) : ℤ) - 1075 =
        ((magnitude.bits / 2 ^ 52 - 1 : Nat) : ℤ) + -1074 := by omega
    simp only [power, small, decide_false, Bool.false_eq_true, ↓reduceIte]
    rw [split, zpow_add₀ two_ne_zero, zpow_natCast]
    generalize (2 : ℚ) ^ (-1074 : ℤ) = least
    push_cast
    exact (mul_assoc _ _ _).symm

/-- The next pattern is more units. -/
theorem units_lt_succ (bits : Nat) : units bits < units (bits + 1) := by
  unfold units
  by_cases small : bits + 1 < 2 ^ 52
  · rw [if_pos small, if_pos (by omega)]
    exact Nat.lt_succ_self bits
  · by_cases least : bits + 1 = 2 ^ 52
    · obtain rfl : bits = 2 ^ 52 - 1 := by omega
      decide
    · rw [if_neg small, if_neg (by omega)]
      by_cases full : bits % 2 ^ 52 + 1 < 2 ^ 52
      · have same : (bits + 1) / 2 ^ 52 = bits / 2 ^ 52 := by omega
        have next : (bits + 1) % 2 ^ 52 = bits % 2 ^ 52 + 1 := by omega
        rw [same, next]
        exact Nat.mul_lt_mul_of_pos_right (by omega) (Nat.two_pow_pos _)
      · -- The significand runs over, and the power of two is doubled.
        have doubled : (bits + 1) / 2 ^ 52 - 1 = bits / 2 ^ 52 - 1 + 1 := by omega
        have least : (bits + 1) % 2 ^ 52 = 0 := by omega
        have unit := Nat.two_pow_pos (bits / 2 ^ 52 - 1)
        calc (2 ^ 52 + bits % 2 ^ 52) * 2 ^ (bits / 2 ^ 52 - 1)
            < 2 ^ 52 * 2 * 2 ^ (bits / 2 ^ 52 - 1) := Nat.mul_lt_mul_of_pos_right (by omega) unit
          _ = (2 ^ 52 + (bits + 1) % 2 ^ 52) * 2 ^ ((bits + 1) / 2 ^ 52 - 1) := by
            rw [doubled, least, Nat.add_zero, pow_succ' 2 (bits / 2 ^ 52 - 1), Nat.mul_assoc]

/-- More bits are more units. -/
theorem strictMono_units : StrictMono units :=
  strictMono_nat_of_lt_succ units_lt_succ

/-- **Magnitudes are ordered as their patterns.** -/
theorem value_le_iff : first.value ≤ second.value ↔ first.bits ≤ second.bits := by
  have unit : (0 : ℚ) < 2 ^ (-1074 : ℤ) := zpow_pos two_pos _
  rw [value_eq_units, value_eq_units, mul_le_mul_iff_left₀ unit, Nat.cast_le,
    strictMono_units.le_iff_le]

/-- No magnitude is below zero. -/
theorem value_nonneg (magnitude : Magnitude) : 0 ≤ magnitude.value :=
  mul_nonneg (Nat.cast_nonneg _) (zpow_nonneg zero_le_two _)

/-- Only the least magnitude is zero. -/
theorem value_eq_zero_iff : first.value = 0 ↔ first.bits = 0 := by
  have least : Magnitude.zero.value = 0 := by
    rw [value_eq_units]
    simp [units, zero]
  have below := @value_le_iff first zero
  rw [least] at below
  rw [← first.value_nonneg.ge_iff_eq', below]
  exact Nat.le_zero

end Magnitude

namespace Binary64

variable {x y : Binary64} {p q : ℚ}

/-- The rational that a number stands for, if it is finite. -/
def value? : Binary64 → Option ℚ
  | nan => none
  | number negative magnitude =>
    if magnitude.isFinite then some (if negative then -magnitude.value else magnitude.value)
    else none

/-- Exactly the finite numbers stand for rationals. -/
theorem isSome_value? (x : Binary64) : x.value?.isSome = x.isFinite := by
  cases x with
  | nan => rfl
  | number negative magnitude =>
    cases finite : magnitude.isFinite <;> simp [value?, isFinite, finite]

/-- A number has a value exactly if it is finite. -/
theorem exists_value?_iff : (∃ p, x.value? = some p) ↔ x.isFinite = true := by
  rw [← isSome_value?, Option.isSome_iff_exists]

/-- Numbers are compared by what they stand for. -/
theorem atMost_iff (left : x.value? = some p) (right : y.value? = some q) :
    x.atMost y = true ↔ p ≤ q := by
  cases x with
  | nan => cases left
  | number negative magnitude =>
    cases y with
    | nan => cases right
    | number negated other =>
      cases (Option.ite_none_right_eq_some.1 left).2
      cases (Option.ite_none_right_eq_some.1 right).2
      have low := magnitude.value_nonneg
      have high := other.value_nonneg
      cases negative <;> cases negated <;> simp only [atMost, rank?, decide_eq_true_eq]
      · simp [Magnitude.value_le_iff]
      · -- Only zeros are at most a number that is not positive.
        simp only [Bool.false_eq_true, ↓reduceIte]
        constructor
        · intro below
          rw [Magnitude.value_eq_zero_iff.2 (by omega), Magnitude.value_eq_zero_iff.2 (by omega)]
          exact neg_zero.ge
        · intro below
          have least := Magnitude.value_eq_zero_iff.1 (le_antisymm (by linarith) low)
          have greatest := Magnitude.value_eq_zero_iff.1 (le_antisymm (by linarith) high)
          omega
      · simp only [Bool.false_eq_true, ↓reduceIte]
        exact iff_of_true (by omega) (by linarith)
      · simp [Magnitude.value_le_iff]

end Binary64

end ViewLayout
