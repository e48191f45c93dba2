import Mathlib.Algebra.Order.Floor.Semiring
import Mathlib.Tactic.FieldSimp
import Mathlib.Tactic.NormNum
import Mathlib.Tactic.Positivity
import Mathlib.Tactic.Ring
import ViewLayout.Proofs.Number.Order

/-!
# Rounding out of the range

A quotient is rounded to the nearest number, a half going to the even one, so that it becomes
infinite from half a step above the greatest finite number on. `Magnitude.isFinite_ofRatio_iff` says
so of any quotient, and `Binary64.isFinite_reciprocal_iff` of one divided by a number.
-/

namespace ViewLayout

/-- The least rational that is rounded to infinity: half a step above the greatest finite number. -/
def overflowBound : ℚ := 2 ^ 1024 - 2 ^ 970

/-- The bound of overflow is between two powers. -/
theorem overflowBound_bounds : 2 ^ 1023 < overflowBound ∧ overflowBound < 2 ^ 1024 := by
  have double : (2 : ℚ) ^ 1024 = 2 * 2 ^ 1023 := pow_succ' 2 1023
  have step : (2 : ℚ) ^ 970 < 2 ^ 1023 := pow_lt_pow_right₀ one_lt_two (by decide)
  have positive : (0 : ℚ) < 2 ^ 970 := pow_pos two_pos _
  rw [overflowBound, double]
  generalize (2 : ℚ) ^ 1023 = half at step ⊢
  generalize (2 : ℚ) ^ 970 = least at step positive ⊢
  constructor <;> linarith

/-- The bound in units of the last place of the greatest finite number. -/
theorem overflowBound_eq : overflowBound = (2 ^ 53 - 1 / 2) * 2 ^ 971 := by
  have whole : (2 : ℚ) ^ 1024 = 2 ^ 54 * 2 ^ 970 := pow_add 2 54 970
  have double : (2 : ℚ) ^ 971 = 2 * 2 ^ 970 := pow_succ' 2 970
  rw [overflowBound, whole, double]
  generalize (2 : ℚ) ^ 970 = least
  ring

/-- Powers of two with a larger exponent. -/
theorem two_zpow_add (exponent : ℤ) (more : Nat) :
    (2 : ℚ) ^ (exponent + more) = 2 ^ more * 2 ^ exponent := by
  rw [zpow_add₀ two_ne_zero, zpow_natCast, mul_comm]

/-- An even natural is reached by rounding from half below it on. -/
theorem le_roundedQuotient_iff {dividend divisor least : Nat} (divides : 0 < divisor)
    (even : least % 2 = 0) :
    least ≤ roundedQuotient dividend divisor ↔ 2 * least * divisor ≤ 2 * dividend + divisor := by
  have parts := Nat.div_add_mod dividend divisor
  have small := Nat.mod_lt dividend divides
  unfold roundedQuotient
  dsimp only
  generalize dividend / divisor = whole at parts ⊢
  generalize dividend % divisor = remainder at parts small ⊢
  subst parts
  have split : 2 * (divisor * whole + remainder) + divisor =
      2 * whole * divisor + (2 * remainder + divisor) := by ring
  -- What is left after the whole part makes up no step or one.
  have reached (steps : Nat) (low : 2 * steps * divisor ≤ 2 * remainder + divisor)
      (high : 2 * remainder + divisor < 2 * (steps + 1) * divisor) :
      2 * least * divisor ≤ 2 * whole * divisor + (2 * remainder + divisor) ↔
        least ≤ whole + steps := by
    constructor
    · intro below
      by_contra above
      have more : 2 * (whole + (steps + 1)) * divisor ≤ 2 * least * divisor :=
        Nat.mul_le_mul_right _ (Nat.mul_le_mul_left _ (by omega))
      have sum : 2 * (whole + (steps + 1)) * divisor =
          2 * whole * divisor + 2 * (steps + 1) * divisor := by ring
      omega
    · intro below
      have less : 2 * least * divisor ≤ 2 * (whole + steps) * divisor :=
        Nat.mul_le_mul_right _ (Nat.mul_le_mul_left _ below)
      have sum : 2 * (whole + steps) * divisor = 2 * whole * divisor + 2 * steps * divisor := by
        ring
      omega
  rw [split]
  by_cases low : 2 * remainder < divisor
  · rw [if_pos low, reached 0 (by omega) (by omega), Nat.add_zero]
  · rw [if_neg low, reached 1 (by omega) (by omega)]
    split
    · exact Iff.rfl
    · omega

/-- A fraction that is scaled is divided by the power. -/
theorem cast_scaledFraction {base n d : Nat} (positive : 0 < base) (power : ℤ) :
    ((scaledFraction base n d power).1 : ℚ) / (scaledFraction base n d power).2 =
      n / d / (base : ℚ) ^ power := by
  have nonzero : (base : ℚ) ≠ 0 := by exact_mod_cast positive.ne'
  unfold scaledFraction
  split
  · next up =>
    obtain ⟨exponent, rfl⟩ := Int.eq_ofNat_of_zero_le up
    simp only [Int.toNat_natCast, Nat.pow_eq, zpow_natCast]
    push_cast
    exact (div_div _ _ _).symm
  · next down =>
    obtain ⟨exponent, same⟩ := Int.eq_ofNat_of_zero_le (show 0 ≤ -power by omega)
    obtain rfl : power = -(exponent : ℤ) := by omega
    simp only [neg_neg, Int.toNat_natCast, Nat.pow_eq, zpow_neg, zpow_natCast, div_inv_eq_mul]
    push_cast
    ring

/-- A scaled fraction keeps a denominator. -/
theorem snd_scaledFraction_pos {base n d : Nat} (positive : 0 < base) (divides : 0 < d)
    (power : ℤ) : 0 < (scaledFraction base n d power).2 := by
  unfold scaledFraction
  split
  · exact Nat.mul_pos divides (Nat.pow_pos positive)
  · exact divides

namespace Magnitude

/-- A quotient lies between powers of two by the logarithms of its parts. -/
theorem quotient_bounds {n d : Nat} (nonzero : n ≠ 0) (divides : d ≠ 0) :
    (2 : ℚ) ^ ((n.log2 : ℤ) - d.log2 - 1) < n / d ∧
      (n : ℚ) / d < 2 ^ ((n.log2 : ℤ) - d.log2 + 1) := by
  have two : (2 : ℚ) ≠ 0 := two_ne_zero
  have positive : (0 : ℚ) < d := by exact_mod_cast Nat.pos_of_ne_zero divides
  have lowN : (2 : ℚ) ^ (n.log2 : ℤ) ≤ n := by exact_mod_cast Nat.log2_self_le nonzero
  have lowD : (2 : ℚ) ^ (d.log2 : ℤ) ≤ d := by exact_mod_cast Nat.log2_self_le divides
  have highN : (n : ℚ) < 2 ^ ((n.log2 : ℤ) + 1) := by exact_mod_cast Nat.lt_log2_self
  have highD : (d : ℚ) < 2 ^ ((d.log2 : ℤ) + 1) := by exact_mod_cast Nat.lt_log2_self
  constructor
  · rw [lt_div_iff₀ positive]
    calc (2 : ℚ) ^ ((n.log2 : ℤ) - d.log2 - 1) * d
        < 2 ^ ((n.log2 : ℤ) - d.log2 - 1) * 2 ^ ((d.log2 : ℤ) + 1) :=
          mul_lt_mul_of_pos_left highD (zpow_pos two_pos _)
      _ = 2 ^ (n.log2 : ℤ) := by
          rw [← zpow_add₀ two]
          congr 1
          ring
      _ ≤ n := lowN
  · rw [div_lt_iff₀ positive]
    calc (n : ℚ) < 2 ^ ((n.log2 : ℤ) + 1) := highN
      _ = 2 ^ ((n.log2 : ℤ) - d.log2 + 1) * 2 ^ (d.log2 : ℤ) := by
          rw [← zpow_add₀ two]
          congr 1
          ring
      _ ≤ 2 ^ ((n.log2 : ℤ) - d.log2 + 1) * d :=
          mul_le_mul_of_nonneg_left lowD (zpow_pos two_pos _).le

/-- The power of two by which a quotient is divided before it is rounded, if that is not less than
the least one. -/
def scale (n d : Nat) : ℤ :=
  let estimate : ℤ := (n.log2 : ℤ) - (d.log2 : ℤ) - 52
  let probe := scaledFraction 2 n d estimate
  if probe.1 / probe.2 < Nat.pow 2 52 then estimate - 1 else estimate

/-- A quotient that is scaled has 53 bits before the point. -/
theorem scale_bounds {n d : Nat} (nonzero : n ≠ 0) (divides : d ≠ 0) :
    (2 : ℚ) ^ (scale n d + 52) ≤ n / d ∧ (n : ℚ) / d < 2 ^ (scale n d + 53) := by
  obtain ⟨low, high⟩ := quotient_bounds nonzero divides
  unfold scale
  dsimp only
  generalize estimated : (n.log2 : ℤ) - d.log2 - 52 = estimate
  have unit : (0 : ℚ) < 2 ^ estimate := zpow_pos two_pos _
  have probed := cast_scaledFraction (n := n) (d := d) two_pos estimate
  have divisor := snd_scaledFraction_pos (n := n) two_pos (Nat.pos_of_ne_zero divides) estimate
  have power : (2 : ℚ) ^ (estimate + 52) = 2 ^ 52 * 2 ^ estimate := two_zpow_add estimate 52
  have whole : (scaledFraction 2 n d estimate).1 / (scaledFraction 2 n d estimate).2 <
      Nat.pow 2 52 ↔ (n : ℚ) / d < 2 ^ (estimate + 52) := by
    have scaled : (n : ℚ) / d < 2 ^ 52 * 2 ^ estimate ↔ (n : ℚ) / d / 2 ^ estimate < 2 ^ 52 :=
      (div_lt_iff₀ unit).symm
    rw [Nat.div_lt_iff_lt_mul divisor, power, scaled, ← Nat.cast_ofNat (R := ℚ) (n := 2), ← probed,
      div_lt_iff₀ (by exact_mod_cast divisor), Nat.pow_eq]
    exact_mod_cast Iff.rfl
  split
  · next small =>
    refine ⟨?_, ?_⟩
    · rw [show estimate - 1 + 52 = (n.log2 : ℤ) - d.log2 - 1 by omega]
      exact low.le
    · rw [show estimate - 1 + 53 = estimate + 52 by omega]
      exact whole.1 small
  · next large =>
    refine ⟨not_lt.1 (mt whole.2 large), ?_⟩
    rw [show estimate + 53 = (n.log2 : ℤ) - d.log2 + 1 by omega]
    exact high

/-- The pattern of a quotient before it is cut off at infinity. -/
theorem bits_ofRatio {n d : Nat} (nonzero : n ≠ 0) :
    (ofRatio n d).bits =
      min ((max (scale n d) (-1074) + 1074).toNat * Nat.pow 2 52 +
        roundedQuotient (scaledFraction 2 n d (max (scale n d) (-1074))).1
          (scaledFraction 2 n d (max (scale n d) (-1074))).2) infinityBits := by
  rw [ofRatio, if_neg nonzero]
  rfl

/-- **A quotient is rounded to a finite number exactly if it is below the bound.** -/
theorem isFinite_ofRatio_iff {n d : Nat} (divides : d ≠ 0) :
    (ofRatio n d).isFinite = true ↔ (n : ℚ) / d < overflowBound := by
  by_cases nonzero : n = 0
  · subst nonzero
    refine iff_of_true rfl ?_
    rw [Nat.cast_zero, zero_div]
    exact lt_trans (pow_pos two_pos _) overflowBound_bounds.1
  obtain ⟨low, high⟩ := scale_bounds nonzero divides
  rw [isFinite, decide_eq_true_eq, bits_ofRatio nonzero]
  generalize scaled : max (scale n d) (-1074) = power
  have divisor := snd_scaledFraction_pos (n := n) two_pos (Nat.pos_of_ne_zero divides) power
  have fraction := cast_scaledFraction (n := n) (d := d) two_pos power
  -- An even pattern is reached from half a step below it on.
  have reached {least : Nat} (even : least % 2 = 0) :
      least ≤ roundedQuotient (scaledFraction 2 n d power).1 (scaledFraction 2 n d power).2 ↔
        ((least : ℚ) - 1 / 2) * 2 ^ power ≤ n / d := by
    rw [le_roundedQuotient_iff divisor even]
    have positive : (0 : ℚ) < (scaledFraction 2 n d power).2 := by exact_mod_cast divisor
    have unit : (0 : ℚ) < ((2 : Nat) : ℚ) ^ power := zpow_pos (by norm_num) _
    rw [show (2 : ℚ) ^ power = ((2 : Nat) : ℚ) ^ power by norm_num, ← le_div_iff₀ unit, ← fraction,
      le_div_iff₀ positive, ← Nat.cast_le (α := ℚ)]
    push_cast
    constructor <;> intro below <;> linarith
  generalize roundedQuotient (scaledFraction 2 n d power).1 (scaledFraction 2 n d power).2 =
    rounded at reached
  have cut : min ((power + 1074).toNat * Nat.pow 2 52 + rounded) infinityBits < infinityBits ↔
      (power + 1074).toNat * 2 ^ 52 + rounded < 2047 * 2 ^ 52 := by
    change min ((power + 1074).toNat * 2 ^ 52 + rounded) (2047 * 2 ^ 52) < 2047 * 2 ^ 52 ↔ _
    omega
  rw [cut]
  rcases lt_trichotomy power 971 with below | rfl | above
  · have upper : (n : ℚ) / d < 2 ^ 53 * 2 ^ power := by
      rw [← two_zpow_add power 53]
      exact lt_of_lt_of_le high (zpow_le_zpow_right₀ one_le_two (by push_cast; omega))
    have fits : rounded < 2 ^ 53 + 2 := by
      rw [← not_le, reached (by decide), not_le]
      refine lt_of_lt_of_le upper (mul_le_mul_of_nonneg_right ?_ (zpow_pos two_pos _).le)
      norm_num
    refine iff_of_true (by omega) ?_
    rw [← two_zpow_add power 53] at upper
    refine lt_trans (lt_of_lt_of_le upper ?_) overflowBound_bounds.1
    rw [← zpow_natCast]
    exact zpow_le_zpow_right₀ one_le_two (by push_cast; omega)
  · have last : ((971 : ℤ) + 1074).toNat * 2 ^ 52 + rounded < 2047 * 2 ^ 52 ↔
        ¬ 2 ^ 53 ≤ rounded := by
      rw [show ((971 : ℤ) + 1074).toNat = 2045 from rfl]
      omega
    have unit : (2 : ℚ) ^ (971 : ℤ) = 2 ^ 971 := zpow_natCast 2 971
    rw [last, reached (by decide), not_le, overflowBound_eq, unit]
    generalize (2 : ℚ) ^ 971 = step
    push_cast
    exact Iff.rfl
  · have normal : scale n d = power := by omega
    rw [normal] at low
    have leads : 2 ^ 52 ≤ rounded := by
      rw [reached (by decide)]
      refine le_trans (mul_le_mul_of_nonneg_right ?_ (zpow_pos two_pos _).le)
        ((two_zpow_add power 52).symm.trans_le low)
      norm_num
    refine iff_of_false (by omega) (not_lt.2 ?_)
    refine le_trans overflowBound_bounds.2.le (le_trans ?_ low)
    rw [← zpow_natCast]
    exact zpow_le_zpow_right₀ one_le_two (by push_cast; omega)

/-- The quotient of a finite magnitude's ratio is what it stands for. -/
theorem cast_toRatio (magnitude : Magnitude) :
    (magnitude.toRatio.1 : ℚ) / magnitude.toRatio.2 = magnitude.value := by
  rw [toRatio, cast_scaledFraction two_pos, value, Nat.cast_one, div_one, zpow_neg,
    div_inv_eq_mul, Nat.cast_ofNat]

end Magnitude

/-- One divided by a number is finite exactly if it is below the bound. -/
theorem Binary64.isFinite_reciprocal_iff {x : Binary64} {value : ℚ} (stands : x.value? = some value)
    (nonzero : value ≠ 0) : x.reciprocal.isFinite = true ↔ 1 / |value| < overflowBound := by
  cases x with
  | nan => cases stands
  | number negative magnitude =>
    obtain ⟨finite, same⟩ := Option.ite_none_right_eq_some.1 stands
    have size : |value| = magnitude.value := by
      cases same
      cases negative <;> simp [abs_of_nonneg magnitude.value_nonneg]
    have positive : magnitude.value ≠ 0 := by rwa [← size, abs_ne_zero]
    have bits : magnitude.bits ≠ 0 := fun zero => positive (Magnitude.value_eq_zero_iff.2 zero)
    have ratio := magnitude.cast_toRatio
    have divides : magnitude.toRatio.1 ≠ 0 := by
      intro zero
      rw [zero, Nat.cast_zero, zero_div] at ratio
      exact positive ratio.symm
    have quotient : 1 / magnitude.value =
        (magnitude.toRatio.2 : ℚ) / magnitude.toRatio.1 := by
      rw [← ratio, one_div_div]
    simp only [reciprocal, finite, bits, Bool.not_true, Bool.false_eq_true, ↓reduceIte, isFinite]
    rw [Magnitude.isFinite_ofRatio_iff divides, size, quotient]

end ViewLayout
