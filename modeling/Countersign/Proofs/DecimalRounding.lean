import Countersign.Proofs.DecimalSum
import Mathlib.Tactic.Ring

/-!
What rounding makes of a value. It depends on the value alone and not on the decimals that it
is written with: the multiple of the last place that is nearest, and the even one of two that
are equally near.
-/

namespace Countersign

open Digits

namespace Rounding

theorem halfEven_mul (n d : Nat) {k : Nat} (pos : 0 < k) : halfEven (n * k) (d * k) = halfEven n d := by
  have less : 2 * (n % d * k) < d * k ↔ 2 * (n % d) < d := by
    rw [← Nat.mul_assoc]
    exact Nat.mul_lt_mul_right pos
  have same : 2 * (n % d * k) = d * k ↔ 2 * (n % d) = d := by
    rw [← Nat.mul_assoc]
    exact Nat.mul_left_inj (Nat.ne_of_gt pos)
  unfold halfEven
  simp only [Nat.mul_div_mul_right _ _ pos, Nat.mul_mod_mul_right, less, same]

/-- No multiple is nearer, and of two that are as near it is the even one. -/
theorem halfEven_nearest (n : Nat) {d : Nat} (pos : 0 < d) :
    2 * ((n : Int) - halfEven n d * d).natAbs ≤ d ∧
      (2 * ((n : Int) - halfEven n d * d).natAbs = d → halfEven n d % 2 = 0) := by
  have split : (n : Int) = d * (n / d : Nat) + (n % d : Nat) := by exact_mod_cast (Nat.div_add_mod n d).symm
  have small := Nat.mod_lt n pos
  unfold halfEven
  generalize n / d = quotient at split
  generalize n % d = rest at split small
  dsimp only
  split_ifs with down
  · have distance : (n : Int) - quotient * d = rest := by
      rw [split]
      ring
    rw [distance, Int.natAbs_natCast]
    omega
  · have distance : (n : Int) - (quotient + 1 : Nat) * d = -(d - rest : Nat) := by
      rw [split, Nat.cast_sub (Nat.le_of_lt small)]
      push_cast
      ring
    rw [distance, Int.natAbs_neg, Int.natAbs_natCast]
    omega

end Rounding

namespace Decimal

def roundUnits (places : Nat) (units : Int) : Int :=
  units.sign * (Rounding.halfEven units.natAbs (tenPow (28 - places)) * tenPow (28 - places) : Nat)

theorem roundUnits_zero (places : Nat) : roundUnits places 0 = 0 := by
  rw [roundUnits, Int.sign_zero, Int.zero_mul]

theorem units_unsignZero (d : Decimal) : d.unsignZero.units = d.units := by
  unfold unsignZero units coefficient isZero
  by_cases empty : d.size = 0
  · simp [empty]
  · simp [empty]

theorem natAbs_units (d : Decimal) : d.units.natAbs = d.size * tenPow (28 - d.scale) := by
  rw [units, Int.natAbs_mul, natAbs_coefficient, Int.natAbs_natCast]

theorem sign_mul_size (d : Decimal) {size : Nat} (empty : d.size = 0 → size = 0) :
    d.units.sign * (size : Int) = (if d.negative then -size else size : Int) := by
  have unit_pos : (0 : Int) < tenPow (28 - d.scale) := Int.natCast_pos.mpr (tenPow_pos _)
  rw [units, Int.sign_mul, Int.sign_eq_one_of_pos unit_pos, Int.mul_one]
  by_cases none : d.size = 0
  · simp [empty none]
  · have positive : (0 : Int) < d.size := Int.natCast_pos.mpr (Nat.pos_of_ne_zero none)
    unfold coefficient
    split
    · rw [Int.sign_neg, Int.sign_eq_one_of_pos positive, Int.neg_one_mul]
    · rw [Int.sign_eq_one_of_pos positive, Int.one_mul]

theorem units_round (places : Nat) (d : Decimal) : (d.round places).units = roundUnits places d.units := by
  have unsigned : (d.round places).units = (cutTo Rounding.halfEven Rounding.halfEven_le places d).units := by
    unfold round
    dsimp only
    split
    · rfl
    · exact units_unsignZero _
  rw [unsigned, roundUnits, natAbs_units]
  unfold cutTo
  split
  next short =>
    have divides : tenPow (28 - places) ∣ d.size * tenPow (28 - d.scale) :=
      Dvd.dvd.mul_left (Nat.pow_dvd_pow 10 (Nat.sub_le_sub_left short 28)) _
    rw [Rounding.halfEven_of_dvd (tenPow_pos _) divides, Nat.div_mul_cancel divides, ← natAbs_units]
    exact (Int.sign_mul_natAbs d.units).symm
  next long =>
    have places_lt := Nat.lt_of_not_le long
    have widths : 28 - places = (d.scale - places) + (28 - d.scale) := by
      have := d.scale_le
      omega
    have empty : d.size = 0 → Rounding.halfEven d.size (tenPow (d.scale - places)) = 0 := by
      intro none
      rw [none, Rounding.halfEven_of_dvd (tenPow_pos _) (Nat.dvd_zero _), Nat.zero_div]
    rw [widths, tenPow_add, Rounding.halfEven_mul _ _ (tenPow_pos _), ← tenPow_add, ← widths, Nat.cast_mul,
      ← Int.mul_assoc, sign_mul_size d empty]
    rfl

end Decimal

end Countersign
