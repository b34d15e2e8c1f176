import Countersign.Decimal.Basic
import Mathlib.Tactic.Linarith

/-!
When a sum is exact. If any decimal at all has the value of a sum, then the sum comes out
with that value: no decimals are given up that count.
-/

namespace Countersign

namespace Digits

theorem tenPow_add (a b : Nat) : tenPow (a + b) = tenPow a * tenPow b := Nat.pow_add 10 a b

theorem tenPow_pos (n : Nat) : 0 < tenPow n := Nat.pow_pos (by decide)

end Digits

theorem Rounding.halfEven_of_dvd {n d : Nat} (pos : 0 < d) (divides : d ∣ n) : halfEven n d = n / d := by
  unfold halfEven
  rw [Nat.mod_eq_zero_of_dvd divides, Nat.mul_zero]
  exact if_pos (Or.inl pos)

namespace Decimal

open Digits

def Fits (units : Int) : Prop := ∃ d : Decimal, d.units = units

theorem natAbs_coefficient (d : Decimal) : d.coefficient.natAbs = d.size := by
  unfold coefficient
  cases d.negative <;> simp

theorem ofParts?_eq_some {negative : Bool} {size scale : Nat} {d : Decimal}
    (fits : ofParts? negative size scale = some d) :
    d.coefficient = (if negative then -size else size : Int) ∧ d.scale = scale := by
  unfold ofParts? at fits
  split at fits
  next =>
    cases fits
    refine ⟨?_, rfl⟩
    unfold coefficient
    by_cases zero : size = 0
    · simp [zero]
    · simp [zero]
  next => cases fits

theorem ofParts?_isSome {negative : Bool} {size scale : Nat} (size_lt : size < bound) (scale_le : scale ≤ 28) :
    (ofParts? negative size scale).isSome := by
  unfold ofParts?
  rw [dif_pos ⟨size_lt, scale_le⟩]
  rfl

theorem exists_dropped {c : Int} {scale : Nat} (scale_le : scale ≤ 28) {d : Decimal}
    (value : d.units = c * tenPow (28 - scale)) :
    ∃ dropped ≤ scale, tenPow dropped ∣ c.natAbs ∧ c.natAbs / tenPow dropped < bound := by
  have d_le := d.scale_le
  have unit_ne : (tenPow (28 - scale) : Int) ≠ 0 := Int.natCast_ne_zero.mpr (Nat.ne_of_gt (tenPow_pos _))
  unfold units at value
  by_cases shorter : d.scale ≤ scale
  · have split : 28 - d.scale = (scale - d.scale) + (28 - scale) := by omega
    rw [split, tenPow_add, Nat.cast_mul, ← mul_assoc] at value
    have same := mul_right_cancel₀ unit_ne value
    have size : c.natAbs = d.size * tenPow (scale - d.scale) := by
      rw [← same, Int.natAbs_mul, natAbs_coefficient, Int.natAbs_natCast]
    refine ⟨scale - d.scale, Nat.sub_le _ _, ?_, ?_⟩
    · rw [size]
      exact Nat.dvd_mul_left _ _
    · rw [size, Nat.mul_div_cancel _ (tenPow_pos _)]
      exact d.size_lt
  · refine ⟨0, Nat.zero_le _, one_dvd _, ?_⟩
    have split : 28 - scale = (d.scale - scale) + (28 - d.scale) := by omega
    rw [split, tenPow_add, Nat.cast_mul, ← mul_assoc] at value
    have rest_ne : (tenPow (28 - d.scale) : Int) ≠ 0 := Int.natCast_ne_zero.mpr (Nat.ne_of_gt (tenPow_pos _))
    have same := mul_right_cancel₀ rest_ne value
    have size : d.size = c.natAbs * tenPow (d.scale - scale) := by
      rw [← natAbs_coefficient, same, Int.natAbs_mul, Int.natAbs_natCast]
    have at_most : c.natAbs ≤ d.size := by
      rw [size]
      exact Nat.le_mul_of_pos_right _ (tenPow_pos _)
    rw [tenPow_zero, Nat.div_one]
    exact Nat.lt_of_le_of_lt at_most d.size_lt

theorem findSome?_range_le {α : Type} {f : Nat → Option α} {count most : Nat} {found : α}
    (first : (List.range count).findSome? f = some found) (most_lt : most < count) (fits : (f most).isSome) :
    ∃ least ≤ most, f least = some found := by
  obtain ⟨before, least, after, split, is, none⟩ := List.findSome?_eq_some_iff.mp first
  refine ⟨least, ?_, is⟩
  by_contra less
  have ordered : (before ++ least :: after).Pairwise (· < ·) := split ▸ List.pairwise_lt_range
  have listed : most ∈ before ++ least :: after := split ▸ List.mem_range.mpr most_lt
  obtain ⟨_, later, _⟩ := List.pairwise_append.mp ordered
  rcases List.mem_append.mp listed with earlier | rest
  · rw [none most earlier] at fits
    cases fits
  · rcases List.mem_cons.mp rest with rfl | rest
    · exact less (Nat.le_refl _)
    · exact less (Nat.le_of_lt ((List.pairwise_cons.mp later).1 most rest))

theorem fit?_exact {c : Int} {scale : Nat} (scale_le : scale ≤ 28) {d : Decimal}
    (value : d.units = c * tenPow (28 - scale)) :
    ∃ sum, fit? c scale = some sum ∧ sum.units = c * tenPow (28 - scale) := by
  obtain ⟨most, most_le, divides, small⟩ := exists_dropped scale_le value
  have most_lt := Nat.lt_succ_of_le most_le
  have fits : (ofParts? (c < 0) (Rounding.halfEven c.natAbs (tenPow most)) (scale - most)).isSome := by
    rw [Rounding.halfEven_of_dvd (tenPow_pos _) divides]
    exact ofParts?_isSome small (Nat.le_trans (Nat.sub_le _ _) scale_le)
  have enough : (fit? c scale).isSome := List.findSome?_isSome_iff.mpr ⟨most, List.mem_range.mpr most_lt, fits⟩
  obtain ⟨sum, found⟩ := Option.isSome_iff_exists.mp enough
  obtain ⟨least, least_le, is⟩ := findSome?_range_le found most_lt fits
  have still : tenPow least ∣ c.natAbs := (Nat.pow_dvd_pow 10 least_le).trans divides
  rw [Rounding.halfEven_of_dvd (tenPow_pos _) still] at is
  obtain ⟨coefficient_eq, scale_eq⟩ := ofParts?_eq_some is
  refine ⟨sum, found, ?_⟩
  have split : 28 - (scale - least) = least + (28 - scale) := by omega
  have whole : (c.natAbs / tenPow least : Nat) * (tenPow least : Int) = c.natAbs := by
    exact_mod_cast Nat.div_mul_cancel still
  have signed : sum.coefficient * tenPow least = c := by
    rw [coefficient_eq]
    by_cases negative : c < 0
    · rw [if_pos (decide_eq_true negative), Int.neg_mul, whole]
      omega
    · rw [if_neg (by simpa using negative), whole]
      omega
  unfold units
  rw [scale_eq, split, tenPow_add, Nat.cast_mul, ← mul_assoc, signed]

theorem units_coefficientAt (d : Decimal) {scale : Nat} (above : d.scale ≤ scale) (scale_le : scale ≤ 28) :
    d.coefficientAt scale * tenPow (28 - scale) = d.units := by
  unfold coefficientAt units
  have split : 28 - d.scale = (scale - d.scale) + (28 - scale) := by omega
  rw [split, tenPow_add, Nat.cast_mul, mul_assoc]

theorem units_of_isZero {d : Decimal} (zero : d.isZero = true) : d.units = 0 := by
  unfold units
  rw [(coefficient_eq_zero d).mpr zero, Int.zero_mul]

/-- A sum that some decimal equals comes out exact. -/
theorem add?_exact {a b d : Decimal} (value : d.units = a.units + b.units) :
    ∃ sum, add? a b = some sum ∧ sum.units = a.units + b.units := by
  unfold add?
  by_cases zeroA : a.isZero = true
  · rw [if_pos zeroA, units_of_isZero zeroA, Int.zero_add]
    exact ⟨b, rfl, rfl⟩
  · rw [if_neg zeroA]
    by_cases zeroB : b.isZero = true
    · rw [if_pos zeroB, units_of_isZero zeroB, Int.add_zero]
      exact ⟨a, rfl, rfl⟩
    · rw [if_neg zeroB]
      have scale_le : max a.scale b.scale ≤ 28 := Nat.max_le.mpr ⟨a.scale_le, b.scale_le⟩
      have sum_eq : (a.coefficientAt (max a.scale b.scale) + b.coefficientAt (max a.scale b.scale)) *
          tenPow (28 - max a.scale b.scale) = a.units + b.units := by
        rw [Int.add_mul, units_coefficientAt a (Nat.le_max_left _ _) scale_le,
          units_coefficientAt b (Nat.le_max_right _ _) scale_le]
      rw [← sum_eq] at value ⊢
      exact fit?_exact scale_le value

theorem add_exact {a b d : Decimal} (value : d.units = a.units + b.units) :
    ∃ sum, a.add b = .ok sum ∧ sum.units = a.units + b.units := by
  obtain ⟨sum, found, exact_⟩ := add?_exact value
  refine ⟨sum, ?_, exact_⟩
  rw [add, found]

theorem sub_exact {a b d : Decimal} (value : d.units = a.units - b.units) :
    ∃ difference, a.sub b = .ok difference ∧ difference.units = a.units - b.units := by
  have value' : d.units = a.units + b.neg.units := by
    rw [units_neg]
    exact value
  obtain ⟨difference, found, exact_⟩ := add?_exact value'
  refine ⟨difference, ?_, ?_⟩
  · rw [sub, found]
  · rw [exact_, units_neg]
    rfl

/-! The sign of a sum. Decimals may be given up, but none turns negative by that. -/

theorem units_nonneg_iff (d : Decimal) : 0 ≤ d.units ↔ 0 ≤ d.coefficient := by
  have unit_pos : (0 : Int) < tenPow (28 - d.scale) := Int.natCast_pos.mpr (tenPow_pos _)
  unfold units
  exact mul_nonneg_iff_of_pos_right unit_pos

theorem fit?_nonneg {c : Int} {scale : Nat} {sum : Decimal} (fits : fit? c scale = some sum) (nonneg : 0 ≤ c) :
    0 ≤ sum.units := by
  obtain ⟨dropped, _, found⟩ := List.exists_of_findSome?_eq_some fits
  have positive : decide (c < 0) = false := decide_eq_false (Int.not_lt_of_ge nonneg)
  rw [positive] at found
  rw [units_nonneg_iff, (ofParts?_eq_some found).1]
  exact Int.natCast_nonneg _

theorem add?_nonneg {a b sum : Decimal} (added : add? a b = some sum) (nonneg : 0 ≤ a.units + b.units) :
    0 ≤ sum.units := by
  unfold add? at added
  split at added
  next zero =>
    cases added
    rwa [units_of_isZero zero, Int.zero_add] at nonneg
  next =>
    split at added
    next zero =>
      cases added
      rwa [units_of_isZero zero, Int.add_zero] at nonneg
    next =>
      have scale_le : max a.scale b.scale ≤ 28 := Nat.max_le.mpr ⟨a.scale_le, b.scale_le⟩
      have unit_pos : (0 : Int) < tenPow (28 - max a.scale b.scale) := Int.natCast_pos.mpr (tenPow_pos _)
      rw [← units_coefficientAt a (Nat.le_max_left _ _) scale_le, ← units_coefficientAt b (Nat.le_max_right _ _) scale_le,
        ← Int.add_mul] at nonneg
      exact fit?_nonneg added ((mul_nonneg_iff_of_pos_right unit_pos).mp nonneg)

theorem nonneg_of_add {a b sum : Decimal} (added : a.add b = .ok sum) (nonneg : 0 ≤ a.units + b.units) : 0 ≤ sum.units := by
  unfold add at added
  split at added
  next found =>
    cases added
    exact add?_nonneg found nonneg
  next => cases added

theorem nonneg_of_sub {a b difference : Decimal} (subtracted : a.sub b = .ok difference) (covered : b.units ≤ a.units) :
    0 ≤ difference.units := by
  unfold sub at subtracted
  split at subtracted
  next found =>
    cases subtracted
    apply add?_nonneg found
    rw [units_neg]
    omega
  next => cases subtracted

end Decimal

end Countersign
