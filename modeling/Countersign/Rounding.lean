/-!
Quotients of natural numbers, rounded to the nearest whole number. The rules
differ only in what becomes of a half.
-/

namespace Countersign.Rounding

/-- The quotient nearest to `n / d`, a half going to the even one. -/
def halfEven (n d : Nat) : Nat :=
  let quotient := n / d
  let twice := 2 * (n % d)
  if twice < d ∨ twice = d ∧ quotient % 2 = 0 then quotient else quotient + 1

def halfUp (n d : Nat) : Nat :=
  if 2 * (n % d) < d then n / d else n / d + 1

theorem halfEven_le (n d : Nat) (h : 1 < d) : halfEven n d ≤ n := by
  unfold halfEven
  have split := Nat.div_add_mod n d
  have small := Nat.mod_lt n (Nat.lt_trans Nat.zero_lt_one h)
  have double : 2 * (n / d) ≤ d * (n / d) := Nat.mul_le_mul_right _ h
  dsimp only
  split <;> omega

theorem halfUp_le (n d : Nat) (h : 1 < d) : halfUp n d ≤ n := by
  unfold halfUp
  have split := Nat.div_add_mod n d
  have small := Nat.mod_lt n (Nat.lt_trans Nat.zero_lt_one h)
  have double : 2 * (n / d) ≤ d * (n / d) := Nat.mul_le_mul_right _ h
  split <;> omega

end Countersign.Rounding
