/-!
Decimal digits of natural numbers, as characters. A number is written without
leading zeros, or with a fixed count of digits; a run of digits is read back as
its value. The digit with `n` digits after it counts `tenPow n` times.
-/

namespace Countersign.Digits

def tenPow (n : Nat) : Nat := Nat.pow 10 n

@[simp] theorem tenPow_zero : tenPow 0 = 1 := rfl

theorem one_lt_tenPow (n : Nat) (h : 0 < n) : 1 < tenPow n :=
  Nat.one_lt_pow (Nat.ne_of_gt h) (by decide)

def ofNat (n : Nat) : List Char := Nat.toDigits 10 n

/-- The last `count` digits of a number, with leading zeros. -/
def fixed : Nat → Nat → List Char
  | 0, _ => []
  | count + 1, n => fixed count (n / 10) ++ [Nat.digitChar (n % 10)]

def atLeast (count n : Nat) : List Char :=
  List.replicate (count - (ofNat n).length) '0' ++ ofNat n

def value (digits : List Char) : Nat := Nat.ofDigitChars 10 digits 0

def read? (text : List Char) : Option Nat :=
  if text ≠ [] ∧ text.all Char.isDigit then some (value text) else none

def digit (c : Char) : Nat := c.toNat - '0'.toNat

theorem value_ofNat (n : Nat) : value (ofNat n) = n :=
  Nat.ofDigitChars_toDigits (by decide) (by decide)

theorem length_fixed (count n : Nat) : (fixed count n).length = count := by
  induction count generalizing n with
  | zero => rfl
  | succ count ih => simp [fixed, ih]

end Countersign.Digits
