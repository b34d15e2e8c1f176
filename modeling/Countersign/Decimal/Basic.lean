import Countersign.Digits
import Countersign.Rounding

/-!
A decimal is a sign and a size below `2 ^ 96` over a power of ten up to
`10 ^ 28`. The scale is kept, so `2.50` and `2.5` are two decimals of one value;
their value is the same number of units of `10 ^ -28`, and that number decides
order and equality of value. A zero may carry a minus sign, which counts for
neither.

A sum is exact whenever it fits. One that does not fit gives up as few decimals
as it must, a half going to the even neighbour, and one that does not fit even
as a whole number is an overflow.
-/

namespace Countersign

/-- One past the largest size of a decimal, which has 96 bits. -/
def Decimal.bound : Nat := 79228162514264337593543950336

structure Decimal where
  negative : Bool
  size : Nat
  scale : Nat
  size_lt : size < Decimal.bound
  scale_le : scale ≤ 28
deriving DecidableEq

namespace Decimal

def maxScale : Nat := 28

/-- The decimal of a sign, a size and a scale that fit; a zero gets no sign. -/
def ofParts? (negative : Bool) (size scale : Nat) : Option Decimal :=
  if h : size < bound ∧ scale ≤ 28 then some ⟨negative && size != 0, size, scale, h.1, h.2⟩
  else none

def ofInt? (n : Int) : Option Decimal := ofParts? (n < 0) n.natAbs 0

def zero : Decimal := ⟨false, 0, 0, by decide, by decide⟩

instance : Inhabited Decimal := ⟨zero⟩

/-- The value as a number of units of `10 ^ -scale`. -/
def coefficient (d : Decimal) : Int := if d.negative then -d.size else d.size

/-- The value as a number of units of `10 ^ -28`. -/
def units (d : Decimal) : Int := d.coefficient * Digits.tenPow (28 - d.scale)

instance : LE Decimal := ⟨fun a b => a.units ≤ b.units⟩
instance : LT Decimal := ⟨fun a b => a.units < b.units⟩
instance (a b : Decimal) : Decidable (a ≤ b) := inferInstanceAs (Decidable (a.units ≤ b.units))
instance (a b : Decimal) : Decidable (a < b) := inferInstanceAs (Decidable (a.units < b.units))

theorem le_def (a b : Decimal) : a ≤ b ↔ a.units ≤ b.units := Iff.rfl

theorem lt_def (a b : Decimal) : a < b ↔ a.units < b.units := Iff.rfl

/-- Order by value, which ignores the scale. -/
def compareValue (a b : Decimal) : Ordering := compare a.units b.units

def sameValue (a b : Decimal) : Bool := a.units == b.units

def isZero (d : Decimal) : Bool := d.size == 0

def neg (d : Decimal) : Decimal :=
  { d with negative := if d.isZero then d.negative else !d.negative }

@[simp] theorem units_zero : zero.units = 0 := rfl

theorem coefficient_eq_zero (d : Decimal) : d.coefficient = 0 ↔ d.isZero = true := by
  unfold coefficient isZero
  cases d.negative <;> simp

theorem coefficient_neg (d : Decimal) : d.neg.coefficient = -d.coefficient := by
  unfold neg coefficient isZero
  by_cases empty : d.size = 0
  · simp [empty]
  · cases d.negative <;> simp [empty]

@[simp] theorem units_neg (d : Decimal) : d.neg.units = -d.units := by
  unfold units
  rw [coefficient_neg]
  exact Int.neg_mul _ _

/-- Cuts off decimals beyond `places` and keeps the sign; a decimal with fewer stays
as it is. -/
def cutTo (rule : Nat → Nat → Nat) (shrinks : ∀ n d, 1 < d → rule n d ≤ n)
    (places : Nat) (d : Decimal) : Decimal :=
  if h : d.scale ≤ places then d
  else
    ⟨d.negative, rule d.size (Digits.tenPow (d.scale - places)), places,
      Nat.lt_of_le_of_lt
        (shrinks _ _ (Digits.one_lt_tenPow _ (Nat.sub_pos_of_lt (Nat.lt_of_not_le h)))) d.size_lt,
      Nat.le_trans (Nat.le_of_lt (Nat.lt_of_not_le h)) d.scale_le⟩

def unsignZero (d : Decimal) : Decimal := { d with negative := d.negative && !d.isZero }

/-- Rounds to `places` decimals, a half going to the even neighbour. A value that
comes out as zero loses its sign, a zero keeps it. -/
def round (places : Nat) (d : Decimal) : Decimal :=
  let rounded := cutTo Rounding.halfEven Rounding.halfEven_le places d
  if d.isZero then rounded else rounded.unsignZero

/-- Rounds to `places` decimals, a half going away from zero; the sign stays even
where nothing else does. -/
def roundAway (places : Nat) (d : Decimal) : Decimal := cutTo Rounding.halfUp Rounding.halfUp_le places d

/-- The decimal nearest to `coefficient / 10 ^ scale` with the most decimals that fit. -/
def fit? (coefficient : Int) (scale : Nat) : Option Decimal :=
  (List.range (scale + 1)).findSome? fun dropped =>
    ofParts? (coefficient < 0) (Rounding.halfEven coefficient.natAbs (Digits.tenPow dropped))
      (scale - dropped)

def coefficientAt (d : Decimal) (scale : Nat) : Int := d.coefficient * Digits.tenPow (scale - d.scale)

inductive Overflow where
  | addition
  | subtraction
deriving DecidableEq, Repr

def Overflow.message : Overflow → String
  | .addition => "Addition overflowed"
  | .subtraction => "Subtraction overflowed"

/-- A sum at the larger scale of the two; a zero gives the other operand unchanged. -/
def add? (a b : Decimal) : Option Decimal :=
  if a.isZero then some b
  else if b.isZero then some a
  else
    let scale := max a.scale b.scale
    fit? (a.coefficientAt scale + b.coefficientAt scale) scale

def add (a b : Decimal) : Except Overflow Decimal :=
  match add? a b with
  | some sum => .ok sum
  | none => .error .addition

def sub (a b : Decimal) : Except Overflow Decimal :=
  match add? a b.neg with
  | some difference => .ok difference
  | none => .error .subtraction

def sum (ds : List Decimal) : Except Overflow Decimal :=
  ds.foldlM add zero

end Decimal

end Countersign
