import Countersign.Digits
import Countersign.Rounding

/-!
Sizes of finite binary floating-point numbers of 64 bits, held as a significand
below `2 ^ 53` times a power of two not below `2 ^ -1074`. The results of an
operation are exact quotients rounded once to the nearest such number, a half
going to the even significand.

The shortest decimal form of a number is the one with the fewest digits among
the decimals that round to it; of two such forms the nearer is taken, and the
larger when both are equally near.
-/

namespace Countersign

structure Binary64 where
  significand : Nat
  exponent : Int
deriving DecidableEq, Repr

namespace Binary64

/-- The least significand of a number that uses all 53 bits. -/
def leastFull : Nat := 4503599627370496

def zero : Binary64 := ⟨0, -1074⟩

def isZero (x : Binary64) : Bool := x.significand == 0

def scaled (numerator denominator : Nat) (exponent : Int) : Nat × Nat :=
  (numerator <<< exponent.toNat, denominator <<< (-exponent).toNat)

def ratio (x : Binary64) : Nat × Nat := scaled x.significand 1 x.exponent

/-- The exponent of the largest power of two not above a positive fraction. -/
def binaryLog (numerator denominator : Nat) : Int :=
  let guess : Int := (numerator.log2 : Int) - denominator.log2
  let (above, below) := scaled numerator denominator (-guess)
  if below ≤ above then guess else guess - 1

/-- The number nearest to a fraction, unless it lies beyond the largest one. -/
def nearest (numerator denominator : Nat) : Option Binary64 :=
  if numerator = 0 then some zero
  else
    let exponent := max (binaryLog numerator denominator - 52) (-1074)
    let (above, below) := scaled numerator denominator (-exponent)
    let significand := Rounding.halfEven above below
    let rounded : Binary64 :=
      if significand = 2 * leastFull then ⟨leastFull, exponent + 1⟩ else ⟨significand, exponent⟩
    if rounded.exponent ≤ 971 then some rounded else none

def ofNat? (n : Nat) : Option Binary64 := nearest n 1

def mul? (x y : Binary64) : Option Binary64 :=
  nearest (x.ratio.1 * y.ratio.1) (x.ratio.2 * y.ratio.2)

def div? (x y : Binary64) : Option Binary64 :=
  nearest (x.ratio.1 * y.ratio.2) (x.ratio.2 * y.ratio.1)

/-- A decimal form: digits times a power of ten. -/
structure Shortest where
  digits : Nat
  exponent : Int
deriving DecidableEq, Repr

/-- Whether a fraction rounds to `x`: half a step to either side, the ends only
when the significand is even. -/
def covers (x : Binary64) (numerator denominator : Nat) : Bool :=
  let lower := if x.significand = leastFull ∧ -1074 < x.exponent then 1 else 2
  let (low, lowUnit) := scaled (4 * x.significand - lower) 1 (x.exponent - 2)
  let (high, highUnit) := scaled (4 * x.significand + 2) 1 (x.exponent - 2)
  let left := low * denominator
  let middleLow := numerator * lowUnit
  let middleHigh := numerator * highUnit
  let right := high * denominator
  if x.significand % 2 = 0 then left ≤ middleLow && middleHigh ≤ right
  else left < middleLow && middleHigh < right

/-- The decimal on the grid `10 ^ exponent` that rounds to `x`, if one does. -/
def onGrid? (x : Binary64) (exponent : Int) : Option Shortest :=
  let up := Digits.tenPow exponent.toNat
  let down := Digits.tenPow (-exponent).toNat
  let (above, below) := (x.ratio.1 * down, x.ratio.2 * up)
  let floor := above / below
  let fits := fun n => n ≠ 0 ∧ x.covers (n * up) down
  if fits floor ∧ (2 * (above % below) < below ∨ ¬ fits (floor + 1)) then some ⟨floor, exponent⟩
  else if fits (floor + 1) then some ⟨floor + 1, exponent⟩
  else none

/-- Tries `count` grids, from a coarse one to finer ones. -/
def firstGrid (x : Binary64) (exponent : Int) : Nat → Shortest
  | 0 => ⟨0, 0⟩
  | count + 1 => (x.onGrid? exponent).getD (firstGrid x (exponent - 1) count)

def decimalCeiling (x : Binary64) : Int :=
  (x.exponent + x.significand.log2 + 1) * 30103 / 100000 + 1

def shortest (x : Binary64) : Shortest :=
  if x.isZero then ⟨0, 0⟩ else x.firstGrid x.decimalCeiling 20

def Shortest.positional (s : Shortest) : List Char :=
  let digits := Nat.toDigits 10 s.digits
  if 0 ≤ s.exponent then digits ++ List.replicate s.exponent.toNat '0'
  else
    let places := (-s.exponent).toNat
    let padded := List.replicate (places + 1 - digits.length) '0' ++ digits
    padded.take (padded.length - places) ++ '.' :: padded.drop (padded.length - places)

end Binary64

end Countersign
