import Countersign.Decimal.Basic

/-!
Money that is moved is positive, and a limit on money is either a figure or no
limit at all. A limit of zero sets no ceiling either.
-/

namespace Countersign

/-- A positive sum of money, as a ledger operation moves it. -/
structure Amount where
  value : Decimal
  positive : Decimal.zero < value
deriving DecidableEq

def Amount.of? (value : Decimal) : Option Amount :=
  if h : Decimal.zero < value then some ⟨value, h⟩ else none

/-- The highest principal that an authority level may approve. -/
inductive Threshold where
  | unbounded
  | limit (value : Decimal)
deriving DecidableEq

namespace Threshold

def covers (threshold : Threshold) (principal : Decimal) : Bool :=
  match threshold with
  | .unbounded => true
  | .limit value => value.isZero || decide (principal ≤ value)

def isNegative : Threshold → Bool
  | .unbounded => false
  | .limit value => decide (value < Decimal.zero)

def ofOption : Option Decimal → Threshold
  | none => .unbounded
  | some value => .limit value

def toOption : Threshold → Option Decimal
  | .unbounded => none
  | .limit value => some value

end Threshold

end Countersign
