import Countersign.Blank
import Countersign.Digits

/-!
Days of the proleptic Gregorian calendar, from the year -262143 to the year
262142. A date is written as year, month and day with dashes, and read with
blanks allowed between its parts.
-/

namespace Countersign

def isLeapYear (year : Int) : Bool := year % 4 = 0 ∧ (year % 100 ≠ 0 ∨ year % 400 = 0)

def daysInMonth (year : Int) (month : Nat) : Nat :=
  if month = 2 then if isLeapYear year then 29 else 28
  else if month = 4 ∨ month = 6 ∨ month = 9 ∨ month = 11 then 30
  else 31

def Date.Valid (year : Int) (month day : Nat) : Prop :=
  -262143 ≤ year ∧ year ≤ 262142 ∧ 1 ≤ month ∧ month ≤ 12 ∧ 1 ≤ day ∧ day ≤ daysInMonth year month

instance (year : Int) (month day : Nat) : Decidable (Date.Valid year month day) := by
  unfold Date.Valid
  infer_instance

structure Date where
  year : Int
  month : Nat
  day : Nat
  valid : Date.Valid year month day
deriving DecidableEq

namespace Date

def of? (year : Int) (month day : Nat) : Option Date :=
  if h : Valid year month day then some ⟨year, month, day, h⟩ else none

def next? (date : Date) : Option Date :=
  if date.day < daysInMonth date.year date.month then of? date.year date.month (date.day + 1)
  else if date.month < 12 then of? date.year (date.month + 1) 1
  else of? (date.year + 1) 1 1

def previous? (date : Date) : Option Date :=
  if 1 < date.day then of? date.year date.month (date.day - 1)
  else if 1 < date.month then
    of? date.year (date.month - 1) (daysInMonth date.year (date.month - 1))
  else of? (date.year - 1) 12 31

/-- Years of four digits stand bare, all others with a sign. -/
def yearChars (year : Int) : List Char :=
  if 0 ≤ year ∧ year ≤ 9999 then Digits.fixed 4 year.toNat
  else (if year < 0 then '-' else '+') :: Digits.atLeast 4 year.natAbs

def toChars (date : Date) : List Char :=
  yearChars date.year ++ '-' :: Digits.fixed 2 date.month ++ '-' :: Digits.fixed 2 date.day

def toText (date : Date) : String := String.ofList date.toChars

inductive ReadError where
  | tooShort
  | invalid
  | tooLong
  | outOfRange
deriving DecidableEq, Repr

def ReadError.message : ReadError → String
  | .tooShort => "premature end of input"
  | .invalid => "input contains invalid characters"
  | .tooLong => "trailing input"
  | .outOfRange => "input is out of range"

/-- A number of at most `width` digits, and of at least one. -/
def readNumber (width : Nat) (text : List Char) : Except ReadError (Nat × List Char) :=
  let run := (text.take width).takeWhile Char.isDigit
  if text.isEmpty then .error .tooShort
  else if run.isEmpty then .error .invalid
  else if Digits.value run < UInt64.size / 2 then .ok (Digits.value run, text.drop run.length)
  else .error .outOfRange

def readYear (text : List Char) : Except ReadError (Int × List Char) := do
  let (year, rest) ← match Blank.trimStart text with
    | '-' :: rest => do
      let (n, rest) ← readNumber rest.length rest
      pure (-(n : Int), rest)
    | '+' :: rest => do
      let (n, rest) ← readNumber rest.length rest
      pure ((n : Int), rest)
    | rest => do
      let (n, rest) ← readNumber 4 rest
      pure ((n : Int), rest)
  if -2147483648 ≤ year ∧ year < 2147483648 then .ok (year, rest) else .error .outOfRange

/-- A number of one or two digits between two bounds, after blanks. -/
def readPart (low high : Nat) (text : List Char) : Except ReadError (Nat × List Char) := do
  let (n, rest) ← readNumber 2 (Blank.trimStart text)
  if low ≤ n ∧ n ≤ high then .ok (n, rest) else .error .outOfRange

def readMark (mark : Char) (text : List Char) : Except ReadError (List Char) :=
  match Blank.trimStart text with
  | [] => .error .tooShort
  | c :: rest => if c = mark then .ok rest else .error .invalid

def readParts (text : List Char) : Except ReadError (Int × Nat × Nat × List Char) := do
  let (year, rest) ← readYear text
  let rest ← readMark '-' rest
  let (month, rest) ← readPart 1 12 rest
  let rest ← readMark '-' rest
  let (day, rest) ← readPart 1 31 rest
  .ok (year, month, day, rest)

def ofChars (text : List Char) : Except ReadError Date := do
  let (year, month, day, rest) ← readParts text
  if (Blank.trimStart rest).isEmpty then
    match of? year month day with
    | some date => .ok date
    | none => .error .outOfRange
  else .error .tooLong

def ofText (text : String) : Except ReadError Date := ofChars text.toList

end Date

end Countersign
