import Countersign.Decimal.Basic

/-!
The text of a decimal has exactly as many decimals as its scale. Texts are read
more freely: with a sign, with underscores after the first digit, with more
decimals than fit, and with an exponent. A zero that is written out loses its
sign; a value that only the exponent shrinks to zero keeps it.
-/

namespace Countersign.Decimal

def toChars (d : Decimal) : List Char :=
  let sign := if d.negative then ['-'] else []
  let whole := Digits.ofNat (d.size / Digits.tenPow d.scale)
  if d.scale = 0 then sign ++ whole
  else sign ++ whole ++ '.' :: Digits.fixed d.scale d.size

def toText (d : Decimal) : String := String.ofList d.toChars

instance : ToString Decimal := ⟨toText⟩

/-- Rounds by the first digit that did not fit; the digits after it do not count. -/
def roundLast (size scale digit : Nat) (rest : List Char) : Option (Nat × Nat) :=
  if !rest.all (fun c => c.isDigit || c == '_') then none
  else if digit < 5 then some (size, scale)
  else if size + 1 < bound then some (size + 1, scale)
  else if scale = 0 then none
  else some ((size + 1 + 4) / 10, scale - 1)

/-- The least size that counts as wide; any other stays within 64 bits, whatever digit
follows. -/
def wide : Nat := (UInt64.size - 1) / 10 - 255

/-- Reads digits into a size and a scale, as far as they fit. An underscore right after
the last decimal that fits stands for the digit zero, unless the size was wide
before that decimal: then it is passed over as anywhere else. -/
def readDigits (seen point : Bool) (size scale : Nat) : List Char → Option (Nat × Nat)
  | [] => if seen then some (size, scale) else none
  | c :: rest =>
    if point && scale == 28 then
      if c.isDigit then roundLast size scale (Digits.digit c) rest
      else if c == '_' then
        if wide ≤ size / 10 then readDigits seen point size scale rest
        else roundLast size scale 0 rest
      else none
    else if c.isDigit then
      let next := size * 10 + Digits.digit c
      if next < bound then readDigits true point next (if point then scale + 1 else scale) rest
      else if point then roundLast size scale (Digits.digit c) rest
      else none
    else if c == '.' && !point then readDigits seen true size scale rest
    else if c == '_' && seen then readDigits seen point size scale rest
    else none

def splitSign : List Char → Bool × List Char
  | '-' :: rest => (true, rest)
  | '+' :: rest => (false, rest)
  | text => (false, text)

def readPlain (text : List Char) : Option Decimal := do
  let (negative, digits) := splitSign text
  let (size, scale) ← readDigits false false 0 0 digits
  ofParts? negative size scale

/-- Shrinks the value by `10 ^ n`, giving up decimals beyond the largest scale. -/
def shiftDown (d : Decimal) (n : Nat) : Option Decimal :=
  let kept := d.roundAway (28 - n)
  if h : kept.scale + n ≤ 28 then some { kept with scale := kept.scale + n, scale_le := h } else none

/-- Grows the value by `10 ^ n`, using up decimals first. -/
def shiftUp (d : Decimal) (n : Nat) : Option Decimal :=
  if n ≤ d.scale then ofParts? d.negative d.size (d.scale - n)
  else if 28 < n then none
  else ofParts? d.negative (d.size * Digits.tenPow (n - d.scale)) 0

def readExponent (text : List Char) : Option Nat := do
  let digits := match text with
    | '+' :: rest => rest
    | _ => text
  let n ← Digits.read? digits
  if n < UInt32.size then some n else none

def readScientific (text : List Char) : Option Decimal := do
  let isMark := fun c => c == 'e' || c == 'E'
  let d ← readPlain (text.takeWhile (!isMark ·))
  match text.dropWhile (!isMark ·) with
  | _ :: '-' :: exponent => do d.shiftDown (← readExponent exponent)
  | _ :: exponent => do d.shiftUp (← readExponent exponent)
  | [] => none

def readChars (text : List Char) : Option Decimal :=
  readPlain text <|> readScientific text

def ofText? (text : String) : Option Decimal := readChars text.toList

end Countersign.Decimal
