import Countersign.Calendar.Date

/-!
Moments in universal time, to the nanosecond. A leap second is held as the
second before it with a thousand million nanoseconds more. A moment is written
with as few decimals of the second as are exact, in groups of three; a text
names the offset of its clock from universal time.
-/

namespace Countersign

structure Timestamp where
  date : Date
  second : Nat
  nano : Nat
deriving DecidableEq

namespace Timestamp

def secondsInDay : Nat := 86400

def epoch : Timestamp := ⟨⟨1970, 1, 1, by decide⟩, 0, 0⟩

/-- Decimals of the second: none, three, six or nine. -/
def decimals (nano : Nat) : List Char :=
  if nano = 0 then []
  else if nano % 1000000 = 0 then '.' :: Digits.fixed 3 (nano / 1000000)
  else if nano % 1000 = 0 then '.' :: Digits.fixed 6 (nano / 1000)
  else '.' :: Digits.fixed 9 nano

def toChars (t : Timestamp) : List Char :=
  let (second, nano) :=
    if t.nano < 1000000000 then (t.second % 60, t.nano)
    else (t.second % 60 + 1, t.nano - 1000000000)
  t.date.toChars ++ 'T' :: Digits.fixed 2 (t.second / 3600) ++
    ':' :: Digits.fixed 2 (t.second / 60 % 60) ++ ':' :: Digits.fixed 2 second ++
    decimals nano ++ ['Z']

def toText (t : Timestamp) : String := String.ofList t.toChars

/-- Up to nine digits count; further ones are passed over. -/
def readNano : List Char → Option (Nat × List Char)
  | '.' :: rest =>
    let run := rest.takeWhile Char.isDigit
    let counted := run.take 9
    if run.isEmpty then none
    else some (Digits.value counted * Digits.tenPow (9 - counted.length), rest.dropWhile Char.isDigit)
  | rest => some (0, rest)

def twoDigits : List Char → Option (Nat × List Char)
  | a :: b :: rest =>
    if a.isDigit && b.isDigit then some (Digits.value [a, b], rest) else none
  | _ => none

def offsetSign : List Char → Option (Bool × List Char)
  | '+' :: rest => some (false, rest)
  | '-' :: rest => some (true, rest)
  | '\u2212' :: rest => some (true, rest)
  | _ => none

/-- The offset in seconds: `Z`, `UTC`, or a sign with hours and minutes. -/
def readOffset (text : List Char) : Option (Int × List Char) :=
  match text with
  | 'Z' :: rest => some (0, rest)
  | 'z' :: rest => some (0, rest)
  | _ =>
    if (text.take 3).map Char.toUpper = ['U', 'T', 'C'] then some (0, text.drop 3)
    else do
      let (negative, rest) ← offsetSign text
      let (hours, rest) ← twoDigits rest
      let (minutes, rest) ← twoDigits (rest.dropWhile fun c => c == ':' || Blank.isBlank c)
      let seconds : Int := hours * 3600 + minutes * 60
      if minutes < 60 then some (if negative then -seconds else seconds, rest) else none

/-- A moment of a clock that is `offset` seconds ahead of universal time. -/
def ofLocal (date : Date) (second nano : Nat) (offset : Int) : Option Timestamp :=
  let moment : Int := second - offset
  if moment < 0 then
    date.previous?.map fun date => ⟨date, (moment + secondsInDay).toNat, nano⟩
  else if moment < secondsInDay then some ⟨date, moment.toNat, nano⟩
  else date.next?.map fun date => ⟨date, (moment - secondsInDay).toNat, nano⟩

def ofChars (text : List Char) : Option Timestamp := do
  let (year, month, day, rest) ← (Date.readParts text).toOption
  let rest ← match rest with
    | c :: rest => if c = 'T' ∨ c = 't' ∨ c = ' ' then some rest else none
    | [] => none
  let (hour, rest) ← (Date.readPart 0 23 rest).toOption
  let rest ← (Date.readMark ':' rest).toOption
  let (minute, rest) ← (Date.readPart 0 59 rest).toOption
  let rest ← (Date.readMark ':' rest).toOption
  let (second, rest) ← (Date.readPart 0 60 rest).toOption
  let (nano, rest) ← readNano rest
  let (offset, rest) ← readOffset (Blank.trimStart rest)
  let date ← Date.of? year month day
  let leap := second = 60
  let seconds := hour * 3600 + minute * 60 + if leap then 59 else second
  if (Blank.trimStart rest).isEmpty ∧ offset.natAbs < secondsInDay then
    ofLocal date seconds (if leap then nano + 1000000000 else nano) offset
  else none

def ofText? (text : String) : Option Timestamp := ofChars text.toList

end Timestamp

end Countersign
