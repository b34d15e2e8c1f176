import Countersign.Blank
import Countersign.Csv.Record
import Countersign.Utf8

/-!
Reading a table of comma-separated values. The first record names the columns.
A record is told by its number and by where the reader stood when it went for
it: right after the byte that closed the record before. A byte order mark at the
start is passed over.

A stream may break after its bytes. A record is then read only if its line end
came through, and the break is met where the next record is wanted.
-/

namespace Countersign.Csv

structure Source where
  bytes : List UInt8
  broken : Bool
deriving DecidableEq, Repr

structure Position where
  record : Nat
  line : Nat
  byte : Nat
deriving DecidableEq, Repr

def Position.after (position : Position) (bytes : List UInt8) : Position :=
  ⟨position.record + 1, position.line + bytes.count lineFeed, position.byte + bytes.length⟩

inductive Item where
  | record (position : Position) (fields : List (List UInt8))
  | failure
deriving DecidableEq, Repr

def items (broken : Bool) (position : Position) (bytes : List UInt8) : List Item :=
  match h : nextRecord bytes with
  | none => if broken then [.failure] else []
  | some record =>
    if broken && !record.closed then [.failure]
    else
      have := nextRecord_rest_lt h
      let consumed := bytes.take (bytes.length - record.rest.length)
      .record position record.fields :: items broken (position.after consumed) record.rest
termination_by bytes.length

def byteOrderMark : List UInt8 := [0xEF, 0xBB, 0xBF]

def Source.items (source : Source) : List Item :=
  if byteOrderMark.isPrefixOf source.bytes then
    Csv.items source.broken ⟨0, 1, 3⟩ (source.bytes.drop 3)
  else Csv.items source.broken ⟨0, 1, 0⟩ source.bytes

def isAsciiBlank (b : UInt8) : Bool := b == 32 || b == 9 || b == 10 || b == 12 || b == 13

def trimBytes (bytes : List UInt8) : List UInt8 :=
  ((bytes.dropWhile isAsciiBlank).reverse.dropWhile isAsciiBlank).reverse

/-- The first field that is no text, with the count of good bytes in it. -/
inductive TextFault where
  | notText (field index : Nat)
deriving DecidableEq, Repr

/-- The texts of fields from a number on, without blanks at their ends. -/
def textsFrom (number : Nat) : List (List UInt8) → Except TextFault (List String)
  | [] => .ok []
  | field :: rest =>
    match Utf8.decode (trimBytes field) with
    | .error good => .error (.notText number good)
    | .ok chars => do
      let texts ← textsFrom (number + 1) rest
      .ok (String.ofList (Blank.trim chars) :: texts)

def texts (fields : List (List UInt8)) : Except TextFault (List String) := textsFrom 0 fields

/-- The names of the columns, if the first record is text, and what follows it. A
sheet whose first record cannot be read is empty. -/
structure Sheet where
  header : Option (List String)
  body : List Item
deriving DecidableEq, Repr

def Source.sheet (source : Source) : Sheet :=
  match source.items with
  | .record _ fields :: body => ⟨(texts fields).toOption, body⟩
  | _ => ⟨none, []⟩

end Countersign.Csv
