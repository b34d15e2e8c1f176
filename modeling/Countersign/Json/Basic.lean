import Countersign.Binary64
import Countersign.Digits

/-!
JSON values as they stand in a text: numbers keep their digits, objects keep
their fields in order and with repetitions. A string literal can escape a lone
half of a surrogate pair and then spells no text; such a literal is kept as a
value without text, since a reader that skips it never asks for one.
-/

namespace Countersign

/-- A number literal. The digits after the point are present only with a point,
the exponent only with its mark. -/
structure Json.Number where
  negative : Bool
  whole : Nat
  fraction : Option (List Char)
  exponent : Option Int
deriving DecidableEq, Repr

inductive Json where
  | null
  | bool (value : Bool)
  | number (value : Json.Number)
  | string (text : Option String)
  | array (items : List Json)
  | object (fields : List (Option String × Json))

namespace Json

def ofText (text : String) : Json := .string (some text)

def ofNat (n : Nat) : Json := .number ⟨false, n, none, none⟩

def ofOption {α : Type} (encode : α → Json) : Option α → Json
  | none => .null
  | some value => encode value

def record (fields : List (String × Json)) : Json :=
  .object (fields.map fun (name, value) => (some name, value))

def ofList {α : Type} (encode : α → Json) (values : List α) : Json :=
  .array (values.map encode)

namespace Number

/-- Integers of 64 bits, signed or unsigned, are read as integers; a minus zero
is not one of them. -/
def toInt? (n : Number) : Option Int :=
  match n.fraction, n.exponent with
  | none, none =>
    if n.negative then
      if 0 < n.whole ∧ n.whole ≤ UInt64.size / 2 then some (-n.whole) else none
    else if n.whole < UInt64.size then some n.whole
    else none
  | _, _ => none

/-- Takes digits into a significand as long as 64 bits hold it, and tells how many
were taken and how many were left. -/
def gather (significand taken : Nat) : List Char → Nat × Nat × Nat
  | [] => (significand, taken, 0)
  | c :: rest =>
    let next := significand * 10 + Digits.digit c
    if next < UInt64.size then gather next (taken + 1) rest
    else (significand, taken, rest.length + 1)

def scale (x : Binary64) (exponent : Int) : Option Binary64 :=
  if 0 ≤ exponent then
    if exponent ≤ 308 then do x.mul? (← Binary64.ofNat? (Digits.tenPow exponent.toNat))
    else if x.isZero then some x
    else none
  else if h : -308 ≤ exponent then do x.div? (← Binary64.ofNat? (Digits.tenPow (-exponent).toNat))
  else if x.isZero then some x
  else do
    let smaller ← x.div? (← Binary64.ofNat? (Digits.tenPow 308))
    scale smaller (exponent + 308)
termination_by (-exponent).toNat
decreasing_by omega

def size? (n : Number) : Option Binary64 :=
  let (lead, _, beyond) := gather 0 0 (Digits.ofNat n.whole)
  let (significand, decimals, _) := gather lead 0 (n.fraction.getD [])
  let shift : Int := (beyond : Int) - decimals
  let exponent := n.exponent.getD 0
  if exponent.natAbs < UInt32.size / 2 then do scale (← Binary64.ofNat? significand) (shift + exponent)
  else if 0 < exponent ∧ significand ≠ 0 then none
  else some .zero

end Number

/-- Whether a value can be set aside for a later reader: nested at most `depth`
deep, every string a text, every number in range. -/
def storable : Nat → Json → Bool
  | _, .null => true
  | _, .bool _ => true
  | _, .number n => n.toInt?.isSome || n.size?.isSome
  | _, .string text => text.isSome
  | 0, .array _ => false
  | depth + 1, .array items => items.all (storable depth)
  | 0, .object _ => false
  | depth + 1, .object fields =>
    fields.all fun (name, value) => name.isSome && storable depth value

end Json

end Countersign
