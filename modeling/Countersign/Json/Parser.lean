import Countersign.Json.Basic

/-!
Reading a JSON text. Each reader takes the characters before it and gives a
value and the characters after it. Nesting is bounded by the length of the text,
so the readers of values, items and fields share one count that the text cannot
use up.
-/

namespace Countersign.Json.Parser

def isBlank (c : Char) : Bool := c == ' ' || c == '\n' || c == '\t' || c == '\r'

def skipBlanks (text : List Char) : List Char := text.dropWhile isBlank

def expect : List Char → List Char → Option (List Char)
  | [], text => some text
  | c :: rest, d :: text => if c = d then expect rest text else none
  | _ :: _, [] => none

def digits (text : List Char) : Option (List Char × List Char) :=
  let run := text.takeWhile Char.isDigit
  if run.isEmpty then none else some (run, text.dropWhile Char.isDigit)

/-- A whole part has no leading zeros. -/
def wholePart (text : List Char) : Option (Nat × List Char) := do
  let (run, rest) ← digits text
  if run.length > 1 ∧ run.head? = some '0' then none else some (Digits.value run, rest)

def fractionPart : List Char → Option (Option (List Char) × List Char)
  | '.' :: rest => do
    let (run, rest) ← digits rest
    some (some run, rest)
  | text => some (none, text)

def exponentDigits (negative : Bool) (text : List Char) : Option (Option Int × List Char) := do
  let (run, rest) ← digits text
  let size : Int := Digits.value run
  some (some (if negative then -size else size), rest)

def exponentPart : List Char → Option (Option Int × List Char)
  | c :: rest =>
    if c = 'e' ∨ c = 'E' then
      match rest with
      | '-' :: rest => exponentDigits true rest
      | '+' :: rest => exponentDigits false rest
      | rest => exponentDigits false rest
    else some (none, c :: rest)
  | [] => some (none, [])

def number (negative : Bool) (text : List Char) : Option (Number × List Char) := do
  let (whole, rest) ← wholePart text
  let (fraction, rest) ← fractionPart rest
  let (exponent, rest) ← exponentPart rest
  some (⟨negative, whole, fraction, exponent⟩, rest)

/-- What one step inside a string literal spells: a character, or half of a
surrogate pair. -/
inductive Unit16 where
  | char (c : Char)
  | half (code : Nat)
deriving DecidableEq

def hexDigit (c : Char) : Option Nat :=
  if c.isDigit then some (c.toNat - '0'.toNat)
  else if 'a' ≤ c ∧ c ≤ 'f' then some (c.toNat - 'a'.toNat + 10)
  else if 'A' ≤ c ∧ c ≤ 'F' then some (c.toNat - 'A'.toNat + 10)
  else none

def ofCode (code : Nat) : Unit16 :=
  if 0xD800 ≤ code ∧ code < 0xE000 then .half code else .char (Char.ofNat code)

def literal : List Char → Option (List Unit16 × List Char)
  | '"' :: rest => some ([], rest)
  | '\\' :: 'u' :: a :: b :: c :: d :: rest => do
    let code := (← hexDigit a) * 4096 + (← hexDigit b) * 256 + (← hexDigit c) * 16 + (← hexDigit d)
    let (units, rest) ← literal rest
    some (ofCode code :: units, rest)
  | '\\' :: escape :: rest => do
    let c ← match escape with
      | '"' => some '"'
      | '\\' => some '\\'
      | '/' => some '/'
      | 'b' => some '\x08'
      | 'f' => some '\x0c'
      | 'n' => some '\n'
      | 'r' => some '\r'
      | 't' => some '\t'
      | _ => none
    let (units, rest) ← literal rest
    some (.char c :: units, rest)
  | c :: rest =>
    if c.toNat < 32 ∨ c = '\\' then none
    else do
      let (units, rest) ← literal rest
      some (.char c :: units, rest)
  | [] => none

/-- Joins the halves of surrogate pairs; a half without its partner has no text. -/
def join : List Unit16 → Option (List Char)
  | [] => some []
  | .char c :: rest => (join rest).map (c :: ·)
  | .half high :: .half low :: rest =>
    if high < 0xDC00 ∧ 0xDC00 ≤ low then
      (join rest).map (Char.ofNat (0x10000 + (high - 0xD800) * 1024 + (low - 0xDC00)) :: ·)
    else none
  | .half _ :: _ => none

def string (text : List Char) : Option (Option String × List Char) := do
  let (units, rest) ← literal text
  some ((join units).map String.ofList, rest)

mutual

def value : Nat → List Char → Option (Json × List Char)
  | 0, _ => none
  | fuel + 1, text =>
    match skipBlanks text with
    | '"' :: rest => do
      let (spelled, rest) ← string rest
      some (.string spelled, rest)
    | '[' :: rest =>
      match skipBlanks rest with
      | ']' :: rest => some (.array [], rest)
      | rest => do
        let (found, rest) ← items fuel rest
        some (.array found, rest)
    | '\x7b' :: rest =>
      match skipBlanks rest with
      | '\x7d' :: rest => some (.object [], rest)
      | rest => do
        let (found, rest) ← fields fuel rest
        some (.object found, rest)
    | '-' :: rest => do
      let (n, rest) ← number true rest
      some (.number n, rest)
    | 't' :: rest => do some (.bool true, ← expect ['r', 'u', 'e'] rest)
    | 'f' :: rest => do some (.bool false, ← expect ['a', 'l', 's', 'e'] rest)
    | 'n' :: rest => do some (.null, ← expect ['u', 'l', 'l'] rest)
    | rest => do
      let (n, rest) ← number false rest
      some (.number n, rest)

def items : Nat → List Char → Option (List Json × List Char)
  | 0, _ => none
  | fuel + 1, text => do
    let (first, rest) ← value fuel text
    match skipBlanks rest with
    | ',' :: rest => do
      let (more, rest) ← items fuel rest
      some (first :: more, rest)
    | ']' :: rest => some ([first], rest)
    | _ => none

def fields : Nat → List Char → Option (List (Option String × Json) × List Char)
  | 0, _ => none
  | fuel + 1, text =>
    match skipBlanks text with
    | '"' :: rest => do
      let (name, rest) ← string rest
      match skipBlanks rest with
      | ':' :: rest => do
        let (first, rest) ← value fuel rest
        match skipBlanks rest with
        | ',' :: rest => do
          let (more, rest) ← fields fuel rest
          some ((name, first) :: more, rest)
        | '\x7d' :: rest => some ([(name, first)], rest)
        | _ => none
      | _ => none
    | _ => none

end

end Countersign.Json.Parser

namespace Countersign.Json

def parseChars (text : List Char) : Option Json := do
  let (found, rest) ← Parser.value (2 * text.length + 2) text
  if (Parser.skipBlanks rest).isEmpty then some found else none

def parse (text : String) : Option Json := parseChars text.toList

end Countersign.Json
