import Countersign.Json.Basic

/-!
Writing a JSON value without blanks. In strings, quotes, backslashes and control
characters are escaped and all else stands as it is.
-/

namespace Countersign.Json

namespace Number

def toChars (n : Number) : List Char :=
  let sign := if n.negative then ['-'] else []
  let fraction := match n.fraction with
    | some digits => '.' :: digits
    | none => []
  let exponent := match n.exponent with
    | some e => 'e' :: (if e < 0 then '-' :: Digits.ofNat e.natAbs else Digits.ofNat e.natAbs)
    | none => []
  sign ++ Digits.ofNat n.whole ++ fraction ++ exponent

end Number

def escape (c : Char) : List Char :=
  if c = '"' then ['\\', '"']
  else if c = '\\' then ['\\', '\\']
  else if c = '\x08' then ['\\', 'b']
  else if c = '\x0c' then ['\\', 'f']
  else if c = '\n' then ['\\', 'n']
  else if c = '\r' then ['\\', 'r']
  else if c = '\t' then ['\\', 't']
  else if c.toNat < 32 then
    ['\\', 'u', '0', '0', Nat.digitChar (c.toNat / 16), Nat.digitChar (c.toNat % 16)]
  else [c]

def quote (text : String) : List Char :=
  '"' :: text.toList.flatMap escape ++ ['"']

mutual

def toChars : Json → List Char
  | .null => ['n', 'u', 'l', 'l']
  | .bool true => ['t', 'r', 'u', 'e']
  | .bool false => ['f', 'a', 'l', 's', 'e']
  | .number n => n.toChars
  | .string text => quote (text.getD "")
  | .array items => '[' :: itemChars items ++ [']']
  | .object fields => '\x7b' :: fieldChars fields ++ ['\x7d']

def itemChars : List Json → List Char
  | [] => []
  | [item] => toChars item
  | item :: rest => toChars item ++ ',' :: itemChars rest

def fieldChars : List (Option String × Json) → List Char
  | [] => []
  | [(name, value)] => quote (name.getD "") ++ ':' :: toChars value
  | (name, value) :: rest =>
    quote (name.getD "") ++ ':' :: toChars value ++ ',' :: fieldChars rest

end

def render (value : Json) : String := String.ofList (toChars value)

end Countersign.Json
