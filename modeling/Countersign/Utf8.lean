/-!
Characters from bytes. A sequence has one to four bytes, is the shortest one of
its character, and names no half of a surrogate pair. Bytes that are no such
sequence end the text, and it is told how many bytes before them were good.
-/

namespace Countersign.Utf8

def tail? (b : UInt8) : Option Nat :=
  if 0x80 ≤ b ∧ b < 0xC0 then some (b.toNat - 0x80) else none

/-- The character with a code, if the code is long enough for its sequence. -/
def char? (least code : Nat) : Option Char :=
  if h : code.isValidChar ∧ least ≤ code then some (Char.ofNatAux code h.1) else none

def pair? (a b : UInt8) : Option Char := do
  char? 0x80 ((a.toNat - 0xC0) * 64 + (← tail? b))

def triple? (a b c : UInt8) : Option Char := do
  char? 0x800 ((a.toNat - 0xE0) * 4096 + (← tail? b) * 64 + (← tail? c))

def quadruple? (a b c d : UInt8) : Option Char := do
  char? 0x10000
    ((a.toNat - 0xF0) * 262144 + (← tail? b) * 4096 + (← tail? c) * 64 + (← tail? d))

def decodeFrom (good : Nat) : List UInt8 → Except Nat (List Char)
  | [] => .ok []
  | a :: rest =>
    if a < 0x80 then (decodeFrom (good + 1) rest).map (Char.ofNat a.toNat :: ·)
    else if a < 0xC0 then .error good
    else if a < 0xE0 then
      match rest with
      | b :: rest =>
        match pair? a b with
        | some c => (decodeFrom (good + 2) rest).map (c :: ·)
        | none => .error good
      | _ => .error good
    else if a < 0xF0 then
      match rest with
      | b :: c :: rest =>
        match triple? a b c with
        | some char => (decodeFrom (good + 3) rest).map (char :: ·)
        | none => .error good
      | _ => .error good
    else
      match rest with
      | b :: c :: d :: rest =>
        match quadruple? a b c d with
        | some char => (decodeFrom (good + 4) rest).map (char :: ·)
        | none => .error good
      | _ => .error good

def decode (bytes : List UInt8) : Except Nat (List Char) := decodeFrom 0 bytes

def encode (text : String) : List UInt8 := text.toUTF8.toList

end Countersign.Utf8
