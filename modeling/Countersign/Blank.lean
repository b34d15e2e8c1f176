/-!
Blank characters are those with the White_Space property. Trimming takes them
off the ends of a text and leaves those inside it.
-/

namespace Countersign.Blank

def isBlank (c : Char) : Bool :=
  let n := c.toNat
  (9 ≤ n && n ≤ 13) || n == 0x20 || n == 0x85 || n == 0xA0 || n == 0x1680 ||
    (0x2000 ≤ n && n ≤ 0x200A) || n == 0x2028 || n == 0x2029 || n == 0x202F || n == 0x205F ||
    n == 0x3000

def trimStart (text : List Char) : List Char := text.dropWhile isBlank

def trimEnd (text : List Char) : List Char := (text.reverse.dropWhile isBlank).reverse

def trim (text : List Char) : List Char := trimEnd (trimStart text)

def isVoid (text : String) : Bool := text.toList.all isBlank

def trimText (text : String) : String := String.ofList (trim text.toList)

end Countersign.Blank
