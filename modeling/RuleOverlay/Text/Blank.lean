/-! # Blank characters

Two classes of blank are in use. Paths and names are trimmed of every character with the
Unicode `White_Space` property; documents count as empty when every byte is an ASCII blank,
which is space, tab, line feed, form feed and carriage return (the vertical tab is not one).
-/
namespace RuleOverlay

namespace Text

def isBlank (c : Char) : Bool :=
  let n := c.toNat
  (0x09 ≤ n && n ≤ 0x0D) || n == 0x20 || n == 0x85 || n == 0xA0 || n == 0x1680 ||
    (0x2000 ≤ n && n ≤ 0x200A) || n == 0x2028 || n == 0x2029 || n == 0x202F ||
    n == 0x205F || n == 0x3000

example : isBlank ' ' = true := rfl

def isAsciiBlankByte (b : UInt8) : Bool :=
  b == 0x20 || b == 0x09 || b == 0x0A || b == 0x0C || b == 0x0D

example : isAsciiBlankByte 0x0B = false := rfl

def dropBlanks (cs : List Char) : List Char := cs.dropWhile isBlank

def trim (s : String) : String :=
  String.ofList (dropBlanks (dropBlanks s.toList).reverse).reverse

def trimStart (s : String) : String := String.ofList (dropBlanks s.toList)

def trimEnd (s : String) : String := String.ofList (dropBlanks s.toList.reverse).reverse

end Text

end RuleOverlay
