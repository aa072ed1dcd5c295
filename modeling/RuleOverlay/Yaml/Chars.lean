/-! # Character classes of YAML texts

Line breaks are line feed, carriage return, NEL and the line and paragraph separators; blanks
are space and tab. Readers see the end of a text as a NUL, so "or the end" means NUL too.
Printable characters are those a writer may put into a text unescaped.
-/
namespace RuleOverlay

namespace Yaml

def isBreak (c : Char) : Bool :=
  c == '\n' || c == '\r' || c == '\x85' || c == '\u2028' || c == '\u2029'

def isBlank (c : Char) : Bool := c == ' ' || c == '\t'

def isBreakz (c : Char) : Bool := isBreak c || c == '\x00'

def isBlankz (c : Char) : Bool := isBlank c || isBreakz c

def isWordChar (c : Char) : Bool := c.isAlphanum || c == '_' || c == '-'

def isHexChar (c : Char) : Bool :=
  c.isDigit || ('a' ≤ c && c ≤ 'f') || ('A' ≤ c && c ≤ 'F')

def hexDigitValue (c : Char) : Nat :=
  if c.isDigit then c.toNat - 48
  else if 'a' ≤ c && c ≤ 'f' then c.toNat - 87
  else c.toNat - 55

/-- A character a writer may put into a text as it is: line feed, printable ASCII, and the
characters of the basic plane from U+00A0 on except surrogates, the byte order mark, U+FFFE
and U+FFFF. -/
def isPrintable (c : Char) : Bool :=
  let n := c.toNat
  n == 0x0A || (0x20 ≤ n && n ≤ 0x7E) || (0xA0 ≤ n && n ≤ 0xD7FF) ||
    (0xE000 ≤ n && n ≤ 0xFFFD && n != 0xFEFF)

end Yaml

end RuleOverlay
