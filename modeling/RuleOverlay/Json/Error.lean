import RuleOverlay.Json.Print
import RuleOverlay.Unicode.Category
/-! # Errors of a JSON reader

A reader stops at the first fault, and reports it with the line (from 1) and the column
(bytes since the last line feed) where it stopped. A fault found while matching a value
against what the caller expects has no place of its own; the reader gives it the place
where it was when the fault reached it. `Error.message` writes `<fault> at line L column C`,
or the fault alone when it has no place.
-/
namespace RuleOverlay

namespace Json

/-- What a reader found wrong. -/
inductive Fault where
  | eofList
  | eofObject
  | eofString
  | eofValue
  | expectedColon
  | expectedListCommaOrEnd
  | expectedObjectCommaOrEnd
  | expectedIdent
  | expectedValue
  | invalidEscape
  | invalidNumber
  | numberOutOfRange
  | invalidCodePoint
  | controlCharacter
  | keyMustBeString
  | loneSurrogate
  | trailingComma
  | trailingCharacters
  | unexpectedEndOfHexEscape
  | recursionLimit
  /-- a value that does not match what was expected, with its text -/
  | data (text : String)

def Fault.text : Fault → String
  | .eofList => "EOF while parsing a list"
  | .eofObject => "EOF while parsing an object"
  | .eofString => "EOF while parsing a string"
  | .eofValue => "EOF while parsing a value"
  | .expectedColon => "expected `:`"
  | .expectedListCommaOrEnd => "expected `,` or `]`"
  | .expectedObjectCommaOrEnd => "expected `,` or `\x7d`"
  | .expectedIdent => "expected ident"
  | .expectedValue => "expected value"
  | .invalidEscape => "invalid escape"
  | .invalidNumber => "invalid number"
  | .numberOutOfRange => "number out of range"
  | .invalidCodePoint => "invalid unicode code point"
  | .controlCharacter => "control character (\\u0000-\\u001F) found while parsing a string"
  | .keyMustBeString => "key must be a string"
  | .loneSurrogate => "lone leading surrogate in hex escape"
  | .trailingComma => "trailing comma"
  | .trailingCharacters => "trailing characters"
  | .unexpectedEndOfHexEscape => "unexpected end of hex escape"
  | .recursionLimit => "recursion limit exceeded"
  | .data text => text

/-- A fault and where it was found; line `0` means no place yet. -/
structure Error where
  fault : Fault
  line : Nat
  column : Nat

def Error.message (e : Error) : String :=
  if e.line = 0 then e.fault.text
  else e.fault.text ++ " at line " ++ toString e.line ++ " column " ++ toString e.column

/-- The kind of value a reader met where it expected another. -/
inductive Unexpected where
  | bool (b : Bool)
  | unsigned (n : Nat)
  | signed (n : Int)
  | float (f : Float)
  | str (s : String)
  | unit
  | seq
  | map

/-- How a character is written inside a quoted text of a diagnostic: quote, backslash, NUL,
tab, carriage return and line feed by their short escapes; a character that extends a
grapheme or is not printable as `\u{hex}`, in lower-case hexadecimal; everything else as
is. -/
def debugChar (c : Char) : String :=
  match c with
  | '"' => "\\\""
  | '\\' => "\\\\"
  | '\n' => "\\n"
  | '\r' => "\\r"
  | '\t' => "\\t"
  | '\x00' => "\\0"
  | c =>
    if Unicode.isGraphemeExtend c || !Unicode.isPrintable c then
      "\\u" ++ "\x7b" ++ String.ofList (Nat.toDigits 16 c.toNat) ++ "\x7d"
    else String.singleton c

def debugQuote (s : String) : String := "\"" ++ String.join (s.toList.map debugChar) ++ "\""

/-- The words for an unexpected value. The two readers differ on null and on the digits of
a double: the JSON reader says `null` and writes the number as a JSON document would; the
YAML reader says `unit value` and writes the number in full with a decimal point. -/
def Unexpected.text (json : Bool) : Unexpected → String
  | .bool b => "boolean `" ++ toString b ++ "`"
  | .unsigned n => "integer `" ++ toString n ++ "`"
  | .signed n => "integer `" ++ toString n ++ "`"
  | .float f =>
    if json then "floating point `" ++ FloatLayout.json.text f ++ "`"
    else "floating point `" ++ FloatLayout.positional.text f ++ "`"
  | .str s => "string " ++ debugQuote s
  | .unit => if json then "null" else "unit value"
  | .seq => "sequence"
  | .map => "map"

def invalidType (json : Bool) (u : Unexpected) (expected : String) : Fault :=
  .data ("invalid type: " ++ u.text json ++ ", expected " ++ expected)

def missingField (name : String) : Fault := .data ("missing field `" ++ name ++ "`")

def duplicateField (name : String) : Fault := .data ("duplicate field `" ++ name ++ "`")

def invalidLength (n : Nat) (expected : String) : Fault :=
  .data ("invalid length " ++ toString n ++ ", expected " ++ expected)

end Json

end RuleOverlay
