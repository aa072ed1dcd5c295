import RuleOverlay.Json.Value
import RuleOverlay.Decimal.Shortest
import RuleOverlay.Text.Utf8
/-! # Writing JSON

Compact text has no blanks at all; the pretty form puts each entry on its own line, indented
by two spaces, with `": "` after a key. Keys keep their insertion order. In a string, the quote,
the backslash and the control characters are escaped (`\n`, `\t` and the like where JSON has a
short form, `\u00XX` with lower-case hex otherwise) and everything else is written as is.

A double is written from its shortest digits (`Decimal.Binary.shortest`) in the layout of
`FloatLayout.json`; a double that is not finite is written `null`.
-/
namespace RuleOverlay

namespace Json

/-- How a printer lays out the shortest digits of a double. With `n` digits and point
position `p` (the value is `0.d₁…dₙ * 10^p`), the digits are written without an exponent
when `lowest < p ≤ highest`, and as `d.ddd e x` otherwise. -/
structure FloatLayout where
  highest : Int
  lowest : Int
  /-- whether a positive exponent carries a `+` -/
  plusSign : Bool

def FloatLayout.json : FloatLayout := ⟨16, -5, true⟩

def FloatLayout.yaml : FloatLayout := ⟨16, -5, false⟩

def FloatLayout.positional : FloatLayout := ⟨1000, -1000, false⟩

def zeros (n : Nat) : String := String.ofList (List.replicate n '0')

def FloatLayout.text (layout : FloatLayout) (x : Float) : String :=
  let bits := x.toBits
  let sign := if bits >>> 63 == 1 then "-" else ""
  let s := (Decimal.Binary.ofBits bits).shortest
  if s.digits = 0 then sign ++ "0.0"
  else
    let ds := (Nat.toDigits 10 s.digits)
    let n : Int := ds.length
    let p := n + s.exp
    let body :=
      if 0 ≤ s.exp ∧ p ≤ layout.highest then
        String.ofList ds ++ zeros s.exp.toNat ++ ".0"
      else if 0 < p ∧ p ≤ layout.highest then
        String.ofList (ds.take p.toNat) ++ "." ++ String.ofList (ds.drop p.toNat)
      else if layout.lowest < p ∧ p ≤ 0 then
        "0." ++ zeros (-p).toNat ++ String.ofList ds
      else
        let mant := match ds with
          | [d] => String.singleton d
          | d :: rest => String.singleton d ++ "." ++ String.ofList rest
          | [] => ""
        let e := p - 1
        let esign := if e < 0 then "-" else if layout.plusSign then "+" else ""
        mant ++ "e" ++ esign ++ toString e.natAbs
    sign ++ body

def isFinite (x : Float) : Bool := ((x.toBits >>> 52) &&& 0x7FF) != 0x7FF

def Number.text : Number → String
  | .nat n => toString n
  | .int n => toString n
  | .float f => if isFinite f then FloatLayout.json.text f else "null"

def hex4 (n : Nat) : String :=
  let d (k : Nat) : Char := "0123456789abcdef".toList.getD k '0'
  String.ofList [d (n / 4096 % 16), d (n / 256 % 16), d (n / 16 % 16), d (n % 16)]

def escapeChar (c : Char) : String :=
  match c with
  | '"' => "\\\""
  | '\\' => "\\\\"
  | '\n' => "\\n"
  | '\r' => "\\r"
  | '\t' => "\\t"
  | '\x08' => "\\b"
  | '\x0c' => "\\f"
  | c => if c.toNat < 0x20 then "\\u" ++ hex4 c.toNat else String.singleton c

def quote (s : String) : String := "\"" ++ String.join (s.toList.map escapeChar) ++ "\""

mutual
def Value.render : Value → String
  | .null => "null"
  | .bool true => "true"
  | .bool false => "false"
  | .number n => n.text
  | .string s => quote s
  | .array items => "[" ++ renderItems items ++ "]"
  | .object entries => "\x7b" ++ renderEntries entries ++ "\x7d"

def renderItems : List Value → String
  | [] => ""
  | [v] => v.render
  | v :: rest => v.render ++ "," ++ renderItems rest

def renderEntries : List (String × Value) → String
  | [] => ""
  | [(k, v)] => quote k ++ ":" ++ v.render
  | (k, v) :: rest => quote k ++ ":" ++ v.render ++ "," ++ renderEntries rest
end

def Value.toBytes (v : Value) : Bytes := Utf8.encode v.render

def newline (depth : Nat) : String := "\n" ++ String.ofList (List.replicate (2 * depth) ' ')

mutual
def Value.pretty (depth : Nat) : Value → String
  | .array [] => "[]"
  | .object [] => "\x7b\x7d"
  | .array items => "[" ++ prettyItems (depth + 1) items ++ newline depth ++ "]"
  | .object entries => "\x7b" ++ prettyEntries (depth + 1) entries ++ newline depth ++ "\x7d"
  | v => v.render

def prettyItems (depth : Nat) : List Value → String
  | [] => ""
  | [v] => newline depth ++ v.pretty depth
  | v :: rest => newline depth ++ v.pretty depth ++ "," ++ prettyItems depth rest

def prettyEntries (depth : Nat) : List (String × Value) → String
  | [] => ""
  | [(k, v)] => newline depth ++ quote k ++ ": " ++ v.pretty depth
  | (k, v) :: rest => newline depth ++ quote k ++ ": " ++ v.pretty depth ++ "," ++
      prettyEntries depth rest
end

end Json

end RuleOverlay
