import RuleOverlay.Yaml.Token
import RuleOverlay.Yaml.Chars
import RuleOverlay.Yaml.Scalar
import RuleOverlay.Json.Print
/-! # Writing YAML

A value is written as one document in block style, without a start marker: objects as block
mappings, arrays as block sequences, both as `{}` and `[]` when empty. A sequence under a key
is not indented further than the key. Lines are never folded.

Scalars ask for a style and get it unless their text forbids it:

* null, booleans and numbers ask to be plain;
* a text with a line feed asks to be literal (`|`), with chomping `-` when it does not end in a
  line break, none when it ends in one, and `+` when it ends in more, which also ends the
  document with `...` when it is the last block scalar written;
* a text that would read back as something else (`true`, `12`, `~`, `007`, the empty text)
  asks to be single-quoted;
* any other text may be plain.

A plain scalar may not start with an indicator, hold `: ` or ` #`, start or end with a space,
or hold a line break; it is then single-quoted. A single-quoted scalar may not hold characters
that must be escaped or a space next to a line break, and a literal may not end with a space;
these are double-quoted, with escapes. A key is written as it is, or after `? ` when it spans
lines or takes more than 128 bytes.
-/
namespace RuleOverlay

namespace Yaml

open Json (Value)

/-! ## What a text allows -/

/-- The styles a scalar's text may be written in, and whether it spans lines. -/
structure Allowed where
  multiline : Bool
  blockPlain : Bool
  singleQuoted : Bool
  block : Bool

def blankOrEnd : Option Char → Bool
  | none => true
  | some c => isBlankz c

def neighbours : Option Char → List Char → List (Option Char × Char × Option Char)
  | _, [] => []
  | prev, c :: rest => (prev, c, rest.head?) :: neighbours (some c) rest

def leadIndicators : List Char :=
  ['#', ',', '[', ']', '\x7b', '\x7d', '&', '*', '!', '|', '>', '\'', '"', '%', '@', '\x60']

/-- Whether a text holds an indicator that keeps it from being plain in block context: a
document marker at its start, an indicator character first, `?`, `:` or `-` first and followed
by a blank, `:` followed by a blank, or `#` after a blank. -/
def hasBlockIndicator : List Char → Bool
  | [] => false
  | c :: rest =>
    let marker := (c :: rest).take 3 == ['-', '-', '-'] || (c :: rest).take 3 == ['.', '.', '.']
    let followed := blankOrEnd rest.head?
    let lead := leadIndicators.contains c || ((c == '?' || c == ':' || c == '-') && followed)
    let inner := (neighbours (some c) rest).any fun (p, d, n) =>
      (d == ':' && blankOrEnd n) || (d == '#' && blankOrEnd p)
    marker || lead || inner

def Allowed.of (s : String) : Allowed :=
  let cs := s.toList
  match cs.head?, cs.getLast? with
  | some first, some last =>
    let special := cs.any fun c => !isPrintable c
    let breaks := cs.any isBreak
    let pairs := cs.zip (cs.drop 1)
    let breakSpace := pairs.any fun (a, b) => isBreak a && b == ' '
    let spaceBreak := pairs.any fun (a, b) => a == ' ' && isBreak b
    let edges := first == ' ' || isBreak first || last == ' ' || isBreak last
    { multiline := breaks
      blockPlain := !(edges || breakSpace || spaceBreak || special || breaks || hasBlockIndicator cs)
      singleQuoted := !(breakSpace || spaceBreak || special)
      block := !(last == ' ' || spaceBreak || special) }
  | _, _ => ⟨false, true, true, false⟩

/-- The style a scalar asks for. -/
inductive Request where
  | any
  | plain
  | singleQuoted
  | literal

/-- The style a text asks for: literal with a line feed, single-quoted when it would read back
as something other than text, and any style otherwise. -/
def Request.ofText (s : String) : Request :=
  if s.contains '\n' then .literal
  else match Plain.ofText s with
    | .text _ => if leadingZeroDigits s then .singleQuoted else .any
    | _ => .singleQuoted

/-- The style a scalar is written in: the one it asks for, or a stronger one where its text
does not allow it. A key must be on one line and may not be empty when plain. -/
def selectStyle (request : Request) (a : Allowed) (empty simpleKey : Bool) : ScalarStyle :=
  let style : ScalarStyle := match request with
    | .any | .plain => .plain
    | .singleQuoted => .singleQuoted
    | .literal => .literal
  let style := if simpleKey && a.multiline then .doubleQuoted else style
  let style :=
    if style == .plain && (!a.blockPlain || (empty && simpleKey)) then .singleQuoted else style
  let style := if style == .singleQuoted && !a.singleQuoted then .doubleQuoted else style
  if style == .literal && (!a.block || simpleKey) then .doubleQuoted else style

/-! ## The writer -/

/-- The text written so far and where writing stands: the column, whether the last thing
written was blank, whether only indentation is on the current line, the indentation of the
node being written, and whether the last block scalar kept its final line breaks. -/
structure Writer where
  out : String
  column : Nat
  whitespace : Bool
  indention : Bool
  indent : Int
  keptBreaks : Bool

def Writer.start : Writer := ⟨"", 0, true, true, -1, false⟩

def Writer.put (w : Writer) (c : Char) : Writer :=
  { w with out := w.out.push c, column := w.column + 1 }

def Writer.newline (w : Writer) : Writer := { w with out := w.out.push '\n', column := 0 }

def Writer.lineBreak (w : Writer) (c : Char) : Writer :=
  if c == '\n' then w.newline else { w with out := w.out.push c, column := 0 }

def Writer.text (w : Writer) (s : String) : Writer := s.foldl Writer.put w

/-- Moves to the indentation of the current node, on a new line unless only indentation is
on this one and it does not pass the node's column. -/
def Writer.writeIndent (w : Writer) : Writer :=
  let indent := w.indent.toNat
  let w := if !w.indention || w.column > indent || (w.column == indent && !w.whitespace) then
      w.newline else w
  let w := Nat.repeat (fun w => w.put ' ') (indent - w.column) w
  { w with whitespace := true, indention := true }

/-- Writes an indicator, after a space if it needs one; it may count as blank, and it keeps
the line counting as indentation only if it may. -/
def Writer.indicator (w : Writer) (s : String) (needWhitespace isWhitespace isIndention : Bool) :
    Writer :=
  let w := if needWhitespace && !w.whitespace then w.put ' ' else w
  let w := w.text s
  { w with whitespace := isWhitespace, indention := w.indention && isIndention }

/-- Indentation one level deeper: the first level of a block node is column 0, of a scalar
column 2; a sequence under a key stays at the key's column. -/
def Writer.deeper (w : Writer) (scalar indentless : Bool) : Int :=
  if w.indent < 0 then (if scalar then 2 else 0)
  else if indentless then w.indent else w.indent + 2

/-! ## Scalars -/

def Writer.plain (w : Writer) (s : String) : Writer :=
  let w := if !w.whitespace && !s.isEmpty then w.put ' ' else w
  { w.text s with whitespace := false, indention := false }

/-- Writes one character of a quoted or block scalar: line breaks as breaks, the first line
feed of a run doubled when `fold` says so, and each line after breaks indented. -/
def Writer.scalarChar (fold quote : Bool) (st : Writer × Bool) (c : Char) : Writer × Bool :=
  let (w, breaks) := st
  if isBreak c then
    let w := if fold && !breaks && c == '\n' then w.newline else w
    ({ w.lineBreak c with indention := true }, true)
  else
    let w := if breaks then w.writeIndent else w
    let w := if quote && c == '\'' then w.put '\'' else w
    ({ w.put c with indention := false }, false)

def Writer.singleQuoted (w : Writer) (s : String) : Writer :=
  let w := w.indicator "'" true false false
  let (w, breaks) := s.foldl (Writer.scalarChar true true) (w, false)
  let w := if breaks then w.writeIndent else w
  { w.indicator "'" false false false with whitespace := false, indention := false }

def hexDigits (width n : Nat) : String :=
  let ds := Nat.toDigits 16 n |>.map Char.toUpper
  String.ofList (List.replicate (width - ds.length) '0' ++ ds)

def escapeOf (c : Char) : String :=
  match c.toNat with
  | 0x00 => "0"
  | 0x07 => "a"
  | 0x08 => "b"
  | 0x09 => "t"
  | 0x0A => "n"
  | 0x0B => "v"
  | 0x0C => "f"
  | 0x0D => "r"
  | 0x1B => "e"
  | 0x22 => "\""
  | 0x5C => "\\"
  | 0x85 => "N"
  | 0xA0 => "_"
  | 0x2028 => "L"
  | 0x2029 => "P"
  | n =>
    if n ≤ 0xFF then "x" ++ hexDigits 2 n
    else if n ≤ 0xFFFF then "u" ++ hexDigits 4 n
    else "U" ++ hexDigits 8 n

def needsEscape (c : Char) : Bool :=
  !isPrintable c || c == '\uFEFF' || isBreak c || c == '"' || c == '\\'

def Writer.doubleQuoted (w : Writer) (s : String) : Writer :=
  let w := w.indicator "\"" true false false
  let w := s.foldl (fun w c => if needsEscape c then (w.put '\\').text (escapeOf c) else w.put c) w
  { w.indicator "\"" false false false with whitespace := false, indention := false }

/-- The chomping of a literal: `-` when the text does not end in a line break, nothing when it
ends in exactly one, `+` when it ends in more or is a single break. -/
def chompOf (cs : List Char) : String :=
  match cs.reverse with
  | [] => "-"
  | [c] => if isBreak c then "+" else "-"
  | c :: d :: _ => if !isBreak c then "-" else if isBreak d then "+" else ""

/-- Writes a literal block scalar: `|`, an indentation hint when the text starts with a
space or a break, the chomping, then the lines at the scalar's indentation. -/
def Writer.literal (w : Writer) (s : String) : Writer :=
  let cs := s.toList
  let w := w.indicator "|" true false false
  let w := match cs.head? with
    | some c => if c == ' ' || isBreak c then w.indicator "2" false false false else w
    | none => w
  let chomp := chompOf cs
  let w := if chomp.isEmpty then w else w.indicator chomp false false false
  let w := { w.newline with indention := true, whitespace := true, keptBreaks := chomp == "+" }
  (cs.foldl (Writer.scalarChar false false) (w, true)).1

def Writer.scalar (w : Writer) (s : String) (request : Request) (simpleKey : Bool) : Writer :=
  let style := selectStyle request (Allowed.of s) s.isEmpty simpleKey
  let outer := w.indent
  let w := { w with indent := w.deeper true false }
  let w := match style with
    | .plain => w.plain s
    | .singleQuoted => w.singleQuoted s
    | .literal | .folded => w.literal s
    | .doubleQuoted => w.doubleQuoted s
  { w with indent := outer }

def simpleKey (key : String) : Bool :=
  !(Allowed.of key).multiline && key.utf8ByteSize ≤ 128

def numberText : Json.Number → String
  | .nat n => toString n
  | .int k => toString k
  | .float f =>
    if Json.isFinite f then Json.FloatLayout.yaml.text f
    else if f != f then ".nan" else if f > 0 then ".inf" else "-.inf"

/-! ## Nodes -/

mutual

def Writer.node (w : Writer) (underKey : Bool) : Value → Writer
  | .null => w.scalar "null" .plain false
  | .bool b => w.scalar (if b then "true" else "false") .plain false
  | .number n => w.scalar (numberText n) .plain false
  | .string s => w.scalar s (Request.ofText s) false
  | .array items =>
    if items.isEmpty then (w.indicator "[" true true false).indicator "]" false false false
    else
      let outer := w.indent
      let w := { w with indent := w.deeper false (underKey && !w.indention) }
      { w.items items with indent := outer }
  | .object entries =>
    if entries.isEmpty then (w.indicator "\x7b" true true false).indicator "\x7d" false false false
    else
      let outer := w.indent
      let w := { w with indent := w.deeper false false }
      { w.entries entries with indent := outer }

def Writer.items (w : Writer) : List Value → Writer
  | [] => w
  | v :: rest => ((w.writeIndent.indicator "-" true false true).node false v).items rest

def Writer.entries (w : Writer) : List (String × Value) → Writer
  | [] => w
  | (k, v) :: rest =>
    let w := w.writeIndent
    let w :=
      if simpleKey k then (w.scalar k (Request.ofText k) true).indicator ":" false false false
      else
        let w := (w.indicator "?" true false true).scalar k (Request.ofText k) false
        w.writeIndent.indicator ":" true false true
    (w.node true v).entries rest

end

def emit (v : Value) : String :=
  let w := (Writer.start.node false v).writeIndent
  let w := if w.keptBreaks then (w.indicator "..." true false false).writeIndent else w
  w.out

end Yaml

end RuleOverlay
