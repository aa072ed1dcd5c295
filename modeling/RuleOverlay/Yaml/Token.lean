import RuleOverlay.Text.Utf8
/-! # YAML marks, problems and tokens

A mark is a place in a YAML text: the count of bytes before it, its line and its column,
both from 0. A problem is what a YAML reader reports when the text is not well formed: a
sentence, the mark where it was found and, for a problem inside a larger construct, that
construct and where it started. Problems of the byte level have no line and column but a
byte offset.

`Problem.text` writes `problem at line L column C, context at line L' column C'`; lines and
columns are written from 1, a place at line 1 column 1 is left out, and a context's place is
left out where it is the problem's place.

Tokens are what the scanner cuts a text into: indicators, block structure, and scalars with
their style.
-/
namespace RuleOverlay

namespace Yaml

/-- A place in a YAML text. -/
structure Mark where
  index : Nat
  line : Nat
  column : Nat
  deriving DecidableEq, Inhabited

def Mark.origin : Mark := ⟨0, 0, 0⟩

def Mark.isOrigin (m : Mark) : Bool := m.line == 0 && m.column == 0

def Mark.text (m : Mark) : String :=
  "line " ++ toString (m.line + 1) ++ " column " ++ toString (m.column + 1)

/-- What a YAML reader reports about a text that is not well formed. -/
structure Problem where
  problem : String
  mark : Mark
  offset : Nat
  context : Option (String × Mark)

def Problem.atOffset (problem : String) (offset : Nat) : Problem :=
  ⟨problem, Mark.origin, offset, none⟩

def Problem.text (p : Problem) : String :=
  let place :=
    if !p.mark.isOrigin then " at " ++ p.mark.text
    else if p.offset != 0 then " at position " ++ toString p.offset
    else ""
  let context := match p.context with
    | none => ""
    | some (c, m) =>
      ", " ++ c ++ (if !m.isOrigin && m != p.mark then " at " ++ m.text else "")
  p.problem ++ place ++ context

/-- How a scalar was written. -/
inductive ScalarStyle where
  | plain
  | singleQuoted
  | doubleQuoted
  | literal
  | folded
  deriving DecidableEq

/-- What a token is. -/
inductive TokenKind where
  | streamStart
  | streamEnd
  | versionDirective (major minor : Nat)
  | tagDirective (handle : String) (prefixBytes : Bytes)
  | documentStart
  | documentEnd
  | blockSequenceStart
  | blockMappingStart
  | blockEnd
  | flowSequenceStart
  | flowSequenceEnd
  | flowMappingStart
  | flowMappingEnd
  | blockEntry
  | flowEntry
  | key
  | value
  | alias (name : String)
  | anchor (name : String)
  | tag (handle : String) (suffix : Bytes)
  | scalar (value : String) (style : ScalarStyle)

/-- A token and the marks around it. -/
structure Token where
  kind : TokenKind
  start : Mark
  stop : Mark

end Yaml

end RuleOverlay
