import RuleOverlay.Yaml.Input
import RuleOverlay.Yaml.Chars
/-! # Cutting a YAML text into tokens

The scanner turns characters into tokens on demand. Block structure is read from
indentation: a deeper column opens a block sequence or mapping, a shallower one closes the
open blocks with `blockEnd` tokens. A key needs no indicator: where a `:` follows a scalar,
an alias, an anchor, a tag or a flow collection on the same line and within 1024 bytes,
the scanner goes back and puts a `key` token (and, in block context, the start of the
mapping) in front of it. So the token at the head of the queue is handed out only once no
such key can still be put before it.

Problems stop the scanner; each names what was being scanned and where that started.
-/
namespace RuleOverlay

namespace Yaml

/-- A place where a key without indicator may have started. -/
structure SimpleKey where
  possible : Bool
  required : Bool
  tokenNumber : Nat
  mark : Mark

def SimpleKey.none : SimpleKey := ⟨false, false, 0, Mark.origin⟩

/-- The state of the scanner. -/
structure Scanner where
  chars : Array Char
  tail : Option Problem
  pos : Nat
  mark : Mark
  started : Bool
  flowLevel : Nat
  queue : Array Token
  parsed : Nat
  available : Bool
  indent : Int
  indents : List Int
  keyAllowed : Bool
  keys : List SimpleKey

def Scanner.ofInput (input : Input) : Scanner :=
  ⟨input.chars, input.tail, 0, Mark.origin, false, 0, #[], 0, false, -1, [], false, []⟩

abbrev Scan := StateT Scanner (Except Problem)

def peekAt (k : Nat) : Scan Char := do
  let s ← get
  return s.chars.getD (s.pos + k) '\x00'

def cur : Scan Char := peekAt 0

def cache (n : Nat) : Scan Unit := do
  let s ← get
  if s.pos + n > s.chars.size then
    match s.tail with
    | some p => throw p
    | none => pure ()

def width (s : Scanner) : Nat := (s.chars.getD s.pos '\x00').utf8Size

def skip : Scan Unit :=
  modify fun s =>
    { s with pos := s.pos + 1, mark := ⟨s.mark.index + width s, s.mark.line, s.mark.column + 1⟩ }

def skipLine : Scan Unit := do
  let c ← cur
  let d ← peekAt 1
  if c == '\r' && d == '\n' then
    modify fun s => { s with pos := s.pos + 2, mark := ⟨s.mark.index + 2, s.mark.line + 1, 0⟩ }
  else if isBreak c then
    modify fun s => { s with pos := s.pos + 1, mark := ⟨s.mark.index + width s, s.mark.line + 1, 0⟩ }

def take : Scan Char := do
  let c ← cur
  skip
  return c

/-- Takes a line break: line feed, carriage return, their pair and NEL read as a line feed;
a line or paragraph separator reads as itself. -/
def takeLine : Scan String := do
  let c ← cur
  let d ← peekAt 1
  if c == '\r' && d == '\n' then
    modify fun s => { s with pos := s.pos + 2, mark := ⟨s.mark.index + 2, s.mark.line + 1, 0⟩ }
    return "\n"
  else if c == '\r' || c == '\n' || c == '\x85' then
    modify fun s => { s with pos := s.pos + 1, mark := ⟨s.mark.index + width s, s.mark.line + 1, 0⟩ }
    return "\n"
  else if c == '\u2028' || c == '\u2029' then
    modify fun s => { s with pos := s.pos + 1, mark := ⟨s.mark.index + width s, s.mark.line + 1, 0⟩ }
    return String.singleton c
  else return ""

def bound : Scan Nat := do
  let s ← get
  return s.chars.size - s.pos + 2

def fail {α : Type} (context : Option (String × Mark)) (problem : String) : Scan α := do
  throw ⟨problem, (← get).mark, 0, context⟩

def atDocumentMarker : Scan Bool := do
  let s ← get
  if s.mark.column != 0 then return false
  let a ← peekAt 0
  let b ← peekAt 1
  let c ← peekAt 2
  let d ← peekAt 3
  return ((a == '-' && b == '-' && c == '-') || (a == '.' && b == '.' && c == '.')) && isBlankz d

/-! ## The queue, keys and indentation -/

def enqueue (t : Token) : Scan Unit := modify fun s => { s with queue := s.queue.push t }

def removeSimpleKey : Scan Unit := do
  let s ← get
  match s.keys with
  | k :: rest =>
    if k.possible && k.required then
      fail (some ("while scanning a simple key", k.mark)) "could not find expected ':'"
    else set { s with keys := { k with possible := false } :: rest }
  | [] => pure ()

def saveSimpleKey : Scan Unit := do
  let s ← get
  if s.keyAllowed then
    let required := s.flowLevel == 0 && s.indent == (s.mark.column : Int)
    let key : SimpleKey := ⟨true, required, s.parsed + s.queue.size, s.mark⟩
    removeSimpleKey
    modify fun s => { s with keys := match s.keys with
      | _ :: rest => key :: rest
      | [] => [key] }

def staleSimpleKeys : Scan Unit := do
  let s ← get
  let stale (k : SimpleKey) : Bool :=
    k.possible && (k.mark.line < s.mark.line || k.mark.index + 1024 < s.mark.index)
  match s.keys.reverse.find? (fun k => stale k && k.required) with
  | some k => fail (some ("while scanning a simple key", k.mark)) "could not find expected ':'"
  | none => set { s with keys := s.keys.map fun k => if stale k then { k with possible := false } else k }

def increaseFlowLevel : Scan Unit :=
  modify fun s => { s with keys := SimpleKey.none :: s.keys, flowLevel := s.flowLevel + 1 }

def decreaseFlowLevel : Scan Unit :=
  modify fun s =>
    if s.flowLevel == 0 then s
    else { s with flowLevel := s.flowLevel - 1, keys := s.keys.drop 1 }

/-- In block context, opens a block at `column` if it is deeper than the current one, with a
token of `kind` at the end of the queue or at token number `number`. -/
def rollIndent (column : Nat) (number : Option Nat) (kind : TokenKind) (mark : Mark) :
    Scan Unit := do
  let s ← get
  if s.flowLevel == 0 && s.indent < (column : Int) then
    let t : Token := ⟨kind, mark, mark⟩
    let queue := match number with
      | none => s.queue.push t
      | some n => s.queue.insertIdxIfInBounds (n - s.parsed) t
    set { s with indents := s.indent :: s.indents, indent := column, queue := queue }

def closeLevels (column : Int) (mark : Mark) (indent : Int) :
    List Int → Array Token → Int × List Int × Array Token
  | [], q => if indent > column then (-1, [], q.push ⟨.blockEnd, mark, mark⟩) else (indent, [], q)
  | i :: more, q =>
    if indent > column then closeLevels column mark i more (q.push ⟨.blockEnd, mark, mark⟩)
    else (indent, i :: more, q)

def unrollIndent (column : Int) : Scan Unit := do
  let s ← get
  if s.flowLevel == 0 then
    let (indent, indents, queue) := closeLevels column s.mark s.indent s.indents s.queue
    set { s with indent := indent, indents := indents, queue := queue }

/-! ## Skipping blanks and comments -/

def skipSpaces (tabs : Bool) : Nat → Scan Unit
  | 0 => pure ()
  | fuel + 1 => do
    let c ← cur
    if c == ' ' || (tabs && c == '\t') then
      skip
      cache 1
      skipSpaces tabs fuel
    else pure ()

def skipComment : Nat → Scan Unit
  | 0 => pure ()
  | fuel + 1 => do
    if isBreakz (← cur) then return
    skip
    cache 1
    skipComment fuel

def skipLines (n : Nat) : Nat → Scan Unit
  | 0 => pure ()
  | fuel + 1 => do
    cache 1
    if (← get).mark.column == 0 && (← cur) == '\uFEFF' then skip
    cache 1
    let s ← get
    skipSpaces (s.flowLevel > 0 || !s.keyAllowed) n
    if (← cur) == '#' then skipComment n
    if isBreak (← cur) then
      cache 2
      skipLine
      if (← get).flowLevel == 0 then modify fun s => { s with keyAllowed := true }
      skipLines n fuel
    else pure ()

/-- Skips blanks, comments and line breaks up to the next token. Tabs count as blanks in
flow context and where no key may start. -/
def scanToNextToken : Scan Unit := do
  let n ← bound
  skipLines n n

/-! ## Directives -/

def scanDirectiveName (start : Mark) : Scan String := do
  cache 1
  let mut name := ""
  let n ← bound
  for _ in [0:n] do
    if !isWordChar (← cur) then break
    name := name.push (← take)
    cache 1
  if name.isEmpty then
    fail (some ("while scanning a directive", start)) "could not find expected directive name"
  if !isBlankz (← cur) then
    fail (some ("while scanning a directive", start)) "found unexpected non-alphabetical character"
  return name

def skipBlanks : Scan Unit := do
  let n ← bound
  for _ in [0:n] do
    if !isBlank (← cur) then break
    skip
    cache 1

def scanVersionNumber (start : Mark) : Scan Nat := do
  let mut value := 0
  let mut length := 0
  cache 1
  let n ← bound
  for _ in [0:n] do
    let c ← cur
    if !c.isDigit then break
    length := length + 1
    if length > 9 then
      fail (some ("while scanning a %YAML directive", start)) "found extremely long version number"
    value := value * 10 + (c.toNat - 48)
    skip
    cache 1
  if length == 0 then
    fail (some ("while scanning a %YAML directive", start)) "did not find expected version number"
  return value

def scanVersionValue (start : Mark) : Scan (Nat × Nat) := do
  cache 1
  skipBlanks
  let major ← scanVersionNumber start
  if (← cur) != '.' then
    fail (some ("while scanning a %YAML directive", start))
      "did not find expected digit or '.' character"
  skip
  let minor ← scanVersionNumber start
  return (major, minor)

def scanTagHandle (directive : Bool) (start : Mark) : Scan String := do
  cache 1
  if (← cur) != '!' then
    fail (some (if directive then "while scanning a tag directive" else "while scanning a tag",
      start)) "did not find expected '!'"
  let mut handle := String.singleton (← take)
  cache 1
  let n ← bound
  for _ in [0:n] do
    if !isWordChar (← cur) then break
    handle := handle.push (← take)
    cache 1
  if (← cur) == '!' then
    handle := handle.push (← take)
  else if directive && handle != "!" then
    fail (some ("while parsing a tag directive", start)) "did not find expected '!'"
  return handle

def isUriChar (verbatim : Bool) (c : Char) : Bool :=
  isWordChar c || ";/?:@&=+$.%!~*'()".toList.contains c || (verbatim && ",[]".toList.contains c)

def scanUriEscapes (directive : Bool) (start : Mark) : Scan Bytes := do
  let context := if directive then "while parsing a %TAG directive" else "while parsing a tag"
  let mut bytes : Bytes := []
  let mut width := 0
  for _ in [0:4] do
    cache 3
    let a ← peekAt 0
    let b ← peekAt 1
    let c ← peekAt 2
    if !(a == '%' && isHexChar b && isHexChar c) then
      fail (some (context, start)) "did not find URI escaped octet"
    let octet := (hexDigitValue b * 16 + hexDigitValue c).toUInt8
    if width == 0 then
      width := leadWidth octet
      if width == 0 then fail (some (context, start)) "found an incorrect leading UTF-8 octet"
    else if octet &&& 0xC0 != 0x80 then
      fail (some (context, start)) "found an incorrect trailing UTF-8 octet"
    bytes := bytes ++ [octet]
    skip; skip; skip
    width := width - 1
    if width == 0 then break
  return bytes

def scanTagUri (verbatim directive : Bool) (head : String) (start : Mark) : Scan Bytes := do
  let mut bytes : Bytes := Utf8.encodeChars (head.toList.drop 1)
  let mut length := head.length
  cache 1
  let n ← bound
  for _ in [0:n] do
    let c ← cur
    if !isUriChar verbatim c then break
    if c == '%' then bytes := bytes ++ (← scanUriEscapes directive start)
    else bytes := bytes ++ Utf8.encodeChar (← take)
    length := length + 1
    cache 1
  if length == 0 then
    fail (some (if directive then "while parsing a %TAG directive" else "while parsing a tag",
      start)) "did not find expected tag URI"
  return bytes

def scanTagDirectiveValue (start : Mark) : Scan (String × Bytes) := do
  cache 1
  skipBlanks
  let handle ← scanTagHandle true start
  cache 1
  if !isBlank (← cur) then
    fail (some ("while scanning a %TAG directive", start)) "did not find expected whitespace"
  skipBlanks
  let pre ← scanTagUri true true "" start
  cache 1
  if !isBlankz (← cur) then
    fail (some ("while scanning a %TAG directive", start))
      "did not find expected whitespace or line break"
  return (handle, pre)

def scanDirective : Scan Token := do
  let start := (← get).mark
  skip
  let name ← scanDirectiveName start
  let kind ← match name with
    | "YAML" => do
      let (major, minor) ← scanVersionValue start
      pure (TokenKind.versionDirective major minor)
    | "TAG" => do
      let (handle, pre) ← scanTagDirectiveValue start
      pure (TokenKind.tagDirective handle pre)
    | _ => fail (some ("while scanning a directive", start)) "found unknown directive name"
  let stop := (← get).mark
  cache 1
  skipBlanks
  if (← cur) == '#' then
    let n ← bound
    for _ in [0:n] do
      if isBreakz (← cur) then break
      skip
      cache 1
  if !isBreakz (← cur) then
    fail (some ("while scanning a directive", start)) "did not find expected comment or line break"
  if isBreak (← cur) then
    cache 2
    skipLine
  return ⟨kind, start, stop⟩

/-! ## Anchors, aliases and tags -/

def scanAnchor (isAlias : Bool) : Scan Token := do
  let start := (← get).mark
  skip
  cache 1
  let mut name := ""
  let n ← bound
  for _ in [0:n] do
    if !isWordChar (← cur) then break
    name := name.push (← take)
    cache 1
  let stop := (← get).mark
  let c ← cur
  if name.isEmpty || !(isBlankz c || ['?', ':', ',', ']', '\x7d', '%', '@', '\x60'].contains c) then
    fail (some (if isAlias then "while scanning an alias" else "while scanning an anchor", start))
      "did not find expected alphabetic or numeric character"
  return ⟨if isAlias then .alias name else .anchor name, start, stop⟩

def scanTag : Scan Token := do
  let start := (← get).mark
  cache 2
  let (handle, suffix) ← do
    if (← peekAt 1) == '<' then
      skip; skip
      let suffix ← scanTagUri true false "" start
      if (← cur) != '>' then
        fail (some ("while scanning a tag", start)) "did not find the expected '>'"
      skip
      pure ("", suffix)
    else
      let handle ← scanTagHandle false start
      if handle.length > 1 && handle.startsWith "!" && handle.endsWith "!" then
        let suffix ← scanTagUri false false "" start
        pure (handle, suffix)
      else
        let suffix ← scanTagUri false false handle start
        if suffix.isEmpty then pure ("", Utf8.encode "!") else pure ("!", suffix)
  cache 1
  let c ← cur
  if !isBlankz c then
    if (← get).flowLevel == 0 || c != ',' then
      fail (some ("while scanning a tag", start)) "did not find expected whitespace or line break"
  return ⟨.tag handle suffix, start, (← get).mark⟩

/-! ## Block scalars -/

/-- Skips the indentation of a line of a block scalar: spaces up to its indentation, or every
space while the indentation is not known yet (`indent = 0`). -/
def blockIndentation (indent : Nat) : Nat → Scan Unit
  | 0 => pure ()
  | fuel + 1 => do
    let s ← get
    let c ← cur
    if (indent == 0 || s.mark.column < indent) && c == ' ' then
      skip
      cache 1
      blockIndentation indent fuel
    else pure ()

/-- Reads the empty lines before a line of a block scalar: the deepest indentation seen, the
breaks gathered, and where the last of them ended. -/
def blockBreaks (indent : Nat) (start : Mark) (n : Nat) :
    Nat → Nat × String × Mark → Scan (Nat × String × Mark)
  | 0, r => pure r
  | fuel + 1, (maxIndent, breaks, stop) => do
    cache 1
    blockIndentation indent n
    let column := (← get).mark.column
    let maxIndent := if column > maxIndent then column else maxIndent
    if (indent == 0 || column < indent) && (← cur) == '\t' then
      fail (some ("while scanning a block scalar", start))
        "found a tab character where an indentation space is expected"
    if !isBreak (← cur) then return (maxIndent, breaks, stop)
    cache 2
    let b ← takeLine
    blockBreaks indent start n fuel (maxIndent, breaks ++ b, (← get).mark)

/-- Skips the indentation and empty lines before a line of a block scalar, gathering the
line breaks; fixes the indentation from the deepest of them if it is not known yet. -/
def scanBlockBreaks (indent : Nat) (start : Mark) : Scan (Nat × String × Mark) := do
  let stop := (← get).mark
  let n ← bound
  let (maxIndent, breaks, stop) ← blockBreaks indent start n n (0, "", stop)
  if indent == 0 then
    let outer := (← get).indent
    let least := if outer + 1 < 1 then 1 else (outer + 1).toNat
    return ((if maxIndent < least then least else maxIndent), breaks, stop)
  else return (indent, breaks, stop)

def lineRest : Nat → String → Scan String
  | 0, value => pure value
  | fuel + 1, value => do
    if isBreakz (← cur) then return value
    let c ← take
    cache 1
    lineRest fuel (value.push c)

/-- What a block scalar has read: its indentation, its text, the break that ended its last
line, the breaks of the empty lines after it, whether its last line began with a blank, and
where its last break ended. -/
structure BlockRead where
  indent : Nat
  value : String
  leadingBreak : String
  trailing : String
  leadingBlank : Bool
  stop : Mark

/-- Reads the lines of a block scalar at its indentation. A folded scalar joins a line to the
one before with a space, unless either starts with a blank or empty lines stand between. -/
def blockLines (literal : Bool) (start : Mark) (n : Nat) : Nat → BlockRead → Scan BlockRead
  | 0, r => pure r
  | fuel + 1, r => do
    let s ← get
    let c ← cur
    if s.mark.column != r.indent || c == '\x00' then return r
    let value :=
      if !literal && r.leadingBreak.startsWith "\n" && !r.leadingBlank && !isBlank c then
        if r.trailing.isEmpty then r.value.push ' ' else r.value
      else r.value ++ r.leadingBreak
    let value ← lineRest n (value ++ r.trailing)
    cache 2
    let b ← takeLine
    let (indent, breaks, stop) ← scanBlockBreaks r.indent start
    blockLines literal start n fuel ⟨indent, value, b, breaks, isBlank c, stop⟩

def scanBlockScalar (literal : Bool) : Scan Token := do
  let start := (← get).mark
  skip
  cache 1
  let mut chomping : Int := 0
  let mut increment := 0
  let context := some ("while scanning a block scalar", start)
  let c ← cur
  if c == '+' || c == '-' then
    chomping := if c == '+' then 1 else -1
    skip
    cache 1
    let d ← cur
    if d.isDigit then
      if d == '0' then fail context "found an indentation indicator equal to 0"
      increment := d.toNat - 48
      skip
  else if c.isDigit then
    if c == '0' then fail context "found an indentation indicator equal to 0"
    increment := c.toNat - 48
    skip
    cache 1
    let d ← cur
    if d == '+' || d == '-' then
      chomping := if d == '+' then 1 else -1
      skip
  cache 1
  skipBlanks
  if (← cur) == '#' then
    let n ← bound
    for _ in [0:n] do
      if isBreakz (← cur) then break
      skip
      cache 1
  if !isBreakz (← cur) then fail context "did not find expected comment or line break"
  if isBreak (← cur) then
    cache 2
    skipLine
  let outer := (← get).indent
  let indent : Nat :=
    if increment == 0 then 0 else if outer ≥ 0 then outer.toNat + increment else increment
  let (indent, firstBreaks, stop) ← scanBlockBreaks indent start
  cache 1
  let n ← bound
  let r ← blockLines literal start n n ⟨indent, "", "", firstBreaks, false, stop⟩
  let value := if chomping != -1 then r.value ++ r.leadingBreak else r.value
  let value := if chomping == 1 then value ++ r.trailing else value
  return ⟨.scalar value (if literal then .literal else .folded), start, r.stop⟩

/-! ## Flow scalars -/

def simpleEscape (c : Char) : Option Char :=
  match c with
  | '0' => some '\x00'
  | 'a' => some '\x07'
  | 'b' => some '\x08'
  | 't' => some '\t'
  | '\t' => some '\t'
  | 'n' => some '\n'
  | 'v' => some '\x0b'
  | 'f' => some '\x0c'
  | 'r' => some '\r'
  | 'e' => some '\x1b'
  | ' ' => some ' '
  | '"' => some '"'
  | '/' => some '/'
  | '\'' => some '\''
  | '\\' => some '\\'
  | 'N' => some '\x85'
  | '_' => some '\xa0'
  | 'L' => some '\u2028'
  | 'P' => some '\u2029'
  | _ => none

def hexAhead (start : Mark) (k : Nat) : Nat → Nat → Scan Nat
  | 0, value => pure value
  | count + 1, value => do
    let c ← peekAt k
    if !isHexChar c then
      fail (some ("while parsing a quoted scalar", start)) "did not find expected hexdecimal number"
    hexAhead start (k + 1) count (value * 16 + hexDigitValue c)

def skipN : Nat → Scan Unit
  | 0 => pure ()
  | n + 1 => do
    skip
    skipN n

def codeEscape (start : Mark) (length : Nat) : Scan Char := do
  cache length
  let value ← hexAhead start 0 length 0
  if (0xD800 ≤ value && value ≤ 0xDFFF) || value > 0x10FFFF then
    fail (some ("while parsing a quoted scalar", start)) "found invalid Unicode character escape code"
  skipN length
  return Char.ofNat value

/-- The blanks and line breaks read inside a flow or plain scalar since its last character:
the spaces of the current line, or the first line break, the breaks after it, and whether a
break has begun. -/
structure Gap where
  spaces : String
  leadingBreak : String
  trailing : String
  leadingBlanks : Bool

def Gap.empty : Gap := ⟨"", "", "", false⟩

/-- A scalar's text with a gap added before its next character: a line feed alone folds to a
space, the breaks after it stay, a line or paragraph separator stays with the breaks after it,
and the spaces of one line stay. -/
def Gap.fold (g : Gap) (value : String) : String :=
  if g.leadingBlanks then
    if g.leadingBreak.startsWith "\n" then
      if g.trailing.isEmpty then value.push ' ' else value ++ g.trailing
    else value ++ g.leadingBreak ++ g.trailing
  else value ++ g.spaces

/-- Reads the blanks and line breaks of a gap: spaces before the first break count, blanks
after it are indentation and are skipped. In a plain scalar (`tabs` gives its start and the
column its lines must pass) a tab in that indentation is a problem. -/
def scanGap (tabs : Option (Mark × Int)) : Nat → Gap → Scan Gap
  | 0, g => pure g
  | fuel + 1, g => do
    let c ← cur
    if !(isBlank c || isBreak c) then return g
    let g ← if isBlank c then do
        match tabs with
        | some (start, indent) =>
          if g.leadingBlanks && ((← get).mark.column : Int) < indent && c == '\t' then
            fail (some ("while scanning a plain scalar", start))
              "found a tab character that violates indentation"
        | none => pure ()
        if !g.leadingBlanks then
          let c ← take
          pure { g with spaces := g.spaces.push c }
        else
          skip
          pure g
      else do
        cache 2
        let b ← takeLine
        if !g.leadingBlanks then pure { g with spaces := "", leadingBreak := b, leadingBlanks := true }
        else pure { g with trailing := g.trailing ++ b }
    cache 1
    scanGap tabs fuel g

/-- Reads characters of a quoted scalar up to a blank or the closing quote: a doubled single
quote stands for one, a backslash escapes in double quotes, and an escaped line break ends the
run with its gap begun. -/
def quotedRun (single : Bool) (start : Mark) : Nat → String × Bool → Scan (String × Bool)
  | 0, r => pure r
  | fuel + 1, (value, leadingBlanks) => do
    let c ← cur
    if isBlankz c then return (value, leadingBlanks)
    let d ← peekAt 1
    if single && c == '\'' && d == '\'' then
      skip; skip
      cache 2
      quotedRun single start fuel (value.push '\'', leadingBlanks)
    else if c == (if single then '\'' else '"') then return (value, leadingBlanks)
    else if !single && c == '\\' && isBreak d then
      cache 3
      skip
      skipLine
      return (value, true)
    else if !single && c == '\\' then
      let e ← match d with
        | 'x' => do skip; skip; codeEscape start 2
        | 'u' => do skip; skip; codeEscape start 4
        | 'U' => do skip; skip; codeEscape start 8
        | _ =>
          match simpleEscape d with
          | some e => do skip; skip; pure e
          | none =>
            fail (some ("while parsing a quoted scalar", start)) "found unknown escape character"
      cache 2
      quotedRun single start fuel (value.push e, leadingBlanks)
    else
      let c ← take
      cache 2
      quotedRun single start fuel (value.push c, leadingBlanks)

/-- Reads a quoted scalar run by run up to its closing quote, each run followed by its gap;
a document marker or the end of the text inside is a problem. -/
def quotedLines (single : Bool) (start : Mark) (n : Nat) : Nat → String → Scan String
  | 0, value => pure value
  | fuel + 1, value => do
    cache 4
    if ← atDocumentMarker then
      fail (some ("while scanning a quoted scalar", start)) "found unexpected document indicator"
    if (← cur) == '\x00' then
      fail (some ("while scanning a quoted scalar", start)) "found unexpected end of stream"
    cache 2
    let (value, leadingBlanks) ← quotedRun single start n (value, false)
    cache 1
    if (← cur) == (if single then '\'' else '"') then return value
    cache 1
    let g ← scanGap none n { Gap.empty with leadingBlanks := leadingBlanks }
    quotedLines single start n fuel (g.fold value)

/-- A single-quoted or double-quoted scalar. Line breaks inside fold to a space, or to the
breaks after the first where there are several. -/
def scanFlowScalar (single : Bool) : Scan Token := do
  let start := (← get).mark
  skip
  let n ← bound
  let value ← quotedLines single start n n ""
  skip
  return ⟨.scalar value (if single then .singleQuoted else .doubleQuoted), start, (← get).mark⟩

/-! ## Plain scalars -/

/-- What a plain scalar has read: its text, where its last character ended, and the gap after
it. -/
structure PlainRead where
  value : String
  stop : Mark
  gap : Gap

/-- Reads characters of a plain scalar up to a blank, a `:` before a blank, or a flow indicator
in flow context, with the gap before them folded in. -/
def plainRun (start : Mark) : Nat → PlainRead → Scan PlainRead
  | 0, r => pure r
  | fuel + 1, r => do
    let c ← cur
    if isBlankz c then return r
    let d ← peekAt 1
    let flow := (← get).flowLevel > 0
    if flow && c == ':' && [',', '?', '[', ']', '\x7b', '\x7d'].contains d then
      fail (some ("while scanning a plain scalar", start)) "found unexpected ':'"
    if (c == ':' && isBlankz d) || (flow && [',', '[', ']', '\x7b', '\x7d'].contains c) then
      return r
    let value := r.gap.fold r.value
    let c ← take
    let stop := (← get).mark
    cache 2
    plainRun start fuel ⟨value.push c, stop, Gap.empty⟩

/-- Reads a plain scalar run by run, each run followed by its gap, until a document marker, a
comment, an indicator, or a line indented no deeper than the enclosing block. -/
def plainLines (start : Mark) (indent : Int) (n : Nat) : Nat → PlainRead → Scan PlainRead
  | 0, r => pure r
  | fuel + 1, r => do
    cache 4
    if ← atDocumentMarker then return r
    if (← cur) == '#' then return r
    let r ← plainRun start n r
    let c ← cur
    if !(isBlank c || isBreak c) then return r
    cache 1
    let g ← scanGap (some (start, indent)) n r.gap
    let s ← get
    if s.flowLevel == 0 && (s.mark.column : Int) < indent then return { r with gap := g }
    plainLines start indent n fuel { r with gap := g }

/-- A plain scalar. It ends before `: `, before ` #`, at a flow indicator in flow context,
at a document marker, or at a line indented no deeper than the enclosing block. -/
def scanPlainScalar : Scan Token := do
  let s0 ← get
  let indent : Int := s0.indent + 1
  let start := s0.mark
  let n ← bound
  let r ← plainLines start indent n n ⟨"", start, Gap.empty⟩
  if r.gap.leadingBlanks then modify fun s => { s with keyAllowed := true }
  return ⟨.scalar r.value .plain, start, r.stop⟩

/-! ## Fetching tokens -/

def indicator (kind : TokenKind) : Scan Unit := do
  let start := (← get).mark
  skip
  enqueue ⟨kind, start, (← get).mark⟩

def fetchStreamStart : Scan Unit := do
  modify fun s =>
    { s with indent := -1, keys := [SimpleKey.none], keyAllowed := true, started := true }
  let m := (← get).mark
  enqueue ⟨.streamStart, m, m⟩

def fetchStreamEnd : Scan Unit := do
  modify fun s =>
    if s.mark.column != 0 then { s with mark := ⟨s.mark.index, s.mark.line + 1, 0⟩ } else s
  unrollIndent (-1)
  removeSimpleKey
  modify fun s => { s with keyAllowed := false }
  let m := (← get).mark
  enqueue ⟨.streamEnd, m, m⟩

def fetchDirective : Scan Unit := do
  unrollIndent (-1)
  removeSimpleKey
  modify fun s => { s with keyAllowed := false }
  enqueue (← scanDirective)

def fetchDocumentIndicator (kind : TokenKind) : Scan Unit := do
  unrollIndent (-1)
  removeSimpleKey
  modify fun s => { s with keyAllowed := false }
  let start := (← get).mark
  skip; skip; skip
  enqueue ⟨kind, start, (← get).mark⟩

def fetchFlowCollectionStart (kind : TokenKind) : Scan Unit := do
  saveSimpleKey
  increaseFlowLevel
  modify fun s => { s with keyAllowed := true }
  indicator kind

def fetchFlowCollectionEnd (kind : TokenKind) : Scan Unit := do
  removeSimpleKey
  decreaseFlowLevel
  modify fun s => { s with keyAllowed := false }
  indicator kind

def fetchFlowEntry : Scan Unit := do
  removeSimpleKey
  modify fun s => { s with keyAllowed := true }
  indicator .flowEntry

def fetchBlockEntry : Scan Unit := do
  let s ← get
  if s.flowLevel == 0 then
    if !s.keyAllowed then fail none "block sequence entries are not allowed in this context"
    rollIndent s.mark.column none .blockSequenceStart s.mark
  removeSimpleKey
  modify fun s => { s with keyAllowed := true }
  indicator .blockEntry

def fetchKey : Scan Unit := do
  let s ← get
  if s.flowLevel == 0 then
    if !s.keyAllowed then fail none "mapping keys are not allowed in this context"
    rollIndent s.mark.column none .blockMappingStart s.mark
  removeSimpleKey
  modify fun s => { s with keyAllowed := s.flowLevel == 0 }
  indicator .key

def fetchValue : Scan Unit := do
  let s ← get
  match s.keys with
  | k :: rest =>
    if k.possible then
      let t : Token := ⟨.key, k.mark, k.mark⟩
      set { s with queue := s.queue.insertIdxIfInBounds (k.tokenNumber - s.parsed) t }
      rollIndent k.mark.column (some k.tokenNumber) .blockMappingStart k.mark
      modify fun s => { s with keys := { k with possible := false } :: rest, keyAllowed := false }
    else
      if s.flowLevel == 0 then
        if !s.keyAllowed then fail none "mapping values are not allowed in this context"
        rollIndent s.mark.column none .blockMappingStart s.mark
      modify fun s => { s with keyAllowed := s.flowLevel == 0 }
  | [] => pure ()
  indicator .value

def fetchAnchor (isAlias : Bool) : Scan Unit := do
  saveSimpleKey
  modify fun s => { s with keyAllowed := false }
  enqueue (← scanAnchor isAlias)

def fetchTag : Scan Unit := do
  saveSimpleKey
  modify fun s => { s with keyAllowed := false }
  enqueue (← scanTag)

def fetchBlockScalar (literal : Bool) : Scan Unit := do
  removeSimpleKey
  modify fun s => { s with keyAllowed := true }
  enqueue (← scanBlockScalar literal)

def fetchFlowScalar (single : Bool) : Scan Unit := do
  saveSimpleKey
  modify fun s => { s with keyAllowed := false }
  enqueue (← scanFlowScalar single)

def fetchPlainScalar : Scan Unit := do
  saveSimpleKey
  modify fun s => { s with keyAllowed := false }
  enqueue (← scanPlainScalar)

def indicatorChars : List Char :=
  ['-', '?', ':', ',', '[', ']', '\x7b', '\x7d', '#', '&', '*', '!', '|', '>', '\'', '"', '%', '@',
    '\x60']

/-- Cuts the token that starts with the characters `c`, `d`, `e`, `f`, in flow context or not,
at the start of a line or not. -/
def fetchAt (c d e f : Char) (flow column0 : Bool) (mark : Mark) : Scan Unit :=
  if c == '\x00' then fetchStreamEnd
  else if column0 && c == '%' then fetchDirective
  else if column0 && c == '-' && d == '-' && e == '-' && isBlankz f then
    fetchDocumentIndicator .documentStart
  else if column0 && c == '.' && d == '.' && e == '.' && isBlankz f then
    fetchDocumentIndicator .documentEnd
  else if c == '[' then fetchFlowCollectionStart .flowSequenceStart
  else if c == '\x7b' then fetchFlowCollectionStart .flowMappingStart
  else if c == ']' then fetchFlowCollectionEnd .flowSequenceEnd
  else if c == '\x7d' then fetchFlowCollectionEnd .flowMappingEnd
  else if c == ',' then fetchFlowEntry
  else if c == '-' && isBlankz d then fetchBlockEntry
  else if c == '?' && (flow || isBlankz d) then fetchKey
  else if c == ':' && (flow || isBlankz d) then fetchValue
  else if c == '*' then fetchAnchor true
  else if c == '&' then fetchAnchor false
  else if c == '!' then fetchTag
  else if c == '|' && !flow then fetchBlockScalar true
  else if c == '>' && !flow then fetchBlockScalar false
  else if c == '\'' then fetchFlowScalar true
  else if c == '"' then fetchFlowScalar false
  else if !(isBlankz c || indicatorChars.contains c) || (c == '-' && !isBlank d) ||
      (!flow && (c == '?' || c == ':') && !isBlankz d) then
    fetchPlainScalar
  else
    fail (some ("while scanning for the next token", mark))
      "found character that cannot start any token"

def fetchToken : Scan Unit := do
  let s ← get
  let c ← cur
  let d ← peekAt 1
  let e ← peekAt 2
  let f ← peekAt 3
  fetchAt c d e f (s.flowLevel > 0) (s.mark.column == 0) s.mark

/-- Cuts the next token: after the stream start, skips to it, gives up the key places left
behind and closes the blocks it is not inside of. -/
def fetchNextToken : Scan Unit := do
  cache 1
  if !(← get).started then fetchStreamStart
  else
    scanToNextToken
    staleSimpleKeys
    unrollIndent (← get).mark.column
    cache 4
    fetchToken

def headUnsettled : Scan Bool := do
  let s ← get
  if s.queue.isEmpty then return true
  staleSimpleKeys
  let s ← get
  return s.keys.any fun k => k.possible && k.tokenNumber == s.parsed

def fetchUntilSettled : Nat → Scan Unit
  | 0 => pure ()
  | fuel + 1 => do
    if !(← headUnsettled) then return
    fetchNextToken
    fetchUntilSettled fuel

def fetchMoreTokens : Scan Unit := do
  fetchUntilSettled ((← get).chars.size + 8)
  modify fun s => { s with available := true }

def peekToken : Scan Token := do
  if !(← get).available then fetchMoreTokens
  match (← get).queue[0]? with
  | some t => return t
  | none =>
    let m := (← get).mark
    return ⟨.streamEnd, m, m⟩

def skipToken : Scan Unit :=
  modify fun s => { s with available := false, parsed := s.parsed + 1, queue := s.queue.extract 1 }

end Yaml

end RuleOverlay
