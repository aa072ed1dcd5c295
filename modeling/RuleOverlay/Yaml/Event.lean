import RuleOverlay.Yaml.Scanner
/-! # YAML events

The parser reads tokens and hands out events one at a time: the start and end of the stream,
of each document, sequence and mapping, scalars and aliases. It is a state machine with a
stack of states to return to, as the grammar of block and flow collections nests. Where the
grammar allows a node to be left out (an empty value, a key alone) it hands out an empty
plain scalar.

A node's tag is written with a handle, resolved here against the `%TAG` directives of the
document and the two standard handles `!` and `!!`. A tag is kept as the bytes it spells, since
its percent escapes may spell bytes that are not UTF-8.
-/
namespace RuleOverlay

namespace Yaml

/-- What the parser hands out. -/
inductive Event where
  | streamStart
  | streamEnd
  | documentStart
  | documentEnd
  | alias (name : String)
  | scalar (anchor : Option String) (tag : Option Bytes) (value : String) (style : ScalarStyle)
  | sequenceStart (anchor : Option String) (tag : Option Bytes)
  | sequenceEnd
  | mappingStart (anchor : Option String) (tag : Option Bytes)
  | mappingEnd

/-- Where the parser is in the grammar. -/
inductive ParseState where
  | streamStart
  | implicitDocumentStart
  | documentStart
  | documentContent
  | documentEnd
  | blockNode
  | blockNodeOrIndentlessSequence
  | flowNode
  | blockSequenceFirstEntry
  | blockSequenceEntry
  | indentlessSequenceEntry
  | blockMappingFirstKey
  | blockMappingKey
  | blockMappingValue
  | flowSequenceFirstEntry
  | flowSequenceEntry
  | flowSequenceEntryMappingKey
  | flowSequenceEntryMappingValue
  | flowSequenceEntryMappingEnd
  | flowMappingFirstKey
  | flowMappingKey
  | flowMappingValue
  | flowMappingEmptyValue
  | finished

/-- The state of the parser. -/
structure Parser where
  scanner : Scanner
  state : ParseState
  states : List ParseState
  marks : List Mark
  tagDirectives : List (String × Bytes)

def Parser.ofInput (input : Input) : Parser :=
  ⟨Scanner.ofInput input, .streamStart, [], [], []⟩

abbrev Parse := StateT Parser (Except Problem)

def scanning {α : Type} (m : Scan α) : Parse α := fun p => do
  let (a, s) ← m.run p.scanner
  pure (a, { p with scanner := s })

def peek : Parse Token := scanning peekToken

def advance : Parse Unit := scanning skipToken

def goto (st : ParseState) : Parse Unit := modify fun p => { p with state := st }

def pushState (st : ParseState) : Parse Unit := modify fun p => { p with states := st :: p.states }

def popState : Parse Unit := modify fun p =>
  match p.states with
  | st :: rest => { p with state := st, states := rest }
  | [] => { p with state := .finished }

def pushMark (m : Mark) : Parse Unit := modify fun p => { p with marks := m :: p.marks }

def popMark : Parse Mark := do
  let p ← get
  match p.marks with
  | m :: rest =>
    set { p with marks := rest }
    return m
  | [] => return Mark.origin

def grammarError {α : Type} (problem : String) (mark : Mark) : Parse α :=
  throw ⟨problem, mark, 0, none⟩

def grammarErrorIn {α : Type} (context : String) (contextMark : Mark) (problem : String)
    (mark : Mark) : Parse α :=
  throw ⟨problem, mark, 0, some (context, contextMark)⟩

def emptyScalar (mark : Mark) : Event × Mark := (.scalar none none "" .plain, mark)

def Token.isKey (t : Token) : Bool := match t.kind with | .key => true | _ => false
def Token.isValue (t : Token) : Bool := match t.kind with | .value => true | _ => false
def Token.isBlockEntry (t : Token) : Bool := match t.kind with | .blockEntry => true | _ => false
def Token.isBlockEnd (t : Token) : Bool := match t.kind with | .blockEnd => true | _ => false
def Token.isFlowEntry (t : Token) : Bool := match t.kind with | .flowEntry => true | _ => false
def Token.isFlowSequenceEnd (t : Token) : Bool :=
  match t.kind with | .flowSequenceEnd => true | _ => false
def Token.isFlowMappingEnd (t : Token) : Bool :=
  match t.kind with | .flowMappingEnd => true | _ => false
def Token.isDirective (t : Token) : Bool :=
  match t.kind with | .versionDirective _ _ | .tagDirective _ _ => true | _ => false
def Token.isDocumentStart (t : Token) : Bool :=
  match t.kind with | .documentStart => true | _ => false
def Token.isDocumentEnd (t : Token) : Bool :=
  match t.kind with | .documentEnd => true | _ => false
def Token.isStreamEnd (t : Token) : Bool := match t.kind with | .streamEnd => true | _ => false

def defaultTagDirectives : List (String × Bytes) :=
  [("!", Utf8.encode "!"), ("!!", Utf8.encode "tag:yaml.org,2002:")]

def addTagDirective (handle : String) (pre : Bytes) (allowDuplicates : Bool) (mark : Mark) :
    Parse Unit := do
  let p ← get
  if p.tagDirectives.any (·.1 == handle) then
    if allowDuplicates then return
    grammarError "found duplicate %TAG directive" mark
  set { p with tagDirectives := p.tagDirectives ++ [(handle, pre)] }

def processDirectives : Parse Unit := do
  let mut version := false
  let n := (← get).scanner.chars.size + 4
  for _ in [0:n] do
    let t ← peek
    match t.kind with
    | .versionDirective major minor =>
      if version then grammarError "found duplicate %YAML directive" t.start
      if major != 1 || (minor != 1 && minor != 2) then
        grammarError "found incompatible YAML document" t.start
      version := true
      advance
    | .tagDirective handle pre =>
      addTagDirective handle pre false t.start
      advance
    | _ => break
  let t ← peek
  for (handle, pre) in defaultTagDirectives do
    addTagDirective handle pre true t.start

def parseStreamStart : Parse (Event × Mark) := do
  let t ← peek
  match t.kind with
  | .streamStart =>
    goto .implicitDocumentStart
    advance
    return (.streamStart, t.start)
  | _ => grammarError "did not find expected <stream-start>" t.start

def parseDocumentStart (implicit : Bool) : Parse (Event × Mark) := do
  let mut t ← peek
  if !implicit then
    let n := (← get).scanner.chars.size + 4
    for _ in [0:n] do
      if !t.isDocumentEnd then break
      advance
      t ← peek
  if implicit && !t.isDirective && !t.isDocumentStart && !t.isStreamEnd then
    processDirectives
    pushState .documentEnd
    goto .blockNode
    return (.documentStart, t.start)
  else if !t.isStreamEnd then
    let start := t.start
    processDirectives
    let next ← peek
    if !next.isDocumentStart then grammarError "did not find expected <document start>" next.start
    pushState .documentEnd
    goto .documentContent
    advance
    return (.documentStart, start)
  else
    goto .finished
    advance
    return (.streamEnd, t.start)

def parseDocumentContentEmpty : Parse (Option (Event × Mark)) := do
  let t ← peek
  if t.isDirective || t.isDocumentStart || t.isDocumentEnd || t.isStreamEnd then
    popState
    return some (emptyScalar t.start)
  else return none

def parseDocumentEnd : Parse (Event × Mark) := do
  let t ← peek
  if t.isDocumentEnd then advance
  modify fun p => { p with tagDirectives := [] }
  goto .documentStart
  return (.documentEnd, t.start)

def resolveTag (handle : String) (suffix : Bytes) (start tagMark : Mark) : Parse Bytes := do
  if handle.isEmpty then return suffix
  match (← get).tagDirectives.find? (·.1 == handle) with
  | some (_, pre) => return pre ++ suffix
  | none => grammarErrorIn "while parsing a node" start "found undefined tag handle" tagMark

def parseNode (block indentless : Bool) : Parse (Event × Mark) := do
  let t ← peek
  match t.kind with
  | .alias name =>
    popState
    advance
    return (.alias name, t.start)
  | _ =>
    let mut start := t.start
    let mut anchor : Option String := none
    let mut handle : Option (String × Bytes) := none
    let mut tagMark := t.start
    let mut t := t
    match t.kind with
    | .anchor a =>
      anchor := some a
      advance
      t ← peek
      match t.kind with
      | .tag h s =>
        handle := some (h, s)
        tagMark := t.start
        advance
        t ← peek
      | _ => pure ()
    | .tag h s =>
      handle := some (h, s)
      tagMark := t.start
      advance
      t ← peek
      match t.kind with
      | .anchor a =>
        anchor := some a
        advance
        t ← peek
      | _ => pure ()
    | _ => pure ()
    let tag ← match handle with
      | some (h, s) => some <$> resolveTag h s start tagMark
      | none => pure none
    if indentless && t.isBlockEntry then
      goto .indentlessSequenceEntry
      return (.sequenceStart anchor tag, start)
    match t.kind with
    | .scalar value style =>
      popState
      advance
      return (.scalar anchor tag value style, start)
    | .flowSequenceStart =>
      goto .flowSequenceFirstEntry
      return (.sequenceStart anchor tag, start)
    | .flowMappingStart =>
      goto .flowMappingFirstKey
      return (.mappingStart anchor tag, start)
    | .blockSequenceStart =>
      if block then
        goto .blockSequenceFirstEntry
        return (.sequenceStart anchor tag, start)
    | .blockMappingStart =>
      if block then
        goto .blockMappingFirstKey
        return (.mappingStart anchor tag, start)
    | _ => pure ()
    if anchor.isSome || tag.isSome then
      popState
      return (.scalar anchor tag "" .plain, start)
    grammarErrorIn (if block then "while parsing a block node" else "while parsing a flow node")
      start "did not find expected node content" t.start

def parseBlockSequenceEntry (first : Bool) : Parse (Event × Mark) := do
  if first then
    pushMark (← peek).start
    advance
  let t ← peek
  if t.isBlockEntry then
    let mark := t.stop
    advance
    let t ← peek
    if !t.isBlockEntry && !t.isBlockEnd then
      pushState .blockSequenceEntry
      parseNode true false
    else
      goto .blockSequenceEntry
      return emptyScalar mark
  else if t.isBlockEnd then
    popState
    let _ ← popMark
    advance
    return (.sequenceEnd, t.start)
  else
    grammarErrorIn "while parsing a block collection" (← popMark)
      "did not find expected '-' indicator" t.start

def parseIndentlessSequenceEntry : Parse (Event × Mark) := do
  let t ← peek
  if t.isBlockEntry then
    let mark := t.stop
    advance
    let t ← peek
    if !t.isBlockEntry && !t.isKey && !t.isValue && !t.isBlockEnd then
      pushState .indentlessSequenceEntry
      parseNode true false
    else
      goto .indentlessSequenceEntry
      return emptyScalar mark
  else
    popState
    return (.sequenceEnd, t.start)

def parseBlockMappingKey (first : Bool) : Parse (Event × Mark) := do
  if first then
    pushMark (← peek).start
    advance
  let t ← peek
  if t.isKey then
    let mark := t.stop
    advance
    let t ← peek
    if !t.isKey && !t.isValue && !t.isBlockEnd then
      pushState .blockMappingValue
      parseNode true true
    else
      goto .blockMappingValue
      return emptyScalar mark
  else if t.isBlockEnd then
    popState
    let _ ← popMark
    advance
    return (.mappingEnd, t.start)
  else
    grammarErrorIn "while parsing a block mapping" (← popMark) "did not find expected key" t.start

def parseBlockMappingValue : Parse (Event × Mark) := do
  let t ← peek
  if t.isValue then
    let mark := t.stop
    advance
    let t ← peek
    if !t.isKey && !t.isValue && !t.isBlockEnd then
      pushState .blockMappingKey
      parseNode true true
    else
      goto .blockMappingKey
      return emptyScalar mark
  else
    goto .blockMappingKey
    return emptyScalar t.start

def parseFlowSequenceEntry (first : Bool) : Parse (Event × Mark) := do
  if first then
    pushMark (← peek).start
    advance
  let mut t ← peek
  if !t.isFlowSequenceEnd then
    if !first then
      if t.isFlowEntry then
        advance
        t ← peek
      else
        grammarErrorIn "while parsing a flow sequence" (← popMark)
          "did not find expected ',' or ']'" t.start
    if t.isKey then
      goto .flowSequenceEntryMappingKey
      advance
      return (.mappingStart none none, t.start)
    else if !t.isFlowSequenceEnd then
      pushState .flowSequenceEntry
      return ← parseNode false false
  popState
  let _ ← popMark
  advance
  return (.sequenceEnd, t.start)

/-- The key of a one-pair mapping inside a flow sequence. Where the key is empty, the token
after it (a `:`, a `,` or the `]`) is passed over with it, so the value is looked for after
that token. -/
def parseFlowSequenceEntryMappingKey : Parse (Event × Mark) := do
  let t ← peek
  if !t.isValue && !t.isFlowEntry && !t.isFlowSequenceEnd then
    pushState .flowSequenceEntryMappingValue
    parseNode false false
  else
    advance
    goto .flowSequenceEntryMappingValue
    return emptyScalar t.stop

def parseFlowSequenceEntryMappingValue : Parse (Event × Mark) := do
  let mut t ← peek
  if t.isValue then
    advance
    t ← peek
    if !t.isFlowEntry && !t.isFlowSequenceEnd then
      pushState .flowSequenceEntryMappingEnd
      return ← parseNode false false
  goto .flowSequenceEntryMappingEnd
  return emptyScalar t.start

def parseFlowSequenceEntryMappingEnd : Parse (Event × Mark) := do
  let t ← peek
  goto .flowSequenceEntry
  return (.mappingEnd, t.start)

def parseFlowMappingKey (first : Bool) : Parse (Event × Mark) := do
  if first then
    pushMark (← peek).start
    advance
  let mut t ← peek
  if !t.isFlowMappingEnd then
    if !first then
      if t.isFlowEntry then
        advance
        t ← peek
      else
        grammarErrorIn "while parsing a flow mapping" (← popMark)
          "did not find expected ',' or '\x7d'" t.start
    if t.isKey then
      advance
      let next ← peek
      if !next.isValue && !next.isFlowEntry && !next.isFlowMappingEnd then
        pushState .flowMappingValue
        return ← parseNode false false
      else
        goto .flowMappingValue
        return emptyScalar next.start
    else if !t.isFlowMappingEnd then
      pushState .flowMappingEmptyValue
      return ← parseNode false false
  popState
  let _ ← popMark
  advance
  return (.mappingEnd, t.start)

def parseFlowMappingValue (empty : Bool) : Parse (Event × Mark) := do
  let mut t ← peek
  if empty then
    goto .flowMappingKey
    return emptyScalar t.start
  if t.isValue then
    advance
    t ← peek
    if !t.isFlowEntry && !t.isFlowMappingEnd then
      pushState .flowMappingKey
      return ← parseNode false false
  goto .flowMappingKey
  return emptyScalar t.start

def nextEvent : Parse (Event × Mark) := do
  match (← get).state with
  | .streamStart => parseStreamStart
  | .implicitDocumentStart => parseDocumentStart true
  | .documentStart => parseDocumentStart false
  | .documentContent =>
    match ← parseDocumentContentEmpty with
    | some e => return e
    | none => parseNode true false
  | .documentEnd => parseDocumentEnd
  | .blockNode => parseNode true false
  | .blockNodeOrIndentlessSequence => parseNode true true
  | .flowNode => parseNode false false
  | .blockSequenceFirstEntry => parseBlockSequenceEntry true
  | .blockSequenceEntry => parseBlockSequenceEntry false
  | .indentlessSequenceEntry => parseIndentlessSequenceEntry
  | .blockMappingFirstKey => parseBlockMappingKey true
  | .blockMappingKey => parseBlockMappingKey false
  | .blockMappingValue => parseBlockMappingValue
  | .flowSequenceFirstEntry => parseFlowSequenceEntry true
  | .flowSequenceEntry => parseFlowSequenceEntry false
  | .flowSequenceEntryMappingKey => parseFlowSequenceEntryMappingKey
  | .flowSequenceEntryMappingValue => parseFlowSequenceEntryMappingValue
  | .flowSequenceEntryMappingEnd => parseFlowSequenceEntryMappingEnd
  | .flowMappingFirstKey => parseFlowMappingKey true
  | .flowMappingKey => parseFlowMappingKey false
  | .flowMappingValue => parseFlowMappingValue false
  | .flowMappingEmptyValue => parseFlowMappingValue true
  | .finished =>
    let m := (← get).scanner.mark
    return (.streamEnd, m)

end Yaml

end RuleOverlay
