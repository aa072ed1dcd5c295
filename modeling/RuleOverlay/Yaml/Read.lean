import RuleOverlay.Yaml.Event
import RuleOverlay.Yaml.Scalar
import RuleOverlay.Json.Shape
/-! # Reading YAML as data

Reading takes the first document of a text. Its events are loaded first, up to the first
problem; the document's value is then read from them against a shape, and the problem is
reported only if reading needed the events it cut off, or else once reading is done. A text
may hold one document only: anything after it but the end is an error.

Plain scalars are typed as `Yaml.Plain` says; an integer out of range is an error and a double
that is not finite reads as null. Mapping keys read as text whatever they look like. A tag
starting with `!` and spelled in UTF-8 asks for a variant, which plain data does not have.

A fault of the data is placed at the event where it was found and along the path there: `.`
for the top, `a.b` for a key under a key, `[0]` for an item.
-/
namespace RuleOverlay

namespace Yaml

open Json (Value Shape Unexpected)

/-- Why a YAML text could not be read as data. -/
inductive Error where
  /-- the text is not well formed -/
  | problem (p : Problem)
  /-- the data does not fit; placed at a mark and a path once known -/
  | message (text : String) (place : Option (Mark × String))
  | endOfStream
  | moreThanOneDocument
  | recursionLimit (mark : Mark)
  | repetitionLimit
  | unknownAnchor (mark : Mark)

def markSuffix (m : Mark) : String := if m.isOrigin then "" else " at " ++ m.text

def Error.text : Error → String
  | .problem p => p.text
  | .message t none => t
  | .message t (some (m, path)) => (if path == "." then "" else path ++ ": ") ++ t ++ markSuffix m
  | .endOfStream => "EOF while parsing a value"
  | .moreThanOneDocument =>
    "deserializing from YAML containing more than one document is not supported"
  | .recursionLimit m => "recursion limit exceeded" ++ markSuffix m
  | .repetitionLimit => "repetition limit exceeded"
  | .unknownAnchor m => "unknown anchor" ++ markSuffix m

def Error.place (mark : Mark) (path : String) : Error → Error
  | .message t none => .message t (some (mark, path))
  | e => e

/-! ## Loading a document -/

/-- An event of a loaded document; an alias names the anchor's number. -/
inductive Item where
  | alias (anchor : Nat)
  | scalar (tag : Option Bytes) (value : String) (style : ScalarStyle)
  | sequenceStart (tag : Option Bytes)
  | sequenceEnd
  | mappingStart (tag : Option Bytes)
  | mappingEnd
  | void

/-- The events of the first document, the anchors' places, and the error that cut them
short, if any. -/
structure Document where
  items : Array (Item × Mark)
  anchors : List (Nat × Nat)
  problem : Option Error

/-- The events being loaded, with the anchor names seen so far and their numbers. -/
structure Loading where
  items : Array (Item × Mark)
  names : List (String × Nat)
  anchors : List (Nat × Nat)

def Loading.anchor (l : Loading) : Option String → Loading
  | none => l
  | some name =>
    let id := l.names.length
    let names := if l.names.any (·.1 == name) then l.names.map fun p => if p.1 == name then (name, id) else p
      else l.names ++ [(name, id)]
    { l with names := names, anchors := (id, l.items.size) :: l.anchors.filter (·.1 != id) }

def Loading.push (l : Loading) (i : Item) (m : Mark) : Loading := { l with items := l.items.push (i, m) }

def Loading.finish (l : Loading) (problem : Option Error) : Document := ⟨l.items, l.anchors, problem⟩

def loadFirst : Nat → Parser → Loading → Document × Option Parser
  | 0, _, l => (l.finish (some .endOfStream), none)
  | fuel + 1, p, l =>
    match nextEvent.run p with
    | .error e => (l.finish (some (.problem e)), none)
    | .ok ((ev, mark), p') =>
      match ev with
      | .streamStart | .documentStart => loadFirst fuel p' l
      | .streamEnd =>
        let l := if l.items.isEmpty then l.push .void mark else l
        (l.finish none, none)
      | .documentEnd => (l.finish none, some p')
      | .alias name =>
        match l.names.find? (·.1 == name) with
        | some (_, id) => loadFirst fuel p' (l.push (.alias id) mark)
        | none => (l.finish (some (.unknownAnchor mark)), none)
      | .scalar anchor tag value style =>
        loadFirst fuel p' ((l.anchor anchor).push (.scalar tag value style) mark)
      | .sequenceStart anchor tag => loadFirst fuel p' ((l.anchor anchor).push (.sequenceStart tag) mark)
      | .sequenceEnd => loadFirst fuel p' (l.push .sequenceEnd mark)
      | .mappingStart anchor tag => loadFirst fuel p' ((l.anchor anchor).push (.mappingStart tag) mark)
      | .mappingEnd => loadFirst fuel p' (l.push .mappingEnd mark)

def moreFollows (p : Parser) : Bool :=
  match nextEvent.run p with
  | .ok ((.streamEnd, _), _) => false
  | _ => true

def invalidValue (v : String) (expected : String) : Error :=
  .message ("invalid value: " ++ (Unexpected.str v).text false ++ ", expected " ++ expected) none

def invalidTypeText (words expected : String) : Error :=
  .message ("invalid type: " ++ words ++ ", expected " ++ expected) none

def scalarKind (tag : Option Bytes) (v : String) (style : ScalarStyle) : Except Error Plain :=
  match tag with
  | some t =>
    if t == Utf8.encode boolTag then
      match boolOf v with
      | some b => .ok (.bool b)
      | none => .error (invalidValue v "a boolean")
    else if t == Utf8.encode intTag then
      match integerOf v with
      | some (.ok n) => .ok (.number n)
      | some (.error _) => .ok (.outOfRange v)
      | none => .error (invalidValue v "an integer")
    else if t == Utf8.encode floatTag then
      match floatOf v with
      | some f => .ok (.float f)
      | none => .error (invalidValue v "a float")
    else if t == Utf8.encode nullTag then
      if isNullText v then .ok .null else .error (invalidValue v "null")
    else if t.head? == some 0x21 && style == .plain then .ok (Plain.ofText v)
    else .ok (.text v)
  | none => if style == .plain then .ok (Plain.ofText v) else .ok (.text v)

/-! ## Reading values against shapes -/

/-- Where reading is: the event and the number of alias jumps so far. -/
structure Cursor where
  pos : Nat
  jumps : Nat

abbrev Decode := StateT Cursor (Except Error)

def itemPath (path : String) (i : Nat) : String := path ++ "[" ++ toString i ++ "]"

def keyPath (path : String) (key : Option String) : String :=
  (if path == "." then "" else path ++ ".") ++ key.getD "?"

def peekItem (d : Document) : Decode (Item × Mark) := do
  match d.items[(← get).pos]? with
  | some x => return x
  | none => throw (d.problem.getD .endOfStream)

def nextItem (d : Document) : Decode (Item × Mark) := do
  let x ← peekItem d
  modify fun c => { c with pos := c.pos + 1 }
  return x

def placed {α : Type} (mark : Mark) (path : String) (m : Decode α) : Decode α :=
  tryCatch m fun e => throw (e.place mark path)

def jump {α : Type} (d : Document) (anchor : Nat) (m : Decode α) : Decode α := do
  let c ← get
  if c.jumps + 1 > d.items.size * 100 then throw .repetitionLimit
  let target := ((d.anchors.find? (·.1 == anchor)).map (·.2)).getD 0
  set ({ pos := target, jumps := c.jumps + 1 } : Cursor)
  let r ← m
  modify fun c' => { c' with pos := c.pos }
  return r

def variantTag : Option Bytes → Bool
  | some (0x21 :: rest) => Utf8.valid (if rest.isEmpty then [0x21] else rest)
  | _ => false

def wrongKind (ev : Item) (expected : String) : Error :=
  match ev with
  | .scalar tag v style =>
    match scalarKind tag v style with
    | .ok k => invalidTypeText k.unexpected expected
    | .error e => e
  | .sequenceStart _ => invalidTypeText "sequence" expected
  | .mappingStart _ => invalidTypeText "map" expected
  | _ => .endOfStream

def skipNode (d : Document) : Nat → Nat → Decode Unit
  | 0, _ => pure ()
  | fuel + 1, depth => do
    let (ev, _) ← nextItem d
    let depth := match ev with
      | .sequenceStart _ | .mappingStart _ => depth + 1
      | .sequenceEnd | .mappingEnd => depth - 1
      | _ => depth
    if depth == 0 then pure () else skipNode d fuel depth

def readText (d : Document) : Nat → String → String → Decode String
  | 0, _, _ => throw .endOfStream
  | fuel + 1, path, expected => do
    let (ev, mark) ← nextItem d
    placed mark path do
      match ev with
      | .scalar _ v _ => return v
      | .alias id => jump d id (readText d fuel path expected)
      | .void => throw .endOfStream
      | other => throw (wrongKind other expected)

def atEnd (d : Document) : Decode Bool := do
  match (← peekItem d).1 with
  | .sequenceEnd | .mappingEnd | .void => return true
  | _ => return false

def keyName (d : Document) : Decode (Option String) := do
  match (← peekItem d).1 with
  | .scalar _ v _ => return some v
  | _ => return none

mutual

def readAny (d : Document) : Nat → String → Nat → Decode Value
  | 0, _, _ => throw .endOfStream
  | fuel + 1, path, depth => do
    let (ev, mark) ← nextItem d
    placed mark path do
      match ev with
      | .alias id => jump d id (readAny d fuel path depth)
      | .scalar tag v style =>
        if variantTag tag then throw (invalidTypeText "enum" "any valid JSON value")
        match scalarKind tag v style with
        | .error e => throw e
        | .ok k =>
          match k.toValue with
          | .ok x => return x
          | .error msg => throw (.message msg none)
      | .sequenceStart tag =>
        if variantTag tag then throw (invalidTypeText "enum" "any valid JSON value")
        if depth == 0 then throw (.recursionLimit mark)
        let items ← readAnyItems d fuel path (depth - 1) 0 #[]
        let _ ← nextItem d
        return .array items.toList
      | .mappingStart tag =>
        if variantTag tag then throw (invalidTypeText "enum" "any valid JSON value")
        if depth == 0 then throw (.recursionLimit mark)
        let entries ← readAnyEntries d fuel path (depth - 1) true []
        let _ ← nextItem d
        return .object entries
      | .void => return .null
      | _ => throw .endOfStream

def readAnyItems (d : Document) : Nat → String → Nat → Nat → Array Value → Decode (Array Value)
  | 0, _, _, _, acc => return acc
  | fuel + 1, path, depth, i, acc => do
    if ← atEnd d then return acc
    let v ← readAny d fuel (itemPath path i) depth
    readAnyItems d fuel path depth (i + 1) (acc.push v)

def readAnyEntries (d : Document) : Nat → String → Nat → Bool → List (String × Value) →
    Decode (List (String × Value))
  | 0, _, _, _, acc => return acc
  | fuel + 1, path, depth, first, acc => do
    if ← atEnd d then return acc
    let name ← keyName d
    let k ← readText d fuel path (if first then "a string key" else "a string")
    let v ← readAny d fuel (keyPath path name) depth
    readAnyEntries d fuel path depth false (Json.Entries.insert acc k v)

end

def emptyCollection : Item → Bool
  | .void => true
  | .scalar _ v style => v.isEmpty && style == .plain
  | _ => false

mutual

def readShaped (d : Document) : Nat → String → Nat → Shape → Decode Value
  | 0, _, _, _ => throw .endOfStream
  | fuel + 1, path, depth, shape =>
    match shape with
    | .any => readAny d (fuel + 1) path depth
    | .defaulted s => readShaped d fuel path depth s
    | .text _ check => do
      let (_, mark) ← peekItem d
      let s ← readText d fuel path shape.expecting
      match check s with
      | none => return .string s
      | some msg => throw ((Error.message msg none).place mark path)
    | .converted check => do
      let s ← readText d fuel path "a string"
      match check s with
      | none => return .string s
      | some msg => throw (.message msg none)
    | .optional inner => do
      let (ev, _) ← peekItem d
      match ev with
      | .alias id =>
        let _ ← nextItem d
        jump d id (readShaped d fuel path depth shape)
      | .void =>
        let _ ← nextItem d
        return .null
      | .scalar tag v style =>
        if style != .plain then readShaped d fuel path depth inner
        else match tag with
          | some t =>
            if t != Utf8.encode nullTag then readShaped d fuel path depth inner
            else if isNullText v then do
              let _ ← nextItem d
              return .null
            else throw (invalidValue v "null")
          | none =>
            if v.isEmpty || isNullText v then do
              let _ ← nextItem d
              return .null
            else readShaped d fuel path depth inner
      | _ => readShaped d fuel path depth inner
    | .list item => do
      let (ev, mark) ← nextItem d
      placed mark path do
        match ev with
        | .alias id => jump d id (readShaped d fuel path depth shape)
        | .sequenceStart _ =>
          if depth == 0 then throw (.recursionLimit mark)
          let items ← readShapedItems d fuel path (depth - 1) item 0 #[]
          let _ ← nextItem d
          return .array items.toList
        | other =>
          if emptyCollection other then return .array []
          else throw (wrongKind other "a sequence")
    | .dict item => do
      let (ev, mark) ← nextItem d
      placed mark path do
        match ev with
        | .alias id => jump d id (readShaped d fuel path depth shape)
        | .mappingStart _ =>
          if depth == 0 then throw (.recursionLimit mark)
          let entries ← readShapedEntries d fuel path (depth - 1) item []
          let _ ← nextItem d
          return .object entries
        | other =>
          if emptyCollection other then return .object []
          else throw (wrongKind other "a map")
    | .record name fields => do
      let (ev, mark) ← nextItem d
      placed mark path do
        match ev with
        | .alias id => jump d id (readShaped d fuel path depth shape)
        | .mappingStart _ =>
          if depth == 0 then throw (.recursionLimit mark)
          let found ← readFields d fuel path (depth - 1) fields []
          let _ ← nextItem d
          match fields.find? (fun f => !f.2.isDefaulted && !(found.any (·.1 == f.1))) with
          | some f => throw (.message ("missing field `" ++ f.1 ++ "`") none)
          | none => return .object (fields.filterMap fun f => found.find? (·.1 == f.1))
        | other =>
          if emptyCollection other then
            match fields.find? (fun f => !f.2.isDefaulted) with
            | some f => throw (.message ("missing field `" ++ f.1 ++ "`") none)
            | none => return .object []
          else throw (wrongKind other ("struct " ++ name))

def readShapedItems (d : Document) : Nat → String → Nat → Shape → Nat → Array Value →
    Decode (Array Value)
  | 0, _, _, _, _, acc => return acc
  | fuel + 1, path, depth, item, i, acc => do
    if ← atEnd d then return acc
    let v ← readShaped d fuel (itemPath path i) depth item
    readShapedItems d fuel path depth item (i + 1) (acc.push v)

def readShapedEntries (d : Document) : Nat → String → Nat → Shape → List (String × Value) →
    Decode (List (String × Value))
  | 0, _, _, _, acc => return acc
  | fuel + 1, path, depth, item, acc => do
    if ← atEnd d then return acc
    let name ← keyName d
    let k ← readText d fuel path "a string"
    let v ← readShaped d fuel (keyPath path name) depth item
    readShapedEntries d fuel path depth item (Json.Entries.insert acc k v)

def readFields (d : Document) : Nat → String → Nat → List (String × Shape) →
    List (String × Value) → Decode (List (String × Value))
  | 0, _, _, _, acc => return acc
  | fuel + 1, path, depth, fields, acc => do
    if ← atEnd d then return acc
    let name ← keyName d
    let k ← readText d fuel path "field identifier"
    match fields.find? (·.1 == k) with
    | none =>
      skipNode d (d.items.size + 1) 0
      readFields d fuel path depth fields acc
    | some (_, s) =>
      if acc.any (·.1 == k) then throw (.message ("duplicate field `" ++ k ++ "`") none)
      let v ← readShaped d fuel (keyPath path name) depth s
      readFields d fuel path depth fields (acc ++ [(k, v)])

end

def depthLimit : Nat := 128

def decode (shape : Shape) (bytes : Bytes) : Except Error Value := do
  let input ← (Input.decode bytes).mapError Error.problem
  let fuel := 4 * input.chars.size + 16
  let (doc, rest) := loadFirst fuel (Parser.ofInput input) ⟨#[], [], []⟩
  let (v, _) ← (readShaped doc (fuel + 2 * depthLimit + 8) "." depthLimit shape).run ⟨0, 0⟩
  if let some e := doc.problem then throw e
  match rest with
  | some p => if moreFollows p then throw .moreThanOneDocument else return v
  | none => return v

end Yaml

end RuleOverlay
