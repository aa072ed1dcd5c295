import RuleOverlay.Json.Error
import RuleOverlay.Json.Shape
import RuleOverlay.Decimal.Nearest
/-! # Reading JSON

A reader that walks the bytes once, from the front, and stops at the first fault. It reads a
value of any shape, or checks the text against a `Shape` while it reads, so that a mismatch
earlier in the text is reported before a syntax fault later in it.

Rules that decide the answers:

* blanks are space, tab, line feed and carriage return;
* an integer is kept exactly while it fits in 64 bits; a longer one, or one with a fraction
  or an exponent, becomes the double `s * 10^k` computed from the first nineteen or twenty
  significant digits `s` by one rounded multiplication or division by a power of ten, and a
  finite exponent that still overflows is `number out of range`;
* a string must be valid UTF-8 and its escapes must pair surrogates;
* objects and lists nest at most 127 deep;
* when a record's field is unknown its value is skipped: it must be well formed, but its
  numbers and texts are not checked further.
-/
namespace RuleOverlay

namespace Json

/-- Where a reader stands: the whole input, what is left of it, and how much was read. -/
structure Cursor where
  input : Bytes
  rest : Bytes
  index : Nat

abbrev Reader := ExceptT Error (StateM Cursor)

def position (input : Bytes) (i : Nat) : Nat × Nat :=
  (input.take i).foldl (fun lc b => if b == 10 then (lc.1 + 1, 0) else (lc.1, lc.2 + 1)) (1, 0)

def failHere {α : Type} (f : Fault) : Reader α := do
  let c ← get
  let (l, col) := position c.input c.index
  throw ⟨f, l, col⟩

def failPeek {α : Type} (f : Fault) : Reader α := do
  let c ← get
  let (l, col) := position c.input (min (c.index + 1) c.input.length)
  throw ⟨f, l, col⟩

def place (e : Error) : Reader Error := do
  if e.line = 0 then
    let c ← get
    let (l, col) := position c.input c.index
    return ⟨e.fault, l, col⟩
  else return e

def peek : Reader (Option UInt8) := return (← get).rest.head?

def advance (n : Nat) : Reader Unit :=
  modify fun c => { c with rest := c.rest.drop n, index := c.index + min n c.rest.length }

def bump : Reader Unit := advance 1

def next : Reader (Option UInt8) := do
  let b ← peek
  bump
  return b

def isSpace (b : UInt8) : Bool := b == 0x20 || b == 0x0A || b == 0x09 || b == 0x0D

def isDigit (b : UInt8) : Bool := 0x30 ≤ b && b ≤ 0x39

def skipSpace : Reader (Option UInt8) := do
  let c ← get
  advance (c.rest.takeWhile isSpace).length
  peek

def attempt {α : Type} (r : Reader α) : Reader (Except Error α) :=
  tryCatch (do let a ← r; return .ok a) (fun e => return .error e)

def keyword : List UInt8 → Reader Unit
  | [] => return
  | k :: ks => do
    match ← next with
    | none => failHere .eofValue
    | some b => if b == k then keyword ks else failHere .expectedIdent

/-! ## Numbers -/

def u64Max : Nat := Nat.pow 2 64 - 1

def overflows (limit acc d : Nat) : Bool := acc > limit / 10 || (acc == limit / 10 && d > limit % 10)

/-- Appends leading digits to `acc` while the result stays within `limit`: the result, the
digits taken, and whether a digit was left because it would pass the limit. -/
def absorb (limit : Nat) (acc : Nat) : Bytes → Nat × Nat × Bool
  | [] => (acc, 0, false)
  | b :: rest =>
    if isDigit b then
      let d := (b - 0x30).toNat
      if overflows limit acc d then (acc, 0, true)
      else
        let (a, n, o) := absorb limit (acc * 10 + d) rest
        (a, n + 1, o)
    else (acc, 0, false)

def skipDigits : Reader Unit := do
  let c ← get
  advance (c.rest.takeWhile isDigit).length

/-- `f * 10^e` the way the reader scales: one multiplication or division by a power of
ten, with division by `1e308` first for exponents below the table. -/
def scaleLoop (positive : Bool) : Nat → Float → Int → Reader Float
  | 0, f, _ => return (if positive then f else -f)
  | fuel + 1, f, e =>
    if e.natAbs ≤ 308 then
      if e ≥ 0 then do
        let g := f * Decimal.powerOfTen e.natAbs
        if isFinite g then return (if positive then g else -g)
        else failHere .numberOutOfRange
      else
        let g := f / Decimal.powerOfTen e.natAbs
        return (if positive then g else -g)
    else if f == 0 then return (if positive then f else -f)
    else if e ≥ 0 then failHere .numberOutOfRange
    else scaleLoop positive fuel (f / Decimal.powerOfTen 308) (e + 308)

def fromParts (positive : Bool) (sig : Nat) (e : Int) : Reader Float :=
  scaleLoop positive 8 (Decimal.nearest sig 1) e

def exponentPart (positive : Bool) (sig : Nat) (start : Int) : Reader Float := do
  bump
  let positiveExp ← do
    match ← peek with
    | some 0x2B => bump; pure true
    | some 0x2D => bump; pure false
    | _ => pure true
  match ← next with
  | none => failHere .eofValue
  | some b =>
    if isDigit b then
      let c ← get
      let first := (b - 0x30).toNat
      -- the digit that passes the limit is read before the reader gives up
      let (e, n, overflowed) := absorb 2147483647 first c.rest
      advance n
      if overflowed then
        bump
        if sig != 0 && positiveExp then failHere .numberOutOfRange
        else
          skipDigits
          return (if positive then 0.0 else -0.0)
      else
        fromParts positive sig (if positiveExp then start + e else start - e)
    else failHere .invalidNumber

def fractionPart (positive : Bool) (sig : Nat) (start : Int) : Reader Float := do
  bump
  let c ← get
  let (s, n, overflowed) := absorb u64Max sig c.rest
  advance n
  if overflowed then
    skipDigits
    match ← peek with
    | some 0x65 | some 0x45 => exponentPart positive s (start - n)
    | _ => fromParts positive s (start - n)
  else if n == 0 then
    match ← peek with
    | some _ => failPeek .invalidNumber
    | none => failPeek .eofValue
  else
    match ← peek with
    | some 0x65 | some 0x45 => exponentPart positive s (start - n)
    | _ => fromParts positive s (start - n)

def numberTail (positive : Bool) (sig : Nat) : Reader Number := do
  match ← peek with
  | some 0x2E => return .float (← fractionPart positive sig 0)
  | some 0x65 | some 0x45 => return .float (← exponentPart positive sig 0)
  | _ =>
    if positive then return .nat sig
    else if sig == 0 || sig > Nat.pow 2 63 then return .float (-(Decimal.nearest sig 1))
    else return .int (-(sig : Int))

def longInteger (positive : Bool) (sig : Nat) : Reader Float := do
  let c ← get
  let n := (c.rest.takeWhile isDigit).length
  advance n
  match ← peek with
  | some 0x2E => fractionPart positive sig n
  | some 0x65 | some 0x45 => exponentPart positive sig n
  | _ => fromParts positive sig n

def number (positive : Bool) : Reader Number := do
  match ← next with
  | none => failHere .eofValue
  | some 0x30 =>
    match ← peek with
    | some b => if isDigit b then failPeek .invalidNumber else numberTail positive 0
    | none => numberTail positive 0
  | some b =>
    if isDigit b then
      let c ← get
      let (s, n, overflowed) := absorb u64Max (b - 0x30).toNat c.rest
      advance n
      if overflowed then return .float (← longInteger positive s)
      else numberTail positive s
    else failHere .invalidNumber

/-! ## Strings -/

def hexValue (b : UInt8) : Option Nat :=
  if 0x30 ≤ b && b ≤ 0x39 then some (b - 0x30).toNat
  else if 0x61 ≤ b && b ≤ 0x66 then some ((b - 0x61).toNat + 10)
  else if 0x41 ≤ b && b ≤ 0x46 then some ((b - 0x41).toNat + 10)
  else none

def hexQuad : Reader Nat := do
  let c ← get
  match c.rest with
  | a :: b :: d :: e :: _ =>
    advance 4
    match hexValue a, hexValue b, hexValue d, hexValue e with
    | some w, some x, some y, some z => return ((w * 16 + x) * 16 + y) * 16 + z
    | _, _, _, _ => failHere .invalidEscape
  | _ =>
    advance c.rest.length
    failHere .eofString

def simpleEscape (b : UInt8) : Option UInt8 :=
  match b with
  | 0x22 => some 0x22
  | 0x5C => some 0x5C
  | 0x2F => some 0x2F
  | 0x62 => some 0x08
  | 0x66 => some 0x0C
  | 0x6E => some 0x0A
  | 0x72 => some 0x0D
  | 0x74 => some 0x09
  | _ => none

def unicodeEscape : Reader Bytes := do
  let n ← hexQuad
  if 0xDC00 ≤ n && n ≤ 0xDFFF then failHere .loneSurrogate
  else if n < 0xD800 || n > 0xDBFF then return Utf8.encodeChar (Char.ofNat n)
  else
    match ← peek with
    | none => failHere .eofString
    | some 0x5C =>
      bump
      match ← peek with
      | none => failHere .eofString
      | some 0x75 =>
        bump
        let m ← hexQuad
        if 0xDC00 ≤ m && m ≤ 0xDFFF then
          return Utf8.encodeChar (Char.ofNat (((n - 0xD800) * 1024 + (m - 0xDC00)) + 0x10000))
        else failHere .loneSurrogate
      | some _ => bump; failHere .unexpectedEndOfHexEscape
    | some _ => bump; failHere .unexpectedEndOfHexEscape

def stringBytes : Nat → Bytes → Reader Bytes
  | 0, acc => return acc.reverse
  | fuel + 1, acc => do
    let c ← get
    let plain := c.rest.takeWhile fun b => b != 0x22 && b != 0x5C && b ≥ 0x20
    advance plain.length
    let acc := plain.reverse ++ acc
    match ← peek with
    | none => failHere .eofString
    | some 0x22 => bump; return acc.reverse
    | some 0x5C =>
      bump
      match ← next with
      | none => failHere .eofString
      | some 0x75 =>
        let bs ← unicodeEscape
        stringBytes fuel (bs.reverse ++ acc)
      | some b =>
        match simpleEscape b with
        | some e => stringBytes fuel (e :: acc)
        | none => failHere .invalidEscape
    | some _ => bump; failHere .controlCharacter

def string : Reader String := do
  let c ← get
  let bs ← stringBytes (c.rest.length + 1) []
  match Utf8.decode? bs with
  | some s => return s
  | none => failHere .invalidCodePoint

def skipString : Nat → Reader Unit
  | 0 => return
  | fuel + 1 => do
    let c ← get
    advance (c.rest.takeWhile fun b => b != 0x22 && b != 0x5C && b ≥ 0x20).length
    match ← peek with
    | none => failHere .eofString
    | some 0x22 => bump
    | some 0x5C =>
      bump
      match ← next with
      | none => failHere .eofString
      | some 0x75 => do let _ ← hexQuad; skipString fuel
      | some b =>
        match simpleEscape b with
        | some _ => skipString fuel
        | none => failHere .invalidEscape
    | some _ => failHere .controlCharacter

/-! ## Skipping a value -/

def skipNumber : Reader Unit := do
  let first ← next
  match first with
  | some 0x30 =>
    match ← peek with
    | some b => if isDigit b then failPeek .invalidNumber else pure ()
    | none => pure ()
  | some b => if isDigit b then skipDigits else failHere .invalidNumber
  | none => failHere .invalidNumber
  let exponent : Reader Unit := do
    bump
    match ← peek with
    | some 0x2B | some 0x2D => bump
    | _ => pure ()
    match ← next with
    | some b => if isDigit b then skipDigits else failHere .invalidNumber
    | none => failHere .invalidNumber
  match ← peek with
  | some 0x2E =>
    bump
    let c ← get
    let n := (c.rest.takeWhile isDigit).length
    if n == 0 then failPeek .invalidNumber
    else
      advance n
      match ← peek with
      | some 0x65 | some 0x45 => exponent
      | _ => pure ()
  | some 0x65 | some 0x45 => exponent
  | _ => pure ()

/-- After a value inside open containers (`true` for a list, innermost first): closes
containers and steps over commas until the next value is due. Answers the containers still
open, or `none` when all are closed. -/
def skipClose : Nat → Bool → Bool → List Bool → Reader (Option (Bool × List Bool))
  | 0, _, _, _ => return none
  | fuel + 1, acceptComma, isList, stack => do
    match ← skipSpace with
    | some 0x2C =>
      if acceptComma then bump; return some (isList, stack)
      else return some (isList, stack)
    | some 0x5D =>
      if isList then
        bump
        match stack with
        | [] => return none
        | f :: rest => skipClose fuel true f rest
      else if acceptComma then failPeek .expectedObjectCommaOrEnd
      else return some (isList, stack)
    | some 0x7D =>
      if !isList then
        bump
        match stack with
        | [] => return none
        | f :: rest => skipClose fuel true f rest
      else if acceptComma then failPeek .expectedListCommaOrEnd
      else return some (isList, stack)
    | some _ =>
      if acceptComma then
        failPeek (if isList then .expectedListCommaOrEnd else .expectedObjectCommaOrEnd)
      else return some (isList, stack)
    | none => failPeek (if isList then .eofList else .eofObject)

/-- Skips a value, checking that it is well formed but nothing more. `stack` holds the
containers open around the place, innermost first. -/
def skipLoop : Nat → List Bool → Reader Unit
  | 0, _ => return
  | fuel + 1, stack => do
    let opened ← do
      match ← skipSpace with
      | none => failPeek .eofValue
      | some 0x6E => bump; keyword [0x75, 0x6C, 0x6C]; pure none
      | some 0x74 => bump; keyword [0x72, 0x75, 0x65]; pure none
      | some 0x66 => bump; keyword [0x61, 0x6C, 0x73, 0x65]; pure none
      | some 0x2D => bump; skipNumber; pure none
      | some 0x22 => bump; skipString ((← get).rest.length + 1); pure none
      | some 0x5B => bump; pure (some true)
      | some 0x7B => bump; pure (some false)
      | some b => if isDigit b then do skipNumber; pure none else failPeek .expectedValue
    let due ← match opened with
      | some f => skipClose fuel false f stack
      | none =>
        match stack with
        | [] => pure none
        | f :: rest => skipClose fuel true f rest
    match due with
    | none => return
    | some (isList, outer) =>
      if !isList then
        match ← skipSpace with
        | some 0x22 => bump
        | some _ => failPeek .keyMustBeString
        | none => failPeek .eofObject
        skipString ((← get).rest.length + 1)
        match ← skipSpace with
        | some 0x3A => bump
        | some _ => failPeek .expectedColon
        | none => failPeek .eofObject
      skipLoop fuel (isList :: outer)

def skipValue : Reader Unit := do
  let c ← get
  skipLoop (2 * c.rest.length + 2) []

/-! ## Reading values and shapes -/

/-- After the items of a list: its closing bracket. A list read item by item stops only at
its bracket; one read as a record stops after its last field, and anything more is trailing. -/
def endList : Reader Unit := do
  match ← skipSpace with
  | some 0x5D => bump
  | some 0x2C =>
    bump
    match ← skipSpace with
    | some 0x5D => failPeek .trailingComma
    | _ => failPeek .trailingCharacters
  | some _ => failPeek .trailingCharacters
  | none => failPeek .eofList

def endObject : Reader Unit := do
  match ← skipSpace with
  | some 0x7D => bump
  | some 0x2C => failPeek .trailingComma
  | some _ => failPeek .trailingCharacters
  | none => failPeek .eofObject

def nextItem (first : Bool) : Reader Bool := do
  let b ← skipSpace
  let b ← match b with
    | some 0x5D => return false
    | some 0x2C =>
      if first then pure (some 0x2C)
      else do bump; skipSpace
    | some x => if first then pure (some x) else failPeek .expectedListCommaOrEnd
    | none => failPeek .eofList
  match b with
  | some 0x5D => failPeek .trailingComma
  | some _ => return true
  | none => failPeek .eofValue

def nextKey (first : Bool) : Reader (Option String) := do
  let b ← skipSpace
  let b ← match b with
    | some 0x7D => return none
    | some 0x2C =>
      if first then pure (some 0x2C)
      else do bump; skipSpace
    | some x => if first then pure (some x) else failPeek .expectedObjectCommaOrEnd
    | none => failPeek .eofObject
  match b with
  | some 0x22 => bump; return some (← string)
  | some 0x7D => failPeek .trailingComma
  | some _ => failPeek .keyMustBeString
  | none => failPeek .eofValue

def colon : Reader Unit := do
  match ← skipSpace with
  | some 0x3A => bump
  | some _ => failPeek .expectedColon
  | none => failPeek .eofObject

def mismatch {α : Type} (expected : String) : Reader α := do
  let u ← do
    match ← peek with
    | some 0x6E => bump; keyword [0x75, 0x6C, 0x6C]; pure Unexpected.unit
    | some 0x74 => bump; keyword [0x72, 0x75, 0x65]; pure (Unexpected.bool true)
    | some 0x66 => bump; keyword [0x61, 0x6C, 0x73, 0x65]; pure (Unexpected.bool false)
    | some 0x2D =>
      bump
      match ← number false with
      | .nat n => pure (Unexpected.unsigned n)
      | .int n => pure (Unexpected.signed n)
      | .float f => pure (Unexpected.float f)
    | some 0x22 => bump; pure (Unexpected.str (← string))
    | some 0x5B => pure Unexpected.seq
    | some 0x7B => pure Unexpected.map
    | some b =>
      if isDigit b then
        match ← number true with
        | .nat n => pure (Unexpected.unsigned n)
        | .int n => pure (Unexpected.signed n)
        | .float f => pure (Unexpected.float f)
      else failPeek .expectedValue
    | none => failPeek .expectedValue
  failHere (invalidType true u expected)

/-- Runs the body of a container, then its closing step, and fails with the body's fault
first; a fault without a place gets the place reached after the closing step. -/
def container {α : Type} (body : Reader α) (close : Reader Unit) : Reader α := do
  let r ← attempt body
  let e ← attempt close
  match r, e with
  | .ok a, .ok () => return a
  | .error err, _ => throw (← place err)
  | .ok _, .error err => throw (← place err)

def depthLimit : Nat := 128

mutual

def anyValue : Nat → Nat → Reader Value
  | 0, _ => failHere .recursionLimit
  | fuel + 1, depth => do
    match ← skipSpace with
    | none => failPeek .eofValue
    | some 0x6E => bump; keyword [0x75, 0x6C, 0x6C]; return .null
    | some 0x74 => bump; keyword [0x72, 0x75, 0x65]; return .bool true
    | some 0x66 => bump; keyword [0x61, 0x6C, 0x73, 0x65]; return .bool false
    | some 0x2D => bump; return .number (← number false)
    | some 0x22 => bump; return .string (← string)
    | some 0x5B =>
      if depth ≤ 1 then failPeek .recursionLimit
      else
        bump
        return .array (← container (anyItems fuel (depth - 1) true []) endList)
    | some 0x7B =>
      if depth ≤ 1 then failPeek .recursionLimit
      else
        bump
        return .object (← container (anyEntries fuel (depth - 1) true []) endObject)
    | some b =>
      if isDigit b then return .number (← number true) else failPeek .expectedValue

def anyItems : Nat → Nat → Bool → List Value → Reader (List Value)
  | 0, _, _, acc => return acc.reverse
  | fuel + 1, depth, first, acc => do
    if ← nextItem first then
      let v ← anyValue fuel depth
      anyItems fuel depth false (v :: acc)
    else return acc.reverse

def anyEntries : Nat → Nat → Bool → List (String × Value) → Reader (List (String × Value))
  | 0, _, _, acc => return acc
  | fuel + 1, depth, first, acc => do
    match ← nextKey first with
    | none => return acc
    | some k =>
      colon
      let v ← anyValue fuel depth
      anyEntries fuel depth false (Entries.insert acc k v)

end

mutual

def shaped : Nat → Nat → Shape → Reader Value
  | 0, _, _ => failHere .recursionLimit
  | fuel + 1, depth, shape => do
    match shape with
    | .any => anyValue (fuel + 1) depth
    | .defaulted s => shaped fuel depth s
    | .optional s =>
      match ← skipSpace with
      | some 0x6E => bump; keyword [0x75, 0x6C, 0x6C]; return .null
      | _ => shaped fuel depth s
    | .text expecting check =>
      match ← skipSpace with
      | none => failPeek .eofValue
      | some 0x22 =>
        bump
        let s ← string
        match check s with
        | none => return .string s
        | some msg => failHere (.data msg)
      | some _ => mismatch expecting
    | .converted check =>
      match ← skipSpace with
      | none => failPeek .eofValue
      | some 0x22 =>
        bump
        let s ← string
        match check s with
        | none => return .string s
        | some msg => throw ⟨.data msg, 0, 0⟩
      | some _ => mismatch "a string"
    | .list item =>
      match ← skipSpace with
      | none => failPeek .eofValue
      | some 0x5B =>
        if depth ≤ 1 then failPeek .recursionLimit
        else
          bump
          return .array (← container (shapedItems fuel (depth - 1) item true []) endList)
      | some _ => mismatch "a sequence"
    | .dict item =>
      match ← skipSpace with
      | none => failPeek .eofValue
      | some 0x7B =>
        if depth ≤ 1 then failPeek .recursionLimit
        else
          bump
          return .object (← container (shapedEntries fuel (depth - 1) item true []) endObject)
      | some _ => mismatch "a map"
    | .record name fields =>
      match ← skipSpace with
      | none => failPeek .eofValue
      | some 0x7B =>
        if depth ≤ 1 then failPeek .recursionLimit
        else
          bump
          let found ← container (recordEntries fuel (depth - 1) fields true []) endObject
          match fields.find? (fun f => !f.2.isDefaulted && !(found.any (·.1 == f.1))) with
          -- the closing brace is read before a missing field is reported
          | some f => failHere (missingField f.1)
          | none => return .object (fields.filterMap fun f => (found.find? (·.1 == f.1)))
      | some 0x5B =>
        if depth ≤ 1 then failPeek .recursionLimit
        else
          bump
          let found ← container (recordItems fuel (depth - 1) name fields fields 0 false []) endList
          return .object found
      | some _ => mismatch ("struct " ++ name)

def shapedItems : Nat → Nat → Shape → Bool → List Value → Reader (List Value)
  | 0, _, _, _, acc => return acc.reverse
  | fuel + 1, depth, item, first, acc => do
    if ← nextItem first then
      let v ← shaped fuel depth item
      shapedItems fuel depth item false (v :: acc)
    else return acc.reverse

def shapedEntries : Nat → Nat → Shape → Bool → List (String × Value) →
    Reader (List (String × Value))
  | 0, _, _, _, acc => return acc
  | fuel + 1, depth, item, first, acc => do
    match ← nextKey first with
    | none => return acc
    | some k =>
      colon
      let v ← shaped fuel depth item
      shapedEntries fuel depth item false (Entries.insert acc k v)

def recordEntries : Nat → Nat → List (String × Shape) → Bool → List (String × Value) →
    Reader (List (String × Value))
  | 0, _, _, _, acc => return acc
  | fuel + 1, depth, fields, first, acc => do
    match ← nextKey first with
    | none => return acc
    | some k =>
      match fields.find? (·.1 == k) with
      | none =>
        colon
        skipValue
        recordEntries fuel depth fields false acc
      | some (_, s) =>
        if acc.any (·.1 == k) then throw ⟨duplicateField k, 0, 0⟩
        else
          colon
          let v ← shaped fuel depth s
          recordEntries fuel depth fields false (acc ++ [(k, v)])

/-- The fields of a record given as a list, in field order. Once the list has ended, a
field that may not be left out fails with the number of items read. -/
def recordItems : Nat → Nat → String → List (String × Shape) → List (String × Shape) → Nat →
    Bool → List (String × Value) → Reader (List (String × Value))
  | _, _, _, _, [], _, _, acc => return acc
  | 0, _, _, _, _ :: _, _, _, _ => failHere .recursionLimit
  | fuel + 1, depth, name, all, (k, s) :: rest, i, ended, acc => do
    let more ← if ended then pure false else nextItem (i == 0)
    if more then
      let v ← shaped fuel depth s
      recordItems fuel depth name all rest (i + 1) false (acc ++ [(k, v)])
    else if s.isDefaulted then recordItems fuel depth name all rest (i + 1) true acc
    else throw ⟨invalidLength i (recordLength name all), 0, 0⟩

end

def readShaped (shape : Shape) (input : Bytes) : Except Error Value :=
  let run : Reader Value := do
    let v ← shaped (2 * input.length + 4) depthLimit shape
    match ← skipSpace with
    | some _ => failPeek .trailingCharacters
    | none => return v
  (run.run.run ⟨input, input, 0⟩).1

def parse (input : Bytes) : Except Error Value := readShaped .any input

def parseText (s : String) : Except Error Value := parse (Utf8.encode s)

end Json

end RuleOverlay
