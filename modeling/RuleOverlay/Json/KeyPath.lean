import RuleOverlay.Json.Value
import RuleOverlay.Text.Blank
/-! # Dotted key paths

A key path such as `name.first` or `friends.-1` addresses a place inside a value. The target is
trimmed of blanks and split at `.`; it must not be empty and no segment may be empty. A segment
`-1` means the slot past the last item when writing, and the last item when reading or
deleting; a segment of ASCII digits whose value fits in 64 bits is an index; any other
segment is a key. Objects take every segment as a key.

Writing creates what is missing on the way: an absent key is added as `null` at the end of its
object, an index past the end of a list pads it with `null` (at most 1024 new slots before the
index), and a scalar in the way becomes `{}` before a key segment or `[]` before an index. A
key segment on a list cannot be written. A write that fails part way keeps what it did on
the way (keys added, scalars turned into containers, lists padded): `write` answers the value
as the write left it together with the fault.
-/
namespace RuleOverlay

namespace Json

/-- One segment of a key path. -/
inductive Step where
  | key (k : String)
  | index (i : Nat)
  /-- the slot past the end when writing, the last item otherwise -/
  | last

def maxPadding : Nat := 1024

def digitsValue (s : String) : Nat := s.toList.foldl (fun n c => n * 10 + (c.toNat - 48)) 0

def Step.ofSegment (raw : String) : Step :=
  if raw = "-1" then .last
  else if !raw.isEmpty && raw.all Char.isDigit && digitsValue raw < Nat.pow 2 64 then
    .index (digitsValue raw)
  else .key raw

/-- Why a key path cannot be written. -/
inductive PathFault where
  | empty
  | emptySegment
  | notAnIndex (key : String)
  | tooFar (index length : Nat)

def PathFault.reason : PathFault → String
  | .empty => "empty key path"
  | .emptySegment => "empty key path segment"
  | .notAnIndex k => "'" ++ k ++ "' is not an array index"
  | .tooFar i n =>
    "index " ++ toString i ++ " is too far past the end of a " ++ toString n ++ " element array"

/-- A key-path fault with the target it names: the trimmed target for a malformed path, the
target as given for one that cannot be written. -/
structure KeyPathError where
  target : String
  fault : PathFault

def dotPieces (t : String) : List String := (t.toList.splitOn '.').map String.ofList

def segmentsOf (target : String) : Except KeyPathError (List String) :=
  let t := Text.trim target
  if t.isEmpty then .error ⟨t, .empty⟩
  else
    let parts := dotPieces t
    if parts.any (·.isEmpty) then .error ⟨t, .emptySegment⟩ else .ok parts

def nulls (n : Nat) : List Value := List.replicate n .null

def setItem (items : List Value) (i : Nat) (v : Value) : List Value := items.set i v

mutual
def writeAt (target : String) (v : Value) : List String → Value → Value × Option KeyPathError
  | [], _ => (v, none)
  | raw :: rest, node =>
    match node with
    | .object entries =>
      let (w, e) := writeAt target v rest ((Entries.get? entries raw).getD .null)
      (.object (Entries.insert entries raw w), e)
    | .array items => writeItem target v raw rest items
    | _ =>
      match Step.ofSegment raw with
      | .key _ =>
        let (w, e) := writeAt target v rest .null
        (.object [(raw, w)], e)
      | _ => writeItem target v raw rest []

def writeItem (target : String) (v : Value) (raw : String) (rest : List String)
    (items : List Value) : Value × Option KeyPathError :=
  let i? : Except KeyPathError Nat :=
    match Step.ofSegment raw with
    | .last => .ok items.length
    | .index i => .ok i
    | .key k => .error ⟨target, .notAnIndex k⟩
  match i? with
  | .error e => (.array items, some e)
  | .ok i =>
    if i < items.length then
      let (w, e) := writeAt target v rest (items.getD i .null)
      (.array (setItem items i w), e)
    else if i - items.length ≤ maxPadding ∧ i + 1 < Nat.pow 2 64 then
      let (w, e) := writeAt target v rest .null
      (.array (items ++ nulls (i - items.length) ++ [w]), e)
    else (.array items, some ⟨target, .tooFar i items.length⟩)
end

def Value.write (doc : Value) (target : String) (v : Value) : Value × Option KeyPathError :=
  match segmentsOf target with
  | .error e => (doc, some e)
  | .ok parts => writeAt target v parts doc

def Value.setAt (doc : Value) (target : String) (v : Value) : Except KeyPathError Value :=
  match doc.write target v with
  | (d, none) => .ok d
  | (_, some e) => .error e

def child? (node : Value) (raw : String) : Option Value :=
  match node with
  | .object entries => Entries.get? entries raw
  | .array items =>
    match Step.ofSegment raw with
    | .index i => items[i]?
    | .last => items.getLast?
    | .key _ => none
  | _ => none

def readAt : List String → Value → Option Value
  | [], node => some node
  | raw :: rest, node => (child? node raw).bind (readAt rest)

def Value.getAt (doc : Value) (target : String) : Option Value :=
  match segmentsOf target with
  | .ok parts => readAt parts doc
  | .error _ => none

def removeChild (node : Value) (raw : String) : Value :=
  match node with
  | .object entries => .object (Entries.erase entries raw)
  | .array items =>
    match Step.ofSegment raw with
    | .index i => if i < items.length then .array (items.eraseIdx i) else node
    | .last => .array items.dropLast
    | .key _ => node
  | _ => node

def deleteSegments : List String → Value → Value
  | [], node => node
  | [raw], node => removeChild node raw
  | raw :: rest, node =>
    match node with
    | .object entries =>
      match Entries.get? entries raw with
      | some inner => .object (Entries.insert entries raw (deleteSegments rest inner))
      | none => node
    | .array items =>
      let i? : Option Nat :=
        match Step.ofSegment raw with
        | .index i => if i < items.length then some i else none
        | .last => if items.isEmpty then none else some (items.length - 1)
        | .key _ => none
      match i? with
      | some i => .array (setItem items i (deleteSegments rest (items.getD i .null)))
      | none => node
    | _ => node

def Value.deleteAt (doc : Value) (target : String) : Except KeyPathError Value := do
  let parts ← segmentsOf target
  return deleteSegments parts doc

end Json

end RuleOverlay
