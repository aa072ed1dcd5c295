import RuleOverlay.Text.Blank
/-! # Delimited tree paths

A tree path such as `/a/b/c` names a node by its segments. The path is trimmed of blanks, every
leading and trailing repeat of the delimiter is stripped, and the rest is split at the
delimiter with empty pieces dropped, so `a/b`, `/a/b/` and `/a//b` name the same node. An
empty delimiter makes the whole trimmed path one segment.

The level of a path is its number of segments; the root has level 0 and its path is the
delimiter itself. The child `n` of a node at path `p` sits at `p` with its trailing delimiters
stripped, then the delimiter, then `n`.
-/
namespace RuleOverlay

/-- Splits tree paths at a fixed delimiter. -/
structure PathStyle where
  delimiter : String
  deriving DecidableEq, Repr

namespace PathStyle

def slash : PathStyle := ⟨"/"⟩

def startsWith (s pre : List Char) : Bool := pre.isPrefixOf s

def stripLeading (d : List Char) : Nat → List Char → List Char
  | 0, s => s
  | fuel + 1, s => if !d.isEmpty && d.isPrefixOf s then stripLeading d fuel (s.drop d.length) else s

def stripTrailing (d : List Char) (fuel : Nat) (s : List Char) : List Char :=
  (stripLeading d.reverse fuel s.reverse).reverse

def splitAt (d : List Char) : Nat → List Char → List Char → List (List Char)
  | 0, cur, s => [cur.reverse ++ s]
  | _, cur, [] => [cur.reverse]
  | fuel + 1, cur, c :: rest =>
    if d.isPrefixOf (c :: rest) then cur.reverse :: splitAt d fuel [] ((c :: rest).drop d.length)
    else splitAt d fuel (c :: cur) rest

def segments (style : PathStyle) (path : String) : List String :=
  let p := (Text.trim path).toList
  let d := style.delimiter.toList
  if d.isEmpty then (if p.isEmpty then [] else [String.ofList p])
  else
    let core := stripTrailing d (p.length + 1) (stripLeading d (p.length + 1) p)
    ((splitAt d (core.length + 1) [] core).filter (!·.isEmpty)).map String.ofList

def level (style : PathStyle) (path : String) : Nat := (style.segments path).length

def nameAt (style : PathStyle) (path : String) (k : Nat) : String :=
  if k = 0 then "" else (style.segments path).getD (k - 1) ""

def append (style : PathStyle) (parent name : String) : String :=
  let d := style.delimiter.toList
  let p := parent.toList
  String.ofList (stripTrailing d (p.length + 1) p) ++ style.delimiter ++ name

def root (style : PathStyle) : String := style.delimiter

end PathStyle

end RuleOverlay
