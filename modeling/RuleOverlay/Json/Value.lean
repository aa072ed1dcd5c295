/-! # JSON values

The value model that documents are edited in. A number is kept the way a reader of JSON keeps
it: a non-negative integer below `2^64`, a negative integer of at least `-2^63`, or a double.
An object is a list of entries in insertion order, since the order of keys is part of every
printed document. Writing a key that is present keeps its place and replaces its value;
removing a key closes the gap and keeps the order of the rest.
-/
namespace RuleOverlay

namespace Json

/-- A JSON number. -/
inductive Number where
  /-- an integer in `0 ≤ n < 2^64` -/
  | nat (n : Nat)
  /-- an integer in `-2^63 ≤ n < 0` -/
  | int (n : Int)
  /-- a double -/
  | float (f : Float)

/-- A JSON value with object entries in insertion order. -/
inductive Value where
  | null
  | bool (b : Bool)
  | number (n : Number)
  | string (s : String)
  | array (items : List Value)
  | object (entries : List (String × Value))

instance : Inhabited Value := ⟨.null⟩

namespace Entries

def get? (entries : List (String × Value)) (key : String) : Option Value :=
  (entries.find? (·.1 == key)).map (·.2)

def insert (entries : List (String × Value)) (key : String) (v : Value) :
    List (String × Value) :=
  if entries.any (·.1 == key) then
    entries.map fun e => if e.1 == key then (key, v) else e
  else entries ++ [(key, v)]

def erase (entries : List (String × Value)) (key : String) : List (String × Value) :=
  entries.filter (·.1 != key)

def contains (entries : List (String × Value)) (key : String) : Bool :=
  entries.any (·.1 == key)

def keys (entries : List (String × Value)) : List String := entries.map (·.1)

end Entries

end Json

end RuleOverlay
