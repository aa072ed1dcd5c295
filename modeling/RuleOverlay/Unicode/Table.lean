/-! # Tables of code points

The character properties a program needs are written as text: numbers in lower-case
hexadecimal, separated by blanks, in records separated by `;`. They are read into arrays
once, and looked up by binary search over their sorted keys.

A `CodeSet` is a set of code points written as the bounds of its runs. A `Table` maps keys to
rows of numbers; it is looked up either at a key exactly (`find?`) or at the last key that is at
most the one asked for (`floor?`), which is how a property that is constant on runs of code
points is stored: one row at the first code point of each run.
-/
namespace RuleOverlay

namespace Unicode

def hexDigit? (c : Char) : Option Nat :=
  if '0' ≤ c && c ≤ '9' then some (c.toNat - 0x30)
  else if 'a' ≤ c && c ≤ 'f' then some (c.toNat - 0x57)
  else if 'A' ≤ c && c ≤ 'F' then some (c.toNat - 0x37)
  else none

def hexStep (acc : Array Nat × Option Nat) (c : Char) : Array Nat × Option Nat :=
  match hexDigit? c, acc with
  | some d, (out, some n) => (out, some (n * 16 + d))
  | some d, (out, none) => (out, some d)
  | none, (out, some n) => (out.push n, none)
  | none, (out, none) => (out, none)

def hexNumbers (s : String) : Array Nat :=
  match s.foldl hexStep (#[], none) with
  | (out, some n) => out.push n
  | (out, none) => out

def hexRecords (s : String) : Array (Array Nat) :=
  ((s.splitOn ";").filter (fun r => r.any (fun c => (hexDigit? c).isSome))).toArray.map hexNumbers

/-- How many entries of a sorted array, from index `lo` on and before index `hi`, are at most
`x`, counted from 0: the first index in `[lo, hi)` whose entry exceeds `x`, or `hi`. -/
def countAtMost (a : Array Nat) (x lo hi : Nat) : Nat :=
  if lo < hi then
    let mid := (lo + hi) / 2
    if a.getD mid 0 ≤ x then countAtMost a x (mid + 1) hi else countAtMost a x lo mid
  else lo
termination_by hi - lo

/-- A set of code points as the sorted bounds of its runs: it holds the code points from the
first bound up to the second, not the second, from the third up to the fourth, and so on. -/
structure CodeSet where
  bounds : Array Nat

def CodeSet.ofHex (s : String) : CodeSet := ⟨hexNumbers s⟩

def CodeSet.contains (s : CodeSet) (cp : Nat) : Bool :=
  countAtMost s.bounds cp 0 s.bounds.size % 2 == 1

/-- Rows of numbers under increasing keys. -/
structure Table where
  keys : Array Nat
  rows : Array (Array Nat)

def Table.ofHex (s : String) : Table :=
  let rs := hexRecords s
  ⟨rs.map (fun r => r.getD 0 0), rs.map (fun r => r.extract 1 r.size)⟩

def Table.floor? (t : Table) (k : Nat) : Option (Array Nat) :=
  match countAtMost t.keys k 0 t.keys.size with
  | 0 => none
  | i + 1 => some (t.rows.getD i #[])

def Table.find? (t : Table) (k : Nat) : Option (Array Nat) :=
  match countAtMost t.keys k 0 t.keys.size with
  | 0 => none
  | i + 1 => if t.keys.getD i 0 == k then some (t.rows.getD i #[]) else none

def Table.value (t : Table) (k : Nat) : Nat :=
  match t.floor? k with
  | some row => row.getD 0 0
  | none => 0

end Unicode

end RuleOverlay
