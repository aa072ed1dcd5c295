import RuleOverlay.Json.Error
import RuleOverlay.Decimal.Nearest
/-! # Typing plain YAML scalars

A plain scalar is typed by its text. Empty, `~` and `null` (also capitalised or upper case)
are null; `true` and `false` likewise are booleans; an optional sign and decimal digits, or
`0x`, `0o`, `0b` and their digits, make an integer, except a zero followed by more digits,
which stays text; decimal numbers with a point or an exponent make doubles, and `.inf` and
`.nan` the doubles that are not finite; every other text is text. Integers that need more
than 64 bits but fit in 128 are out of range; longer ones are read as doubles.

Writing uses the same rules the other way round: a text that would read as something else
must be quoted.
-/
namespace RuleOverlay

namespace Yaml

open Json (Value Unexpected)

def boolTag : String := "tag:yaml.org,2002:bool"
def intTag : String := "tag:yaml.org,2002:int"
def floatTag : String := "tag:yaml.org,2002:float"
def nullTag : String := "tag:yaml.org,2002:null"

def isNullText (s : String) : Bool := s == "~" || s == "null" || s == "Null" || s == "NULL"

def boolOf (s : String) : Option Bool :=
  match s with
  | "true" | "True" | "TRUE" => some true
  | "false" | "False" | "FALSE" => some false
  | _ => none

def leadingZeroDigits (s : String) : Bool :=
  let cs := match s.toList with
    | '-' :: rest | '+' :: rest => rest
    | cs => cs
  cs.length > 1 && cs.head? == some '0' && (cs.drop 1).all Char.isDigit

def digitIn (radix : Nat) (c : Char) : Option Nat :=
  let v := if c.isDigit then some (c.toNat - 48)
    else if 'a' ≤ c && c ≤ 'z' then some (c.toNat - 87)
    else if 'A' ≤ c && c ≤ 'Z' then some (c.toNat - 55)
    else none
  v.bind fun d => if d < radix then some d else none

def digitsIn (radix : Nat) (cs : List Char) : Option Nat :=
  if cs.isEmpty then none
  else cs.foldlM (fun acc c => (digitIn radix c).map (acc * radix + ·)) 0

def signedIn (radix : Nat) (unsigned : Bool) (cs : List Char) : Option Int :=
  match cs with
  | '+' :: rest => (digitsIn radix rest).map Int.ofNat
  | '-' :: rest => if unsigned then none else (digitsIn radix rest).map fun n => -(n : Int)
  | _ => (digitsIn radix cs).map Int.ofNat

def unsignedOf (s : String) : Option Nat :=
  let cs := s.toList
  let unpositive := match cs with
    | '+' :: rest => rest
    | _ => cs
  let prefixed (p : Char) (radix : Nat) : Option Nat :=
    match unpositive with
    | '0' :: q :: rest =>
      if q == p && !(rest.head? == some '+' || rest.head? == some '-') then
        (signedIn radix true rest).map Int.toNat
      else none
    | _ => none
  match prefixed 'x' 16 with
  | some n => some n
  | none =>
    match prefixed 'o' 8 with
    | some n => some n
    | none =>
      match prefixed 'b' 2 with
      | some n => some n
      | none =>
        if unpositive.head? == some '+' || unpositive.head? == some '-' then none
        else if leadingZeroDigits s then none
        else (signedIn 10 true unpositive).map Int.toNat

def signedOf (s : String) : Option Int :=
  let cs := s.toList
  let prefixed (p : Char) (radix : Nat) : Option Int :=
    match cs with
    | '-' :: '0' :: q :: rest => if q == p then signedIn radix false ('-' :: rest) else none
    | _ => none
  match prefixed 'x' 16 with
  | some n => some n
  | none =>
    match prefixed 'o' 8 with
    | some n => some n
    | none =>
      match prefixed 'b' 2 with
      | some n => some n
      | none => if leadingZeroDigits s then none else signedIn 10 false cs

def int64Limit : Int := 9223372036854775808

def int128Limit : Int := 170141183460469231731687303715884105728

/-- An integer as data: `some (ok n)` within 64 bits, `some (error _)` within 128 bits,
`none` for a text that is no integer. -/
def integerOf (s : String) : Option (Except String Json.Number) :=
  let u := unsignedOf s
  let i := signedOf s
  match u, i with
  | some n, _ =>
    if n < Nat.pow 2 64 then some (.ok (.nat n))
    else match i with
      | some k => if -int64Limit ≤ k && k < int64Limit then some (.ok (.int k))
        else if n < Nat.pow 2 128 then some (.error "JSON number out of range") else none
      | none => if n < Nat.pow 2 128 then some (.error "JSON number out of range") else none
  | none, some k =>
    if -int64Limit ≤ k && k < int64Limit then
      some (.ok (if k ≥ 0 then .nat k.toNat else .int k))
    else if -int128Limit ≤ k && k < int128Limit then some (.error "JSON number out of range")
    else none
  | none, none => none

def decimalParts (cs : List Char) : Option (Nat × Int) :=
  let whole := cs.takeWhile Char.isDigit
  let rest := cs.dropWhile Char.isDigit
  let (frac, rest) := match rest with
    | '.' :: more => (more.takeWhile Char.isDigit, more.dropWhile Char.isDigit)
    | _ => ([], rest)
  let hasPoint := match cs.dropWhile Char.isDigit with
    | '.' :: _ => true
    | _ => false
  if whole.isEmpty && frac.isEmpty then none
  else if !hasPoint && whole.isEmpty then none
  else
    let digits := (whole ++ frac).foldl (fun n c => n * 10 + (c.toNat - 48)) 0
    let exp : Option Int := match rest with
      | [] => some 0
      | e :: more =>
        if e == 'e' || e == 'E' then
          match more with
          | '+' :: ds => if !ds.isEmpty && ds.all Char.isDigit then some (ds.foldl (fun n c => n * 10 + (c.toNat - 48)) 0 : Nat) else none
          | '-' :: ds => if !ds.isEmpty && ds.all Char.isDigit then some (-((ds.foldl (fun n c => n * 10 + (c.toNat - 48)) 0 : Nat) : Int)) else none
          | ds => if !ds.isEmpty && ds.all Char.isDigit then some (ds.foldl (fun n c => n * 10 + (c.toNat - 48)) 0 : Nat) else none
        else none
    exp.map fun e => (digits, e - frac.length)

def decimalValue (negative : Bool) (digits : Nat) (exp : Int) : Float :=
  let size : Int := (toString digits).length
  if digits == 0 || exp + size < -345 then (if negative then -0.0 else 0.0)
  else if exp + size > 311 then (if negative then -(1.0 / 0.0) else 1.0 / 0.0)
  else if exp ≥ 0 then Decimal.nearestSigned negative (digits * Nat.pow 10 exp.toNat) 1
  else Decimal.nearestSigned negative digits (Nat.pow 10 exp.natAbs)

/-- The finite double a text spells, as decimal number text is read: optional sign, digits
with an optional point, optional exponent; infinity and NaN spelt `.inf` and `.nan`. -/
def floatOf (s : String) : Option Float :=
  let cs := s.toList
  let unpositive := match cs with
    | '+' :: rest => rest
    | _ => cs
  if (match cs with | '+' :: c :: _ => c == '+' || c == '-' | _ => false) then none
  else if [".inf", ".Inf", ".INF"].contains (String.ofList unpositive) then some (1.0 / 0.0)
  else if ["-.inf", "-.Inf", "-.INF"].contains s then some (-(1.0 / 0.0))
  else if [".nan", ".NaN", ".NAN"].contains s then some (0.0 / 0.0)
  else
    let (negative, body) := match unpositive with
      | '-' :: rest => (true, rest)
      | '+' :: rest => (false, rest)
      | other => (false, other)
    match decimalParts body with
    | some (digits, exp) =>
      let f := decimalValue negative digits exp
      if Json.isFinite f then some f else none
    | none => none

/-- What a scalar read without tag is. -/
inductive Plain where
  | null
  | bool (b : Bool)
  | number (n : Json.Number)
  | outOfRange (text : String)
  | float (f : Float)
  | text (s : String)

def Plain.ofText (v : String) : Plain :=
  if v.isEmpty || isNullText v then .null
  else match boolOf v with
    | some b => .bool b
    | none =>
      match integerOf v with
      | some (.ok n) => .number n
      | some (.error _) => .outOfRange v
      | none =>
        match (if leadingZeroDigits v then none else floatOf v) with
        | some f => .float f
        | none => .text v

def Plain.toValue : Plain → Except String Value
  | .null => .ok .null
  | .bool b => .ok (.bool b)
  | .number n => .ok (.number n)
  | .outOfRange _ => .error "JSON number out of range"
  | .float f => .ok (if Json.isFinite f then .number (.float f) else .null)
  | .text s => .ok (.string s)

def Plain.unexpected : Plain → String
  | .null => Unexpected.unit.text false
  | .bool b => (Unexpected.bool b).text false
  | .number (.nat n) => (Unexpected.unsigned n).text false
  | .number (.int k) => (Unexpected.signed k).text false
  | .number (.float f) => (Unexpected.float f).text false
  | .outOfRange v =>
    "integer `" ++ v ++ "` as " ++ (if v.startsWith "-" then "i128" else "u128")
  | .float f => (Unexpected.float f).text false
  | .text s => (Unexpected.str s).text false

end Yaml

end RuleOverlay
