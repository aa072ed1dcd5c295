import RuleOverlay.Text.Blank
/-! # Timestamps

A timestamp is a moment in UTC: whole seconds since 1970-01-01T00:00:00Z and the nanoseconds
after them. A leap second keeps its second at `:59` and counts its nanoseconds from one billion.

Reading accepts RFC 3339 and a little more: blanks before each number, a lower-case `t` or a
space between date and time, a fraction of any length (digits past the ninth are dropped), an
offset written `Z`, `UTC`, or a sign, two digits of hours, any run of colons and blanks and two
digits of minutes (`+hh:mm`, `+hhmm`, `+hh mm`). The digits of an offset are read as bytes, so
a character outside ASCII where a digit belongs makes the text invalid, not short. An offset
must stay within a day, and is taken off, so the moment is the same; a moment that then falls
outside the years a date may have is impossible. Writing gives `YYYY-MM-DDTHH:MM:SS`, a
fraction of three, six or nine digits when the nanoseconds need one, and `Z`.
-/
namespace RuleOverlay

/-- A moment in UTC. -/
structure Timestamp where
  seconds : Int
  nanos : Nat
  deriving DecidableEq, Repr

namespace Timestamp

/-- Why a text is not a timestamp. -/
inductive Fault where
  | outOfRange
  | impossible
  | notEnough
  | invalid
  | tooShort
  | tooLong
  deriving DecidableEq, Repr

def Fault.text : Fault → String
  | .outOfRange => "input is out of range"
  | .impossible => "no possible date and time matching input"
  | .notEnough => "input is not enough for unique date and time"
  | .invalid => "input contains invalid characters"
  | .tooShort => "premature end of input"
  | .tooLong => "trailing input"

/-- Days since 1970-01-01 of a date of the proleptic Gregorian calendar. Years are counted
from March, so that a leap day ends its year, in eras of 400 years (146097 days). -/
def daysFromCivil (y : Int) (m d : Nat) : Int :=
  let y := if m ≤ 2 then y - 1 else y
  let era := y / 400
  let yoe := y - era * 400
  let mp : Int := (m + 9) % 12
  let doy := (153 * mp + 2) / 5 + d - 1
  let doe := yoe * 365 + yoe / 4 - yoe / 100 + doy
  era * 146097 + doe - 719468

def civilFromDays (z : Int) : Int × Nat × Nat :=
  let z := z + 719468
  let era := z / 146097
  let doe := z - era * 146097
  let yoe := (doe - doe / 1460 + doe / 36524 - doe / 146096) / 365
  let y := yoe + era * 400
  let doy := doe - (365 * yoe + yoe / 4 - yoe / 100)
  let mp := (5 * doy + 2) / 153
  let d := doy - (153 * mp + 2) / 5 + 1
  let m := if mp < 10 then mp + 3 else mp - 9
  ((if m ≤ 2 then y + 1 else y), m.toNat, d.toNat)

def isLeap (y : Int) : Bool := (y % 4 == 0 && y % 100 != 0) || y % 400 == 0

def monthLength (y : Int) (m : Nat) : Nat :=
  match m with
  | 2 => if isLeap y then 29 else 28
  | 4 | 6 | 9 | 11 => 30
  | _ => 31

def maxYear : Int := 262142

def minYear : Int := -262143

/-- Leading ASCII digits, at least `lo` and at most `hi` of them: their value and the rest.
Too few characters is `tooShort`, too few digits `invalid`. -/
def number (s : List Char) (lo hi : Nat) : Except Fault (Nat × List Char) :=
  if s.length < lo then .error .tooShort
  else
    let ds := (s.take hi).takeWhile Char.isDigit
    if ds.length < lo then .error .invalid
    else .ok (ds.foldl (fun n c => n * 10 + (c.toNat - 48)) 0, s.drop ds.length)

def literal (c : Char) (s : List Char) : Except Fault (List Char) :=
  match s with
  | [] => .error .tooShort
  | x :: rest => if x == c then .ok rest else .error .invalid

/-- The fields of a date and time as read, before they are checked together. -/
structure Fields where
  year : Int
  month : Nat
  day : Nat
  hour : Nat
  minute : Nat
  second : Nat
  nanos : Nat
  offset : Int

def fraction (s : List Char) : Except Fault (Nat × List Char) := do
  let (v, rest) ← number s 1 9
  let used := s.length - rest.length
  return (v * Nat.pow 10 (9 - used), rest.dropWhile Char.isDigit)

def byteLength (s : List Char) : Nat := s.foldl (fun n c => n + c.utf8Size) 0

/-- Two ASCII digits at the head of a text, read as bytes: none when the text has fewer than two
bytes, `invalid` when the first two are not both digits of the ranges given. -/
def twoDigitsAt (s : List Char) (first : Char) : Option (Except Fault (Nat × List Char)) :=
  if byteLength s < 2 then none
  else match s with
    | d1 :: d2 :: rest =>
      if '0' ≤ d1 && d1 ≤ first && d2.isDigit then
        some (.ok ((d1.toNat - 48) * 10 + (d2.toNat - 48), rest))
      else some (.error .invalid)
    | _ => some (.error .invalid)

/-- An offset east of UTC in seconds: `Z`, or a sign, two digits of hours, any run of `:` and
blanks, and two digits of minutes. -/
def offsetOf (s : List Char) : Except Fault (Int × List Char) :=
  match s with
  | 'Z' :: rest | 'z' :: rest => .ok (0, rest)
  | [] => .error .tooShort
  | c :: rest =>
    let sign? : Option Int := if c == '+' then some 1 else if c == '-' || c == '−' then some (-1) else none
    match sign? with
    | none => .error .invalid
    | some sign =>
      match twoDigitsAt rest '9' with
      | none => .error .tooShort
      | some (.error e) => .error e
      | some (.ok (hours, r)) =>
        let r := r.dropWhile (fun c => c == ':' || Text.isBlank c)
        match twoDigitsAt r '9' with
        | none => .error .tooShort
        | some (.error e) => .error e
        | some (.ok (minutes, r2)) =>
          if minutes ≥ 60 then .error .outOfRange
          else .ok (sign * ((hours * 3600 + minutes * 60 : Nat) : Int), r2)

def yearField (s : List Char) : Except Fault (Int × List Char) :=
  match s with
  | '-' :: r => do let (v, r) ← number r 1 1000; pure (-(v : Int), r)
  | '+' :: r => do let (v, r) ← number r 1 1000; pure ((v : Int), r)
  | _ => do let (v, r) ← number s 1 4; pure ((v : Int), r)

def separatedField (sep : Char) (lo hi : Nat) (s : List Char) : Except Fault (Nat × List Char) := do
  let s ← literal sep (Text.dropBlanks s)
  let (v, s) ← number (Text.dropBlanks s) 1 2
  if v < lo || v > hi then throw .outOfRange
  return (v, s)

def fields (s : List Char) : Except Fault (Fields × List Char) := do
  let (year, s) ← yearField (Text.dropBlanks s)
  if year < -2147483648 || year > 2147483647 then throw .outOfRange
  let (month, s) ← separatedField '-' 1 12 s
  let (day, s) ← separatedField '-' 1 31 s
  let s ← match s with
    | 'T' :: r | 't' :: r | ' ' :: r => pure r
    | _ :: _ => throw .invalid
    | [] => throw .tooShort
  let (hour, s) ← number (Text.dropBlanks s) 1 2
  if hour > 23 then throw .outOfRange
  let (minute, s) ← separatedField ':' 0 59 s
  let (second, s) ← separatedField ':' 0 60 s
  let (nanos, s) ← match s with
    | '.' :: r => fraction r
    | _ => pure (0, s)
  let s := Text.dropBlanks s
  let (offset, s) ← match s with
    | a :: b :: c :: r =>
      if a.toLower == 'u' && b.toLower == 't' && c.toLower == 'c' then pure (0, r)
      else offsetOf s
    | _ => offsetOf s
  return (⟨year, month, day, hour, minute, second, nanos, offset⟩, s)

def Fields.toTimestamp (f : Fields) : Except Fault Timestamp :=
  if f.year < minYear || f.year > maxYear || f.day > monthLength f.year f.month then
    .error .outOfRange
  else
    -- a leap second is second 59 with a billion nanoseconds more
    let (second, extra) := if f.second = 60 then (59, 1000000000) else (f.second, 0)
    let wall := daysFromCivil f.year f.month f.day * 86400 + f.hour * 3600 + f.minute * 60 + second
    let utc := wall - f.offset
    let (y, _, _) := civilFromDays (utc / 86400)
    if f.offset ≤ -86400 || f.offset ≥ 86400 then .error .outOfRange
    else if y < minYear || y > maxYear then .error .impossible
    else .ok ⟨utc, f.nanos + extra⟩

def parse (text : String) : Except Fault Timestamp := do
  let (f, rest) ← fields text.toList
  if !(Text.dropBlanks rest).isEmpty then throw .tooLong
  f.toTimestamp

def twoDigits (n : Nat) : String :=
  String.ofList [Char.ofNat (48 + n / 10 % 10), Char.ofNat (48 + n % 10)]

def padded (width n : Nat) : String :=
  let ds := Nat.toDigits 10 n
  String.ofList (List.replicate (width - ds.length) '0' ++ ds)

def fractionText (nanos : Nat) : String :=
  if nanos = 0 then ""
  else if nanos % 1000000 = 0 then "." ++ padded 3 (nanos / 1000000)
  else if nanos % 1000 = 0 then "." ++ padded 6 (nanos / 1000)
  else "." ++ padded 9 nanos

def render (t : Timestamp) : String :=
  let days := t.seconds / 86400
  let secs := (t.seconds % 86400).toNat
  let (y, m, d) := civilFromDays days
  let (sec, nanos) := if t.nanos ≥ 1000000000 then (secs % 60 + 1, t.nanos - 1000000000)
    else (secs % 60, t.nanos)
  let yearText :=
    if 0 ≤ y ∧ y ≤ 9999 then padded 4 y.toNat
    else (if y < 0 then "-" else "+") ++ padded 4 y.natAbs
  yearText ++ "-" ++ twoDigits m ++ "-" ++ twoDigits d ++ "T" ++ twoDigits (secs / 3600) ++ ":" ++
    twoDigits (secs / 60 % 60) ++ ":" ++ twoDigits sec ++ fractionText nanos ++ "Z"

end Timestamp

end RuleOverlay
