/-! # Shortest decimal digits of a double

A finite double stands for the interval of reals that round to it. Its shortest decimal is the
decimal with the fewest significant digits in that interval, and of two such decimals the one
nearer the value, an exact tie going to the even last digit. The search below is that
specification turned into a loop over exact naturals: for one digit, two digits, and so on, it
tests the value's two neighbours on the grid of that many digits.

`Scientific` is the result: significant digits without trailing zeros and a power of ten.
Printers of numbers choose their own layout from it.
-/
namespace RuleOverlay

namespace Decimal

/-- A finite non-negative double, `m * 2^q`. -/
structure Binary where
  m : Nat
  q : Int
  /-- the gap to the value below is half the gap to the value above -/
  narrowBelow : Bool

def Binary.ofBits (b : UInt64) : Binary :=
  let e := ((b >>> 52) &&& 0x7FF).toNat
  let f := (b &&& 0xFFFFFFFFFFFFF).toNat
  if e == 0 then ⟨f, -1074, false⟩ else ⟨Nat.pow 2 52 + f, (e : Int) - 1075, f == 0 && e > 1⟩

/-- `digits * 10^exp`. -/
structure Scientific where
  digits : Nat
  exp : Int
  deriving Repr, DecidableEq

def cmpScaled (a : Nat) (i : Int) (n : Nat) (j : Int) : Ordering :=
  compare (a * Nat.pow 10 i.toNat * Nat.pow 2 (-j).toNat)
    (n * Nat.pow 2 j.toNat * Nat.pow 10 (-i).toNat)

def Binary.readsBack (x : Binary) (d : Scientific) : Bool :=
  let lo := if x.narrowBelow then 4 * x.m - 1 else 4 * x.m - 2
  let hi := 4 * x.m + 2
  let incl := x.m % 2 == 0
  let cl := cmpScaled d.digits d.exp lo (x.q - 2)
  let ch := cmpScaled d.digits d.exp hi (x.q - 2)
  (cl == .gt || (incl && cl == .eq)) && (ch == .lt || (incl && ch == .eq))

def floorScaled (m : Nat) (q : Int) (e : Int) : Nat :=
  (m * Nat.pow 2 q.toNat * Nat.pow 10 (-e).toNat) / (Nat.pow 2 (-q).toNat * Nat.pow 10 e.toNat)

def scaleFrom (m : Nat) (q : Int) : Nat → Int → Int
  | 0, k => k
  | fuel + 1, k => if cmpScaled 1 k m q == .gt then k else scaleFrom m q fuel (k + 1)

def Binary.scale (x : Binary) : Int :=
  -- 10^-344 lies below every positive double, 10^309 above every finite one
  scaleFrom x.m x.q 700 (-344)

def Scientific.normalize : Nat → Scientific → Scientific
  | 0, s => s
  | fuel + 1, s =>
    if s.digits ≠ 0 ∧ s.digits % 10 = 0 then
      Scientific.normalize fuel ⟨s.digits / 10, s.exp + 1⟩
    else s

/-- Of two neighbours on the grid `10^e` that both read back, the nearer one; on a tie the
even one. `lo` is the lower neighbour. -/
def nearer (x : Binary) (lo : Nat) (e : Int) : Nat :=
  -- compare 2 * value with (2 * lo + 1) * 10^e
  match cmpScaled (2 * lo + 1) e (2 * x.m) x.q with
  | .gt => lo
  | .lt => lo + 1
  | .eq => if lo % 2 == 0 then lo else lo + 1

def search (x : Binary) (k : Int) : Nat → Nat → Option Scientific
  | 0, _ => none
  | fuel + 1, n =>
    let e := k - n
    let lo := floorScaled x.m x.q e
    let loOk := lo ≠ 0 && x.readsBack ⟨lo, e⟩
    let hiOk := x.readsBack ⟨lo + 1, e⟩
    if loOk && hiOk then some ⟨nearer x lo e, e⟩
    else if loOk then some ⟨lo, e⟩
    else if hiOk then some ⟨lo + 1, e⟩
    else search x k fuel (n + 1)

def Binary.shortest (x : Binary) : Scientific :=
  if x.m = 0 then ⟨0, 0⟩
  else
    match search x x.scale 17 1 with
    | some s => s.normalize 20
    -- seventeen digits always suffice; the exact value stands in otherwise
    | none => ⟨x.m * Nat.pow 2 x.q.toNat * Nat.pow 5 (-x.q).toNat, min x.q 0⟩

def digitCount (n : Nat) : Nat := (Nat.toDigits 10 n).length

end Decimal

end RuleOverlay
