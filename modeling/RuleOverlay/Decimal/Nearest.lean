/-! # The double nearest to a fraction

`nearest num den` is the double closest to the real `num / den`, an exact tie going to the
even mantissa, with subnormals below `2^-1022` and infinity once the value rounds past the
largest finite double. Readers of decimal text build their doubles from it: a decimal
`d * 10^e` is the fraction `d * 10^e / 1` or `d / 10^-e`.
-/
namespace RuleOverlay

namespace Decimal

def divPow2 (num den : Nat) (e : Int) : Nat × Nat × Nat :=
  let n := num * Nat.pow 2 (-e).toNat
  let d := den * Nat.pow 2 e.toNat
  (n / d, n % d, d)

def roundedAt (num den : Nat) (e : Int) : Nat :=
  let (q, r, d) := divPow2 num den e
  if 2 * r > d then q + 1
  else if 2 * r < d then q
  else if q % 2 == 0 then q else q + 1

def binaryExponent (num den : Nat) : Int :=
  let guess : Int := (num.log2 : Int) - (den.log2 : Int) - 52
  let fits (e : Int) : Bool :=
    let (q, _, _) := divPow2 num den e
    Nat.pow 2 52 ≤ q && q < Nat.pow 2 53
  if fits (guess - 1) then guess - 1
  else if fits guess then guess
  else guess + 1

def assemble (negative : Bool) (m : Nat) (e : Int) : Float :=
  let sign : UInt64 := if negative then 0x8000000000000000 else 0
  -- a mantissa that rounded up to 2^53 moves to the next exponent
  let (m, e) := if m = Nat.pow 2 53 then (Nat.pow 2 52, e + 1) else (m, e)
  if e > 971 then Float.ofBits (sign ||| 0x7FF0000000000000)
  else if m < Nat.pow 2 52 then Float.ofBits (sign ||| m.toUInt64)
  else Float.ofBits (sign ||| ((e + 1075).toNat.toUInt64 <<< 52) ||| (m - Nat.pow 2 52).toUInt64)

def nearestSigned (negative : Bool) (num den : Nat) : Float :=
  if num = 0 then assemble negative 0 (-1074)
  else
    let e := max (binaryExponent num den) (-1074)
    assemble negative (roundedAt num den e) e

def nearest (num den : Nat) : Float := nearestSigned false num den

def powerOfTen (k : Nat) : Float := nearest (Nat.pow 10 k) 1

end Decimal

end RuleOverlay
