/-! # Punycode

Punycode (RFC 3492) writes a label in ASCII: its ASCII characters, a `-` if there are any, and
then the other code points in increasing order, each as the distance from the previous one in
a variable-length base-36 number whose digit thresholds follow an adaptive bias.

Reading undoes this: the characters before the last `-` are copied, and every number after it
says where the next code point goes and how far it is from the one before. A number that does
not fit in 32 bits, a digit that is not one, a number cut off at the end of the text, or a code
point that is not a scalar value makes the text unreadable.
-/
namespace RuleOverlay

namespace Http

namespace Domain

namespace Punycode

def digitChar (d : Nat) : Char :=
  if d < 26 then Char.ofNat (0x61 + d) else Char.ofNat (0x30 + d - 26)

def digitValue? (c : Char) : Option Nat :=
  if '0' ≤ c && c ≤ '9' then some (c.toNat - 0x30 + 26)
  else if 'A' ≤ c && c ≤ 'Z' then some (c.toNat - 0x41)
  else if 'a' ≤ c && c ≤ 'z' then some (c.toNat - 0x61)
  else none

def threshold (k bias : Nat) : Nat :=
  if k ≤ bias then 1 else if bias + 26 ≤ k then 26 else k - bias

theorem threshold_pos (k bias : Nat) : 1 ≤ threshold k bias := by
  unfold threshold
  split
  · omega
  · split <;> omega

theorem threshold_le (k bias : Nat) : threshold k bias ≤ 26 := by
  unfold threshold
  split
  · omega
  · split <;> omega

def adaptLoop (delta k : Nat) : Nat × Nat :=
  if 455 < delta then adaptLoop (delta / 35) (k + 36) else (delta, k)
termination_by delta
decreasing_by exact Nat.div_lt_self (by omega) (by omega)

def adapt (delta numpoints : Nat) (firstTime : Bool) : Nat :=
  let d0 := if firstTime then delta / 700 else delta / 2
  let d1 := d0 + d0 / numpoints
  let r := adaptLoop d1 0
  r.2 + 36 * r.1 / (r.1 + 38)

def encodeDigits (bias k q : Nat) : List Char :=
  let t := threshold k bias
  if q < t then [digitChar q]
  else digitChar (t + (q - t) % (36 - t)) :: encodeDigits bias (k + 36) ((q - t) / (36 - t))
termination_by q
decreasing_by
  have _h1 := threshold_pos k bias
  have _h2 := threshold_le k bias
  calc (q - threshold k bias) / (36 - threshold k bias)
      ≤ q - threshold k bias := Nat.div_le_self _ _
    _ < q := by omega

/-- The state of an encoding: digits so far, the running distance, the bias and how many
code points are written. -/
structure Encoding where
  out : List Char
  delta : Nat
  bias : Nat
  done : Nat

def scanOne (basic m : Nat) (st : Encoding) (c : Char) : Encoding :=
  if c.toNat < m then { st with delta := st.delta + 1 }
  else if c.toNat == m then
    { out := st.out ++ encodeDigits st.bias 36 st.delta, delta := 0,
      bias := adapt st.delta (st.done + 1) (st.done == basic), done := st.done + 1 }
  else st

def encodeLoop (input : List Char) (basic : Nat) : List Nat → Nat → Encoding → Encoding
  | [], _, st => st
  | m :: rest, n, st =>
    let st1 := { st with delta := st.delta + (m - n) * (st.done + 1) }
    let st2 := input.foldl (scanOne basic m) st1
    encodeLoop input basic rest (m + 1) { st2 with delta := st2.delta + 1 }

def insertSorted (x : Nat) : List Nat → List Nat
  | [] => [x]
  | y :: ys => if x < y then x :: y :: ys else if x == y then y :: ys else y :: insertSorted x ys

def sortedDistinct : List Nat → List Nat
  | [] => []
  | x :: xs => insertSorted x (sortedDistinct xs)

def encode (input : List Char) : List Char :=
  let basic := input.filter fun c => c.toNat < 0x80
  let wide := sortedDistinct ((input.filter fun c => 0x80 ≤ c.toNat).map Char.toNat)
  let st := encodeLoop input basic.length wide 128 ⟨[], 0, 72, basic.length⟩
  basic ++ (if basic.isEmpty then [] else ['-']) ++ st.out

def wordMax : Nat := 0xFFFFFFFF

/-- Reads one variable-length number and adds it to `i`, with `weight` the value of the digit
at position `k`: the new `i` and the text after the number. -/
def readNumber (bias : Nat) : List Char → Nat → Nat → Nat → Option (Nat × List Char)
  | [], _, _, _ => none
  | c :: rest, i, weight, k =>
    match digitValue? c with
    | none => none
    | some digit =>
      let i := i + digit * weight
      if wordMax < digit * weight || wordMax < i then none
      else
        let t := threshold k bias
        if digit < t then some (i, rest)
        else if wordMax < weight * (36 - t) then none
        else readNumber bias rest i (weight * (36 - t)) (k + 36)

def isScalar (n : Nat) : Bool := n < 0xD800 || (0xE000 ≤ n && n ≤ 0x10FFFF)

theorem readNumber_shorter (bias : Nat) :
    ∀ (text : List Char) (i weight k : Nat) (r : Nat × List Char),
      readNumber bias text i weight k = some r → r.2.length < text.length
  | [], _, _, _, _, h => by simp [readNumber] at h
  | c :: rest, i, weight, k, r, h => by
    rw [readNumber] at h
    split at h
    · simp at h
    · dsimp only at h
      split at h
      · simp at h
      · split at h
        · rw [← Option.some.inj h]
          simp
        · split at h
          · simp at h
          · have := readNumber_shorter bias rest _ _ _ r h
            simp only [List.length_cons]
            omega

/-- Reads the numbers of a text, each inserting a code point into `out`: the code point is
`n` plus the number divided by one more than the length of `out`, and it goes where the
remainder says. -/
def decodeLoop (out : List Char) (n bias i : Nat) : List Char → Option (List Char)
  | [] => some out
  | c :: rest =>
    match hd : readNumber bias (c :: rest) i 1 36 with
    | none => none
    | some (i', remaining) =>
      let len := out.length + 1
      let code := n + i' / len
      let pos := i' % len
      if wordMax < code || !isScalar code then none
      else
        decodeLoop (out.take pos ++ Char.ofNat code :: out.drop pos) code
          (adapt (i' - i) len (i == 0)) (pos + 1) remaining
termination_by text => text.length
decreasing_by
  have := readNumber_shorter bias (c :: rest) i 1 36 (i', remaining) hd
  simpa using this

def decode (text : List Char) : Option (List Char) :=
  match text.reverse.findIdx? (· == '-') with
  | none => decodeLoop [] 128 72 0 text
  | some fromEnd =>
    let cut := text.length - 1 - fromEnd
    let base := text.take cut
    let digits := if cut = 0 then text else text.drop (cut + 1)
    if base.all (fun c => c.toNat < 0x80) then decodeLoop base 128 72 0 digits
    else none

end Punycode

end Domain

end Http

end RuleOverlay
