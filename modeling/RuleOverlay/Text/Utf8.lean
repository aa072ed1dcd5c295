/-! # UTF-8

Documents travel as bytes. `encode` writes each character in one to four bytes; `decode?`
reads back exactly the byte strings in which every character is well formed; `decodeLossy`
reads any byte string, putting U+FFFD in place of each maximal ill-formed part, so that a
well-formed text comes back unchanged.

The reader follows the table of well-formed sequences: the lead byte fixes how many
continuation bytes follow and the range the first of them must fall in, which rules out
overlong forms, surrogates and code points above U+10FFFF.
-/
namespace RuleOverlay

abbrev Bytes := List UInt8

namespace Utf8

def encodeChar (c : Char) : Bytes :=
  let n := c.toNat
  if n < 0x80 then [n.toUInt8]
  else if n < 0x800 then [(0xC0 + n / 64).toUInt8, (0x80 + n % 64).toUInt8]
  else if n < 0x10000 then
    [(0xE0 + n / 4096).toUInt8, (0x80 + n / 64 % 64).toUInt8, (0x80 + n % 64).toUInt8]
  else
    [(0xF0 + n / 262144).toUInt8, (0x80 + n / 4096 % 64).toUInt8,
      (0x80 + n / 64 % 64).toUInt8, (0x80 + n % 64).toUInt8]

def encodeChars (cs : List Char) : Bytes := cs.flatMap encodeChar

def encode (s : String) : Bytes := encodeChars s.toList

/-- A sequence begun and not yet finished: continuation bytes still owed, the range the next
one must fall in, and the code point read so far. -/
structure Pending where
  left : Nat
  lo : UInt8
  hi : UInt8
  acc : Nat

/-- What a byte does between characters: a whole character, the start of a longer sequence,
or nothing when no well-formed sequence starts with it. -/
def start (b : UInt8) : Option (Char ⊕ Pending) :=
  let n := b.toNat
  if n < 0x80 then some (.inl (Char.ofNat n))
  else if n < 0xC2 then none
  else if n < 0xE0 then some (.inr ⟨1, 0x80, 0xBF, n - 0xC0⟩)
  else if n = 0xE0 then some (.inr ⟨2, 0xA0, 0xBF, 0⟩)
  else if n < 0xED then some (.inr ⟨2, 0x80, 0xBF, n - 0xE0⟩)
  else if n = 0xED then some (.inr ⟨2, 0x80, 0x9F, 0xD⟩)
  else if n < 0xF0 then some (.inr ⟨2, 0x80, 0xBF, n - 0xE0⟩)
  else if n = 0xF0 then some (.inr ⟨3, 0x90, 0xBF, 0⟩)
  else if n < 0xF4 then some (.inr ⟨3, 0x80, 0xBF, n - 0xF0⟩)
  else if n = 0xF4 then some (.inr ⟨3, 0x80, 0x8F, 4⟩)
  else none

def Pending.feed (p : Pending) (b : UInt8) : Char ⊕ Pending :=
  let acc := p.acc * 64 + (b.toNat - 0x80)
  if p.left ≤ 1 then .inl (Char.ofNat acc) else .inr ⟨p.left - 1, 0x80, 0xBF, acc⟩

def Pending.fits (p : Pending) (b : UInt8) : Bool := p.lo ≤ b && b ≤ p.hi

def decodeFrom : Option Pending → Bytes → Option (List Char)
  | none, [] => some []
  | some _, [] => none
  | none, b :: rest =>
    match start b with
    | none => none
    | some (.inl c) => (decodeFrom none rest).map (c :: ·)
    | some (.inr p) => decodeFrom (some p) rest
  | some p, b :: rest =>
    if p.fits b then
      match p.feed b with
      | .inl c => (decodeFrom none rest).map (c :: ·)
      | .inr q => decodeFrom (some q) rest
    else none

def decode? (bs : Bytes) : Option String := (decodeFrom none bs).map String.ofList

def valid (bs : Bytes) : Bool := (decodeFrom none bs).isSome

/-- Lenient reading: each maximal ill-formed part becomes one U+FFFD. A byte that breaks a
pending sequence ends that part and is read again as the start of the next. -/
def lossyFrom : Option Pending → Bytes → List Char
  | none, [] => []
  | some _, [] => ['�']
  | none, b :: rest =>
    match start b with
    | none => '�' :: lossyFrom none rest
    | some (.inl c) => c :: lossyFrom none rest
    | some (.inr p) => lossyFrom (some p) rest
  | some p, b :: rest =>
    if p.fits b then
      match p.feed b with
      | .inl c => c :: lossyFrom none rest
      | .inr q => lossyFrom (some q) rest
    else
      '�' ::
        match start b with
        | none => '�' :: lossyFrom none rest
        | some (.inl c) => c :: lossyFrom none rest
        | some (.inr q) => lossyFrom (some q) rest

def decodeLossy (bs : Bytes) : String := String.ofList (lossyFrom none bs)

end Utf8

end RuleOverlay
