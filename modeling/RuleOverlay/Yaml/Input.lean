import RuleOverlay.Yaml.Token
/-! # The characters of a YAML text

A YAML text is UTF-8 and may hold tab, line feed, carriage return, the printable ASCII
characters, NEL, and the characters from U+00A0 on except surrogates, U+FFFE and U+FFFF.

Decoding reads the whole text before any token is cut. A malformed sequence or a character
that may not appear is a problem at its byte offset, reported before anything else. The one
exception is a sequence cut short by the end of the text: the characters before it are kept,
and its problem is reported only when the scanner looks past them.
-/
namespace RuleOverlay

namespace Yaml

/-- The characters of a text, and the problem waiting past them, if any. -/
structure Input where
  chars : Array Char
  tail : Option Problem

def allowedChar (n : Nat) : Bool :=
  n == 0x09 || n == 0x0A || n == 0x0D || (0x20 ≤ n && n ≤ 0x7E) || n == 0x85 ||
    (0xA0 ≤ n && n ≤ 0xD7FF) || (0xE000 ≤ n && n ≤ 0xFFFD) || (0x10000 ≤ n && n ≤ 0x10FFFF)

def leadWidth (b : UInt8) : Nat :=
  if b &&& 0x80 == 0 then 1
  else if b &&& 0xE0 == 0xC0 then 2
  else if b &&& 0xF0 == 0xE0 then 3
  else if b &&& 0xF8 == 0xF0 then 4
  else 0

def leadBits (b : UInt8) (width : Nat) : Nat :=
  match width with
  | 1 => (b &&& 0x7F).toNat
  | 2 => (b &&& 0x1F).toNat
  | 3 => (b &&& 0x0F).toNat
  | _ => (b &&& 0x07).toNat

def continuation (offset : Nat) : Nat → Bytes → Nat → Except Problem Nat
  | _, [], acc => .ok acc
  | k, b :: rest, acc =>
    if b &&& 0xC0 != 0x80 then .error (.atOffset "invalid trailing UTF-8 octet" (offset + k))
    else continuation offset (k + 1) rest (acc * 64 + (b &&& 0x3F).toNat)

def decodeFrom (offset : Nat) (acc : Array Char) : Bytes → Except Problem Input
  | [] => .ok ⟨acc, none⟩
  | b :: rest =>
    let width := leadWidth b
    if width == 0 then .error (.atOffset "invalid leading UTF-8 octet" offset)
    else if width > rest.length + 1 then
      .ok ⟨acc, some (.atOffset "incomplete UTF-8 octet sequence" offset)⟩
    else
      match continuation offset 1 (rest.take (width - 1)) (leadBits b width) with
      | .error p => .error p
      | .ok value =>
        if !(width == 1 || (width == 2 && value ≥ 0x80) || (width == 3 && value ≥ 0x800) ||
            (width == 4 && value ≥ 0x10000)) then
          .error (.atOffset "invalid length of a UTF-8 sequence" offset)
        else if (0xD800 ≤ value && value ≤ 0xDFFF) || value > 0x10FFFF then
          .error (.atOffset "invalid Unicode character" offset)
        else if !allowedChar value then
          .error (.atOffset "control characters are not allowed" offset)
        else decodeFrom (offset + width) (acc.push (Char.ofNat value)) (rest.drop (width - 1))
termination_by bs => bs.length
decreasing_by simp only [List.length_drop, List.length_cons]; omega

def Input.decode (bytes : Bytes) : Except Problem Input := decodeFrom 0 #[] bytes

end Yaml

end RuleOverlay
