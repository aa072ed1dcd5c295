import Mathlib
import RuleOverlay.Text.Utf8
/-! # Reading back what UTF-8 writes

`encode` writes a character in one to four bytes and `decode?` reads exactly the well-formed
byte strings. The two are inverse on text: the bytes of any character read back as that
character (`decodeFrom_encodeChar`), so the bytes of a text read back as the text
(`decode?_encode`). The proof follows the table of well-formed sequences: the lead byte of each
form opens a sequence whose next byte range excludes overlong forms, surrogates and code
points past U+10FFFF, and a valid character never needs one of those.
-/
namespace RuleOverlay

namespace Utf8

theorem encode_append (s t : String) : encode (s ++ t) = encode s ++ encode t := by
  simp only [encode, encodeChars, String.toList_append, List.flatMap_append]

theorem encode_join (l : List String) : encode (String.join l) = l.flatMap encode := by
  simp only [encode, encodeChars, String.toList_join, List.flatMap_assoc]
  rfl

theorem encode_singleton (c : Char) : encode (String.singleton c) = encodeChar c := by
  simp only [encode, encodeChars, String.toList_singleton, List.flatMap_singleton]

theorem toNat_toUInt8 {k : Nat} (h : k < 256) : k.toUInt8.toNat = k := by
  simp [Nat.mod_eq_of_lt h]

theorem decodeFrom_of_start_char {b : UInt8} {c : Char} (h : start b = some (.inl c))
    (rest : Bytes) : decodeFrom none (b :: rest) = (decodeFrom none rest).map (c :: ·) := by
  simp [decodeFrom, h]

theorem decodeFrom_of_start_pending {b : UInt8} {p : Pending} (h : start b = some (.inr p))
    (rest : Bytes) : decodeFrom none (b :: rest) = decodeFrom (some p) rest := by
  simp [decodeFrom, h]

theorem fits_iff (p : Pending) (b : UInt8) :
    p.fits b = true ↔ p.lo.toNat ≤ b.toNat ∧ b.toNat ≤ p.hi.toNat := by
  simp [Pending.fits, UInt8.le_iff_toNat_le]

theorem decodeFrom_last (lo hi : UInt8) (acc : Nat) {m : Nat} (hm : m < 64)
    (hFits : lo.toNat ≤ 0x80 + m ∧ 0x80 + m ≤ hi.toNat) (rest : Bytes) :
    decodeFrom (some ⟨1, lo, hi, acc⟩) ((0x80 + m).toUInt8 :: rest) =
      (decodeFrom none rest).map (Char.ofNat (acc * 64 + m) :: ·) := by
  have hByte : (0x80 + m).toUInt8.toNat = 0x80 + m := toNat_toUInt8 (by omega)
  have hFits' : Pending.fits ⟨1, lo, hi, acc⟩ (0x80 + m).toUInt8 = true := by
    rw [fits_iff, hByte]
    exact hFits
  simp only [decodeFrom]
  rw [if_pos hFits', Pending.feed, hByte, Nat.add_sub_cancel_left, if_pos (Nat.le_refl 1)]

theorem decodeFrom_more (k : Nat) (lo hi : UInt8) (acc : Nat) {m : Nat} (hm : m < 64)
    (hFits : lo.toNat ≤ 0x80 + m ∧ 0x80 + m ≤ hi.toNat) (rest : Bytes) :
    decodeFrom (some ⟨k + 2, lo, hi, acc⟩) ((0x80 + m).toUInt8 :: rest) =
      decodeFrom (some ⟨k + 1, 0x80, 0xBF, acc * 64 + m⟩) rest := by
  have hByte : (0x80 + m).toUInt8.toNat = 0x80 + m := toNat_toUInt8 (by omega)
  have hFits' : Pending.fits ⟨k + 2, lo, hi, acc⟩ (0x80 + m).toUInt8 = true := by
    rw [fits_iff, hByte]
    exact hFits
  simp only [decodeFrom]
  rw [if_pos hFits', Pending.feed, hByte, Nat.add_sub_cancel_left,
    if_neg (show ¬ k + 2 ≤ 1 by omega)]
  rfl

theorem char_valid (c : Char) : c.toNat < 0xD800 ∨ (0xDFFF < c.toNat ∧ c.toNat < 0x110000) :=
  c.valid

theorem decodeFrom_encodeChar (c : Char) (rest : Bytes) :
    decodeFrom none (encodeChar c ++ rest) = (decodeFrom none rest).map (c :: ·) := by
  have hValid := char_valid c
  have hBack : Char.ofNat c.toNat = c := Char.ofNat_toNat c
  unfold encodeChar
  dsimp only
  split_ifs with h1 h2 h3
  · have hStart : start c.toNat.toUInt8 = some (.inl c) := by
      rw [start, toNat_toUInt8 (by omega), if_pos h1, hBack]
    rw [List.cons_append, List.nil_append, decodeFrom_of_start_char hStart]
  · have hStart : start (0xC0 + c.toNat / 64).toUInt8 =
        some (.inr ⟨1, 0x80, 0xBF, c.toNat / 64⟩) := by
      rw [start, toNat_toUInt8 (by omega), if_neg (by omega), if_neg (by omega),
        if_pos (by omega), Nat.add_sub_cancel_left]
    have hLast := decodeFrom_last 0x80 0xBF (c.toNat / 64) (Nat.mod_lt c.toNat (by decide))
      (by simp; omega) rest
    rw [List.cons_append, List.cons_append, List.nil_append, decodeFrom_of_start_pending hStart,
      hLast, Nat.div_add_mod', hBack]
  · have hStart : ∃ lo hi : UInt8, start (0xE0 + c.toNat / 4096).toUInt8 =
        some (.inr ⟨2, lo, hi, c.toNat / 4096⟩) ∧
        lo.toNat ≤ 0x80 + c.toNat / 64 % 64 ∧ 0x80 + c.toNat / 64 % 64 ≤ hi.toNat := by
      rw [start, toNat_toUInt8 (by omega), if_neg (by omega), if_neg (by omega), if_neg (by omega)]
      rcases (show c.toNat < 0x1000 ∨ (0x1000 ≤ c.toNat ∧ c.toNat < 0xD000) ∨
          (0xD000 ≤ c.toNat ∧ c.toNat < 0xD800) ∨ 0xE000 ≤ c.toNat by omega)
        with h | h | h | h
      · refine ⟨0xA0, 0xBF, ?_, by simp; omega, by simp; omega⟩
        rw [if_pos (by omega), show c.toNat / 4096 = 0 by omega]
      · refine ⟨0x80, 0xBF, ?_, by simp, by simp; omega⟩
        rw [if_neg (by omega), if_pos (by omega), Nat.add_sub_cancel_left]
      · refine ⟨0x80, 0x9F, ?_, by simp, by simp; omega⟩
        rw [if_neg (by omega), if_neg (by omega), if_pos (by omega),
          show c.toNat / 4096 = 0xD by omega]
      · refine ⟨0x80, 0xBF, ?_, by simp, by simp; omega⟩
        rw [if_neg (by omega), if_neg (by omega), if_neg (by omega), if_pos (by omega),
          Nat.add_sub_cancel_left]
    obtain ⟨lo, hi, hStart, hLo, hHi⟩ := hStart
    have hMore := decodeFrom_more 0 lo hi (c.toNat / 4096) (Nat.mod_lt (c.toNat / 64) (by decide))
      ⟨hLo, hHi⟩ ([(0x80 + c.toNat % 64).toUInt8] ++ rest)
    have hLast := decodeFrom_last 0x80 0xBF (c.toNat / 4096 * 64 + c.toNat / 64 % 64)
      (Nat.mod_lt c.toNat (by decide)) (by simp; omega) rest
    have hValue : (c.toNat / 4096 * 64 + c.toNat / 64 % 64) * 64 + c.toNat % 64 = c.toNat := by
      omega
    simp only [List.cons_append, List.nil_append] at hMore ⊢
    rw [decodeFrom_of_start_pending hStart, hMore, hLast, hValue, hBack]
  · have hStart : ∃ lo hi : UInt8, start (0xF0 + c.toNat / 262144).toUInt8 =
        some (.inr ⟨3, lo, hi, c.toNat / 262144⟩) ∧
        lo.toNat ≤ 0x80 + c.toNat / 4096 % 64 ∧ 0x80 + c.toNat / 4096 % 64 ≤ hi.toNat := by
      rw [start, toNat_toUInt8 (by omega), if_neg (by omega), if_neg (by omega), if_neg (by omega),
        if_neg (by omega), if_neg (by omega), if_neg (by omega), if_neg (by omega)]
      rcases (show c.toNat < 0x40000 ∨ (0x40000 ≤ c.toNat ∧ c.toNat < 0x100000) ∨
          0x100000 ≤ c.toNat by omega) with h | h | h
      · refine ⟨0x90, 0xBF, ?_, by simp; omega, by simp; omega⟩
        rw [if_pos (by omega), show c.toNat / 262144 = 0 by omega]
      · refine ⟨0x80, 0xBF, ?_, by simp, by simp; omega⟩
        rw [if_neg (by omega), if_pos (by omega), Nat.add_sub_cancel_left]
      · refine ⟨0x80, 0x8F, ?_, by simp, by simp; omega⟩
        rw [if_neg (by omega), if_neg (by omega), if_pos (by omega),
          show c.toNat / 262144 = 4 by omega]
    obtain ⟨lo, hi, hStart, hLo, hHi⟩ := hStart
    have hSecond := decodeFrom_more 1 lo hi (c.toNat / 262144)
      (Nat.mod_lt (c.toNat / 4096) (by decide)) ⟨hLo, hHi⟩
      ([(0x80 + c.toNat / 64 % 64).toUInt8, (0x80 + c.toNat % 64).toUInt8] ++ rest)
    have hThird := decodeFrom_more 0 0x80 0xBF (c.toNat / 262144 * 64 + c.toNat / 4096 % 64)
      (Nat.mod_lt (c.toNat / 64) (by decide)) (by simp; omega)
      ([(0x80 + c.toNat % 64).toUInt8] ++ rest)
    have hLast := decodeFrom_last 0x80 0xBF
      ((c.toNat / 262144 * 64 + c.toNat / 4096 % 64) * 64 + c.toNat / 64 % 64)
      (Nat.mod_lt c.toNat (by decide)) (by simp; omega) rest
    have hValue : ((c.toNat / 262144 * 64 + c.toNat / 4096 % 64) * 64 + c.toNat / 64 % 64) * 64 +
        c.toNat % 64 = c.toNat := by
      omega
    simp only [List.cons_append, List.nil_append] at hSecond hThird ⊢
    rw [decodeFrom_of_start_pending hStart, hSecond, hThird, hLast, hValue, hBack]


theorem decodeFrom_encodeChars (cs : List Char) : decodeFrom none (encodeChars cs) = some cs := by
  induction cs with
  | nil => rfl
  | cons c cs ih =>
    rw [encodeChars, List.flatMap_cons, decodeFrom_encodeChar, ← encodeChars, ih, Option.map_some]

theorem decode?_encode (s : String) : decode? (encode s) = some s := by
  rw [decode?, encode, decodeFrom_encodeChars, Option.map_some, String.ofList_toList]

end Utf8

end RuleOverlay
