import Mathlib
import RuleOverlay.Proofs.Cursor
import RuleOverlay.Proofs.Utf8
import RuleOverlay.Json.Print
/-! # Reading back numbers and strings

The printer writes an integer as its decimal digits and a string between quotes, with the quote,
the backslash and the control characters escaped. Here the reader is run on such text: the
digits of an integer within 64 bits read back as that integer (`reads_number`), and a quoted
string reads back as the string (`reads_string`), whatever follows the text, provided it is what
may close a value in compact text (`Closer`).
-/
namespace RuleOverlay

namespace Json

/-! ### Numbers -/

def Closer (rest : Bytes) : Prop := ∀ b ∈ rest.head?, b = 0x2C ∨ b = 0x5D ∨ b = 0x7D

theorem closer_cases {rest : Bytes} (h : Closer rest) :
    rest = [] ∨ ∃ r, rest = 0x2C :: r ∨ rest = 0x5D :: r ∨ rest = 0x7D :: r := by
  cases rest with
  | nil => exact .inl rfl
  | cons b r =>
    rcases h b rfl with rfl | rfl | rfl
    · exact .inr ⟨r, .inl rfl⟩
    · exact .inr ⟨r, .inr (.inl rfl)⟩
    · exact .inr ⟨r, .inr (.inr rfl)⟩

theorem Closer.not_digit {rest : Bytes} (h : Closer rest) :
    ∀ b ∈ rest.head?, isDigit b = false := by
  intro b hb
  rcases h b hb with rfl | rfl | rfl <;> rfl

/-- The number the reader makes of an integer's digits with their sign: a non-negative one as it
is, a negative one exactly when it fits in 64 bits, as a double otherwise. -/
def integerOf (positive : Bool) (sig : Nat) : Number :=
  if positive then .nat sig
  else if sig == 0 || sig > Nat.pow 2 63 then .float (-(Decimal.nearest sig 1))
  else .int (-(sig : Int))

theorem reads_numberTail (positive : Bool) (sig : Nat) {rest : Bytes} (h : Closer rest) :
    Reads (numberTail positive sig) [] rest (integerOf positive sig) := by
  intro inp i
  rcases closer_cases h with rfl | ⟨r, rfl | rfl | rfl⟩ <;>
  · simp only [numberTail, integerOf, run_bind, run_peek, List.nil_append, List.head?_cons,
      List.head?_nil, List.length_nil, Nat.add_zero]
    cases positive <;> split_ifs <;> rfl

def digitsOnto (acc : Nat) (bs : Bytes) : Nat :=
  bs.foldl (fun a b => a * 10 + (b - 0x30).toNat) acc

theorem digitsOnto_cons (acc : Nat) (b : UInt8) (bs : Bytes) :
    digitsOnto acc (b :: bs) = digitsOnto (acc * 10 + (b - 0x30).toNat) bs := rfl

theorem digitsOnto_append_singleton (acc : Nat) (bs : Bytes) (b : UInt8) :
    digitsOnto acc (bs ++ [b]) = digitsOnto acc bs * 10 + (b - 0x30).toNat := by
  simp [digitsOnto, List.foldl_append]

theorem le_digitsOnto (acc : Nat) (bs : Bytes) : acc ≤ digitsOnto acc bs := by
  induction bs generalizing acc with
  | nil => exact Nat.le_refl acc
  | cons b bs ih =>
    rw [digitsOnto_cons]
    exact Nat.le_trans (by omega) (ih _)

theorem digit_lt_ten {b : UInt8} (h : isDigit b = true) : (b - 0x30).toNat < 10 := by
  simp only [isDigit, Bool.and_eq_true, decide_eq_true_eq] at h
  rw [UInt8.toNat_sub_of_le _ _ h.1]
  have h1 := UInt8.le_iff_toNat_le.mp h.2
  have h0 := UInt8.le_iff_toNat_le.mp h.1
  simp at h0 h1 ⊢
  omega

theorem overflows_eq_false {limit acc d : Nat} (hd : d < 10) (h : acc * 10 + d ≤ limit) :
    overflows limit acc d = false := by
  simp only [overflows, Bool.or_eq_false_iff, Bool.and_eq_false_imp, beq_iff_eq,
    decide_eq_false_iff_not]
  omega

theorem absorb_digits {limit : Nat} {rest : Bytes}
    (hRest : ∀ b ∈ rest.head?, isDigit b = false) :
    ∀ {acc : Nat} {X : Bytes}, (∀ b ∈ X, isDigit b = true) → digitsOnto acc X ≤ limit →
      absorb limit acc (X ++ rest) = (digitsOnto acc X, X.length, false)
  | acc, [], _, _ => by
    cases rest with
    | nil => rfl
    | cons b rest => simp [absorb, hRest b rfl, digitsOnto]
  | acc, b :: X, hX, hLe => by
    have hb : isDigit b = true := hX b List.mem_cons_self
    have hStep : acc * 10 + (b - 0x30).toNat ≤ limit :=
      Nat.le_trans (le_digitsOnto _ X) (by rwa [digitsOnto_cons] at hLe)
    rw [List.cons_append, absorb, if_pos hb]
    dsimp only
    rw [overflows_eq_false (digit_lt_ten hb) hStep, if_neg Bool.false_ne_true,
      absorb_digits hRest (fun c hc => hX c (List.mem_cons_of_mem b hc)) hLe]
    rfl

/-! ### The digits of a natural number -/

theorem digit_byte (d : Fin 10) :
    isDigit (48 + d.val).toUInt8 = true ∧ ((48 + d.val).toUInt8 - 0x30).toNat = d.val ∧
      ((48 + d.val).toUInt8 = 0x30 ↔ d.val = 0) := by
  revert d
  decide

theorem encode_toString (n : Nat) :
    Utf8.encode (toString n) = Utf8.encodeChars (Nat.toDigits 10 n) := by
  rw [Nat.toString_eq_repr, Nat.repr_eq_ofList_toDigits, Utf8.encode, String.toList_ofList]

theorem encodeChar_digitChar {d : Nat} (hd : d < 10) :
    Utf8.encodeChar d.digitChar = [(48 + d).toUInt8] := by
  rw [Utf8.encodeChar, Nat.toNat_digitChar_of_lt_ten hd, if_pos (by omega)]

theorem encode_toString_of_lt {n : Nat} (h : n < 10) :
    Utf8.encode (toString n) = [(48 + n).toUInt8] := by
  rw [encode_toString, Nat.toDigits_of_lt_base h, Utf8.encodeChars, List.flatMap_singleton,
    encodeChar_digitChar h]

theorem encode_toString_of_ge {n : Nat} (h : 10 ≤ n) :
    Utf8.encode (toString n) = Utf8.encode (toString (n / 10)) ++ [(48 + n % 10).toUInt8] := by
  have hSplit : Nat.toDigits 10 n = Nat.toDigits 10 (n / 10) ++ Nat.toDigits 10 (n % 10) := by
    rw [Nat.toDigits_append_toDigits (by decide) (by omega) (Nat.mod_lt n (by decide)),
      Nat.div_add_mod]
  rw [encode_toString, encode_toString, hSplit, Utf8.encodeChars, List.flatMap_append,
    Nat.toDigits_of_lt_base (Nat.mod_lt n (by decide)), List.flatMap_singleton,
    encodeChar_digitChar (Nat.mod_lt n (by decide))]
  rfl

theorem isDigit_of_mem_toString (n : Nat) :
    ∀ b ∈ Utf8.encode (toString n), isDigit b = true := by
  induction n using Nat.strong_induction_on with
  | _ n ih =>
    rcases Nat.lt_or_ge n 10 with h | h
    · rw [encode_toString_of_lt h, List.forall_mem_singleton]
      exact (digit_byte ⟨n, h⟩).1
    · rw [encode_toString_of_ge h, List.forall_mem_append, List.forall_mem_singleton]
      exact ⟨ih (n / 10) (by omega), (digit_byte ⟨n % 10, Nat.mod_lt n (by decide)⟩).1⟩

theorem digitsOnto_toString (n : Nat) : digitsOnto 0 (Utf8.encode (toString n)) = n := by
  induction n using Nat.strong_induction_on with
  | _ n ih =>
    rcases Nat.lt_or_ge n 10 with h | h
    · rw [encode_toString_of_lt h, digitsOnto_cons, (digit_byte ⟨n, h⟩).2.1]
      simp [digitsOnto]
    · rw [encode_toString_of_ge h, digitsOnto_append_singleton, ih (n / 10) (by omega),
        (digit_byte ⟨n % 10, Nat.mod_lt n (by decide)⟩).2.1]
      exact Nat.div_add_mod' n 10

theorem toString_eq_cons {n : Nat} (h : 0 < n) :
    ∃ b X, Utf8.encode (toString n) = b :: X ∧ b ≠ 0x30 := by
  induction n using Nat.strong_induction_on with
  | _ n ih =>
    rcases Nat.lt_or_ge n 10 with hn | hn
    · refine ⟨_, [], encode_toString_of_lt hn, fun h0 => ?_⟩
      have hZero : n = 0 := (digit_byte ⟨n, hn⟩).2.2.mp h0
      omega
    · obtain ⟨b, X, hbX, hb⟩ := ih (n / 10) (by omega) (by omega)
      exact ⟨b, X ++ [(48 + n % 10).toUInt8], by rw [encode_toString_of_ge hn, hbX]; rfl, hb⟩

theorem reads_number (positive : Bool) {n : Nat} (hn : n ≤ u64Max) {rest : Bytes}
    (h : Closer rest) :
    Reads (number positive) (Utf8.encode (toString n)) rest (integerOf positive n) := by
  intro inp i
  rcases Nat.eq_zero_or_pos n with rfl | hPos
  · have hTail := reads_numberTail positive 0 h inp (i + 1)
    rw [show Utf8.encode (toString 0) = [0x30] from rfl, List.cons_append, List.nil_append]
    rcases closer_cases h with rfl | ⟨r, rfl | rfl | rfl⟩ <;>
    · simp only [number, run_bind, run_next, run_peek, List.head?_cons, List.head?_nil]
      exact hTail
  · obtain ⟨b, X, hbX, hb0⟩ := toString_eq_cons hPos
    have hDigits := isDigit_of_mem_toString n
    rw [hbX] at hDigits
    have hb : isDigit b = true := hDigits b List.mem_cons_self
    have hValue : digitsOnto (b - 0x30).toNat X = n := by
      have := digitsOnto_toString n
      rw [hbX, digitsOnto_cons, Nat.zero_mul, Nat.zero_add] at this
      exact this
    have hAbsorb : absorb u64Max (b - 0x30).toNat (X ++ rest) = (n, X.length, false) := by
      rw [absorb_digits h.not_digit (fun c hc => hDigits c (List.mem_cons_of_mem b hc))
        (hValue ▸ hn), hValue]
    have hTail := reads_numberTail positive n h inp (i + 1 + X.length)
    rw [hbX, List.cons_append, number, run_bind, run_next]
    dsimp only
    split
    · contradiction
    · rename_i hEq
      exact absurd (Option.some.inj hEq) hb0
    · rename_i hEq
      cases Option.some.inj hEq
      rw [if_pos hb, run_bind, run_get]
      dsimp only
      rw [hAbsorb, run_bind, run_advance]
      dsimp only
      rw [if_neg Bool.false_ne_true, List.drop_left, Nat.min_eq_left (by simp)]
      simp only [List.nil_append, List.length_nil, Nat.add_zero] at hTail
      rw [hTail, List.length_cons, Nat.add_assoc, Nat.add_comm 1]

/-! ### Strings -/

def unescaped (c : Char) : Bool := c != '"' && c != '\\' && 0x20 ≤ c.toNat

def hexDigit (k : Nat) : Char := "0123456789abcdef".toList.getD k '0'

theorem hex4_eq (n : Nat) :
    hex4 n = String.ofList [hexDigit (n / 4096 % 16), hexDigit (n / 256 % 16),
      hexDigit (n / 16 % 16), hexDigit (n % 16)] := rfl

theorem hexDigit_spec (k : Fin 16) :
    (hexDigit k).toNat < 0x80 ∧ hexValue (hexDigit k).toNat.toUInt8 = some k := by
  revert k
  decide +kernel

theorem encodeChar_of_lt {c : Char} (h : c.toNat < 0x80) :
    Utf8.encodeChar c = [c.toNat.toUInt8] := by
  rw [Utf8.encodeChar, if_pos h]

theorem reads_hexQuad {n : Nat} (hn : n < 65536) (rest : Bytes) :
    Reads hexQuad (Utf8.encode (hex4 n)) rest n := by
  have hDigit (k : Nat) :
      Utf8.encodeChar (hexDigit (k % 16)) = [(hexDigit (k % 16)).toNat.toUInt8] ∧
      hexValue (hexDigit (k % 16)).toNat.toUInt8 = some (k % 16) := by
    have h := hexDigit_spec ⟨k % 16, Nat.mod_lt k (by decide)⟩
    exact ⟨encodeChar_of_lt h.1, h.2⟩
  intro inp i
  rw [hex4_eq, Utf8.encode, String.toList_ofList]
  simp only [Utf8.encodeChars, List.flatMap_cons, List.flatMap_nil, (hDigit _).1,
    List.append_nil, List.cons_append, List.nil_append]
  rw [hexQuad, run_bind, run_get]
  dsimp only
  rw [run_bind, run_advance]
  dsimp only
  rw [(hDigit _).2, (hDigit _).2, (hDigit _).2, (hDigit _).2]
  have hValue : ((n / 4096 % 16 * 16 + n / 256 % 16) * 16 + n / 16 % 16) * 16 + n % 16 = n := by
    omega
  dsimp only
  rw [hValue]
  rfl


theorem reads_unicodeEscape {n : Nat} (hn : n < 0xD800) (rest : Bytes) :
    Reads unicodeEscape (Utf8.encode (hex4 n)) rest (Utf8.encodeChar (Char.ofNat n)) := by
  have hQuad := reads_hexQuad (Nat.lt_trans hn (by decide)) rest
  rw [← List.append_nil (Utf8.encode (hex4 n))]
  refine hQuad.bind ?_
  have hLow : ¬ ((0xDC00 ≤ n && n ≤ 0xDFFF) = true) := by simp; omega
  have hBelow : (n < 0xD800 || n > 0xDBFF) = true := by simp [hn]
  rw [if_neg hLow, if_pos hBelow]
  exact reads_pure rest _

theorem escapeChar_of_unescaped {c : Char} (h : unescaped c = true) :
    escapeChar c = String.singleton c := by
  simp only [unescaped, Bool.and_eq_true, bne_iff_ne, ne_eq, decide_eq_true_eq] at h
  unfold escapeChar
  split
  case h_8 => rw [if_neg (by omega)]
  all_goals exact absurd h (by decide)


/-- A character that does not stand for itself is written as a backslash and either one letter
for a byte or `u` and four hex digits. -/
theorem escape_cases {c : Char} (h : unescaped c = false) :
    (∃ x e, Utf8.encode (escapeChar c) = [0x5C, x] ∧ x ≠ 0x75 ∧ simpleEscape x = some e ∧
      Utf8.encodeChar c = [e]) ∨
    (∃ H, Utf8.encode (escapeChar c) = 0x5C :: 0x75 :: H ∧
      ∀ rest, Reads unicodeEscape H rest (Utf8.encodeChar c)) := by
  unfold escapeChar
  split
  case h_8 _ hq hb hn hr ht hbs hf =>
    have hControl : c.toNat < 0x20 := by
      simp only [unescaped, Bool.and_eq_false_iff, bne_eq_false_iff_eq, decide_eq_false_iff_not]
        at h
      rcases h with (h | h) | h
      · exact absurd h hq
      · exact absurd h hb
      · omega
    rw [if_pos hControl]
    have hBytes :
        Utf8.encode ("\\u" ++ hex4 c.toNat) = 0x5C :: 0x75 :: Utf8.encode (hex4 c.toNat) := by
      rw [Utf8.encode_append, show Utf8.encode "\\u" = [0x5C, 0x75] by decide +kernel]
      rfl
    refine .inr ⟨Utf8.encode (hex4 c.toNat), hBytes, fun rest => ?_⟩
    have hRead := reads_unicodeEscape (Nat.lt_trans hControl (by decide)) rest
    rwa [Char.ofNat_toNat] at hRead
  case h_1 => exact .inl ⟨0x22, 0x22, by decide +kernel, by decide, rfl, by decide⟩
  case h_2 => exact .inl ⟨0x5C, 0x5C, by decide +kernel, by decide, rfl, by decide⟩
  case h_3 => exact .inl ⟨0x6E, 0x0A, by decide +kernel, by decide, rfl, by decide⟩
  case h_4 => exact .inl ⟨0x72, 0x0D, by decide +kernel, by decide, rfl, by decide⟩
  case h_5 => exact .inl ⟨0x74, 0x09, by decide +kernel, by decide, rfl, by decide⟩
  case h_6 => exact .inl ⟨0x62, 0x08, by decide +kernel, by decide, rfl, by decide⟩
  case h_7 => exact .inl ⟨0x66, 0x0C, by decide +kernel, by decide, rfl, by decide⟩

def plainByte (b : UInt8) : Bool := b != 0x22 && b != 0x5C && b ≥ 0x20

theorem plainByte_iff {b : UInt8} :
    plainByte b = true ↔ b.toNat ≠ 0x22 ∧ b.toNat ≠ 0x5C ∧ 0x20 ≤ b.toNat := by
  simp [plainByte, UInt8.le_iff_toNat_le, ← UInt8.toNat_inj, and_assoc]

theorem plainByte_encodeChar {c : Char} (h : unescaped c = true) :
    ∀ b ∈ Utf8.encodeChar c, plainByte b = true := by
  have hq : c.toNat ≠ 0x22 := fun hc => by
    simp [unescaped, show c = '"' from Char.toNat_inj.mp hc] at h
  have hb : c.toNat ≠ 0x5C := fun hc => by
    simp [unescaped, show c = '\\' from Char.toNat_inj.mp hc] at h
  have hc : 0x20 ≤ c.toNat := by simp [unescaped] at h; exact h.2
  have hValid : c.toNat < 0xD800 ∨ (0xDFFF < c.toNat ∧ c.toNat < 0x110000) := c.valid
  unfold Utf8.encodeChar
  dsimp only
  intro b hMem
  apply plainByte_iff.mpr
  split_ifs at hMem with h1 h2 h3 <;> simp only [List.mem_cons, List.not_mem_nil, or_false] at hMem
  · rw [hMem, Utf8.toNat_toUInt8 (by omega)]
    omega
  · rcases hMem with rfl | rfl <;> rw [Utf8.toNat_toUInt8 (by omega)] <;> omega
  · rcases hMem with rfl | rfl | rfl <;> rw [Utf8.toNat_toUInt8 (by omega)] <;> omega
  · rcases hMem with rfl | rfl | rfl | rfl <;> rw [Utf8.toNat_toUInt8 (by omega)] <;> omega

def escapedBytes (cs : List Char) : Bytes := cs.flatMap fun c => Utf8.encode (escapeChar c)

theorem escapedBytes_append (cs ds : List Char) :
    escapedBytes (cs ++ ds) = escapedBytes cs ++ escapedBytes ds := List.flatMap_append

theorem escapedBytes_of_unescaped {cs : List Char} (h : ∀ c ∈ cs, unescaped c = true) :
    escapedBytes cs = Utf8.encodeChars cs := by
  induction cs with
  | nil => rfl
  | cons c cs ih =>
    rw [escapedBytes, List.flatMap_cons, ← escapedBytes,
      ih fun d hd => h d (List.mem_cons_of_mem c hd),
      escapeChar_of_unescaped (h c List.mem_cons_self), Utf8.encode_singleton]
    rfl

theorem encode_quote (s : String) :
    Utf8.encode (quote s) = 0x22 :: (escapedBytes s.toList ++ [0x22]) := by
  rw [quote, Utf8.encode_append, Utf8.encode_append, Utf8.encode_join, List.flatMap_map,
    show Utf8.encode "\"" = [0x22] by decide +kernel]
  rfl

theorem takeWhile_plain {ps : List Char} (hPs : ∀ c ∈ ps, unescaped c = true) {Q : Bytes}
    (hQ : ∀ b ∈ Q.head?, b = 0x22 ∨ b = 0x5C) :
    (Utf8.encodeChars ps ++ Q).takeWhile plainByte = Utf8.encodeChars ps := by
  have hAll : ∀ b ∈ Utf8.encodeChars ps, plainByte b = true := by
    intro b hb
    obtain ⟨c, hc, hbc⟩ := List.mem_flatMap.mp hb
    exact plainByte_encodeChar (hPs c hc) b hbc
  rw [List.takeWhile_append_of_pos hAll]
  cases Q with
  | nil => rw [List.takeWhile_nil, List.append_nil]
  | cons b Q =>
    rw [List.takeWhile_cons_of_neg, List.append_nil]
    rcases hQ b rfl with rfl | rfl <;> decide

/-- The loop over a string body: each round takes a plain run and one escape, or the closing
quote; the bytes it gathers are those of the characters. -/
theorem reads_stringBytes (rest : Bytes) :
    ∀ (fuel : Nat) (cs : List Char) (acc : Bytes), cs.length < fuel →
      Reads (stringBytes fuel acc) (escapedBytes cs ++ [0x22]) rest
        (acc.reverse ++ Utf8.encodeChars cs)
  | 0, _, _, h => absurd h (Nat.not_lt_zero _)
  | fuel + 1, cs, acc, hFuel => by
    obtain ⟨ps, qs, rfl, hPs, hQs⟩ : ∃ ps qs, cs = ps ++ qs ∧
        (∀ c ∈ ps, unescaped c = true) ∧ ∀ c ∈ qs.head?, unescaped c = false :=
      ⟨_, _, List.takeWhile_append_dropWhile.symm, fun _ => List.mem_takeWhile_imp,
        fun c hc => by
          have h := List.head?_dropWhile_not unescaped cs
          rw [hc] at h
          exact h⟩
    have hQ : ∀ b ∈ (escapedBytes qs ++ [0x22]).head?, b = 0x22 ∨ b = 0x5C := by
      cases qs with
      | nil => simp [escapedBytes]
      | cons c qs =>
        rcases escape_cases (hQs c rfl) with ⟨x, e, hBytes, -⟩ | ⟨H, hBytes, -⟩ <;>
        · simp [escapedBytes, hBytes]
    have hTake : List.takeWhile (fun b => b != 0x22 && b != 0x5C && b ≥ 0x20)
        (Utf8.encodeChars ps ++ (escapedBytes qs ++ [0x22]) ++ rest) = Utf8.encodeChars ps := by
      rw [List.append_assoc]
      exact takeWhile_plain hPs (by simpa using hQ)
    rw [escapedBytes_append, escapedBytes_of_unescaped hPs, List.append_assoc, stringBytes]
    apply Reads.get_bind
    · intro inp i
      dsimp only
    rw [hTake]
    refine (reads_advance _ _).bind ?_
    cases qs with
    | nil =>
      have hValue : ((Utf8.encodeChars ps).reverse ++ acc).reverse =
          acc.reverse ++ Utf8.encodeChars (ps ++ []) := by simp
      rw [show escapedBytes [] ++ [0x22] = [] ++ ([0x22] ++ []) from rfl]
      refine (reads_peek _).bind ?_
      dsimp only [List.cons_append, List.nil_append, List.head?_cons]
      rw [hValue]
      exact (reads_bump _ _).bind (reads_pure _ _)
    | cons c qs =>
      have hLength : qs.length < fuel := by simp at hFuel; omega
      have hValue (X : Bytes) (hX : Utf8.encodeChar c = X) :
          (X.reverse ++ ((Utf8.encodeChars ps).reverse ++ acc)).reverse ++ Utf8.encodeChars qs =
            acc.reverse ++ Utf8.encodeChars (ps ++ c :: qs) := by
        simp [Utf8.encodeChars, hX]
      rcases escape_cases (hQs c rfl) with
        ⟨x, e, hBytes, hx, hSimple, hEnc⟩ | ⟨H, hBytes, hUni⟩
      · rw [show escapedBytes (c :: qs) ++ [0x22] =
            [] ++ ([0x5C] ++ ([x] ++ (escapedBytes qs ++ [0x22]))) by
          simp [escapedBytes, hBytes]]
        refine (reads_peek _).bind ?_
        dsimp only [List.cons_append, List.nil_append, List.head?_cons]
        refine (reads_bump _ _).bind ((reads_next x _).bind ?_)
        split
        · contradiction
        · rename_i hEq
          exact absurd (Option.some.inj hEq) hx
        · rename_i hEq
          cases Option.some.inj hEq
          rw [hSimple, ← hValue [e] hEnc]
          exact reads_stringBytes rest fuel qs _ hLength
      · rw [show escapedBytes (c :: qs) ++ [0x22] =
            [] ++ ([0x5C] ++ ([0x75] ++ (H ++ (escapedBytes qs ++ [0x22])))) by
          simp [escapedBytes, hBytes]]
        refine (reads_peek _).bind ?_
        dsimp only [List.cons_append, List.nil_append, List.head?_cons]
        rw [← hValue _ rfl]
        exact (reads_bump _ _).bind ((reads_next _ _).bind
          ((hUni _).bind (reads_stringBytes rest fuel qs _ hLength)))

theorem encodeChar_ne_nil (c : Char) : Utf8.encodeChar c ≠ [] := by
  unfold Utf8.encodeChar
  dsimp only
  split_ifs <;> simp

theorem length_le_escapedBytes (cs : List Char) : cs.length ≤ (escapedBytes cs).length := by
  induction cs with
  | nil => exact Nat.le_refl 0
  | cons c cs ih =>
    have hOne : 1 ≤ (Utf8.encode (escapeChar c)).length := by
      cases hc : unescaped c with
      | true =>
        rw [escapeChar_of_unescaped hc, Utf8.encode_singleton]
        exact List.length_pos_iff.mpr (encodeChar_ne_nil c)
      | false =>
        rcases escape_cases hc with ⟨x, e, hBytes, -⟩ | ⟨H, hBytes, -⟩ <;> simp [hBytes]
    rw [escapedBytes, List.flatMap_cons, ← escapedBytes, List.length_append, List.length_cons]
    omega

theorem reads_string (s : String) (rest : Bytes) :
    Reads string (escapedBytes s.toList ++ [0x22]) rest s := by
  have hFuel : s.toList.length < ((escapedBytes s.toList ++ [0x22]) ++ rest).length + 1 := by
    have := length_le_escapedBytes s.toList
    simp only [List.length_append, List.length_singleton]
    omega
  apply Reads.get_bind
  · intro inp i
    dsimp only
  refine (reads_stringBytes rest _ s.toList [] hFuel).bind_last ?_
  rw [List.reverse_nil, List.nil_append, ← Utf8.encode, Utf8.decode?_encode]
  exact reads_pure rest s

end Json

end RuleOverlay
