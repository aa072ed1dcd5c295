import Mathlib
import RuleOverlay.Proofs.Rejoin
import RuleOverlay.Config
/-! # Durations as text

`Duration.parse` reads a small grammar. The text is trimmed of blanks; then come ASCII digits
whose value fits 64 bits, and after them nothing, meaning seconds, or a unit that trims to `ms`,
`s` or `m`, minutes only while their seconds fit 64 bits (`parse_eq_some_iff`). The digits run
to the first character that is not one, and no unit starts with a digit, so a text splits one
way only.

`Duration.format` writes the largest unit that divides a duration, and its text reads back as
the duration exactly when the amount written fits 64 bits (`parse_format`): a whole number of
seconds, at most `2^64 - 1` of them, or at most `2^64 - 1` milliseconds (`Duration.Writable`).
A duration of more milliseconds than that which is not a whole number of seconds is written in
milliseconds, and `parse` refuses the amount.
-/
namespace RuleOverlay

namespace Duration

/-! ### Digits and their amount -/

theorem digitTest_eq (c : Char) : (decide ('0' ≤ c) && decide (c ≤ '9')) = c.isDigit := by
  simp [Char.isDigit, Char.le_def]

theorem isBlank_of_isDigit {c : Char} (h : c.isDigit = true) : Text.isBlank c = false := by
  have hRange : 48 ≤ c.toNat ∧ c.toNat ≤ 57 := by
    simp only [Char.isDigit, Bool.and_eq_true, decide_eq_true_eq] at h
    exact ⟨h.1, h.2⟩
  unfold Text.isBlank
  simp only [Bool.or_eq_false_iff, Bool.and_eq_false_iff, decide_eq_false_iff_not,
    beq_eq_false_iff_ne]
  omega

theorem foldl_digits (cs : List Char) :
    cs.foldl (fun acc c => acc * 10 + (c.toNat - 48)) 0 = Nat.ofDigitChars 10 cs 0 := by
  rw [Nat.ofDigitChars_eq_foldl]
  congr 1
  funext acc c
  rw [Nat.mul_comm]
  rfl

theorem amountOf_eq_some_iff {cs : List Char} {n : Nat} :
    amountOf cs = some n ↔ cs ≠ [] ∧ n = Nat.ofDigitChars 10 cs 0 ∧ n ≤ amountLimit := by
  unfold amountOf
  rw [foldl_digits]
  by_cases hEmpty : cs = []
  · simp [hEmpty]
  · simp only [List.isEmpty_iff, hEmpty, if_false, ne_eq, not_false_eq_true, true_and]
    split
    · constructor
      · rintro ⟨⟩
        exact ⟨rfl, ‹_›⟩
      · rintro ⟨rfl, -⟩
        rfl
    · simp only [reduceCtorEq, false_iff, not_and]
      rintro rfl
      assumption

theorem amountOf_toDigits (n : Nat) :
    amountOf (Nat.toDigits 10 n) = if n ≤ amountLimit then some n else none := by
  split
  · exact amountOf_eq_some_iff.mpr
      ⟨Nat.toDigits_ne_nil, Nat.ofDigitChars_ten_toDigits.symm, ‹_›⟩
  · rename_i hBig
    cases h : amountOf (Nat.toDigits 10 n) with
    | none => rfl
    | some m =>
      obtain ⟨-, hm, hLe⟩ := amountOf_eq_some_iff.mp h
      rw [Nat.ofDigitChars_ten_toDigits] at hm
      exact absurd (hm ▸ hLe) hBig

/-! ### Splitting a text after its digits -/

variable {D U : List Char}

theorem takeWhile_digits (hD : ∀ c ∈ D, c.isDigit) (hU : ∀ c ∈ U.head?, c.isDigit = false) :
    (D ++ U).takeWhile (fun c => decide ('0' ≤ c) && decide (c ≤ '9')) = D := by
  simp only [digitTest_eq]
  rw [List.takeWhile_append_of_pos hD]
  cases U with
  | nil => simp
  | cons c r => simp [List.takeWhile_cons_of_neg, hU c rfl]

theorem exists_split (cs : List Char) :
    ∃ D U, cs = D ++ U ∧ (∀ c ∈ D, c.isDigit) ∧ ∀ c ∈ U.head?, c.isDigit = false := by
  refine ⟨cs.takeWhile Char.isDigit, cs.dropWhile Char.isDigit,
    (List.takeWhile_append_dropWhile).symm, fun c hc => List.mem_takeWhile_imp hc, ?_⟩
  intro c hc
  have hNot := List.head?_dropWhile_not Char.isDigit cs
  rwa [Option.mem_def.mp hc] at hNot

theorem trim_head {c : Char} {r : List Char} (hc : Text.isBlank c = false) :
    (Text.trim (String.ofList (c :: r))).toList.head? = some c := by
  set m := Text.dropBlanks (c :: r)
  have hm : m = c :: r := PathStyle.dropBlanks_of_head hc
  have hPre : (Text.dropBlanks m.reverse).reverse <+: m := by
    rw [← List.reverse_suffix, List.reverse_reverse]
    exact List.dropWhile_suffix _
  have hNe : Text.dropBlanks m.reverse ≠ [] := by
    rw [hm, List.reverse_cons]
    intro hNil
    have hAll := List.dropWhile_eq_nil_iff.mp hNil c (by simp)
    rw [hc] at hAll
    exact Bool.false_ne_true hAll
  obtain ⟨t, ht⟩ := hPre
  rw [Text.trim, String.toList_ofList, String.toList_ofList]
  have hHead : ((Text.dropBlanks m.reverse).reverse ++ t).head? = some c := by
    rw [ht, hm]
    rfl
  rwa [List.head?_append_of_ne_nil _ (List.reverse_ne_nil_iff.mpr hNe)] at hHead

/-- What the digits' amount `n` becomes after the text `U` that follows them: nothing is
seconds, and a text that trims to `ms`, `s` or `m` is milliseconds, seconds or minutes, minutes
only while their seconds fit 64 bits. -/
def UnitReads (n : Nat) (U : List Char) (d : Duration) : Prop :=
  U = [] ∧ d = ofSecs n ∨
    Text.trim (String.ofList U) = "ms" ∧ d = ⟨n⟩ ∨
    Text.trim (String.ofList U) = "s" ∧ d = ofSecs n ∨
    Text.trim (String.ofList U) = "m" ∧ n * 60 ≤ amountLimit ∧ d = ofSecs (n * 60)

theorem UnitReads.head {n : Nat} {d : Duration} (h : UnitReads n U d) :
    ∀ c ∈ U.head?, c.isDigit = false := by
  intro c hc
  cases U with
  | nil => cases hc
  | cons c' r =>
    cases Option.some.inj hc
    by_contra hDigit
    rw [Bool.not_eq_false] at hDigit
    have hHead := trim_head (r := r) (isBlank_of_isDigit hDigit)
    rcases h with ⟨hNil, -⟩ | ⟨hu, -⟩ | ⟨hu, -⟩ | ⟨hu, -⟩
    · cases hNil
    all_goals
      rw [hu] at hHead
      cases Option.some.inj hHead
      exact absurd hDigit (by decide)

/-- `parse` on a text that trims to digits and a rest that does not start with one: the amount
of the digits, as the rest reads it. -/
theorem parse_eq_some_iff_of_split {s : String} (hs : (Text.trim s).toList = D ++ U)
    (hD : ∀ c ∈ D, c.isDigit) (hU : ∀ c ∈ U.head?, c.isDigit = false) (d : Duration) :
    parse s = some d ↔ ∃ n, amountOf D = some n ∧ UnitReads n U d := by
  have hDrop : (D ++ U).drop D.length = U := List.drop_left
  unfold parse
  simp only [hs, takeWhile_digits hD hU, hDrop, List.length_append, beq_iff_eq,
    Nat.left_eq_add, List.length_eq_zero_iff, Option.bind_eq_some_iff]
  refine exists_congr fun n => and_congr_right fun _ => ?_
  by_cases hNil : U = []
  · rw [if_pos hNil]
    have hEmpty : Text.trim (String.ofList []) = "" := by decide
    show some (ofSecs n) = some d ↔ _
    simp +decide [UnitReads, hNil, hEmpty, eq_comm]
  · rw [if_neg hNil]
    simp only [UnitReads, hNil, false_and, false_or]
    split <;> rename_i hUnit
    · simp +decide [hUnit, eq_comm]
    · simp +decide [hUnit, eq_comm]
    · simp +decide [hUnit, eq_comm]
    · simp_all

/-! ### The grammar -/

/-- `parse` reads a text exactly when, trimmed, it is ASCII digits whose value fits 64 bits
followed by nothing or by a unit that trims to `ms`, `s` or `m`; the duration is that many
milliseconds, seconds or minutes, and minutes are read only while their seconds fit 64 bits. -/
theorem parse_eq_some_iff (s : String) (d : Duration) :
    parse s = some d ↔
      ∃ D U : List Char, (Text.trim s).toList = D ++ U ∧ D ≠ [] ∧ (∀ c ∈ D, c.isDigit) ∧
        Nat.ofDigitChars 10 D 0 ≤ amountLimit ∧ UnitReads (Nat.ofDigitChars 10 D 0) U d := by
  constructor
  · intro h
    obtain ⟨D, U, hs, hD, hU⟩ := exists_split (Text.trim s).toList
    obtain ⟨n, hn, hUnit⟩ := (parse_eq_some_iff_of_split hs hD hU d).mp h
    obtain ⟨hne, rfl, hLe⟩ := amountOf_eq_some_iff.mp hn
    exact ⟨D, U, hs, hne, hD, hLe, hUnit⟩
  · rintro ⟨D, U, hs, hne, hD, hLe, hUnit⟩
    exact (parse_eq_some_iff_of_split hs hD hUnit.head d).mpr
      ⟨_, amountOf_eq_some_iff.mpr ⟨hne, rfl, hLe⟩, hUnit⟩

example : parse " 12 ms" = some ⟨12⟩ := by decide
example : parse "5h" = none := by decide

/-! ### Reading back what `format` writes -/

/-- The text of an amount followed by a unit that starts with no digit and ends with no blank:
`parse` reads the amount, if it fits 64 bits, in that unit. -/
theorem parse_toString_append (k : Nat) {u : String}
    (hHead : ∀ c ∈ u.toList.head?, c.isDigit = false)
    (hLast : ∀ c ∈ u.toList.getLast?, Text.isBlank c = false) (hNe : u ≠ "") (d : Duration) :
    parse (toString k ++ u) = some d ↔ k ≤ amountLimit ∧ UnitReads k u.toList d := by
  have hText : (toString k ++ u).toList = Nat.toDigits 10 k ++ u.toList := by
    rw [String.toList_append, Nat.toString_eq_repr, Nat.toList_repr]
  have hDigits : ∀ c ∈ Nat.toDigits 10 k, c.isDigit :=
    fun c hc => Nat.isDigit_of_mem_toDigits (by decide) (by decide) hc
  have hTrim : Text.trim (toString k ++ u) = toString k ++ u := by
    apply PathStyle.trim_of_ends
    · intro c hc
      rw [hText, List.head?_append_of_ne_nil _ Nat.toDigits_ne_nil] at hc
      exact isBlank_of_isDigit (hDigits c (List.mem_of_mem_head? hc))
    · intro c hc
      rw [hText, List.getLast?_append_of_ne_nil _ (by simpa using hNe)] at hc
      exact hLast c hc
  rw [parse_eq_some_iff_of_split (by rw [hTrim, hText]) hDigits hHead, amountOf_toDigits]
  constructor
  · rintro ⟨n, hn, hUnit⟩
    split at hn
    · cases hn
      exact ⟨‹_›, hUnit⟩
    · cases hn
  · rintro ⟨hLe, hUnit⟩
    exact ⟨k, if_pos hLe, hUnit⟩

theorem parse_millisText (k : Nat) :
    parse (toString k ++ "ms") = if k ≤ amountLimit then some ⟨k⟩ else none := by
  refine Option.ext fun d => ?_
  rw [parse_toString_append k (by simp) (by simp; decide) (by decide)]
  split <;> simp +decide [UnitReads, *, eq_comm]

theorem parse_secsText (k : Nat) :
    parse (toString k ++ "s") = if k ≤ amountLimit then some (ofSecs k) else none := by
  refine Option.ext fun d => ?_
  rw [parse_toString_append k (by simp) (by simp; decide) (by decide)]
  split <;> simp +decide [UnitReads, *, eq_comm]

theorem parse_minsText (k : Nat) :
    parse (toString k ++ "m") = if k * 60 ≤ amountLimit then some (ofSecs (k * 60)) else none := by
  refine Option.ext fun d => ?_
  rw [parse_toString_append k (by simp) (by simp; decide) (by decide)]
  by_cases h : k * 60 ≤ amountLimit
  · have hk : k ≤ amountLimit := by omega
    simp +decide [UnitReads, h, hk, eq_comm]
  · simp +decide [UnitReads, h]

/-- A duration whose written text reads back: a whole number of seconds, at most `2^64 - 1` of
them, or at most `2^64 - 1` milliseconds. -/
def Writable (d : Duration) : Prop :=
  (d.millis % 1000 = 0 ∧ d.millis / 1000 ≤ amountLimit) ∨ d.millis ≤ amountLimit

instance : DecidablePred Writable := fun _ => inferInstanceAs (Decidable (_ ∨ _))

theorem parse_format (d : Duration) : parse d.format = if d.Writable then some d else none := by
  obtain ⟨m⟩ := d
  unfold format
  split
  · rename_i hMin
    simp only [Bool.and_eq_true, beq_iff_eq, decide_eq_true_eq] at hMin
    have hEq : ofSecs (m / 60000 * 60) = ⟨m⟩ := by
      rw [ofSecs, Duration.mk.injEq]
      omega
    have hIff : m / 60000 * 60 ≤ amountLimit ↔ Writable ⟨m⟩ := by
      simp only [Writable]
      omega
    rw [parse_minsText, hEq]
    simp only [hIff]
  · split
    · rename_i hSec
      simp only [beq_iff_eq] at hSec
      have hEq : ofSecs (m / 1000) = ⟨m⟩ := by
        rw [ofSecs, Duration.mk.injEq]
        omega
      have hIff : m / 1000 ≤ amountLimit ↔ Writable ⟨m⟩ := by
        simp only [Writable]
        omega
      rw [parse_secsText, hEq]
      simp only [hIff]
    · rename_i hSec
      simp only [beq_iff_eq] at hSec
      have hIff : m ≤ amountLimit ↔ Writable ⟨m⟩ := by
        simp only [Writable]
        omega
      rw [parse_millisText]
      simp only [hIff]

end Duration

end RuleOverlay
