import Mathlib
import RuleOverlay.Proofs.DurationText
import RuleOverlay.Time.Timestamp
/-! # Calendar dates and the text of a timestamp

`civilFromDays` and `daysFromCivil` count days in eras of 400 years (146097 days), each year of
an era running from March to February so that a leap day ends its year. A day of an era splits
into a year of the era and a day of that year (`yearOfEra_bounds`), and a day of a year into a
month and a day of the month (`monthOfYear_bounds`). So every count of days names a date of the
calendar, and that date counts back to it (`civilFromDays_spec`).

`render` writes that date and the time of day field by field, and `parse` reads each field back
from the digits it was written with (`number_digits`). A timestamp whose date falls within the
years a date may have, whose nanoseconds stay below two seconds and whose leap second ends its
minute reads back as itself (`parse_render`).
-/
namespace RuleOverlay

namespace Timestamp

/-! ### Eras, years and months -/

theorem isLeap_iff (y : Int) : isLeap y = true ↔ (y % 4 = 0 ∧ y % 100 ≠ 0) ∨ y % 400 = 0 := by
  simp [isLeap]

theorem isLeap_add_era (era y : Int) : isLeap (era * 400 + y) = isLeap y := by
  apply Bool.eq_iff_iff.mpr
  rw [isLeap_iff, isLeap_iff]
  omega

theorem monthLength_le (y : Int) (m : Nat) : monthLength y m ≤ 31 := by
  unfold monthLength
  split
  · split <;> omega
  all_goals omega

/-- A day within one of the first three centuries of an era, `c` centuries, `q` four-year cycles
and `u` days in: its year of the era and its day of that year, which is the leap day only at the
end of a leap year. -/
theorem yearOfEra_century {c q u : Int} (hc0 : 0 ≤ c) (hc : c ≤ 3) (hq0 : 0 ≤ q) (hq : q ≤ 24)
    (hu0 : 0 ≤ u) (hu : u ≤ 1460) (hLast : q = 24 → u ≤ 1459) :
    let doe := 36524 * c + 1461 * q + u
    let yoe := (doe - doe / 1460 + doe / 36524 - doe / 146096) / 365
    let doy := doe - (365 * yoe + yoe / 4 - yoe / 100)
    0 ≤ yoe ∧ yoe ≤ 399 ∧ 0 ≤ doy ∧ (doy ≤ 364 ∨ (doy = 365 ∧ isLeap (yoe + 1))) := by
  intro doe yoe doy
  have hCentury : doe / 36524 = c := by omega
  have hEra : doe / 146096 = 0 := by omega
  obtain ⟨δ, hδ, hδ1⟩ : ∃ δ, doe / 1460 = 25 * c + q + δ ∧
      (δ = 0 ∨ (δ = 1 ∧ 1460 ≤ 24 * c + q + u)) :=
    ⟨doe / 1460 - 25 * c - q, by omega, by omega⟩
  obtain ⟨j, hYear, hj0, hj3, hjLow, hjHigh⟩ : ∃ j, yoe = 100 * c + 4 * q + j ∧ 0 ≤ j ∧ j ≤ 3 ∧
      365 * j ≤ u - δ ∧ u - δ < 365 * j + 365 :=
    ⟨yoe - 100 * c - 4 * q, by omega, by omega, by omega, by omega, by omega⟩
  have hFour : yoe / 4 = 25 * c + q := by omega
  have hHundred : yoe / 100 = c := by omega
  have hDay : doy = u - 365 * j := by omega
  refine ⟨by omega, by omega, by omega, ?_⟩
  rcases Int.lt_or_le (u - 365 * j) 365 with hShort | hLong
  · exact .inl (by omega)
  · have hj : j = 3 := by omega
    refine .inr ⟨by omega, (isLeap_iff _).mpr ?_⟩
    omega

/-- Every day of an era splits into a year of the era and a day of that year; the 366th day of
a year falls in a leap year only. -/
theorem yearOfEra_bounds {doe : Int} (h0 : 0 ≤ doe) (h1 : doe < 146097) :
    let yoe := (doe - doe / 1460 + doe / 36524 - doe / 146096) / 365
    let doy := doe - (365 * yoe + yoe / 4 - yoe / 100)
    0 ≤ yoe ∧ yoe ≤ 399 ∧ 0 ≤ doy ∧ (doy ≤ 364 ∨ (doy = 365 ∧ isLeap (yoe + 1))) := by
  rcases Int.lt_or_le doe 146096 with hInner | hLastDay
  · have hSplit := @yearOfEra_century (doe / 36524) (doe % 36524 / 1461) (doe % 36524 % 1461)
      (by omega) (by omega) (by omega) (by omega) (by omega) (by omega) (by omega)
    have hDoe : 36524 * (doe / 36524) + 1461 * (doe % 36524 / 1461) + doe % 36524 % 1461 = doe :=
      by omega
    rwa [hDoe] at hSplit
  · obtain rfl : doe = 146096 := by omega
    decide

/-- Every day of a year from March splits into a month and a day of it: `mp` months from March,
and a day within the length of that month. -/
theorem monthOfYear_bounds {doy : Int} (h0 : 0 ≤ doy) (h1 : doy ≤ 365) :
    let mp := (5 * doy + 2) / 153
    let d := doy - (153 * mp + 2) / 5 + 1
    0 ≤ mp ∧ mp ≤ 11 ∧ 1 ≤ d ∧ d ≤ 31 ∧ (153 * mp + 2) / 5 + d - 1 = doy ∧
      (mp = 1 ∨ mp = 3 ∨ mp = 6 ∨ mp = 8 → d ≤ 30) ∧ (mp = 11 → d ≤ 28 ∨ doy = 365) := by
  intro mp d
  have hmp : 0 ≤ mp ∧ mp ≤ 11 := by omega
  exact ⟨hmp.1, hmp.2, by omega, by omega, by omega, by omega, by omega⟩


/-- What `civilFromDays` computes: the era of a day, its year of the era, its day of that year
and the month from March that day falls in. -/
theorem civilFromDays_eq (z : Int) : ∃ era yoe doy : Int,
    z + 719468 = era * 146097 + (365 * yoe + yoe / 4 - yoe / 100 + doy) ∧ 0 ≤ yoe ∧ yoe ≤ 399 ∧
      0 ≤ doy ∧ (doy ≤ 364 ∨ (doy = 365 ∧ isLeap (yoe + 1))) ∧
      civilFromDays z =
        (if (5 * doy + 2) / 153 < 10 then era * 400 + yoe else era * 400 + yoe + 1,
          (if (5 * doy + 2) / 153 < 10 then (5 * doy + 2) / 153 + 3
            else (5 * doy + 2) / 153 - 9).toNat,
          (doy - (153 * ((5 * doy + 2) / 153) + 2) / 5 + 1).toNat) := by
  simp only [civilFromDays]
  set era := (z + 719468) / 146097
  set doe := z + 719468 - era * 146097
  have hDoe : 0 ≤ doe ∧ doe < 146097 := by omega
  obtain ⟨hy0, hy399, hd0, hLeapDay⟩ := yearOfEra_bounds hDoe.1 hDoe.2
  set yoe := (doe - doe / 1460 + doe / 36524 - doe / 146096) / 365
  set doy := doe - (365 * yoe + yoe / 4 - yoe / 100)
  refine ⟨era, yoe, doy, by omega, hy0, hy399, hd0, hLeapDay, ?_⟩
  have hd365 : doy ≤ 365 := by rcases hLeapDay with h | h <;> omega
  congr 1
  split_ifs <;> omega

/-- Every count of days names a date of the calendar, a month and a day within its length, and
that date counts back to the days. -/
theorem civilFromDays_spec (z : Int) :
    1 ≤ (civilFromDays z).2.1 ∧ (civilFromDays z).2.1 ≤ 12 ∧ 1 ≤ (civilFromDays z).2.2 ∧
      (civilFromDays z).2.2 ≤ monthLength (civilFromDays z).1 (civilFromDays z).2.1 ∧
      daysFromCivil (civilFromDays z).1 (civilFromDays z).2.1 (civilFromDays z).2.2 = z := by
  obtain ⟨era, yoe, doy, hz, hy0, hy399, hd0, hLeapDay, hCivil⟩ := civilFromDays_eq z
  have hd365 : doy ≤ 365 := by rcases hLeapDay with h | h <;> omega
  obtain ⟨hmp0, hmp11, hd1, hd31, hBack, h30, hFeb⟩ := monthOfYear_bounds hd0 hd365
  rw [hCivil]
  generalize (5 * doy + 2) / 153 = mp at *
  rcases (by omega : mp < 11 ∨ mp = 11) with hMonth | rfl
  · interval_cases mp <;> simp [monthLength, daysFromCivil] <;> omega
  · simp [monthLength, daysFromCivil]
    rw [show era * 400 + yoe + 1 = era * 400 + (yoe + 1) by ring, isLeap_add_era]
    rcases hLeapDay with hShort | ⟨rfl, hLeap⟩
    · split <;> omega
    · rw [if_pos hLeap]
      omega


/-! ### Reading the digits of a field -/

theorem number_digits {ds rest : List Char} {lo hi : Nat} (hDigits : ∀ c ∈ ds, c.isDigit)
    (hlo : lo ≤ ds.length) (hhi : ds.length ≤ hi)
    (hRest : ∀ c ∈ rest.head?, c.isDigit = false) :
    number (ds ++ rest) lo hi = .ok (Nat.ofDigitChars 10 ds 0, rest) := by
  have hRun : ((ds ++ rest).take hi).takeWhile Char.isDigit = ds := by
    rw [List.take_append, List.take_of_length_le hhi,
      List.takeWhile_append_of_pos hDigits]
    cases rest with
    | nil => simp
    | cons c r =>
      cases hi - ds.length with
      | zero => simp
      | succ k => simp [List.takeWhile_cons_of_neg, hRest c rfl]
  unfold number
  rw [if_neg (by simp; omega), hRun, if_neg (by omega), List.drop_left, ← Duration.foldl_digits]

theorem ofNat_digit {k : Nat} (hk : k < 10) : Char.ofNat (48 + k) = k.digitChar := by
  interval_cases k <;> rfl

theorem twoDigits_spec {n : Nat} (hn : n < 100) :
    (∀ c ∈ (twoDigits n).toList, c.isDigit) ∧ (twoDigits n).toList.length = 2 ∧
      Nat.ofDigitChars 10 (twoDigits n).toList 0 = n := by
  have hTens : n / 10 % 10 < 10 := Nat.mod_lt _ (by decide)
  have hOnes : n % 10 < 10 := Nat.mod_lt _ (by decide)
  simp only [twoDigits, String.toList_ofList, ofNat_digit hTens, ofNat_digit hOnes]
  refine ⟨?_, rfl, ?_⟩
  · intro c hc
    simp only [List.mem_cons, List.not_mem_nil, or_false] at hc
    rcases hc with rfl | rfl <;> simp [Nat.isDigit_digitChar, hTens, hOnes]
  · rw [Nat.ofDigitChars_cons_digitChar_of_lt_ten hTens,
      Nat.ofDigitChars_cons_digitChar_of_lt_ten hOnes, Nat.ofDigitChars_nil]
    omega

theorem padded_spec (width n : Nat) :
    (∀ c ∈ (padded width n).toList, c.isDigit) ∧
      (padded width n).toList.length = max width (Nat.toDigits 10 n).length ∧
      Nat.ofDigitChars 10 (padded width n).toList 0 = n := by
  simp only [padded, String.toList_ofList]
  refine ⟨?_, by simp; omega, ?_⟩
  · intro c hc
    rcases List.mem_append.mp hc with hZero | hDigit
    · rw [List.eq_of_mem_replicate hZero]
      rfl
    · exact Nat.isDigit_of_mem_toDigits (by decide) (by decide) hDigit
  · rw [Nat.ofDigitChars_append, Nat.ofDigitChars_replicate_zero, Nat.mul_zero,
      Nat.ofDigitChars_ten_toDigits]

/-- The year `render` writes reads back: four digits for a year from 0 to 9999, and a sign and
the digits of its size for any other year of fewer than seven digits. -/
theorem yearField_render {y : Int} (hy : y.natAbs < 1000000) {rest : List Char}
    (hRest : ∀ c ∈ rest.head?, c.isDigit = false) :
    yearField (Text.dropBlanks ((if 0 ≤ y ∧ y ≤ 9999 then padded 4 y.toNat
      else (if y < 0 then "-" else "+") ++ padded 4 y.natAbs).toList ++ rest)) = .ok (y, rest) := by
  split_ifs with hSmall hNeg
  · obtain ⟨hDigits, hLength, hValue⟩ := padded_spec 4 y.toNat
    have hShort : (Nat.toDigits 10 y.toNat).length ≤ 4 :=
      (Nat.length_toDigits_le_iff (by decide) (by decide)).mpr (by omega)
    obtain ⟨c, cs, hcs⟩ : ∃ c cs, (padded 4 y.toNat).toList = c :: cs :=
      List.exists_cons_of_length_pos (by omega)
    have hc : c.isDigit := hDigits c (by rw [hcs]; exact List.mem_cons_self)
    have hNumber : number ((padded 4 y.toNat).toList ++ rest) 1 4 = .ok (y.toNat, rest) := by
      rw [number_digits hDigits (by omega) (by omega) hRest, hValue]
    rw [hcs, List.cons_append, PathStyle.dropBlanks_of_head (Duration.isBlank_of_isDigit hc),
      ← List.cons_append, ← hcs]
    unfold yearField
    rw [hcs] at hNumber ⊢
    split
    · rename_i hMinus
      simp only [List.cons_append, List.cons.injEq] at hMinus
      rw [hMinus.1] at hc
      exact absurd hc (by decide)
    · rename_i hPlus
      simp only [List.cons_append, List.cons.injEq] at hPlus
      rw [hPlus.1] at hc
      exact absurd hc (by decide)
    · rw [hNumber]
      simp only [bind, Except.bind, pure, Except.pure, Except.ok.injEq, Prod.mk.injEq, and_true]
      omega
  all_goals
    obtain ⟨hDigits, hLength, hValue⟩ := padded_spec 4 y.natAbs
    have hShort : (Nat.toDigits 10 y.natAbs).length ≤ 6 :=
      (Nat.length_toDigits_le_iff (by decide) (by decide)).mpr (by omega)
    have hNumber : number ((padded 4 y.natAbs).toList ++ rest) 1 1000 = .ok (y.natAbs, rest) := by
      rw [number_digits hDigits (by omega) (by omega) hRest, hValue]
    simp only [String.toList_append, List.append_assoc, show "-".toList = ['-'] from rfl,
      show "+".toList = ['+'] from rfl, List.cons_append]
    rw [PathStyle.dropBlanks_of_head (by decide)]
  · unfold yearField
    simp only [List.nil_append]
    rw [hNumber]
    simp only [bind, Except.bind, pure, Except.pure, Except.ok.injEq, Prod.mk.injEq, and_true]
    omega
  · unfold yearField
    simp only [List.nil_append]
    rw [hNumber]
    simp only [bind, Except.bind, pure, Except.pure, Except.ok.injEq, Prod.mk.injEq, and_true]
    omega

theorem number_twoDigits {n : Nat} (hn : n < 100) {rest : List Char}
    (hRest : ∀ c ∈ rest.head?, c.isDigit = false) :
    number (Text.dropBlanks ((twoDigits n).toList ++ rest)) 1 2 = .ok (n, rest) := by
  obtain ⟨hDigits, hLength, hValue⟩ := twoDigits_spec hn
  obtain ⟨c, cs, hcs⟩ : ∃ c cs, (twoDigits n).toList = c :: cs :=
    List.exists_cons_of_length_pos (by omega)
  have hc : c.isDigit := hDigits c (by rw [hcs]; exact List.mem_cons_self)
  have hBlanks : Text.dropBlanks ((twoDigits n).toList ++ rest) = (twoDigits n).toList ++ rest := by
    rw [hcs, List.cons_append]
    exact PathStyle.dropBlanks_of_head (Duration.isBlank_of_isDigit hc)
  rw [hBlanks, number_digits hDigits (by omega) (by omega) hRest, hValue]

theorem separatedField_twoDigits {sep : Char} (hSep : Text.isBlank sep = false) {lo hi n : Nat}
    (hn : n < 100) (hlo : lo ≤ n) (hhi : n ≤ hi) {rest : List Char}
    (hRest : ∀ c ∈ rest.head?, c.isDigit = false) :
    separatedField sep lo hi (sep :: ((twoDigits n).toList ++ rest)) = .ok (n, rest) := by
  have hLiteral : literal sep (sep :: ((twoDigits n).toList ++ rest)) =
      .ok ((twoDigits n).toList ++ rest) := by
    simp [literal]
  unfold separatedField
  rw [PathStyle.dropBlanks_of_head hSep]
  simp only [hLiteral, number_twoDigits hn hRest, bind, Except.bind, pure, Except.pure]
  rw [if_neg (by simp; omega)]

theorem fraction_padded {k v : Nat} (hk : 1 ≤ k) (hk9 : k ≤ 9) (hv : v < 10 ^ k)
    {rest : List Char} (hRest : ∀ c ∈ rest.head?, c.isDigit = false) :
    fraction ((padded k v).toList ++ rest) = .ok (v * 10 ^ (9 - k), rest) := by
  obtain ⟨hDigits, hLength, hValue⟩ := padded_spec k v
  have hShort : (Nat.toDigits 10 v).length ≤ k :=
    (Nat.length_toDigits_le_iff (by decide) (by omega)).mpr hv
  have hk' : (padded k v).toList.length = k := by omega
  have hNext : rest.dropWhile Char.isDigit = rest := by
    cases rest with
    | nil => rfl
    | cons c r => simp [hRest c rfl]
  have hNumber : number ((padded k v).toList ++ rest) 1 9 = .ok (v, rest) := by
    rw [number_digits hDigits (by omega) (by omega) hRest, hValue]
  simp [fraction, hNumber, hNext, hk', bind, Except.bind, pure, Except.pure, Nat.pow_eq]

/-- The fraction of a second `render` writes: nothing for whole seconds, else a point and
three, six or nine digits worth the nanoseconds. -/
theorem fractionText_cases {nanos : Nat} (h : nanos < 1000000000) :
    (nanos = 0 ∧ fractionText nanos = "") ∨
      ∃ k v, fractionText nanos = "." ++ padded k v ∧ 1 ≤ k ∧ k ≤ 9 ∧ v < 10 ^ k ∧
        v * 10 ^ (9 - k) = nanos := by
  unfold fractionText
  split_ifs with hZero hMillis hMicros
  · exact .inl ⟨hZero, rfl⟩
  · exact .inr ⟨3, nanos / 1000000, rfl, by decide, by decide, by omega, by omega⟩
  · exact .inr ⟨6, nanos / 1000, rfl, by decide, by decide, by omega, by omega⟩
  · exact .inr ⟨9, nanos, rfl, by decide, by decide, by omega, by omega⟩

/-! ### Reading a rendered timestamp -/

/-- A timestamp `render` writes in full: its date falls within the years a date may have, its
nanoseconds stay below two seconds, and a leap second ends its minute. -/
structure Valid (t : Timestamp) : Prop where
  year_ge : minYear ≤ (civilFromDays (t.seconds / 86400)).1
  year_le : (civilFromDays (t.seconds / 86400)).1 ≤ maxYear
  nanos_lt : t.nanos < 2000000000
  leap_second : 1000000000 ≤ t.nanos → t.seconds % 60 = 59

/-- The second and the nanoseconds `render` writes: a leap second as second 60, which reading
takes back to second 59 and a billion nanoseconds more. -/
theorem leapSecond_written {t : Timestamp} (h : t.Valid) :
    ∃ sec nanos extra, (if t.nanos ≥ 1000000000 then
        ((t.seconds % 86400).toNat % 60 + 1, t.nanos - 1000000000)
      else ((t.seconds % 86400).toNat % 60, t.nanos)) = (sec, nanos) ∧ sec ≤ 60 ∧
      nanos < 1000000000 ∧
      (if sec = 60 then (59, 1000000000) else (sec, 0)) = ((t.seconds % 86400).toNat % 60, extra) ∧
      nanos + extra = t.nanos := by
  by_cases hLeap : t.nanos ≥ 1000000000
  · have hMinute := h.leap_second hLeap
    have hsec : (t.seconds % 86400).toNat % 60 = 59 := by omega
    refine ⟨60, t.nanos - 1000000000, 1000000000, by rw [if_pos hLeap, hsec], le_refl _, ?_, ?_,
      by omega⟩
    · have := h.nanos_lt
      omega
    · rw [if_pos rfl, hsec]
  · have hsec : (t.seconds % 86400).toNat % 60 < 60 := Nat.mod_lt _ (by decide)
    refine ⟨(t.seconds % 86400).toNat % 60, t.nanos, 0, by rw [if_neg hLeap], by omega, by omega,
      ?_, rfl⟩
    rw [if_neg (by omega)]

theorem fields_written (y : Int) (m d hour minute sec nanos : Nat) (hy : y.natAbs < 1000000)
    (hm : 1 ≤ m ∧ m ≤ 12) (hd : 1 ≤ d ∧ d ≤ 31) (hHour : hour ≤ 23) (hMinute : minute ≤ 59)
    (hSec : sec ≤ 60) (hNanos : nanos < 1000000000) :
    fields ((if 0 ≤ y ∧ y ≤ 9999 then padded 4 y.toNat
      else (if y < 0 then "-" else "+") ++ padded 4 y.natAbs).toList ++ '-' ::
        ((twoDigits m).toList ++ '-' :: ((twoDigits d).toList ++ 'T' ::
          ((twoDigits hour).toList ++ ':' :: ((twoDigits minute).toList ++ ':' ::
            ((twoDigits sec).toList ++ ((fractionText nanos).toList ++ ['Z']))))))) =
      .ok (⟨y, m, d, hour, minute, sec, nanos, 0⟩, []) := by
  have hNotDigit : ∀ c : Char, c = '-' ∨ c = 'T' ∨ c = ':' ∨ c = '.' ∨ c = 'Z' →
      c.isDigit = false := by
    rintro c (rfl | rfl | rfl | rfl | rfl) <;> rfl
  have hZone : Text.dropBlanks ['Z'] = ['Z'] := PathStyle.dropBlanks_of_head (by decide)
  rcases fractionText_cases hNanos with ⟨rfl, hF⟩ | ⟨k, v, hF, hk1, hk9, hv, hValue⟩
  all_goals
    rw [hF]
    simp only [String.toList_append, show "".toList = [] from rfl,
      show ".".toList = ['.'] from rfl, List.nil_append, List.cons_append]
    unfold fields
    rw [yearField_render hy (by simp [hNotDigit])]
    simp only [bind, Except.bind, pure, Except.pure]
    rw [if_neg (by simp; omega), separatedField_twoDigits (by decide) (by omega) hm.1 hm.2
      (by simp [hNotDigit])]
    simp only []
    rw [separatedField_twoDigits (by decide) (by omega) hd.1 hd.2 (by simp [hNotDigit])]
    simp only []
    rw [number_twoDigits (by omega) (by simp [hNotDigit])]
    simp only []
    rw [if_neg (by omega), separatedField_twoDigits (by decide) (by omega) (Nat.zero_le _) hMinute
      (by simp [hNotDigit])]
    simp only []
    rw [separatedField_twoDigits (by decide) (by omega) (Nat.zero_le _) hSec (by simp [hNotDigit])]
    simp only []
  · rw [hZone]
    rfl
  · rw [fraction_padded hk1 hk9 hv (by simp [hNotDigit]), hValue]
    simp only []
    rw [hZone]
    rfl

theorem parse_render {t : Timestamp} (h : t.Valid) : parse t.render = .ok t := by
  obtain ⟨hm1, hm12, hd1, hdLength, hBack⟩ := civilFromDays_spec (t.seconds / 86400)
  have hYears := And.intro h.year_ge h.year_le
  generalize hDate : civilFromDays (t.seconds / 86400) = date at hm1 hm12 hd1 hdLength hBack hYears
  obtain ⟨y, m, d⟩ := date
  simp only at hm1 hm12 hd1 hdLength hBack hYears
  obtain ⟨sec, nanos, extra, hPair, hsec, hnanos, hSecond, hExtra⟩ := leapSecond_written h
  have hSecs : (t.seconds % 86400).toNat < 86400 := by omega
  have hRead := fields_written y m d ((t.seconds % 86400).toNat / 3600)
    ((t.seconds % 86400).toNat / 60 % 60) sec nanos (by unfold minYear maxYear at hYears; omega) ⟨hm1, hm12⟩
    ⟨hd1, hdLength.trans (monthLength_le y m)⟩ (by omega) (by omega) hsec
    hnanos
  unfold parse render
  simp only [hDate]
  rw [hPair]
  simp only [String.toList_append, List.append_assoc, show "-".toList = ['-'] from rfl,
    show "T".toList = ['T'] from rfl, show ":".toList = [':'] from rfl,
    show "Z".toList = ['Z'] from rfl, List.cons_append, List.nil_append]
  rw [hRead]
  simp only [bind, Except.bind, show Text.dropBlanks [] = [] from rfl, List.isEmpty_nil,
    Bool.not_true, Bool.false_eq_true, if_false]
  unfold Fields.toTimestamp
  simp only
  rw [if_neg (by unfold minYear maxYear at hYears ⊢; simp; omega), hSecond]
  simp only
  have hWall : daysFromCivil y m d * 86400 + ↑((t.seconds % 86400).toNat / 3600) * 3600 +
      ↑((t.seconds % 86400).toNat / 60 % 60) * 60 + ↑((t.seconds % 86400).toNat % 60) - 0 =
      t.seconds := by
    rw [hBack]
    omega
  rw [hWall, hDate, if_neg (by simp), if_neg (by unfold minYear maxYear at hYears ⊢; simp; omega),
    hExtra]

end Timestamp

end RuleOverlay
