import Mathlib
import RuleOverlay.Proofs.Lexemes
import RuleOverlay.Proofs.Places
/-! # Reading back a printed value

`parse` reads the compact text of a value back as the value itself (`parse_toBytes`) when three
things hold of it. Its numbers are integers the reader keeps exactly: below `2^64` when not
negative, at least `-2^63` when negative (`Number.Exact`); a double may not come back the same.
No object has a key twice, since the reader merges repeated keys. And lists and objects nest at
most 127 deep (`Value.depth`), the reader's limit.

The reader is a family of three functions on fuel (a value, the items of a list, the entries of
an object), so the proof is one mutual induction on the fuel, from one lemma per kind of value
that says what the reader does once the first byte of the value is known.
-/
namespace RuleOverlay

namespace Json

/-! ### Values the reader keeps -/

/-- A number the reader keeps as it is: an integer within 64 bits, read as `nat` when it is not
negative and as `int` when it is. -/
def Number.Exact : Number → Prop
  | .nat n => n ≤ u64Max
  | .int z => -(Nat.pow 2 63 : Int) ≤ z ∧ z < 0
  | .float _ => False

/-- Every number of a value satisfies `P`. -/
inductive Value.Numbers (P : Number → Prop) : Value → Prop
  | null : Value.Numbers P .null
  | bool (b : Bool) : Value.Numbers P (.bool b)
  | number {n : Number} (h : P n) : Value.Numbers P (.number n)
  | string (s : String) : Value.Numbers P (.string s)
  | array {items : List Value} (h : ∀ x ∈ items, Value.Numbers P x) :
      Value.Numbers P (.array items)
  | object {es : List (String × Value)} (h : ∀ e ∈ es, Value.Numbers P e.2) :
      Value.Numbers P (.object es)

/-- No object of a value has a key twice. -/
inductive Value.UniqueKeys : Value → Prop
  | null : Value.UniqueKeys .null
  | bool (b : Bool) : Value.UniqueKeys (.bool b)
  | number (n : Number) : Value.UniqueKeys (.number n)
  | string (s : String) : Value.UniqueKeys (.string s)
  | array {items : List Value} (h : ∀ x ∈ items, Value.UniqueKeys x) :
      Value.UniqueKeys (.array items)
  | object {es : List (String × Value)} (hKeys : (Entries.keys es).Nodup)
      (h : ∀ e ∈ es, Value.UniqueKeys e.2) : Value.UniqueKeys (.object es)

def Value.Plain (v : Value) : Prop := v.UniqueKeys ∧ v.Numbers Number.Exact

mutual
def Value.depth : Value → Nat
  | .array items => itemsDepth items + 1
  | .object es => entriesDepth es + 1
  | _ => 0

def itemsDepth : List Value → Nat
  | [] => 0
  | v :: vs => max v.depth (itemsDepth vs)

def entriesDepth : List (String × Value) → Nat
  | [] => 0
  | (_, v) :: es => max v.depth (entriesDepth es)
end

section Plain

variable {items : List Value} {es : List (String × Value)} {x : Value}

theorem Value.Plain.item (h : (Value.array items).Plain) (hx : x ∈ items) : x.Plain := by
  obtain ⟨hKeys, hNumbers⟩ := h
  cases hKeys with
  | array hk =>
    cases hNumbers with
    | array hn => exact ⟨hk x hx, hn x hx⟩

theorem Value.Plain.entry (h : (Value.object es).Plain) {e : String × Value} (he : e ∈ es) :
    e.2.Plain := by
  obtain ⟨hKeys, hNumbers⟩ := h
  cases hKeys with
  | object _ hk =>
    cases hNumbers with
    | object hn => exact ⟨hk e he, hn e he⟩

theorem Value.Plain.keys (h : (Value.object es).Plain) : (Entries.keys es).Nodup := by
  obtain ⟨hKeys, -⟩ := h
  cases hKeys with
  | object hNodup _ => exact hNodup

theorem depth_le_itemsDepth (hx : x ∈ items) : x.depth ≤ itemsDepth items := by
  induction items with
  | nil => cases hx
  | cons y ys ih =>
    rw [itemsDepth]
    rcases List.mem_cons.mp hx with rfl | hx
    · exact Nat.le_max_left _ _
    · exact Nat.le_trans (ih hx) (Nat.le_max_right _ _)

theorem depth_le_entriesDepth {e : String × Value} (he : e ∈ es) :
    e.2.depth ≤ entriesDepth es := by
  induction es with
  | nil => cases he
  | cons f fs ih =>
    obtain ⟨k, v⟩ := f
    rw [entriesDepth]
    rcases List.mem_cons.mp he with rfl | he
    · exact Nat.le_max_left _ _
    · exact Nat.le_trans (ih he) (Nat.le_max_right _ _)

end Plain

/-! ### The bytes of a printed value -/

def separator (first : Bool) : Bytes := if first then [] else [0x2C]

def itemsText (first : Bool) : List Value → Bytes
  | [] => []
  | v :: items => separator first ++ v.toBytes ++ itemsText false items

def entryBytes (e : String × Value) : Bytes := Utf8.encode (quote e.1) ++ 0x3A :: e.2.toBytes

def entriesText (first : Bool) : List (String × Value) → Bytes
  | [] => []
  | e :: es => separator first ++ entryBytes e ++ entriesText false es

theorem itemsText_cons (first : Bool) (v : Value) (items : List Value) :
    itemsText first (v :: items) = separator first ++ (v.toBytes ++ itemsText false items) := by
  rw [itemsText, List.append_assoc]

theorem entriesText_cons (first : Bool) (k : String) (v : Value) (es : List (String × Value)) :
    entriesText first ((k, v) :: es) = (separator first ++ Utf8.encode (quote k)) ++
      ([0x3A] ++ (v.toBytes ++ entriesText false es)) := by
  simp [entriesText, entryBytes]

theorem toBytes_array (items : List Value) :
    (Value.array items).toBytes = 0x5B :: (Utf8.encode (renderItems items) ++ [0x5D]) := by
  rw [Value.toBytes, Value.render, Utf8.encode_append, Utf8.encode_append]
  rfl

theorem toBytes_object (es : List (String × Value)) :
    (Value.object es).toBytes = 0x7B :: (Utf8.encode (renderEntries es) ++ [0x7D]) := by
  rw [Value.toBytes, Value.render, Utf8.encode_append, Utf8.encode_append]
  rfl

theorem encode_renderItems (items : List Value) :
    Utf8.encode (renderItems items) = itemsText true items := by
  induction items with
  | nil => rfl
  | cons v items ih =>
    cases items with
    | nil => simp [renderItems, itemsText, separator, Value.toBytes]
    | cons w items =>
      rw [renderItems.eq_3 v (w :: items) (List.cons_ne_nil w items), Utf8.encode_append,
        Utf8.encode_append, ih, show Utf8.encode "," = [0x2C] by decide +kernel]
      simp [itemsText, separator, Value.toBytes]

theorem encode_renderEntries (es : List (String × Value)) :
    Utf8.encode (renderEntries es) = entriesText true es := by
  induction es with
  | nil => rfl
  | cons e es ih =>
    obtain ⟨k, v⟩ := e
    cases es with
    | nil =>
      simp [renderEntries, Utf8.encode_append, entriesText, separator, entryBytes, Value.toBytes]
      rfl
    | cons f es =>
      rw [renderEntries.eq_3 k v (f :: es) (List.cons_ne_nil f es), Utf8.encode_append,
        Utf8.encode_append, Utf8.encode_append, Utf8.encode_append, ih,
        show Utf8.encode "," = [0x2C] by decide +kernel]
      simp [entriesText, separator, entryBytes, Value.toBytes]
      rfl

/-! ### One step of the reader -/

section Steps

variable {α : Type} {rest : Bytes}

theorem reads_skipSpace_cons {b : UInt8} (h : isSpace b = false) (rest : Bytes) :
    Reads skipSpace [] (b :: rest) (some b) :=
  reads_skipSpace fun b' hb' => by
    cases hb'
    exact h

theorem run_skipSpace_cons {b : UInt8} (h : isSpace b = false) (inp rest : Bytes) (i : Nat) :
    skipSpace.run.run ⟨inp, b :: rest, i⟩ = (.ok (some b), ⟨inp, b :: rest, i⟩) :=
  reads_skipSpace_cons h rest inp i

theorem run_bump (b : UInt8) (inp rest : Bytes) (i : Nat) :
    bump.run.run ⟨inp, b :: rest, i⟩ = (.ok (), ⟨inp, rest, i + 1⟩) :=
  reads_bump b rest inp i

theorem reads_endList (rest : Bytes) : Reads endList [0x5D] rest () := fun _ _ => rfl

theorem reads_endObject (rest : Bytes) : Reads endObject [0x7D] rest () := fun _ _ => rfl

theorem reads_colon (rest : Bytes) : Reads colon [0x3A] rest () := fun _ _ => rfl

theorem Reads.attempt {r : Reader α} {X : Bytes} {a : α} (h : Reads r X rest a) :
    Reads (attempt r) X rest (.ok a) := by
  intro inp i
  rw [Json.attempt, run_tryCatch, run_bind, h inp i]
  rfl

theorem Reads.container {body : Reader α} {close : Reader Unit} {X Y : Bytes} {a : α}
    (hBody : Reads body X (Y ++ rest) a) (hClose : Reads close Y rest ()) :
    Reads (Json.container body close) (X ++ Y) rest a := by
  refine Reads.bind hBody.attempt ?_
  refine Reads.bind_last hClose.attempt ?_
  exact reads_pure rest a

theorem reads_nextItem_first {b : UInt8} (h1 : b ≠ 0x5D) (h2 : b ≠ 0x2C)
    (h3 : isSpace b = false) (rest : Bytes) : Reads (nextItem true) [] (b :: rest) true := by
  intro inp i
  rw [nextItem, run_bind, reads_skipSpace_cons h3 rest inp i]
  dsimp only [List.head?_cons]
  split
  · rename_i hEq
    exact absurd (Option.some.inj hEq) h1
  · rename_i hEq
    exact absurd (Option.some.inj hEq) h2
  · rename_i hEq
    cases Option.some.inj hEq
    rw [if_pos rfl, pure_bind]
    split
    · rename_i hEq
      exact absurd (Option.some.inj hEq) h1
    · rfl
    · contradiction
  · contradiction

theorem reads_nextItem_next {b : UInt8} (h1 : b ≠ 0x5D) (h3 : isSpace b = false)
    (rest : Bytes) :
    Reads (nextItem false) [0x2C] (b :: rest) true := by
  intro inp i
  rw [nextItem, run_bind, List.singleton_append, run_skipSpace_cons (by decide)]
  simp only
  rw [if_neg Bool.false_ne_true, run_bind, run_bump]
  dsimp only
  rw [run_bind, run_skipSpace_cons h3]
  dsimp only [List.head?_cons]
  split
  · rename_i hEq
    exact absurd (Option.some.inj hEq) h1
  · rfl
  · contradiction

theorem reads_nextItem_close (first : Bool) (rest : Bytes) :
    Reads (nextItem first) [] (0x5D :: rest) false := fun _ _ => rfl

theorem reads_nextKey_close (first : Bool) (rest : Bytes) :
    Reads (nextKey first) [] (0x7D :: rest) none := fun _ _ => rfl

theorem reads_nextKey_first (k : String) (rest : Bytes) :
    Reads (nextKey true) (Utf8.encode (quote k)) rest (some k) := by
  rw [encode_quote, nextKey, ← List.nil_append (0x22 :: _)]
  refine (reads_skipSpace_cons (by decide) _).bind ?_
  simp +decide only [ite_true, pure_bind]
  exact (reads_bump 0x22 _).bind ((reads_string k rest).bind_last (reads_pure rest (some k)))

theorem reads_nextKey_next (k : String) (rest : Bytes) :
    Reads (nextKey false) (0x2C :: Utf8.encode (quote k)) rest (some k) := by
  rw [encode_quote, nextKey, ← List.nil_append (0x2C :: _)]
  refine (reads_skipSpace_cons (by decide) _).bind ?_
  simp +decide only
  rw [← List.singleton_append]
  refine (reads_bump 0x2C _).bind ?_
  rw [← List.nil_append (0x22 :: _)]
  refine (reads_skipSpace_cons (by decide) _).bind ?_
  simp +decide only
  exact (reads_bump 0x22 _).bind ((reads_string k rest).bind_last (reads_pure rest (some k)))

theorem reads_nextItem_item (first : Bool) {b : UInt8} (h1 : b ≠ 0x5D) (h2 : b ≠ 0x2C)
    (h3 : isSpace b = false) (rest : Bytes) :
    Reads (nextItem first) (separator first) (b :: rest) true := by
  cases first
  · exact reads_nextItem_next h1 h3 rest
  · exact reads_nextItem_first h1 h2 h3 rest

theorem reads_nextKey_entry (first : Bool) (k : String) (rest : Bytes) :
    Reads (nextKey first) (separator first ++ Utf8.encode (quote k)) rest (some k) := by
  cases first
  · exact reads_nextKey_next k rest
  · exact reads_nextKey_first k rest

end Steps

/-! ### A value, by its first byte -/

section Dispatch

variable (F d : Nat) (rest : Bytes)

theorem isDigit_head {b : UInt8} (h : isDigit b = true) :
    b ≠ 0x5D ∧ b ≠ 0x2C ∧ isSpace b = false := by
  simp only [isDigit, Bool.and_eq_true, decide_eq_true_eq, UInt8.le_iff_toNat_le] at h
  simp only [isSpace, ne_eq, Bool.or_eq_false_iff, beq_eq_false_iff_ne, ← UInt8.toNat_inj]
  simp at h ⊢
  omega

theorem reads_anyValue_null : Reads (anyValue (F + 1) d) Value.null.toBytes rest .null := by
  rw [anyValue, show Value.null.toBytes = [] ++ [0x6E, 0x75, 0x6C, 0x6C] by decide +kernel]
  refine (reads_skipSpace_cons (by decide) _).bind ?_
  simp +decide only
  exact (reads_bump _ _).bind ((reads_keyword _ _).bind_last (reads_pure _ _))

theorem reads_anyValue_bool (b : Bool) :
    Reads (anyValue (F + 1) d) (Value.bool b).toBytes rest (.bool b) := by
  cases b
  · rw [anyValue, show (Value.bool false).toBytes = [] ++ [0x66, 0x61, 0x6C, 0x73, 0x65] by
      decide +kernel]
    refine (reads_skipSpace_cons (by decide) _).bind ?_
    simp +decide only
    exact (reads_bump _ _).bind ((reads_keyword _ _).bind_last (reads_pure _ _))
  · rw [anyValue, show (Value.bool true).toBytes = [] ++ [0x74, 0x72, 0x75, 0x65] by
      decide +kernel]
    refine (reads_skipSpace_cons (by decide) _).bind ?_
    simp +decide only
    exact (reads_bump _ _).bind ((reads_keyword _ _).bind_last (reads_pure _ _))

theorem reads_anyValue_string (s : String) :
    Reads (anyValue (F + 1) d) (Value.string s).toBytes rest (.string s) := by
  rw [anyValue, Value.toBytes, Value.render, encode_quote, ← List.nil_append (0x22 :: _)]
  refine (reads_skipSpace_cons (by decide) _).bind ?_
  simp +decide only
  exact (reads_bump 0x22 _).bind ((reads_string s rest).bind_last (reads_pure _ _))

theorem reads_anyValue_digit {b : UInt8} (hb : isDigit b = true) {X : Bytes} {n : Number}
    (hNumber : Reads (number true) (b :: X) rest n) :
    Reads (anyValue (F + 1) d) (b :: X) rest (.number n) := by
  rw [anyValue, ← List.nil_append (b :: X)]
  refine (reads_skipSpace_cons (isDigit_head hb).2.2 _).bind ?_
  split
  case h_1 => contradiction
  case h_9 =>
    rename_i hEq
    cases Option.some.inj hEq
    rw [if_pos hb]
    exact hNumber.bind_last (reads_pure _ _)
  all_goals
    rename_i hEq
    cases Option.some.inj hEq
    exact absurd hb (by decide)

theorem toBytes_nat (n : Nat) : (Value.number (.nat n)).toBytes = Utf8.encode (toString n) := rfl

theorem toBytes_negSucc (m : Nat) :
    (Value.number (.int (Int.negSucc m))).toBytes = 0x2D :: Utf8.encode (toString (m + 1)) := by
  rw [Value.toBytes, Value.render, Number.text, show toString (Int.negSucc m) =
    "-" ++ toString (m + 1) from rfl, Utf8.encode_append]
  rfl

theorem reads_anyValue_number {n : Number} (hn : n.Exact) (hRest : Closer rest) :
    Reads (anyValue (F + 1) d) (Value.number n).toBytes rest (.number n) := by
  cases n with
  | nat n =>
    obtain ⟨b, X, hbX⟩ : ∃ b X, Utf8.encode (toString n) = b :: X := by
      rcases Nat.eq_zero_or_pos n with rfl | hPos
      · exact ⟨0x30, [], rfl⟩
      · obtain ⟨b, X, hbX, -⟩ := toString_eq_cons hPos
        exact ⟨b, X, hbX⟩
    have hb : isDigit b = true := isDigit_of_mem_toString n b (hbX ▸ List.mem_cons_self)
    rw [toBytes_nat, hbX]
    refine reads_anyValue_digit F d rest hb ?_
    rw [← hbX]
    exact reads_number true hn hRest
  | int z =>
    cases z with
    | ofNat k => exact absurd hn.2 (by simp)
    | negSucc m =>
      have hBound : m + 1 ≤ Nat.pow 2 63 := by
        have h := hn.1
        rw [Int.negSucc_eq] at h
        omega
      have hm : m + 1 ≤ u64Max := Nat.le_trans hBound (by decide)
      have hValue : integerOf false (m + 1) = .int (Int.negSucc m) := by
        rw [integerOf, if_neg Bool.false_ne_true, if_neg (by
          simp only [Bool.or_eq_true, beq_iff_eq, decide_eq_true_eq, not_or]
          omega)]
        rfl
      rw [toBytes_negSucc, anyValue, ← List.nil_append (0x2D :: _)]
      refine (reads_skipSpace_cons (by decide) _).bind ?_
      simp +decide only
      refine (reads_bump 0x2D _).bind ?_
      rw [← hValue]
      exact (reads_number false hm hRest).bind_last (reads_pure _ _)
  | float f => exact absurd hn id

theorem reads_anyValue_array {items : List Value} (hd : 1 < d)
    (hItems : Reads (anyItems F (d - 1) true []) (itemsText true items) (0x5D :: rest) items) :
    Reads (anyValue (F + 1) d) (Value.array items).toBytes rest (.array items) := by
  rw [anyValue, toBytes_array, encode_renderItems, ← List.nil_append (0x5B :: _)]
  refine (reads_skipSpace_cons (by decide) _).bind ?_
  simp +decide only
  rw [if_neg (by omega), ← List.singleton_append]
  exact (reads_bump 0x5B _).bind
    ((hItems.container (reads_endList rest)).bind_last (reads_pure _ _))

theorem reads_anyValue_object {es : List (String × Value)} (hd : 1 < d)
    (hEntries : Reads (anyEntries F (d - 1) true []) (entriesText true es) (0x7D :: rest) es) :
    Reads (anyValue (F + 1) d) (Value.object es).toBytes rest (.object es) := by
  rw [anyValue, toBytes_object, encode_renderEntries, ← List.nil_append (0x7B :: _)]
  refine (reads_skipSpace_cons (by decide) _).bind ?_
  simp +decide only
  rw [if_neg (by omega), ← List.singleton_append]
  exact (reads_bump 0x7B _).bind
    ((hEntries.container (reads_endObject rest)).bind_last (reads_pure _ _))

end Dispatch

/-- The bytes a printed value starts with: `n`, `t` or `f` of a keyword, the sign or a digit of
a number, a quote, a bracket or a brace. -/
def opensValue (b : UInt8) : Bool :=
  b == 0x6E || b == 0x74 || b == 0x66 || b == 0x2D || b == 0x22 || b == 0x5B || b == 0x7B ||
    isDigit b

theorem toBytes_opens {v : Value} (hv : v.Numbers Number.Exact) :
    ∃ b X, v.toBytes = b :: X ∧ opensValue b = true := by
  cases v with
  | null => exact ⟨0x6E, [0x75, 0x6C, 0x6C], by decide +kernel, by decide⟩
  | bool b =>
    cases b
    · exact ⟨0x66, [0x61, 0x6C, 0x73, 0x65], by decide +kernel, by decide⟩
    · exact ⟨0x74, [0x72, 0x75, 0x65], by decide +kernel, by decide⟩
  | number n =>
    cases hv with
    | number hn =>
      cases n with
      | nat n =>
        obtain ⟨b, X, hbX⟩ : ∃ b X, Utf8.encode (toString n) = b :: X := by
          rcases Nat.eq_zero_or_pos n with rfl | hPos
          · exact ⟨0x30, [], rfl⟩
          · obtain ⟨b, X, hbX, -⟩ := toString_eq_cons hPos
            exact ⟨b, X, hbX⟩
        have hb : isDigit b = true := isDigit_of_mem_toString n b (hbX ▸ List.mem_cons_self)
        exact ⟨b, X, hbX, by simp [opensValue, hb]⟩
      | int z =>
        cases z with
        | ofNat k => exact absurd hn.2 (by simp)
        | negSucc m => exact ⟨0x2D, _, toBytes_negSucc m, by decide⟩
      | float f => exact absurd hn id
  | string s => exact ⟨0x22, _, by rw [Value.toBytes, Value.render, encode_quote], by decide⟩
  | array items => exact ⟨0x5B, _, toBytes_array items, by decide⟩
  | object es => exact ⟨0x7B, _, toBytes_object es, by decide⟩

theorem opensValue_head {b : UInt8} (h : opensValue b = true) :
    b ≠ 0x5D ∧ b ≠ 0x2C ∧ isSpace b = false := by
  simp only [opensValue, isDigit, Bool.or_eq_true, beq_iff_eq, Bool.and_eq_true,
    decide_eq_true_eq, UInt8.le_iff_toNat_le] at h
  simp only [isSpace, ne_eq, Bool.or_eq_false_iff, beq_eq_false_iff_ne, ← UInt8.toNat_inj]
  simp only [← UInt8.toNat_inj] at h
  simp at h ⊢
  omega

theorem toBytes_head {v : Value} (hv : v.Numbers Number.Exact) :
    ∃ b X, v.toBytes = b :: X ∧ b ≠ 0x5D ∧ b ≠ 0x2C ∧ isSpace b = false := by
  obtain ⟨b, X, hbX, hb⟩ := toBytes_opens hv
  exact ⟨b, X, hbX, opensValue_head hb⟩

theorem closer_itemsText (items : List Value) (rest : Bytes) :
    Closer (itemsText false items ++ 0x5D :: rest) := by
  cases items with
  | nil => exact fun b hb => .inr (.inl (Option.some.inj hb).symm)
  | cons v items => exact fun b hb => .inl (Option.some.inj hb).symm

theorem closer_entriesText (es : List (String × Value)) (rest : Bytes) :
    Closer (entriesText false es ++ 0x7D :: rest) := by
  cases es with
  | nil => exact fun b hb => .inr (.inr (Option.some.inj hb).symm)
  | cons e es => exact fun b hb => .inl (Option.some.inj hb).symm

theorem Entries.insert_of_not_mem {es : List (String × Value)} {k : String} {v : Value}
    (h : k ∉ Entries.keys es) : Entries.insert es k v = es ++ [(k, v)] := by
  have hAny : es.any (·.1 == k) = false :=
    Bool.eq_false_iff.mpr fun hc => h (Entries.contains_iff.mp hc)
  rw [Entries.insert, if_neg (by rw [hAny]; exact Bool.false_ne_true)]

/-! ### The reader on printed values -/

mutual

theorem reads_anyValue : ∀ (F d : Nat) (v : Value) (rest : Bytes), v.Plain → v.depth < d →
    v.toBytes.length ≤ F → Closer rest → Reads (anyValue F d) v.toBytes rest v
  | 0, _, v, _, hv, _, hFuel, _ => by
    obtain ⟨b, X, hbX, -⟩ := toBytes_head hv.2
    rw [hbX, List.length_cons] at hFuel
    omega
  | F + 1, d, v, rest, hv, hDepth, hFuel, hRest => by
    cases v with
    | null => exact reads_anyValue_null F d rest
    | bool b => exact reads_anyValue_bool F d rest b
    | number n =>
      cases hv.2 with
      | number hn => exact reads_anyValue_number F d rest hn hRest
    | string s => exact reads_anyValue_string F d rest s
    | array items =>
      rw [Value.depth] at hDepth
      rw [toBytes_array, encode_renderItems] at hFuel
      simp only [List.length_cons, List.length_append] at hFuel
      have hItems := reads_anyItems F (d - 1) true items [] rest
        (fun x hx => ⟨hv.item hx, by have := depth_le_itemsDepth hx; omega⟩) (by omega)
      rw [List.reverse_nil, List.nil_append] at hItems
      exact reads_anyValue_array F d rest (by omega) hItems
    | object es =>
      rw [Value.depth] at hDepth
      rw [toBytes_object, encode_renderEntries] at hFuel
      simp only [List.length_cons, List.length_append] at hFuel
      have hEntries := reads_anyEntries F (d - 1) true es [] rest
        (fun e he => ⟨hv.entry he, by have := depth_le_entriesDepth he; omega⟩)
        (by rw [List.nil_append]; exact hv.keys) (by omega)
      rw [List.nil_append] at hEntries
      exact reads_anyValue_object F d rest (by omega) hEntries

theorem reads_anyItems : ∀ (F d : Nat) (first : Bool) (items acc : List Value) (rest : Bytes),
    (∀ x ∈ items, x.Plain ∧ x.depth < d) → (itemsText first items).length < F →
    Reads (anyItems F d first acc) (itemsText first items) (0x5D :: rest) (acc.reverse ++ items)
  | 0, _, _, _, _, _, _, hFuel => absurd hFuel (Nat.not_lt_zero _)
  | F + 1, d, first, [], acc, rest, _, _ => by
    rw [anyItems, List.append_nil]
    refine (reads_nextItem_close first rest).bind_last ?_
    exact reads_pure _ _
  | F + 1, d, first, v :: items, acc, rest, hItems, hFuel => by
    obtain ⟨hv, hDepth⟩ := hItems v List.mem_cons_self
    obtain ⟨b, X, hbX, h1, h2, h3⟩ := toBytes_head hv.2
    have hNext := reads_nextItem_item first h1 h2 h3 (X ++ (itemsText false items ++ 0x5D :: rest))
    rw [← List.cons_append, ← hbX, ← List.append_assoc] at hNext
    rw [itemsText_cons] at hFuel ⊢
    have hOne : 1 ≤ v.toBytes.length := by rw [hbX, List.length_cons]; omega
    simp only [List.length_append] at hFuel
    rw [anyItems]
    refine hNext.bind ?_
    rw [if_pos rfl]
    have hValue := reads_anyValue F d v (itemsText false items ++ 0x5D :: rest) hv hDepth
      (by omega) (closer_itemsText items rest)
    have hRest := reads_anyItems F d false items (v :: acc) rest
      (fun x hx => hItems x (List.mem_cons_of_mem v hx)) (by omega)
    rw [List.reverse_cons, List.append_assoc, List.singleton_append] at hRest
    exact hValue.bind hRest

theorem reads_anyEntries : ∀ (F d : Nat) (first : Bool) (es acc : List (String × Value))
    (rest : Bytes), (∀ e ∈ es, e.2.Plain ∧ e.2.depth < d) →
    (Entries.keys (acc ++ es)).Nodup → (entriesText first es).length < F →
    Reads (anyEntries F d first acc) (entriesText first es) (0x7D :: rest) (acc ++ es)
  | 0, _, _, _, _, _, _, _, hFuel => absurd hFuel (Nat.not_lt_zero _)
  | F + 1, d, first, [], acc, rest, _, _, _ => by
    rw [anyEntries, List.append_nil]
    refine (reads_nextKey_close first rest).bind_last ?_
    exact reads_pure _ _
  | F + 1, d, first, (k, v) :: es, acc, rest, hEs, hKeys, hFuel => by
    obtain ⟨hv, hDepth⟩ := hEs (k, v) List.mem_cons_self
    have hOne : 1 ≤ v.toBytes.length := by
      obtain ⟨b, X, hbX, -⟩ := toBytes_head hv.2
      rw [hbX, List.length_cons]
      omega
    have hFresh : k ∉ Entries.keys acc := by
      intro hk
      rw [Entries.keys_append, Entries.keys_cons, List.nodup_append] at hKeys
      exact hKeys.2.2 k hk k List.mem_cons_self rfl
    rw [entriesText_cons] at hFuel ⊢
    simp only [List.length_append, List.length_singleton] at hFuel
    rw [anyEntries]
    refine (reads_nextKey_entry first k _).bind ?_
    refine (reads_colon _).bind ?_
    have hValue := reads_anyValue F d v (entriesText false es ++ 0x7D :: rest) hv hDepth
      (by omega) (closer_entriesText es rest)
    have hRest := reads_anyEntries F d false es (Entries.insert acc k v) rest
      (fun e he => hEs e (List.mem_cons_of_mem _ he))
      (by rw [Entries.insert_of_not_mem hFresh, List.append_assoc]; exact hKeys) (by omega)
    have hResult : Entries.insert acc k v ++ es = acc ++ (k, v) :: es := by
      rw [Entries.insert_of_not_mem hFresh, List.append_assoc, List.singleton_append]
    rw [hResult] at hRest
    exact hValue.bind hRest

end

/-- The compact text of a value with exact numbers, no repeated key and at most 127 levels of
nesting reads back as the value. -/
theorem parse_toBytes {v : Value} (hv : v.Plain) (hDepth : v.depth < depthLimit) :
    parse v.toBytes = .ok v := by
  have hRead := reads_anyValue (2 * v.toBytes.length + 4) depthLimit v [] hv hDepth (by omega)
    (fun b hb => by cases hb) v.toBytes 0
  rw [List.append_nil] at hRead
  have hShaped : shaped (2 * v.toBytes.length + 4) depthLimit .any =
      anyValue (2 * v.toBytes.length + 4) depthLimit := by
    rw [shaped]
  rw [parse, readShaped, run_bind, hShaped, hRead]
  rfl

end Json

end RuleOverlay
