import Mathlib
import RuleOverlay.Proofs.Reread
/-! # What the reader gives

Two facts that `parse_toBytes` asks of a value hold of every value the reader gives, whatever
its input. No object has a key twice, since a key read again is merged into its first entry
(`Entries.insert`). And an integer is one the reader keeps exactly: digits that would pass
`2^64 - 1` make a double, and so does a negative integer below `-2^63` (`Number.Readable`).
So a value read from text reads back from its printed text as soon as it holds no double and
nests less than the reader's limit.

Each step of the reader is followed once with `Returns`, on every cursor; the three functions
that read values, items and entries go by one mutual induction on the fuel.
-/
namespace RuleOverlay

namespace Json

/-! ### Numbers and values the reader gives -/

def Number.Integer : Number → Prop
  | .float _ => False
  | _ => True

def Number.Readable (n : Number) : Prop := n.Integer → n.Exact

/-- What holds of every value the reader gives: no object has a key twice, and every integer
is one the reader keeps exactly. -/
def Value.Parsed (v : Value) : Prop := v.UniqueKeys ∧ v.Numbers Number.Readable

theorem Value.Numbers.imp {P Q R : Number → Prop} (hPQR : ∀ n, P n → Q n → R n) {v : Value}
    (hP : v.Numbers P) (hQ : v.Numbers Q) : v.Numbers R := by
  induction hP with
  | null => exact .null
  | bool b => exact .bool b
  | number h => cases hQ with | number h' => exact .number (hPQR _ h h')
  | string s => exact .string s
  | array _ ih => cases hQ with | array h' => exact .array fun x hx => ih x hx (h' x hx)
  | object _ ih => cases hQ with | object h' => exact .object fun e he => ih e he (h' e he)

theorem Value.Parsed.plain {v : Value} (h : v.Parsed) (hInt : v.Numbers Number.Integer) :
    v.Plain :=
  ⟨h.1, h.2.imp (fun _ hRead hInteger => hRead hInteger) hInt⟩

/-! ### Numbers -/

theorem le_of_overflows_eq_false {limit acc d : Nat} (hd : d < 10)
    (h : overflows limit acc d = false) : acc * 10 + d ≤ limit := by
  simp only [overflows, Bool.or_eq_false_iff, Bool.and_eq_false_imp, beq_iff_eq,
    decide_eq_false_iff_not] at h
  omega

theorem absorb_le {limit : Nat} : ∀ {acc : Nat} (bs : Bytes), acc ≤ limit →
    (absorb limit acc bs).1 ≤ limit
  | _, [], h => h
  | acc, b :: bs, h => by
    rw [absorb]
    by_cases hb : isDigit b = true
    · rw [if_pos hb]
      dsimp only
      cases hOver : overflows limit acc (b - 0x30).toNat with
      | true => exact h
      | false =>
        rw [if_neg Bool.false_ne_true]
        exact absorb_le bs (le_of_overflows_eq_false (digit_lt_ten hb) hOver)
    · rw [if_neg hb]
      exact h

/-- What follows the digits of an integer within 64 bits gives a double or an integer the
reader keeps: a negative one is a double below `-2^63` and at `-0`. -/
theorem returns_numberTail (positive : Bool) {sig : Nat} (hSig : sig ≤ u64Max) :
    Returns (numberTail positive sig) Number.Readable := by
  refine returns_bind fun b? => ?_
  split
  · exact returns_bind fun _ => returns_pure fun h => h.elim
  · exact returns_bind fun _ => returns_pure fun h => h.elim
  · exact returns_bind fun _ => returns_pure fun h => h.elim
  · split
    · exact returns_pure fun _ => hSig
    · split
      · exact returns_pure fun h => h.elim
      · rename_i hRange
        simp only [Bool.or_eq_true, beq_iff_eq, decide_eq_true_eq, not_or, not_lt] at hRange
        refine returns_pure fun _ => ⟨?_, ?_⟩ <;> omega

theorem returns_number (positive : Bool) : Returns (number positive) Number.Readable := by
  refine returns_bind fun b? => ?_
  split
  · exact returns_failHere _
  · refine returns_bind fun b? => ?_
    split
    · split
      · exact returns_failPeek _
      · exact returns_numberTail positive (Nat.zero_le _)
    · exact returns_numberTail positive (Nat.zero_le _)
  · split
    · rename_i b _ hDigit
      refine returns_bind fun c => ?_
      split
      rename_i s n overflowed hAbsorb
      have hFirst : (b - 0x30).toNat ≤ u64Max :=
        Nat.le_trans (Nat.le_of_lt (digit_lt_ten hDigit)) (by decide)
      have hLe : s ≤ u64Max := by
        have h := absorb_le c.rest hFirst
        rwa [hAbsorb] at h
      refine returns_bind fun _ => ?_
      split
      · exact returns_bind fun _ => returns_pure fun h => h.elim
      · exact returns_numberTail positive hLe
    · exact returns_failHere _

/-! ### Entries written one key at a time -/

namespace Entries

variable {es : List (String × Value)} {k : String} {v : Value}

theorem mem_insert {e : String × Value} (he : e ∈ insert es k v) : e ∈ es ∨ e = (k, v) := by
  unfold insert at he
  split at he
  · obtain ⟨f, hf, rfl⟩ := List.mem_map.mp he
    by_cases hk : f.1 == k
    · exact .inr (by rw [if_pos hk])
    · exact .inl (by rwa [if_neg hk])
  · rcases List.mem_append.mp he with he | he
    · exact .inl he
    · exact .inr (List.mem_singleton.mp he)

theorem nodup_keys_insert (h : (keys es).Nodup) : (keys (insert es k v)).Nodup := by
  rw [keys_insert]
  split
  · exact h
  · rename_i hNew
    have hk : k ∉ keys es := fun hk => hNew (contains_iff.mpr hk)
    exact h.append (List.nodup_singleton k) (List.disjoint_singleton.mpr hk)

end Entries

/-! ### The reader's values -/

variable {α : Type}

theorem Returns.attempt {r : Reader α} {P : α → Prop} (h : Returns r P) :
    Returns (attempt r) fun o => ∀ a, o = .ok a → P a := by
  refine Returns.tryCatch (h.bind fun a ha => returns_pure ?_) fun e => returns_pure ?_
  · intro a' hEq
    cases hEq
    exact ha
  · intro a' hEq
    cases hEq

theorem Returns.container {body : Reader α} {close : Reader Unit} {P : α → Prop}
    (h : Returns body P) : Returns (container body close) P := by
  refine h.attempt.bind fun o ho => returns_bind fun _ => ?_
  split
  · exact returns_pure (ho _ rfl)
  · exact returns_bind fun _ => returns_throw
  · exact returns_bind fun _ => returns_throw

theorem Value.parsed_array {items : List Value} (h : ∀ x ∈ items, x.Parsed) :
    (Value.array items).Parsed :=
  ⟨.array fun x hx => (h x hx).1, .array fun x hx => (h x hx).2⟩

theorem Value.parsed_object {es : List (String × Value)} (hKeys : (Entries.keys es).Nodup)
    (h : ∀ e ∈ es, e.2.Parsed) : (Value.object es).Parsed :=
  ⟨.object hKeys fun e he => (h e he).1, .object fun e he => (h e he).2⟩

mutual

/-- Every value the reader gives, from any cursor, with any fuel and any room for nesting, has
no repeated key and keeps its integers. -/
theorem returns_anyValue : ∀ (F d : Nat), Returns (anyValue F d) Value.Parsed
  | 0, _ => by
    rw [anyValue]
    exact returns_failHere _
  | F + 1, d => by
    rw [anyValue]
    refine returns_bind fun b? => ?_
    split
    · exact returns_failPeek _
    · exact returns_bind fun _ => returns_bind fun _ => returns_pure ⟨.null, .null⟩
    · exact returns_bind fun _ => returns_bind fun _ => returns_pure ⟨.bool true, .bool true⟩
    · exact returns_bind fun _ => returns_bind fun _ => returns_pure ⟨.bool false, .bool false⟩
    · exact returns_bind fun _ =>
        (returns_number false).bind fun n hn => returns_pure ⟨.number n, .number hn⟩
    · exact returns_bind fun _ => returns_bind fun s => returns_pure ⟨.string s, .string s⟩
    · split
      · exact returns_failPeek _
      · refine returns_bind fun _ => ?_
        have hItems := returns_anyItems F (d - 1) true [] fun x hx => by cases hx
        exact hItems.container.bind fun items h => returns_pure (Value.parsed_array h)
    · split
      · exact returns_failPeek _
      · refine returns_bind fun _ => ?_
        have hEntries := returns_anyEntries F (d - 1) true [] List.nodup_nil fun e he => by
          cases he
        exact hEntries.container.bind fun es h => returns_pure (Value.parsed_object h.1 h.2)
    · split
      · exact (returns_number true).bind fun n hn => returns_pure ⟨.number n, .number hn⟩
      · exact returns_failPeek _

theorem returns_anyItems : ∀ (F d : Nat) (first : Bool) (acc : List Value),
    (∀ x ∈ acc, x.Parsed) → Returns (anyItems F d first acc) fun items => ∀ x ∈ items, x.Parsed
  | 0, _, _, acc, hAcc => by
    rw [anyItems]
    exact returns_pure fun x hx => hAcc x (List.mem_reverse.mp hx)
  | F + 1, d, first, acc, hAcc => by
    rw [anyItems]
    refine returns_bind fun more => ?_
    split
    · refine (returns_anyValue F d).bind fun v hv => returns_anyItems F d false (v :: acc) ?_
      intro x hx
      rcases List.mem_cons.mp hx with rfl | hx
      · exact hv
      · exact hAcc x hx
    · exact returns_pure fun x hx => hAcc x (List.mem_reverse.mp hx)

/-- The entries the reader gives, after entries already read with distinct keys whose values
satisfy `Value.Parsed`: a key read again takes the place of its first entry. -/
theorem returns_anyEntries : ∀ (F d : Nat) (first : Bool) (acc : List (String × Value)),
    (Entries.keys acc).Nodup → (∀ e ∈ acc, e.2.Parsed) →
    Returns (anyEntries F d first acc) fun es => (Entries.keys es).Nodup ∧ ∀ e ∈ es, e.2.Parsed
  | 0, _, _, acc, hKeys, hAcc => by
    rw [anyEntries]
    exact returns_pure ⟨hKeys, hAcc⟩
  | F + 1, d, first, acc, hKeys, hAcc => by
    rw [anyEntries]
    refine returns_bind fun k? => ?_
    split
    · exact returns_pure ⟨hKeys, hAcc⟩
    · rename_i k
      refine returns_bind fun _ => (returns_anyValue F d).bind fun v hv => ?_
      refine returns_anyEntries F d false _ (Entries.nodup_keys_insert hKeys) fun e he => ?_
      rcases Entries.mem_insert he with he | rfl
      · exact hAcc e he
      · exact hv

end

theorem readShaped_returns {shape : Shape} {P : Value → Prop}
    (h : ∀ F, Returns (shaped F depthLimit shape) P) {b : Bytes} {v : Value}
    (hRead : readShaped shape b = .ok v) : P v := by
  unfold readShaped at hRead
  refine ((h _).bind fun v hv => returns_bind fun _ => ?_) _ v _ (Prod.ext hRead rfl)
  split
  · exact returns_failPeek _
  · exact returns_pure hv

theorem parse_parsed {b : Bytes} {v : Value} (h : parse b = .ok v) : v.Parsed := by
  refine readShaped_returns (fun F => ?_) h
  cases F with
  | zero =>
    rw [shaped]
    exact returns_failHere _
  | succ F =>
    rw [shaped]
    exact returns_anyValue _ _

end Json

end RuleOverlay
