import Mathlib
import RuleOverlay.Proofs.Reread
/-! # The reader's depth limit

The reader takes lists and objects nested at most 127 deep (`depthLimit` counts the outermost
level too), and the value model has no such limit. So the compact text of a value reads back as
the value exactly when it nests less than that deep (`parse_toBytes_eq_ok_iff`): past the limit
the reader stops at the first list or object that has no room left, whatever follows it.

The proof follows `reads_anyValue` down to the first item or entry that is too deep: those
before it are read whole, and from it on everything fails.
-/
namespace RuleOverlay

namespace Json

variable {α : Type}

theorem Fails.container {body : Reader α} {close : Reader Unit} {X : Bytes} (h : Fails body X) :
    Fails (Json.container body close) X := by
  intro inp rest i
  obtain ⟨e, c, hBody⟩ := h inp rest i
  have hAttempt : (attempt body).run.run ⟨inp, X ++ rest, i⟩ = (.ok (.error e), c) := by
    rw [attempt, run_tryCatch, run_bind, hBody]
    rfl
  rw [Json.container, run_bind, hAttempt]
  exact fails_bind_of_forall (fun _ => fails_bind_of_forall fun err => fails_throw err)
    c.input c.rest c.index

theorem closer_itemsText_of_ne_nil {items : List Value} (h : items ≠ []) (rest : Bytes) :
    Closer (itemsText false items ++ rest) := by
  cases items with
  | nil => exact absurd rfl h
  | cons v items => exact fun b hb => .inl (Option.some.inj hb).symm

theorem closer_entriesText_of_ne_nil {es : List (String × Value)} (h : es ≠ []) (rest : Bytes) :
    Closer (entriesText false es ++ rest) := by
  cases es with
  | nil => exact absurd rfl h
  | cons e es => exact fun b hb => .inl (Option.some.inj hb).symm

theorem exists_deep_item {items : List Value} {d : Nat} (h : d ≤ itemsDepth items) (hd : 0 < d) :
    ∃ x ∈ items, d ≤ x.depth := by
  induction items with
  | nil => exact absurd h (by rw [itemsDepth]; omega)
  | cons v items ih =>
    rw [itemsDepth] at h
    by_cases hv : d ≤ v.depth
    · exact ⟨v, List.mem_cons_self, hv⟩
    · obtain ⟨x, hx, hDeep⟩ := ih (by omega)
      exact ⟨x, List.mem_cons_of_mem v hx, hDeep⟩

theorem exists_deep_entry {es : List (String × Value)} {d : Nat} (h : d ≤ entriesDepth es)
    (hd : 0 < d) : ∃ e ∈ es, d ≤ e.2.depth := by
  induction es with
  | nil => exact absurd h (by rw [entriesDepth]; omega)
  | cons e es ih =>
    obtain ⟨k, v⟩ := e
    rw [entriesDepth] at h
    by_cases hv : d ≤ v.depth
    · exact ⟨(k, v), List.mem_cons_self, hv⟩
    · obtain ⟨x, hx, hDeep⟩ := ih (by omega)
      exact ⟨x, List.mem_cons_of_mem _ hx, hDeep⟩

/-! ### Where the reader stops -/

mutual

/-- The reader fails on the text of a list or an object that nests at least as deep as the room
`d` it has, given fuel for the text. -/
theorem fails_anyValue : ∀ (F d : Nat) (v : Value), v.Plain → 0 < d → d ≤ v.depth →
    v.toBytes.length ≤ F → Fails (anyValue F d) v.toBytes
  | 0, _, _, _, _, _, _ => by
    rw [anyValue]
    exact fails_failHere _ _
  | F + 1, d, v, hv, hd, hDeep, hFuel => by
    cases v with
    | array items =>
      rw [Value.depth] at hDeep
      rw [toBytes_array, encode_renderItems] at hFuel ⊢
      simp only [List.length_cons, List.length_append] at hFuel
      rw [anyValue, ← List.nil_append (0x5B :: _)]
      refine Reads.bind_fails (fun rest => reads_skipSpace_cons (by decide) _) ?_
      simp +decide only
      split_ifs with hRoom
      · exact fails_failPeek _ _
      · rw [← List.singleton_append]
        refine Reads.bind_fails (fun rest => reads_bump 0x5B _) ?_
        have hItems := fails_anyItems F (d - 1) true items [] (fun x hx => hv.item hx) (by omega)
          (exists_deep_item (by omega) (by omega)) (by omega)
        exact (hItems.container.append _).bind _
    | object es =>
      rw [Value.depth] at hDeep
      rw [toBytes_object, encode_renderEntries] at hFuel ⊢
      simp only [List.length_cons, List.length_append] at hFuel
      rw [anyValue, ← List.nil_append (0x7B :: _)]
      refine Reads.bind_fails (fun rest => reads_skipSpace_cons (by decide) _) ?_
      simp +decide only
      split_ifs with hRoom
      · exact fails_failPeek _ _
      · rw [← List.singleton_append]
        refine Reads.bind_fails (fun rest => reads_bump 0x7B _) ?_
        have hEntries := fails_anyEntries F (d - 1) true es [] (fun e he => hv.entry he)
          (by rw [List.nil_append]; exact hv.keys) (by omega)
          (exists_deep_entry (by omega) (by omega)) (by omega)
        exact (hEntries.container.append _).bind _
    | null => exact absurd hDeep (Nat.not_le.mpr hd)
    | bool => exact absurd hDeep (Nat.not_le.mpr hd)
    | number => exact absurd hDeep (Nat.not_le.mpr hd)
    | string => exact absurd hDeep (Nat.not_le.mpr hd)

/-- The reader fails on items one of which nests as deep as the room it has: the items before it
are read whole, and it fails. -/
theorem fails_anyItems : ∀ (F d : Nat) (first : Bool) (items acc : List Value),
    (∀ x ∈ items, x.Plain) → 0 < d → (∃ x ∈ items, d ≤ x.depth) →
    (itemsText first items).length < F → Fails (anyItems F d first acc) (itemsText first items)
  | 0, _, _, _, _, _, _, _, hFuel => absurd hFuel (Nat.not_lt_zero _)
  | F + 1, _, _, [], _, _, _, hSome, _ => by
    obtain ⟨x, hx, -⟩ := hSome
    cases hx
  | F + 1, d, first, v :: items, acc, hItems, hd, hSome, hFuel => by
    have hv := hItems v List.mem_cons_self
    obtain ⟨b, X, hbX, h1, h2, h3⟩ := toBytes_head hv.2
    have hOne : 1 ≤ v.toBytes.length := by rw [hbX, List.length_cons]; omega
    rw [itemsText_cons] at hFuel ⊢
    simp only [List.length_append] at hFuel
    have hNext : ∀ rest, Reads (nextItem first) (separator first)
        (v.toBytes ++ itemsText false items ++ rest) true := by
      intro rest
      have h := reads_nextItem_item first h1 h2 h3 (X ++ itemsText false items ++ rest)
      rwa [← List.cons_append, ← List.cons_append, ← hbX] at h
    rw [anyItems]
    refine Reads.bind_fails hNext ?_
    rw [if_pos rfl]
    by_cases hDeep : d ≤ v.depth
    · exact ((fails_anyValue F d v hv hd hDeep (by omega)).append _).bind _
    · have hLater : ∃ x ∈ items, d ≤ x.depth := by
        obtain ⟨x, hx, hxDeep⟩ := hSome
        rcases List.mem_cons.mp hx with rfl | hx
        · exact absurd hxDeep hDeep
        · exact ⟨x, hx, hxDeep⟩
      have hNe : items ≠ [] := by
        rintro rfl
        obtain ⟨x, hx, -⟩ := hLater
        cases hx
      refine Reads.bind_fails (fun rest => reads_anyValue F d v _ hv (by omega) (by omega)
        (closer_itemsText_of_ne_nil hNe rest)) ?_
      exact fails_anyItems F d false items (v :: acc)
        (fun x hx => hItems x (List.mem_cons_of_mem v hx)) hd hLater (by omega)

theorem fails_anyEntries : ∀ (F d : Nat) (first : Bool) (es acc : List (String × Value)),
    (∀ e ∈ es, e.2.Plain) → (Entries.keys (acc ++ es)).Nodup → 0 < d →
    (∃ e ∈ es, d ≤ e.2.depth) → (entriesText first es).length < F →
    Fails (anyEntries F d first acc) (entriesText first es)
  | 0, _, _, _, _, _, _, _, _, hFuel => absurd hFuel (Nat.not_lt_zero _)
  | F + 1, _, _, [], _, _, _, _, hSome, _ => by
    obtain ⟨e, he, -⟩ := hSome
    cases he
  | F + 1, d, first, (k, v) :: es, acc, hEs, hKeys, hd, hSome, hFuel => by
    have hv := hEs (k, v) List.mem_cons_self
    have hFresh : k ∉ Entries.keys acc := by
      intro hk
      rw [Entries.keys_append, Entries.keys_cons, List.nodup_append] at hKeys
      exact hKeys.2.2 k hk k List.mem_cons_self rfl
    rw [entriesText_cons] at hFuel ⊢
    simp only [List.length_append, List.length_singleton] at hFuel
    rw [anyEntries]
    refine Reads.bind_fails (fun rest => reads_nextKey_entry first k _) ?_
    refine Reads.bind_fails (fun rest => reads_colon _) ?_
    by_cases hDeep : d ≤ v.depth
    · exact ((fails_anyValue F d v hv hd hDeep (by omega)).append _).bind _
    · have hLater : ∃ e ∈ es, d ≤ e.2.depth := by
        obtain ⟨e, he, heDeep⟩ := hSome
        rcases List.mem_cons.mp he with rfl | he
        · exact absurd heDeep hDeep
        · exact ⟨e, he, heDeep⟩
      have hNe : es ≠ [] := by
        rintro rfl
        obtain ⟨e, he, -⟩ := hLater
        cases he
      refine Reads.bind_fails (fun rest => reads_anyValue F d v _ hv (by omega) (by omega)
        (closer_entriesText_of_ne_nil hNe rest)) ?_
      have hInsert : Entries.insert acc k v = acc ++ [(k, v)] := Entries.insert_of_not_mem hFresh
      refine fails_anyEntries F d false es (Entries.insert acc k v)
        (fun e he => hEs e (List.mem_cons_of_mem _ he)) ?_ hd hLater (by omega)
      rw [hInsert, List.append_assoc]
      exact hKeys

end

theorem parse_toBytes_of_deep {v : Value} (hv : v.Plain) (hDeep : depthLimit ≤ v.depth) :
    ∃ e, parse v.toBytes = .error e := by
  obtain ⟨e, c, hRun⟩ := fails_anyValue (2 * v.toBytes.length + 4) depthLimit v hv (by decide)
    hDeep (by omega) v.toBytes [] 0
  rw [List.append_nil] at hRun
  have hShaped : shaped (2 * v.toBytes.length + 4) depthLimit .any =
      anyValue (2 * v.toBytes.length + 4) depthLimit := by
    rw [shaped]
  refine ⟨e, ?_⟩
  rw [parse, readShaped, run_bind, hShaped, hRun]

/-- A value with exact numbers and no repeated key reads back from its compact text exactly
when it nests less than 128 levels deep. -/
theorem parse_toBytes_eq_ok_iff {v : Value} (hv : v.Plain) :
    parse v.toBytes = .ok v ↔ v.depth < depthLimit := by
  constructor
  · intro hRead
    by_contra hDeep
    obtain ⟨e, hFail⟩ := parse_toBytes_of_deep hv (Nat.le_of_not_lt hDeep)
    rw [hRead] at hFail
    cases hFail
  · exact parse_toBytes hv

end Json

end RuleOverlay
