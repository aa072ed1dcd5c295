import Mathlib
import RuleOverlay.Proofs.Calendar
import RuleOverlay.Proofs.RuleFile
import RuleOverlay.Proofs.Chain
/-! # Saved processors load back

The saved form of a processor is a JSON object of texts, its entries in the order of the fields
of the record its kind loads with; a fetch adds its body, when it has one, and its headers as an
object of lists of texts. Such an object reads back against its record as itself
(`readShaped_record`): each text through the check of its field, the moment because `parse`
takes back what `render` writes (`parse_render`), the body through the shape of a field that
may be null (`fieldReadsBack_body`), the headers entry by entry (`reads_shapedEntries`).

Loading then takes each field back out of the object. Headers are inserted by name into a
sorted list, which keeps a list whose names already increase (`foldl_insertSorted`). So a
well-formed processor, one whose moment `render` writes in full and whose header names
increase, loads back from its saved form as itself (`load_saved`).
-/
namespace RuleOverlay

namespace Json

section Fields

variable {F d : Nat} {rest : Bytes}

theorem toBytes_string_cons (s : String) :
    (Value.string s).toBytes = 0x22 :: (escapedBytes s.toList ++ [0x22]) := by
  rw [toBytes_string]
  rfl

theorem reads_shaped_optional {b : UInt8} {X : Bytes} (hNull : b ≠ 0x6E)
    (hSpace : isSpace b = false) {s : Shape} {v : Value} (h : Reads (shaped F d s) (b :: X) rest v) :
    Reads (shaped (F + 1) d (.optional s)) (b :: X) rest v := by
  rw [shaped, ← List.nil_append (b :: X)]
  refine (reads_skipSpace_cons hSpace _).bind ?_
  split
  · rename_i hb
    cases hb
    exact absurd rfl hNull
  · exact h

theorem fieldReadsBack_body (s : String) :
    FieldReadsBack d (.defaulted (.optional .string)) (.string s) := by
  intro F rest hFuel _
  obtain ⟨F, rfl⟩ : ∃ F', F = F' + 3 :=
    ⟨F - 3, by rw [toBytes_string_cons] at hFuel; simp at hFuel; omega⟩
  apply reads_shaped_defaulted
  rw [toBytes_string_cons]
  apply reads_shaped_optional (by decide) (by decide)
  rw [← toBytes_string_cons]
  exact reads_shaped_text rfl

/-- Printed entries read back against a map, one after another up to the closing brace, as
long as no key comes twice and the item shape reads each value back. -/
theorem reads_shapedEntries {item : Shape} :
    ∀ (F : Nat) (first : Bool) (es acc : List (String × Value)) (rest : Bytes),
      (∀ e ∈ es, FieldReadsBack d item e.2) → (Entries.keys (acc ++ es)).Nodup →
      (entriesText first es).length < F →
      Reads (shapedEntries F d item first acc) (entriesText first es) (0x7D :: rest) (acc ++ es)
  | 0, _, _, _, _, _, _, hFuel => absurd hFuel (Nat.not_lt_zero _)
  | F + 1, first, [], acc, rest, _, _, _ => by
    rw [shapedEntries, List.append_nil]
    exact (reads_nextKey_close first rest).bind_last (reads_pure _ _)
  | F + 1, first, (k, v) :: es, acc, rest, hEs, hKeys, hFuel => by
    have hFresh : k ∉ Entries.keys acc := by
      intro hk
      rw [Entries.keys_append, Entries.keys_cons, List.nodup_append] at hKeys
      exact hKeys.2.2 k hk k List.mem_cons_self rfl
    have hKey : 2 ≤ (Utf8.encode (quote k)).length := by
      rw [encode_quote]
      simp
    rw [entriesText_cons] at hFuel ⊢
    simp only [List.length_append, List.length_singleton] at hFuel
    rw [shapedEntries]
    refine (reads_nextKey_entry first k _).bind ?_
    refine (reads_colon _).bind ?_
    have hValue := hEs (k, v) List.mem_cons_self F (entriesText false es ++ 0x7D :: rest)
      (by dsimp only; omega) (closer_entriesText es rest)
    have hRest := reads_shapedEntries F false es (acc ++ [(k, v)]) rest
      (fun e he => hEs e (List.mem_cons_of_mem _ he))
      (by rw [List.append_assoc]; exact hKeys) (by omega)
    rw [List.append_assoc, List.singleton_append, ← Entries.insert_of_not_mem hFresh] at hRest
    exact hValue.bind hRest

theorem reads_shaped_dict {item : Shape} {es : List (String × Value)} (hd : 1 < d)
    (hEntries : Reads (shapedEntries F (d - 1) item true []) (entriesText true es) (0x7D :: rest)
      es) :
    Reads (shaped (F + 1) d (.dict item)) (Value.object es).toBytes rest (.object es) := by
  rw [shaped, toBytes_object, encode_renderEntries, ← List.nil_append (0x7B :: _)]
  refine (reads_skipSpace_cons (by decide) _).bind ?_
  simp +decide only
  rw [if_neg (by omega), ← List.singleton_append]
  exact (reads_bump 0x7B _).bind
    ((hEntries.container (reads_endObject rest)).bind_last (reads_pure _ _))

theorem readsBack_texts (vs : List String) (hd : 1 < d) :
    ReadsBack d (.list .string) (.array (vs.map .string)) := by
  intro F rest hFuel _
  have hLen : (Value.array (vs.map .string)).toBytes.length =
      (itemsText true (vs.map .string)).length + 2 := by
    rw [toBytes_array, encode_renderItems]
    simp
  obtain ⟨F, rfl⟩ : ∃ F', F = F' + 1 := ⟨F - 1, by omega⟩
  apply reads_shaped_list hd
  have hItems := @reads_shapedItems (d - 1) .string F true (vs.map .string) [] rest
    (fun x hx => by
      obtain ⟨s, -, rfl⟩ := List.mem_map.mp hx
      exact ⟨.string s, readsBack_text_plain rfl⟩)
    (by omega)
  rwa [List.reverse_nil, List.nil_append] at hItems

def headersValue (hs : List (String × List String)) : Value :=
  .object (hs.map fun h => (h.1, .array (h.2.map .string)))

theorem fieldReadsBack_headers {hs : List (String × List String)} (hNames : (hs.map (·.1)).Nodup)
    (hd : 2 < d) : FieldReadsBack d (.defaulted (.dict (.list .string))) (headersValue hs) := by
  intro F rest hFuel _
  obtain ⟨es, hEs⟩ : ∃ es, es = hs.map fun h => (h.1, Value.array (h.2.map .string)) := ⟨_, rfl⟩
  have hValue : headersValue hs = .object es := by rw [hEs]; rfl
  have hLen : (Value.object es).toBytes.length = (entriesText true es).length + 2 := by
    rw [toBytes_object, encode_renderEntries]
    simp
  rw [hValue] at hFuel ⊢
  obtain ⟨F, rfl⟩ : ∃ F', F = F' + 2 := ⟨F - 2, by omega⟩
  apply reads_shaped_defaulted
  apply reads_shaped_dict (by omega)
  have hEntries := @reads_shapedEntries (d - 1) (.list .string) F true es [] rest
    (fun e he => by
      rw [hEs] at he
      obtain ⟨h, -, rfl⟩ := List.mem_map.mp he
      exact (readsBack_texts h.2 (by omega)).field)
    (by rw [hEs, List.nil_append, Entries.keys, List.map_map]; exact hNames) (by omega)
  rwa [List.nil_append] at hEntries

end Fields

/-- A printed object reads back against a record as itself when each of its entries is a field
of the record that reads back, no key comes twice, no required field is left out and the
entries stand in field order. -/
theorem readShaped_record {name : String} {fields : List (String × Shape)}
    {es : List (String × Value)}
    (hEs : ∀ e ∈ es, ∃ s, fields.find? (·.1 == e.1) = some (e.1, s) ∧
      FieldReadsBack (depthLimit - 1) s e.2)
    (hKeys : (Entries.keys es).Nodup)
    (hMissing : fields.find? (fun f => !f.2.isDefaulted && !(es.any (·.1 == f.1))) = none)
    (hOrder : fields.filterMap (fun f => es.find? (·.1 == f.1)) = es) :
    readShaped (.record name fields) (Value.object es).toBytes = .ok (.object es) := by
  have hLen : (Value.object es).toBytes.length = (entriesText true es).length + 2 := by
    rw [toBytes_object, encode_renderEntries]
    simp
  have hEntries := reads_recordEntries fields (2 * (Value.object es).toBytes.length + 3) true es []
    [] hEs hKeys (by omega)
  have hRecord := @reads_shaped_record _ depthLimit [] name fields es (by decide) hEntries hMissing
  rw [hOrder] at hRecord
  have hRun := hRecord (Value.object es).toBytes 0
  rw [List.append_nil] at hRun
  rw [readShaped, run_bind,
    show 2 * (Value.object es).toBytes.length + 4 = 2 * (Value.object es).toBytes.length + 3 + 1
      from rfl, hRun]
  rfl

section Depth

variable {items : List Value} {es : List (String × Value)} {n : Nat}

theorem depth_array_le (h : ∀ x ∈ items, x.depth ≤ n) : (Value.array items).depth ≤ n + 1 := by
  rw [Value.depth]
  by_contra hDeep
  obtain ⟨x, hx, hx'⟩ := @exists_deep_item items (n + 1) (by omega) (by omega)
  exact absurd (h x hx) (by omega)

theorem depth_object_le (h : ∀ e ∈ es, e.2.depth ≤ n) : (Value.object es).depth ≤ n + 1 := by
  rw [Value.depth]
  by_contra hDeep
  obtain ⟨e, he, he'⟩ := @exists_deep_entry es (n + 1) (by omega) (by omega)
  exact absurd (h e he) (by omega)

end Depth

theorem headersValue_plain {hs : List (String × List String)} (hNames : (hs.map (·.1)).Nodup) :
    (headersValue hs).Plain ∧ (headersValue hs).depth ≤ 2 := by
  have hTexts : ∀ e ∈ hs.map (fun h => (h.1, Value.array (h.2.map .string))),
      e.2.Plain ∧ e.2.depth ≤ 1 := by
    intro e he
    obtain ⟨h, -, rfl⟩ := List.mem_map.mp he
    refine ⟨Value.plain_array fun x hx => ?_, depth_array_le fun x hx => ?_⟩
    · obtain ⟨s, -, rfl⟩ := List.mem_map.mp hx
      exact Value.plain_string s
    · obtain ⟨s, -, rfl⟩ := List.mem_map.mp hx
      rfl
  refine ⟨Value.plain_object ?_ fun e he => (hTexts e he).1, depth_object_le fun e he => (hTexts e he).2⟩
  rw [Entries.keys, List.map_map]
  exact hNames

end Json

namespace Processor

open Json

/-- A processor as its saved form describes it: its moment is one that `render` writes in full,
and a fetch's header names increase, as those of a map kept sorted by name. -/
def WellFormed : Processor → Prop
  | .json e | .yaml e => e.createdAt.Valid
  | .tile t => t.createdAt.Valid
  | .curl f => f.createdAt.Valid ∧ (f.headers.map (·.1)).Pairwise (· < ·)
  | .raw _ => True

section Fields

variable {d : Nat}

theorem fieldReadsBack_moment {t : Timestamp} (h : t.Valid) :
    FieldReadsBack d (.defaulted instantShape) (.string t.render) :=
  (readsBack_text (by simp [Timestamp.parse_render h])).field

theorem fieldReadsBack_text (s : String) : FieldReadsBack d (.defaulted .string) (.string s) :=
  (readsBack_text rfl).field

theorem fieldReadsBack_required (s : String) : FieldReadsBack d .string (.string s) :=
  (readsBack_text_plain rfl).field

end Fields

theorem insertSorted_of_lt {α : Type} {k : String} {v : α} :
    ∀ {acc : List (String × α)}, (∀ e ∈ acc, e.1 < k) → insertSorted k v acc = acc ++ [(k, v)]
  | [], _ => rfl
  | (k', v') :: acc, h => by
    have hlt : k' < k := h (k', v') List.mem_cons_self
    rw [insertSorted, if_neg (lt_asymm hlt), if_neg (by simpa using (ne_of_lt hlt).symm),
      insertSorted_of_lt fun e he => h e (List.mem_cons_of_mem _ he)]
    rfl

theorem foldl_insertSorted {α : Type} :
    ∀ (hs acc : List (String × α)), ((acc ++ hs).map (·.1)).Pairwise (· < ·) →
      hs.foldl (fun acc h => insertSorted h.1 h.2 acc) acc = acc ++ hs
  | [], acc, _ => by rw [List.foldl_nil, List.append_nil]
  | h :: hs, acc, hSorted => by
    have hlt : ∀ e ∈ acc, e.1 < h.1 := by
      intro e he
      rw [List.map_append, List.pairwise_append] at hSorted
      exact hSorted.2.2 e.1 (List.mem_map_of_mem he) h.1 (by simp)
    rw [List.foldl_cons, insertSorted_of_lt hlt,
      foldl_insertSorted hs (acc ++ [h]) (by rwa [List.append_assoc, List.singleton_append]),
      List.append_assoc, List.singleton_append]

theorem headersField_of_get {entries : List (String × Value)} {hs : List (String × List String)}
    (h : Entries.get? entries "headers" = some (headersValue hs))
    (hSorted : (hs.map (·.1)).Pairwise (· < ·)) : headersField (.object entries) = hs := by
  unfold headersField
  dsimp only
  rw [h, headersValue]
  dsimp only
  rw [List.foldl_map]
  simp only [List.filterMap_map, Function.comp_def, List.filterMap_some]
  exact foldl_insertSorted hs [] (by simpa using hSorted)

/-! ### Each kind reads its saved form back -/

theorem readShaped_edit {e : Edit} (h : e.createdAt.Valid) (name : String) {key : String}
    (hKey : key = "json_path" ∨ key = "yaml_path") :
    readShaped (editShape name key) (Edit.toValue e key).toBytes = .ok (Edit.toValue e key) := by
  rcases hKey with rfl | rfl <;>
  · apply readShaped_record
    · intro x hx
      simp only [List.mem_cons, List.not_mem_nil, or_false] at hx
      rcases hx with rfl | rfl | rfl | rfl | rfl | rfl
      · exact ⟨_, rfl, fieldReadsBack_text _⟩
      · exact ⟨_, rfl, fieldReadsBack_required _⟩
      · exact ⟨_, rfl, fieldReadsBack_required _⟩
      · exact ⟨_, rfl, fieldReadsBack_text _⟩
      · exact ⟨_, rfl, fieldReadsBack_text _⟩
      · exact ⟨_, rfl, fieldReadsBack_moment h⟩
    · simp [Entries.keys]
    · simp
    · simp

theorem readShaped_tile {t : Tile} (h : t.createdAt.Valid) {v : Value}
    (hv : (Processor.tile t).saved = .ok v) : readShaped tileShape v.toBytes = .ok v := by
  simp only [saved, Except.ok.injEq] at hv
  subst hv
  apply readShaped_record
  · intro x hx
    simp only [List.mem_cons, List.not_mem_nil, or_false] at hx
    rcases hx with rfl | rfl | rfl | rfl
    · exact ⟨_, rfl, fieldReadsBack_text _⟩
    · exact ⟨_, rfl, fieldReadsBack_required _⟩
    · exact ⟨_, rfl, fieldReadsBack_text _⟩
    · exact ⟨_, rfl, fieldReadsBack_moment h⟩
  · simp [Entries.keys]
  · simp
  · simp

theorem readShaped_fetch {f : Fetch} (h : (Processor.curl f).WellFormed) {v : Value}
    (hv : (Processor.curl f).saved = .ok v) : readShaped fetchShape v.toBytes = .ok v := by
  obtain ⟨hValid, hSorted⟩ := h
  simp only [saved, Except.ok.injEq] at hv
  subst hv
  apply readShaped_record
  · intro x hx
    simp only [List.mem_append, List.mem_cons, List.not_mem_nil, or_false] at hx
    rcases hx with (((rfl | rfl | rfl) | hBody) | hHeaders) | rfl | rfl
    · exact ⟨_, rfl, fieldReadsBack_text _⟩
    · exact ⟨_, rfl, fieldReadsBack_required _⟩
    · exact ⟨_, rfl, fieldReadsBack_text _⟩
    · cases hb : f.body with
      | none => simp [hb] at hBody
      | some b =>
        simp only [hb, List.mem_cons, List.not_mem_nil, or_false] at hBody
        subst hBody
        exact ⟨_, rfl, fieldReadsBack_body b⟩
    · split at hHeaders
      · simp at hHeaders
      · simp only [List.mem_cons, List.not_mem_nil, or_false] at hHeaders
        subst hHeaders
        exact ⟨_, rfl, fieldReadsBack_headers hSorted.nodup (by decide)⟩
    · exact ⟨_, rfl, fieldReadsBack_text _⟩
    · exact ⟨_, rfl, fieldReadsBack_moment hValid⟩
  all_goals cases f.body <;> cases f.headers.isEmpty <;> simp [Entries.keys, Shape.isDefaulted]

theorem load_saved {p : Processor} (hp : p.WellFormed) {v : Value} (hv : p.saved = .ok v)
    (now : Timestamp) : load p.kind v.toBytes now = some (.ok p) := by
  cases p with
  | json e =>
    simp only [saved, Except.ok.injEq] at hv
    subst hv
    have hRead := readShaped_edit (e := e) hp "JsonProcessor" (.inl rfl)
    simp only [kind, load, loadEdit, readSaved, Bool.false_eq_true, if_false, hRead]
    obtain ⟨path, op, keyPath, value, author, createdAt⟩ := e
    simp [textField, stampField, Entries.get?, Edit.toValue, Timestamp.parse_render hp]
  | yaml e =>
    simp only [saved, Except.ok.injEq] at hv
    subst hv
    have hRead := readShaped_edit (e := e) hp "YamlProcessor" (.inr rfl)
    simp only [kind, load, loadEdit, readSaved, if_true, hRead]
    obtain ⟨path, op, keyPath, value, author, createdAt⟩ := e
    simp [textField, stampField, Entries.get?, Edit.toValue, Timestamp.parse_render hp]
  | tile t =>
    have hRead := readShaped_tile hp hv
    simp only [saved, Except.ok.injEq] at hv
    subst hv
    obtain ⟨path, content, author, createdAt⟩ := t
    simp [kind, load, loadTile, readSaved, hRead, textField, stampField, Entries.get?,
      Timestamp.parse_render hp]
  | curl f =>
    obtain ⟨path, url, method, body, headers, author, createdAt⟩ := f
    obtain ⟨hValid, hSorted⟩ := hp
    have hRead := readShaped_fetch ⟨hValid, hSorted⟩ hv
    simp only [saved, Except.ok.injEq] at hv
    subst hv
    simp only [kind, load, loadFetch, readSaved, hRead]
    cases hh : headers.isEmpty
    · cases body <;>
        simp [textField, stampField, bodyField, Entries.get?, Timestamp.parse_render hValid] <;>
        apply headersField_of_get _ hSorted <;>
        simp [Entries.get?, headersValue]
    · obtain rfl := List.isEmpty_iff.mp hh
      cases body <;>
        simp [textField, stampField, bodyField, headersField, Entries.get?,
          Timestamp.parse_render hValid]
  | raw r => simp [saved] at hv

theorem plain_savedObject {es : List (String × Value)} (hKeys : (Entries.keys es).Nodup)
    (h : ∀ e ∈ es, (∃ s, e.2 = .string s) ∨ ∃ hs : List (String × List String),
      (hs.map (·.1)).Nodup ∧ e.2 = headersValue hs) :
    (Value.object es).Plain ∧ (Value.object es).depth ≤ 3 := by
  have hEntries : ∀ e ∈ es, e.2.Plain ∧ e.2.depth ≤ 2 := by
    intro e he
    rcases h e he with ⟨s, hs⟩ | ⟨hs, hNames, hHeaders⟩
    · rw [hs]
      exact ⟨Value.plain_string s, Nat.zero_le _⟩
    · rw [hHeaders]
      exact headersValue_plain hNames
  exact ⟨Value.plain_object hKeys fun e he => (hEntries e he).1,
    depth_object_le fun e he => (hEntries e he).2⟩

theorem plain_saved {p : Processor} (hp : p.WellFormed) {v : Value} (hv : p.saved = .ok v) :
    v.Plain ∧ v.depth ≤ 3 := by
  cases p with
  | json e | yaml e =>
    simp only [saved, Except.ok.injEq] at hv
    subst hv
    apply plain_savedObject (by simp [Entries.keys])
    intro x hx
    simp only [List.mem_cons, List.not_mem_nil, or_false] at hx
    rcases hx with rfl | rfl | rfl | rfl | rfl | rfl <;> exact .inl ⟨_, rfl⟩
  | tile t =>
    simp only [saved, Except.ok.injEq] at hv
    subst hv
    apply plain_savedObject (by simp [Entries.keys])
    intro x hx
    simp only [List.mem_cons, List.not_mem_nil, or_false] at hx
    rcases hx with rfl | rfl | rfl | rfl <;> exact .inl ⟨_, rfl⟩
  | curl f =>
    obtain ⟨-, hSorted⟩ := hp
    simp only [saved, Except.ok.injEq] at hv
    subst hv
    apply plain_savedObject (by cases f.body <;> cases f.headers.isEmpty <;> simp [Entries.keys])
    intro x hx
    simp only [List.mem_append, List.mem_cons, List.not_mem_nil, or_false] at hx
    rcases hx with (((rfl | rfl | rfl) | hBody) | hHeaders) | rfl | rfl
    · exact .inl ⟨_, rfl⟩
    · exact .inl ⟨_, rfl⟩
    · exact .inl ⟨_, rfl⟩
    · cases hb : f.body with
      | none => simp [hb] at hBody
      | some b =>
        simp only [hb, List.mem_cons, List.not_mem_nil, or_false] at hBody
        subst hBody
        exact .inl ⟨b, rfl⟩
    · split at hHeaders
      · simp at hHeaders
      · simp only [List.mem_cons, List.not_mem_nil, or_false] at hHeaders
        subst hHeaders
        exact .inr ⟨f.headers, hSorted.nodup, rfl⟩
    · exact .inl ⟨_, rfl⟩
    · exact .inl ⟨_, rfl⟩
  | raw r => simp [saved] at hv

end Processor

end RuleOverlay
