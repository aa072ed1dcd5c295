import Mathlib
import RuleOverlay.Proofs.Reread
import RuleOverlay.Proofs.DurationText
/-! # Configurations as JSON

A configuration is written as one JSON object of five texts, in field order, its durations in
the text `Duration.format` gives them. The reader of the configuration's shape reads such an
object one known field at a time (`reads_recordEntries`), each text through the check of its
field (`reads_shaped_text`, `reads_shaped_converted`), and answers the fields in field order
(`reads_shaped_record`). So the configuration comes back whole as soon as both of its durations
read back (`fromJson_toValue`).
-/
namespace RuleOverlay

namespace Json

/-! ### Texts and records against their shapes -/

section Shaped

variable {F d : Nat} {rest : Bytes}

theorem toBytes_string (s : String) :
    (Value.string s).toBytes = [] ++ ([0x22] ++ (escapedBytes s.toList ++ [0x22])) := by
  rw [Value.toBytes, Value.render, encode_quote]
  rfl

theorem reads_shaped_text {expecting s : String} {check : String → Option String}
    (h : check s = none) :
    Reads (shaped (F + 1) d (.text expecting check)) (Value.string s).toBytes rest (.string s) := by
  rw [shaped, toBytes_string]
  refine (reads_skipSpace_cons (by decide) _).bind ?_
  simp +decide only
  refine (reads_bump 0x22 _).bind ((reads_string s rest).bind_last ?_)
  rw [h]
  exact reads_pure _ _

theorem reads_shaped_converted {s : String} {check : String → Option String}
    (h : check s = none) :
    Reads (shaped (F + 1) d (.converted check)) (Value.string s).toBytes rest (.string s) := by
  rw [shaped, toBytes_string]
  refine (reads_skipSpace_cons (by decide) _).bind ?_
  simp +decide only
  refine (reads_bump 0x22 _).bind ((reads_string s rest).bind_last ?_)
  rw [h]
  exact reads_pure _ _

theorem reads_shaped_defaulted {X : Bytes} {s : Shape} {v : Value}
    (h : Reads (shaped F d s) X rest v) : Reads (shaped (F + 1) d (.defaulted s)) X rest v := by
  rw [shaped]
  exact h

def ReadsBack (d : Nat) (s : Shape) (v : Value) : Prop :=
  ∀ F rest, v.toBytes.length ≤ F → Closer rest → Reads (shaped F d s) v.toBytes rest v

/-- A value that reads back once the reader has more fuel than its text has bytes, as the value
of a field does: its key and a colon stand before it. -/
def FieldReadsBack (d : Nat) (s : Shape) (v : Value) : Prop :=
  ∀ F rest, v.toBytes.length < F → Closer rest → Reads (shaped F d s) v.toBytes rest v

theorem ReadsBack.field {s : Shape} {v : Value} (h : ReadsBack d s v) : FieldReadsBack d s v :=
  fun F rest hFuel hRest => h F rest hFuel.le hRest

theorem readsBack_text {expecting s : String} {check : String → Option String}
    (h : check s = none) : ReadsBack d (.defaulted (.text expecting check)) (.string s) := by
  intro F rest hFuel _
  obtain ⟨F, rfl⟩ : ∃ F', F = F' + 2 := ⟨F - 2, by rw [toBytes_string] at hFuel; simp at hFuel; omega⟩
  exact reads_shaped_defaulted (reads_shaped_text h)

theorem readsBack_converted {s : String} {check : String → Option String}
    (h : check s = none) : ReadsBack d (.defaulted (.converted check)) (.string s) := by
  intro F rest hFuel _
  obtain ⟨F, rfl⟩ : ∃ F', F = F' + 2 := ⟨F - 2, by rw [toBytes_string] at hFuel; simp at hFuel; omega⟩
  exact reads_shaped_defaulted (reads_shaped_converted h)

/-- Printed entries read back against a record, one known field after another, up to the
closing brace, as long as no key comes twice and each field's shape reads its value back. -/
theorem reads_recordEntries {d : Nat} (fields : List (String × Shape)) :
    ∀ (F : Nat) (first : Bool) (es acc : List (String × Value)) (rest : Bytes),
      (∀ e ∈ es, ∃ s, fields.find? (·.1 == e.1) = some (e.1, s) ∧ FieldReadsBack d s e.2) →
      (Entries.keys (acc ++ es)).Nodup → (entriesText first es).length < F →
      Reads (recordEntries F d fields first acc) (entriesText first es) (0x7D :: rest) (acc ++ es)
  | 0, _, _, _, _, _, _, hFuel => absurd hFuel (Nat.not_lt_zero _)
  | F + 1, first, [], acc, rest, _, _, _ => by
    rw [recordEntries, List.append_nil]
    exact (reads_nextKey_close first rest).bind_last (reads_pure _ _)
  | F + 1, first, (k, v) :: es, acc, rest, hEs, hKeys, hFuel => by
    obtain ⟨s, hFind, hBack⟩ : ∃ s, fields.find? (·.1 == k) = some (k, s) ∧ FieldReadsBack d s v :=
      hEs (k, v) List.mem_cons_self
    have hKey : 2 ≤ (Utf8.encode (quote k)).length := by
      rw [encode_quote]
      simp
    have hFresh : k ∉ Entries.keys acc := by
      intro hk
      rw [Entries.keys_append, Entries.keys_cons, List.nodup_append] at hKeys
      exact hKeys.2.2 k hk k List.mem_cons_self rfl
    have hAny : acc.any (·.1 == k) = false :=
      Bool.eq_false_iff.mpr fun hc => hFresh (Entries.contains_iff.mp hc)
    rw [entriesText_cons] at hFuel ⊢
    simp only [List.length_append, List.length_singleton] at hFuel
    rw [recordEntries]
    refine (reads_nextKey_entry first k _).bind ?_
    dsimp only
    rw [hFind]
    dsimp only
    rw [hAny, if_neg Bool.false_ne_true]
    refine (reads_colon _).bind ?_
    have hValue := hBack F (entriesText false es ++ 0x7D :: rest) (by omega)
      (closer_entriesText es rest)
    have hRest := reads_recordEntries fields F false es (acc ++ [(k, v)]) rest
      (fun e he => hEs e (List.mem_cons_of_mem _ he))
      (by rw [List.append_assoc]; exact hKeys) (by omega)
    rw [List.append_assoc, List.singleton_append] at hRest
    exact hValue.bind hRest

/-- A printed object reads back against a record that leaves out none of its required fields,
as the entries of the fields in field order. -/
theorem reads_shaped_record {F d : Nat} {rest : Bytes} {name : String}
    {fields : List (String × Shape)} {es : List (String × Value)} (hd : 1 < d)
    (hEntries : Reads (recordEntries F (d - 1) fields true []) (entriesText true es)
      (0x7D :: rest) es)
    (hMissing : fields.find? (fun f => !f.2.isDefaulted && !(es.any (·.1 == f.1))) = none) :
    Reads (shaped (F + 1) d (.record name fields)) (Value.object es).toBytes rest
      (.object (fields.filterMap fun f => es.find? (·.1 == f.1))) := by
  rw [shaped, toBytes_object, encode_renderEntries, ← List.nil_append (0x7B :: _)]
  refine (reads_skipSpace_cons (by decide) _).bind ?_
  simp +decide only
  rw [if_neg (by omega), ← List.singleton_append]
  refine (reads_bump 0x7B _).bind ((hEntries.container (reads_endObject rest)).bind_last ?_)
  rw [hMissing]
  exact reads_pure _ _

end Shaped

end Json

namespace EngineConfig

open Json

/-- The printed text of a configuration reads back, against the configuration's shape, as the
configuration's value, when both of its durations are writable. -/
theorem readShaped_toValue {c : EngineConfig} (hRefresh : c.refreshInterval.Writable)
    (hShutdown : c.shutdownTimeout.Writable) : readShaped shape c.toValue.toBytes = .ok c.toValue := by
  obtain ⟨r, t, tm, ri, st⟩ := c
  dsimp only at hRefresh hShutdown
  let fields : List (String × Shape) := [("rules_file", .defaulted .pathText),
    ("tree_name", .defaulted .string), ("template", .defaulted .string),
    ("refresh_interval", .defaulted durationShape), ("shutdown_timeout", .defaulted durationShape)]
  let es : List (String × Value) := [("rules_file", .string r), ("tree_name", .string t),
    ("template", .string tm), ("refresh_interval", .string ri.format),
    ("shutdown_timeout", .string st.format)]
  have hValue : (EngineConfig.mk r t tm ri st).toValue = .object es := rfl
  have hShape : shape = .record "EngineConfig" fields := rfl
  have hEs : ∀ e ∈ es, ∃ s, fields.find? (·.1 == e.1) = some (e.1, s) ∧
      FieldReadsBack (depthLimit - 1) s e.2 := by
    intro e he
    simp only [es, List.mem_cons, List.not_mem_nil, or_false] at he
    rcases he with rfl | rfl | rfl | rfl | rfl
    · exact ⟨_, rfl, (readsBack_text rfl).field⟩
    · exact ⟨_, rfl, (readsBack_text rfl).field⟩
    · exact ⟨_, rfl, (readsBack_text rfl).field⟩
    · exact ⟨_, rfl, (readsBack_converted (by simp [Duration.parse_format, hRefresh])).field⟩
    · exact ⟨_, rfl, (readsBack_converted (by simp [Duration.parse_format, hShutdown])).field⟩
  have hLen : (Value.object es).toBytes.length = (entriesText true es).length + 2 := by
    rw [toBytes_object, encode_renderEntries]
    simp
  have hEntries := reads_recordEntries fields (2 * (Value.object es).toBytes.length + 3) true es []
    [] hEs (by simp [es, Entries.keys]) (by omega)
  have hRecord := @reads_shaped_record _ depthLimit [] "EngineConfig" fields es (by decide) hEntries
    (by rfl)
  have hOut : fields.filterMap (fun f => es.find? (·.1 == f.1)) = es := by
    simp [fields, es]
  rw [hOut] at hRecord
  rw [hValue, readShaped, run_bind, hShape,
    show 2 * (Value.object es).toBytes.length + 4 = 2 * (Value.object es).toBytes.length + 3 + 1
      from rfl]
  have hRun := hRecord (Value.object es).toBytes 0
  rw [List.append_nil] at hRun
  rw [hRun]
  rfl

theorem fromJson_toValue {c : EngineConfig} (hRefresh : c.refreshInterval.Writable)
    (hShutdown : c.shutdownTimeout.Writable) : fromJson c.toValue.toBytes = .ok c := by
  have hRules : textField c.toValue "rules_file" = some c.rulesFile := rfl
  have hTree : textField c.toValue "tree_name" = some c.treeName := rfl
  have hTemplate : textField c.toValue "template" = some c.template := rfl
  have hRefreshText : textField c.toValue "refresh_interval" = some c.refreshInterval.format := rfl
  have hShutdownText : textField c.toValue "shutdown_timeout" = some c.shutdownTimeout.format :=
    rfl
  have hRefreshBack := Duration.parse_format c.refreshInterval
  have hShutdownBack := Duration.parse_format c.shutdownTimeout
  rw [if_pos hRefresh] at hRefreshBack
  rw [if_pos hShutdown] at hShutdownBack
  unfold fromJson
  rw [readShaped_toValue hRefresh hShutdown]
  simp only [bind, Except.bind, pure, Except.pure, hRules, hTree, hTemplate, hRefreshText,
    hShutdownText, Option.bind_some, hRefreshBack, hShutdownBack, Option.getD_some]

/-! ### Round trips -/

/-- A duration's text reads back as the duration exactly when the duration is writable, and a
configuration whose two durations are writable reads back from its JSON text as itself. -/
theorem writable_text_reads_back (d : Duration) {c : EngineConfig}
    (hRefresh : c.refreshInterval.Writable) (hShutdown : c.shutdownTimeout.Writable) :
    (Duration.parse d.format = some d ↔ d.Writable) ∧ fromJson c.toValue.toBytes = .ok c := by
  refine ⟨?_, fromJson_toValue hRefresh hShutdown⟩
  rw [Duration.parse_format]
  split
  · exact iff_of_true rfl ‹_›
  · exact iff_of_false (by simp) ‹_›

/-- A configuration refreshed every `2^64 - 1` milliseconds, the most `parse` reads in
milliseconds, reads back from its text. -/
theorem writable_text_reads_back_at_limit :
    Duration.Writable ⟨Duration.amountLimit⟩ ∧ EngineConfig.default.shutdownTimeout.Writable ∧
      (Duration.parse (⟨Duration.amountLimit⟩ : Duration).format = some ⟨Duration.amountLimit⟩ ↔
        Duration.Writable ⟨Duration.amountLimit⟩) ∧
      fromJson { EngineConfig.default with refreshInterval := ⟨Duration.amountLimit⟩ }.toValue.toBytes =
        .ok { EngineConfig.default with refreshInterval := ⟨Duration.amountLimit⟩ } :=
  ⟨by decide, by decide, writable_text_reads_back ⟨Duration.amountLimit⟩ (by decide) (by decide)⟩

/-- `2^64` milliseconds, some 584 million years and well within the seconds a duration holds, is
no whole number of seconds: it is written in milliseconds, and `parse` refuses that amount. -/
theorem format_unreadable_past_u64_millis :
    (⟨Nat.pow 2 64⟩ : Duration).secs ≤ Duration.amountLimit ∧
      (⟨Nat.pow 2 64⟩ : Duration).format = "18446744073709551616ms" ∧
      Duration.parse (⟨Nat.pow 2 64⟩ : Duration).format = none :=
  ⟨by decide, by decide, by decide⟩

end EngineConfig

end RuleOverlay
