import RuleOverlay.Proofs.Places
/-! # Where a write fails and how far it pads

A write of a key path fails exactly when the target is blank, a piece between its dots is empty,
or its walk cannot go on: it meets a list with a key segment (a numeral too large for 64 bits
counts as a key), or with an index more than `maxPadding` slots past the end, or one whose
successor does not count in 64 bits. The walk is `reach`, one `Value.enter` per segment.

A write that succeeds leaves every list its walk went through with `max n (i + 1)` items, where
`n` is the list's length and `i` the slot the write took; that is at most `n + maxPadding + 1`,
the slot lies inside the list, and where the list grew, `i + 1` counts in 64 bits.
-/
namespace RuleOverlay

namespace Json

variable {doc doc' : Value} {t : String} {v : Value}

theorem segmentsOf_error_iff :
    (∃ e, segmentsOf t = .error e) ↔ Text.trim t = "" ∨ "" ∈ dotPieces (Text.trim t) := by
  cases hSeg : segmentsOf t with
  | error e =>
    simp only [Except.error.injEq, exists_eq', true_iff]
    by_contra hNot
    rw [not_or] at hNot
    have hOk : segmentsOf t = .ok (dotPieces (Text.trim t)) :=
      segmentsOf_eq_ok_iff.mpr ⟨rfl, hNot.1, hNot.2⟩
    rw [hSeg] at hOk
    cases hOk
  | ok parts =>
    obtain ⟨hParts, hTrim, hPieces⟩ := segmentsOf_eq_ok_iff.mp hSeg
    simp [hTrim, ← hParts, hPieces]

theorem setAt_error_iff :
    (∃ e, doc.setAt t v = .error e) ↔
      Text.trim t = "" ∨ "" ∈ dotPieces (Text.trim t) ∨
        reach (dotPieces (Text.trim t)) doc = none := by
  cases hSeg : segmentsOf t with
  | error e =>
    have hBad := segmentsOf_error_iff.mp ⟨e, hSeg⟩
    exact ⟨fun _ => hBad.elim .inl (.inr ∘ .inl),
      fun _ => ⟨e, setAt_eq_error_iff.mpr (.inl hSeg)⟩⟩
  | ok parts =>
    obtain ⟨hParts, hTrim, hPieces⟩ := segmentsOf_eq_ok_iff.mp hSeg
    rw [← hParts]
    simp only [hTrim, hPieces, false_or, setAt_eq_error_iff, hSeg, reduceCtorEq,
      Except.ok.injEq, exists_eq_left']
    have hOk := @writeAt_ok_iff t v parts doc
    constructor
    · rintro ⟨e, he⟩
      rw [he] at hOk
      simpa using hOk
    · intro hStop
      rw [hStop] at hOk
      cases hFault : (writeAt t v parts doc).2 with
      | none => rw [hFault] at hOk; simp at hOk
      | some e => exact ⟨e, rfl⟩

/-- After a write that succeeds, a list its walk went through has the slot the write took, and
as many items as the list had or one more than that slot, whichever is more. -/
theorem length_setAt_of_reach (h : doc.setAt t v = .ok doc') {pre rest : List String} {raw : String}
    (hParts : dotPieces (Text.trim t) = pre ++ raw :: rest) {node : Value}
    (hReach : reach pre doc = some node) {items : List Value}
    (hList : node.container raw = .array items) :
    ∃ i items', Step.slot raw items.length = some i ∧ readAt pre doc' = some (.array items') ∧
      items'.length = max items.length (i + 1) ∧
      (i < items.length ∨ (i - items.length ≤ maxPadding ∧ i + 1 < Nat.pow 2 64)) := by
  obtain ⟨parts, hSeg, hWrite⟩ := setAt_eq_ok_iff.mp h
  have hParts' : parts = pre ++ raw :: rest := (segmentsOf_eq_ok_iff.mp hSeg).1.trans hParts
  subst hParts'
  have hOk : (writeAt t v (pre ++ raw :: rest) doc).2 = none := by rw [hWrite]
  obtain ⟨y, hy, hRead⟩ := readAt_writeAt_append v (raw :: rest) pre doc hOk
  rw [hReach] at hy
  cases hy
  rw [hWrite] at hRead
  have hWalk := (writeAt_ok_iff v _ doc).mp hOk
  rw [reach_append, hReach, Option.bind_some, reach_cons] at hWalk
  obtain ⟨z, hz⟩ := Option.isSome_iff_exists.mp (Option.isSome_of_isSome_bind hWalk)
  obtain ⟨i, hSlot, hFits, -, hPlug⟩ := enter_eq_some_of_array hList hz
  rw [writeAt_cons, hz] at hRead
  dsimp only at hRead
  rw [hPlug] at hRead
  exact ⟨i, _, hSlot, hRead, length_spliceAt, hFits⟩

/-- A write fails exactly when the target is blank, a piece between its dots is empty, or the
walk of its segments stops: at a list with a key segment, or with an index more than
`maxPadding` past its end or whose successor does not count in 64 bits. A write that succeeds
leaves every list on its walk with `max n (i + 1)` items, at most `n + maxPadding + 1`, where `n`
is the list's length and `i` the slot taken; the slot is inside the list, and where the list grew,
`i + 1` counts in 64 bits. -/
theorem setAt_fails_iff_unreachable (doc : Value) (t : String) (v : Value) :
    ((∃ e, doc.setAt t v = .error e) ↔
      Text.trim t = "" ∨ "" ∈ dotPieces (Text.trim t) ∨
        reach (dotPieces (Text.trim t)) doc = none) ∧
    (∀ doc', doc.setAt t v = .ok doc' → ∀ pre raw rest node items,
      dotPieces (Text.trim t) = pre ++ raw :: rest → reach pre doc = some node →
      node.container raw = .array items →
      ∃ i items', Step.slot raw items.length = some i ∧
        readAt pre doc' = some (.array items') ∧ items'.length = max items.length (i + 1) ∧
        items'.length ≤ items.length + maxPadding + 1 ∧ i < items'.length ∧
        (items.length ≤ i → i + 1 < Nat.pow 2 64)) := by
  refine ⟨setAt_error_iff, fun doc' h pre raw rest node items hParts hReach hList => ?_⟩
  obtain ⟨i, items', hSlot, hRead, hLength, hFits⟩ :=
    length_setAt_of_reach h hParts hReach hList
  refine ⟨i, items', hSlot, hRead, hLength, ?_, ?_, ?_⟩ <;> omega

/-- On `{"list": [1]}`: a key segment on the list stops the walk, so the write fails; a write at
`list.3` pads the list to four items. -/
theorem setAt_fails_iff_unreachable_list :
    let doc : Value := .object [("list", .array [.number (.nat 1)])]
    let doc' : Value :=
      .object [("list", .array [.number (.nat 1), .null, .null, .number (.nat 4)])]
    (∃ e, doc.setAt "list.name" (.string "x") = .error e) ∧
      doc.setAt "list.3" (.number (.nat 4)) = .ok doc' ∧
      ∃ i items', Step.slot "3" 1 = some i ∧ readAt ["list"] doc' = some (.array items') ∧
        items'.length = max 1 (i + 1) ∧ items'.length ≤ 1 + maxPadding + 1 ∧
        i < items'.length ∧
        (1 ≤ i → i + 1 < Nat.pow 2 64) := by
  intro doc doc'
  have hKey : Step.ofSegment "name" = .key "name" := by simp [Step.ofSegment]
  have hIndex : Step.ofSegment "3" = .index 3 :=
    Step.ofSegment_of_digits (by decide) (by simp) (by decide)
  have hStop : reach (dotPieces (Text.trim "list.name")) doc = none := by
    rw [show dotPieces (Text.trim "list.name") = ["list", "name"] by decide]
    simp [doc, reach, Value.enter, Value.container, Entries.get?, Step.slot, hKey]
  have hSeg : segmentsOf "list.3" = .ok ["list", "3"] := by rfl
  have hSet : doc.setAt "list.3" (.number (.nat 4)) = .ok doc' := by
    simp [doc, doc', Value.setAt, Value.write, hSeg, writeAt, writeItem, hIndex, Entries.get?,
      Entries.insert, nulls, maxPadding]
  have hParts : dotPieces (Text.trim "list.3") = [] ++ "list" :: ["3"] := by decide
  exact ⟨(setAt_fails_iff_unreachable doc "list.name" (.string "x")).1.mpr (.inr (.inr hStop)),
    hSet, (setAt_fails_iff_unreachable doc "list.3" (.number (.nat 4))).2 doc' hSet ["list"] "3"
      [] (.array [.number (.nat 1)]) [.number (.nat 1)] (by simpa using hParts)
      (by simp [doc, reach, Value.enter, Value.container, Entries.get?]) rfl⟩

end Json

end RuleOverlay
