import RuleOverlay.Proofs.Places
/-! # Writing and reading a key path

A write and a read of one key path form a lens. What is written is read back. Along a path
without `-1`, writing what is read changes nothing, key order included, and a second write
overwrites the first; a write that fails fails the same way whatever is written. `-1` is kept
apart: it reads the last item but writes past it.

A write keeps the order of the keys of every object it passes through and puts a key it adds
last. Each law comes from the one-segment description of a write in `Places`; the read-back of
a write needs no assumption on the document, while writing back what was read needs one entry
per key, as a document has.
-/
namespace RuleOverlay

namespace Json

variable {doc doc' : Value} {t : String}

theorem getAt_setAt {v : Value} (h : doc.setAt t v = .ok doc') : doc'.getAt t = some v := by
  obtain ⟨parts, hSeg, hWrite⟩ := setAt_eq_ok_iff.mp h
  have hOk : (writeAt t v parts doc).2 = none := by rw [hWrite]
  have hRead := readAt_writeAt hOk
  rw [hWrite] at hRead
  rw [getAt_of_segmentsOf hSeg]
  exact hRead

theorem setAt_getAt (hWF : doc.WellFormed) (hNoLast : "-1" ∉ dotPieces (Text.trim t)) {x : Value}
    (h : doc.getAt t = some x) : doc.setAt t x = .ok doc := by
  cases hSeg : segmentsOf t with
  | error e => simp [Value.getAt, hSeg] at h
  | ok parts =>
    have hParts : parts = dotPieces (Text.trim t) := (segmentsOf_eq_ok_iff.mp hSeg).1
    rw [getAt_of_segmentsOf hSeg] at h
    obtain ⟨fs, hfs, rfl⟩ := exists_frames_of_readAt h
    have hKeyed := (wellFormed_fillAll hWF).1
    have hWrite := writeAt_fillAll t x [] x hfs hKeyed (hParts ▸ hNoLast)
    rw [List.append_nil] at hWrite
    exact setAt_eq_ok_iff.mpr ⟨parts, hSeg, by simpa [writeAt] using hWrite⟩

theorem setAt_error_of_error {v₁ v₂ : Value} {e : KeyPathError}
    (h : doc.setAt t v₁ = .error e) :
    doc.setAt t v₂ = .error e := by
  rcases setAt_eq_error_iff.mp h with hSeg | ⟨parts, hSeg, hFault⟩
  · exact setAt_eq_error_iff.mpr (.inl hSeg)
  · exact setAt_eq_error_iff.mpr
      (.inr ⟨parts, hSeg, (writeAt_fault v₁ v₂ parts doc) ▸ hFault⟩)

theorem setAt_setAt (hNoLast : "-1" ∉ dotPieces (Text.trim t)) {v₁ v₂ doc₁ : Value}
    (h : doc.setAt t v₁ = .ok doc₁) : doc₁.setAt t v₂ = doc.setAt t v₂ := by
  obtain ⟨parts, hSeg, hWrite⟩ := setAt_eq_ok_iff.mp h
  have hParts : parts = dotPieces (Text.trim t) := (segmentsOf_eq_ok_iff.mp hSeg).1
  have hTwice := @writeAt_writeAt t v₁ v₂ parts doc (hParts ▸ hNoLast)
    (by rw [hWrite])
  rw [hWrite] at hTwice
  simp only [Value.setAt, Value.write, hSeg, hTwice]

/-- A write keeps the keys of every object its walk stands at, in their order, and adds the key
it writes there at the end when it is new. -/
theorem keys_setAt_of_reach {v : Value} (h : doc.setAt t v = .ok doc') {pre rest : List String}
    {raw : String} (hParts : dotPieces (Text.trim t) = pre ++ raw :: rest)
    {es : List (String × Value)} (hReach : reach pre doc = some (.object es)) :
    ∃ es', readAt pre doc' = some (.object es') ∧
      Entries.keys es' =
        if Entries.contains es raw then Entries.keys es else Entries.keys es ++ [raw] := by
  obtain ⟨parts, hSeg, hWrite⟩ := setAt_eq_ok_iff.mp h
  have hParts' : parts = pre ++ raw :: rest := (segmentsOf_eq_ok_iff.mp hSeg).1.trans hParts
  subst hParts'
  obtain ⟨y, hy, hRead⟩ := readAt_writeAt_append v (raw :: rest) pre doc (by rw [hWrite])
  rw [hReach] at hy
  cases hy
  rw [hWrite] at hRead
  have hObject : (writeAt t v (raw :: rest) (.object es)).1 =
      .object (Entries.insert es raw (writeAt t v rest ((Entries.get? es raw).getD .null)).1) := by
    simp [writeAt]
  rw [hObject] at hRead
  exact ⟨_, hRead, Entries.keys_insert⟩

/-- Writing and reading one key path form a lens. What is written is read back. Along a path
with no segment `-1`: writing back what a read finds changes nothing, key order included; a write
fails with the same error whatever it writes; and a second write of the path gives what a write of
the second value alone gives. A write keeps the keys of every object on its walk in their order
and puts a new key after them. -/
theorem setAt_lens_laws (doc : Value) (t : String) :
    (∀ v doc', doc.setAt t v = .ok doc' → doc'.getAt t = some v) ∧
    ("-1" ∉ dotPieces (Text.trim t) →
      (doc.WellFormed → ∀ x, doc.getAt t = some x → doc.setAt t x = .ok doc) ∧
      (∀ v₁ v₂ e, doc.setAt t v₁ = .error e → doc.setAt t v₂ = .error e) ∧
      (∀ v₁ v₂ doc₁, doc.setAt t v₁ = .ok doc₁ →
        doc₁.setAt t v₂ = doc.setAt t v₂)) ∧
    (∀ v doc', doc.setAt t v = .ok doc' → ∀ pre raw rest es,
      dotPieces (Text.trim t) = pre ++ raw :: rest → reach pre doc = some (.object es) →
      ∃ es', readAt pre doc' = some (.object es') ∧
        Entries.keys es' =
          if Entries.contains es raw then Entries.keys es else Entries.keys es ++ [raw]) :=
  ⟨fun _ _ h => getAt_setAt h,
    fun hNoLast => ⟨fun hWF _ h => setAt_getAt hWF hNoLast h,
      fun _ _ _ h => setAt_error_of_error h, fun _ _ _ h => setAt_setAt hNoLast h⟩,
    fun _ _ h _ _ _ _ hParts hReach => keys_setAt_of_reach h hParts hReach⟩

theorem setAt_lens_laws_list_item :
    let doc : Value := .object [("list", .array [.number (.nat 1), .number (.nat 2)])]
    "-1" ∉ dotPieces (Text.trim "list.1") ∧ doc.WellFormed ∧
      doc.getAt "list.1" = some (.number (.nat 2)) ∧
      doc.setAt "list.1" (.number (.nat 2)) = .ok doc := by
  intro doc
  have hNoLast : "-1" ∉ dotPieces (Text.trim "list.1") := by decide
  have hWF : doc.WellFormed := by
    refine .object (by decide) ?_
    simp only [List.mem_singleton, forall_eq]
    refine .array (by decide) ?_
    simp only [List.mem_cons, List.not_mem_nil, or_false, forall_eq_or_imp, forall_eq]
    exact ⟨.number _, .number _⟩
  have hIndex : Step.ofSegment "1" = .index 1 :=
    Step.ofSegment_of_digits (by decide) (by simp) (by decide)
  have hSeg : segmentsOf "list.1" = .ok ["list", "1"] := by rfl
  have hGet : doc.getAt "list.1" = some (.number (.nat 2)) := by
    simp [doc, Value.getAt, hSeg, readAt, child?, Entries.get?, hIndex]
  exact ⟨hNoLast, hWF, hGet, ((setAt_lens_laws doc "list.1").2.1 hNoLast).1 hWF _ hGet⟩

end Json

end RuleOverlay
