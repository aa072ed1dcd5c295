import RuleOverlay.Proofs.Places
/-! # Deleting at a key path

A delete reads its way down the segments but the last, as a read does, and then removes from the
container it reached the entry the last segment names: the entry of a key, keeping the order of
the others; the item at an index, moving the later ones up; the last item for `-1`. Where the
read finds nothing, nothing changes.

In frames: a document whose path is read through the frames `fs` and a last frame `f` is
`fillAll fs (f.fill x)`, and the delete leaves `fillAll fs f.close`. A delete also undoes a write
that added a new entry to a container that was there: a new key of an object, or a new item at
the end of a list.
-/
namespace RuleOverlay

namespace Json

variable {node y x : Value} {raw last : String}

/-! ### One container -/

theorem removeChild_fill {f : Frame} (h : f.Reads raw) (hKeyed : f.Keyed) (x : Value) :
    removeChild (f.fill x) raw = f.close := by
  cases f with
  | entry b k a =>
    obtain ⟨rfl, hb⟩ := h
    have hNodup := List.nodup_middle.mp hKeyed
    have ha : k ∉ Entries.keys a := fun hk =>
      (List.nodup_cons.mp hNodup).1 (List.mem_append_right _ hk)
    simp [removeChild, Frame.fill, Frame.close, Entries.erase_middle hb ha]
  | item b a =>
    rcases h with hIndex | ⟨hLast, rfl⟩
    · simp [removeChild, Frame.fill, Frame.close, hIndex, List.eraseIdx_append_of_length_le]
    · simp [removeChild, Frame.fill, Frame.close, Step.ofSegment_eq_last_iff.mpr hLast]

theorem removeChild_of_child?_eq_none (h : child? node raw = none) :
    removeChild node raw = node := by
  cases node with
  | object es =>
    simp [removeChild, Entries.erase_of_contains_eq_false (Entries.get?_eq_none_iff.mp h)]
  | array items =>
    simp only [child?] at h
    simp only [removeChild]
    split
    · rename_i i hIndex
      rw [hIndex] at h
      simp only [List.getElem?_eq_none_iff] at h
      simp [Nat.not_lt.mpr h]
    · rename_i hLast
      rw [hLast, List.getLast?_eq_none_iff] at h
      simp [h]
    · rfl
  | _ => rfl

theorem deleteSegments_fill {f : Frame} (h : f.Reads raw) (hKeyed : f.Keyed) (r : String)
    (rs : List String) (y : Value) :
    deleteSegments (raw :: r :: rs) (f.fill y) = f.fill (deleteSegments (r :: rs) y) := by
  cases f with
  | entry b k a =>
    obtain ⟨rfl, hb⟩ := h
    have hNodup := List.nodup_middle.mp hKeyed
    have ha : k ∉ Entries.keys a := fun hk =>
      (List.nodup_cons.mp hNodup).1 (List.mem_append_right _ hk)
    simp [deleteSegments, Frame.fill, Entries.get?_eq_some_iff.mpr ⟨b, a, rfl, hb⟩,
      Entries.insert_middle hb ha]
  | item b a =>
    rcases h with hIndex | ⟨hLast, rfl⟩
    · simp [deleteSegments, Frame.fill, hIndex, setItem]
    · simp [deleteSegments, Frame.fill, Step.ofSegment_eq_last_iff.mpr hLast, setItem]

theorem deleteSegments_of_child?_eq_none (h : child? node raw = none) (r : String)
    (rs : List String) : deleteSegments (raw :: r :: rs) node = node := by
  cases node with
  | object es =>
    simp only [child?] at h
    simp [deleteSegments, h]
  | array items =>
    simp only [child?] at h
    cases hs : Step.ofSegment raw with
    | index i =>
      rw [hs, List.getElem?_eq_none_iff] at h
      simp [deleteSegments, hs, Nat.not_lt.mpr h]
    | last =>
      rw [hs, List.getLast?_eq_none_iff] at h
      simp [deleteSegments, hs, h]
    | key k => simp [deleteSegments, hs]
  | _ => simp [deleteSegments]

/-! ### Whole paths -/

theorem deleteSegments_fillAll (last : String) (y : Value) :
    ∀ {fs : List Frame} {pre : List String}, List.Forall₂ Frame.Reads fs pre →
      (∀ f ∈ fs, f.Keyed) →
        deleteSegments (pre ++ [last]) (fillAll fs y) = fillAll fs (removeChild y last)
  | [], [], .nil, _ => by simp [deleteSegments]
  | f :: fs, raw :: pre, .cons hf hfs, hKeyed => by
    obtain ⟨r, rs, hRest⟩ : ∃ r rs, pre ++ [last] = r :: rs :=
      List.exists_cons_of_ne_nil (by simp)
    rw [List.cons_append, hRest, fillAll_cons, deleteSegments_fill hf (hKeyed f List.mem_cons_self),
      ← hRest, deleteSegments_fillAll last y hfs fun g hg => hKeyed g (List.mem_cons_of_mem f hg)]
    rfl

theorem deleteSegments_of_readAt_eq_none :
    ∀ {path : List String} {node : Value}, node.WellFormed → path ≠ [] →
      readAt path node = none →
      deleteSegments path node = node
  | [], _, _, hne, _ => absurd rfl hne
  | [raw], node, _, _, h => by
    have hChild : child? node raw = none := by simpa [readAt] using h
    simpa [deleteSegments] using removeChild_of_child?_eq_none hChild
  | raw :: r :: rs, node, hWF, _, h => by
    cases hChild : child? node raw with
    | none => exact deleteSegments_of_child?_eq_none hChild r rs
    | some y =>
      have hRest : readAt (r :: rs) y = none := by simpa [readAt, hChild] using h
      obtain ⟨f, hf, rfl⟩ := Frame.exists_of_child? hChild
      obtain ⟨hKeyed, hy⟩ := Frame.wellFormed_fill hWF
      rw [deleteSegments_fill hf hKeyed,
        deleteSegments_of_readAt_eq_none hy (List.cons_ne_nil r rs) hRest]

theorem readAt_append (pre rest : List String) (node : Value) :
    readAt (pre ++ rest) node = (readAt pre node).bind (readAt rest) := by
  induction pre generalizing node with
  | nil => rfl
  | cons raw pre ih => simp [readAt, ih, Option.bind_assoc]

/-! ### Undoing a write -/

/-- The slot a write of `last` takes in a list of `n` items is the one past its end when `last`
is `-1` or a numeral of value `n`. -/
theorem slot_eq_length {n : Nat} (hne : last ≠ "") (hn : n < Nat.pow 2 63)
    (h : last = "-1" ∨ (last.all Char.isDigit = true ∧ digitsValue last = n)) :
    Step.slot last n = some n := by
  rcases h with rfl | ⟨hDigits, hValue⟩
  · simp [Step.slot, Step.ofSegment_eq_last_iff.mpr rfl]
  · have hLt : digitsValue last < Nat.pow 2 64 := by
      rw [hValue]
      exact Nat.lt_trans hn (Nat.pow_lt_pow_right (by decide) (by decide))
    simp [Step.slot, Step.ofSegment_of_digits hne hDigits hLt, hValue]

/-- A write of a new entry into a container enters it, and removing the entry again gives the
container back: a new key of an object, or the item past the end of a list. -/
theorem removeChild_plug_of_new {C : Value} (w : Value)
    (hNew : (∃ es, C = .object es ∧ Entries.contains es last = false) ∨
      ∃ items, C = .array items ∧ items.length < Nat.pow 2 63 ∧
        Step.slot last items.length = some items.length) :
    (C.enter last).isSome ∧ removeChild (C.plug last w) last = C := by
  rcases hNew with ⟨es, rfl, hNot⟩ | ⟨items, rfl, hLen, hSlot⟩
  · have hAppend : Entries.insert es last w = es ++ [(last, w)] := by
      unfold Entries.contains at hNot
      simp [Entries.insert, hNot]
    have hKeys : last ∉ Entries.keys es := fun h => by
      rw [← Entries.contains_iff] at h
      simp [h] at hNot
    refine ⟨by simp [Value.enter, Value.container], ?_⟩
    simp only [Value.plug, Value.container, hAppend, removeChild]
    rw [Entries.erase_middle hKeys (show last ∉ Entries.keys [] from List.not_mem_nil),
      List.append_nil]
  · have hFits : items.length + 1 < Nat.pow 2 64 :=
      Nat.lt_of_lt_of_le (Nat.succ_lt_succ hLen) (by decide)
    refine ⟨by simp [Value.enter, Value.container, hSlot, hFits], ?_⟩
    simp only [Value.plug, Value.container, hSlot, spliceAt_length, removeChild]
    unfold Step.slot at hSlot
    split at hSlot
    · rename_i hLast
      rw [hLast, List.dropLast_concat]
    · rename_i i hIndex
      cases hSlot
      rw [hIndex]
      simp [List.eraseIdx_append_of_length_le]
    · cases hSlot

/-! ### Deleting a key path -/

section KeyPaths

variable {doc : Value} {t : String}

theorem deleteAt_of_segmentsOf {parts : List String} (h : segmentsOf t = .ok parts) :
    doc.deleteAt t = .ok (deleteSegments parts doc) := by
  simp [Value.deleteAt, h]

theorem deleteAt_of_getAt_eq_none (hWF : doc.WellFormed) {parts : List String}
    (hSeg : segmentsOf t = .ok parts) (h : doc.getAt t = none) : doc.deleteAt t = .ok doc := by
  have hParts : parts ≠ [] := (segmentsOf_eq_ok_iff.mp hSeg).1 ▸ dotPieces_ne_nil _
  rw [getAt_of_segmentsOf hSeg] at h
  rw [deleteAt_of_segmentsOf hSeg, deleteSegments_of_readAt_eq_none hWF hParts h]

/-- Where a read of a key path finds `x`, the document is `x` in the frames the path reads
through, and a delete of the path takes out the last frame's place and keeps the rest. -/
theorem deleteAt_of_getAt_eq_some (hWF : doc.WellFormed) {parents : List String} {last : String}
    (hSeg : segmentsOf t = .ok (parents ++ [last])) {x : Value} (h : doc.getAt t = some x) :
    ∃ (fs : List Frame) (f : Frame), List.Forall₂ Frame.Reads fs parents ∧ f.Reads last ∧
      doc = fillAll fs (f.fill x) ∧
      doc.deleteAt t = .ok (fillAll fs f.close) := by
  rw [getAt_of_segmentsOf hSeg, readAt_append] at h
  obtain ⟨C, hC, hLast⟩ := Option.bind_eq_some_iff.mp h
  have hChild : child? C last = some x := by simpa [readAt] using hLast
  obtain ⟨fs, hfs, rfl⟩ := exists_frames_of_readAt hC
  obtain ⟨f, hf, rfl⟩ := Frame.exists_of_child? hChild
  obtain ⟨hKeyed, hWFC⟩ := wellFormed_fillAll hWF
  refine ⟨fs, f, hfs, hf, rfl, ?_⟩
  rw [deleteAt_of_segmentsOf hSeg, deleteSegments_fillAll last _ hfs hKeyed,
    removeChild_fill hf (Frame.wellFormed_fill hWFC).1]

/-- A delete undoes a write that added a new entry to a container its read finds: a new key of
an object, or a new last item of a list, written as `-1` or as the numeral of the list's length. -/
theorem deleteAt_setAt_of_new (hWF : doc.WellFormed) {parents : List String} {last : String}
    (hSeg : segmentsOf t = .ok (parents ++ [last])) (hNoLast : "-1" ∉ parents) {C : Value}
    (hC : readAt parents doc = some C)
    (hNew : (∃ es, C = .object es ∧ Entries.contains es last = false) ∨
      ∃ items, C = .array items ∧
        (last = "-1" ∨ (last.all Char.isDigit = true ∧ digitsValue last = items.length)))
    (v : Value) : ∃ doc', doc.setAt t v = .ok doc' ∧ doc'.deleteAt t = .ok doc := by
  obtain ⟨hParts, -, hPieces⟩ := segmentsOf_eq_ok_iff.mp hSeg
  have hLastNe : last ≠ "" := fun h => hPieces (by simp [h])
  obtain ⟨fs, hfs, rfl⟩ := exists_frames_of_readAt hC
  obtain ⟨hKeyed, hWFC⟩ := wellFormed_fillAll hWF
  have hNew' : (∃ es, C = .object es ∧ Entries.contains es last = false) ∨
      ∃ items, C = .array items ∧ items.length < Nat.pow 2 63 ∧
        Step.slot last items.length = some items.length := by
    rcases hNew with hObject | ⟨items, rfl, hItem⟩
    · exact .inl hObject
    · cases hWFC with
      | array hLen _ => exact .inr ⟨items, rfl, hLen, slot_eq_length hLastNe hLen hItem⟩
  obtain ⟨hEnter, hUndo⟩ := removeChild_plug_of_new v hNew'
  obtain ⟨y, hy⟩ := Option.isSome_iff_exists.mp hEnter
  have hWrite :
      writeAt t v (parents ++ [last]) (fillAll fs C) = (fillAll fs (C.plug last v), none) := by
    rw [writeAt_fillAll t v [last] C hfs hKeyed hNoLast, writeAt_cons, hy]
    simp [writeAt]
  refine ⟨_, setAt_eq_ok_iff.mpr ⟨_, hSeg, hWrite⟩, ?_⟩
  rw [deleteAt_of_segmentsOf hSeg, deleteSegments_fillAll last _ hfs hKeyed, hUndo]

/-- On a document, a delete of a key path that is not blank and has no empty segment succeeds.
Where a read of the path finds nothing it changes nothing; where it finds `x`, the document is
`x` in the frames the path reads through, and the delete removes that place alone: an entry of
an object with the other keys in their order, an item of a list with the later ones moved up, or
the last item for `-1`. And it undoes a write that added a new entry to a container found along
a path without `-1`: a key the object did not have, or the item past the end of a list. -/
theorem deleteAt_removes_entry {doc : Value} (hWF : doc.WellFormed) {t : String}
    (hTrim : Text.trim t ≠ "") (hPieces : "" ∉ dotPieces (Text.trim t)) :
    (∃ doc', doc.deleteAt t = .ok doc') ∧
    (doc.getAt t = none → doc.deleteAt t = .ok doc) ∧
    (∀ x parents last, doc.getAt t = some x → dotPieces (Text.trim t) = parents ++ [last] →
      ∃ (fs : List Frame) (f : Frame), List.Forall₂ Frame.Reads fs parents ∧ f.Reads last ∧
        doc = fillAll fs (f.fill x) ∧ doc.deleteAt t = .ok (fillAll fs f.close)) ∧
    (∀ v parents last C, dotPieces (Text.trim t) = parents ++ [last] → "-1" ∉ parents →
      readAt parents doc = some C →
      ((∃ es, C = .object es ∧ Entries.contains es last = false) ∨
        ∃ items, C = .array items ∧
          (last = "-1" ∨ (last.all Char.isDigit = true ∧ digitsValue last = items.length))) →
      ∃ doc', doc.setAt t v = .ok doc' ∧ doc'.deleteAt t = .ok doc) := by
  have hSeg : segmentsOf t = .ok (dotPieces (Text.trim t)) :=
    segmentsOf_eq_ok_iff.mpr ⟨rfl, hTrim, hPieces⟩
  refine ⟨⟨_, deleteAt_of_segmentsOf hSeg⟩, deleteAt_of_getAt_eq_none hWF hSeg,
    fun x parents last h hParts => ?_, fun v parents last C hParts hNoLast hC hNew => ?_⟩
  · exact deleteAt_of_getAt_eq_some hWF (hParts ▸ hSeg) h
  · exact deleteAt_setAt_of_new hWF (hParts ▸ hSeg) hNoLast hC hNew v

theorem deleteAt_removes_entry_missing_path :
    let doc : Value :=
      .object [("name", .object [("first", .string "river"), ("verbose", .string "v")])]
    doc.WellFormed ∧ Text.trim "nothing.here" ≠ "" ∧
      "" ∉ dotPieces (Text.trim "nothing.here") ∧
      doc.getAt "nothing.here" = none ∧ doc.deleteAt "nothing.here" = .ok doc := by
  intro doc
  have hWF : doc.WellFormed := by
    refine .object (by decide) ?_
    simp only [List.mem_singleton, forall_eq]
    refine .object (by decide) ?_
    simp only [List.mem_cons, List.not_mem_nil, or_false, forall_eq_or_imp, forall_eq]
    exact ⟨.string _, .string _⟩
  have hTrim : Text.trim "nothing.here" ≠ "" := by decide
  have hPieces : "" ∉ dotPieces (Text.trim "nothing.here") := by decide
  have hSeg : segmentsOf "nothing.here" = .ok ["nothing", "here"] := by rfl
  have hGet : doc.getAt "nothing.here" = none := by
    simp [doc, Value.getAt, hSeg, readAt, child?, Entries.get?]
  exact ⟨hWF, hTrim, hPieces, hGet, (deleteAt_removes_entry hWF hTrim hPieces).2.1 hGet⟩

end KeyPaths

end Json

end RuleOverlay
