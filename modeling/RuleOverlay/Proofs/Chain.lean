import Mathlib
import RuleOverlay.Proofs.Parsed
import RuleOverlay.Proofs.DepthLimit
import RuleOverlay.Driver
/-! # Chains of JSON edits

A realization runs JSON edits one after another on bytes: each reads the document the one before
it printed, edits it and prints it again. `realize_json_edits_eq_editOnce` says this is the same
as reading the document once, applying every edit to the value, and printing the last value,
with the first failure reported as the processor reports it, when three things hold. The
document read and the values of `set` edits hold no double, since a double need not print back
to itself. And no value one edit hands on to the next nests as deep as the reader's limit of
128 levels: the value model has no limit, so an edit can build a value the next one cannot read
(`realize_json_edits_stops_at_depth_limit`).

Between two edits nothing is lost because every value handed on is `Value.Plain`: the reader
gives no repeated key and keeps its integers (`parse_parsed`), and each kind of edit keeps both.
-/
namespace RuleOverlay

namespace Json

/-! ### Edits keep a value plain -/

section Plain

variable {node y w doc doc' v : Value} {raw t : String} {items : List Value}
  {es : List (String × Value)}

theorem Value.plain_null : Value.null.Plain := ⟨.null, .null⟩

theorem Value.plain_string (s : String) : (Value.string s).Plain := ⟨.string s, .string s⟩

theorem Value.plain_array (h : ∀ x ∈ items, x.Plain) : (Value.array items).Plain :=
  ⟨.array fun x hx => (h x hx).1, .array fun x hx => (h x hx).2⟩

theorem Value.plain_object (hKeys : (Entries.keys es).Nodup) (h : ∀ e ∈ es, e.2.Plain) :
    (Value.object es).Plain :=
  ⟨.object hKeys fun e he => (h e he).1, .object fun e he => (h e he).2⟩

theorem Value.Plain.getD (h : (Value.array items).Plain) (i : Nat) :
    (items.getD i .null).Plain := by
  rw [List.getD_eq_getElem?_getD]
  cases hi : items[i]? with
  | none => exact Value.plain_null
  | some x => exact h.item (List.mem_of_getElem? hi)

theorem Value.Plain.get? {k : String} (h : (Value.object es).Plain)
    (hGet : Entries.get? es k = some y) : y.Plain := by
  obtain ⟨b, a, rfl, -⟩ := Entries.get?_eq_some_iff.mp hGet
  exact h.entry (List.mem_append_right b List.mem_cons_self)

theorem Value.Plain.setItem (h : (Value.array items).Plain) (hw : w.Plain) {i : Nat} :
    (Value.array (setItem items i w)).Plain := by
  refine Value.plain_array fun x hx => ?_
  rcases List.mem_or_eq_of_mem_set hx with hx | rfl
  · exact h.item hx
  · exact hw

theorem mem_spliceAt {i : Nat} {x : Value} (hx : x ∈ spliceAt items i w) :
    x ∈ items ∨ x = .null ∨ x = w := by
  unfold spliceAt setItem nulls at hx
  split at hx
  · exact (List.mem_or_eq_of_mem_set hx).imp_right .inr
  · simp only [List.mem_append, List.mem_replicate, List.mem_singleton] at hx
    rcases hx with (hx | ⟨-, hx⟩) | hx
    · exact .inl hx
    · exact .inr (.inl hx)
    · exact .inr (.inr hx)

theorem Value.Plain.container (h : node.Plain) (raw : String) : (node.container raw).Plain := by
  cases node
  case array => exact h
  case object => exact h
  all_goals
    simp only [Value.container]
    split
    · exact Value.plain_object List.nodup_nil fun e he => by cases he
    · exact Value.plain_array fun x hx => by cases hx

theorem Value.Plain.enter (h : node.Plain) (hy : node.enter raw = some y) : y.Plain := by
  have hc := h.container raw
  unfold Value.enter at hy
  rcases container_cases node raw with ⟨es, hes⟩ | ⟨items, hitems⟩
  · rw [hes] at hy hc
    dsimp only at hy
    cases hGet : Entries.get? es raw with
    | none =>
      rw [hGet] at hy
      cases hy
      exact Value.plain_null
    | some x =>
      rw [hGet] at hy
      cases hy
      exact hc.get? hGet
  · rw [hitems] at hy hc
    dsimp only at hy
    split at hy
    · split_ifs at hy
      cases hy
      exact hc.getD _
    · cases hy

theorem Value.Plain.plug (h : node.Plain) (hw : w.Plain) (raw : String) :
    (node.plug raw w).Plain := by
  have hc := h.container raw
  unfold Value.plug
  rcases container_cases node raw with ⟨es, hes⟩ | ⟨items, hitems⟩
  · rw [hes] at hc ⊢
    refine Value.plain_object (Entries.nodup_keys_insert hc.keys) fun e he => ?_
    rcases Entries.mem_insert he with he | rfl
    · exact hc.entry he
    · exact hw
  · rw [hitems] at hc ⊢
    dsimp only
    split
    · refine Value.plain_array fun x hx => ?_
      rcases mem_spliceAt hx with hx | rfl | rfl
      · exact hc.item hx
      · exact Value.plain_null
      · exact hw
    · exact hc

theorem plain_writeAt (t : String) (hv : v.Plain) :
    ∀ (path : List String) (node : Value), node.Plain → (writeAt t v path node).1.Plain
  | [], _, _ => by simpa [writeAt] using hv
  | raw :: rest, node, h => by
    rw [writeAt_cons]
    cases hEnter : node.enter raw with
    | none => exact h.container raw
    | some y => exact h.plug (plain_writeAt t hv rest y (h.enter hEnter)) raw

theorem plain_setAt (hdoc : doc.Plain) (hv : v.Plain) (h : doc.setAt t v = .ok doc') :
    doc'.Plain := by
  obtain ⟨parts, -, hWrite⟩ := setAt_eq_ok_iff.mp h
  have hPlain := plain_writeAt t hv parts doc hdoc
  rwa [hWrite] at hPlain

theorem plain_removeChild (h : node.Plain) (raw : String) : (removeChild node raw).Plain := by
  unfold removeChild
  split
  · rename_i es
    refine Value.plain_object (h.keys.sublist ((List.filter_sublist).map _)) fun e he => ?_
    exact h.entry (List.mem_of_mem_filter he)
  · split
    · split_ifs
      · exact Value.plain_array fun x hx => h.item (List.mem_of_mem_eraseIdx hx)
      · exact h
    · exact Value.plain_array fun x hx => h.item (List.mem_of_mem_dropLast hx)
    · exact h
  · exact h

/-- A removal keeps a value plain: it takes entries and items away, and rebuilds the containers
above them with the same keys. -/
theorem plain_deleteSegments :
    ∀ (path : List String) (node : Value), node.Plain → (deleteSegments path node).Plain
  | [], _, h => h
  | [raw], node, h => plain_removeChild h raw
  | raw :: r :: rest, node, h => by
    unfold deleteSegments
    split
    · split
      · rename_i es inner hGet
        have hInner := plain_deleteSegments (r :: rest) inner (h.get? hGet)
        refine Value.plain_object (Entries.nodup_keys_insert h.keys) fun e he => ?_
        rcases Entries.mem_insert he with he | rfl
        · exact h.entry he
        · exact hInner
      · exact h
    · rename_i items
      have hItem : ∀ i, (Value.array
          (setItem items i (deleteSegments (r :: rest) (items.getD i .null)))).Plain :=
        fun i => h.setItem (plain_deleteSegments (r :: rest) _ (h.getD i))
      split
      · dsimp only
        split_ifs
        · exact hItem _
        · exact h
      · dsimp only
        split_ifs
        · exact h
        · exact hItem _
      · exact h
    · exact h

theorem plain_deleteAt (hdoc : doc.Plain) (h : doc.deleteAt t = .ok doc') : doc'.Plain := by
  unfold Value.deleteAt at h
  cases hSeg : segmentsOf t with
  | error e =>
    rw [hSeg] at h
    cases h
  | ok parts =>
    rw [hSeg] at h
    cases h
    exact plain_deleteSegments parts doc hdoc

end Plain

theorem isAsciiBlankByte_of_opensValue {b : UInt8} (h : opensValue b = true) :
    Text.isAsciiBlankByte b = false := by
  simp only [opensValue, isDigit, Bool.or_eq_true, beq_iff_eq, Bool.and_eq_true,
    decide_eq_true_eq, UInt8.le_iff_toNat_le] at h
  simp only [Text.isAsciiBlankByte, Bool.or_eq_false_iff, beq_eq_false_iff_ne, ne_eq,
    ← UInt8.toNat_inj]
  simp only [← UInt8.toNat_inj] at h
  simp at h ⊢
  omega

end Json

open Json Processor

def readRawJson (s : String) : Except String Value := (parseText s).mapError Error.message

namespace Edit

/-- A JSON edit on the value model: the operation checked, then the edit applied, a `set`
reading its value as a JSON text. -/
def applyJson (e : Edit) (doc : Value) : Except ProcessError Value := do
  let op ← EditOp.parse e.op
  applyEdit e op readRawJson doc

theorem applyJson_of_parse {e : Edit} {op : EditOp} (h : EditOp.parse e.op = .ok op)
    (doc : Value) : e.applyJson doc = applyEdit e op readRawJson doc := by
  rw [applyJson, h]
  rfl

theorem applyJson_set (e : Edit) (hOp : e.op = "set") {r : Value}
    (hr : readRawJson e.value = .ok r) (doc : Value) :
    e.applyJson doc = (doc.setAt e.keyPath r).mapError targetError := by
  rw [applyJson_of_parse (by rw [hOp]; rfl), applyEdit, hr]

def failure (e : Edit) (err : ProcessError) : Failure RealizeError :=
  .error ⟨"json", e.path, err⟩

def applyAll : List Edit → Value → Except (Failure RealizeError) Value
  | [], doc => .ok doc
  | e :: es, doc =>
    match e.applyJson doc with
    | .ok doc' => applyAll es doc'
    | .error err => .error (e.failure err)

/-- Every value one of the edits hands on to the next nests less deep than the reader allows:
the value after the first `k` edits, for every `k` from one up to the last edit. -/
def HandsOnShallow (es : List Edit) (doc : Value) : Prop :=
  ∀ k, 0 < k → k < es.length → ∀ v, applyAll (es.take k) doc = .ok v → v.depth < depthLimit

end Edit

/-- JSON edits applied to a document read once: the first edit's operation is checked before the
document is read, as a processor checks it, and the value the last edit leaves is printed. -/
def editOnce (b : Bytes) : List Edit → Except (Failure RealizeError) Bytes
  | [] => .ok b
  | e :: es =>
    match EditOp.parse e.op, readJsonDocument b with
    | .error err, _ => .error (e.failure err)
    | .ok _, .error err => .error (e.failure err)
    | .ok _, .ok doc => (Edit.applyAll (e :: es) doc).map Value.toBytes

/-! ### One processor -/

theorem runJson_eq (e : Edit) (b : Bytes) :
    runJson e b = match EditOp.parse e.op, readJsonDocument b with
      | .error err, _ => .error err
      | .ok _, .error err => .error err
      | .ok _, .ok doc => (e.applyJson doc).map Value.toBytes := by
  unfold runJson Edit.applyJson
  cases EditOp.parse e.op with
  | error err => rfl
  | ok op =>
    cases readJsonDocument b with
    | error err => rfl
    | ok doc =>
      show (applyEdit e op readRawJson doc >>= fun after => pure after.toBytes) =
        (applyEdit e op readRawJson doc).map Value.toBytes
      cases applyEdit e op readRawJson doc <;> rfl

theorem runJson_of_read (e : Edit) {b : Bytes} {doc : Value} (h : readJsonDocument b = .ok doc) :
    runJson e b = (e.applyJson doc).map Value.toBytes := by
  rw [runJson_eq, h]
  cases hOp : EditOp.parse e.op with
  | error err => simp only [Edit.applyJson, hOp]; rfl
  | ok op => rfl

theorem realize_json_cons (b : Bytes) (e : Edit) (ps : List Processor) :
    (realize b (.json e :: ps)).result = match runJson e b with
      | .ok next => (realize next ps).result
      | .error err => .error (e.failure err) := by
  rw [realize, Processor.run]
  cases runJson e b <;> rfl

theorem realize_json_cons_of_ok {b next : Bytes} {e : Edit} (ps : List Processor)
    (h : runJson e b = .ok next) :
    (realize b (.json e :: ps)).result = (realize next ps).result := by
  rw [realize_json_cons, h]

theorem realize_json_cons_of_error {b : Bytes} {e : Edit} {err : ProcessError}
    (ps : List Processor) (h : runJson e b = .error err) :
    (realize b (.json e :: ps)).result = .error (e.failure err) := by
  rw [realize_json_cons, h]

theorem Edit.applyAll_cons_of_ok {e : Edit} {doc w : Value} (h : e.applyJson doc = .ok w)
    (es : List Edit) : Edit.applyAll (e :: es) doc = Edit.applyAll es w := by
  rw [Edit.applyAll, h]

theorem Edit.applyAll_cons_of_error {e : Edit} {doc : Value} {err : ProcessError}
    (h : e.applyJson doc = .error err) (es : List Edit) :
    Edit.applyAll (e :: es) doc = .error (e.failure err) := by
  rw [Edit.applyAll, h]

/-! ### What is read between edits -/

theorem isBlankDocument_toBytes {v : Value} (hv : v.Numbers Number.Exact) :
    isBlankDocument v.toBytes = false := by
  obtain ⟨b, X, hbX, hb⟩ := toBytes_opens hv
  rw [hbX, isBlankDocument, List.all_cons, isAsciiBlankByte_of_opensValue hb, Bool.false_and]

theorem readJsonDocument_toBytes_eq {v : Value} (hv : v.Numbers Number.Exact) :
    readJsonDocument v.toBytes = (parse v.toBytes).mapError fun e => .invalidDocument e.message := by
  rw [readJsonDocument, if_neg (by rw [isBlankDocument_toBytes hv]; exact Bool.false_ne_true)]
  cases parse v.toBytes <;> rfl

theorem readJsonDocument_toBytes {v : Value} (hv : v.Plain) (hDepth : v.depth < depthLimit) :
    readJsonDocument v.toBytes = .ok v := by
  rw [readJsonDocument_toBytes_eq hv.2, parse_toBytes hv hDepth]
  rfl

theorem readJsonDocument_toBytes_of_deep {v : Value} (hv : v.Plain)
    (hDeep : depthLimit ≤ v.depth) : ∃ err, readJsonDocument v.toBytes = .error err := by
  obtain ⟨e, hFail⟩ := parse_toBytes_of_deep hv hDeep
  rw [readJsonDocument_toBytes_eq hv.2, hFail]
  exact ⟨_, rfl⟩

theorem readJsonDocument_parsed {b : Bytes} {doc : Value} (h : readJsonDocument b = .ok doc) :
    doc.Parsed := by
  unfold readJsonDocument at h
  split at h
  · cases h
    exact Value.parsed_object List.nodup_nil fun e he => by cases he
  · split at h
    · cases h
      exact parse_parsed ‹_›
    · cases h

theorem readRawJson_parsed {s : String} {r : Value} (h : readRawJson s = .ok r) : r.Parsed := by
  unfold readRawJson at h
  cases hParse : parseText s with
  | error err =>
    rw [hParse] at h
    cases h
  | ok v =>
    rw [hParse] at h
    cases h
    exact parse_parsed hParse

theorem eq_set_of_parse_eq_setRaw {op : String} (h : EditOp.parse op = .ok .setRaw) :
    op = "set" := by
  unfold EditOp.parse at h
  split at h
  case h_4 => rfl
  all_goals cases h

theorem eq_ok_of_mapError {ε δ α : Type} {f : ε → δ} {x : Except ε α} {a : α}
    (h : x.mapError f = .ok a) : x = .ok a := by
  cases x with
  | error e => cases h
  | ok a' => cases h; rfl

theorem Edit.plain_applyJson {e : Edit} {doc doc' : Value} (hdoc : doc.Plain)
    (hRaw : e.op = "set" → ∀ r, readRawJson e.value = .ok r → r.Numbers Number.Integer)
    (h : e.applyJson doc = .ok doc') : doc'.Plain := by
  cases hOp : EditOp.parse e.op with
  | error err =>
    rw [Edit.applyJson, hOp] at h
    cases h
  | ok op =>
    rw [Edit.applyJson_of_parse hOp] at h
    simp only [applyEdit] at h
    cases op with
    | setString => exact plain_setAt hdoc (Value.plain_string _) (eq_ok_of_mapError h)
    | setRaw =>
      cases hr : readRawJson e.value with
      | error msg =>
        rw [hr] at h
        cases h
      | ok r =>
        rw [hr] at h
        have hInt := hRaw (eq_set_of_parse_eq_setRaw hOp) r hr
        exact plain_setAt hdoc ((readRawJson_parsed hr).plain hInt) (eq_ok_of_mapError h)
    | delete => exact plain_deleteAt hdoc (eq_ok_of_mapError h)

namespace Edit.HandsOnShallow

variable {e e' : Edit} {es : List Edit} {doc w : Value}

theorem next (h : HandsOnShallow (e :: es) doc) (hEdit : e.applyJson doc = .ok w) :
    HandsOnShallow es w := by
  intro k hk hLt v hv
  refine h (k + 1) (Nat.succ_pos k) (by simpa using hLt) v ?_
  rwa [List.take_succ_cons, applyAll, hEdit]

theorem depth (h : HandsOnShallow (e :: e' :: es) doc) (hEdit : e.applyJson doc = .ok w) :
    w.depth < depthLimit := by
  refine h 1 Nat.one_pos (by simp) w ?_
  rw [List.take_succ_cons, List.take_zero, applyAll, hEdit]
  rfl

end Edit.HandsOnShallow

theorem setAt_key {es : List (String × Value)} {k : String} (hk : segmentsOf k = .ok [k])
    (v : Value) : (Value.object es).setAt k v = .ok (.object (Entries.insert es k v)) := by
  refine setAt_eq_ok_iff.mpr ⟨[k], hk, ?_⟩
  rw [writeAt_cons]
  simp [Value.enter, Value.plug, Value.container, writeAt]

theorem readRawJson_of_toBytes {s : String} {v : Value} (hs : Utf8.encode s = v.toBytes)
    (hv : v.Plain) (hDepth : v.depth < depthLimit) : readRawJson s = .ok v := by
  rw [readRawJson, parseText, hs, parse_toBytes hv hDepth]
  rfl

/-! ### A chain of processors -/

/-- From a document that reads as a plain value, JSON processors answer what their edits, applied
one after another to that value, print. By induction on the edits after the first: each
processor reads back exactly the value the one before it printed. -/
theorem realize_json_of_read : ∀ (es : List Edit) (e : Edit) (b : Bytes) (doc : Value),
    readJsonDocument b = .ok doc → doc.Plain →
    (∀ e' ∈ e :: es, e'.op = "set" → ∀ r, readRawJson e'.value = .ok r →
      r.Numbers Number.Integer) →
    Edit.HandsOnShallow (e :: es) doc →
    (realize b ((e :: es).map .json)).result = (Edit.applyAll (e :: es) doc).map Value.toBytes
  | es, e, b, doc, hRead, hDoc, hRaw, hShallow => by
    rw [List.map_cons]
    cases hEdit : e.applyJson doc with
    | error err =>
      have hRun : runJson e b = .error err := by rw [runJson_of_read e hRead, hEdit]; rfl
      rw [realize_json_cons_of_error _ hRun, Edit.applyAll_cons_of_error hEdit]
      rfl
    | ok w =>
      have hRun : runJson e b = .ok w.toBytes := by rw [runJson_of_read e hRead, hEdit]; rfl
      rw [realize_json_cons_of_ok _ hRun, Edit.applyAll_cons_of_ok hEdit]
      have hw : w.Plain := Edit.plain_applyJson hDoc (hRaw e List.mem_cons_self) hEdit
      cases es with
      | nil => rfl
      | cons e' es =>
        exact realize_json_of_read es e' w.toBytes w
          (readJsonDocument_toBytes hw (hShallow.depth hEdit)) hw
          (fun e'' he'' => hRaw e'' (List.mem_cons_of_mem e he'')) (hShallow.next hEdit)

/-- A chain of JSON processors run on bytes answers what reading the bytes once, applying every
edit to the value and printing the last value answers, failures included, as long as the
document read and the values of its `set` edits hold no double and no value one edit hands on
to the next nests 128 levels deep. -/
theorem realize_json_edits_eq_editOnce (b : Bytes) (es : List Edit)
    (hDoc : ∀ doc, readJsonDocument b = .ok doc → doc.Numbers Number.Integer)
    (hRaw : ∀ e ∈ es, e.op = "set" → ∀ r, readRawJson e.value = .ok r →
      r.Numbers Number.Integer)
    (hDepth : ∀ doc, readJsonDocument b = .ok doc → Edit.HandsOnShallow es doc) :
    (realize b (es.map .json)).result = editOnce b es := by
  cases es with
  | nil => rfl
  | cons e es =>
    rw [editOnce]
    cases hRead : readJsonDocument b with
    | ok doc =>
      cases hOp : EditOp.parse e.op with
      | error err => rw [List.map_cons, realize_json_cons, runJson_eq, hOp]
      | ok op =>
        have hPlain : doc.Plain := (readJsonDocument_parsed hRead).plain (hDoc doc hRead)
        exact realize_json_of_read es e b doc hRead hPlain hRaw (hDepth doc hRead)
    | error err =>
      rw [List.map_cons, realize_json_cons, runJson_eq, hRead]
      cases EditOp.parse e.op <;> rfl

theorem realize_json_edits_eq_editOnce_blank :
    (realize [] ([Edit.new "create" "a" "x" ⟨0, 0⟩, Edit.new "set" "b" "[1,-2]" ⟨0, 0⟩,
      Edit.new "delete" "a" "" ⟨0, 0⟩].map .json)).result =
    editOnce [] [Edit.new "create" "a" "x" ⟨0, 0⟩, Edit.new "set" "b" "[1,-2]" ⟨0, 0⟩,
      Edit.new "delete" "a" "" ⟨0, 0⟩] := by
  have hBlank : readJsonDocument [] = .ok (.object []) := rfl
  have hList : (Value.array [.number (.nat 1), .number (.int (-2))]).Plain := by
    refine Value.plain_array fun x hx => ?_
    simp only [List.mem_cons, List.not_mem_nil, or_false] at hx
    rcases hx with rfl | rfl
    · exact ⟨.number _, .number (show 1 ≤ u64Max by decide)⟩
    · exact ⟨.number _,
        .number (show -(Nat.pow 2 63 : Int) ≤ -2 ∧ (-2 : Int) < 0 by decide)⟩
  have hRaw : readRawJson "[1,-2]" = .ok (.array [.number (.nat 1), .number (.int (-2))]) :=
    readRawJson_of_toBytes (by decide +kernel) hList (by decide)
  have hFirst : (Edit.new "create" "a" "x" ⟨0, 0⟩).applyJson (.object []) =
      .ok (.object [("a", .string "x")]) := by
    rw [Edit.applyJson_of_parse
      (show EditOp.parse (Edit.new "create" "a" "x" ⟨0, 0⟩).op = .ok .setString from rfl)]
    show ((Value.object []).setAt "a" (.string "x")).mapError targetError = _
    rw [setAt_key (by rfl)]
    rfl
  have hSecond : (Edit.new "set" "b" "[1,-2]" ⟨0, 0⟩).applyJson (.object [("a", .string "x")]) =
      .ok (.object [("a", .string "x"),
        ("b", .array [.number (.nat 1), .number (.int (-2))])]) := by
    rw [Edit.applyJson_set (Edit.new "set" "b" "[1,-2]" ⟨0, 0⟩) rfl hRaw]
    rw [show (Edit.new "set" "b" "[1,-2]" ⟨0, 0⟩).keyPath = "b" from rfl,
      setAt_key (show segmentsOf "b" = .ok ["b"] by rfl)]
    rfl
  refine realize_json_edits_eq_editOnce [] _ ?_ ?_ ?_
  · intro doc h
    rw [hBlank] at h
    cases h
    exact .object fun e he => by cases he
  · intro e he hSet r hr
    simp only [List.mem_cons, List.not_mem_nil, or_false] at he
    rcases he with rfl | rfl | rfl
    · exact absurd hSet (by decide)
    · rw [show (Edit.new "set" "b" "[1,-2]" ⟨0, 0⟩).value = "[1,-2]" from rfl, hRaw] at hr
      cases hr
      refine .array fun x hx => ?_
      simp only [List.mem_cons, List.not_mem_nil, or_false] at hx
      rcases hx with rfl | rfl <;> exact .number trivial
    · exact absurd hSet (by decide)
  · intro doc h
    rw [hBlank] at h
    cases h
    intro k hk hLt v hv
    have hk' : k = 1 ∨ k = 2 := by
      simp only [List.length_cons, List.length_nil] at hLt
      omega
    rcases hk' with rfl | rfl
    · simp only [List.take_succ_cons, List.take_zero, Edit.applyAll, hFirst] at hv
      cases hv
      decide
    · simp only [List.take_succ_cons, List.take_zero, Edit.applyAll, hFirst, hSecond] at hv
      cases hv
      decide

/-! ### Past the reader's limit -/

def nestedLists : Nat → Value
  | 0 => .array []
  | n + 1 => .array [nestedLists n]

theorem depth_nestedLists (n : Nat) : (nestedLists n).depth = n + 1 := by
  induction n with
  | zero => rfl
  | succ n ih =>
    rw [nestedLists, Value.depth, itemsDepth, itemsDepth, ih]
    simp

theorem plain_nestedLists (n : Nat) : (nestedLists n).Plain := by
  induction n with
  | zero => exact Value.plain_array fun x hx => by cases hx
  | succ n ih =>
    refine Value.plain_array fun x hx => ?_
    rw [List.mem_singleton.mp hx]
    exact ih

theorem toBytes_nestedLists (n : Nat) :
    (nestedLists n).toBytes = List.replicate (n + 1) 0x5B ++ List.replicate (n + 1) 0x5D := by
  induction n with
  | zero =>
    rw [nestedLists, toBytes_array, encode_renderItems]
    rfl
  | succ n ih =>
    rw [nestedLists, toBytes_array, encode_renderItems, itemsText_cons, ih]
    simp only [itemsText, separator, if_true, List.nil_append, List.append_nil,
      List.replicate_succ, List.cons_append, List.append_assoc]
    rw [← List.replicate_succ', List.replicate_succ]

theorem encodeChars_replicate {c : Char} {b : UInt8} (h : Utf8.encodeChar c = [b]) (m : Nat) :
    Utf8.encodeChars (List.replicate m c) = List.replicate m b := by
  induction m with
  | zero => rfl
  | succ m ih =>
    rw [List.replicate_succ, Utf8.encodeChars, List.flatMap_cons, h, ← Utf8.encodeChars, ih]
    rfl

theorem encode_nestedLists (n : Nat) :
    Utf8.encode (String.ofList (List.replicate (n + 1) '[' ++ List.replicate (n + 1) ']')) =
      (nestedLists n).toBytes := by
  rw [toBytes_nestedLists, Utf8.encode, String.toList_ofList, Utf8.encodeChars,
    List.flatMap_append, ← Utf8.encodeChars, ← Utf8.encodeChars,
    encodeChars_replicate (show Utf8.encodeChar '[' = [0x5B] by decide),
    encodeChars_replicate (show Utf8.encodeChar ']' = [0x5D] by decide)]

/-- A `set` of a list nested 127 deep under a key of a blank document builds a value 128 levels
deep, which the value model takes. Editing the value once goes on to the next edit and answers
a document; run as processors, the next one cannot read what the first printed, and the chain
fails. -/
theorem realize_json_edits_stops_at_depth_limit :
    let deep := String.ofList (List.replicate 127 '[' ++ List.replicate 127 ']')
    let es := [Edit.new "set" "a" deep ⟨0, 0⟩, Edit.new "delete" "b" "" ⟨0, 0⟩]
    (∃ err, (realize [] (es.map .json)).result = .error err) ∧ ∃ out, editOnce [] es = .ok out := by
  intro deep es
  have hBlank : readJsonDocument [] = .ok (.object []) := rfl
  have hDeep : readRawJson deep = .ok (nestedLists 126) :=
    readRawJson_of_toBytes (encode_nestedLists 126) (plain_nestedLists 126)
      (by rw [depth_nestedLists]; decide)
  have hFirst : (Edit.new "set" "a" deep ⟨0, 0⟩).applyJson (.object []) =
      .ok (.object [("a", nestedLists 126)]) := by
    rw [Edit.applyJson_set (Edit.new "set" "a" deep ⟨0, 0⟩) rfl hDeep]
    rw [show (Edit.new "set" "a" deep ⟨0, 0⟩).keyPath = "a" from rfl,
      setAt_key (show segmentsOf "a" = .ok ["a"] by rfl)]
    rfl
  have hPlain : (Value.object [("a", nestedLists 126)]).Plain :=
    Value.plain_object (by decide) fun e he => by
      rw [List.mem_singleton.mp he]
      exact plain_nestedLists 126
  have hTooDeep : depthLimit ≤ (Value.object [("a", nestedLists 126)]).depth := by
    rw [Value.depth, entriesDepth, entriesDepth, depth_nestedLists]
    decide
  obtain ⟨err, hUnread⟩ := readJsonDocument_toBytes_of_deep hPlain hTooDeep
  have hSecond : (Edit.new "delete" "b" "" ⟨0, 0⟩).applyJson (.object [("a", nestedLists 126)]) =
      .ok (deleteSegments ["b"] (.object [("a", nestedLists 126)])) := by
    rw [Edit.applyJson_of_parse (show EditOp.parse "delete" = .ok .delete from rfl)]
    show ((Value.object [("a", nestedLists 126)]).deleteAt "b").mapError targetError = _
    rw [Value.deleteAt, show segmentsOf "b" = .ok ["b"] from rfl]
    rfl
  constructor
  · have hRun1 : runJson (Edit.new "set" "a" deep ⟨0, 0⟩) [] =
        .ok (Value.object [("a", nestedLists 126)]).toBytes := by
      rw [runJson_of_read _ hBlank, hFirst]
      rfl
    have hRun2 : runJson (Edit.new "delete" "b" "" ⟨0, 0⟩)
        (Value.object [("a", nestedLists 126)]).toBytes = .error err := by
      rw [runJson_eq, hUnread]
      rfl
    rw [List.map_cons, realize_json_cons_of_ok _ hRun1, List.map_cons,
      realize_json_cons_of_error _ hRun2]
    exact ⟨_, rfl⟩
  · have hRead : editOnce [] es = (Edit.applyAll es (.object [])).map Value.toBytes := rfl
    rw [hRead, Edit.applyAll_cons_of_ok hFirst, Edit.applyAll_cons_of_ok hSecond, Edit.applyAll]
    exact ⟨_, rfl⟩

end RuleOverlay
