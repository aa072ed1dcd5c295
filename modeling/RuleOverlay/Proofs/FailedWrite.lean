import Mathlib
import RuleOverlay.Proofs.Places
/-! # What a failed write leaves

A write of a key path works in place, one segment at a time: it adds a missing key as `null`,
pads a list up to an index past its end, and turns a scalar in the way into an empty container,
before a later segment can be refused. Nothing is undone when that happens. So a write that
fails leaves the document as a write of the refusing node's container at the segments before
the refused one would leave it (`writeAt_stop`): unchanged when its walk stopped at a list
already in the document, and changed otherwise, since the walk then made the node it stopped at
(`write_fault_leaves`).
-/
namespace RuleOverlay

namespace Json

/-! ### One segment -/

section Step

variable {node y w : Value} {raw : String}

theorem enter_null (h : Value.null.enter raw = some y) : y = .null := by
  simp only [Value.enter, Value.container] at h
  cases hs : Step.ofSegment raw <;> simp only [hs] at h
  case key => simpa [Entries.get?, eq_comm] using h
  all_goals
    split at h
    · split at h
      · simpa [eq_comm] using h
      · cases h
    · cases h

theorem plug_enter_self (hWF : node.WellFormed) (h : node.enter raw = some y) (hy : y ≠ .null) :
    node.plug raw y = node := by
  cases node with
  | object es =>
    have hGet : Entries.get? es raw = some y := by
      simp only [Value.enter, Value.container, Option.some.injEq] at h
      cases hFound : Entries.get? es raw with
      | none => rw [hFound] at h; exact absurd h.symm hy
      | some x => simp only [hFound, Option.getD_some] at h; rw [h]
    obtain ⟨b, a, rfl, hb⟩ := Entries.get?_eq_some_iff.mp hGet
    have ha : raw ∉ Entries.keys a := by
      cases hWF with
      | object hKeys _ =>
        rw [Entries.keys_append, Entries.keys_cons] at hKeys
        exact (List.nodup_middle.mp hKeys |> List.nodup_cons.mp).1 ∘ List.mem_append_right _
    rw [plug_of_object rfl, Entries.insert_middle hb ha]
  | array items =>
    obtain ⟨i, -, -, rfl, hPlug⟩ := enter_eq_some_of_array rfl h
    have hi : i < items.length := by
      by_contra hNot
      exact hy (by rw [List.getD_eq_getElem?_getD, List.getElem?_eq_none (Nat.le_of_not_lt hNot)]; rfl)
    rw [hPlug, spliceAt, if_pos hi, setItem, List.getD_eq_getElem _ _ hi, List.set_getElem_self]
  | _ => exact absurd (enter_null h) hy

theorem eq_of_plug_eq_self (h : node.enter raw = some y) (hSame : node.plug raw w = node) :
    w = y := by
  cases node with
  | object es =>
    have hChild := child?_plug (w := w) h
    rw [hSame] at hChild
    simp only [child?] at hChild
    simp only [Value.enter, Value.container, hChild, Option.getD_some, Option.some.injEq] at h
    exact h
  | array items =>
    obtain ⟨i, -, -, rfl, hPlug⟩ := enter_eq_some_of_array rfl h
    rw [hPlug, Value.array.injEq] at hSame
    have hItem : items[i]? = some w := by
      rw [← hSame]
      exact getElem?_spliceAt_self
    rw [List.getD_eq_getElem?_getD, hItem, Option.getD_some]
  | _ =>
    rcases container_cases _ raw with ⟨es, hc⟩ | ⟨items, hc⟩
    · rw [plug_of_object hc] at hSame
      cases hSame
    · simp only [Value.plug, hc] at hSame
      split at hSame <;> cases hSame

end Step

/-! ### Whole walks -/

theorem reach_null : ∀ {path : List String} {y : Value}, reach path .null = some y → y = .null
  | [], _, h => (Option.some.inj h).symm
  | raw :: rest, y, h => by
    rw [reach_cons] at h
    obtain ⟨y', hEnter, hRest⟩ := Option.bind_eq_some_iff.mp h
    rw [enter_null hEnter] at hRest
    exact reach_null hRest

theorem Value.WellFormed.enter {node y : Value} {raw : String} (hWF : node.WellFormed)
    (h : node.enter raw = some y) : y.WellFormed := by
  cases node with
  | object es =>
    simp only [Value.enter, Value.container, Option.some.injEq] at h
    cases hFound : Entries.get? es raw with
    | none => rw [hFound, Option.getD_none] at h; exact h ▸ .null
    | some x =>
      rw [hFound, Option.getD_some] at h
      obtain ⟨b, a, rfl, -⟩ := Entries.get?_eq_some_iff.mp hFound
      cases hWF with
      | object _ hValues => exact h ▸ hValues (raw, x) (by simp)
  | array items =>
    obtain ⟨i, -, -, rfl, -⟩ := enter_eq_some_of_array rfl h
    rw [List.getD_eq_getElem?_getD]
    cases hItem : items[i]? with
    | none => exact .null
    | some x =>
      cases hWF with
      | array _ hItems => exact hItems x (List.mem_of_getElem? hItem)
  | _ => exact (enter_null h) ▸ .null

section Walk

variable {target : String} {v : Value}

theorem writeAt_nil (node : Value) : writeAt target v [] node = (v, none) := by
  rw [writeAt]

/-- A write that fails stopped at the first segment its walk could not enter, and leaves what a
write of that node's container at the segments before it leaves. -/
theorem writeAt_stop : ∀ (path : List String) (node : Value) {e : KeyPathError},
    (writeAt target v path node).2 = some e →
    ∃ pre raw rest y, path = pre ++ raw :: rest ∧ reach pre node = some y ∧ y.enter raw = none ∧
      e = ⟨target, y.refusal raw⟩ ∧
      (writeAt target v path node).1 = (writeAt target (y.container raw) pre node).1
  | [], _, _, h => by simp [writeAt_nil] at h
  | raw :: rest, node, e, h => by
    rw [writeAt_cons] at h ⊢
    cases hEnter : node.enter raw with
    | none =>
      rw [hEnter] at h
      exact ⟨[], raw, rest, node, rfl, rfl, hEnter, (Option.some.inj h).symm, by simp [writeAt_nil]⟩
    | some y₁ =>
      rw [hEnter] at h
      obtain ⟨pre, raw', rest', y, rfl, hReach, hStop, rfl, hLeft⟩ := writeAt_stop rest y₁ h
      refine ⟨raw :: pre, raw', rest', y, rfl, by rw [reach_cons, hEnter]; exact hReach, hStop,
        rfl, ?_⟩
      dsimp only
      rw [hLeft, writeAt_cons, hEnter]

/-- Writing back what a walk found, where it is no `null`, changes nothing: the walk went
through entries and items that were there. -/
theorem writeAt_self : ∀ {pre : List String} {node y : Value}, node.WellFormed →
    reach pre node = some y → y ≠ .null → writeAt target y pre node = (node, none)
  | [], _, _, _, hReach, _ => by
    cases Option.some.inj hReach
    exact writeAt_nil _
  | raw :: pre, node, y, hWF, hReach, hy => by
    rw [reach_cons] at hReach
    obtain ⟨y₁, hEnter, hRest⟩ := Option.bind_eq_some_iff.mp hReach
    have hy₁ : y₁ ≠ .null := fun hNull => hy (reach_null (hNull ▸ hRest))
    rw [writeAt_cons, hEnter]
    dsimp only
    rw [writeAt_self (hWF.enter hEnter) hRest hy, plug_enter_self hWF hEnter hy₁]

theorem writeAt_ne_self {c : Value} : ∀ {pre : List String} {node y : Value},
    reach pre node = some y → c ≠ y → (writeAt target c pre node).1 ≠ node
  | [], _, _, hReach, hc => by
    cases Option.some.inj hReach
    rw [writeAt_nil]
    exact hc
  | raw :: pre, node, y, hReach, hc => by
    rw [reach_cons] at hReach
    obtain ⟨y₁, hEnter, hRest⟩ := Option.bind_eq_some_iff.mp hReach
    rw [writeAt_cons, hEnter]
    exact fun hSame => writeAt_ne_self hRest hc (eq_of_plug_eq_self hEnter hSame)

end Walk

/-! ### Failed writes -/

/-- A write that fails leaves the document unchanged when its target has no segments. Otherwise
its walk stopped at a node `y`, refusing the next segment, and the document is as a write of
`y`'s container at the segments before that one leaves it: unchanged exactly when `y` is a list
already in the document; else the keys, padding and containers the walk made stay, and an empty
list stands where the walk stopped. -/
theorem write_fault_leaves {doc : Value} {t : String} {v : Value} {e : KeyPathError}
    (hWF : doc.WellFormed) (hFail : (doc.write t v).2 = some e) :
    (∃ e', segmentsOf t = .error e') ∧ (doc.write t v).1 = doc ∨
      ∃ pre raw rest y, segmentsOf t = .ok (pre ++ raw :: rest) ∧ reach pre doc = some y ∧
        y.enter raw = none ∧ (doc.write t v).1 = (writeAt t (y.container raw) pre doc).1 ∧
        ((doc.write t v).1 = doc ↔ ∃ items, y = .array items) := by
  unfold Value.write at hFail ⊢
  cases hSeg : segmentsOf t with
  | error e' => exact .inl ⟨⟨e', rfl⟩, rfl⟩
  | ok parts =>
    rw [hSeg] at hFail
    dsimp only at hFail ⊢
    obtain ⟨pre, raw, rest, y, rfl, hReach, hStop, -, hLeft⟩ := writeAt_stop parts doc hFail
    refine .inr ⟨pre, raw, rest, y, rfl, hReach, hStop, hLeft, ?_⟩
    rw [hLeft]
    constructor
    · intro hSame
      by_contra hNotList
      have hNe : y.container raw ≠ y := by
        cases y with
        | object es => simp [Value.enter, Value.container] at hStop
        | array items => exact absurd ⟨items, rfl⟩ hNotList
        | _ =>
          rcases container_cases _ raw with ⟨es, hc⟩ | ⟨items, hc⟩ <;> rw [hc] <;> simp
      exact writeAt_ne_self hReach hNe hSame
    · rintro ⟨items, rfl⟩
      rw [show (Value.array items).container raw = .array items from rfl,
        writeAt_self hWF hReach (by simp)]

/-- The write the test of far indexes makes: `list.4000000000` on `{"list": [1]}` stops at the
list, which refuses an index so far past its end, and the document stays as it was. -/
theorem write_fault_leaves_list :
    (Value.object [("list", .array [.number (.nat 1)])]).WellFormed ∧
      ((Value.object [("list", .array [.number (.nat 1)])]).write "list.4000000000"
        (.number (.nat 1))).2 = some ⟨"list.4000000000", .tooFar 4000000000 1⟩ ∧
      ((∃ e', segmentsOf "list.4000000000" = .error e') ∧
          ((Value.object [("list", .array [.number (.nat 1)])]).write "list.4000000000"
            (.number (.nat 1))).1 = .object [("list", .array [.number (.nat 1)])] ∨
        ∃ pre raw rest y, segmentsOf "list.4000000000" = .ok (pre ++ raw :: rest) ∧
          reach pre (.object [("list", .array [.number (.nat 1)])]) = some y ∧
          y.enter raw = none ∧
          ((Value.object [("list", .array [.number (.nat 1)])]).write "list.4000000000"
            (.number (.nat 1))).1 =
            (writeAt "list.4000000000" (y.container raw) pre
              (.object [("list", .array [.number (.nat 1)])])).1 ∧
          (((Value.object [("list", .array [.number (.nat 1)])]).write "list.4000000000"
            (.number (.nat 1))).1 = .object [("list", .array [.number (.nat 1)])] ↔
            ∃ items, y = .array items)) := by
  have hWF : (Value.object [("list", .array [.number (.nat 1)])]).WellFormed := by
    refine .object (by decide) ?_
    simp only [List.mem_singleton, forall_eq]
    refine .array (by decide) ?_
    simp only [List.mem_singleton, forall_eq]
    exact .number _
  have hIndex : Step.ofSegment "4000000000" = .index 4000000000 :=
    Step.ofSegment_of_digits (by decide) (by simp) (by decide)
  have hSeg : segmentsOf "list.4000000000" = .ok ["list", "4000000000"] := by rfl
  have hFail : ((Value.object [("list", .array [.number (.nat 1)])]).write "list.4000000000"
      (.number (.nat 1))).2 = some ⟨"list.4000000000", .tooFar 4000000000 1⟩ := by
    simp [Value.write, hSeg, writeAt_cons, Value.enter, Value.container, Value.refusal,
      Step.slot, hIndex, Entries.get?, maxPadding]
  exact ⟨hWF, hFail, write_fault_leaves hWF hFail⟩

/-- On `{}`, a write of `a.5000` adds the key `a`, turns its `null` into an empty list, and only
then is refused, the index being more than 1024 slots past the end of that list. The document
keeps the key and the list. -/
theorem write_fault_keeps_made_key :
    ((Value.object []).write "a.5000" .null).2 = some ⟨"a.5000", .tooFar 5000 0⟩ ∧
      ((Value.object []).write "a.5000" .null).1 = .object [("a", .array [])] := by
  have hIndex : Step.ofSegment "5000" = .index 5000 :=
    Step.ofSegment_of_digits (by decide) (by simp) (by decide)
  have hSeg : segmentsOf "a.5000" = .ok ["a", "5000"] := by rfl
  simp [Value.write, hSeg, writeAt_cons, Value.enter, Value.container, Value.refusal, Value.plug,
    Step.slot, hIndex, Entries.get?, Entries.insert, maxPadding]

end Json

end RuleOverlay
