import Mathlib
import RuleOverlay.Proofs.Parsed
/-! # What a shaped read gives

The reader of a shape answers only values of that shape (`readShaped_fits`): a text its check
takes for a text shape, `null` or a value of the inner shape for an optional one, a list of
items of the item shape, an object of values of the entry shape, and for a record an object
whose every entry is a field of the record with a value of that field's shape, and where every
field that may not be left out is present (`Shape.Fits`).

The reader is five functions on fuel (a value, the items of a list, the entries of a map, and
the fields of a record given as an object or as a list), so the proof is one mutual induction on
the fuel, with `Returns` saying what each step answers whatever it reads.
-/
namespace RuleOverlay

namespace Json

mutual

/-- A value of a shape. -/
inductive Shape.Fits : Shape → Value → Prop
  | any (v : Value) : Shape.Fits .any v
  | text {expecting s : String} {check : String → Option String} (h : check s = none) :
      Shape.Fits (.text expecting check) (.string s)
  | converted {s : String} {check : String → Option String} (h : check s = none) :
      Shape.Fits (.converted check) (.string s)
  | null {s : Shape} : Shape.Fits (.optional s) .null
  | optional {s : Shape} {v : Value} (h : Shape.Fits s v) : Shape.Fits (.optional s) v
  | defaulted {s : Shape} {v : Value} (h : Shape.Fits s v) : Shape.Fits (.defaulted s) v
  | list {item : Shape} {items : List Value} (h : ∀ x ∈ items, Shape.Fits item x) :
      Shape.Fits (.list item) (.array items)
  | dict {item : Shape} {es : List (String × Value)} (h : ∀ e ∈ es, Shape.Fits item e.2) :
      Shape.Fits (.dict item) (.object es)
  | record {name : String} {fields : List (String × Shape)} {es : List (String × Value)}
      (hEntries : ∀ e ∈ es, Shape.FieldFits fields e.1 e.2)
      (hRequired : ∀ f ∈ fields, f.2.isDefaulted = false → f.1 ∈ Entries.keys es) :
      Shape.Fits (.record name fields) (.object es)

/-- A value of the shape of one of the fields of a name. -/
inductive Shape.FieldFits : List (String × Shape) → String → Value → Prop
  | head {k : String} {s : Shape} {rest : List (String × Shape)} {v : Value}
      (h : Shape.Fits s v) : Shape.FieldFits ((k, s) :: rest) k v
  | tail {f : String × Shape} {rest : List (String × Shape)} {k : String} {v : Value}
      (h : Shape.FieldFits rest k v) : Shape.FieldFits (f :: rest) k v

end

theorem Shape.FieldFits.of_mem {fields : List (String × Shape)} {k : String} {s : Shape}
    {v : Value} (hMem : (k, s) ∈ fields) (h : s.Fits v) : Shape.FieldFits fields k v := by
  induction fields with
  | nil => cases hMem
  | cons f rest ih =>
    rcases List.mem_cons.mp hMem with rfl | hMem
    · exact .head h
    · exact .tail (ih hMem)

theorem Shape.fieldFits_iff {fields : List (String × Shape)} {k : String} {v : Value} :
    Shape.FieldFits fields k v ↔ ∃ s, (k, s) ∈ fields ∧ s.Fits v := by
  constructor
  · intro h
    induction fields with
    | nil => cases h
    | cons f rest ih =>
      cases h with
      | head h => exact ⟨_, List.mem_cons_self, h⟩
      | tail h =>
        obtain ⟨s, hMem, h⟩ := ih h
        exact ⟨s, List.mem_cons_of_mem _ hMem, h⟩
  · rintro ⟨s, hMem, h⟩
    exact .of_mem hMem h

theorem Shape.Fits.get?_record {name : String} {fields : List (String × Shape)}
    {es : List (String × Value)} (h : (Shape.record name fields).Fits (.object es)) {k : String}
    {v : Value} (hGet : Entries.get? es k = some v) : ∃ s, (k, s) ∈ fields ∧ s.Fits v := by
  cases h with
  | record hEntries _ =>
    obtain ⟨b, a, rfl, -⟩ := Entries.get?_eq_some_iff.mp hGet
    exact Shape.fieldFits_iff.mp (hEntries (k, v) (by simp))

theorem Shape.Fits.get?_required {name : String} {fields : List (String × Shape)}
    {es : List (String × Value)} (h : (Shape.record name fields).Fits (.object es)) {k : String}
    {s : Shape} (hField : (k, s) ∈ fields) (hRequired : s.isDefaulted = false) :
    ∃ v, Entries.get? es k = some v := by
  cases h with
  | record _ hPresent =>
    have hk : Entries.contains es k = true := Entries.contains_iff.mpr (hPresent _ hField hRequired)
    cases hGet : Entries.get? es k with
    | none => simp [Entries.get?_eq_none_iff.mp hGet] at hk
    | some v => exact ⟨v, rfl⟩

theorem Shape.Fits.text_string {expecting : String} {check : String → Option String} {v : Value}
    (h : (Shape.text expecting check).Fits v) : ∃ t, v = .string t := by
  cases h
  exact ⟨_, rfl⟩

/-! ### Steps that answer nothing or fail -/

section Steps

variable {α : Type} {P Q : α → Prop} {r : Reader α}

theorem Returns.imp (h : Returns r P) (hPQ : ∀ a, P a → Q a) : Returns r Q :=
  fun c a c' hRun => hPQ a (h c a c' hRun)

theorem returns_mismatch (expected : String) : Returns (mismatch expected : Reader α) P := by
  unfold mismatch
  refine returns_bind fun b? => ?_
  split <;> dsimp only
  all_goals repeat
    first
    | exact returns_failHere _
    | exact returns_failPeek _
    | refine returns_bind fun _ => ?_
    | split

theorem returns_ite_bind {β : Type} {c : Prop} [Decidable c] {x y : Reader α} {f : α → Reader β}
    {P : β → Prop} (hf : ∀ a, Returns (f a) P) : Returns (if c then x >>= f else y >>= f) P := by
  split <;> exact returns_bind hf

end Steps

/-! ### Records -/

/-- A record read as an object: the fields are taken in their own order from the entries read,
and the check that no required field is missing makes the result fit the record. -/
theorem fits_record_of_found {name : String} {fields : List (String × Shape)}
    {found : List (String × Value)} (hFound : ∀ e ∈ found, Shape.FieldFits fields e.1 e.2)
    (hNone : fields.find? (fun f => !f.2.isDefaulted && !(found.any (·.1 == f.1))) = none) :
    (Shape.record name fields).Fits
      (.object (fields.filterMap fun f => found.find? (·.1 == f.1))) := by
  refine .record (fun e he => ?_) fun f hf hDef => ?_
  · obtain ⟨f, -, hFind⟩ := List.mem_filterMap.mp he
    exact hFound e (List.mem_of_find?_eq_some hFind)
  · have hAny : found.any (·.1 == f.1) = true := by
      have := List.find?_eq_none.mp hNone f hf
      simpa [hDef] using this
    obtain ⟨e, hFind⟩ := Option.isSome_iff_exists.mp (List.find?_isSome.mpr (List.any_eq_true.mp hAny))
    have hKey : e.1 = f.1 := by simpa using List.find?_some hFind
    exact List.mem_map.mpr ⟨e, List.mem_filterMap.mpr ⟨f, hf, hFind⟩, hKey⟩

/-! ### The reader answers values of its shape -/

mutual

theorem returns_shaped : ∀ (F d : Nat) (s : Shape), Returns (shaped F d s) s.Fits
  | 0, _, _ => by
    rw [shaped]
    exact returns_failHere _
  | F + 1, d, s => by
    cases s with
    | any => exact fun _ v _ _ => .any v
    | defaulted s =>
      rw [shaped]
      exact (returns_shaped F d s).imp fun _ => .defaulted
    | optional s =>
      rw [shaped]
      refine returns_bind fun b? => ?_
      split
      · exact returns_bind fun _ => returns_bind fun _ => returns_pure .null
      · exact (returns_shaped F d s).imp fun _ => .optional
    | text expecting check =>
      rw [shaped]
      refine returns_bind fun b? => ?_
      split
      · exact returns_failPeek _
      · refine returns_bind fun _ => returns_bind fun t => ?_
        split
        · exact returns_pure (.text ‹_›)
        · exact returns_failHere _
      · exact returns_mismatch _
    | converted check =>
      rw [shaped]
      refine returns_bind fun b? => ?_
      split
      · exact returns_failPeek _
      · refine returns_bind fun _ => returns_bind fun t => ?_
        split
        · exact returns_pure (.converted ‹_›)
        · exact returns_throw
      · exact returns_mismatch _
    | list item =>
      rw [shaped]
      refine returns_bind fun b? => ?_
      split
      · exact returns_failPeek _
      · split
        · exact returns_failPeek _
        · refine returns_bind fun _ => ?_
          have hItems := returns_shapedItems F (d - 1) item true [] fun x hx => by cases hx
          exact hItems.container.bind fun items h => returns_pure (.list h)
      · exact returns_mismatch _
    | dict item =>
      rw [shaped]
      refine returns_bind fun b? => ?_
      split
      · exact returns_failPeek _
      · split
        · exact returns_failPeek _
        · refine returns_bind fun _ => ?_
          have hEntries := returns_shapedEntries F (d - 1) item true [] fun e he => by cases he
          exact hEntries.container.bind fun es h => returns_pure (.dict h)
      · exact returns_mismatch _
    | record name fields =>
      rw [shaped]
      refine returns_bind fun b? => ?_
      split
      · exact returns_failPeek _
      · split
        · exact returns_failPeek _
        · refine returns_bind fun _ => ?_
          have hFound := returns_recordEntries F (d - 1) fields true [] fun e he => by cases he
          refine hFound.container.bind fun found h => ?_
          split
          · exact returns_failHere _
          · exact returns_pure (fits_record_of_found h ‹_›)
      · split
        · exact returns_failPeek _
        · refine returns_bind fun _ => ?_
          have hFound := returns_recordItems F (d - 1) name fields fields 0 false []
            (fun _ hf => hf) fun e he => by cases he
          exact hFound.container.bind fun found h => returns_pure (.record h.1 h.2.2)
      · exact returns_mismatch _

theorem returns_shapedItems : ∀ (F d : Nat) (item : Shape) (first : Bool) (acc : List Value),
    (∀ x ∈ acc, item.Fits x) →
    Returns (shapedItems F d item first acc) fun items => ∀ x ∈ items, item.Fits x
  | 0, _, _, _, acc, hAcc => by
    rw [shapedItems]
    exact returns_pure fun x hx => hAcc x (List.mem_reverse.mp hx)
  | F + 1, d, item, first, acc, hAcc => by
    rw [shapedItems]
    refine returns_bind fun more => ?_
    split
    · refine (returns_shaped F d item).bind fun v hv =>
        returns_shapedItems F d item false (v :: acc) ?_
      intro x hx
      rcases List.mem_cons.mp hx with rfl | hx
      · exact hv
      · exact hAcc x hx
    · exact returns_pure fun x hx => hAcc x (List.mem_reverse.mp hx)

theorem returns_shapedEntries : ∀ (F d : Nat) (item : Shape) (first : Bool)
    (acc : List (String × Value)), (∀ e ∈ acc, item.Fits e.2) →
    Returns (shapedEntries F d item first acc) fun es => ∀ e ∈ es, item.Fits e.2
  | 0, _, _, _, acc, hAcc => by
    rw [shapedEntries]
    exact returns_pure hAcc
  | F + 1, d, item, first, acc, hAcc => by
    rw [shapedEntries]
    refine returns_bind fun k? => ?_
    split
    · exact returns_pure hAcc
    · rename_i k
      refine returns_bind fun _ => (returns_shaped F d item).bind fun v hv => ?_
      refine returns_shapedEntries F d item false _ fun e he => ?_
      rcases Entries.mem_insert he with he | rfl
      · exact hAcc e he
      · exact hv

/-- The entries of a record given as an object, after entries already read: each is a field
of the record with a value of that field's shape, since an unknown key is skipped. -/
theorem returns_recordEntries : ∀ (F d : Nat) (fields : List (String × Shape)) (first : Bool)
    (acc : List (String × Value)), (∀ e ∈ acc, Shape.FieldFits fields e.1 e.2) →
    Returns (recordEntries F d fields first acc) fun es =>
      ∀ e ∈ es, Shape.FieldFits fields e.1 e.2
  | 0, _, _, _, acc, hAcc => by
    rw [recordEntries]
    exact returns_pure hAcc
  | F + 1, d, fields, first, acc, hAcc => by
    rw [recordEntries]
    refine returns_bind fun k? => ?_
    split
    · exact returns_pure hAcc
    · rename_i k
      split
      · exact returns_bind fun _ => returns_bind fun _ =>
          returns_recordEntries F d fields false acc hAcc
      · rename_i k' s hFind
        split
        · exact returns_throw
        · have hField : (k, s) ∈ fields := by
            have hKey : k' = k := by simpa using List.find?_some hFind
            exact hKey ▸ List.mem_of_find?_eq_some hFind
          refine returns_bind fun _ => (returns_shaped F d s).bind fun v hv => ?_
          refine returns_recordEntries F d fields false _ fun e he => ?_
          rcases List.mem_append.mp he with he | he
          · exact hAcc e he
          · rw [List.mem_singleton.mp he]
            exact .of_mem hField hv

/-- The fields of a record given as a list, walked in field order after entries already read:
each entry is a field with a value of its shape, the entries read stay, and every field still
to walk that may not be left out gets an entry. -/
theorem returns_recordItems : ∀ (F d : Nat) (name : String) (all fields : List (String × Shape))
    (i : Nat) (ended : Bool) (acc : List (String × Value)), (∀ f ∈ fields, f ∈ all) →
    (∀ e ∈ acc, Shape.FieldFits all e.1 e.2) →
    Returns (recordItems F d name all fields i ended acc) fun es =>
      (∀ e ∈ es, Shape.FieldFits all e.1 e.2) ∧ Entries.keys acc ⊆ Entries.keys es ∧
        ∀ f ∈ fields, f.2.isDefaulted = false → f.1 ∈ Entries.keys es
  | _, _, _, _, [], _, _, acc, _, hAcc => by
    rw [recordItems]
    exact returns_pure ⟨hAcc, fun _ h => h, fun _ hf => by cases hf⟩
  | 0, _, _, _, _ :: _, _, _, _, _, _ => by
    rw [recordItems]
    exact returns_failHere _
  | F + 1, d, name, all, (k, s) :: rest, i, ended, acc, hAll, hAcc => by
    rw [recordItems]
    have hRest : ∀ f ∈ rest, f ∈ all := fun f hf => hAll f (List.mem_cons_of_mem _ hf)
    refine returns_ite_bind fun more => ?_
    dsimp only
    split
    · refine (returns_shaped F d s).bind fun v hv => ?_
      have hAcc' : ∀ e ∈ acc ++ [(k, v)], Shape.FieldFits all e.1 e.2 := by
        intro e he
        rcases List.mem_append.mp he with he | he
        · exact hAcc e he
        · rw [List.mem_singleton.mp he]
          exact .of_mem (hAll _ List.mem_cons_self) hv
      refine (returns_recordItems F d name all rest (i + 1) false _ hRest hAcc').imp ?_
      rintro es ⟨hFits, hKeys, hRequired⟩
      have hk : k ∈ Entries.keys es := hKeys (by simp)
      refine ⟨hFits, fun x hx => hKeys (by simp [hx]), fun f hf hDef => ?_⟩
      rcases List.mem_cons.mp hf with rfl | hf
      · exact hk
      · exact hRequired f hf hDef
    · split
      · rename_i hDefaulted
        refine (returns_recordItems F d name all rest (i + 1) true acc hRest hAcc).imp ?_
        rintro es ⟨hFits, hKeys, hRequired⟩
        refine ⟨hFits, hKeys, fun f hf hDef => ?_⟩
        rcases List.mem_cons.mp hf with rfl | hf
        · simp [hDefaulted] at hDef
        · exact hRequired f hf hDef
      · exact returns_throw

end

theorem readShaped_fits {shape : Shape} {b : Bytes} {v : Value}
    (hRead : readShaped shape b = .ok v) : shape.Fits v :=
  readShaped_returns (fun F => returns_shaped F depthLimit shape) hRead

end Json

end RuleOverlay
