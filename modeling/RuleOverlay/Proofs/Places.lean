import RuleOverlay.Json.KeyPath
import Mathlib
/-! # Places in a document

A key path is followed one segment at a time, and reading and writing take a segment in two
different ways. A read goes to a child that is there: the first entry of the key in an object,
the item at an index or the last item of a list. A write first puts a container in place of a
scalar (an object before a key, a list before an index or `-1`), then enters the entry of the
key (as `null` if it is absent) or the slot of the index (`-1` being the slot past the end),
padding the list up to it; an index too far past the end, or a key on a list, stops it.

`Value.enter` and `Value.plug` say once what a write does at one segment: where it goes, and the
container it leaves with the slot filled. `writeAt_cons` is the only unfolding of a write; the
walk of a write over a whole path is `reach`. A place that a read finds is seen through
`Frame`s, one per level: an object with the entries before and after one of them, or a list with
the items around one of them, so that a document is the frames of a path filled with the value
found there (`readAt_eq_some_iff`).

A value of the document type has one entry per key in each object and fewer than `2^63` items in
each list, as no allocation is larger (`Value.WellFormed`).
-/
namespace RuleOverlay

namespace Json

/-! ### Segments -/

namespace Step

theorem ofSegment_eq_last_iff {raw : String} : ofSegment raw = .last ↔ raw = "-1" := by
  unfold ofSegment
  split
  · exact ⟨fun _ => ‹_›, fun _ => rfl⟩
  · split <;> simp_all

theorem eq_of_ofSegment_eq_key {raw k : String} (h : ofSegment raw = .key k) : k = raw := by
  unfold ofSegment at h
  split at h
  · cases h
  · split at h
    · cases h
    · cases h; rfl

/-- The index a segment gives a write into a list of `n` items: `n` for `-1`, the value of a
segment of digits, none for a key. -/
def slot (raw : String) (n : Nat) : Option Nat :=
  match ofSegment raw with
  | .last => some n
  | .index i => some i
  | .key _ => none

theorem slot_of_ne {raw : String} (h : raw ≠ "-1") (n m : Nat) : slot raw n = slot raw m := by
  unfold slot
  split
  · exact absurd (ofSegment_eq_last_iff.mp ‹_›) h
  · rfl
  · rfl

theorem ofSegment_of_digits {raw : String} (hne : raw ≠ "")
    (hDigits : raw.all Char.isDigit = true)
    (hLt : digitsValue raw < Nat.pow 2 64) : ofSegment raw = .index (digitsValue raw) := by
  have hNotLast : raw ≠ "-1" := by
    rintro rfl
    exact absurd hDigits (by simp)
  have hNonempty : raw.isEmpty = false := by simpa [String.isEmpty_iff] using hne
  simp [ofSegment, hNotLast, hNonempty, hDigits, hLt]

end Step

/-! ### Entries of an object -/

namespace Entries

variable {es b a : List (String × Value)} {k j : String} {v w : Value}

@[simp] theorem keys_append : keys (b ++ a) = keys b ++ keys a := List.map_append

@[simp] theorem keys_cons (e : String × Value) : keys (e :: es) = e.1 :: keys es := rfl

theorem contains_iff : contains es k = true ↔ k ∈ keys es := by
  simp [contains, keys]

theorem get?_insert_self : get? (insert es k v) k = some v := by
  unfold get? insert
  split
  · rename_i hAny
    obtain ⟨e, he, hk⟩ := List.any_eq_true.mp hAny
    have hFound : ((es.map fun e => if e.1 == k then (k, v) else e).find? (·.1 == k)).isSome := by
      rw [List.find?_isSome]
      exact ⟨(k, v), List.mem_map.mpr ⟨e, he, by simp [hk]⟩, by simp⟩
    obtain ⟨e', he'⟩ := Option.isSome_iff_exists.mp hFound
    obtain ⟨hk', -⟩ := List.find?_eq_some_iff_append.mp he'
    obtain ⟨e'', -, rfl⟩ := List.mem_map.mp (List.mem_of_find?_eq_some he')
    rw [he']
    split at hk' <;> simp_all
  · rename_i hAny
    have hNone : es.find? (·.1 == k) = none := List.find?_eq_none.mpr fun e he hk =>
      hAny (List.any_eq_true.mpr ⟨e, he, hk⟩)
    simp [List.find?_append, hNone]

theorem insert_insert : insert (insert es k v) k w = insert es k w := by
  unfold insert
  by_cases hAny : es.any (·.1 == k) = true
  · have hAny' : (es.map fun e => if e.1 == k then (k, v) else e).any (·.1 == k) = true := by
      obtain ⟨e, he, hk⟩ := List.any_eq_true.mp hAny
      exact List.any_eq_true.mpr ⟨(k, v), List.mem_map.mpr ⟨e, he, by simp [hk]⟩, by simp⟩
    simp only [hAny, hAny', if_true, List.map_map]
    congr 1
    funext e
    by_cases he : e.1 = k <;> simp [he]
  · have hAny' : (es ++ [(k, v)]).any (·.1 == k) = true := by simp
    simp only [hAny, hAny', if_true, if_false, Bool.false_eq_true]
    have hKeep : es.map (fun e => if e.1 == k then (k, w) else e) = es := by
      refine (List.map_congr_left fun e he => ?_).trans (List.map_id es)
      simp only [Bool.not_eq_true, List.any_eq_false] at hAny
      simp [hAny e he]
    rw [List.map_append, hKeep]
    simp

theorem keys_insert : keys (insert es k v) = if contains es k then keys es else keys es ++ [k] := by
  unfold insert contains keys
  split
  · simp only [List.map_map]
    apply List.map_congr_left
    intro e _
    by_cases he : e.1 == k <;> simp_all
  · simp

theorem get?_eq_some_iff :
    get? es k = some v ↔ ∃ b a, es = b ++ (k, v) :: a ∧ k ∉ keys b := by
  unfold get?
  constructor
  · intro h
    obtain ⟨e, hFind, rfl⟩ := Option.map_eq_some_iff.mp h
    obtain ⟨hk, b, a, rfl, hb⟩ := List.find?_eq_some_iff_append.mp hFind
    have hk : e.1 = k := by simpa using hk
    refine ⟨b, a, by rw [← hk], fun hMem => ?_⟩
    obtain ⟨x, hx, hxk⟩ := List.mem_map.mp hMem
    simpa [hxk] using hb x hx
  · rintro ⟨b, a, rfl, hb⟩
    have hFind : (b ++ (k, v) :: a).find? (·.1 == k) = some (k, v) := by
      refine List.find?_eq_some_iff_append.mpr ⟨by simp, b, a, rfl, fun x hx => ?_⟩
      have : x.1 ≠ k := fun hxk => hb (List.mem_map.mpr ⟨x, hx, hxk⟩)
      simpa using this
    rw [hFind]
    rfl

theorem get?_eq_none_iff : get? es k = none ↔ contains es k = false := by
  simp [get?, contains, List.find?_eq_none]

theorem insert_middle (hb : k ∉ keys b) (ha : k ∉ keys a) :
    insert (b ++ (k, v) :: a) k w = b ++ (k, w) :: a := by
  have hKeep : ∀ x ∈ b ++ a, x.1 ≠ k := fun x hx hxk => by
    rcases List.mem_append.mp hx with hx | hx
    · exact hb (List.mem_map.mpr ⟨x, hx, hxk⟩)
    · exact ha (List.mem_map.mpr ⟨x, hx, hxk⟩)
  have hMap : ∀ l : List (String × Value), (∀ x ∈ l, x.1 ≠ k) →
      l.map (fun e => if e.1 == k then (k, w) else e) = l := fun l hl =>
    (List.map_congr_left fun x hx => by simp [hl x hx]).trans (List.map_id l)
  have hAny : (b ++ (k, v) :: a).any (·.1 == k) = true := by simp
  unfold insert
  rw [if_pos hAny, List.map_append, List.map_cons,
    hMap b fun x hx => hKeep x (List.mem_append_left a hx),
    hMap a fun x hx => hKeep x (List.mem_append_right b hx)]
  simp

theorem erase_middle (hb : k ∉ keys b) (ha : k ∉ keys a) :
    erase (b ++ (k, v) :: a) k = b ++ a := by
  have hKeep : ∀ l : List (String × Value), k ∉ keys l → l.filter (·.1 != k) = l := by
    intro l hl
    refine List.filter_eq_self.mpr fun x hx => ?_
    have : x.1 ≠ k := fun hxk => hl (List.mem_map.mpr ⟨x, hx, hxk⟩)
    simpa using this
  simp [erase, hKeep b hb, hKeep a ha]

theorem erase_of_contains_eq_false (h : contains es k = false) : erase es k = es :=
  List.filter_eq_self.mpr fun x hx => by
    simp only [contains, List.any_eq_false, beq_iff_eq] at h
    simpa using h x hx

end Entries

/-! ### One segment of a write -/

def spliceAt (items : List Value) (i : Nat) (w : Value) : List Value :=
  if i < items.length then setItem items i w else items ++ nulls (i - items.length) ++ [w]

section Splice

variable {items b a : List Value} {i : Nat} {w w₁ w₂ y : Value}

theorem getElem?_spliceAt_self : (spliceAt items i w)[i]? = some w := by
  unfold spliceAt setItem nulls
  split
  · simp [*]
  · rename_i h
    rw [List.getElem?_append_right (by simp; omega)]
    simp [show i - (items.length + (i - items.length)) = 0 by omega]

theorem length_spliceAt : (spliceAt items i w).length = max items.length (i + 1) := by
  unfold spliceAt setItem nulls
  split <;> simp <;> omega

theorem spliceAt_length : spliceAt items items.length w = items ++ [w] := by
  simp [spliceAt, nulls]

theorem spliceAt_spliceAt : spliceAt (spliceAt items i w₁) i w₂ = spliceAt items i w₂ := by
  have hIn : i < (spliceAt items i w₁).length := by rw [length_spliceAt]; omega
  rw [spliceAt, if_pos hIn]
  unfold spliceAt setItem nulls
  split
  · exact List.set_set _
  · rename_i h
    rw [List.set_append_right _ _ (by simp; omega)]
    simp [show i - (items.length + (i - items.length)) = 0 by omega]

theorem spliceAt_middle : spliceAt (b ++ y :: a) b.length w = b ++ w :: a := by
  simp [spliceAt, setItem, List.set_append_right]

end Splice

namespace Value

/-- The container a write of segment `raw` works in: the node itself when it is an object or a
list; for a scalar, an empty object before a key and an empty list before an index or `-1`. -/
def container (node : Value) (raw : String) : Value :=
  match node with
  | .object es => .object es
  | .array items => .array items
  | _ =>
    match Step.ofSegment raw with
    | .key _ => .object []
    | _ => .array []

/-- Where a write of segment `raw` goes from `node`: the entry of the key in an object, `null`
if it is absent; the item at the slot of the segment in a list, `null` past the end. A key on a
list, or an index more than `maxPadding` slots past the end or whose successor does not count in
64 bits, goes nowhere. -/
def enter (node : Value) (raw : String) : Option Value :=
  match node.container raw with
  | .object es => some ((Entries.get? es raw).getD .null)
  | .array items =>
    match Step.slot raw items.length with
    | some i =>
      if i < items.length ∨ (i - items.length ≤ maxPadding ∧ i + 1 < Nat.pow 2 64) then
        some (items.getD i .null)
      else none
    | none => none
  | _ => none

def plug (node : Value) (raw : String) (w : Value) : Value :=
  match node.container raw with
  | .object es => .object (Entries.insert es raw w)
  | .array items =>
    match Step.slot raw items.length with
    | some i => .array (spliceAt items i w)
    | none => .array items
  | other => other

def refusal (node : Value) (raw : String) : PathFault :=
  match node.container raw with
  | .array items =>
    match Step.slot raw items.length with
    | some i => .tooFar i items.length
    | none => .notAnIndex raw
  | _ => .notAnIndex raw

end Value

def reach : List String → Value → Option Value
  | [], node => some node
  | raw :: rest, node => (node.enter raw).bind (reach rest)

@[simp] theorem reach_nil (node : Value) : reach [] node = some node := rfl

theorem reach_cons (raw : String) (rest : List String) (node : Value) :
    reach (raw :: rest) node = (node.enter raw).bind (reach rest) := rfl

theorem reach_append (pre rest : List String) (node : Value) :
    reach (pre ++ rest) node = (reach pre node).bind (reach rest) := by
  induction pre generalizing node with
  | nil => rfl
  | cons raw pre ih => simp [reach_cons, ih, Option.bind_assoc]

theorem container_container (node : Value) (raw : String) :
    (node.container raw).container raw = node.container raw := by
  cases node <;> simp only [Value.container] <;> cases Step.ofSegment raw <;> rfl

theorem container_cases (node : Value) (raw : String) :
    (∃ es, node.container raw = .object es) ∨ ∃ items, node.container raw = .array items := by
  cases node <;> simp only [Value.container] <;> try simp
  all_goals cases Step.ofSegment raw <;> simp

theorem writeAt_container (target : String) (v : Value) (raw : String) (rest : List String)
    (node : Value) :
    writeAt target v (raw :: rest) node = writeAt target v (raw :: rest) (node.container raw) := by
  cases node <;> try rfl
  all_goals
    simp only [Value.container]
    cases h : Step.ofSegment raw <;> simp [writeAt, h, Entries.insert, Entries.get?]

/-- What a write does at one segment: it enters the place `enter` names, writes the rest of the
path there and plugs what that leaves into the container; or it stops with the container,
refused. -/
theorem writeAt_cons (target : String) (v : Value) (raw : String) (rest : List String)
    (node : Value) :
    writeAt target v (raw :: rest) node =
      match node.enter raw with
      | some y => (node.plug raw (writeAt target v rest y).1, (writeAt target v rest y).2)
      | none => (node.container raw, some ⟨target, node.refusal raw⟩) := by
  rw [writeAt_container]
  simp only [Value.enter, Value.plug, Value.refusal]
  rcases container_cases node raw with ⟨es, hc⟩ | ⟨items, hc⟩ <;> rw [hc]
  · simp [writeAt]
  · simp only [writeAt, writeItem, Step.slot, setItem]
    cases h : Step.ofSegment raw with
    | key k => simp [Step.eq_of_ofSegment_eq_key h]
    | _ =>
      dsimp only
      split_ifs <;> simp_all [spliceAt, setItem, maxPadding]
      all_goals omega

section Step

variable {node y w w₁ w₂ : Value} {raw : String}

theorem enter_eq_some_of_array {items : List Value} (hc : node.container raw = .array items)
    (h : node.enter raw = some y) :
    ∃ i, Step.slot raw items.length = some i ∧
      (i < items.length ∨ (i - items.length ≤ maxPadding ∧ i + 1 < Nat.pow 2 64)) ∧
      y = items.getD i .null ∧ ∀ w, node.plug raw w = .array (spliceAt items i w) := by
  simp only [Value.enter, Value.plug, hc] at h ⊢
  split at h
  · rename_i i hSlot
    split at h
    · cases h
      exact ⟨i, hSlot, ‹_›, rfl, fun _ => rfl⟩
    · cases h
  · cases h

theorem plug_of_object {es : List (String × Value)} (hc : node.container raw = .object es) :
    node.plug raw w = .object (Entries.insert es raw w) := by
  simp only [Value.plug, hc]

theorem child?_plug (h : node.enter raw = some y) : child? (node.plug raw w) raw = some w := by
  rcases container_cases node raw with ⟨es, hc⟩ | ⟨items, hc⟩
  · rw [plug_of_object hc]
    exact Entries.get?_insert_self
  · obtain ⟨i, hSlot, -, -, hPlug⟩ := enter_eq_some_of_array hc h
    rw [hPlug]
    unfold Step.slot at hSlot
    simp only [child?]
    split at hSlot
    · rename_i hLast
      cases hSlot
      rw [hLast, spliceAt_length]
      exact List.getLast?_concat
    · rename_i hIndex
      cases hSlot
      rw [hIndex]
      exact getElem?_spliceAt_self
    · cases hSlot

theorem enter_plug (h : node.enter raw = some y) (hRaw : raw ≠ "-1") :
    (node.plug raw w).enter raw = some w := by
  rcases container_cases node raw with ⟨es, hc⟩ | ⟨items, hc⟩
  · rw [plug_of_object hc]
    simp [Value.enter, Value.container, Entries.get?_insert_self]
  · obtain ⟨i, hSlot, -, -, hPlug⟩ := enter_eq_some_of_array hc h
    rw [hPlug]
    have hSlot' : Step.slot raw (spliceAt items i w).length = some i := by
      rw [Step.slot_of_ne hRaw _ items.length, hSlot]
    have hIn : i < (spliceAt items i w).length := by rw [length_spliceAt]; omega
    simp only [Value.enter, Value.container, hSlot', if_pos (Or.inl hIn)]
    simp [getElem?_spliceAt_self, List.getD_eq_getElem?_getD]

theorem plug_plug (h : node.enter raw = some y) (hRaw : raw ≠ "-1") :
    (node.plug raw w₁).plug raw w₂ = node.plug raw w₂ := by
  rcases container_cases node raw with ⟨es, hc⟩ | ⟨items, hc⟩
  · rw [plug_of_object hc, plug_of_object hc]
    simp [Value.plug, Value.container, Entries.insert_insert]
  · obtain ⟨i, hSlot, -, -, hPlug⟩ := enter_eq_some_of_array hc h
    have hSlot' : Step.slot raw (spliceAt items i w₁).length = some i := by
      rw [Step.slot_of_ne hRaw _ items.length, hSlot]
    rw [hPlug, hPlug]
    simp only [Value.plug, Value.container, hSlot', spliceAt_spliceAt]

end Step

/-! ### Whole writes -/

section Write

variable {target : String}

theorem writeAt_fault (v₁ v₂ : Value) :
    ∀ (path : List String) (node : Value),
      (writeAt target v₁ path node).2 = (writeAt target v₂ path node).2
  | [], _ => by simp [writeAt]
  | raw :: rest, node => by
    rw [writeAt_cons, writeAt_cons]
    cases node.enter raw with
    | none => rfl
    | some y => exact writeAt_fault v₁ v₂ rest y

theorem writeAt_ok_iff (v : Value) :
    ∀ (path : List String) (node : Value),
      (writeAt target v path node).2 = none ↔ (reach path node).isSome
  | [], _ => by simp [writeAt]
  | raw :: rest, node => by
    rw [writeAt_cons, reach_cons]
    cases node.enter raw with
    | none => simp
    | some y => exact writeAt_ok_iff v rest y

/-- After a write that succeeds, a read of any beginning of its path finds what the write left
at the node its walk stood at there. -/
theorem readAt_writeAt_append (v : Value) (rest : List String) :
    ∀ (pre : List String) (node : Value), (writeAt target v (pre ++ rest) node).2 = none →
      ∃ y, reach pre node = some y ∧
        readAt pre (writeAt target v (pre ++ rest) node).1 = some (writeAt target v rest y).1
  | [], node, _ => ⟨node, rfl, rfl⟩
  | raw :: pre, node, hOk => by
    rw [List.cons_append, writeAt_cons] at hOk ⊢
    cases hEnter : node.enter raw with
    | none => rw [hEnter] at hOk; cases hOk
    | some y' =>
      rw [hEnter] at hOk
      obtain ⟨y, hReach, hRead⟩ := readAt_writeAt_append v rest pre y' hOk
      refine ⟨y, by rw [reach_cons, hEnter]; exact hReach, ?_⟩
      simp only [readAt, child?_plug hEnter, Option.bind_some]
      exact hRead

theorem readAt_writeAt {v : Value} {path : List String} {node : Value}
    (hOk : (writeAt target v path node).2 = none) :
    readAt path (writeAt target v path node).1 = some v := by
  obtain ⟨y, -, hRead⟩ := readAt_writeAt_append v [] path node (by simpa using hOk)
  simpa [writeAt] using hRead

theorem writeAt_writeAt (v₁ v₂ : Value) :
    ∀ (path : List String) (node : Value), "-1" ∉ path →
      (writeAt target v₁ path node).2 = none →
      writeAt target v₂ path (writeAt target v₁ path node).1 = writeAt target v₂ path node
  | [], _, _, _ => by simp [writeAt]
  | raw :: rest, node, hNoLast, hOk => by
    have hRaw : raw ≠ "-1" := fun h => hNoLast (h ▸ List.mem_cons_self)
    have hRest : "-1" ∉ rest := fun h => hNoLast (List.mem_cons_of_mem raw h)
    rw [writeAt_cons] at hOk
    cases hEnter : node.enter raw with
    | none => rw [hEnter] at hOk; cases hOk
    | some y =>
      rw [hEnter] at hOk
      dsimp only at hOk
      rw [writeAt_cons target v₁ raw rest node, hEnter]
      dsimp only
      rw [writeAt_cons, enter_plug hEnter hRaw]
      dsimp only
      rw [writeAt_writeAt v₁ v₂ rest y hRest hOk, plug_plug hEnter hRaw, writeAt_cons _ v₂,
        hEnter]

end Write

/-! ### Documents and frames -/

/-- A value of the document type: every object has one entry per key, and every list has fewer
than `2^63` items, the most an allocation can hold. -/
inductive Value.WellFormed : Value → Prop
  | null : Value.WellFormed .null
  | bool (b : Bool) : Value.WellFormed (.bool b)
  | number (n : Number) : Value.WellFormed (.number n)
  | string (s : String) : Value.WellFormed (.string s)
  | array {items : List Value} (hLength : items.length < Nat.pow 2 63)
      (hItems : ∀ x ∈ items, Value.WellFormed x) : Value.WellFormed (.array items)
  | object {es : List (String × Value)} (hKeys : (Entries.keys es).Nodup)
      (hValues : ∀ e ∈ es, Value.WellFormed e.2) : Value.WellFormed (.object es)

/-- A container around one of its places: an object with the entries before and after the
entry of a key, or a list with the items before and after one item. -/
inductive Frame where
  | entry (before : List (String × Value)) (key : String) (after : List (String × Value))
  | item (before after : List Value)

namespace Frame

def fill : Frame → Value → Value
  | .entry b k a, x => .object (b ++ (k, x) :: a)
  | .item b a, x => .array (b ++ x :: a)

def close : Frame → Value
  | .entry b _ a => .object (b ++ a)
  | .item b a => .array (b ++ a)

/-- The place of the frame is where a read of `raw` goes: the first entry of the key `raw`, the
item at the index `raw`, or the last item for `-1`. -/
def Reads : Frame → String → Prop
  | .entry b k _, raw => k = raw ∧ raw ∉ Entries.keys b
  | .item b a, raw => Step.ofSegment raw = .index b.length ∨ (raw = "-1" ∧ a = [])

def Keyed : Frame → Prop
  | .entry b k a => (Entries.keys b ++ k :: Entries.keys a).Nodup
  | .item _ _ => True

variable {f : Frame} {raw : String} {y w : Value}

theorem child?_fill (h : f.Reads raw) (y : Value) : child? (f.fill y) raw = some y := by
  cases f with
  | entry b k a =>
    obtain ⟨rfl, hb⟩ := h
    exact Entries.get?_eq_some_iff.mpr ⟨b, a, rfl, hb⟩
  | item b a =>
    rcases h with hIndex | ⟨hLast, rfl⟩
    · simp [fill, child?, hIndex]
    · simp [fill, child?, Step.ofSegment_eq_last_iff.mpr hLast]

theorem exists_of_child? {node : Value} (h : child? node raw = some y) :
    ∃ f : Frame, f.Reads raw ∧ node = f.fill y := by
  cases node with
  | object es =>
    obtain ⟨b, a, rfl, hb⟩ := Entries.get?_eq_some_iff.mp h
    exact ⟨.entry b raw a, ⟨rfl, hb⟩, rfl⟩
  | array items =>
    simp only [child?] at h
    split at h
    · rename_i i hIndex
      obtain ⟨hi, rfl⟩ := List.getElem?_eq_some_iff.mp h
      refine ⟨.item (items.take i) (items.drop (i + 1)), .inl ?_, ?_⟩
      · rw [hIndex, List.length_take_of_le (Nat.le_of_lt hi)]
      · simp [fill, List.take_append_drop]
    · rename_i hLast
      obtain ⟨ys, rfl⟩ := List.getLast?_eq_some_iff.mp h
      exact ⟨.item ys [], .inr ⟨Step.ofSegment_eq_last_iff.mp hLast, rfl⟩, rfl⟩
    · cases h
  | _ => cases h

theorem enter_fill (h : f.Reads raw) (hRaw : raw ≠ "-1") (y : Value) :
    (f.fill y).enter raw = some y := by
  cases f with
  | entry b k a =>
    obtain ⟨rfl, hb⟩ := h
    simp [Value.enter, fill, Value.container, Entries.get?_eq_some_iff.mpr ⟨b, a, rfl, hb⟩]
  | item b a =>
    have hIndex : Step.ofSegment raw = .index b.length := h.resolve_right fun h => hRaw h.1
    simp [Value.enter, fill, Value.container, Step.slot, hIndex]

theorem plug_fill (h : f.Reads raw) (hKeyed : f.Keyed) (hRaw : raw ≠ "-1") (y w : Value) :
    (f.fill y).plug raw w = f.fill w := by
  cases f with
  | entry b k a =>
    obtain ⟨rfl, hb⟩ := h
    have hNodup := List.nodup_middle.mp hKeyed
    have ha : k ∉ Entries.keys a := fun hk =>
      (List.nodup_cons.mp hNodup).1 (List.mem_append_right _ hk)
    simp [Value.plug, fill, Value.container, Entries.insert_middle hb ha]
  | item b a =>
    have hIndex : Step.ofSegment raw = .index b.length := h.resolve_right fun h => hRaw h.1
    simp [Value.plug, fill, Value.container, Step.slot, hIndex, spliceAt_middle]

theorem wellFormed_fill (h : (f.fill y).WellFormed) : f.Keyed ∧ y.WellFormed := by
  cases f with
  | entry b k a =>
    cases h with
    | object hKeys hValues => exact ⟨by simpa [Keyed] using hKeys, hValues (k, y) (by simp)⟩
  | item b a =>
    cases h with
    | array _ hItems => exact ⟨trivial, hItems y (by simp)⟩

end Frame

def fillAll (fs : List Frame) (x : Value) : Value := fs.foldr Frame.fill x

@[simp] theorem fillAll_nil (x : Value) : fillAll [] x = x := rfl

@[simp] theorem fillAll_cons (f : Frame) (fs : List Frame) (x : Value) :
    fillAll (f :: fs) x = f.fill (fillAll fs x) := rfl

theorem readAt_fillAll {fs : List Frame} {path : List String}
    (h : List.Forall₂ Frame.Reads fs path) (x : Value) : readAt path (fillAll fs x) = some x := by
  induction h with
  | nil => rfl
  | cons hf _ ih => simp [readAt, Frame.child?_fill hf, ih]

theorem exists_frames_of_readAt {x : Value} :
    ∀ {path : List String} {node : Value}, readAt path node = some x →
      ∃ fs, List.Forall₂ Frame.Reads fs path ∧ node = fillAll fs x
  | [], node, h => ⟨[], .nil, Option.some.inj h⟩
  | raw :: rest, node, h => by
    obtain ⟨y, hChild, hRest⟩ := Option.bind_eq_some_iff.mp h
    obtain ⟨f, hf, rfl⟩ := Frame.exists_of_child? hChild
    obtain ⟨fs, hfs, rfl⟩ := exists_frames_of_readAt hRest
    exact ⟨f :: fs, .cons hf hfs, rfl⟩

/-- A read finds `x` at a path exactly when the document is the frames of the path, each reading
its segment, filled with `x`. -/
theorem readAt_eq_some_iff {path : List String} {node x : Value} :
    readAt path node = some x ↔
      ∃ fs, List.Forall₂ Frame.Reads fs path ∧ node = fillAll fs x := by
  refine ⟨exists_frames_of_readAt, ?_⟩
  rintro ⟨fs, hfs, rfl⟩
  exact readAt_fillAll hfs x

theorem wellFormed_fillAll {x : Value} :
    ∀ {fs : List Frame}, (fillAll fs x).WellFormed → (∀ f ∈ fs, f.Keyed) ∧ x.WellFormed
  | [], h => ⟨by simp, h⟩
  | f :: fs, h => by
    obtain ⟨hf, hRest⟩ := Frame.wellFormed_fill h
    obtain ⟨hfs, hx⟩ := wellFormed_fillAll hRest
    exact ⟨by simpa [hf] using hfs, hx⟩

/-- A write through frames that read its segments, none of them `-1`, writes the rest of its
path at the innermost place and keeps the frames. -/
theorem writeAt_fillAll (target : String) (v : Value) (rest : List String) (y : Value) :
    ∀ {fs : List Frame} {pre : List String}, List.Forall₂ Frame.Reads fs pre →
      (∀ f ∈ fs, f.Keyed) → "-1" ∉ pre →
      writeAt target v (pre ++ rest) (fillAll fs y) =
        (fillAll fs (writeAt target v rest y).1, (writeAt target v rest y).2)
  | [], [], .nil, _, _ => rfl
  | f :: fs, raw :: pre, .cons hf hfs, hKeyed, hNoLast => by
    have hRaw : raw ≠ "-1" := fun h => hNoLast (h ▸ List.mem_cons_self)
    rw [List.cons_append, writeAt_cons, fillAll_cons, Frame.enter_fill hf hRaw]
    dsimp only
    rw [writeAt_fillAll target v rest y hfs (fun g hg => hKeyed g (List.mem_cons_of_mem f hg))
      (fun h => hNoLast (List.mem_cons_of_mem raw h)),
      Frame.plug_fill hf (hKeyed f List.mem_cons_self) hRaw]
    rfl

/-! ### Key paths -/

section KeyPaths

variable {doc doc' v : Value} {t : String} {parts : List String}

theorem segmentsOf_eq_ok_iff :
    segmentsOf t = .ok parts ↔
      parts = dotPieces (Text.trim t) ∧ Text.trim t ≠ "" ∧ "" ∉ parts := by
  unfold segmentsOf
  by_cases hEmpty : Text.trim t = ""
  · simp [hEmpty]
  · have hAny :
        (dotPieces (Text.trim t)).any (·.isEmpty) = true ↔ "" ∈ dotPieces (Text.trim t) := by
      simp [String.isEmpty_iff]
    simp only [String.isEmpty_iff, hEmpty, if_false]
    split
    · rename_i hSome
      simp only [reduceCtorEq, false_iff, not_and]
      intro hParts _
      rw [hParts]
      exact not_not.mpr (hAny.mp hSome)
    · rename_i hNone
      simp only [Except.ok.injEq]
      constructor
      · intro hParts
        refine ⟨hParts.symm, hEmpty, ?_⟩
        rw [← hParts]
        exact fun h => hNone (hAny.mpr h)
      · rintro ⟨hParts, -⟩
        exact hParts.symm

theorem dotPieces_ne_nil (t : String) : dotPieces t ≠ [] := by
  simp [dotPieces, List.splitOn_ne_nil]

theorem getAt_of_segmentsOf (h : segmentsOf t = .ok parts) : doc.getAt t = readAt parts doc := by
  simp [Value.getAt, h]

theorem setAt_eq_ok_iff :
    doc.setAt t v = .ok doc' ↔
      ∃ parts, segmentsOf t = .ok parts ∧ writeAt t v parts doc = (doc', none) := by
  unfold Value.setAt Value.write
  cases hSeg : segmentsOf t with
  | error e => simp
  | ok parts =>
    simp only [Except.ok.injEq, exists_eq_left']
    rcases writeAt t v parts doc with ⟨d, _ | e⟩ <;> simp

theorem setAt_eq_error_iff {e : KeyPathError} :
    doc.setAt t v = .error e ↔
      segmentsOf t = .error e ∨
        ∃ parts, segmentsOf t = .ok parts ∧ (writeAt t v parts doc).2 = some e := by
  unfold Value.setAt Value.write
  cases hSeg : segmentsOf t with
  | error e' => simp
  | ok parts =>
    simp only [reduceCtorEq, false_or, Except.ok.injEq, exists_eq_left']
    rcases writeAt t v parts doc with ⟨d, _ | e'⟩ <;> simp

end KeyPaths

end Json

end RuleOverlay
