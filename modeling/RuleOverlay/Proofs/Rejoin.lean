import Mathlib
import RuleOverlay.Proofs.Graft
/-! # Rebuilding a path from its names

Appending the names of a path one level at a time, from the root, gives back a path with the
same names: the `k`-th path built has level `k` and the first `k` names of the path. This holds
as long as what the parser strips from the ends of a path never eats into a name: the delimiter
does not start with a blank, no name ends in a blank, and no name, written after the delimiter,
ends in the delimiter again (`Overlaps`: with the delimiter `aba`, the name `ba` does, and
`append` strips the delimiter back off a parent ending in it). `rebuild_keeps_names` states the
law, and `rebuild_loses_names` gives a path of each kind that breaks it.

A split of the stripped path is read as pieces joined by the delimiter, each piece free of a
delimiter starting inside it (`Pieces`); joining such pieces and splitting again gives them
back (`splitAt_intercalate`).
-/
namespace RuleOverlay

namespace PathStyle

def rebuild (style : PathStyle) (path : String) : Nat → String
  | 0 => style.root
  | k + 1 => style.append (style.rebuild path k) (style.nameAt path (k + 1))

/-- A name that, written after a non-empty delimiter, ends in that delimiter again, so that
`append` strips part of it off a path that ends in it. -/
def Overlaps (style : PathStyle) (name : String) : Prop :=
  style.delimiter ≠ "" ∧ style.delimiter.toList <:+ (style.delimiter ++ name).toList

instance (style : PathStyle) (name : String) : Decidable (style.Overlaps name) :=
  inferInstanceAs (Decidable (_ ∧ _))

/-! ### Pieces of a split -/

def Uncut (d u rest : List Char) : Prop := ∀ j < u.length, ¬ d <+: u.drop j ++ rest

/-- Pieces as a left-to-right split leaves them: a delimiter follows every piece but the last
without starting inside it, and nothing follows the last. -/
def Pieces (d : List Char) : List (List Char) → Prop
  | [] => True
  | [u] => Uncut d u []
  | u :: v :: rest => Uncut d u d ∧ Pieces d (v :: rest)

section Pieces

variable {d u : List Char}

theorem Uncut.of_append (rest more : List Char) (h : Uncut d u (rest ++ more)) :
    Uncut d u rest := by
  intro j hj hPre
  apply h j hj
  rw [← List.append_assoc]
  exact hPre.trans (List.prefix_append _ more)

theorem Uncut.last (h : Uncut d u d) : Uncut d u [] :=
  Uncut.of_append [] d (by rwa [List.nil_append])

theorem uncut_delim_append (more : List Char) : Uncut d u (d ++ more) ↔ Uncut d u d := by
  refine ⟨Uncut.of_append d more, fun h j hj hPre => h j hj ?_⟩
  rw [← List.append_assoc] at hPre
  have hLen : d.length ≤ (u.drop j ++ d).length := by simp
  exact List.prefix_of_prefix_length_le hPre (List.prefix_append _ more) hLen

theorem Pieces.cons (hu : Uncut d u d) : ∀ {us : List (List Char)}, Pieces d us →
    Pieces d (u :: us)
  | [], _ => hu.last
  | _ :: _, hus => ⟨hu, hus⟩

theorem Pieces.head {us : List (List Char)} (h : Pieces d (u :: us)) : Uncut d u [] := by
  cases us with
  | nil => exact h
  | cons v rest => exact h.1.last

theorem Pieces.tail {us : List (List Char)} (h : Pieces d (u :: us)) : Pieces d us := by
  cases us with
  | nil => trivial
  | cons v rest => exact h.2

/-- Dropping pieces keeps the rest pieces: a piece kept last was followed by a delimiter or by
nothing, and either way no delimiter starts inside it. -/
theorem Pieces.sublist {ps qs : List (List Char)} (hSub : List.Sublist ps qs) (h : Pieces d qs) :
    Pieces d ps := by
  induction hSub with
  | slnil => trivial
  | cons a _ ih => exact ih h.tail
  | @cons_cons l₁ l₂ a hSub ih =>
    cases l₁ with
    | nil => exact h.head
    | cons b l₁ =>
      cases l₂ with
      | nil => exact absurd hSub (by simp)
      | cons c l₂ => exact ⟨h.1, ih h.2⟩

end Pieces

/-! ### Splitting and stripping -/

section Split

variable {d : List Char}

theorem splitAt_nil_input (fuel : Nat) (cur : List Char) :
    splitAt d fuel cur [] = [cur.reverse] := by
  cases fuel <;> simp [splitAt]

theorem splitAt_append_of_uncut {u rest : List Char} (h : Uncut d u rest) (fuel : Nat)
    (cur : List Char) :
    splitAt d (fuel + u.length) cur (u ++ rest) = splitAt d fuel (u.reverse ++ cur) rest := by
  induction u generalizing cur with
  | nil => rfl
  | cons c u ih =>
    have hHead : ¬ d <+: c :: (u ++ rest) := h 0 (by simp)
    have hTail : Uncut d u rest := fun j hj => h (j + 1) (by simp; omega)
    rw [List.length_cons, ← Nat.add_assoc, List.cons_append]
    simp only [splitAt, List.isPrefixOf_iff_prefix, hHead, if_false]
    rw [ih hTail, List.reverse_cons, List.append_assoc, List.singleton_append]

theorem splitAt_delim_append (hd : d ≠ []) (fuel : Nat) (cur s : List Char) :
    splitAt d (fuel + 1) cur (d ++ s) = cur.reverse :: splitAt d fuel [] s := by
  obtain ⟨c, e, rfl⟩ := List.exists_cons_of_ne_nil hd
  simp [splitAt]

theorem splitAt_intercalate (hd : d ≠ []) : ∀ {us : List (List Char)}, us ≠ [] → Pieces d us →
    ∀ fuel, (d.intercalate us).length ≤ fuel → splitAt d fuel [] (d.intercalate us) = us
  | [u], _, h, fuel, hFuel => by
    rw [List.intercalate_singleton] at hFuel ⊢
    obtain ⟨f, rfl⟩ : ∃ f, fuel = f + u.length := ⟨fuel - u.length, by omega⟩
    have hSplit := splitAt_append_of_uncut h f []
    rw [List.append_nil, List.append_nil] at hSplit
    rw [hSplit, splitAt_nil_input, List.reverse_reverse]
  | u :: v :: rest, _, h, fuel, hFuel => by
    rw [List.intercalate_cons_cons, List.append_assoc] at hFuel ⊢
    have hu : Uncut d u (d ++ d.intercalate (v :: rest)) := (uncut_delim_append _).mpr h.1
    have hLen : d.length + (d.intercalate (v :: rest)).length + u.length ≤ fuel := by
      simp only [List.length_append] at hFuel
      omega
    have hd' : 0 < d.length := List.length_pos_of_ne_nil hd
    obtain ⟨f, rfl⟩ : ∃ f, fuel = f + 1 + u.length := ⟨fuel - u.length - 1, by omega⟩
    rw [splitAt_append_of_uncut hu, splitAt_delim_append hd, List.append_nil, List.reverse_reverse,
      splitAt_intercalate hd (List.cons_ne_nil _ _) h.2 f (by omega)]

/-- A split leaves pieces: the scan cuts at the first delimiter that starts in what it has not
cut yet, so none starts inside a piece. -/
theorem pieces_splitAt (hd : d ≠ []) : ∀ (fuel : Nat) (cur s : List Char), s.length ≤ fuel →
    Uncut d cur.reverse s → Pieces d (splitAt d fuel cur s)
  | 0, cur, s, hLen, h => by
    obtain rfl : s = [] := List.eq_nil_of_length_eq_zero (by omega)
    rw [splitAt_nil_input]
    exact h
  | fuel + 1, cur, [], _, h => by
    rw [splitAt_nil_input]
    exact h
  | fuel + 1, cur, c :: rest, hLen, h => by
    by_cases hPre : d <+: c :: rest
    · obtain ⟨t, ht⟩ := hPre
      rw [← ht, splitAt_delim_append hd]
      have hLenT : t.length ≤ fuel := by
        have hSum := congrArg List.length ht
        have hd' := List.length_pos_of_ne_nil hd
        simp only [List.length_append, List.length_cons] at hSum hLen
        omega
      refine Pieces.cons ((uncut_delim_append t).mp (ht ▸ h)) ?_
      exact pieces_splitAt hd fuel [] t hLenT fun j hj => absurd hj (by simp)
    · simp only [splitAt, List.isPrefixOf_iff_prefix, hPre, if_false]
      refine pieces_splitAt hd fuel (c :: cur) rest (by simp at hLen; omega) ?_
      intro j hj hj'
      rw [List.reverse_cons] at hj hj'
      rcases Nat.lt_or_ge j cur.length with hjc | hjc
      · apply h j (by simpa using hjc)
        rwa [List.drop_append_of_le_length (by simp; omega), List.append_assoc,
          List.singleton_append] at hj'
      · have hjEq : j = cur.length := by simp at hj; omega
        subst hjEq
        apply hPre
        simpa using hj'

theorem stripLeading_of_not_prefix {s : List Char} (h : ¬ d <+: s) (fuel : Nat) :
    stripLeading d fuel s = s := by
  cases fuel with
  | zero => rfl
  | succ fuel => simp [stripLeading, List.isPrefixOf_iff_prefix, h]

theorem stripLeading_delim_append (hd : d ≠ []) {s : List Char} (h : ¬ d <+: s) (fuel : Nat) :
    stripLeading d (fuel + 1) (d ++ s) = s := by
  have hEmpty : d.isEmpty = false := List.isEmpty_eq_false_iff.mpr hd
  simp only [stripLeading, hEmpty, Bool.not_false, Bool.true_and, List.isPrefixOf_iff_prefix,
    List.prefix_append, if_true, List.drop_left]
  exact stripLeading_of_not_prefix h fuel

theorem stripTrailing_of_not_suffix {s : List Char} (h : ¬ d <:+ s) (fuel : Nat) :
    stripTrailing d fuel s = s := by
  rw [stripTrailing, stripLeading_of_not_prefix (by rwa [List.reverse_prefix]),
    List.reverse_reverse]

/-- A delimiter at the end of the joined pieces, read after one more delimiter, is one at the
end of the last piece read after a delimiter. -/
theorem not_suffix_delim_intercalate {u : List Char} :
    ∀ {us : List (List Char)}, (∀ v ∈ u :: us, ¬ d <:+ d ++ v) →
      ¬ d <:+ d ++ d.intercalate (u :: us)
  | [], h => by
    rw [List.intercalate_singleton]
    exact h u List.mem_cons_self
  | v :: rest, h => by
    intro hSuf
    rw [List.intercalate_cons_cons, List.append_assoc] at hSuf
    have hTail :
        d ++ d.intercalate (v :: rest) <:+ d ++ (u ++ (d ++ d.intercalate (v :: rest))) :=
      ⟨d ++ u, by simp⟩
    have hLen : d.length ≤ (d ++ d.intercalate (v :: rest)).length := by simp
    exact not_suffix_delim_intercalate (fun w hw => h w (List.mem_cons_of_mem u hw))
      (List.suffix_of_suffix_length_le hSuf hTail hLen)

theorem intercalate_concat (v : List Char) : ∀ {us : List (List Char)}, us ≠ [] →
    d.intercalate (us ++ [v]) = d.intercalate us ++ d ++ v
  | [u], _ => by simp [List.intercalate_cons_cons]
  | u :: w :: rest, _ => by
    have ih := intercalate_concat v (List.cons_ne_nil w rest)
    rw [List.cons_append] at ih
    rw [List.cons_append, List.cons_append, List.intercalate_cons_cons, ih,
      List.intercalate_cons_cons]
    simp

end Split

/-! ### Trimming -/

theorem dropBlanks_of_head {c : Char} {cs : List Char} (h : Text.isBlank c = false) :
    Text.dropBlanks (c :: cs) = c :: cs :=
  List.dropWhile_cons_of_neg (by simp [h])

theorem trim_of_ends {s : String} (hHead : ∀ c ∈ s.toList.head?, Text.isBlank c = false)
    (hLast : ∀ c ∈ s.toList.getLast?, Text.isBlank c = false) : Text.trim s = s := by
  cases hs : s.toList with
  | nil =>
    rw [String.toList_eq_nil_iff] at hs
    subst hs
    rfl
  | cons c cs =>
    rw [hs] at hHead hLast
    have hc : Text.isBlank c = false := hHead c rfl
    have he : Text.isBlank ((c :: cs).getLast (List.cons_ne_nil c cs)) = false :=
      hLast _ (List.getLast?_eq_some_getLast _)
    have hRev : (c :: cs).reverse =
        (c :: cs).getLast (List.cons_ne_nil c cs) :: ((c :: cs).dropLast).reverse := by
      conv_lhs => rw [← List.dropLast_concat_getLast (List.cons_ne_nil c cs)]
      simp
    rw [Text.trim, hs, dropBlanks_of_head hc, hRev, dropBlanks_of_head he, ← hRev,
      List.reverse_reverse, ← hs, String.ofList_toList]

theorem head_trim_not_blank (s : String) : ∀ c ∈ (Text.trim s).toList.head?,
    Text.isBlank c = false := by
  intro c hc
  set m := Text.dropBlanks s.toList
  have hPre : (Text.dropBlanks m.reverse).reverse <+: m := by
    rw [← List.reverse_suffix, List.reverse_reverse]
    exact List.dropWhile_suffix _
  obtain ⟨r, hr⟩ := hPre
  have hTrim : (Text.trim s).toList = (Text.dropBlanks m.reverse).reverse := by
    rw [Text.trim, String.toList_ofList]
  rw [hTrim] at hc
  have hm : m.head? = some c := by
    rw [← hr, List.head?_append, Option.mem_def.mp hc, Option.some_or]
  have hNot := List.head?_dropWhile_not Text.isBlank s.toList
  rw [show List.dropWhile Text.isBlank s.toList = m from rfl, hm] at hNot
  exact hNot

/-! ### Paths built from names -/

section Rebuild

variable {style : PathStyle} {path : String}

theorem Pieces.not_prefix_intercalate {d u : List Char} {us : List (List Char)}
    (h : Pieces d (u :: us)) (hu : u ≠ []) : ¬ d <+: d.intercalate (u :: us) := by
  have hLen : 0 < u.length := List.length_pos_of_ne_nil hu
  cases us with
  | nil =>
    rw [List.intercalate_singleton]
    simpa using h 0 hLen
  | cons v rest =>
    rw [List.intercalate_cons_cons, List.append_assoc]
    simpa using (uncut_delim_append _).mpr h.1 0 hLen

theorem getLast?_intercalate_mem {d : List Char} : ∀ {us : List (List Char)},
    (∀ u ∈ us, u ≠ []) → ∀ c ∈ (d.intercalate us).getLast?, ∃ u ∈ us, c ∈ u.getLast?
  | [], _, c, hc => by simp at hc
  | [u], _, c, hc => ⟨u, List.mem_singleton_self u, by rwa [List.intercalate_singleton] at hc⟩
  | u :: v :: rest, hne, c, hc => by
    have hv : v ≠ [] := hne v (by simp)
    have hJoin : d.intercalate (v :: rest) ≠ [] := by
      cases rest with
      | nil => simpa using hv
      | cons w rest => simp [List.intercalate_cons_cons, hv]
    rw [List.intercalate_cons_cons, List.getLast?_append_of_ne_nil _ hJoin] at hc
    obtain ⟨w, hw, hcw⟩ :=
      getLast?_intercalate_mem (fun w hw => hne w (List.mem_cons_of_mem u hw)) c hc
    exact ⟨w, List.mem_cons_of_mem u hw, hcw⟩

/-- A path that is the delimiter followed by pieces joined by it has those pieces for names,
when nothing the parser strips from its ends reaches into a piece. -/
theorem segments_delim_intercalate (hd : style.delimiter.toList ≠ [])
    (hHead : ∀ c ∈ style.delimiter.toList.head?, Text.isBlank c = false)
    {us : List (List Char)} (hne : us ≠ []) (hPieces : Pieces style.delimiter.toList us)
    (hNonempty : ∀ u ∈ us, u ≠ []) (hLast : ∀ u ∈ us, ∀ c ∈ u.getLast?, Text.isBlank c = false)
    (hOver : ∀ u ∈ us, ¬ style.delimiter.toList <:+ style.delimiter.toList ++ u) :
    style.segments
        (String.ofList (style.delimiter.toList ++ style.delimiter.toList.intercalate us)) =
      us.map String.ofList := by
  set d := style.delimiter.toList with hDef
  set J := d.intercalate us with hJ
  obtain ⟨u, rest, rfl⟩ := List.exists_cons_of_ne_nil hne
  have hJne : J ≠ [] := by
    have hu : u ≠ [] := hNonempty u List.mem_cons_self
    rw [hJ]
    cases rest <;> simp [List.intercalate_cons_cons, hu]
  have hTrim : (Text.trim (String.ofList (d ++ J))).toList = d ++ J := by
    rw [trim_of_ends, String.toList_ofList]
    · rw [String.toList_ofList, List.head?_append, List.head?_eq_some_head hd, Option.some_or,
        ← List.head?_eq_some_head hd]
      exact hHead
    · rw [String.toList_ofList, List.getLast?_append_of_ne_nil _ hJne]
      intro c hc
      obtain ⟨w, hw, hcw⟩ := getLast?_intercalate_mem hNonempty c hc
      exact hLast w hw c hcw
  have hNoPre : ¬ d <+: J :=
    Pieces.not_prefix_intercalate hPieces (hNonempty u List.mem_cons_self)
  have hNoSuf : ¬ d <:+ J := fun h =>
    not_suffix_delim_intercalate hOver (h.trans (List.suffix_append d J))
  have hEmpty : d.isEmpty = false := List.isEmpty_eq_false_iff.mpr hd
  simp only [segments, hTrim, ← hDef, hEmpty, Bool.false_eq_true, if_false]
  rw [stripLeading_delim_append hd hNoPre, stripTrailing_of_not_suffix hNoSuf,
    splitAt_intercalate hd hne hPieces _ (by rw [hJ]; omega), List.filter_eq_self.mpr]
  intro w hw
  simpa using hNonempty w hw

theorem pieces_segments (hd : style.delimiter.toList ≠ []) :
    Pieces style.delimiter.toList ((style.segments path).map String.toList) := by
  have hEmpty : style.delimiter.toList.isEmpty = false := List.isEmpty_eq_false_iff.mpr hd
  simp only [segments, hEmpty, Bool.false_eq_true, if_false, List.map_map]
  have hId : String.toList ∘ String.ofList = id := funext fun _ => String.toList_ofList
  rw [hId, List.map_id]
  exact (pieces_splitAt hd _ [] _ (by omega) fun j hj => absurd hj (by simp)).sublist
    List.filter_sublist

theorem not_suffix_of_not_overlaps (hd : style.delimiter.toList ≠ []) {s : String}
    (h : ¬ style.Overlaps s) :
    ¬ style.delimiter.toList <:+ style.delimiter.toList ++ s.toList := by
  have hne : style.delimiter ≠ "" := fun h' => hd (by rw [h', String.toList_empty])
  rw [← String.toList_append]
  exact fun hSuf => h ⟨hne, hSuf⟩

theorem take_names_ne_nil {k : Nat} (hk : 1 ≤ k) (hkL : k ≤ style.level path) :
    ((style.segments path).map String.toList).take k ≠ [] := by
  simp only [ne_eq, List.take_eq_nil_iff, List.map_eq_nil_iff, not_or]
  refine ⟨by omega, fun h => ?_⟩
  unfold level at hkL
  rw [h] at hkL
  simp at hkL
  omega

theorem rebuild_toList (hd : style.delimiter.toList ≠ [])
    (hOver : ∀ s ∈ style.segments path, ¬ style.Overlaps s) : ∀ k, 1 ≤ k → k ≤ style.level path →
      (style.rebuild path k).toList = style.delimiter.toList ++
        style.delimiter.toList.intercalate (((style.segments path).map String.toList).take k)
  | 0, hk, _ => absurd hk (by omega)
  | k + 1, _, hkL => by
    have hName : ((style.segments path).map String.toList)[k]? =
        some (style.nameAt path (k + 1)).toList := by
      have hGet := getElem?_segments (show 0 < k + 1 by omega) hkL
      rw [Nat.add_sub_cancel] at hGet
      rw [List.getElem?_map, hGet]
      rfl
    rw [List.take_add_one, hName, Option.toList_some, rebuild]
    rcases Nat.eq_zero_or_pos k with rfl | hk
    · rw [rebuild, append_root, String.toList_append, List.take_zero, List.nil_append,
        List.intercalate_singleton]
    · have ih := rebuild_toList hd hOver k hk (by omega)
      have hMem : ∀ v ∈ ((style.segments path).map String.toList).take k,
          ¬ style.delimiter.toList <:+ style.delimiter.toList ++ v := by
        intro v hv
        obtain ⟨s, hs, rfl⟩ := List.mem_map.mp (List.mem_of_mem_take hv)
        exact not_suffix_of_not_overlaps hd (hOver s hs)
      have hTake : ((style.segments path).map String.toList).take k ≠ [] :=
        take_names_ne_nil hk (by omega)
      obtain ⟨v, vs, hvs⟩ := List.exists_cons_of_ne_nil hTake
      have hNoSuf : ¬ style.delimiter.toList <:+ (style.rebuild path k).toList := by
        rw [ih, hvs]
        exact not_suffix_delim_intercalate (hvs ▸ hMem)
      rw [append, String.toList_append, String.toList_append, String.toList_ofList,
        stripTrailing_of_not_suffix hNoSuf, ih, intercalate_concat _ hTake, List.append_assoc,
        List.append_assoc, List.append_assoc]

theorem segments_of_empty_delimiter (hd : style.delimiter.toList = []) :
    style.segments path =
      if (Text.trim path).toList.isEmpty then [] else [Text.trim path] := by
  simp [segments, hd, String.ofList_toList]

theorem segments_rebuild_of_empty (hd : style.delimiter.toList = [])
    (hLast : ∀ s ∈ style.segments path, ∀ c ∈ s.toList.getLast?, Text.isBlank c = false)
    {k : Nat} (hk : 1 ≤ k) (hkL : k ≤ style.level path) :
    style.segments (style.rebuild path k) = (style.segments path).take k := by
  have hDelim : style.delimiter = "" := String.toList_eq_nil_iff.mp hd
  have hSegs : style.segments path =
      if (Text.trim path).toList.isEmpty then [] else [Text.trim path] :=
    segments_of_empty_delimiter hd
  have hNe : (Text.trim path).toList.isEmpty = false := by
    cases hEmpty : (Text.trim path).toList.isEmpty with
    | false => rfl
    | true =>
      unfold level at hkL
      rw [hSegs, hEmpty, if_pos rfl] at hkL
      simp at hkL
      omega
  simp only [hNe, Bool.false_eq_true, if_false] at hSegs
  have hk1 : k = 1 := by
    unfold level at hkL
    rw [hSegs] at hkL
    simp at hkL
    omega
  subst hk1
  have hName : style.nameAt path 1 = Text.trim path := by simp [nameAt, hSegs]
  have hTrim : Text.trim (Text.trim path) = Text.trim path :=
    trim_of_ends (head_trim_not_blank path) (hLast _ (by simp [hSegs]))
  rw [rebuild, rebuild, append_root, hDelim, String.empty_append, hName,
    segments_of_empty_delimiter hd, hTrim, hSegs]
  simp [hNe]

theorem segments_rebuild
    (hHead : ∀ c ∈ style.delimiter.toList.head?, Text.isBlank c = false)
    (hLast : ∀ s ∈ style.segments path, ∀ c ∈ s.toList.getLast?, Text.isBlank c = false)
    (hOver : ∀ s ∈ style.segments path, ¬ style.Overlaps s) {k : Nat} (hk : 1 ≤ k)
    (hkL : k ≤ style.level path) :
    style.segments (style.rebuild path k) = (style.segments path).take k := by
  by_cases hd : style.delimiter.toList = []
  · exact segments_rebuild_of_empty hd hLast hk hkL
  have hNames : ∀ u ∈ ((style.segments path).map String.toList).take k,
      ∃ s ∈ style.segments path, u = s.toList := by
    intro u hu
    obtain ⟨s, hs, rfl⟩ := List.mem_map.mp (List.mem_of_mem_take hu)
    exact ⟨s, hs, rfl⟩
  have hJoined := segments_delim_intercalate hd hHead (take_names_ne_nil hk hkL)
    ((pieces_segments hd).sublist (List.take_sublist _ _))
    (fun u hu => by
      obtain ⟨s, hs, rfl⟩ := hNames u hu
      simpa using ne_empty_of_mem_segments hs)
    (fun u hu => by
      obtain ⟨s, hs, rfl⟩ := hNames u hu
      exact hLast s hs)
    (fun u hu => by
      obtain ⟨s, hs, rfl⟩ := hNames u hu
      exact not_suffix_of_not_overlaps hd (hOver s hs))
  have hId : String.ofList ∘ String.toList = id := funext fun _ => String.ofList_toList
  have hBack : style.rebuild path k = String.ofList (style.rebuild path k).toList :=
    String.ofList_toList.symm
  rw [hBack, rebuild_toList hd hOver k hk hkL,
    hJoined, List.map_take, List.map_map, hId, List.map_id]

end Rebuild

/-- A path built from the root by appending the names of a path one level at a time has, at
every level `k` up to the path's, the first `k` names of the path: its level is `k` and its
name at each level up to `k` is the path's name there. So the path built to the full level has
exactly the path's names. This holds when the delimiter does not start with a blank and no name
of the path ends in a blank or, written after the delimiter, ends in the delimiter again. -/
theorem rebuild_keeps_names (style : PathStyle) (path : String)
    (hHead : ∀ c ∈ style.delimiter.toList.head?, Text.isBlank c = false)
    (hLast : ∀ s ∈ style.segments path, ∀ c ∈ s.toList.getLast?, Text.isBlank c = false)
    (hOver : ∀ s ∈ style.segments path, ¬ style.Overlaps s) :
    ∀ k, 1 ≤ k → k ≤ style.level path →
      style.segments (style.rebuild path k) = (style.segments path).take k ∧
      style.level (style.rebuild path k) = k ∧
      ∀ j, 1 ≤ j → j ≤ k → style.nameAt (style.rebuild path k) j = style.nameAt path j := by
  intro k hk hkL
  have hSegs := segments_rebuild hHead hLast hOver hk hkL
  have hLen : ((style.segments path).take k).length = k := by
    unfold level at hkL
    rw [List.length_take]
    omega
  refine ⟨hSegs, by rw [level, hSegs, hLen], fun j hj hjk => ?_⟩
  have hj0 : j ≠ 0 := by omega
  simp only [nameAt, hj0, if_false, hSegs, List.getD_eq_getElem?_getD, List.getElem?_take,
    show j - 1 < k by omega, if_true]

theorem rebuild_keeps_names_double_colon :
    let style : PathStyle := ⟨"::"⟩
    let path := "::crate::tree::node"
    (∀ c ∈ style.delimiter.toList.head?, Text.isBlank c = false) ∧
    (∀ s ∈ style.segments path, ∀ c ∈ s.toList.getLast?, Text.isBlank c = false) ∧
    (∀ s ∈ style.segments path, ¬ style.Overlaps s) ∧
    ∀ k, 1 ≤ k → k ≤ style.level path →
      style.segments (style.rebuild path k) = (style.segments path).take k ∧
      style.level (style.rebuild path k) = k ∧
      ∀ j, 1 ≤ j → j ≤ k → style.nameAt (style.rebuild path k) j = style.nameAt path j := by
  intro style path
  have hSegs : style.segments path = ["crate", "tree", "node"] := by
    simp only [style, path]
    cbv
  have hHead : ∀ c ∈ style.delimiter.toList.head?, Text.isBlank c = false := by
    simp [style, Text.isBlank]
  have hLast : ∀ s ∈ style.segments path, ∀ c ∈ s.toList.getLast?, Text.isBlank c = false := by
    simp [hSegs, Text.isBlank]
  have hOver : ∀ s ∈ style.segments path, ¬ style.Overlaps s := by
    simp only [hSegs, style, Overlaps]
    simp
    decide
  exact ⟨hHead, hLast, hOver, rebuild_keeps_names style path hHead hLast hOver⟩

/-- Three paths whose names do not come back. With the delimiter `aba`, `baabax` has the names
`ba` and `x`; the root `aba` followed by `ba` ends in `aba`, which `append` strips again, so
the second path built, `ababax`, has one name. A name that ends in a blank loses it when it ends
a path, and a delimiter that starts with a blank loses the blank at the front of a path. -/
theorem rebuild_loses_names :
    (⟨"aba"⟩ : PathStyle).segments "baabax" = ["ba", "x"] ∧
      (⟨"aba"⟩ : PathStyle).rebuild "baabax" 2 = "ababax" ∧
      (⟨"aba"⟩ : PathStyle).level "ababax" = 1 ∧
      slash.nameAt "/ a /b" 1 = " a " ∧ slash.rebuild "/ a /b" 1 = "/ a " ∧
      slash.nameAt "/ a " 1 = " a" ∧
      (⟨" x"⟩ : PathStyle).rebuild "a" 1 = " xa" ∧ (⟨" x"⟩ : PathStyle).nameAt " xa" 1 = "xa" := by
  refine ⟨by cbv, by cbv, by cbv, by cbv, by cbv, by cbv, by cbv, by cbv⟩

end PathStyle

end RuleOverlay
