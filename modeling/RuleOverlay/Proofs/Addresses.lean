import RuleOverlay.Proofs.Route
/-! # Where rules bind their processors

A rule's address is the list of segments of its path, as a driver reads the path. A list of
rules makes a node for the root and for every prefix of a rule's address (`Rule.Addressed`),
and each address holds the processors of the last rule for it, none if there is no such rule
(`Rule.boundAt`). Reading at an address realizes a document along the address's prefixes,
shortest first, each at the path the driver gives that prefix's node (`PathStyle.realizeInits`,
`PathStyle.pathOf`). The sorted names below each address nest into the outline of the tree the
rules make (`Rule.outline`).

A tree takes its rules shallow first (`Rule.sortByLevel`). That order is a stable sort, so the
rules for one address keep their order, and every address keeps what it holds.
-/
namespace RuleOverlay

namespace PathStyle

variable (style : PathStyle)

def pathOf (a : List String) : String := a.foldl style.append style.root

theorem pathOf_concat (a : List String) (x : String) :
    style.pathOf (a ++ [x]) = style.append (style.pathOf a) x := by
  simp [pathOf]

/-- Realizes a document along a list of addresses: each address's processors run on what the
one before made, and the first failure stops the walk, naming the path of its node. -/
def realizeInits (bound : List String → List Processor) :
    Bytes → List (List String) → Except (Failure TreeError) Bytes
  | doc, [] => .ok doc
  | doc, a :: rest =>
    realizeAt (style.pathOf a) doc (bound a) >>= fun next => realizeInits bound next rest

variable {style} {bound bound' : List String → List Processor}

theorem realizeInits_cons_of_ok {doc c : Bytes} {a : List String} {rest : List (List String)}
    (h : realizeAt (style.pathOf a) doc (bound a) = .ok c) :
    style.realizeInits bound doc (a :: rest) = style.realizeInits bound c rest := by
  rw [realizeInits, h]
  rfl

theorem realizeInits_cons_of_error {doc : Bytes} {e : Failure TreeError} {a : List String}
    {rest : List (List String)} (h : realizeAt (style.pathOf a) doc (bound a) = .error e) :
    style.realizeInits bound doc (a :: rest) = .error e := by
  rw [realizeInits, h]
  rfl

theorem realizeInits_concat_of_ok {doc c : Bytes} {l : List (List String)} {a : List String}
    (h : style.realizeInits bound doc l = .ok c) :
    style.realizeInits bound doc (l ++ [a]) = realizeAt (style.pathOf a) c (bound a) := by
  induction l generalizing doc with
  | nil =>
    cases h
    rw [List.nil_append, realizeInits]
    cases realizeAt (style.pathOf a) c (bound a) <;> rfl
  | cons b l ih =>
    cases hb : realizeAt (style.pathOf b) doc (bound b) with
    | error e => rw [realizeInits_cons_of_error hb] at h; cases h
    | ok next =>
      rw [realizeInits_cons_of_ok hb] at h
      rw [List.cons_append, realizeInits_cons_of_ok hb, ih h]

theorem realizeInits_congr {l : List (List String)} (h : ∀ a ∈ l, bound a = bound' a)
    (doc : Bytes) : style.realizeInits bound doc l = style.realizeInits bound' doc l := by
  induction l generalizing doc with
  | nil => rfl
  | cons a l ih =>
    rw [realizeInits, realizeInits, h a List.mem_cons_self]
    congr 1
    funext next
    exact ih (fun b hb => h b (List.mem_cons_of_mem a hb)) next

theorem inits_concat (a : List String) (x : String) :
    (a ++ [x]).inits = a.inits ++ [a ++ [x]] := by
  simp [List.inits_append]

end PathStyle

theorem concat_prefix_iff {α : Type} {a s : List α} {x : α} :
    a ++ [x] <+: s ↔ a <+: s ∧ s[a.length]? = some x := by
  constructor
  · intro h
    refine ⟨(List.prefix_append a [x]).trans h, ?_⟩
    obtain ⟨t, rfl⟩ := h
    simp
  · rintro ⟨⟨t, rfl⟩, hx⟩
    cases t with
    | nil => simp at hx
    | cons y t =>
      simp only [List.getElem?_append_right (Nat.le_refl _), Nat.sub_self,
        List.getElem?_cons_zero, Option.some.injEq] at hx
      subst hx
      exact ⟨t, by simp⟩

namespace Rule

variable (style : PathStyle) (rules : List Rule)

def Addressed (a : List String) : Prop := a = [] ∨ ∃ r ∈ rules, a <+: style.segments r.path

instance (a : List String) : Decidable (Addressed style rules a) :=
  inferInstanceAs (Decidable (_ ∨ _))

def boundAt (a : List String) : List Processor :=
  ((rules.filter fun r => style.segments r.path = a).getLast?.map Rule.processors).getD []

def namesBelow (a : List String) : List String :=
  ((rules.filterMap fun r =>
    if a <+: style.segments r.path then (style.segments r.path)[a.length]? else none).dedup
  ).mergeSort fun x y => decide (x ≤ y)

def outlineFrom : Nat → List String → Json.Value
  | 0, _ => .object []
  | fuel + 1, a =>
    .object ((namesBelow style rules a).map fun x => (x, outlineFrom fuel (a ++ [x])))

def depth : Nat := (rules.map fun r => (style.segments r.path).length).foldr max 0

def outline : Json.Value := outlineFrom style rules (depth style rules + 1) []

variable {style rules}

theorem addressed_nil : Addressed style rules [] := .inl rfl

theorem Addressed.of_prefix {a b : List String} (h : Addressed style rules b) (hab : a <+: b) :
    Addressed style rules a := by
  rcases h with rfl | ⟨r, hr, hb⟩
  · exact .inl (List.prefix_nil.mp hab)
  · exact .inr ⟨r, hr, hab.trans hb⟩

theorem addressed_concat {r : Rule} {a : List String} :
    Addressed style (rules ++ [r]) a ↔
      Addressed style rules a ∨ a <+: style.segments r.path := by
  simp only [Addressed, List.mem_append, List.mem_singleton]
  constructor
  · rintro (rfl | ⟨r', hr' | rfl, ha⟩)
    · exact .inl (.inl rfl)
    · exact .inl (.inr ⟨r', hr', ha⟩)
    · exact .inr ha
  · rintro ((rfl | ⟨r', hr', ha⟩) | ha)
    · exact .inl rfl
    · exact .inr ⟨r', .inl hr', ha⟩
    · exact .inr ⟨r, .inr rfl, ha⟩

theorem boundAt_concat (r : Rule) (a : List String) :
    boundAt style (rules ++ [r]) a =
      if a = style.segments r.path then r.processors else boundAt style rules a := by
  by_cases h : a = style.segments r.path <;> simp [boundAt, List.filter_append, h, eq_comm]

theorem boundAt_of_not_addressed {a : List String} (h : ¬ Addressed style rules a) :
    boundAt style rules a = [] := by
  have hNone : rules.filter (fun r => style.segments r.path = a) = [] := by
    refine List.filter_eq_nil_iff.mpr fun r hr hEq => h (.inr ⟨r, hr, ?_⟩)
    rw [of_decide_eq_true hEq]
  simp [boundAt, hNone]

theorem mem_namesBelow {a : List String} {x : String} :
    x ∈ namesBelow style rules a ↔ Addressed style rules (a ++ [x]) := by
  simp only [namesBelow, List.mem_mergeSort, List.mem_dedup, List.mem_filterMap, Addressed,
    List.append_eq_nil_iff, List.cons_ne_nil, and_false, false_or, concat_prefix_iff]
  constructor
  · rintro ⟨r, hr, hx⟩
    split at hx
    · exact ⟨r, hr, ‹_›, hx⟩
    · cases hx
  · rintro ⟨r, hr, hPre, hx⟩
    exact ⟨r, hr, by rw [if_pos hPre]; exact hx⟩

theorem length_le_depth {r : Rule} (hr : r ∈ rules) :
    (style.segments r.path).length ≤ depth style rules := by
  induction rules with
  | nil => cases hr
  | cons r' rules ih =>
    simp only [depth, List.map_cons, List.foldr_cons]
    rcases List.mem_cons.mp hr with rfl | hr
    · exact Nat.le_max_left _ _
    · exact Nat.le_trans (ih hr) (Nat.le_max_right _ _)

theorem depth_le {n : Nat} (h : ∀ r ∈ rules, (style.segments r.path).length ≤ n) :
    depth style rules ≤ n := by
  induction rules with
  | nil => exact Nat.zero_le n
  | cons r rules ih =>
    simp only [depth, List.map_cons, List.foldr_cons]
    exact Nat.max_le.mpr ⟨h r List.mem_cons_self,
      ih fun r' hr' => h r' (List.mem_cons_of_mem r hr')⟩

theorem Addressed.length_le_depth {a : List String} (h : Addressed style rules a) :
    a.length ≤ depth style rules := by
  rcases h with rfl | ⟨r, hr, hPre⟩
  · exact Nat.zero_le _
  · exact Nat.le_trans hPre.length_le (Rule.length_le_depth hr)

theorem namesBelow_eq_nil {a : List String} (h : depth style rules ≤ a.length) :
    namesBelow style rules a = [] :=
  List.eq_nil_iff_forall_not_mem.mpr fun x hx => by
    have hLe := (mem_namesBelow.mp hx).length_le_depth
    simp only [List.length_append, List.length_singleton] at hLe
    omega

theorem outlineFrom_add {a : List String} (fuel k : Nat)
    (h : depth style rules < a.length + fuel) :
    outlineFrom style rules (fuel + k) a = outlineFrom style rules fuel a := by
  induction fuel generalizing a with
  | zero =>
    rw [Nat.zero_add]
    cases k with
    | zero => rfl
    | succ k =>
      have hNil : namesBelow style rules a = [] := namesBelow_eq_nil (by omega)
      simp only [outlineFrom, hNil, List.map_nil]
  | succ fuel ih =>
    rw [Nat.add_right_comm, outlineFrom, outlineFrom]
    congr 1
    refine List.map_congr_left fun x _ => ?_
    rw [ih (by simp only [List.length_append, List.length_singleton]; omega)]

theorem addressed_sortByLevel {a : List String} :
    Addressed style (sortByLevel style rules) a ↔ Addressed style rules a := by
  simp [Addressed, sortByLevel, List.mem_mergeSort]

/-- The rules of one level come out of the sort in the order they went in. They are pairwise in
order for the sort's comparison, and a merge sort keeps every sublist that is already in
order. -/
theorem filter_level_sortByLevel (k : Nat) :
    (sortByLevel style rules).filter (fun r => style.level r.path == k) =
      rules.filter (fun r => style.level r.path == k) := by
  let le := fun r r' : Rule => decide (style.level r.path ≤ style.level r'.path)
  let p := fun r : Rule => style.level r.path == k
  have hTrans : ∀ r₁ r₂ r₃ : Rule, le r₁ r₂ → le r₂ r₃ → le r₁ r₃ := by
    simp only [le, decide_eq_true_eq]
    intro _ _ _ h₁ h₂
    omega
  have hTotal : ∀ r₁ r₂ : Rule, (le r₁ r₂ || le r₂ r₁) = true := by
    simp only [le, Bool.or_eq_true, decide_eq_true_eq]
    intro _ _
    omega
  have hSame : (rules.filter p).Pairwise fun r r' => le r r' = true := by
    refine List.Pairwise.imp_of_mem ?_ (List.pairwise_of_forall fun _ _ => trivial)
    intro r r' hr hr' _
    simp only [p, List.mem_filter, beq_iff_eq] at hr hr'
    simp only [le, hr.2, hr'.2, Nat.le_refl, decide_true]
  have hSub : (rules.filter p).Sublist ((sortByLevel style rules).filter p) := by
    have h := (List.sublist_mergeSort hTrans hTotal hSame (List.filter_sublist)).filter p
    rwa [List.filter_filter, List.filter_congr fun r _ => Bool.and_self (p r)] at h
  exact (hSub.eq_of_length ((List.mergeSort_perm rules le).filter p).length_eq.symm).symm

/-- Taking rules shallow first keeps the rules of one address in their order, since they all
have one level and the sort is stable; so every address keeps what it holds. -/
theorem boundAt_sortByLevel (a : List String) :
    boundAt style (sortByLevel style rules) a = boundAt style rules a := by
  have hLevel : ∀ l : List Rule, l.filter (fun r => style.segments r.path = a) =
      (l.filter fun r => style.level r.path == a.length).filter
        fun r => style.segments r.path = a := by
    intro l
    rw [List.filter_filter]
    refine List.filter_congr fun r _ => ?_
    by_cases hr : style.segments r.path = a
    · simp [hr, PathStyle.level]
    · simp [hr]
  simp only [boundAt]
  rw [hLevel, filter_level_sortByLevel, ← hLevel]

theorem pairwise_sortByLevel :
    (sortByLevel style rules).Pairwise fun r r' => style.level r.path ≤ style.level r'.path := by
  refine (List.pairwise_mergeSort ?_ ?_ rules).imp fun h => of_decide_eq_true h
  · simp only [decide_eq_true_eq]
    intro _ _ _ h₁ h₂
    omega
  · simp only [Bool.or_eq_true, decide_eq_true_eq]
    intro _ _
    omega

/-- Taking rules shallow first is a stable sort by level: it reorders the rules, puts them in
order of level, and keeps the rules of each level in the order they were given. -/
theorem sortByLevel_stable (style : PathStyle) (rules : List Rule) :
    (sortByLevel style rules).Perm rules ∧
      (sortByLevel style rules).Pairwise
        (fun r r' => style.level r.path ≤ style.level r'.path) ∧
      ∀ k, (sortByLevel style rules).filter (fun r => style.level r.path == k) =
        rules.filter (fun r => style.level r.path == k) :=
  ⟨List.mergeSort_perm _ _, pairwise_sortByLevel, filter_level_sortByLevel⟩

end Rule

end RuleOverlay
