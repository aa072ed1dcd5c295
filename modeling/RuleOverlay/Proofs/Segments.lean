import RuleOverlay.Path.Delimited
/-! # Segments of a tree path

Every segment of a path is a non-empty string, so the name a path gives a level between `1` and
its level is never empty, and past its level it is `""`. Trees rely on this: no node is ever
created under the empty name, so a walk that runs past the end of a path finds no child.
-/
namespace RuleOverlay

namespace PathStyle

variable {style : PathStyle} {path : String} {k : Nat}

theorem ne_empty_of_mem_segments {s : String} (h : s ∈ style.segments path) : s ≠ "" := by
  simp only [segments] at h
  split at h
  · split at h
    · simp at h
    · rename_i hEmpty
      simp only [List.mem_singleton] at h
      subst h
      simpa [String.ofList_eq_empty_iff] using hEmpty
  · simp only [List.mem_map, List.mem_filter, Bool.not_eq_eq_eq_not, Bool.not_true,
      List.isEmpty_eq_false_iff] at h
    obtain ⟨l, ⟨-, hl⟩, rfl⟩ := h
    simpa [String.ofList_eq_empty_iff] using hl

theorem getElem?_segments (hk : 0 < k) (hLevel : k ≤ style.level path) :
    (style.segments path)[k - 1]? = some (style.nameAt path k) := by
  have hk' : k ≠ 0 := by omega
  unfold level at hLevel
  simp only [nameAt, hk', if_false, List.getD_eq_getElem?_getD]
  rw [List.getElem?_eq_getElem (by omega)]
  rfl

theorem nameAt_ne_empty (hk : 0 < k) (hLevel : k ≤ style.level path) :
    style.nameAt path k ≠ "" :=
  ne_empty_of_mem_segments (List.mem_of_getElem? (getElem?_segments hk hLevel))

theorem nameAt_of_level_lt (hLevel : style.level path < k) : style.nameAt path k = "" := by
  have hk : k ≠ 0 := by omega
  unfold level at hLevel
  simp only [nameAt, hk, if_false, List.getD_eq_getElem?_getD]
  rw [List.getElem?_eq_none (by omega)]
  rfl

end PathStyle

end RuleOverlay
