import RuleOverlay.Processor.Basic
import RuleOverlay.Path.Delimited
/-! # Rules

A rule binds a list of processors to the node at a tree path. Trees take rules shallow first:
`sortByLevel` orders rules by the level of their path and keeps rules of one level in the order
they were given, so a later rule for the same node wins.
-/
namespace RuleOverlay

/-- Processors bound to the node at a path. -/
structure Rule where
  path : String
  processors : List Processor

namespace Rule

def empty (path : String) : Rule := ⟨path, []⟩

def sortByLevel (style : PathStyle) (rules : List Rule) : List Rule :=
  rules.mergeSort fun a b => style.level a.path ≤ style.level b.path

end Rule

end RuleOverlay
