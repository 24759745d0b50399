import Sabotage.Arrange
import Sabotage.Scope.Shadow

/-!
# Surveys of scopes

What a draft binds, node by node, and for each of its functions the names that are bound in it and
around it, that occur in its body, and that can be shadowed.
-/

namespace Sabotage.Scope

/-- The names of a function: bound by itself, bound around it, occurring in its body, and such that
shadowing them has an effect. The first two are in order of the alphabet. -/
structure FunctionNames where
  node : Node
  own : List String
  enclosing : List String
  referenced : List String
  shadowable : List String

/-- Names in order, each once. -/
def sorted (names : List String) : List String :=
  arrange (fun a b => decide (a < b)) (firstOccurrences names)

/-- The nodes that bind names, with these. -/
def allBindings (d : Draft) : Except DraftError (List (Node × List String)) := do
  let found ← d.sites.mapM fun s => (boundNames d s.node).map fun names => (s.node, names)
  return found.filter fun f => !f.2.isEmpty

/-- The names of a function. -/
def functionNames (d : Draft) (s : Site) : Except DraftError FunctionNames := do
  let own ← boundNames d s.node
  let enclosing ← enclosingNames d s
  let referenced ← referencedNames d s.node
  let shadowable ← shadowable d s
  return ⟨s.node, sorted own, sorted enclosing, referenced, shadowable⟩

/-- The names of every function. -/
def survey (d : Draft) : Except DraftError (List FunctionNames) :=
  (d.sitesOf functionScopeKinds).mapM (functionNames d)

end Sabotage.Scope
