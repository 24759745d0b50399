import Sabotage.Draft
import Sabotage.Scope.Binding

/-!
# Names that can be shadowed

A function can be broken by a declaration, in its body, of a name that it uses from outside.
`shadowable` lists these names in the order of their first use: names that a scope around the
function binds, that are referred to in its body outside of declaring positions, and that the
function does not bind itself. Parameter defaults are not part of the body.
-/

namespace Sabotage.Scope

/-- The texts of nodes. -/
def namesOf (d : Draft) (ns : List Node) : Except DraftError (List String) :=
  ns.mapM d.textOf

/-- The names a scope binds. -/
def boundNames (d : Draft) (scope : Node) : Except DraftError (List String) :=
  namesOf d (bindings scope)

/-- The names that the scopes around a node bind. -/
def enclosingNames (d : Draft) (s : Site) : Except DraftError (List String) :=
  namesOf d (s.above.flatMap bindings)

/-- The identifiers a node puts into a declaring position. -/
def declaredBy (n : Node) : List Node :=
  bindings n ++ if namedDeclarationKinds.contains n.kind then (n.child? .name).toList else []

/-- The keys of the identifiers in declaring positions inside a node. -/
def declaringKeys (n : Node) : List NodeKey :=
  (Node.walk [n]).flatMap fun m => (declaredBy m).map Node.key

/-- The nodes of a function's body that refer to a name and do not declare it. -/
def references (function body : Node) : List Node :=
  let declaring := declaringKeys function
  (Node.walk [body]).filter fun n =>
    referenceKinds.contains n.kind && !declaring.contains n.key

/-- The texts of a list without the later occurrences of each. -/
def firstOccurrences : List String → List String
  | [] => []
  | s :: rest => s :: (firstOccurrences rest).filter (· != s)

/-- The names referred to in a function's body, by first use. -/
def referencedNames (d : Draft) (function : Node) : Except DraftError (List String) :=
  match function.child? .body with
  | none => .ok []
  | some body => return firstOccurrences (← namesOf d (references function body))

/-- The names a function uses from outside without binding them, by first use. -/
def shadowable (d : Draft) (s : Site) : Except DraftError (List String) := do
  let outer ← enclosingNames d s
  if outer.isEmpty then return []
  let own ← boundNames d s.node
  let used ← referencedNames d s.node
  return used.filter fun name => outer.contains name && !own.contains name

/-- Each name is kept once. -/
theorem nodup_firstOccurrences (names : List String) : (firstOccurrences names).Nodup := by
  induction names with
  | nil => simp [firstOccurrences]
  | cons s rest ih =>
    simp only [firstOccurrences, List.nodup_cons, List.mem_filter]
    exact ⟨by simp, ih.sublist List.filter_sublist⟩

/-- No name is lost. -/
theorem mem_firstOccurrences {name : String} {names : List String} :
    name ∈ firstOccurrences names ↔ name ∈ names := by
  induction names with
  | nil => simp [firstOccurrences]
  | cons s rest ih =>
    by_cases h : name = s <;> simp [firstOccurrences, ih, h]

end Sabotage.Scope
