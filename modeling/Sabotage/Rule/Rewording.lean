import Sabotage.Homoglyph
import Sabotage.Literal
import Sabotage.Rule.Plan

/-!
# Branches, indices and names

Rules that put other texts in the place of nodes: the branches of a conditional expression trade
places, a literal index grows by one, a declared name has a letter replaced by its look-alike.
-/

namespace Sabotage.Rule

/-- Plans the exchange of two branches of different text. -/
def planBranches (d : Draft) (s : Site) : Except DraftError (Option Plan) :=
  match s.node.child? .consequence, s.node.child? .alternative with
  | some c, some a => do
    let first ← d.textOf c
    let second ← d.textOf a
    if first == second then return none
    return some ⟨[Draft.replacement c second, Draft.replacement a first], false⟩
  | _, _ => .ok none

/-- The first conditional expression whose branches differ. -/
def findBranches (d : Draft) : Except DraftError (Option Plan) :=
  (d.sitesOf ["ternary_expression"]).findSomeM? (planBranches d)

/-- Methods whose arguments are positions. -/
def indexMethods : List String :=
  ["at", "charAt", "slice", "substring", "substr"]

/-- The name of the method that a call calls. -/
def calledMethod? (d : Draft) (call : Node) : Except DraftError (Option String) :=
  match call.child? .function with
  | none => .ok none
  | some callee =>
    if callee.kind = "member_expression" then
      match callee.child? .property with
      | some p => if p.kind = "property_identifier" then (d.textOf p).map some else .ok none
      | none => .ok none
    else .ok none

/-- The nodes of a place that stand for positions. -/
def positions (d : Draft) (n : Node) : Except DraftError (List Node) :=
  if n.kind = "subscript_expression" then .ok (n.child? .index).toList
  else
    (calledMethod? d n).map fun method =>
      if method.any indexMethods.contains then
        match n.child? .arguments with
        | some arguments => arguments.content
        | none => []
      else []

/-- Plans to bump a literal, if it is one that can be bumped. -/
def planBump (d : Draft) (n : Node) : Except DraftError (Option Plan) :=
  if n.kind = "number" then
    (d.textOf n).map fun text =>
      (Literal.bump? text).map fun bumped => .single (Draft.replacement n bumped)
  else .ok none

/-- The first literal index or position. -/
def findIndex (d : Draft) : Except DraftError (Option Plan) :=
  (d.sitesOf ["subscript_expression", "call_expression"]).findSomeM? fun s => do
    (← positions d s.node).findSomeM? (planBump d)

/-- Declarations whose name can be reworded. -/
def namingKinds : List String :=
  ["variable_declarator", "function_declaration", "generator_function_declaration"]

/-- Whether a place is the name of a declaration. -/
def isDeclaredName (s : Site) : Bool :=
  s.parent?.any (fun p => namingKinds.contains p.kind) && s.fills .name

/-- Plans to spoof a declared name. -/
def planSpoof (d : Draft) (s : Site) : Except DraftError (Option Plan) :=
  if isDeclaredName s then
    (d.textOf s.node).map fun name =>
      (spoof? name.toList).map fun spoofed =>
        .single (Draft.replacement s.node (String.ofList spoofed))
  else .ok none

/-- The first declared name with a letter that has a look-alike. -/
def findSpoof (d : Draft) : Except DraftError (Option Plan) :=
  (d.sitesOf ["identifier"]).findSomeM? (planSpoof d)

end Sabotage.Rule
