import Sabotage.Rule.Plan
import Sabotage.Scope.Shadow

/-!
# Shadowing

The rule opens the body of a function with a declaration of a name that the function uses from
outside. The declaration stands after the directives at the head of the body, on the line of the
brace or of the last directive, so that no later line moves.
-/

namespace Sabotage.Rule

/-- Whether a statement is a string literal alone. -/
def isDirective (statement : Node) : Bool :=
  statement.kind == "expression_statement"
    && match statement.content with
      | [inner] => inner.kind == "string"
      | _ => false

/-- The directives at the head of a body. -/
def directives (body : Node) : List Node :=
  body.content.takeWhile isDirective

/-- The edit that opens a body with a declaration. -/
def opening (d : Draft) (body : Node) (declaration : String) : Except DraftError Edit :=
  match (directives body).getLast? with
  | none => .ok (.insertion (body.start + 1) (" " ++ declaration))
  | some last =>
    (d.textOf last).map fun text =>
      .insertion last.stop ((if text.endsWith ";" then " " else "; ") ++ declaration)

/-- Plans to shadow the first name of a function that can be shadowed. -/
def planShadow (d : Draft) (s : Site) : Except DraftError (Option Plan) :=
  match s.node.child? .body with
  | none => .ok none
  | some body =>
    if body.kind = "statement_block" then do
      match ← Scope.shadowable d s with
      | [] => return none
      | victim :: _ => return some (.single (← opening d body ("let " ++ victim ++ " = null;")))
    else .ok none

/-- The first function with a name that can be shadowed. -/
def findShadow (d : Draft) : Except DraftError (Option Plan) :=
  (d.sitesOf Scope.functionKinds).findSomeM? (planShadow d)

end Sabotage.Rule
