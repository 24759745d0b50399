import Sabotage.Rule.Plan

/-!
# Negation

The rule negates the first boolean literal, comparison or logical expression that is not already
the operand of a negation. The operand of the new `!` is put into parentheses when `!` would take
only its first part, and so is the negation as a whole where it becomes the target of an access or
a call or the base of a power.
-/

namespace Sabotage.Rule

/-- Expressions that `!` would take apart. -/
def looserThanNot : List String :=
  ["binary_expression", "ternary_expression", "sequence_expression", "assignment_expression",
    "augmented_assignment_expression"]

/-- Whether a place is, through any parentheses, the operand of `!`. -/
def isNegated (s : Site) : Bool :=
  match s.above.dropWhile (·.kind == "parenthesized_expression") with
  | [] => false
  | p :: _ =>
    p.kind == "unary_expression" && (p.child? .operator).any (·.kind == "!")

/-- Classes of operators whose result is a boolean, or one of two operands by its truth. -/
def isTruthClass : OperatorClass → Bool
  | .equality | .ordering | .relationalKeyword | .logical => true
  | _ => false

/-- Whether a place is an expression of truth. In a type, a boolean literal is a type. -/
def isTruthExpression (d : Draft) (s : Site) : Except DraftError Bool :=
  if s.node.kind = "true" ∨ s.node.kind = "false" then
    .ok (!s.parent?.any (·.kind == "literal_type"))
  else
    (d.binaryOperator s.node).map fun
      | some op => isTruthClass (Operator.classify op)
      | none => false

/-- Whether a negation in this place has to be put into parentheses. -/
def needsOuterGroup (d : Draft) (s : Site) : Except DraftError Bool :=
  match s.parent? with
  | none => .ok false
  | some p =>
    if p.kind = "member_expression" ∨ p.kind = "subscript_expression" then .ok (s.fills .object)
    else if p.kind = "call_expression" ∨ p.kind = "new_expression" then
      .ok (s.fills .function || s.fills .constructor)
    else
      (d.binaryOperator p).map fun op => op == some Operator.pow.text && s.fills .left

/-- Plans the negation of a place, if it is one to negate. -/
def planNegation (d : Draft) (s : Site) : Except DraftError (Option Plan) := do
  if !(← isTruthExpression d s) || isNegated s then return none
  let text ← d.textOf s.node
  let negated := if looserThanNot.contains s.node.kind then "!(" ++ text ++ ")" else "!" ++ text
  let whole := if ← needsOuterGroup d s then "(" ++ negated ++ ")" else negated
  return some (.single (Draft.replacement s.node whole))

/-- The first expression of truth that is not negated. -/
def findNegation (d : Draft) : Except DraftError (Option Plan) :=
  d.sites.findSomeM? (planNegation d)

end Sabotage.Rule
