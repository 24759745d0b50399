import Sabotage.Rule.Plan

/-!
# Operator bugs

These rules replace the operator of the first binary expression that a swap has a use for:
anywhere in the text, or, for the loop rule, in the test of a loop.
-/

namespace Sabotage.Rule

/-- The new operator of a binary expression under a swap. -/
def swapped? (d : Draft) (swap : Operator → Option Operator) (n : Node) :
    Except DraftError (Option String) :=
  (d.binaryOperator n).map (·.bind (Operator.swapText swap))

/-- Plans the change of a place, if the swap has a use for it. -/
def planSwap (d : Draft) (swap : Operator → Option Operator) (s : Site) :
    Except DraftError (Option Plan) := do
  match ← swapped? d swap s.node with
  | some op => return some (← d.operatorPlan s op)
  | none => return none

/-- The first binary expression that a swap has a use for. -/
def findSwap (swap : Operator → Option Operator) (d : Draft) : Except DraftError (Option Plan) :=
  (d.sitesOf ["binary_expression"]).findSomeM? (planSwap d swap)

/-- The loops whose test is looked at. -/
def loopKinds : List String :=
  ["for_statement", "while_statement", "do_statement"]

mutual
/-- What a node is once all parentheses around it are taken off; none for empty parentheses. -/
def unwrap (above : List Node) : Node → Option Site
  | n@⟨kind, _, _, _, _, _, children⟩ =>
    if kind = "parenthesized_expression" then unwrapFirst (n :: above) children
    else some ⟨n, above⟩

/-- `unwrap` of the first child that counts. -/
def unwrapFirst (above : List Node) : List Node → Option Site
  | [] => none
  | n :: ns => if n.isContent then unwrap above n else unwrapFirst above ns
end

/-- The test of a loop, without the statement and the parentheses around it. -/
def loopTest? (s : Site) : Option Site :=
  match s.child? .condition with
  | none => none
  | some c =>
    if c.node.kind = "expression_statement" then
      c.content.head?.bind fun inner => unwrap inner.above inner.node
    else unwrap c.above c.node

/-- The first loop whose test is a comparison with a bound. -/
def findLoopBound (d : Draft) : Except DraftError (Option Plan) :=
  (d.sitesOf loopKinds).findSomeM? fun s =>
    match loopTest? s with
    | none => .ok none
    | some test => planSwap d Operator.flipBoundary test

end Sabotage.Rule
