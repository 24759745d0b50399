import Sabotage.Draft
import Sabotage.Operator

/-!
# Plans

What a rule wants to do to the place it has found: edits, carried out in one splice. A guarded plan
is given up when the result has faults; the draft then goes back to where it was. An operator is
replaced under guard, with the grouping of its operands and of the expression itself kept.
-/

namespace Sabotage

/-- A change to a draft. -/
structure Plan where
  edits : List Edit
  /-- Whether the change is given up when the result has faults. -/
  guarded : Bool
  deriving Repr

/-- Carries out a plan; the answer says whether the draft has changed. -/
def Plan.carryOut (parser : Parser) (plan : Plan) (d : Draft) :
    Except DraftError (Bool × Draft) :=
  match d.splice parser plan.edits with
  | .error e => .error e
  | .ok d' =>
    if plan.guarded && !d'.faults.isEmpty then
      .ok (false, d'.rollback parser d.checkpoint)
    else .ok (true, d')

/-- A plan of a single edit, carried out whatever comes of it. -/
def Plan.single (e : Edit) : Plan :=
  ⟨[e], false⟩

namespace Draft

/-- The operator's text, for a binary expression that has one. -/
def binaryOperator (d : Draft) (n : Node) : Except DraftError (Option String) :=
  if n.kind = "binary_expression" then
    match n.child? .operator with
    | some operator => (d.textOf operator).map some
    | none => .ok none
  else .ok none

/-- The bytes that run together with a neighbour of their class into another token. -/
def isFusing (b : UInt8) : Bool :=
  b == '+'.toUInt8 || b == '-'.toUInt8 || b == '*'.toUInt8 || b == '/'.toUInt8

/-- An operator with blanks where it would run together with the bytes beside it. -/
def padded (source : Bytes) (operator : Node) (op : String) : Except DraftError String :=
  let bytes := Bytes.ofString op
  let before := operator.start > 0 && source[operator.start - 1]?.any isFusing
  let after := source[operator.stop]?.any isFusing
  if op.isEmpty && (before || after) then .error .emptyOperator
  else
    let front := if before && bytes.head?.any isFusing then " " else ""
    let back := if after && bytes.getLast?.any isFusing then " " else ""
    .ok (front ++ op ++ back)

/-- The edits that put a node into parentheses. -/
def wrap (n : Node) : List Edit :=
  [.insertion n.start "(", .insertion n.stop ")"]

/-- Parentheses around an operand that the new operator would take apart. -/
def wrapOperand (d : Draft) (operand? : Option Node) (op : String) (side : Side) :
    Except DraftError (List Edit) :=
  match operand? with
  | none => .ok []
  | some operand =>
    (d.binaryOperator operand).map fun
      | some inner => if Operator.groupingNeeded inner op side then wrap operand else []
      | none => []

/-- Parentheses around an expression that its parent would take apart under the new operator. -/
def wrapWhole (d : Draft) (s : Site) (op : String) : Except DraftError (List Edit) :=
  match s.parent? with
  | none => .ok []
  | some parent =>
    (d.binaryOperator parent).map fun
      | some outer =>
        let side := if s.fills .right then .right else .left
        if Operator.groupingNeeded op outer side then wrap s.node else []
      | none => []

/-- The edits that give a binary expression another operator. -/
def operatorEdits (d : Draft) (s : Site) (op : String) : Except DraftError (List Edit) :=
  match s.node.child? .operator with
  | none => .error .noOperator
  | some operator => do
    let text ← padded d.source operator op
    let left ← d.wrapOperand (s.node.child? .left) op .left
    let right ← d.wrapOperand (s.node.child? .right) op .right
    let whole ← d.wrapWhole s op
    return replacement operator text :: left ++ right ++ whole

/-- The plan to give a binary expression another operator. -/
def operatorPlan (d : Draft) (s : Site) (op : String) : Except DraftError Plan :=
  (d.operatorEdits s op).map (⟨·, true⟩)

end Draft

end Sabotage
