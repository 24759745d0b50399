/-!
# Binary operators

The binary operators of the source languages, their classes and binding powers, and the swaps that
a bug makes. A swap is partial: it answers `none` for an operator it has no use for.
`groupingNeeded` says whether an operand that is itself a binary expression needs parentheses under
an operator.
-/

namespace Sabotage

/-- A binary operator. -/
inductive Operator where
  | looseEq | looseNe | strictEq | strictNe
  | less | lessEq | greater | greaterEq
  | isIn | instanceOf
  | and | or | nullish
  | bitAnd | bitOr | bitXor | shiftLeft | shiftRight | shiftRightZero
  | add | sub | mul | div | rem | pow
  deriving DecidableEq, Repr

/-- The classes of operators; `other` is for a text that is no operator. -/
inductive OperatorClass where
  | equality | ordering | relationalKeyword | logical | bitwise | arithmetic | other
  deriving DecidableEq, Repr

/-- The side of its parent an operand stands on. -/
inductive Side where
  | left | right
  deriving DecidableEq, Repr

/-- The name of a class. -/
def OperatorClass.name : OperatorClass → String
  | .equality => "equality"
  | .ordering => "ordering"
  | .relationalKeyword => "relational_keyword"
  | .logical => "logical"
  | .bitwise => "bitwise"
  | .arithmetic => "arithmetic"
  | .other => "other"

namespace Operator

/-- All operators. -/
def all : List Operator :=
  [.looseEq, .looseNe, .strictEq, .strictNe, .less, .lessEq, .greater, .greaterEq, .isIn,
    .instanceOf, .and, .or, .nullish, .bitAnd, .bitOr, .bitXor, .shiftLeft, .shiftRight,
    .shiftRightZero, .add, .sub, .mul, .div, .rem, .pow]

/-- The spelling of an operator. -/
def text : Operator → String
  | .looseEq => "=="
  | .looseNe => "!="
  | .strictEq => "==="
  | .strictNe => "!=="
  | .less => "<"
  | .lessEq => "<="
  | .greater => ">"
  | .greaterEq => ">="
  | .isIn => "in"
  | .instanceOf => "instanceof"
  | .and => "&&"
  | .or => "||"
  | .nullish => "??"
  | .bitAnd => "&"
  | .bitOr => "|"
  | .bitXor => "^"
  | .shiftLeft => "<<"
  | .shiftRight => ">>"
  | .shiftRightZero => ">>>"
  | .add => "+"
  | .sub => "-"
  | .mul => "*"
  | .div => "/"
  | .rem => "%"
  | .pow => "**"

/-- The operator a text spells. -/
def ofText? (s : String) : Option Operator :=
  all.find? (·.text == s)

/-- Every operator is read back from its spelling. -/
@[simp] theorem ofText?_text (op : Operator) : ofText? op.text = some op := by
  cases op <;> decide

/-- No operator is spelled by the empty text. -/
theorem text_ne_empty (op : Operator) : op.text ≠ "" := by
  cases op <;> decide

/-- The class of an operator. -/
def kind : Operator → OperatorClass
  | .looseEq | .looseNe | .strictEq | .strictNe => .equality
  | .less | .lessEq | .greater | .greaterEq => .ordering
  | .isIn | .instanceOf => .relationalKeyword
  | .and | .or | .nullish => .logical
  | .bitAnd | .bitOr | .bitXor | .shiftLeft | .shiftRight | .shiftRightZero => .bitwise
  | .add | .sub | .mul | .div | .rem | .pow => .arithmetic

/-- The class of a text. -/
def classify (s : String) : OperatorClass :=
  match ofText? s with
  | some op => op.kind
  | none => .other

/-! ## Swaps -/

/-- Takes the bound of a comparison in or out. -/
def flipBoundary : Operator → Option Operator
  | .less => some .lessEq
  | .lessEq => some .less
  | .greater => some .greaterEq
  | .greaterEq => some .greater
  | _ => none

/-- Turns a comparison round. -/
def flipDirection : Operator → Option Operator
  | .less => some .greater
  | .greater => some .less
  | .lessEq => some .greaterEq
  | .greaterEq => some .lessEq
  | _ => none

/-- Negates an equality; a loose one becomes strict, so flipping twice need not lead back. -/
def flipEquality : Operator → Option Operator
  | .looseEq => some .strictNe
  | .looseNe => some .strictEq
  | .strictEq => some .strictNe
  | .strictNe => some .strictEq
  | _ => none

/-- Trades sums and products for their inverses; a remainder becomes a quotient. -/
def swapArithmetic : Operator → Option Operator
  | .add => some .sub
  | .sub => some .add
  | .mul => some .div
  | .div => some .mul
  | .rem => some .div
  | _ => none

/-- Trades the conjunction for the disjunction and back. -/
def swapAndOr : Operator → Option Operator
  | .and => some .or
  | .or => some .and
  | _ => none

/-- Trades a logical operator for the bitwise one of its sign and back. -/
def swapLogicalBitwise : Operator → Option Operator
  | .and => some .bitAnd
  | .bitAnd => some .and
  | .or => some .bitOr
  | .bitOr => some .or
  | _ => none

/-- A swap carried over to spellings. -/
def swapText (swap : Operator → Option Operator) (s : String) : Option String :=
  ((ofText? s).bind swap).map text

/-! ## Binding -/

/-- How tightly an operator binds. -/
def power : Operator → Nat
  | .nullish | .or => 1
  | .and => 2
  | .bitOr => 3
  | .bitXor => 4
  | .bitAnd => 5
  | .looseEq | .looseNe | .strictEq | .strictNe => 6
  | .less | .lessEq | .greater | .greaterEq | .isIn | .instanceOf => 7
  | .shiftLeft | .shiftRight | .shiftRightZero => 8
  | .add | .sub => 9
  | .mul | .div | .rem => 10
  | .pow => 11

/-- Whether one is `??` and the other a conjunction or a disjunction; these share no chain without
parentheses. -/
def mixesNullish (a b : Operator) : Bool :=
  (a == .nullish && (b == .and || b == .or)) || (b == .nullish && (a == .and || a == .or))

/-- The side on which an operand of the same power needs parentheses: exponentiation groups to the
right, all others to the left. -/
def looseSide : Operator → Side
  | .pow => .left
  | _ => .right

/-- Whether an operand `inner` on a side of `outer` needs parentheses. -/
def groups (inner outer : Operator) (side : Side) : Bool :=
  mixesNullish inner outer || inner.power < outer.power
    || (inner.power == outer.power && side == outer.looseSide)

/-- `groups` for texts: one that is no operator binds less tightly than all operators and groups to
the left. -/
def groupingNeeded (inner outer : String) (side : Side) : Bool :=
  match ofText? inner, ofText? outer with
  | some a, some b => groups a b side
  | some _, none => false
  | none, some _ => true
  | none, none => side == .right

/-- On the spellings of operators the two agree. -/
@[simp] theorem groupingNeeded_text (a b : Operator) (side : Side) :
    groupingNeeded a.text b.text side = groups a b side := by
  simp [groupingNeeded]

end Operator

end Sabotage
