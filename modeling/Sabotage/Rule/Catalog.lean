import Sabotage.BugKind
import Sabotage.Json.Basic
import Sabotage.Rule.Negation
import Sabotage.Rule.Rewording
import Sabotage.Rule.Shadowing
import Sabotage.Rule.Swap

/-!
# The catalog of rules

Each kind of bug has one rule: `BugKind.plan?` looks for the first place in source order, and
`BugKind.apply` carries out what was planned. The catalog gives each kind a weight, the default one
or one from a table of overrides; an override of an unknown name, or one that is not a whole number
above zero, does not count.
-/

namespace Sabotage

/-- The plan of a kind of bug for a draft; none when the draft has no place for it. -/
def BugKind.plan? : BugKind → Draft → Except DraftError (Option Plan)
  | .booleanNegation => Rule.findNegation
  | .offByOne => Rule.findLoopBound
  | .logicalAndOrSwap => Rule.findSwap Operator.swapAndOr
  | .comparisonDirectionFlip => Rule.findSwap Operator.flipDirection
  | .equalityInequalityFlip => Rule.findSwap Operator.flipEquality
  | .invertTernaryBranches => Rule.findBranches
  | .wrongArithmeticOperator => Rule.findSwap Operator.swapArithmetic
  | .bitwiseLogicalSwap => Rule.findSwap Operator.swapLogicalBitwise
  | .indexOffByOne => Rule.findIndex
  | .generalBoundaryOffByOne => Rule.findSwap Operator.flipBoundary
  | .homoglyphSabotage => Rule.findSpoof
  | .scopeGaslighting => Rule.findShadow

/-- Puts one bug of a kind into a draft; the answer says whether there was a place for it. -/
def BugKind.apply (parser : Parser) (kind : BugKind) (d : Draft) :
    Except DraftError (Bool × Draft) :=
  match kind.plan? d with
  | .error e => .error e
  | .ok none => .ok (false, d)
  | .ok (some plan) => plan.carryOut parser d

/-- How often a rule is drawn: a whole number, or the word true, which counts as one. -/
inductive Weight where
  | count (n : Int)
  | yes
  deriving DecidableEq, Repr

/-- The number a weight counts as. -/
def Weight.value : Weight → Int
  | .count n => n
  | .yes => 1

/-- A weight as it was given. -/
def Weight.toJson : Weight → Json
  | .count n => .int n
  | .yes => .bool true

/-- The weight an override gives, if it is one that counts. -/
def Weight.ofJson? : Json → Option Weight
  | .int n => if n < 1 then none else some (.count n)
  | .bool true => some .yes
  | _ => none

/-- A kind with its weight. -/
structure CatalogEntry where
  kind : BugKind
  weight : Weight
  deriving DecidableEq, Repr

/-- The weight of a kind under a table of overrides; of two that count, the last. -/
def overriddenWeight (overrides : Json.Fields) (kind : BugKind) : Weight :=
  (overrides.reverse.findSome? fun (name, value) =>
    if name = kind.name then Weight.ofJson? value else none).getD (.count kind.defaultWeight)

/-- The catalog under a table of overrides. What is no table gives the default weights. -/
def catalog (overrides : Json) : List CatalogEntry :=
  BugKind.all.map fun kind => ⟨kind, overriddenWeight overrides.fields kind⟩

/-- The catalog lists every kind once, in order. -/
@[simp] theorem map_kind_catalog (overrides : Json) :
    (catalog overrides).map CatalogEntry.kind = BugKind.all := by
  simp [catalog, Function.comp_def]

end Sabotage
