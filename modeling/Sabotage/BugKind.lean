/-!
# Kinds of bugs

The closed set of bugs that can be put into a text, with the names they go by, what each does to
the text, and how often it is drawn by default.
-/

namespace Sabotage

/-- A kind of bug. -/
inductive BugKind where
  | booleanNegation
  | offByOne
  | logicalAndOrSwap
  | comparisonDirectionFlip
  | equalityInequalityFlip
  | invertTernaryBranches
  | wrongArithmeticOperator
  | bitwiseLogicalSwap
  | indexOffByOne
  | generalBoundaryOffByOne
  | homoglyphSabotage
  | scopeGaslighting
  deriving DecidableEq, Repr

namespace BugKind

/-- All kinds, in the order they are listed in. -/
def all : List BugKind :=
  [.booleanNegation, .offByOne, .logicalAndOrSwap, .comparisonDirectionFlip,
    .equalityInequalityFlip, .invertTernaryBranches, .wrongArithmeticOperator, .bitwiseLogicalSwap,
    .indexOffByOne, .generalBoundaryOffByOne, .homoglyphSabotage, .scopeGaslighting]

/-- The name of a kind. -/
def name : BugKind → String
  | .booleanNegation => "booleanNegation"
  | .offByOne => "offByOne"
  | .logicalAndOrSwap => "logicalAndOrSwap"
  | .comparisonDirectionFlip => "comparisonDirectionFlip"
  | .equalityInequalityFlip => "equalityInequalityFlip"
  | .invertTernaryBranches => "invertTernaryBranches"
  | .wrongArithmeticOperator => "wrongArithmeticOperator"
  | .bitwiseLogicalSwap => "bitwiseLogicalSwap"
  | .indexOffByOne => "indexOffByOne"
  | .generalBoundaryOffByOne => "generalBoundaryOffByOne"
  | .homoglyphSabotage => "homoglyphSabotage"
  | .scopeGaslighting => "scopeGaslighting"

/-- The kind of a name. -/
def ofName? (s : String) : Option BugKind :=
  all.find? (·.name == s)

/-- A name leads back to its kind. -/
@[simp] theorem ofName?_name (k : BugKind) : ofName? k.name = some k := by
  cases k <;> decide

/-- Every kind is listed. -/
theorem mem_all (k : BugKind) : k ∈ all := by
  cases k <;> decide

/-- No kind is listed twice. -/
theorem nodup_all : all.Nodup := by decide

/-- What a bug of this kind does. -/
def description : BugKind → String
  | .booleanNegation => "Negate a boolean literal or comparison/logical expression"
  | .offByOne => "Flip boundary inclusion in a loop test (< <-> <=)"
  | .logicalAndOrSwap => "Swap && and ||"
  | .comparisonDirectionFlip => "Reverse an ordering comparison (< <-> >)"
  | .equalityInequalityFlip => "Invert equality, loose becomes strict"
  | .invertTernaryBranches => "Swap the branches of a conditional expression"
  | .wrongArithmeticOperator => "Swap + -, * /, and turn % into /"
  | .bitwiseLogicalSwap => "Trade && / || for & / | and back"
  | .indexOffByOne => "Increment a literal index or index-method argument"
  | .generalBoundaryOffByOne => "Flip boundary inclusion in any comparison"
  | .homoglyphSabotage => "Swap one letter of a declared name for a look-alike"
  | .scopeGaslighting => "Shadow an outer variable with null inside a function"

/-- How often a kind is drawn by default: the two that touch names five times as often. -/
def defaultWeight : BugKind → Int
  | .homoglyphSabotage | .scopeGaslighting => 5
  | _ => 1

end BugKind

end Sabotage
