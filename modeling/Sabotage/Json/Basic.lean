import Sabotage.Table
import Sabotage.Text.Spelling

/-!
# JSON values

The fields of an object are a table, in the order of insertion. Integers and floats are kept apart,
as both have a text of their own. Strings and names are spellings, as escapes may spell halves.
-/

namespace Sabotage

/-- A JSON value. -/
inductive Json where
  | null
  | bool (b : Bool)
  | int (n : Int)
  | float (x : Float)
  | str (s : Text.Spelling)
  | arr (items : List Json)
  | obj (fields : List (Text.Spelling × Json))
  deriving Inhabited

namespace Json

/-- In how many levels that are not empty a value may stand to be read or written to a file. -/
def levelLimit : Nat := 970

/-- The fields of an object. -/
abbrev Fields := List (Text.Spelling × Json)

/-- The fields of an object; none for any other value. -/
def fields : Json → Fields
  | .obj fs => fs
  | _ => []

/-- The items of an array; none for any other value. -/
def items : Json → List Json
  | .arr xs => xs
  | _ => []

/-- The text of a string value without halves. -/
def text? : Json → Option String
  | .str s => s.toString?
  | _ => none

/-- The value of a field of an object. -/
def get? (j : Json) (key : Text.Spelling) : Option Json :=
  Table.lookup key j.fields

/-- Whether a value counts as true where only a yes or a no is asked: everything does except
`null`, `false`, zero and what is empty. -/
def truthy : Json → Bool
  | .null => false
  | .bool b => b
  | .int n => n != 0
  | .float x => x != 0
  | .str s => !s.isEmpty
  | .arr xs => !xs.isEmpty
  | .obj fs => !fs.isEmpty

end Json

end Sabotage
