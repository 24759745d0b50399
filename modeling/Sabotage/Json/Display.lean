import Sabotage.Decimal.Layout
import Sabotage.Json.Basic
import Sabotage.Text.Quoted

/-!
# Showing values

How a value shows inside a sentence: a text as it is, everything else, and every text inside
another value, in the form of `literal`.
-/

namespace Sabotage.Json

mutual
/-- A value with texts in quotes. -/
def literal : Json → String
  | .null => "None"
  | .bool b => if b then "True" else "False"
  | .int n => toString n
  | .float x => Decimal.renderFloat x
  | .str s => Text.quoted s
  | .arr xs => "[" ++ String.intercalate ", " (literals xs) ++ "]"
  | .obj fs => "\x7b" ++ String.intercalate ", " (literalFields fs) ++ "\x7d"

/-- The items of an array. -/
def literals : List Json → List String
  | [] => []
  | x :: xs => literal x :: literals xs

/-- The fields of an object. -/
def literalFields : Fields → List String
  | [] => []
  | (k, v) :: fs => (Text.quoted k ++ ": " ++ literal v) :: literalFields fs
end

/-- A value as it shows in a sentence. -/
def display : Json → Text.Spelling
  | .str s => s
  | j => literal j

end Sabotage.Json
