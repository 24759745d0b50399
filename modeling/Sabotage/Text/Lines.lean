import Sabotage.Text.Slice
import Sabotage.Text.Split

/-!
# Lines

The lines of a text are what stands between its line feeds. `linesBetween` is a range of lines,
counted from one.
-/

namespace Sabotage.Text

/-- The lines of a text. -/
def lines (cs : List Char) : List (List Char) :=
  pieces '\n' cs

/-- Lines with a line feed between each two. -/
def joinLines (ls : List (List Char)) : List Char :=
  joinPieces '\n' ls

/-- The number of line feeds. -/
def lineFeeds (cs : List Char) : Nat :=
  cs.count '\n'

/-- Joining the lines of a text gives the text. -/
@[simp] theorem joinLines_lines (cs : List Char) : joinLines (lines cs) = cs :=
  joinPieces_pieces '\n' cs

/-- There is one line more than there are line feeds. -/
theorem length_lines (cs : List Char) : (lines cs).length = lineFeeds cs + 1 :=
  length_pieces '\n' cs

/-- The lines from number `first` to number `last`, joined. -/
def linesBetween (text : String) (first last : Int) : String :=
  String.ofList (joinLines (slice (lines text.toList) (first - 1) last))

end Sabotage.Text
