import Sabotage.Command.Console

/-!
# Layout of tables

A table is written as its title and its rows, each cell filled up to the width of its column.
-/

namespace Sabotage.Command.Layout

/-- A cell filled up with blanks. -/
def pad (columns : Nat) (cell : String) : String :=
  cell ++ String.ofList (List.replicate (columns - Text.width cell.toList) ' ')

/-- A row. -/
def rowText (widths : List Nat) (row : List String) : String :=
  String.intercalate "  " (row.mapIdx fun i cell => pad (widths.getD i 0) cell)

/-- What comes out, as text with all its line breaks. -/
def text : Output → String
  | .text s => s ++ "\n"
  | .table title columns rows =>
    let all := columns :: rows
    String.join ((title :: all.map (rowText (Text.Grid.columnWidths all))).map (· ++ "\n"))

end Sabotage.Command.Layout
