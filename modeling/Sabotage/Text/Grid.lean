import Sabotage.Text.Columns

/-!
# Grids

A grid is a list of rows of cells, drawn with a line on both sides of each of its columns and a
blank on both sides of each cell. When it is too broad for the terminal, the broadest of its columns
are narrowed, and what has no room in a cell is cut off, with a sign in its place.
-/

namespace Sabotage.Text.Grid

/-- The width of each column: that of its broadest cell. -/
def columnWidths : List (List String) → List Nat
  | [] => []
  | row :: rest =>
    let widths := columnWidths rest
    row.mapIdx (fun i cell => max (Text.width cell.toList) (widths.getD i 0))
      ++ widths.drop row.length

/-- Takes one from the first of the greatest numbers. -/
def lower (widths : List Nat) : List Nat :=
  widths.modify (widths.idxOf (widths.foldl max 0)) (· - 1)

/-- Narrows columns by so many terminal columns in all, always the broadest. -/
def narrow : Nat → List Nat → List Nat
  | 0, widths => widths
  | excess + 1, widths => narrow excess (lower widths)

/-- What lines and blanks take up between and around so many columns. -/
def frameWidth (columns : Nat) : Nat :=
  3 * columns + 1

/-- The sign that something is cut off. -/
def ellipsis : Char := '…'

/-- A cell in a column of some width. -/
def cut (room : Nat) (cell : String) : String :=
  if Text.width cell.toList ≤ room then cell
  else String.ofList (Text.fit (room - 1) cell.toList ++ [ellipsis])

/-- The rows as they are drawn on a terminal. -/
def fit (limit : Nat) (rows : List (List String)) : List (List String) :=
  let widths := columnWidths rows
  let total := widths.foldl (· + ·) (frameWidth widths.length)
  let widths := narrow (total - limit) widths
  rows.map fun row => row.mapIdx fun i cell => cut (widths.getD i 0) cell

/-- Narrowing keeps the number of columns. -/
@[simp] theorem length_narrow (excess : Nat) (widths : List Nat) :
    (narrow excess widths).length = widths.length := by
  induction excess generalizing widths with
  | zero => rfl
  | succ excess ih => simp [narrow, ih, lower]

/-- A cell that has room stays as it is. -/
theorem cut_eq_self {room : Nat} {cell : String} (h : Text.width cell.toList ≤ room) :
    cut room cell = cell :=
  if_pos h

end Sabotage.Text.Grid
