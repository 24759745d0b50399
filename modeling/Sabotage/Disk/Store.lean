/-!
# Row stores

A store is a table of rows with distinct identifiers, or a store in which the table has not been
made yet. Putting a row in place of one of the same identifier moves it to the end.
-/

namespace Sabotage

/-- A row: its identifier, its time and its payload. -/
structure Row where
  id : String
  time : Float
  payload : String

/-- A store, with its table if it has one. -/
structure Store where
  table? : Option (List Row)

namespace Store

/-- A store without a table. -/
def blank : Store := ⟨none⟩

/-- Makes the table, if it is missing. -/
def prepare (s : Store) : Store :=
  ⟨some (s.table?.getD [])⟩

/-- Puts a row into a table at the end, in place of one of its identifier. -/
def putRow (row : Row) (rows : List Row) : List Row :=
  rows.filter (·.id != row.id) ++ [row]

/-- Puts a row into the table; none without a table, or when the time is not a number. -/
def put? (row : Row) (s : Store) : Option Store :=
  match s.table? with
  | some rows => if row.time.isNaN then none else some ⟨some (putRow row rows)⟩
  | none => none

/-- A row put into a table is the one found under its identifier. -/
theorem find?_putRow (row : Row) (rows : List Row) :
    (putRow row rows).find? (·.id == row.id) = some row := by
  have : (rows.filter (·.id != row.id)).find? (·.id == row.id) = none := by
    simp [List.find?_eq_none]
  simp [putRow, List.find?_append, this]

end Store

end Sabotage
