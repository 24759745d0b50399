import Sabotage.Disk.Basic
import Sabotage.Json.Printer
import Sabotage.Json.Reader

/-!
# Stores as files

A store is written as a mark and, after it, a JSON value: `null` without a table, or the rows of the
table, each an array of identifier, time and payload. `Entry.toBytes` and `Entry.ofBytes` are the
two directions for what stands on a disk.
-/

namespace Sabotage

namespace Store

/-- A row as a value. -/
def rowJson (r : Row) : Json :=
  .arr [.str r.id, .float r.time, .str r.payload]

/-- A store as a value. -/
def toJson (s : Store) : Json :=
  match s.table? with
  | none => .null
  | some rows => .arr (rows.map rowJson)

/-- The row a value stands for. -/
def row? : Json → Option Row
  | .arr [.str id, .float time, .str payload] =>
    match id.toString?, payload.toString? with
    | some id, some payload => some ⟨id, time, payload⟩
    | _, _ => none
  | _ => none

/-- The store a value stands for. -/
def ofJson? : Json → Option Store
  | .null => some .blank
  | .arr rows => (rows.mapM row?).map fun rows => ⟨some rows⟩
  | _ => none

end Store

namespace Entry

/-- The bytes of a file that holds what stands at a location; a directory has none. -/
def toBytes : Entry → Bytes
  | .directory => []
  | .file content => content
  | .store s => Disk.storeMark ++ Bytes.ofString (s.toJson.renderText .compact)

/-- What a file with these bytes holds: a store, if it begins with the mark. -/
def ofBytes (bytes : Bytes) : Entry :=
  let rest := bytes.drop Disk.storeMark.length
  if bytes.take Disk.storeMark.length = Disk.storeMark then
    match ((Bytes.toString? rest).bind Json.read?).bind Store.ofJson? with
    | some s => .store s
    | none => .file bytes
  else .file bytes

end Entry

end Sabotage
