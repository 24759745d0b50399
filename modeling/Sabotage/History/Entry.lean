import Sabotage.BugKind
import Sabotage.Decimal.Figure
import Sabotage.Json.Printer
import Sabotage.Json.Reader
import Sabotage.Path
import Sabotage.Text.ChangeRange

/-!
# History entries

An entry tells of one injection: when, into which file, which bugs, and what the changed lines were
before and after. `toJson` and `ofJson?` are the two directions of its form as JSON. Reading is
lenient about numbers: whole floats, booleans and figures stand for integers, integers and figures
for floats. Fields that are not known are dropped.
-/

namespace Sabotage

/-- One injection. -/
structure HistoryEntry where
  id : String
  time : Float
  path : String
  address : String
  bugs : List BugKind
  firstLine : Int
  lastLine : Int
  before : String
  after : String

namespace HistoryEntry

/-- An entry as JSON. -/
def toJson (e : HistoryEntry) : Json :=
  .obj [("id", .str e.id), ("timestamp", .float e.time), ("file_path", .str e.path),
    ("file_uri", .str e.address), ("bugs", .arr (e.bugs.map fun k => .str k.name)),
    ("start_line", .int e.firstLine), ("end_line", .int e.lastLine),
    ("before_snippet", .str e.before), ("after_snippet", .str e.after)]

/-- An entry as one line of text. -/
def record (e : HistoryEntry) : String :=
  e.toJson.renderText .record

/-- A value as an integer. -/
def integer? : Json → Option Int
  | .int n => some n
  | .bool b => some (if b then 1 else 0)
  | .float x =>
    if Decimal.isIntegral x && x.abs < 9223372036854775808.0 then some (Decimal.truncate x)
    else none
  | .str s => Figure.readInt? s.legible
  | _ => none

/-- A value as a float. An integer beyond all floats is infinite in a record, and none where it is
given as a value. -/
def float? (inRecord : Bool) : Json → Option Float
  | .float x => some x
  | .int n =>
    let x := Numeral.signedFloat (decide (n < 0)) ⟨n.natAbs, 0⟩
    if x.isInf && !inRecord then none else some x
  | .bool b => some (if b then 1 else 0)
  | .str s => Figure.readFloat? s.legible
  | _ => none

/-- A value as a list of bugs. -/
def bugs? : Json → Option (List BugKind)
  | .arr xs => xs.mapM fun x => x.text?.bind BugKind.ofName?
  | _ => none

/-- The entry a value stands for, in a record or by itself. -/
def ofJson? (inRecord : Bool) (j : Json) : Option HistoryEntry := do
  let id ← (← j.get? "id").text?
  let time ← float? inRecord (← j.get? "timestamp")
  let path ← (← j.get? "file_path").text?
  let address ← (← j.get? "file_uri").text?
  let bugs ← bugs? (← j.get? "bugs")
  let firstLine ← integer? (← j.get? "start_line")
  let lastLine ← integer? (← j.get? "end_line")
  let before ← (← j.get? "before_snippet").text?
  let after ← (← j.get? "after_snippet").text?
  return ⟨id, time, path, address, bugs, firstLine, lastLine, before, after⟩

/-- The entry a text stands for. -/
def read? (s : String) : Option HistoryEntry :=
  (Json.readBy .record s).toOption.bind (ofJson? true)

/-- An identifier of 32 hexadecimal digits. -/
def identifier (n : Nat) : String :=
  String.ofList (Text.hexDigits 32 n)

/-- The entry of an injection into a file, seen from a directory. -/
def ofChange (id : String) (time : Float) (here : List String) (file : String)
    (bugs : List BugKind) (change : Text.ChangeRange) : HistoryEntry :=
  let path := (Path.ofString file).resolve here
  ⟨id, time, path.toString, path.fileAddress, bugs, change.firstLine, change.lastLine,
    change.before, change.after⟩

end HistoryEntry

end Sabotage
