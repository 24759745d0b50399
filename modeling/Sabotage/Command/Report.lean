import Sabotage.Command.Ending
import Sabotage.Rule.Catalog

/-!
# The reporting commands

Commands that show what there is: the kinds of bugs with their weights, the history, what the
history amounts to, and the restoring of a file from its latest backup.
-/

namespace Sabotage.Command

/-- Says a value or, for people who do not ask for one, sentences. -/
def valueOr (mode : Mode) (asValue : Bool) (j : Json) (sentences : List Piece) : List Piece :=
  if asValue || mode = .machine then [.value .compact j] else sentences

/-! ## Restoring -/

/-- The complaint that there is no backup. -/
def noBackup (file : String) : Complaint :=
  ⟨"NO_BACKUP", s!"No backup found for {file}", file, [],
    "Backups are written by 'bugduck inject' when backup.enabled is true"⟩

/-- What is said of a restored file. -/
def restored (mode : Mode) (asValue : Bool) (file backup : String) : List Piece :=
  valueOr mode asValue
    (.obj [("status", .str "ok"), ("file", .str file), ("backup_path", .str backup)])
    [.markup ("[green]✓[/green] Restored [cyan]" ++ Text.Markup.escape file ++ "[/cyan] from "
      ++ Text.Markup.escape backup)]

/-- Restores a file from its latest backup. -/
def restore (s : Surroundings) (file : String) (asValue : Bool) (mode : Mode) (b : Workbench) :
    Ending :=
  let file := (Path.ofString file).toString
  match (s.editor false).restoreLatest .none b.disk file with
  | .error e => .early (.crash (.editor e)) b
  | .ok (none, disk) => .early (.complaint asValue (noBackup file)) { b with disk }
  | .ok (some backup, disk) => .well (restored mode asValue file backup) { b with disk }

/-! ## The kinds of bugs -/

/-- An entry of the catalog as a value. -/
def kindJson (e : CatalogEntry) : Json :=
  .obj [("kind", .str e.kind.name), ("weight", e.weight.toJson),
    ("description", .str e.kind.description)]

/-- Shows the kinds of bugs. -/
def kinds (s : Surroundings) (asValue : Bool) (mode : Mode) (b : Workbench) : Ending :=
  let entries := catalog ((s.settings b.disk).get "mutation.weights")
  let rows := entries.map fun e => [e.kind.name, e.weight.toJson.literal, e.kind.description]
  .well (valueOr mode asValue (.arr (entries.map kindJson))
    [.table "Bug Kinds" ["Kind", "Weight", "Description"] rows]) b

/-! ## The history -/

/-- The kinds of bugs in a sentence. -/
def kindList (bugs : List BugKind) : String :=
  String.intercalate ", " (bugs.map BugKind.name)

/-- The time of an entry, in microseconds, to the second. -/
def microsOf (time : Float) : Nat :=
  (Decimal.truncate time).toNat * 1000000

/-- What is said of an entry. -/
def entryLines (e : HistoryEntry) : List Piece :=
  let time := (Moment.ofMicros (microsOf e.time)).legible
  [.markup s!"[cyan]{e.id.take 8}[/cyan] - {time}",
    .markup ("  " ++ Text.Markup.escape e.path ++ s!":{e.firstLine}-{e.lastLine}"),
    .markup s!"  Bugs: {kindList e.bugs}", .markup ""]

/-- What is said of the history. -/
def historyLines : List HistoryEntry → List Piece
  | [] => [.markup "[dim]No injections recorded yet.[/dim]"]
  | entries =>
    .markup s!"[bold]Injection History[/bold] (showing {entries.length} most recent)\n"
      :: entries.flatMap entryLines

/-- Shows the most recent entries. -/
def history (s : Surroundings) (limit : Int) (asValue : Bool) (mode : Mode) (b : Workbench) :
    Ending :=
  match s.ledger.prepare b.disk with
  | .error e => .early (.crash (.disk e)) b
  | .ok disk =>
    let b := { b with disk }
    match s.ledger.recent limit disk with
    | .error e => .early (.crash (.limit e)) b
    | .ok entries =>
      .well (valueOr mode asValue (.arr (entries.map HistoryEntry.toJson)) (historyLines entries)) b

/-- What the history amounts to, as a value. -/
def statsJson (t : LedgerStats) : Json :=
  .obj [("total_runs", .int t.runs), ("total_bugs", .int t.bugs),
    ("bugs_by_kind", .obj (t.byKind.map fun (k, n) => (k.name, .int n))),
    ("files_touched", .int t.files)]

/-- What the history amounts to, as a table and a list. -/
def statsLines (t : LedgerStats) : List Piece :=
  .table "Injection Statistics" ["Metric", "Value"]
      [["Total Runs", toString t.runs], ["Total Bugs", toString t.bugs],
        ["Files Touched", toString t.files]]
    :: if t.byKind.isEmpty then []
      else
        .markup "\n[bold]Bugs by Kind:[/bold]"
          :: t.byKind.map fun (k, n) => .markup s!"  {k.name}: {n}"

/-- Shows what the history amounts to. -/
def stats (s : Surroundings) (asValue : Bool) (mode : Mode) (b : Workbench) : Ending :=
  match s.ledger.prepare b.disk with
  | .error e => .early (.crash (.disk e)) b
  | .ok disk =>
    let t := s.ledger.stats disk
    .well (valueOr mode asValue (statsJson t) (statsLines t)) { b with disk }

end Sabotage.Command
