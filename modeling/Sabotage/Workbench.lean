import Sabotage.Clock
import Sabotage.Editor
import Sabotage.History.Ledger

/-!
# The workbench

What commands and watchers work on: a disk, the clocks that backups and the history go by, and the
supply of identifiers for history entries.
-/

namespace Sabotage

/-- A disk, the clocks, and the number of identifiers given out. -/
structure Workbench where
  disk : Disk
  backupClock : Clock
  historyClock : Clock
  identifiers : Nat

/-- Why an entry cannot be made. -/
inductive EntryError where
  /-- The path has a NUL character. -/
  | badName
  /-- The texts are the same. -/
  | noChange
  | unknownBug
  deriving DecidableEq, Repr

namespace Workbench

/-- A new identifier and the time in seconds. -/
def stamp (b : Workbench) : (String × Float) × Workbench :=
  let (micros, historyClock) := b.historyClock.read
  let identifiers := b.identifiers + 1
  ((HistoryEntry.identifier identifiers, Clock.seconds micros),
    { b with historyClock, identifiers })

/-- The entry of an injection into a file. -/
def newEntry (b : Workbench) (here : Location) (file : String) (bugs : List BugKind)
    (change : Text.ChangeRange) : HistoryEntry × Workbench :=
  let ((id, time), b) := b.stamp
  (.ofChange id time here file bugs change, b)

/-- The entry of a change from one text of a file to another, with bugs by their names. A path that
is refused uses up neither an identifier nor a time. -/
def entryOf (b : Workbench) (here : Location) (file : String) (bugs : List String)
    (before after : String) : Except EntryError HistoryEntry × Workbench :=
  if file.contains '\x00' then (.error .badName, b)
  else
    let ((id, time), b) := b.stamp
    let entry := do
      let change ← (Text.ChangeRange.between? before after).elim (.error .noChange) .ok
      let kinds ← (bugs.mapM BugKind.ofName?).elim (.error .unknownBug) .ok
      pure (.ofChange id time here file kinds change)
    (entry, b)

/-- Records an entry in a ledger; the answer says whether it was taken. -/
def record (b : Workbench) (ledger : Ledger) (entry : HistoryEntry) : Bool × Workbench :=
  let (taken, disk) := ledger.record entry b.disk
  (taken, { b with disk })

/-- Records an injection into a file. -/
def recordInjection (b : Workbench) (ledger : Ledger) (file : String) (bugs : List BugKind)
    (change : Text.ChangeRange) : Workbench :=
  let (entry, b) := b.newEntry ledger.here file bugs change
  (b.record ledger entry).2

/-- Replaces the content of a file under trouble. -/
def replace (b : Workbench) (trouble : Trouble) (editor : Editor) (file new : String) :
    Except DiskError (Editor.Written × Workbench) :=
  match editor.write trouble b.disk b.backupClock file new with
  | .error e => .error e
  | .ok ⟨written, disk, backupClock⟩ => .ok (written, { b with disk, backupClock })

end Workbench

end Sabotage
