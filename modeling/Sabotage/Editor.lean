import Sabotage.Arrange
import Sabotage.Clock
import Sabotage.Disk.Basic
import Sabotage.Text.Glob
import Sabotage.Text.LineEnding

/-!
# Replacing files, with backups

An editor replaces the content of a file as a whole. Before it writes it copies the file to a
backup, whose name is that of the file and the time; it writes a temporary file beside the target
and moves it over, so that the target is never half written. When the move fails, the backup is
copied back. Backups of all files lie in one directory and are found again by a pattern on their
names.

Each step may fail. `Trouble` says which steps do, and whether a failing copy leaves its
destination truncated; `Trouble.none` is a disk on which only what the disk itself refuses fails.
-/

namespace Sabotage

/-- Why a text cannot be read. -/
inductive ReadError where
  | disk (e : DiskError)
  /-- The bytes are no text. -/
  | notText
  deriving DecidableEq, Repr

/-- The text of the file where a path text leads. -/
def Disk.readText (d : Disk) (here : Location) (text : String) : Except ReadError String :=
  match d.read here text with
  | .error e => .error (.disk e)
  | .ok bytes =>
    match Bytes.toString? bytes with
    | some s => .ok s
    | none => .error .notText

/-- The steps of a replacement. -/
inductive EditStep where
  | read | copyBackup | createTemporary | writeTemporary | move | removeTemporary | copyBack
  deriving DecidableEq, Repr

/-- What becomes of a step: it is carried out, it fails, or it fails and truncates what it was
writing to. -/
inductive StepOutcome where
  | done | fails | truncates
  deriving DecidableEq, Repr

/-- What becomes of each step. -/
abbrev Trouble := EditStep → StepOutcome

/-- Every step is carried out. -/
def Trouble.none : Trouble := fun _ => .done

/-- Only the given step fails. -/
def Trouble.at (step : EditStep) : Trouble := fun s => if s = step then .fails else .done

/-- An editor: the directory it works from, where its backups go, and whether it makes any. -/
structure Editor where
  here : Location
  backupDirectory : String
  makesBackups : Bool

/-- What an editor answers and leaves. -/
structure Edited (α : Type) where
  answer : α
  disk : Disk
  clock : Clock

/-- Why an editor gives up altogether. -/
inductive EditorError where
  | disk (e : DiskError)
  /-- A file name with two stars in a row makes no pattern. -/
  | pattern
  deriving DecidableEq, Repr

namespace Editor

/-- Where the backups go. -/
def directory (e : Editor) : Path :=
  Path.ofString e.backupDirectory

/-- Gets an editor ready: the backup directory is made if there are to be backups. -/
def prepare (e : Editor) (d : Disk) : Except DiskError Disk :=
  if e.makesBackups then d.makePath e.here e.directory else .ok d

/-- The name of the backup of a file at a time. -/
def backupName (file : Path) (micros : Nat) : String :=
  file.name ++ "." ++ (Moment.ofMicros micros).stamp ++ ".backup"

/-- The path of the backup of a file at a time. -/
def backupPath (e : Editor) (file : Path) (micros : Nat) : String :=
  (e.directory.child (backupName file micros)).toString

/-- A disk on which the file at a path is empty, if there is one that can be written. -/
def truncate (d : Disk) (here : Location) (text : String) : Disk :=
  match d.write here text [] with
  | .ok d => d
  | .error _ => d

/-- Copies a file under trouble; the answer says whether the copy was made. A copy that the disk
would refuse truncates nothing. -/
def copyUnder (outcome : StepOutcome) (d : Disk) (here : Location) (source target : String) :
    Bool × Disk :=
  match outcome with
  | .fails => (false, d)
  | .truncates =>
    match d.copy here source target with
    | .ok _ => (false, truncate d here (d.destination here source target))
    | .error _ => (false, d)
  | .done =>
    match d.copy here source target with
    | .ok d => (true, d)
    | .error _ => (false, d)

/-- Copies a file to a backup and answers the path of it; none when that fails. The clock is read
when there is something at the path. -/
def createBackup (e : Editor) (trouble : Trouble) (d : Disk) (clock : Clock) (file : String) :
    Except DiskError (Edited (Option String)) :=
  let path := Path.ofString file
  match d.exists? e.here path.toString with
  | .error err => .error err
  | .ok false => .ok ⟨none, d, clock⟩
  | .ok true =>
    let (micros, clock) := clock.read
    let target := e.backupPath path micros
    match copyUnder (trouble .copyBackup) d e.here path.toString target with
    | (true, d) => .ok ⟨some target, d, clock⟩
    | (false, d) => .ok ⟨none, d, clock⟩

/-- The name of a temporary file, told apart by a number. -/
def temporaryName (file : Path) (n : Nat) : String :=
  "." ++ file.name ++ "." ++ Moment.padded 8 n ++ ".tmp"

/-- A name for a temporary file that is not taken in a directory. -/
def freeName (d : Disk) (directory : Location) (file : Path) : String :=
  let taken := d.names directory
  (((List.range (taken.length + 1)).map (temporaryName file)).find? (!taken.contains ·)).getD
    (temporaryName file 0)

/-- Writes a file by way of a temporary file beside it; the answer says whether it was written. -/
def replaceFile (trouble : Trouble) (d : Disk) (here : Location) (file : Path) (bytes : Bytes) :
    Bool × Disk :=
  match d.locate here file.toString with
  | .error _ => (false, d)
  | .ok target =>
    let directory := target.dropLast
    let name := freeName d directory file
    let temporary := directory ++ [name]
    if name.utf8ByteSize > Disk.nameLimit ∨ trouble .createTemporary ≠ .done then (false, d)
    else
      let created := d.set temporary (.file [])
      let abandon (d : Disk) : Disk :=
        if trouble .removeTemporary = .done then d.erase temporary else d
      if trouble .writeTemporary ≠ .done then (false, abandon created)
      else
        let written := d.set temporary (.file bytes)
        if trouble .move ≠ .done then (false, abandon written)
        else (true, (written.erase temporary).set target (.file bytes))

/-- What a replacement answers: whether the file was written, and the path of its backup. -/
structure Written where
  success : Bool
  backup? : Option String
  deriving DecidableEq, Repr

/-- Copies a backup back after a failed write. -/
def recover (e : Editor) (trouble : Trouble) (d : Disk) (backup? : Option String) (file : String) :
    Disk :=
  match backup? with
  | none => d
  | some backup => (copyUnder (trouble .copyBack) d e.here backup file).2

/-- Writes a new content, in the line-ending convention of the old one, once the backup is made. -/
def finish (e : Editor) (trouble : Trouble) (d : Disk) (clock : Clock) (file : Path)
    (old new : String) (backup? : Option String) : Edited Written :=
  let bytes := Bytes.ofString (Text.normalize (.detect old) new)
  match replaceFile trouble d e.here file bytes with
  | (true, d) => ⟨⟨true, backup?⟩, d, clock⟩
  | (false, d) => ⟨⟨false, backup?⟩, e.recover trouble d backup? file.toString, clock⟩

/-- Replaces the content of a file. -/
def write (e : Editor) (trouble : Trouble) (d : Disk) (clock : Clock) (file new : String) :
    Except DiskError (Edited Written) :=
  let path := Path.ofString file
  let refused (d : Disk) (clock : Clock) : Edited Written := ⟨⟨false, none⟩, d, clock⟩
  if trouble .read ≠ .done then .ok (refused d clock)
  else
    match d.readText e.here path.toString with
    | .error (.disk .badName) => .error .badName
    | .error _ => .ok (refused d clock)
    | .ok old =>
      if e.makesBackups then
        match e.createBackup trouble d clock path.toString with
        | .error err => .error err
        | .ok ⟨none, d, clock⟩ => .ok (refused d clock)
        | .ok ⟨some backup, d, clock⟩ => .ok (e.finish trouble d clock path old new (some backup))
      else .ok (e.finish trouble d clock path old new none)

/-- The pattern of the names of the backups of a file. -/
def backupPattern (file : Path) : String :=
  file.name ++ ".*.backup"

/-- Whether a text has two stars in a row. -/
def hasDoubleStar : List Char → Bool
  | '*' :: '*' :: _ => true
  | _ :: cs => hasDoubleStar cs
  | [] => false

/-- The names of the backups of a file, the newest first: the order of the names is that of their
times. -/
def listBackups (e : Editor) (d : Disk) (file : String) : Except EditorError (List String) :=
  let path := Path.ofString file
  match d.exists? e.here e.directory.toString with
  | .error err => .error (.disk err)
  | .ok false => .ok []
  | .ok true =>
    if hasDoubleStar path.name.toList then .error .pattern
    else
      match d.locate e.here e.directory.toString with
      | .error _ => .ok []
      | .ok loc =>
        .ok (arrange (fun a b => decide (b < a))
          ((d.names loc).filter (Glob.accepts (backupPattern path))))

/-- Copies the newest backup of a file back and answers its path; none when there is no backup or
it cannot be copied. -/
def restoreLatest (e : Editor) (trouble : Trouble) (d : Disk) (file : String) :
    Except EditorError (Option String × Disk) :=
  match e.listBackups d file with
  | .error err => .error err
  | .ok [] => .ok (none, d)
  | .ok (latest :: _) =>
    let source := (e.directory.child latest).toString
    match d.locate e.here file with
    | .error .badName => .error (.disk .badName)
    | _ =>
      match copyUnder (trouble .copyBack) d e.here source file with
      | (true, d) => .ok (some source, d)
      | (false, d) => .ok (none, d)

end Editor

end Sabotage
