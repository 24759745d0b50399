import Sabotage.Command.Layout
import Sabotage.Command.Run
import Sabotage.Disk.StoreText
import Sabotage.Syntax.ParseTable

/-!
# The program

The outer layer: it reads the files below the current directory into a disk, runs a command line on
it, prints what comes out and writes back what has changed. Parses are taken from the table in
`.bugduck/trees.json`. There is no network here, so that the commentary service never answers. A
watch goes on until the standard input ends.
-/

namespace Sabotage.Program

open Command Watch

/-- The variables of the environment that matter. -/
def variableNames : List String :=
  ["BUGDUCK_MACHINE_MODE", "BUGDUCK_HUMAN_MODE", "BUGDUCK_FILE_LOGGING", "BUGDUCK_LLM_API_KEY"]

/-- The path text of a location. -/
def pathText (loc : Location) : String :=
  (Path.ofLocation loc).toString

/-- Reads what stands below a location into a disk. -/
partial def readBelow (loc : Location) (d : Disk) : IO Disk := do
  let directory ← IO.FS.realPath (pathText loc)
  let mut d := d
  for found in ← directory.readDir do
    let below := loc ++ [found.fileName]
    match (← found.path.metadata).type with
    | .dir => d ← readBelow below (d.set below .directory)
    | .file =>
      let bytes ← IO.FS.readBinFile (pathText below)
      d := d.set below (.ofBytes bytes.data.toList)
    | _ => pure ()
  return d

/-- Reads a location with the directories above it and all that stands below it. -/
def readAll (loc : Location) (d : Disk) : IO Disk := do
  let made := match d.makeDirectory loc with
    | .ok d => d
    | .error _ => d
  try readBelow loc made catch _ => return made

/-- The disk: the project, and the directory of the settings for all projects. -/
def readDisk (p : Project) : IO Disk := do
  readAll (p.home.child Project.directoryName).parts (← readAll p.root.parts .empty)

/-- Writes back what one disk has and the other has not. -/
def writeBack (before after : Disk) : IO Unit := do
  for (loc, e) in after.entries do
    match e with
    | .directory =>
      if (before.occupant? loc).isNone then IO.FS.createDirAll (pathText loc)
    | e =>
      if (before.occupant? loc).map Entry.toBytes != some e.toBytes then
        IO.FS.writeBinFile (pathText loc) ⟨e.toBytes.toArray⟩
  for (loc, _) in before.entries do
    if (after.occupant? loc).isNone then IO.FS.removeFile (pathText loc)

/-- The time in microseconds, as it is stamped on a new file. -/
def timeOfDay : IO Nat := do
  let (_, file) ← IO.FS.createTempFile
  let stamp := (← file.metadata).modified
  IO.FS.removeFile file
  return stamp.sec.toNat * 1000000 + stamp.nsec.toNat / 1000

/-- A random number of as many bytes. -/
def randomNumber (bytes : USize) : IO Nat := do
  return (← IO.getRandomBytes bytes).data.foldl (fun n b => n * 256 + b.toNat) 0

/-- The project in the current directory. -/
def currentProject : IO Project := do
  let root ← IO.currentDir
  let home := (← IO.getEnv "HOME").getD "/"
  return ⟨Path.ofString root.toString, Path.ofString home⟩

/-- The parser of a project. -/
def parserOf (p : Project) (d : Disk) : Parser :=
  let here := p.root.parts
  let table := match d.readText here (p.directory.child "trees.json").toString with
    | .ok text => ((Json.read? text).map Json.fields).getD []
    | .error _ => []
  ParseTable.parser table

/-- What commands find. -/
def surroundings (p : Project) (d : Disk) : IO Surroundings := do
  let values ← variableNames.filterMapM fun name => do
    return (← IO.getEnv name).map fun value => (name, value)
  return ⟨parserOf p d, p, fun name => Table.lookup name values, fun _ => .raised,
    ← randomNumber 16⟩

/-- The workbench. -/
def workbench (d : Disk) : IO Workbench := do
  let now ← timeOfDay
  return ⟨d, ⟨now, 1⟩, ⟨now, 1⟩, ← randomNumber 15⟩

/-- Prints what comes out. -/
def printAll (out : List Output) : IO Unit := do
  for o in out do IO.print (Layout.text o)
  (← IO.getStdout).flush

/-- Prints what comes out of a command line, and writes back what it has changed. -/
def conclude (before : Disk) (o : Command.Outcome) : IO UInt32 := do
  printAll o.output
  writeBack before o.bench.disk
  match o.status with
  | .usage => IO.eprintln "usage: bugduck [-H] [-v] COMMAND [ARGUMENTS]"
  | .crash _ => IO.eprintln "bugduck: the command failed"
  | _ => pure ()
  return o.status.code.toUInt32

/-- What has happened to the files between two disks. -/
def happenings (before after : Disk) : List Happening :=
  after.entries.flatMap fun (loc, e) =>
    let path := pathText loc
    let change? := match before.occupant? loc with
      | none => some (Change.created path)
      | some old => if old.toBytes = e.toBytes then none else some (.modified path)
    match e, change? with
    | .directory, _ | _, none => []
    | e, some change => [.write path e.toBytes, .event ⟨change, false⟩]

/-- Goes on watching, until the reading of the standard input has ended. -/
partial def watchOn (p : Project) (input : Task (Except IO.Error String)) (mode : Mode)
    (state : Watching.State) : IO UInt32 := do
  IO.sleep (pauseLength * 1000).toUInt32
  let stopped ← IO.hasFinished input
  let found ← readDisk p
  let news := happenings state.state.bench.disk found ++ (if stopped then [.stop] else [])
  let (result, state) := (state.pause news).flush
  writeBack found state.state.bench.disk
  match result with
  | .ok () =>
    if stopped then
      conclude state.state.bench.disk ((Watching.close mode result state).present mode)
    else watchOn p input mode state
  | .error _ =>
    conclude state.state.bench.disk ((Watching.close mode result state).present mode)

/-- Watches a directory. -/
def watchLive (s : Surroundings) (mode : Mode) (directory : String) (seed? : Option Int)
    (quiet : Bool) (b : Workbench) : IO UInt32 := do
  printAll (Console.present mode [Watching.greeting directory]).1
  match Watching.begin s directory seed? quiet b with
  | .error e => conclude b.disk ((Ending.early (.crash (.disk e)) b).present mode)
  | .ok state =>
    writeBack b.disk state.state.bench.disk
    let input ← IO.asTask do (← IO.getStdin).getLine
    watchOn s.project input mode state

end Sabotage.Program

open Sabotage Sabotage.Program in
/-- Runs a command line. -/
def main (words : List String) : IO UInt32 := do
  let project ← currentProject
  let disk ← readDisk project
  let s ← surroundings project disk
  let bench ← workbench disk
  match Command.Invocation.ofWords words with
  | .ok ⟨globals, .ok (.watch directory seed? quiet)⟩ =>
    if Command.FileDemand.directory.isMet s disk directory then
      watchLive s (globals.mode s) directory seed? quiet bench
    else conclude disk (.nothing .usage bench)
  | _ => conclude disk (Command.run ⟨s, []⟩ words bench)
