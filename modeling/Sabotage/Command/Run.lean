import Sabotage.Command.Configure
import Sabotage.Command.Inject
import Sabotage.Command.Report
import Sabotage.Command.Watching

/-!
# Running command lines

`Command.run` takes the words of a command line through everything: reading them, setting up the
log, checking the files named, running the command and presenting what it says.
-/

namespace Sabotage.Command

/-- The version of the program. -/
def version : String := "0.4.0"

/-- What a command line gets besides its words: the surroundings, and what happens while a project
is watched. -/
structure Setting where
  surroundings : Surroundings
  pauses : List (List Watch.Happening)

/-- What a path that is named has to be. -/
inductive FileDemand where
  | file | fileOrNothing | directory
  deriving DecidableEq, Repr

/-- Whether a path is what it has to be. One with a NUL character never is. -/
def FileDemand.isMet (demand : FileDemand) (s : Surroundings) (d : Disk) (path : String) : Bool :=
  match d.find s.here (Path.ofString path).toString with
  | .error .badName => false
  | .error _ => demand = .fileOrNothing
  | .ok .directory => demand = .directory
  | .ok _ => demand ≠ .directory

/-- The path that a command names, and what it has to be. -/
def Invocation.demand? : Invocation → Option (FileDemand × String)
  | .inject o => some (.file, o.file)
  | .restore file _ => some (.fileOrNothing, file)
  | .watch directory _ _ => some (.directory, directory)
  | _ => none

/-- Carries out a command. -/
def perform (setting : Setting) (mode : Mode) (b : Workbench) : Invocation → Ending
  | .help => .well [] b
  | .version => .well [.line s!"bugduck v{version}"] b
  | .inject o => Inject.run setting.surroundings o mode b
  | .restore file asValue => restore setting.surroundings file asValue mode b
  | .kinds asValue => kinds setting.surroundings asValue mode b
  | .watch directory seed? quiet =>
    Watching.run setting.surroundings directory seed? quiet setting.pauses mode b
  | .history limit asValue => history setting.surroundings limit asValue mode b
  | .stats asValue => stats setting.surroundings asValue mode b
  | .showSetting key? => showSetting setting.surroundings key? mode b
  | .assignSetting key value isGlobal =>
    assignSetting setting.surroundings key value (if isGlobal then .global else .local) mode b

/-- The log that options for all commands ask for. -/
def Globals.logRequest (g : Globals) : LogRequest :=
  ⟨.named (if g.verbose then "DEBUG" else "WARNING"), some !g.human, none⟩

/-- The mode that options and environment ask for. -/
def Globals.mode (g : Globals) (s : Surroundings) : Mode :=
  .choose (if g.human then some .human else none) (s.environment "BUGDUCK_HUMAN_MODE")

/-- A command line that comes to nothing. -/
def Outcome.nothing (status : Status) (b : Workbench) : Outcome :=
  ⟨[], status, b, []⟩

/-- Checks the path that a command names and carries the command out. -/
def runCommand (setting : Setting) (mode : Mode) (i : Invocation) (b : Workbench) : Outcome :=
  if i.demand?.all fun (demand, path) => demand.isMet setting.surroundings b.disk path then
    (perform setting mode b i).present mode
  else .nothing .usage b

/-- Runs a command line. -/
def run (setting : Setting) (words : List String) (b : Workbench) : Outcome :=
  let s := setting.surroundings
  match Invocation.ofWords words with
  | .error _ => .nothing .usage b
  | .ok opening =>
    let (error?, _, disk) := Logging.setup s opening.globals.logRequest .unset b.disk
    let b := { b with disk }
    match error?, opening.command with
    | some e, _ => .nothing (.crash (.log e)) b
    | none, .error _ => .nothing .usage b
    | none, .ok i => runCommand setting (opening.globals.mode s) i b

end Sabotage.Command
