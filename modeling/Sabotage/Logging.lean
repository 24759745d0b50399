import Sabotage.Surroundings

/-!
# Where the log goes

The log goes to the console, to a file, to both or nowhere. `Logging.setup` decides where; what a
call leaves open is decided by variables. Once the log is set up, only a call that asks for
something changes it.
-/

namespace Sabotage

/-- Where the log goes. -/
structure Logging where
  configured : Bool
  console : Bool
  file : Bool
  deriving DecidableEq, Repr

/-- How grave a message has to be to be logged. -/
inductive LogLevel where
  | named (name : String)
  | number (n : Int)
  deriving DecidableEq, Repr

/-- What a call asks for. -/
structure LogRequest where
  level : LogLevel
  quiet? : Option Bool
  file? : Option Bool
  deriving DecidableEq, Repr

/-- Why the log cannot be set up. -/
inductive LogSetupError where
  | unknownLevel
  | disk (e : DiskError)
  deriving DecidableEq, Repr

namespace Logging

/-- Before any call. -/
def unset : Logging := ⟨false, false, false⟩

/-- The number of places the log goes to. -/
def sinks (l : Logging) : Nat :=
  l.console.toNat + l.file.toNat

/-- The names of levels. -/
def levelNames : List String :=
  ["TRACE", "DEBUG", "INFO", "SUCCESS", "WARNING", "ERROR", "CRITICAL"]

/-- Whether there is such a level. -/
def isLevel : LogLevel → Bool
  | .named name => levelNames.contains name
  | .number n => 0 ≤ n

/-- Whether a call asks for anything. -/
def asksFor (r : LogRequest) : Bool :=
  r.quiet?.isSome || r.file?.isSome || r.level != .named "INFO"

/-- Makes the directories of a project. -/
def makeDirectories (s : Surroundings) (d : Disk) : Except DiskError Disk :=
  match d.makePath s.here s.project.directory with
  | .error e => .error e
  | .ok d =>
    match d.makePath s.here s.project.backups with
    | .error e => .error e
    | .ok d => d.makePath s.here s.project.logs

/-- Makes the log file, if it is missing. -/
def openFile (s : Surroundings) (d : Disk) : Except DiskError Disk :=
  match makeDirectories s d with
  | .error e => .error e
  | .ok d => d.append s.here s.project.logFile.toString []

/-- Sets up the log. -/
def setup (s : Surroundings) (r : LogRequest) (l : Logging) (d : Disk) :
    Option LogSetupError × Logging × Disk :=
  if l.configured && !asksFor r then (none, l, d)
  else
    let console := !r.quiet?.getD (s.isSet "BUGDUCK_MACHINE_MODE")
    let file := r.file?.getD (s.isSet "BUGDUCK_FILE_LOGGING")
    if console && !isLevel r.level then (some .unknownLevel, ⟨true, false, false⟩, d)
    else if file then
      match openFile s d with
      | .error e => (some (.disk e), ⟨true, console, false⟩, d)
      | .ok d => (none, ⟨true, console, true⟩, d)
    else (none, ⟨true, console, false⟩, d)

end Logging

end Sabotage
