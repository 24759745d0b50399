import Sabotage.Path

/-!
# The places of a project

Everything this library keeps lies below one directory of the project: settings, history, backups
and logs. The settings for all projects lie in a directory of the same name in the home directory.
-/

namespace Sabotage

/-- A project: its root, and the home directory. -/
structure Project where
  root : Path
  home : Path

namespace Project

/-- The name of the directory. -/
def directoryName : String := ".bugduck"

/-- The directory of a project. -/
def directory (p : Project) : Path := p.root.child directoryName

/-- The store of the history. -/
def historyStore (p : Project) : Path := p.directory.child "history.db"

/-- The log of the history. -/
def historyLog (p : Project) : Path := p.directory.child "history.jsonl"

/-- The settings of the project. -/
def localSettings (p : Project) : Path := p.directory.child "config.json"

/-- The backups of files. -/
def backups (p : Project) : Path := p.directory.child "backups"

/-- The log files. -/
def logs (p : Project) : Path := p.directory.child "logs"

/-- The log file. -/
def logFile (p : Project) : Path := p.logs.child "bugduck.log"

/-- The settings for all projects. -/
def globalSettings (p : Project) : Path := (p.home.child directoryName).child "config.json"

end Project

end Sabotage
