import Sabotage.Commentary.Roast
import Sabotage.Draft
import Sabotage.Project
import Sabotage.Settings
import Sabotage.Workbench

/-!
# Surroundings

What a command finds where it is run: a project, variables, a parser, a commentary service and a
seed in case none is given. Editors, ledgers and settings are those of the project.
-/

namespace Sabotage

/-- What a command finds. -/
structure Surroundings where
  parser : Parser
  project : Project
  /-- The value of a variable of the environment. -/
  environment : String → Option String
  service : Commentary.Request → Commentary.Reply
  seed : Int

namespace Surroundings

/-- The directory that relative paths are seen from. -/
def here (s : Surroundings) : Location :=
  s.project.root.parts

/-- Whether a variable says yes. -/
def isSet (s : Surroundings) (name : String) : Bool :=
  ["1", "true", "yes"].contains ((s.environment name).getD "").toLower

/-- The settings in force. -/
def settings (s : Surroundings) (d : Disk) : Settings :=
  .load ⟨s.here, s.project.globalSettings.toString, s.project.localSettings.toString⟩ d

/-- The editor of the project. -/
def editor (s : Surroundings) (makesBackups : Bool) : Editor :=
  ⟨s.here, s.project.backups.toString, makesBackups⟩

/-- The ledger of the project. -/
def ledger (s : Surroundings) : Ledger :=
  ⟨s.here, s.project.historyStore, s.project.historyLog⟩

/-- The settings of the commentary service. -/
def commentary (s : Surroundings) (settings : Settings) : Json.Fields :=
  Commentary.configure
    (Commentary.settingsOverrides settings (s.environment "BUGDUCK_LLM_API_KEY"))

end Surroundings

end Sabotage
