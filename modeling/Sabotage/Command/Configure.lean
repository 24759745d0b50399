import Sabotage.Command.Ending

/-!
# The settings commands

Commands that show the settings in force, or one of them, and that change one. A value is read as
JSON if it can be, and is a text otherwise.
-/

namespace Sabotage.Command

/-! ## Showing -/

/-- Whether a value shows as a value for people too. -/
def isCompound : Json → Bool
  | .arr _ | .obj _ => true
  | _ => false

/-- What is said of a setting. -/
def settingPieces (mode : Mode) (key : String) (value : Json) : List Piece :=
  if mode = .machine || isCompound value then [.value (Console.valueStyle mode) value]
  else [.markup (s!"[cyan]{key}[/cyan] = " ++ value.display)]

/-- The complaint that a key has no value. -/
def unknownKey (key : String) : Complaint :=
  .about "UNKNOWN_KEY" s!"No config value for '{key}'" key

/-- Shows the settings, or one of them. -/
def showSetting (s : Surroundings) (key? : Option String) (mode : Mode) (b : Workbench) : Ending :=
  let settings := s.settings b.disk
  let key := key?.getD ""
  if key = "" then .well (settingPieces mode key (.obj settings.values)) b
  else
    match settings.get key with
    | .null => .early (.complaint false (unknownKey key)) b
    | value => .well (settingPieces mode key value) b

/-! ## Changing -/

/-- The value a word stands for. -/
def readValue (word : String) : Except Crash Json :=
  match Json.read word with
  | .ok j => .ok j
  | .error .malformed => .ok (.str word)
  | .error .tooManyDigits => .error .tooManyDigits
  | .error .tooDeep => .error .tooDeep

/-- The name of a scope. -/
def scopeName : Settings.Scope → String
  | .local => "local"
  | .global => "global"

/-- What is said of a changed setting. -/
def changedPieces (mode : Mode) (key : String) (value : Json) (scope : Settings.Scope) :
    List Piece :=
  match mode with
  | .machine => [.value .compact (.obj [("status", .str "ok"), ("key", .str key), ("value", value),
      ("scope", .str (scopeName scope))])]
  | .human =>
    [.markup s!"[green]✓[/green] Set {key} = {value.literal} ({scopeName scope})"]

/-- What a setting that cannot be changed ends with. -/
def haltOfAssign (key : String) (e : Settings.AssignError) : Halt :=
  match e with
  | .malformed _ | .unknownSection _ => .complaint false (.about "INVALID_KEY" e.message key)
  | .noFields | .notAssignable => .crash (.assign e)

/-- Changes a setting. -/
def assignSetting (s : Surroundings) (key word : String) (scope : Settings.Scope) (mode : Mode)
    (b : Workbench) : Ending :=
  match readValue word with
  | .error e => .early (.crash e) b
  | .ok value =>
    match (s.settings b.disk).assign scope key value b.disk with
    | .error e => .early (haltOfAssign key e) b
    | .ok (false, _, disk) =>
      .early (.complaint false (.about "CONFIG_WRITE_FAILED" s!"Failed to save '{key}'" key))
        { b with disk }
    | .ok (true, _, disk) => .well (changedPieces mode key value scope) { b with disk }

end Sabotage.Command
