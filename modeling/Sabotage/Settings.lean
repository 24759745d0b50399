import Sabotage.Arrange
import Sabotage.Disk.Basic
import Sabotage.Editor
import Sabotage.Json.Printer
import Sabotage.Json.Reader

/-!
# Settings

Settings come in layers: the defaults, the file in the home directory, the file in the project;
a later layer wins, objects being merged key by key. Keys are paths of names with dots between.
`Settings.get?` follows one through the merged layers, `Settings.assign` writes one key to one of
the files and reads all layers again.
-/

namespace Sabotage

/-- The defaults. -/
def defaultSettings : Json.Fields :=
  [("mutation", .obj
      [("bugs_per_run", .int 3), ("bugs_per_save", .arr [.int 1, .int 2, .int 3]),
        ("weights", .obj [])]),
    ("commentary", .obj
      [("enabled", .bool true), ("endpoint", .str "https://api.openai.com/v1/chat/completions"),
        ("api_key", .null), ("model", .str "gpt-4o-mini"), ("timeout", .int 10)]),
    ("history", .obj [("enabled", .bool true)]),
    ("backup", .obj [("enabled", .bool true)])]

/-- The sections a key may begin with. -/
def knownSections : List String :=
  defaultSettings.map (·.1.legible)

/-! ## Layers -/

mutual
/-- Puts the fields of a layer over those below it. -/
def mergeFields (base : Json.Fields) : Json.Fields → Json.Fields
  | [] => base
  | (k, v) :: rest =>
    mergeFields (Table.assign k (mergeValue ((Table.lookup k base).getD .null) v) base) rest

/-- Puts a value over the one below it: an object over an object is merged into it. -/
def mergeValue (below : Json) : Json → Json
  | .obj fs => .obj (mergeFields below.fields fs)
  | v => v
end

/-- The layer a file holds; none when it is missing, unreadable or no object. -/
def layerAt (d : Disk) (here : Location) (file : String) : Json.Fields :=
  match d.readText here file with
  | .ok text =>
    match Json.read? text with
    | some (.obj fs) => fs
    | _ => []
  | .error _ => []

/-- The files that settings come from. -/
structure SettingsFiles where
  here : Location
  globalFile : String
  localFile : String

/-- All layers merged. -/
def loadLayers (files : SettingsFiles) (d : Disk) : Json.Fields :=
  mergeFields
    (mergeFields (mergeFields [] defaultSettings) (layerAt d files.here files.globalFile))
    (layerAt d files.here files.localFile)

/-- The settings in force, and the files they come from. -/
structure Settings where
  files : SettingsFiles
  values : Json.Fields

namespace Settings

/-- Reads the settings. -/
def load (files : SettingsFiles) (d : Disk) : Settings :=
  ⟨files, loadLayers files d⟩

/-! ## Reading a key -/

/-- The names a key is made of. -/
def keyPath (key : String) : List String :=
  Text.split '.' key

/-- Follows names through objects. -/
def dig : Json → List String → Option Json
  | j, [] => some j
  | .obj fs, k :: ks => (Table.lookup (k : Text.Spelling) fs).bind fun j => dig j ks
  | _, _ :: _ => none

/-- The value of a key. -/
def get? (s : Settings) (key : String) : Option Json :=
  dig (.obj s.values) (keyPath key)

/-- The value of a key; `null` when there is none. -/
def get (s : Settings) (key : String) : Json :=
  (s.get? key).getD .null

/-- Whether a switch is on; one that is not there is. -/
def switchedOn (s : Settings) (key : String) : Bool :=
  ((s.get? key).getD (.bool true)).truthy

/-! ## Counts -/

/-- An infinite number has no integer part. -/
inductive CountError where
  | infinite
  deriving DecidableEq, Repr

/-- A number brought between one and ten. -/
def clamp (n : Int) : Int :=
  max 1 (min 10 n)

/-- A value as an integer; none for one that is no number. -/
def toCount? : Json → Except CountError (Option Int)
  | .int n => .ok (some n)
  | .bool b => .ok (some (if b then 1 else 0))
  | .float x =>
    if x.isNaN then .ok none
    else if x.isInf then .error .infinite
    else .ok (some (Decimal.truncate x))
  | .str s => .ok (Numeral.readInt? 10 s.legible)
  | _ => .ok none

/-- A number of bugs from a value: between one and ten, with a default for what is no number. -/
def clampCount (value : Json) (default : Int) : Except CountError Int :=
  (toCount? value).map fun n => clamp (n.getD default)

/-- The number of bugs of a run. -/
def bugsPerRun (s : Settings) : Except CountError Int :=
  clampCount ((s.get? "mutation.bugs_per_run").getD (.int 3)) 3

/-- The integer that a value is. -/
def wholeNumber? : Json → Option Int
  | .int n => some n
  | .bool b => some (if b then 1 else 0)
  | _ => none

/-- Numbers in rising order, each once. -/
def distinctSorted (ns : List Int) : List Int :=
  arrange (fun a b => decide (a < b)) ns.eraseDups

/-- The numbers of bugs to draw from at a save: those of the list that are integers, or one, two
and three. -/
def bugsPerSave (s : Settings) : List Int :=
  let given := match (s.get? "mutation.bugs_per_save").getD .null with
    | .arr xs => xs.filterMap wholeNumber?
    | j => (wholeNumber? j).toList
  match distinctSorted (given.map clamp) with
  | [] => [1, 2, 3]
  | choices => choices

/-- The key for the commentary service: the one from the environment, or the one set. -/
def commentaryKey (s : Settings) (fromEnvironment : Option String) : Json :=
  match fromEnvironment with
  | some key => if key = "" then s.get "commentary.api_key" else .str key
  | none => s.get "commentary.api_key"

/-! ## Writing a key -/

/-- Which file is written. -/
inductive Scope where
  | local | global
  deriving DecidableEq, Repr

/-- Why a key is not written. -/
inductive AssignError where
  /-- A name of the key is empty. -/
  | malformed (key : String)
  /-- The key begins with a name that is no section. -/
  | unknownSection (name : String)
  /-- The file holds something other than an object, and the key has more than one name. -/
  | noFields
  /-- The file holds something other than an object, and the key has one name. -/
  | notAssignable
  deriving DecidableEq, Repr

/-- The messages about keys. -/
def AssignError.message : AssignError → String
  | .malformed key => "Malformed config key '" ++ key ++ "'"
  | .unknownSection name =>
    "Unknown config section '" ++ name ++ "'. Known: " ++ String.intercalate ", " knownSections
  | .noFields => "The settings file holds no object"
  | .notAssignable => "The settings file holds no object"

/-- Writes a value under names; what stands in the way and is no object gives way to one. -/
def plant (value : Json) : List String → Json.Fields → Json.Fields
  | [], fs => fs
  | [k], fs => Table.assign k value fs
  | k :: ks, fs =>
    let inner := ((Table.lookup (k : Text.Spelling) fs).getD .null).fields
    Table.assign k (.obj (plant value ks inner)) fs

/-- The path of a file to write. -/
def file (s : Settings) : Scope → String
  | .local => s.files.localFile
  | .global => s.files.globalFile

/-- What a file to be written holds before; none when it cannot be read. -/
def current? (s : Settings) (d : Disk) (file : String) : Option Json :=
  match d.find s.files.here file with
  | .error _ => some (.obj [])
  | .ok _ =>
    match d.readText s.files.here file with
    | .ok text => Json.read? text
    | .error _ => none

/-- The fields of what a file holds. -/
def fieldsFor (path : List String) : Json → Except AssignError (Json.Fields)
  | .obj fs => .ok fs
  | _ => .error (if path.length > 1 then .noFields else .notAssignable)

/-- Writes fields to a file; the answer says whether they are all there. Where a value is too deep
or too long, the writing ends and leaves what is written. -/
def save (s : Settings) (d : Disk) (file : String) (fields : Json.Fields) : Bool × Disk :=
  match d.makePath s.files.here (Path.ofString file).parent with
  | .error _ => (false, d)
  | .ok d =>
    let written := (Json.obj fields).excerpt .file
    match d.write s.files.here file (Bytes.ofString written.text.legible) with
    | .ok d => (written.complete, d)
    | .error _ => (false, d)

/-- Writes a key to a file and reads the settings again. The answer says whether it was written. -/
def assign (s : Settings) (scope : Scope) (key : String) (value : Json) (d : Disk) :
    Except AssignError (Bool × Settings × Disk) :=
  let path := keyPath key
  if path.any (· == "") then .error (.malformed key)
  else if !knownSections.contains (path.headD "") then .error (.unknownSection (path.headD ""))
  else
    match s.current? d (s.file scope) with
    | none => .ok (false, s, d)
    | some held =>
      match fieldsFor path held with
      | .error e => .error e
      | .ok fs =>
        match s.save d (s.file scope) (plant value path fs) with
        | (false, d) => .ok (false, s, d)
        | (true, d) => .ok (true, load s.files d, d)

end Settings

end Sabotage
