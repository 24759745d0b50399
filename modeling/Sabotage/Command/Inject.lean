import Sabotage.Command.Ending
import Sabotage.Command.Invocation
import Sabotage.Random.MersenneTwister
import Sabotage.Text.Utf8Fault

/-!
# The injection command

The command plans an injection, carries it out and fetches a taunt. Planning reads the settings and
the file and changes nothing but that the directory for backups is made; carrying out writes the
file and enters the injection into the history. A dry run stops between the two.
-/

namespace Sabotage.Command

/-- An injection that is planned: the number of bugs asked for, and what they do to the file. -/
structure InjectPlan where
  requested : Int
  injection : Injection

/-- What is told of an injection. -/
structure InjectReport where
  file : String
  plan : InjectPlan
  written : Bool
  dryRun : Bool
  backup? : Option String
  taunt? : Option Text.Spelling

namespace InjectReport

/-- A text or `null`. -/
def optional (text? : Option Text.Spelling) : Json :=
  match text? with
  | some text => .str text
  | none => .null

/-- The changed lines. -/
def changeJson : Option Text.ChangeRange → Json
  | none => .null
  | some c => .obj [("start_line", .int c.firstLine), ("end_line", .int c.lastLine),
      ("before_snippet", .str c.before), ("after_snippet", .str c.after)]

/-- A report as a value. -/
def toJson (r : InjectReport) : Json :=
  let i := r.plan.injection
  .obj [("status", .str "ok"), ("file", .str r.file), ("requested", .int r.plan.requested),
    ("applied", .arr (i.applied.map fun k => .str k.name)),
    ("nothing_to_break", .bool i.nothingToBreak), ("written", .bool r.written),
    ("dry_run", .bool r.dryRun), ("backup_path", optional (r.backup?.map Text.Spelling.ofString)),
    ("diff", changeJson i.change?), ("roast", optional r.taunt?)]

/-- The line about the changed lines. -/
def changeLine (c : Text.ChangeRange) : Piece :=
  .markup s!"[dim]Lines {c.firstLine}-{c.lastLine}[/dim]"

/-- The line with the taunt. -/
def tauntLine (taunt : Text.Spelling) : Piece :=
  .markup ("\n🦆 [italic]" ++ Text.Markup.escape taunt ++ "[/italic]")

/-- A report in sentences. -/
def sentences (r : InjectReport) : List Piece :=
  let i := r.plan.injection
  let file := Text.Markup.escape r.file
  if i.nothingToBreak then [.markup ("[yellow]Nothing to break in " ++ file ++ "[/yellow]")]
  else
    let verb := if r.dryRun then "Would inject" else "Injected"
    .markup (s!"[green]✓[/green] {verb} {i.applied.length} bug(s) into [cyan]" ++ file
        ++ "[/cyan]")
      :: i.applied.map (fun k => .markup s!"  - {k.name}")
      ++ (i.change?.map changeLine).toList
      ++ (r.taunt?.filter (!·.isEmpty)).toList.map tauntLine

/-- What is said of an injection. -/
def pieces (r : InjectReport) (asValue : Bool) : List Piece :=
  if asValue then [.value .compact r.toJson] else r.sentences

end InjectReport

namespace Inject

/-- The file named, as it is written everywhere. -/
def fileOf (o : InjectOptions) : String :=
  (Path.ofString o.file).toString

/-- A complaint about the file. -/
def complaint (o : InjectOptions) (code message : String) : Halt :=
  .complaint o.asValue (.about code message (fileOf o))

/-- Why a file cannot be read, in words. -/
def reasonOf (s : Surroundings) (d : Disk) (file : String) : ReadError → String
  | .disk e => e.message file
  | .notText =>
    match d.read s.here file with
    | .ok bytes => ((Bytes.utf8Fault? bytes).map (Bytes.Utf8Fault.message bytes)).getD ""
    | .error e => e.message file

/-- What a failed injection ends with. -/
def haltOf (o : InjectOptions) : InjectionError → Halt
  | .parse f => complaint o "PARSE_FAILURE" f.message
  | .unparsable line => complaint o "PRINTER_FAILURE" (unparsableMessage line)
  | .unsupported name =>
    complaint o "UNSUPPORTED_LANGUAGE" (Language.unsupportedMessage name)
  | e => .crash (.injection e)

/-- The number of bugs asked for. -/
def requested (o : InjectOptions) (settings : Settings) : Except Settings.CountError Int :=
  match o.bugs? with
  | some n => .ok (Settings.clamp n)
  | none => settings.bugsPerRun

/-- The random source of a run. -/
def randomOf (s : Surroundings) (o : InjectOptions) : MersenneTwister :=
  .ofSeed (o.seed?.getD s.seed)

/-- Plans the injection into a text. -/
def planFor (s : Surroundings) (o : InjectOptions) (settings : Settings) (count : Int)
    (code : String) : Except Halt InjectPlan :=
  let request : InjectionRequest :=
    ⟨code, count, none, some (fileOf o), settings.get "mutation.weights"⟩
  match (inject s.parser request (randomOf s o)).1 with
  | .ok i => .ok ⟨count, i⟩
  | .error e => .error (haltOf o e)

/-- The editor in force. -/
def editorOf (s : Surroundings) (settings : Settings) : Editor :=
  s.editor (settings.switchedOn "backup.enabled")

/-- Plans the injection. The disk that is left has the directory for backups. -/
def plan (s : Surroundings) (o : InjectOptions) (settings : Settings) (d : Disk) :
    Except Halt InjectPlan × Disk :=
  match requested o settings with
  | .error e => (.error (.crash (.count e)), d)
  | .ok count =>
    match (editorOf s settings).prepare d with
    | .error e => (.error (.crash (.disk e)), d)
    | .ok d =>
      match d.readText s.here (fileOf o) with
      | .error (.disk .badName) => (.error (.crash (.disk .badName)), d)
      | .error e =>
        (.error (complaint o "FILE_READ_ERROR"
          s!"Failed to read {fileOf o}: {reasonOf s d (fileOf o) e}"), d)
      | .ok code => (planFor s o settings count code, d)

/-- What carrying out a plan gives: whether the file was written, and the path of the backup. -/
abbrev Done := Editor.Written

/-- Enters an injection into the history, when there is one and lines have changed. -/
def remember (s : Surroundings) (o : InjectOptions) (settings : Settings) (i : Injection)
    (b : Workbench) : Except DiskError Workbench :=
  match i.change?, settings.switchedOn "history.enabled" with
  | some change, true =>
    match s.ledger.prepare b.disk with
    | .error e => .error e
    | .ok disk => .ok ({ b with disk }.recordInjection s.ledger (fileOf o) i.applied change)
  | _, _ => .ok b

/-- Carries out a plan, unless there is nothing to do or the run is dry. -/
def carryOut (s : Surroundings) (o : InjectOptions) (settings : Settings) (p : InjectPlan)
    (b : Workbench) : Except Halt Done × Workbench :=
  if p.injection.nothingToBreak || o.dryRun then (.ok ⟨false, none⟩, b)
  else
    match b.replace .none (editorOf s settings) (fileOf o) p.injection.code with
    | .error e => (.error (.crash (.disk e)), b)
    | .ok (⟨false, _⟩, b) =>
      (.error (complaint o "WRITE_FAILED" s!"Failed to write {fileOf o}"), b)
    | .ok (written, b) =>
      match remember s o settings p.injection b with
      | .error e => (.error (.crash (.disk e)), b)
      | .ok b => (.ok written, b)

/-- Fetches a taunt about bugs, if one is wanted. -/
def taunt (s : Surroundings) (o : InjectOptions) (settings : Settings) (bugs : List BugKind) :
    Except Commentary.RoastError (Option Text.Spelling) × List Commentary.Request :=
  if bugs.isEmpty || o.quiet || !settings.switchedOn "commentary.enabled" then (.ok none, [])
  else
    let (line, asked?) :=
      Commentary.roast (s.commentary settings) (bugs.map (Text.Spelling.ofString ·.name)) s.service
    (line.map some, asked?.toList)

/-- Carries out a plan, fetches the taunt and reports. -/
def finish (s : Surroundings) (o : InjectOptions) (settings : Settings) (p : InjectPlan)
    (asValue : Bool) (b : Workbench) : Ending :=
  match carryOut s o settings p b with
  | (.error halt, b) => .early halt b
  | (.ok done, b) =>
    let (taunt, requests) := taunt s o settings p.injection.applied
    match taunt with
    | .error e => { Ending.early (.crash (.commentary e)) b with requests }
    | .ok taunt? =>
      let report : InjectReport :=
        ⟨fileOf o, p, done.success, o.dryRun, done.backup?, taunt?⟩
      { Ending.well (report.pieces asValue) b with requests }

/-- The injection command. -/
def run (s : Surroundings) (o : InjectOptions) (mode : Mode) (b : Workbench) : Ending :=
  let settings := s.settings b.disk
  let (plan, disk) := plan s o settings b.disk
  let b := { b with disk }
  match plan with
  | .error halt => .early halt b
  | .ok p => finish s o settings p (o.asValue || mode = .machine) b

end Inject

end Sabotage.Command
