import Sabotage.Digest.Sha256
import Sabotage.Surroundings
import Sabotage.Watch.Watcher

/-!
# Watch sessions

A session watches a project until it is stopped. It goes on in pauses of equal length; during a
pause files are written, events come in or somebody asks the session to stop, and after each pause
the saves that are due are processed, also after the pause in which the session was asked to stop.
-/

namespace Sabotage.Watch

/-- How long a path has to be quiet, in seconds. -/
def debounceDelay : Float := 0.5

/-- How long a pause is, in seconds. -/
def pauseLength : Float := 0.25

/-- The mark of a content: its digest. -/
def digestMark (content : String) : String :=
  Sha256.hexDigest (Bytes.ofString content)

/-- Gets a watcher of a project ready: its editor, and its ledger if there is to be a history. -/
def Watcher.ofSurroundings (s : Surroundings) (project : Location) (delay : Float)
    (taunts : Bool) (b : Workbench) : Except DiskError (Watcher String Float × Workbench) :=
  let settings := s.settings b.disk
  let editor := s.editor (settings.switchedOn "backup.enabled")
  let keepsHistory := settings.switchedOn "history.enabled"
  let ledger? := if keepsHistory then some s.ledger else none
  let commentary? :=
    if taunts && settings.switchedOn "commentary.enabled" then some (s.commentary settings)
    else none
  match editor.prepare b.disk with
  | .error e => .error e
  | .ok disk =>
    match if keepsHistory then s.ledger.prepare disk else .ok disk with
    | .error e => .error e
    | .ok disk =>
      .ok (⟨s.parser, s.here, project, settings, editor, ledger?, digestMark, delay, commentary?⟩,
        { b with disk })

/-- Something that happens during a pause. -/
inductive Happening where
  /-- Somebody writes a file. -/
  | write (path : String) (content : Bytes)
  | event (e : FileEvent)
  /-- The session is asked to stop. -/
  | stop

/-- A session: its watcher, the state of it, the time in seconds, and whether it was asked to
stop. -/
structure Session (σ : Type) where
  watcher : Watcher String Float
  state : WatchState String Float σ
  now : Float
  stopping : Bool

namespace Session

variable {σ : Type}

/-- A session that begins. -/
def start (w : Watcher String Float) (b : Workbench) (random : σ) : Session σ :=
  ⟨w, .start b random, 0, false⟩

/-- The disk after somebody wrote a file, with the directories above it. -/
def writeFile (here : Location) (d : Disk) (path : String) (content : Bytes) : Disk :=
  let made := match d.makePath here (Path.ofString path).parent with
    | .ok d => d
    | .error _ => d
  match made.write here path content with
  | .ok d => d
  | .error _ => d

/-- Something happens. -/
def happen (s : Session σ) : Happening → Session σ
  | .write path content =>
    let bench := s.state.bench
    let disk := writeFile s.watcher.here bench.disk path content
    { s with state := { s.state with bench := { bench with disk } } }
  | .event e => { s with state := s.watcher.track e s.now s.state }
  | .stop => { s with stopping := true }

/-- Time goes by, things happen. -/
def pause (s : Session σ) (happenings : List Happening) : Session σ :=
  happenings.foldl happen { s with now := s.now + pauseLength }

/-- Processes the saves that are due. -/
def flush [WordSource σ] (s : Session σ) : Except WatchError Unit × Session σ :=
  match s.watcher.flush false s.now s.state with
  | (.error e, state) => (.error e, { s with state })
  | (.ok _, state) => (.ok (), { s with state })

/-- Goes on pause by pause, until the session is asked to stop or there are no more pauses. -/
def run [WordSource σ] : Session σ → List (List Happening) → Except WatchError Unit × Session σ
  | s, [] => (.ok (), s)
  | s, happenings :: rest =>
    match (s.pause happenings).flush with
    | (.error e, s) => (.error e, s)
    | (.ok (), s) => if s.stopping then (.ok (), s) else run s rest

end Session

end Sabotage.Watch
