import Sabotage.Command.Ending
import Sabotage.Random.MersenneTwister
import Sabotage.Watch.Session

/-!
# The watch command

The command says what it watches, goes on until it is stopped, and says then what it has done.
-/

namespace Sabotage.Command.Watching

open Watch

/-- The session of the command. -/
abbrev State := Session MersenneTwister

/-- The directory named, as it is written everywhere. -/
def directoryOf (directory : String) : Path :=
  Path.ofString directory

/-- What is said at the beginning. -/
def greeting (directory : String) : Piece :=
  .markup ("[bold]🦆 Watching " ++ Text.Markup.escape (directoryOf directory).toString
    ++ "[/bold] (Ctrl+C to stop)")

/-- Begins a session. -/
def begin (s : Surroundings) (directory : String) (seed? : Option Int) (quiet : Bool)
    (b : Workbench) : Except DiskError State :=
  let project := (directoryOf directory).locate s.here
  match Watcher.ofSurroundings s project debounceDelay (!quiet) b with
  | .error e => .error e
  | .ok (watcher, b) => .ok (.start watcher b (MersenneTwister.ofSeed (seed?.getD s.seed)))

/-- What is said at the end. -/
def summary (mode : Mode) (state : State) : Piece :=
  let events := state.state.events
  let injections := state.state.injections
  match mode with
  | .machine => .value .compact (.obj [("status", .str "ok"), ("events", .int events),
      ("injections", .int injections)])
  | .human => .markup s!"Injected into {injections} save(s)"

/-- What stops a watcher, as a failure of the command. -/
def crashOf : WatchError → Crash
  | .disk e => .disk e
  | .injection e => .injection e

/-- The end of a session. -/
def close (mode : Mode) (result : Except WatchError Unit) (state : State) : Ending :=
  let requests := state.state.requests.reverse
  let bench := state.state.bench
  match result with
  | .error e => { Ending.early (.crash (crashOf e)) bench with requests }
  | .ok () => { Ending.well [summary mode state] bench with requests }

/-- The watch command, through the pauses given. -/
def run (s : Surroundings) (directory : String) (seed? : Option Int) (quiet : Bool)
    (pauses : List (List Happening)) (mode : Mode) (b : Workbench) : Ending :=
  .after [greeting directory] <|
    match begin s directory seed? quiet b with
    | .error e => .early (.crash (.disk e)) b
    | .ok state =>
      let (result, state) := state.run pauses
      close mode result state

end Sabotage.Command.Watching
