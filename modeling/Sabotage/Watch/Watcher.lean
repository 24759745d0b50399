import Sabotage.Commentary.Roast
import Sabotage.Injection
import Sabotage.Settings
import Sabotage.Watch.Guard
import Sabotage.Watch.Ignored
import Sabotage.Watch.Pending
import Sabotage.Workbench

/-!
# The watcher

A watcher puts a few bugs into every source file of a project when it is saved. A save makes the
path of the file wait (`Watcher.track`), and a flush processes what has waited long enough
(`Watcher.flush`). Processing leaves a content alone that the watcher wrote itself, or that it has
seen last at the path; otherwise the content is injected and written back.

The mark of a content, by which contents are compared, the kind of time and the random source are
parameters.
-/

namespace Sabotage.Watch

/-- What becomes of a file. -/
inductive Change where
  | modified (path : String)
  | created (path : String)
  | moved (source target : String)
  deriving DecidableEq, Repr

/-- What the file system tells of. -/
structure FileEvent where
  change : Change
  isDirectory : Bool
  deriving DecidableEq, Repr

/-- The path that holds the content after a change: a file moved is saved at its target. -/
def Change.path : Change → String
  | .modified path | .created path => path
  | .moved _ target => target

/-- What does not change while a watcher runs. -/
structure Watcher (μ τ : Type) where
  parser : Parser
  /-- The directory that relative paths are seen from. -/
  here : Location
  project : Location
  settings : Settings
  editor : Editor
  /-- The ledger, if there is a history. -/
  ledger? : Option Ledger
  mark : String → μ
  delay : τ
  /-- The settings of the commentary service, if it is asked. -/
  commentary? : Option (Json.Fields)

/-- What changes while a watcher runs. -/
structure WatchState (μ τ σ : Type) where
  bench : Workbench
  /-- What becomes of the steps of a replacement. -/
  trouble : Trouble
  random : σ
  guard : Guard μ
  pending : Pending τ
  /-- The mark of the content last seen at each path. -/
  lastSeen : Table String μ
  events : Nat
  injections : Nat
  /-- The requests made to the commentary service, the latest first. -/
  requests : List Commentary.Request

/-- Why processing a file stops the watcher. -/
inductive WatchError where
  | disk (e : DiskError)
  | injection (e : InjectionError)

/-- A watcher that has not seen anything yet. -/
def WatchState.start {μ τ σ : Type} (bench : Workbench) (random : σ) : WatchState μ τ σ :=
  ⟨bench, .none, random, .idle, .empty, [], 0, 0, []⟩

namespace Watcher

variable {μ τ σ : Type}

/-- Remembers the content last seen at a path. -/
def see (w : Watcher μ τ) (path content : String) (s : WatchState μ τ σ) : WatchState μ τ σ :=
  { s with lastSeen := Table.assign path (w.mark content) s.lastSeen }

/-- Takes notice of an event. -/
def track (w : Watcher μ τ) (event : FileEvent) (now : τ) (s : WatchState μ τ σ) :
    WatchState μ τ σ :=
  let path := event.change.path
  if event.isDirectory || isIgnored w.here w.project path then s
  else { s with pending := s.pending.touch path now, events := s.events + 1 }

/-- Asks the commentary service about bugs. The reply only goes to the log. -/
def taunt (w : Watcher μ τ) (bugs : List BugKind) (s : WatchState μ τ σ) : WatchState μ τ σ :=
  match w.commentary? with
  | none => s
  | some config =>
    let names := bugs.map (Text.Spelling.ofString ·.name)
    let (_, asked) := Commentary.roast config names fun _ => .raised
    { s with requests := asked.toList ++ s.requests }

/-- Enters an injection into the history, when there is one and lines have changed. -/
def remember (w : Watcher μ τ) (path : String) (i : Injection) (s : WatchState μ τ σ) :
    WatchState μ τ σ :=
  match w.ledger?, i.change? with
  | some ledger, some change =>
    { s with bench := s.bench.recordInjection ledger path i.applied change }
  | _, _ => s

/-- Writes an injection back. The guard is told before the file is written, and again when it could
not be. The answer says whether the file was written. -/
def writeBack (w : Watcher μ τ) (path : String) (i : Injection) (s : WatchState μ τ σ) :
    Except WatchError Bool × WatchState μ τ σ :=
  let s := { s with guard := s.guard.begin path (w.mark i.code) }
  match s.bench.replace s.trouble w.editor path i.code with
  | .error e => (.error (.disk e), s)
  | .ok (⟨false, _⟩, bench) => (.ok false, { s with bench, guard := s.guard.abort path })
  | .ok (⟨true, _⟩, bench) => (.ok true, { s with bench })

/-- Writes an injection back and, once it is written, counts, remembers and taunts. -/
def conclude (w : Watcher μ τ) (path : String) (i : Injection) (s : WatchState μ τ σ) :
    Except WatchError (Option Injection) × WatchState μ τ σ :=
  if i.nothingToBreak then (.ok (some i), s)
  else
    match w.writeBack path i s with
    | (.error e, s) => (.error e, s)
    | (.ok false, s) => (.ok none, s)
    | (.ok true, s) =>
      let s := w.see path i.code s
      let s := { s with injections := s.injections + 1 }
      (.ok (some i), w.taunt i.applied (w.remember path i s))

/-- What is asked for a content saved at a path. -/
def request (w : Watcher μ τ) (path content : String) (budget : Int) : InjectionRequest :=
  ⟨content, budget, none, some path, w.settings.get "mutation.weights"⟩

section
variable [WordSource σ]

/-- Draws the number of bugs for a save. -/
def drawBudget (w : Watcher μ τ) (random : σ) : Int × σ :=
  match w.settings.bugsPerSave with
  | [] => (1, random)
  | first :: rest => WordSource.pick first rest random

/-- Injects bugs into a new content. A content that does not parse, before or after, is left
alone. -/
def sabotage (w : Watcher μ τ) (path content : String) (s : WatchState μ τ σ) :
    Except WatchError (Option Injection) × WatchState μ τ σ :=
  let (budget, random) := w.drawBudget s.random
  let (result, random) := inject w.parser (w.request path content budget) random
  let s := { s with random }
  match result with
  | .error (.parse _) | .error (.unparsable _) => (.ok none, s)
  | .error e => (.error (.injection e), s)
  | .ok i => w.conclude path i s

variable [DecidableEq μ]

/-- Reacts to a content found at a path, unless it is our own or was the last one seen there. -/
def react (w : Watcher μ τ) (path content : String) (s : WatchState μ τ σ) :
    Except WatchError (Option Injection) × WatchState μ τ σ :=
  let mark := w.mark content
  let (foreign, guard) := s.guard.observe path mark
  let seen := Table.lookup path s.lastSeen
  let s := w.see path content { s with guard }
  if !foreign || seen = some mark then (.ok none, s) else w.sabotage path content s

/-- Processes a file that was saved; none when there is nothing to do. -/
def process (w : Watcher μ τ) (path : String) (s : WatchState μ τ σ) :
    Except WatchError (Option Injection) × WatchState μ τ σ :=
  match s.bench.disk.readText w.here path with
  | .error (.disk .badName) => (.error (.disk .badName), s)
  | .error _ => (.ok none, s)
  | .ok content => w.react path content s

/-- Processes files in order; the first that stops the watcher is the last. -/
def processAll (w : Watcher μ τ) : List String → WatchState μ τ σ →
    Except WatchError Unit × WatchState μ τ σ
  | [], s => (.ok (), s)
  | path :: rest, s =>
    match w.process path s with
    | (.error e, s) => (.error e, s)
    | (.ok _, s) => w.processAll rest s

/-- Processes the paths that are due, which no longer wait then, and answers their number. -/
def flushWhere (w : Watcher μ τ) (isDue : τ → Bool) (s : WatchState μ τ σ) :
    Except WatchError Nat × WatchState μ τ σ :=
  let (due, pending) := s.pending.take isDue
  match w.processAll due { s with pending } with
  | (.error e, s) => (.error e, s)
  | (.ok (), s) => (.ok due.length, s)

/-- Processes the paths that have been quiet for the delay, or all that wait. -/
def flush [Sub τ] [LE τ] [DecidableLE τ] (w : Watcher μ τ) (force : Bool) (now : τ)
    (s : WatchState μ τ σ) : Except WatchError Nat × WatchState μ τ σ :=
  w.flushWhere (fun time => force || Pending.quietFor w.delay now time) s

end

end Watcher

end Sabotage.Watch
