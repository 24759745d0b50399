import Sabotage.Command.Complaint
import Sabotage.Logging
import Sabotage.Injection

/-!
# How commands end

A command says pieces, changes the workbench, asks the commentary service perhaps, and ends well,
with a complaint, or with a failure that nobody has foreseen a complaint for.
-/

namespace Sabotage.Command

/-- A failure without a complaint. -/
inductive Crash where
  | disk (e : DiskError)
  | editor (e : EditorError)
  | count (e : Settings.CountError)
  | injection (e : InjectionError)
  | limit (e : LimitError)
  /-- A value with an integer of too many digits. -/
  | tooManyDigits
  /-- A value nested in too many levels. -/
  | tooDeep
  | assign (e : Settings.AssignError)
  | commentary (e : Commentary.RoastError)
  | say (e : SayError)
  | log (e : LogSetupError)

/-- Why a command ends early. -/
inductive Halt where
  | complaint (asValue : Bool) (c : Complaint)
  | crash (c : Crash)

/-- What a command leaves. -/
structure Ending where
  said : List Piece
  halt? : Option Halt
  bench : Workbench
  requests : List Commentary.Request

namespace Ending

/-- A command that ends well. -/
def well (said : List Piece) (bench : Workbench) : Ending :=
  ⟨said, none, bench, []⟩

/-- A command that ends early, with nothing said. -/
def early (halt : Halt) (bench : Workbench) : Ending :=
  ⟨[], some halt, bench, []⟩

/-- A command that says pieces before it goes on to an ending. -/
def after (said : List Piece) (e : Ending) : Ending :=
  { e with said := said ++ e.said }

end Ending

/-- How a command line ends. -/
inductive Status where
  | well | complaint | usage
  | crash (c : Crash)

/-- The number a status is reported as. -/
def Status.code : Status → Nat
  | .well => 0
  | .complaint | .crash _ => 1
  | .usage => 2

/-- What comes out of a command line. -/
structure Outcome where
  output : List Output
  status : Status
  bench : Workbench
  requests : List Commentary.Request

/-- What is said at the end of a command that ends early. -/
def Halt.pieces (mode : Mode) : Halt → List Piece
  | .complaint asValue c => c.pieces (asValue || mode = .machine)
  | .crash _ => []

/-- The status of a command that ends early, or does not. -/
def statusOf : Option Halt → Status
  | none => .well
  | some (.complaint ..) => .complaint
  | some (.crash c) => .crash c

/-- What comes out of a command. A piece that does not come out ends it. -/
def Ending.present (mode : Mode) (e : Ending) : Outcome :=
  let said := e.said ++ (e.halt?.map (Halt.pieces mode)).getD []
  let (output, error?) := Console.present mode said
  let status := match error? with
    | some e => .crash (.say e)
    | none => statusOf e.halt?
  ⟨output, status, e.bench, e.requests⟩

end Sabotage.Command
