import Sabotage.Command.Arguments
import Sabotage.Command.Console
import Sabotage.Decimal.Figure

/-!
# Invocations

The commands there are, with what each is given. `Invocation.ofWords` reads a whole command line:
options for all commands first, then the name of a command, then its own options and arguments.
-/

namespace Sabotage.Command

/-- What the injection command is given. -/
structure InjectOptions where
  file : String
  bugs? : Option Int
  seed? : Option Int
  dryRun : Bool
  quiet : Bool
  asValue : Bool
  deriving DecidableEq, Repr

/-- A command with what it is given. -/
inductive Invocation where
  | help
  | version
  | inject (r : InjectOptions)
  | restore (file : String) (asValue : Bool)
  | kinds (asValue : Bool)
  | watch (directory : String) (seed? : Option Int) (quiet : Bool)
  | history (limit : Int) (asValue : Bool)
  | stats (asValue : Bool)
  | showSetting (key? : Option String)
  | assignSetting (key value : String) (isGlobal : Bool)
  deriving DecidableEq, Repr

/-- What holds for every command. -/
structure Globals where
  human : Bool
  verbose : Bool
  deriving DecidableEq, Repr

namespace Invocation

/-- How many entries of the history are shown. -/
def defaultLimit : Int := 10

/-- Asks for help, with every command. -/
def helpOption : OptionSpec := .switch "--help" none

/-- Asks for a value instead of sentences. -/
def jsonOption : OptionSpec := .switch "--json" none

/-- An option that is an integer. -/
def integer? (a : Arguments) (long : String) : Except UsageError (Option Int) :=
  match a.value? long with
  | none => .ok none
  | some text =>
    match Figure.readInt? text with
    | some n => .ok (some n)
    | none => .error (.badInteger text)

/-- Reads the words of a command that takes from `least` to `most` positional arguments. -/
def readWith (specs : List OptionSpec) (least most : Nat) (words : List String)
    (build : Arguments → Except UsageError Invocation) : Except UsageError Invocation :=
  match Arguments.read (helpOption :: specs) false words with
  | .error e => .error e
  | .ok a =>
    if a.has helpOption.long then .ok .help
    else if a.positional.length < least then .error .missingArgument
    else
      match a.positional.drop most with
      | extra :: _ => .error (.extraArgument extra)
      | [] => build a

/-- The positional argument of an index; empty when there is none. -/
def argument (a : Arguments) (i : Nat) : String :=
  a.positional.getD i ""

/-- Reads the injection command. -/
def readInject (words : List String) : Except UsageError Invocation :=
  readWith [.valued "--bugs" (some 'n'), .valued "--seed" none, .switch "--dry-run" none,
      .switch "--no-roast" none, jsonOption] 1 1 words fun a =>
    match integer? a "--bugs", integer? a "--seed" with
    | .ok bugs?, .ok seed? =>
      .ok (.inject ⟨argument a 0, bugs?, seed?, a.has "--dry-run", a.has "--no-roast",
        a.has jsonOption.long⟩)
    | .error e, _ | _, .error e => .error e

/-- Reads the watch command. -/
def readWatch (words : List String) : Except UsageError Invocation :=
  readWith [.valued "--seed" none, .switch "--no-roast" none] 0 1 words fun a =>
    (integer? a "--seed").map fun seed? =>
      .watch (a.positional.headD ".") seed? (a.has "--no-roast")

/-- Reads the history command. -/
def readHistory (words : List String) : Except UsageError Invocation :=
  readWith [.valued "--limit" (some 'n'), jsonOption] 0 0 words fun a =>
    (integer? a "--limit").map fun limit? =>
      .history (limit?.getD defaultLimit) (a.has jsonOption.long)

/-- Reads a command of the settings. -/
def readSettings (words : List String) : Except UsageError Invocation :=
  match Arguments.read [helpOption] true words with
  | .error e => .error e
  | .ok a =>
    if a.has helpOption.long then .ok .help
    else
      match a.positional with
      | [] => .error .missingCommand
      | "show" :: rest => readWith [] 0 1 rest fun a => .ok (.showSetting a.positional.head?)
      | "set" :: rest =>
        readWith [.switch "--global" (some 'g')] 2 2 rest fun a =>
          .ok (.assignSetting (argument a 0) (argument a 1) (a.has "--global"))
      | name :: _ => .error (.unknownCommand name)

/-- Reads a command by its name; none when there is no such command. -/
def readCommand? (name : String) (words : List String) : Option (Except UsageError Invocation) :=
  match name with
  | "inject" => some (readInject words)
  | "restore" =>
    some (readWith [jsonOption] 1 1 words fun a =>
      .ok (.restore (argument a 0) (a.has jsonOption.long)))
  | "kinds" => some (readWith [jsonOption] 0 0 words fun a => .ok (.kinds (a.has jsonOption.long)))
  | "watch" => some (readWatch words)
  | "history" => some (readHistory words)
  | "stats" => some (readWith [jsonOption] 0 0 words fun a => .ok (.stats (a.has jsonOption.long)))
  | "config" => some (readSettings words)
  | "version" => some (readWith [] 0 0 words fun _ => .ok .version)
  | _ => none

/-- What a command line begins with: the options for all commands, and the command. -/
structure Opening where
  globals : Globals
  /-- The command, unless there is none because help is asked for. -/
  command : Except UsageError Invocation

/-- Reads a command line. An error before the command is known is told apart from one in the words
of the command. -/
def ofWords (words : List String) : Except UsageError Opening :=
  match Arguments.read [helpOption, .switch "--human" (some 'H'), .switch "--verbose" (some 'v')]
      true words with
  | .error e => .error e
  | .ok a =>
    let globals : Globals := ⟨a.has "--human", a.has "--verbose"⟩
    if a.has helpOption.long then .ok ⟨globals, .ok .help⟩
    else
      match a.positional with
      | [] => .error .missingCommand
      | name :: rest =>
        match readCommand? name rest with
        | some command => .ok ⟨globals, command⟩
        | none => .error (.unknownCommand name)

end Invocation

end Sabotage.Command
