import Sabotage.Table

/-!
# Arguments

The words of a command line are options and positional arguments. An option begins with two
hyphens, and its value is the word after it or stands behind an equals sign; short options of one
hyphen and one letter may be put together, and the rest of such a word is the value of the first
one that takes a value. After a word of two hyphens alone everything is positional.
-/

namespace Sabotage.Command

/-- An option. -/
structure OptionSpec where
  /-- Its name, hyphens included. -/
  long : String
  /-- The letter of its short form. -/
  short? : Option Char
  takesValue : Bool
  deriving DecidableEq, Repr

/-- A switch. -/
def OptionSpec.switch (long : String) (short? : Option Char) : OptionSpec := ⟨long, short?, false⟩

/-- An option with a value. -/
def OptionSpec.valued (long : String) (short? : Option Char) : OptionSpec := ⟨long, short?, true⟩

/-- Why a command line is refused. -/
inductive UsageError where
  | unknownOption (text : String)
  | missingValue (option : String)
  | unexpectedValue (option : String)
  | badInteger (text : String)
  | missingArgument
  | extraArgument (text : String)
  | missingCommand
  | unknownCommand (text : String)
  | badFile (text : String)
  deriving DecidableEq, Repr

/-- The options given, of each the last value, and the positional arguments. A switch has the empty
value. -/
structure Arguments where
  given : Table String String
  positional : List String
  deriving DecidableEq, Repr

namespace Arguments

/-- No words. -/
def none : Arguments := ⟨[], []⟩

/-- Whether an option is given. -/
def has (a : Arguments) (long : String) : Bool :=
  (Table.lookup long a.given).isSome

/-- The value of an option. -/
def value? (a : Arguments) (long : String) : Option String :=
  Table.lookup long a.given

/-- One more option. -/
def give (a : Arguments) (long value : String) : Arguments :=
  { a with given := Table.assign long value a.given }

/-- What a word with options amounts to: the arguments, and the option that waits for its value. -/
abbrev Read := Except UsageError (Arguments × Option String)

/-- Reads the letters of short options. -/
def readShort (specs : List OptionSpec) : List Char → Arguments → Read
  | [], a => .ok (a, Option.none)
  | c :: cs, a =>
    match specs.find? (·.short? = some c) with
    | Option.none => .error (.unknownOption (String.ofList ['-', c]))
    | some spec =>
      if !spec.takesValue then readShort specs cs (a.give spec.long "")
      else if cs.isEmpty then .ok (a, some spec.long)
      else .ok (a.give spec.long (String.ofList cs), Option.none)

/-- Splits a word at its first equals sign. -/
def splitValue (word : List Char) : String × Option String :=
  match word.span (· != '=') with
  | (name, _ :: value) => (String.ofList name, some (String.ofList value))
  | (name, []) => (String.ofList name, Option.none)

/-- Reads a word with options. -/
def readWord (specs : List OptionSpec) (word : String) (a : Arguments) : Read :=
  let (name, value?) := splitValue word.toList
  match specs.find? (·.long = name), value? with
  | some spec, some value =>
    if spec.takesValue then .ok (a.give name value, Option.none)
    else .error (.unexpectedValue name)
  | some spec, Option.none =>
    if spec.takesValue then .ok (a, some name) else .ok (a.give name "", Option.none)
  | Option.none, _ =>
    if word.startsWith "--" then .error (.unknownOption name)
    else readShort specs (word.toList.drop 1) a

/-- Reads the words of a command line. With `early`, everything from the first positional argument
on is positional. -/
def scan (specs : List OptionSpec) (early : Bool) : List String → Arguments →
    Except UsageError Arguments
  | [], a => .ok a
  | word :: rest, a =>
    if word = "--" then .ok { a with positional := a.positional ++ rest }
    else if word.startsWith "-" && word != "-" then
      match readWord specs word a with
      | .error e => .error e
      | .ok (a, Option.none) => scan specs early rest a
      | .ok (a, some long) =>
        match rest with
        | [] => .error (.missingValue long)
        | value :: rest => scan specs early rest (a.give long value)
    else if early then .ok { a with positional := word :: rest }
    else scan specs early rest { a with positional := a.positional ++ [word] }

/-- Reads the words of a command line. -/
def read (specs : List OptionSpec) (early : Bool) (words : List String) :
    Except UsageError Arguments :=
  scan specs early words none

end Arguments

end Sabotage.Command
