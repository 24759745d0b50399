import Sabotage.Json.Display
import Sabotage.Json.Printer
import Sabotage.Text.ControlSequence
import Sabotage.Text.Grid
import Sabotage.Text.Highlight
import Sabotage.Text.Markup
import Sabotage.Text.Wrap

/-!
# The console

Output is for machines or for people. Commands say pieces: text with markup, values, tables, lines
that come out without markup. `Console.present` gives what comes out. For machines, markup is taken
out and tables do not show; for people, markup is carried out, long lines are wrapped and broad
tables are narrowed. Half characters cannot be written.
-/

namespace Sabotage.Command

/-- Whom output is for. -/
inductive Mode where
  | machine | human
  deriving DecidableEq, Repr

/-- The mode: the one asked for, or the one of a variable, or the one for machines. -/
def Mode.choose (asked? : Option Mode) (fromEnvironment : Option String) : Mode :=
  match asked? with
  | some mode => mode
  | none =>
    if ["1", "true", "yes"].contains (fromEnvironment.getD "").toLower then .human else .machine

/-- A piece of what a command says. -/
inductive Piece where
  | markup (text : Text.Spelling)
  /-- A line without markup. -/
  | line (text : String)
  | value (style : Json.Style) (j : Json)
  | table (title : String) (columns : List String) (rows : List (List String))

/-- What comes out. -/
inductive Output where
  /-- A text that is followed by a line break. -/
  | text (s : String)
  | table (title : String) (columns : List String) (rows : List (List String))
  deriving DecidableEq, Repr

/-- Why a piece does not come out. -/
inductive SayError where
  | markup (e : Text.Markup.MarkupError)
  /-- The text holds a half character. -/
  | halfCharacter
  deriving DecidableEq, Repr

namespace Console

/-- The number of columns for people. -/
def columns : Nat := 200

/-- How values are laid out: on one line for machines, indented for people. -/
def valueStyle : Mode → Json.Style
  | .machine => .compact
  | .human => .pretty

/-- A text that is written without the terminal's control sequences. -/
def plainLine (text : String) : Output :=
  .text (Text.ControlSequence.drop text)

/-- The text that is spelled, which can be written only if there are no halves in it. -/
def writable (text : Text.Spelling) : Except SayError String :=
  match text.toString? with
  | some s => .ok s
  | none => .error .halfCharacter

/-- The lines of what markup shows. Values are highlighted where the pieces of a text may take more
columns than the text. -/
def linesOf (shown : String) (styled : List Text.Stretch) : List String :=
  let cs := shown.toList
  let values := if cs.all Text.standsAlone then [] else Text.Highlight.stretches cs
  Text.Wrap.wrap columns ⟨cs, values ++ styled⟩

/-- A piece of text as it comes out. -/
def presentMarkup (mode : Mode) (text : Text.Spelling) : Except SayError (List Output) :=
  match mode with
  | .machine =>
    (writable (Text.Markup.strip text)).map fun plain =>
      if plain = "" then [] else [plainLine plain]
  | .human =>
    match Text.Markup.render text with
    | .ok shown => (writable shown.text).map fun text => (linesOf text shown.stretches).map .text
    | .error e => .error (.markup e)

/-- A table as it comes out. -/
def presentTable (title : String) (header : List String) (rows : List (List String)) : Output :=
  match Text.Grid.fit columns (header :: rows) with
  | header :: rows => .table title header rows
  | [] => .table title header rows

/-- A piece as it comes out, if it can be written. -/
def presentPiece (mode : Mode) : Piece → Except SayError (List Output)
  | .markup text => presentMarkup mode text
  | .line text => .ok [plainLine text]
  | .value style j => (writable (j.render style)).map fun text => [plainLine text]
  | .table title header rows =>
    match mode with
    | .machine => .ok []
    | .human => .ok [presentTable title header rows]

/-- Pieces as they come out, up to the first that does not. -/
def present (mode : Mode) : List Piece → List Output × Option SayError
  | [] => ([], none)
  | piece :: rest =>
    match presentPiece mode piece with
    | .error e => ([], some e)
    | .ok out =>
      let (more, error?) := present mode rest
      (out ++ more, error?)

/-- Any value as a piece: a text is markup, and what counts as false is not said. -/
def pieceOf? : Json → Option Piece
  | .str s => some (.markup s)
  | j => if j.truthy then some (.line j.literal) else none

/-- The lines of what comes out; tables are not lines. -/
def textOf (out : List Output) : String :=
  String.join (out.map fun
    | .text s => s ++ "\n"
    | .table .. => "")

end Console

end Sabotage.Command
