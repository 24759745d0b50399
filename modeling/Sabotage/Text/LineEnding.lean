/-!
# Line endings

A text uses `crlf` when it holds a carriage return directly before a line feed anywhere, else
`lf`. `normalize` brings a text to one convention; `matchFinalBreak` gives a text a line break at
its end exactly when another text has one.
-/

namespace Sabotage.Text

/-- A line-ending convention. -/
inductive LineEnding where
  | lf
  | crlf
  deriving DecidableEq, Repr

/-- The characters of a line break. -/
def LineEnding.chars : LineEnding → List Char
  | .lf => ['\n']
  | .crlf => ['\r', '\n']

/-- The convention written as text. -/
def LineEnding.text (e : LineEnding) : String :=
  String.ofList e.chars

/-- Whether a carriage return stands directly before a line feed. -/
def hasCrlf : List Char → Bool
  | '\r' :: '\n' :: _ => true
  | _ :: cs => hasCrlf cs
  | [] => false

/-- The convention of a text. -/
def LineEnding.detect (s : String) : LineEnding :=
  if hasCrlf s.toList then .crlf else .lf

/-- Drops each carriage return that stands directly before a line feed. -/
def toLf : List Char → List Char
  | '\r' :: '\n' :: cs => '\n' :: toLf cs
  | c :: cs => c :: toLf cs
  | [] => []

/-- A text in which each line break, of either kind or a carriage return alone, is a line feed. -/
def unifyBreaks : List Char → List Char
  | '\r' :: '\n' :: cs => '\n' :: unifyBreaks cs
  | '\r' :: cs => '\n' :: unifyBreaks cs
  | c :: cs => c :: unifyBreaks cs
  | [] => []

/-- Puts a carriage return before every line feed. -/
def toCrlf : List Char → List Char
  | [] => []
  | c :: cs => if c = '\n' then '\r' :: '\n' :: toCrlf cs else c :: toCrlf cs

/-- The characters of a text in a convention. -/
def normalizeChars (e : LineEnding) (cs : List Char) : List Char :=
  match e with
  | .lf => toLf cs
  | .crlf => toCrlf (toLf cs)

/-- A text in a convention. -/
def normalize (e : LineEnding) (s : String) : String :=
  String.ofList (normalizeChars e s.toList)

/-- Whether a text ends with a line feed. -/
def endsWithBreak (cs : List Char) : Bool :=
  cs.getLast? == some '\n'

/-- The text without the line break at its end. -/
def dropBreak (cs : List Char) : List Char :=
  match cs.reverse with
  | '\n' :: '\r' :: rest => rest.reverse
  | _ :: rest => rest.reverse
  | [] => []

/-- Adds or takes one line break so that `content` ends with a break exactly when `model` does. -/
def matchFinalBreak (model content : String) : String :=
  let wanted := endsWithBreak model.toList
  let present := endsWithBreak content.toList
  if wanted && !present then
    String.ofList (content.toList ++ (LineEnding.detect model).chars)
  else if present && !wanted then String.ofList (dropBreak content.toList)
  else content

end Sabotage.Text
