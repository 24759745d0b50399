import Sabotage.Command.Console

/-!
# Complaints

A command that cannot do what it is asked to says so with a code, a message and perhaps the input
in question, other inputs to try and a remedy.
-/

namespace Sabotage.Command

/-- A complaint. -/
structure Complaint where
  code : String
  message : String
  input : String
  suggestions : List Json
  remedy : String

namespace Complaint

/-- A complaint about an input. -/
def about (code message input : String) : Complaint :=
  ⟨code, message, input, [], ""⟩

/-- A field for a text, if it is not empty. -/
def textField (name text : String) : Json.Fields :=
  if text = "" then [] else [(name, .str text)]

/-- A complaint as a value. What is empty is left out. -/
def toJson (c : Complaint) : Json :=
  let given : Json.Fields :=
    [("status", .str "error"), ("code", .str c.code), ("message", .str c.message)]
  let suggested : Json.Fields :=
    if c.suggestions.isEmpty then [] else [("suggestions", .arr c.suggestions)]
  .obj (given ++ textField "input" c.input ++ suggested
    ++ textField "actionable_fix" c.remedy)

/-- What is said of a complaint, as a value or in a sentence. -/
def pieces (c : Complaint) (asValue : Bool) : List Piece :=
  if asValue then [.value .compact c.toJson]
  else
    .markup s!"[red]Error: {c.message}[/red]"
      :: (if c.remedy = "" then [] else [.markup s!"[dim]Try: {c.remedy}[/dim]"])

end Complaint

end Sabotage.Command
