import Sabotage.Edit
import Sabotage.Syntax.Language
import Sabotage.Syntax.Node

/-!
# Drafts

A draft is a source text under change, with its current parse and the number of changes made. The
parser is a parameter. `Draft.parse` refuses a text with faults. `Draft.splice` carries out edits
and parses again; whatever lies outside the edited ranges stays byte for byte. `Draft.rollback`
goes back to a state kept by `Draft.checkpoint`.
-/

namespace Sabotage

/-- What a text of a language parses to. -/
abbrev Parser := Language → Bytes → Node

/-- Why an operation on a draft fails. -/
inductive DraftError where
  /-- Two edits of one splice overlap. -/
  | overlap (edit : Edit)
  /-- A range of the source is not a text. -/
  | notText
  /-- An operator is to be replaced by nothing right beside an operator character. -/
  | emptyOperator
  /-- A binary expression has no operator. -/
  | noOperator
  deriving Repr

/-- A source text under change. -/
structure Draft where
  language : Language
  path? : Option String
  source : Bytes
  root : Node
  edits : Nat

/-- The first fault of a source, its line and column counted from one. -/
structure ParseFailure where
  path? : Option String
  missing : Bool
  line : Nat
  column : Nat
  deriving DecidableEq, Repr

/-- The name of a file in messages. -/
def displayPath (path? : Option String) : String :=
  match path? with
  | none | some "" => "<buffer>"
  | some p => p

/-- The text of a parse failure. -/
def ParseFailure.message (f : ParseFailure) : String :=
  s!"Failed to parse {displayPath f.path?}: "
    ++ (if f.missing then "missing token" else "syntax error")
    ++ s!" at line {f.line}, column {f.column}"

/-- The state of a draft that a rollback leads back to. -/
structure Checkpoint where
  source : Bytes
  edits : Nat

/-- The line, counted from one, of an offset. -/
def Bytes.lineAt (source : Bytes) (offset : Nat) : Nat :=
  Bytes.lineFeeds (source.take offset) + 1

/-- The column in bytes, counted from one, of an offset. -/
def Bytes.columnAt (source : Bytes) (offset : Nat) : Nat :=
  ((source.take offset).reverse.takeWhile (· != 10)).length + 1

namespace Draft

/-- A draft of a text, whatever its parse looks like. -/
def ofSource (parser : Parser) (language : Language) (path? : Option String) (source : Bytes) :
    Draft :=
  ⟨language, path?, source, parser language source, 0⟩

/-- The sites of the current parse in source order. -/
def sites (d : Draft) : List Site :=
  d.root.sites

/-- The sites of the given kinds. -/
def sitesOf (d : Draft) (kinds : List String) : List Site :=
  d.sites.filter fun s => kinds.contains s.node.kind

/-- The nodes that stand for faults, in source order. -/
def faults (d : Draft) : List Node :=
  (Node.walk [d.root]).filter Node.isFault

/-- The text of the whole source. -/
def text (d : Draft) : Except DraftError String :=
  match Bytes.toString? d.source with
  | some s => .ok s
  | none => .error .notText

/-- The text of a node. -/
def textOf (d : Draft) (n : Node) : Except DraftError String :=
  match Bytes.toString? (d.source.cut n.start n.stop) with
  | some s => .ok s
  | none => .error .notText

/-- A draft of a text without faults. -/
def parse (parser : Parser) (language : Language) (path? : Option String) (source : String) :
    Except ParseFailure Draft :=
  let d := ofSource parser language path? (Bytes.ofString source)
  match d.faults with
  | [] => .ok d
  | n :: _ => .error ⟨path?, n.missing, d.source.lineAt n.start, d.source.columnAt n.start⟩

/-- Carries out edits, parses again and counts one change. -/
def splice (parser : Parser) (edits : List Edit) (d : Draft) : Except DraftError Draft :=
  match Edit.applyAll edits d.source with
  | .ok source =>
    .ok { d with source, root := parser d.language source, edits := d.edits + 1 }
  | .error e => .error (.overlap e)

/-- What a rollback needs. -/
def checkpoint (d : Draft) : Checkpoint :=
  ⟨d.source, d.edits⟩

/-- Goes back to a checkpoint. -/
def rollback (parser : Parser) (c : Checkpoint) (d : Draft) : Draft :=
  { d with source := c.source, root := parser d.language c.source, edits := c.edits }

/-- The edit that puts a text in place of a node. -/
def replacement (n : Node) (text : String) : Edit :=
  ⟨n.start, n.stop, text⟩

/-- Whether the parse is the one of the source. -/
def Coherent (parser : Parser) (d : Draft) : Prop :=
  d.root = parser d.language d.source

/-- A new draft is coherent. -/
theorem coherent_ofSource (parser : Parser) (l : Language) (p : Option String) (b : Bytes) :
    Coherent parser (ofSource parser l p b) := rfl

/-- Rolling a coherent draft's change back gives the draft. -/
theorem rollback_checkpoint {parser : Parser} {d d' : Draft} {edits : List Edit}
    (hd : Coherent parser d) (h : splice parser edits d = .ok d') :
    rollback parser d.checkpoint d' = d := by
  simp only [splice] at h
  split at h
  · cases h
    simp only [rollback, checkpoint]
    rw [← hd]
  · cases h

end Draft

end Sabotage
