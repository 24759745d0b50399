import Sabotage.Selection
import Sabotage.Text.ChangeRange
import Sabotage.Text.LineEnding

/-!
# Injection

The whole way from a text to the same text with bugs in it: parse, select and apply rules, render
in the line-ending convention of the text given, and find the range of changed lines.
-/

namespace Sabotage

/-- What an injection gives. With no bug put in, the text is the one given and there is no range. -/
structure Injection where
  code : String
  applied : List BugKind
  change? : Option Text.ChangeRange
  language : Language
  deriving Repr

/-- Whether nothing could be broken. -/
def Injection.nothingToBreak (i : Injection) : Bool :=
  i.applied.isEmpty

/-- Why an injection fails. -/
inductive InjectionError where
  | unsupported (language : String)
  | parse (failure : ParseFailure)
  /-- The changed text has a fault on this line. -/
  | unparsable (line : Nat)
  | weight (e : WeightError)
  | draft (e : DraftError)
  deriving Repr

/-- The message about a changed text that does not parse. -/
def unparsableMessage (line : Nat) : String :=
  s!"Mutated source no longer parses near line {line}"

/-- The text of a changed draft, in the line-ending convention of `model` and with a final line
break exactly when it has one. -/
def Draft.render (d : Draft) (model : String) : Except InjectionError String :=
  match d.faults with
  | n :: _ => .error (.unparsable (d.source.lineAt n.start))
  | [] =>
    match d.text with
    | .error e => .error (.draft e)
    | .ok text =>
      .ok (Text.matchFinalBreak model (Text.normalize (.detect model) text))

/-- The rules of a catalog as candidates. -/
def candidates (parser : Parser) (entries : List CatalogEntry) :
    List (Candidate DraftError Draft) :=
  entries.map fun e => ⟨e.kind, e.weight, e.kind.apply parser⟩

/-- What a request asks for. -/
structure InjectionRequest where
  code : String
  budget : Int
  /-- The name of a language; without one, or with an empty one, the path decides. -/
  language? : Option String
  path? : Option String
  /-- Overrides of weights. -/
  weights : Json

/-- The language of a request. -/
def InjectionRequest.language (r : InjectionRequest) : Except InjectionError Language :=
  match r.language? with
  | some name =>
    if name = "" then .ok (.detect (r.path?.getD ""))
    else
      match Language.ofName? name with
      | some l => .ok l
      | none => .error (.unsupported name)
  | none => .ok (.detect (r.path?.getD ""))

/-- The injection that a finished run amounts to. -/
def Injection.ofRun (code : String) (language : Language) (applied : List BugKind) (d : Draft) :
    Except InjectionError Injection :=
  if applied.isEmpty then .ok ⟨code, [], none, language⟩
  else
    match d.render code with
    | .error e => .error e
    | .ok mutated => .ok ⟨mutated, applied, Text.ChangeRange.between? code mutated, language⟩

/-- Carries out a request. The random source that is left counts also after a failure. -/
def inject {σ : Type} [WordSource σ] (parser : Parser) (r : InjectionRequest) (s : σ) :
    Except InjectionError Injection × σ :=
  match r.language with
  | .error e => (.error e, s)
  | .ok language =>
    match Draft.parse parser language r.path? r.code with
    | .error f => (.error (.parse f), s)
    | .ok d =>
      match select (candidates parser (catalog r.weights)) r.budget d s with
      | (.error (.weight e), s) => (.error (.weight e), s)
      | (.error (.rule e), s) => (.error (.draft e), s)
      | (.ok out, s) => (Injection.ofRun r.code language out.applied out.subject, s)

end Sabotage
