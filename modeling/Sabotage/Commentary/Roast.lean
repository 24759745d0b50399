import Sabotage.Commentary.Address
import Sabotage.Json.Display
import Sabotage.Json.Reader
import Sabotage.Settings
import Sabotage.Text.Blank
import Sabotage.Text.Encoding

/-!
# Commentary

A line of taunt about the bugs put in, asked of a chat service. Without a key only a service on
this machine is asked. Whatever goes wrong gives one of four fixed lines. The service is a
parameter: a reply is a status and a body, or none when the request fails.
-/

namespace Sabotage.Commentary

/-- The settings of the service that are not set. -/
def defaults : Json.Fields :=
  [("endpoint", .str "https://api.openai.com/v1/chat/completions"), ("api_key", .null),
    ("model", .str "gpt-4o-mini"), ("temperature", .float 0.9), ("max_tokens", .int 60),
    ("timeout", .int 10)]

/-- The hosts that are asked without a key. -/
def keylessHosts : List String := ["localhost", "127.0.0.1"]

/-- Why there is no line from the service. -/
inductive Fallback where
  | noKey | badStatus | nothingSaid | failed
  deriving DecidableEq, Repr

/-- The line that stands in. -/
def Fallback.line : Fallback → String
  | .noKey => "I broke your code, and I'm refusing to elaborate."
  | .badStatus => "I broke your code. Good luck finding where."
  | .nothingSaid => "Your code is brittle."
  | .failed => "The Duck has sabotaged your code."

/-- Why asking is given up altogether. -/
inductive RoastError where
  /-- The host of the endpoint breaks the rules. -/
  | badHost
  /-- The endpoint is no text. -/
  | badEndpoint
  /-- The reply has an object where the list of choices should be. -/
  | choicesObject
  /-- The reply has a number or a boolean where the list of choices should be. -/
  | choicesScalar
  /-- The reply is nested in too many levels. -/
  | tooDeep
  deriving DecidableEq, Repr

/-- A request to the service. -/
structure Request where
  url : Json
  body : Json
  headers : List (String × Text.Spelling)
  timeout : Json

/-- What comes of a request. -/
inductive Reply where
  /-- The request fails. -/
  | raised
  | answered (status : Int) (body : String)
  deriving Repr

/-- Settings laid over the defaults; a setting of `null` does not count. -/
def configure (overrides : Json.Fields) : Json.Fields :=
  overrides.foldl
    (fun fs (k, v) => match v with
      | .null => fs
      | v => Table.assign k v fs)
    defaults

/-- A setting. -/
def setting (config : Json.Fields) (key : Text.Spelling) : Json :=
  (Table.lookup key config).getD .null

/-- What the service is told to do. -/
def prompt (bugs : List Text.Spelling) : Text.Spelling :=
  "You are a rubber duck that lives in the user's editor and has turned on them.\n"
    ++ "You have just quietly slipped these bugs into their code: "
    ++ Text.Spelling.intercalate ", " bugs
    ++ ".\n\nTaunt them for when they next run it.\n"
    ++ "Keep it vague, menacing and short (under 20 words).\n"
    ++ "Never say what you changed. Make them doubt every line.\n"

/-- The body of a request. -/
def payload (config : Json.Fields) (bugs : List Text.Spelling) : Json :=
  .obj [("model", setting config "model"),
    ("messages", .arr [.obj [("role", .str "system"), ("content", .str (prompt bugs))]]),
    ("temperature", setting config "temperature"), ("max_tokens", setting config "max_tokens")]

/-- Whether the endpoint is asked without a key. -/
def isKeyless (endpoint : Json) : Except RoastError Bool :=
  match endpoint with
  | .str s =>
    match Address.host s.legible with
    | .ok host => .ok (keylessHosts.contains host)
    | .error .badHost => .error .badHost
  | j => if j.truthy then .error .badEndpoint else .ok false

/-- Whether the service may be asked: there is a key, or none is needed. -/
def mayAsk (config : Json.Fields) : Except RoastError Bool :=
  if (setting config "api_key").truthy then .ok true else isKeyless (setting config "endpoint")

/-- The request about bugs. -/
def request (config : Json.Fields) (bugs : List Text.Spelling) : Request :=
  let key := setting config "api_key"
  ⟨setting config "endpoint", payload config bugs,
    ("Content-Type", "application/json")
      :: (if key.truthy then [("Authorization", "Bearer " ++ key.display)] else []),
    setting config "timeout"⟩

/-- Whether a status is a failure. -/
def isBadStatus (status : Int) : Bool :=
  400 ≤ status && status < 600

/-- The text of the first choice, without the blanks around it; none when there is none. -/
def content? (first : Json) : Option Text.Spelling :=
  match (first.get? "message").bind (·.get? "content") with
  | some (.str s) => if s.strip.isEmpty then none else some s.strip
  | _ => none

/-- The line in a reply. -/
def extract (reply : Json) : Except RoastError (Option Text.Spelling) :=
  match reply.get? "choices" with
  | none => .ok none
  | some choices =>
    if !choices.truthy then .ok none
    else
      match choices with
      | .arr (first :: _) => .ok (content? first)
      | .obj _ => .error .choicesObject
      | .int _ | .float _ | .bool _ => .error .choicesScalar
      | _ => .ok none

/-- A body without a byte order mark. -/
def dropMark (body : String) : String :=
  match body.toList with
  | '\ufeff' :: rest => String.ofList rest
  | _ => body

/-- The text of a body, in the encoding that its bytes show; as it stands when they show none or
are not well formed. -/
def decoded (body : String) : String :=
  let bytes := Bytes.ofString body
  match Text.Encoding.guess? bytes with
  | some .utf8 | none => dropMark body
  | some encoding => (encoding.decode? bytes).getD body

/-- The line that a reply amounts to. -/
def lineOf : Reply → Except RoastError Text.Spelling
  | .raised => .ok Fallback.failed.line
  | .answered status body =>
    if isBadStatus status then .ok Fallback.badStatus.line
    else
      match Json.read (decoded body) with
      | .error .tooDeep => .error .tooDeep
      | .error _ => .ok Fallback.failed.line
      | .ok j => (extract j).map fun line => line.getD Fallback.nothingSaid.line

/-- Asks the service, if it may be asked: the line, and the request that was made. -/
def roast (config : Json.Fields) (bugs : List Text.Spelling) (service : Request → Reply) :
    Except RoastError Text.Spelling × Option Request :=
  match mayAsk config with
  | .error e => (.error e, none)
  | .ok false => (.ok Fallback.noKey.line, none)
  | .ok true =>
    let asked := request config bugs
    (lineOf (service asked), some asked)

/-- The settings of the service in force. -/
def settingsOverrides (s : Settings) (key : Option String) : Json.Fields :=
  [("endpoint", s.get "commentary.endpoint"), ("api_key", s.commentaryKey key),
    ("model", s.get "commentary.model"), ("timeout", s.get "commentary.timeout")]

end Sabotage.Commentary
