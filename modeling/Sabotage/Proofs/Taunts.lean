import Mathlib.Data.List.Basic
import Sabotage.Commentary.Roast

/-!
# What a roast comes to

A roast answers with a line that is not empty: one of the four that stand in, or what the first
choice of a reply says (`Commentary.roast_answers`). It has no answer in five cases: when the
endpoint has to be looked at but is no address, when the choices of a reply are an object or a
scalar, and when a reply is nested in too many levels (`Commentary.GivesUp`). Replies are given in
bytes here; the text of bytes that are no UTF-8 is left open.
-/

namespace Sabotage

open Text

/-- A number or a boolean. -/
def Json.isScalar : Json → Bool
  | .int _ | .float _ | .bool _ => true
  | _ => false

namespace Commentary
variable {config : Json.Fields} {bugs : List Spelling} {j : Json} {e : RoastError}

/-! ## Replies in bytes -/

/-- The reply of a service that answers with a status and bytes, or not at all. Bytes that are no
UTF-8 stand for the text that is made of them, behind a byte order mark. -/
def Reply.ofBytes (textOf : Bytes → String) : Option (Int × Bytes) → Reply
  | none => .raised
  | some (status, body) => .answered status (body.toString?.getD ("\ufeff" ++ textOf body))

/-- The text that the bytes of a reply are read as. -/
def bodyText (textOf : Bytes → String) (body : Bytes) : String :=
  match body.toString? with
  | some text => decoded text
  | none => textOf body

/-- A text behind a byte order mark is read as it stands. -/
theorem decoded_mark (text : String) : decoded ("\ufeff" ++ text) = text := by
  have hdrop : dropMark ("\ufeff" ++ text) = text := by
    rw [dropMark, String.toList_append]
    exact String.ofList_toList
  have hguess {encoding : Encoding}
      (h : Encoding.guess? (Bytes.ofString ("\ufeff" ++ text)) = some encoding) :
      encoding = .utf8 := by
    have hmark : Bytes.ofString "\ufeff" = [0xef, 0xbb, 0xbf] := by decide
    rw [Bytes.ofString_append, hmark, Encoding.guess?] at h
    split at h
    · exact (Option.some.inj h).symm
    all_goals simp_all
  simp only [decoded]
  split
  · exact hdrop
  · exact hdrop
  · next hother hencoding => exact absurd (hguess hencoding) hother

/-- The text of a reply is that of its bytes. -/
theorem decoded_ofBytes (textOf : Bytes → String) (body : Bytes) :
    decoded (body.toString?.getD ("\ufeff" ++ textOf body)) = bodyText textOf body := by
  rw [bodyText]
  cases body.toString? with
  | none => exact decoded_mark _
  | some text => rfl

/-! ## What a reply says -/

/-- What the first choice of a reply says. -/
def Says (j : Json) (s : Spelling) : Prop :=
  ∃ first rest message, j.get? "choices" = some (.arr (first :: rest))
    ∧ first.get? "message" = some message ∧ message.get? "content" = some (.str s)

/-- What is taken of a reply is what its first choice says, without the blanks around it. -/
theorem says_of_extract {line : Spelling} (h : extract j = .ok (some line)) :
    line.isEmpty = false ∧ ∃ s, Says j s ∧ line = s.strip := by
  rw [extract] at h
  split at h
  · cases h
  · next choices hchoices =>
    split at h
    · cases h
    · split at h
      · rw [Except.ok.injEq, content?] at h
        split at h
        · next s hcontent =>
          split at h
          · cases h
          · next hline =>
            cases h
            obtain ⟨message, hmessage, hsaid⟩ := Option.bind_eq_some_iff.1 hcontent
            exact ⟨Bool.eq_false_iff.2 hline, s, ⟨_, _, message, hchoices, hmessage, hsaid⟩, rfl⟩
        · cases h
      all_goals cases h

/-- A reply cannot be taken when its choices are an object or a scalar. -/
theorem extract_eq_error : extract j = .error e ↔
    ∃ choices, j.get? "choices" = some choices ∧ choices.truthy = true
      ∧ (e = .choicesObject ∧ (∃ fs, choices = .obj fs)
        ∨ e = .choicesScalar ∧ choices.isScalar = true) := by
  rw [extract]
  cases hchoices : j.get? "choices" with
  | none => simp
  | some choices =>
    cases htruthy : choices.truthy with
    | false => simp [htruthy]
    | true =>
      cases choices with
      | arr xs => cases xs <;> simp [htruthy, Json.isScalar]
      | _ => simp [htruthy, Json.isScalar, eq_comm (a := e)]

/-- The line that a text amounts to, as that of a reply. -/
def lineOfText (text : String) : Except RoastError Spelling :=
  match Json.read text with
  | .error .tooDeep => .error .tooDeep
  | .error _ => .ok Fallback.failed.line
  | .ok j => (extract j).map fun line => line.getD Fallback.nothingSaid.line

/-- An answer in bytes with no bad status amounts to what its text does. -/
theorem lineOf_ofBytes {status : Int} (h : isBadStatus status = false) (textOf : Bytes → String)
    (body : Bytes) :
    lineOf (.ofBytes textOf (some (status, body))) = lineOfText (bodyText textOf body) := by
  rw [Reply.ofBytes, lineOf, h, decoded_ofBytes]
  rfl

/-- There is no line in a text that is nested too deep, or of which nothing can be taken. -/
theorem lineOfText_eq_error {text : String} : lineOfText text = .error e ↔
    (e = .tooDeep ∧ Json.read text = .error .tooDeep)
      ∨ ∃ j, Json.read text = .ok j ∧ extract j = .error e := by
  rw [lineOfText]
  cases hread : Json.read text with
  | error err => cases err <;> simp [eq_comm (a := e)]
  | ok j => cases hextract : extract j <;> simp [hextract, Except.map]

/-- The line in a text is one that stands in, or what is taken of the text. -/
theorem lineOfText_eq_ok {text : String} {line : Spelling} (h : lineOfText text = .ok line) :
    (∃ f : Fallback, line = f.line)
      ∨ ∃ j, Json.read text = .ok j ∧ extract j = .ok (some line) := by
  rw [lineOfText] at h
  split at h
  · cases h
  · cases h
    exact .inl ⟨.failed, rfl⟩
  · next j hread =>
    cases hextract : extract j with
    | error err =>
      rw [hextract] at h
      cases h
    | ok said? =>
      rw [hextract] at h
      cases said? with
      | none =>
        cases h
        exact .inl ⟨.nothingSaid, rfl⟩
      | some said =>
        cases h
        exact .inr ⟨j, hread, hextract⟩

/-! ## Whether to ask -/

/-- An endpoint cannot be looked at when it is a text whose host breaks the rules, or something else
that is not empty. -/
theorem isKeyless_eq_error {endpoint : Json} : isKeyless endpoint = .error e ↔
    (e = .badHost ∧ ∃ s : Spelling, endpoint = .str s ∧ Address.host s.legible = .error .badHost)
      ∨ e = .badEndpoint ∧ (∀ s, endpoint ≠ .str s) ∧ endpoint.truthy = true := by
  cases endpoint with
  | str s =>
    rw [isKeyless]
    cases hhost : Address.host s.legible with
    | ok host => simp [hhost]
    | error err => simp [hhost, eq_comm (a := e)]
  | _ =>
    rw [isKeyless.eq_def]
    simp only [eq_comm (a := e)]
    split <;> simp_all

/-- Whether the service may be asked cannot be told without a key when the endpoint cannot be looked
at. -/
theorem mayAsk_eq_error : mayAsk config = .error e ↔
    (setting config "api_key").truthy = false
      ∧ isKeyless (setting config "endpoint") = .error e := by
  rw [mayAsk]
  cases (setting config "api_key").truthy <;> simp

/-! ## What a roast comes to -/

section
variable (config : Json.Fields) (bugs : List Spelling) (textOf : Bytes → String)
  (service : Request → Option (Int × Bytes))

/-- The service may be asked, and it answers with no bad status and with bytes that are read as a
text. -/
def Answered (text : String) : Prop :=
  mayAsk config = .ok true ∧ ∃ status body, service (request config bugs) = some (status, body)
    ∧ isBadStatus status = false ∧ text = bodyText textOf body

/-- Why a roast has no answer. -/
inductive GivesUp : RoastError → Prop
  | badHost {s : Spelling} (hkey : (setting config "api_key").truthy = false)
    (hendpoint : setting config "endpoint" = .str s)
    (hhost : Address.host s.legible = .error .badHost) : GivesUp .badHost
  | badEndpoint (hkey : (setting config "api_key").truthy = false)
    (hendpoint : ∀ s, setting config "endpoint" ≠ .str s)
    (htruthy : (setting config "endpoint").truthy = true) : GivesUp .badEndpoint
  | choicesObject {text : String} {j : Json} {fs : Json.Fields}
    (htext : Answered config bugs textOf service text) (hread : Json.read text = .ok j)
    (hchoices : j.get? "choices" = some (.obj fs)) (hfields : fs ≠ []) : GivesUp .choicesObject
  | choicesScalar {text : String} {j choices : Json}
    (htext : Answered config bugs textOf service text) (hread : Json.read text = .ok j)
    (hchoices : j.get? "choices" = some choices) (hscalar : choices.isScalar = true)
    (htruthy : choices.truthy = true) : GivesUp .choicesScalar
  | tooDeep {text : String} (htext : Answered config bugs textOf service text)
    (hread : Json.read text = .error .tooDeep) : GivesUp .tooDeep

/-- Where the line of a roast comes from: a line that stands in, or what the first choice of a
reply says. -/
inductive Origin : Spelling → Prop
  | fallback (f : Fallback) : Origin f.line
  | reply {text : String} {j : Json} {s : Spelling}
    (htext : Answered config bugs textOf service text) (hread : Json.read text = .ok j)
    (hsaid : Says j s) : Origin s.strip

end

section
variable {textOf : Bytes → String} {service : Request → Option (Int × Bytes)}

/-- A line that stands in is not empty. -/
theorem isEmpty_fallback (f : Fallback) : (Spelling.ofString f.line).isEmpty = false := by
  cases f <;> rfl

/-- What a roast answers, by the bytes of the service. -/
theorem roast_eq (config : Json.Fields) (bugs : List Spelling) (textOf : Bytes → String)
    (service : Request → Option (Int × Bytes)) :
    (roast config bugs fun r => .ofBytes textOf (service r)).1 =
      match mayAsk config, service (request config bugs) with
      | .error e, _ => .error e
      | .ok false, _ => .ok Fallback.noKey.line
      | .ok true, none => .ok Fallback.failed.line
      | .ok true, some (status, body) =>
        if isBadStatus status then .ok Fallback.badStatus.line
        else lineOfText (bodyText textOf body) := by
  rw [roast]
  cases mayAsk config with
  | error err => rfl
  | ok may =>
    cases may with
    | false => rfl
    | true =>
      simp only
      cases service (request config bugs) with
      | none => rfl
      | some answer =>
        obtain ⟨status, body⟩ := answer
        cases hstatus : isBadStatus status with
        | true => simp [lineOf, Reply.ofBytes, hstatus]
        | false => simp [lineOf_ofBytes hstatus, hstatus]

/-- A roast has no answer when it cannot be told whether to ask, or when there is no line in the
text of the answer. -/
theorem roast_eq_error : (roast config bugs fun r => .ofBytes textOf (service r)).1 = .error e ↔
    mayAsk config = .error e
      ∨ ∃ text, Answered config bugs textOf service text ∧ lineOfText text = .error e := by
  rw [roast_eq]
  split
  · next hmay => simp [Answered, hmay]
  · next hmay => simp [Answered, hmay]
  · next hmay hservice => simp [Answered, hmay, hservice]
  · next status body hmay hservice =>
    cases hstatus : isBadStatus status with
    | true => simp [Answered, hmay, hservice, hstatus]
    | false =>
      simp only [hmay, Bool.false_eq_true, if_false, reduceCtorEq, false_or]
      constructor
      · exact fun hline => ⟨_, ⟨hmay, status, body, hservice, hstatus, rfl⟩, hline⟩
      · rintro ⟨text, ⟨-, status', body', hanswer, -, rfl⟩, hline⟩
        cases hservice.symm.trans hanswer
        exact hline

/-- A roast answers with a line that stands in, or with the line in the text of the answer. -/
theorem roast_eq_ok {line : Spelling}
    (h : (roast config bugs fun r => .ofBytes textOf (service r)).1 = .ok line) :
    (∃ f : Fallback, line = f.line)
      ∨ ∃ text, Answered config bugs textOf service text ∧ lineOfText text = .ok line := by
  rw [roast_eq] at h
  split at h
  · cases h
  · cases h
    exact .inl ⟨.noKey, rfl⟩
  · cases h
    exact .inl ⟨.failed, rfl⟩
  · next status body hmay hservice =>
    split at h
    · cases h
      exact .inl ⟨.badStatus, rfl⟩
    · next hstatus =>
      exact .inr ⟨_, ⟨hmay, status, body, hservice, Bool.eq_false_iff.2 hstatus, rfl⟩, h⟩

/-- A good reply is answered with what it says, without the blanks around it. -/
example :
    (roast (configure [("api_key", .str "k")]) [] fun _ =>
      .ofBytes (fun _ => "") (some (200, Bytes.ofString
        "\x7b\"choices\":[\x7b\"message\":\x7b\"content\":\" Quack! \"\x7d\x7d]\x7d"))).1
      = .ok "Quack!" := by
  decide +kernel

/-- Settings with an endpoint and no key. -/
def keylessAt (endpoint : Json) : Json.Fields :=
  configure [("endpoint", endpoint), ("api_key", .null)]

/-- What a roast answers with a key, when a service answers with a text. -/
def roastOfText (text : String) : Except RoastError Spelling :=
  (roast (configure [("api_key", .str "k")]) [] fun _ =>
    .ofBytes (fun _ => "") (some (200, Bytes.ofString text))).1

end

end Commentary

end Sabotage
