import Sabotage.Decimal.Numeral
import Sabotage.Json.Basic

/-!
# Reading JSON

The reader takes the grammar of JSON with three additions, the numbers `NaN`, `Infinity` and
`-Infinity`. Of two fields of one name the last one counts, in the place of the first. Integers of
more than `Numeral.digitLimit` digits and values in too many levels are refused, with causes of
their own. `Rules` are for settings, answers and logs, which may spell half characters, or strict,
for records.

Reading a value uses up at least one character, so a reader with as much fuel as there are
characters never runs out.
-/

namespace Sabotage.Json

/-- Why a text is refused. -/
inductive ReadError where
  /-- It does not follow the grammar. -/
  | malformed
  /-- It holds an integer of too many digits. -/
  | tooManyDigits
  /-- Its values are nested in too many levels. -/
  | tooDeep
  deriving DecidableEq, Repr

/-- What a reader allows. -/
structure Rules where
  /-- In how many levels that are not empty a value may stand. -/
  levels : Nat
  /-- Half characters are refused, and so are numbers with too long a whole part. -/
  strict : Bool
  deriving DecidableEq, Repr

/-- The rules for settings, answers and logs. -/
def Rules.lenient : Rules := ⟨levelLimit, false⟩

/-- The rules for records. -/
def Rules.record : Rules := ⟨200, true⟩

namespace Reader

/-- A piece read, and what follows it. -/
abbrev Step (α : Type) := Except ReadError (α × List Char)

/-- The blanks of the grammar. -/
def isBlank (c : Char) : Bool :=
  c == ' ' || c == '\t' || c == '\n' || c == '\r'

/-- What follows the blanks. -/
def skipBlanks (cs : List Char) : List Char :=
  cs.dropWhile isBlank

/-- What follows a given text, when the input begins with it. -/
def after? : List Char → List Char → Option (List Char)
  | [], cs => some cs
  | w :: ws, c :: cs => if w = c then after? ws cs else none
  | _ :: _, [] => none

/-- Four hexadecimal digits. -/
def hexUnit? : List Char → Option (Nat × List Char)
  | a :: b :: c :: d :: rest =>
    if [a, b, c, d].all (·.toNat < 0x80) then
      match [a, b, c, d].mapM (Text.digitIn? 16) with
      | some ds => some (Text.ofDigits 16 ds, rest)
      | none => none
    else none
  | _ => none

/-- The low half at the front, as an escape. -/
def lowHalf? : List Char → Option (Nat × List Char)
  | '\\' :: 'u' :: rest => (hexUnit? rest).filter fun (low, _) => Text.Sign.isLowHalf low
  | _ => none

/-- The sign of a code unit, joined with the low half that follows a high half. The strict
rules refuse a half that stands alone. -/
def unitSign? (strict : Bool) (unit : Nat) (rest : List Char) :
    Option (Text.Sign × List Char) :=
  match if Text.Sign.isHighHalf unit then lowHalf? rest else none with
  | some (low, more) => some (.char (Text.Sign.ofHalves unit low), more)
  | none =>
    if Text.Sign.isHalf unit then if strict then none else some (.half unit, rest)
    else some (.char (Char.ofNat unit), rest)

/-- The character a letter after a backslash stands for. -/
def escaped? : Char → Option Char
  | '"' => some '"'
  | '\\' => some '\\'
  | '/' => some '/'
  | 'b' => some '\x08'
  | 'f' => some '\x0c'
  | 'n' => some '\n'
  | 'r' => some '\r'
  | 't' => some '\t'
  | _ => none

/-- The inside of a quoted text up to the closing quote; `done` is what was read, last first. -/
def string (strict : Bool) : Nat → List Text.Sign → List Char → Step Text.Spelling
  | 0, _, _ => .error .malformed
  | _ + 1, _, [] => .error .malformed
  | fuel + 1, done, c :: rest =>
    if c = '"' then .ok (⟨done.reverse⟩, rest)
    else if c = '\\' then
      match rest with
      | 'u' :: more =>
        match hexUnit? more with
        | some (unit, more) =>
          match unitSign? strict unit more with
          | some (sign, more) => string strict fuel (sign :: done) more
          | none => .error .malformed
        | none => .error .malformed
      | e :: more =>
        match escaped? e with
        | some ch => string strict fuel (.char ch :: done) more
        | none => .error .malformed
      | [] => .error .malformed
    else if c.toNat < 0x20 then .error .malformed
    else string strict fuel (.char c :: done) rest

/-- The digits at the front. -/
def digits (cs : List Char) : List Char × List Char :=
  cs.span Text.isAsciiDigit

/-- The number that digits spell. -/
def number (ds : List Char) : Nat :=
  Text.ofDigits 10 (ds.map fun c => c.toNat - '0'.toNat)

/-- The whole part: a zero, or digits that do not begin with one. -/
def wholePart : List Char → Option (List Char × List Char)
  | '0' :: rest => some (['0'], rest)
  | cs => match digits cs with
    | ([], _) => none
    | split => some split

/-- The fraction digits, when there are any after a point. -/
def fractionPart (cs : List Char) : Option (List Char × List Char) :=
  match cs with
  | '.' :: rest => match digits rest with
    | ([], _) => none
    | split => some split
  | _ => none

/-- The exponent, when there is a complete one. -/
def exponentPart (cs : List Char) : Option (Int × List Char) :=
  match cs with
  | e :: rest =>
    if e = 'e' ∨ e = 'E' then
      let (negative, body) := Numeral.sign rest
      match digits body with
      | ([], _) => none
      | (ds, rest) => some (Numeral.signed negative (number ds), rest)
    else none
  | [] => none

/-- A number: an integer when it has neither fraction nor exponent. -/
def numeral (strict negative : Bool) (cs : List Char) : Step Json :=
  match wholePart cs with
  | none => .error .malformed
  | some (whole, rest) =>
    if strict && whole.length > Numeral.digitLimit then .error .malformed
    else match fractionPart rest, exponentPart rest with
    | none, none =>
      if whole.length > Numeral.digitLimit then .error .tooManyDigits
      else .ok (.int (Numeral.signed negative (number whole)), rest)
    | none, some (e, rest) =>
      .ok (.float (Numeral.signedFloat negative ⟨number whole, e⟩), rest)
    | some (part, rest), _ =>
      let (e, rest) := (exponentPart rest).getD (0, rest)
      .ok (.float (Numeral.signedFloat negative ⟨number (whole ++ part), e - part.length⟩), rest)

/-- A value that is neither an array nor an object. -/
def scalar (strict : Bool) (cs : List Char) : Step Json :=
  match cs with
  | '"' :: rest => match string strict (rest.length + 1) [] rest with
    | .ok (s, rest) => .ok (.str s, rest)
    | .error e => .error e
  | '-' :: rest => match after? "Infinity".toList rest with
    | some rest => .ok (.float (-(1 / 0)), rest)
    | none => numeral strict true rest
  | 'n' :: rest => match after? "ull".toList rest with
    | some rest => .ok (.null, rest)
    | none => .error .malformed
  | 't' :: rest => match after? "rue".toList rest with
    | some rest => .ok (.bool true, rest)
    | none => .error .malformed
  | 'f' :: rest => match after? "alse".toList rest with
    | some rest => .ok (.bool false, rest)
    | none => .error .malformed
  | 'N' :: rest => match after? "aN".toList rest with
    | some rest => .ok (.float (0 / 0), rest)
    | none => .error .malformed
  | 'I' :: rest => match after? "nfinity".toList rest with
    | some rest => .ok (.float (1 / 0), rest)
    | none => .error .malformed
  | cs => numeral strict false cs

/-- A field name and the colon after it. -/
def name (strict : Bool) (cs : List Char) : Step Text.Spelling :=
  match cs with
  | '"' :: rest => match string strict (rest.length + 1) [] rest with
    | .ok (key, rest) => match skipBlanks rest with
      | ':' :: rest => .ok (key, skipBlanks rest)
      | _ => .error .malformed
    | .error e => .error e
  | _ => .error .malformed

mutual
/-- A value that stands in at most so many levels, with no blanks before it. -/
def value (strict : Bool) : Nat → Nat → List Char → Step Json
  | 0, _, _ => .error .malformed
  | fuel + 1, levels, cs =>
    match cs with
    | '[' :: rest => match skipBlanks rest, levels with
      | ']' :: rest, _ => .ok (.arr [], rest)
      | _, 0 => .error .tooDeep
      | rest, levels + 1 => items strict fuel levels [] rest
    | '\x7b' :: rest => match skipBlanks rest, levels with
      | '\x7d' :: rest, _ => .ok (.obj [], rest)
      | _, 0 => .error .tooDeep
      | rest, levels + 1 => members strict fuel levels [] rest
    | cs => scalar strict cs

/-- The items from here to the closing bracket; `done` holds those before, last first. -/
def items (strict : Bool) : Nat → Nat → List Json → List Char → Step Json
  | 0, _, _, _ => .error .malformed
  | fuel + 1, levels, done, cs =>
    match value strict fuel levels cs with
    | .error e => .error e
    | .ok (v, rest) => match skipBlanks rest with
      | ',' :: rest => items strict fuel levels (v :: done) (skipBlanks rest)
      | ']' :: rest => .ok (.arr (v :: done).reverse, rest)
      | _ => .error .malformed

/-- The fields from here to the closing brace; `done` holds those before. -/
def members (strict : Bool) : Nat → Nat → Fields → List Char → Step Json
  | 0, _, _, _ => .error .malformed
  | fuel + 1, levels, done, cs =>
    match name strict cs with
    | .error e => .error e
    | .ok (key, rest) => match value strict fuel levels rest with
      | .error e => .error e
      | .ok (v, rest) => match skipBlanks rest with
        | ',' :: rest => members strict fuel levels (Table.assign key v done) (skipBlanks rest)
        | '\x7d' :: rest => .ok (.obj (Table.assign key v done), rest)
        | _ => .error .malformed
end

end Reader

/-- The value a text spells under some rules. -/
def readBy (rules : Rules) (s : String) : Except ReadError Json :=
  let cs := Reader.skipBlanks s.toList
  match Reader.value rules.strict (cs.length + 1) rules.levels cs with
  | .error e => .error e
  | .ok (v, rest) => if (Reader.skipBlanks rest).isEmpty then .ok v else .error .malformed

/-- The value a text spells. -/
def read (s : String) : Except ReadError Json :=
  readBy .lenient s

/-- The value a text spells, if any. -/
def read? (s : String) : Option Json :=
  (read s).toOption

end Sabotage.Json
