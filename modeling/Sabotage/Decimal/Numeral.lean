import Sabotage.Decimal.Shortest
import Sabotage.Text.Blank
import Sabotage.Text.Digit

/-!
# Reading numerals

The numerals that people write: blanks around, a sign, decimal digits of any script, single
underscores between digits. `readInt?` reads an integer in a base, `readPrefixed?` one whose base
is announced by `0x`, `0o` or `0b`, `readFloat?` a decimal fraction with an optional exponent.
Reading or writing more than `digitLimit` decimal digits of an integer is refused.
-/

namespace Sabotage.Numeral

open Text

/-- The longest decimal text an integer is converted from or to. -/
def digitLimit : Nat := 4300

/-- The blanks allowed around a numeral: the white space without the four separator controls. -/
def isMargin (c : Char) : Bool :=
  isBlank c && !(0x1c ≤ c.toNat && c.toNat ≤ 0x1f)

/-- A text without the blanks around it. -/
def trim (cs : List Char) : List Char :=
  trimBy isMargin cs

/-- Splits off a sign; `true` is minus. -/
def sign : List Char → Bool × List Char
  | '-' :: r => (true, r)
  | '+' :: r => (false, r)
  | r => (false, r)

/-- Digits of a base with single underscores between them; the flag says whether the last
character was a digit. -/
def digits? (base : Nat) : Bool → List Char → Option (List Nat)
  | afterDigit, [] => if afterDigit then some [] else none
  | afterDigit, c :: r =>
    if c = '_' then (if afterDigit then digits? base false r else none)
    else
      match digitIn? base c with
      | some d => (digits? base true r).map (d :: ·)
      | none => none

/-- A signed number. -/
def signed (negative : Bool) (n : Nat) : Int :=
  if negative then -(n : Int) else n

/-- Whether the digits of a base are a power of two, where no digit limit applies. -/
def unlimited (base : Nat) : Bool :=
  base == 2 || base == 4 || base == 8 || base == 16 || base == 32

/-- An integer without announced base. -/
def readInt? (base : Nat) (s : String) : Option Int :=
  let (negative, body) := sign (trim s.toList)
  match digits? base false body with
  | some ds =>
    if !unlimited base && ds.length > digitLimit then none
    else some (signed negative (ofDigits base ds))
  | none => none

/-- The base a letter after a leading zero announces. -/
def announcedBase? : Char → Option Nat
  | 'x' | 'X' => some 16
  | 'o' | 'O' => some 8
  | 'b' | 'B' => some 2
  | _ => none

/-- An integer that begins with `0x`, `0o` or `0b`; one underscore may follow the announcement. -/
def readAnnounced? (s : String) : Option Int :=
  match trim s.toList with
  | '0' :: letter :: rest =>
    match announcedBase? letter with
    | some base =>
      let body := match rest with
        | '_' :: r => r
        | r => r
      (digits? base false body).map fun ds => (ofDigits base ds : Int)
    | none => none
  | _ => none

/-- The decimal text of an integer, within the limit. -/
def writeInt? (n : Int) : Option String :=
  if Decimal.digitCount n.natAbs > digitLimit then none else some (toString n)

/-- A run of decimal digits with single underscores between them, and what follows it. -/
def digitRun : Bool → List Char → Option (List Nat × List Char)
  | afterDigit, [] => if afterDigit then some ([], []) else none
  | afterDigit, c :: r =>
    if c = '_' then
      if afterDigit then
        match r with
        | d :: _ => if (digitValue? d).isSome then digitRun false r else none
        | [] => none
      else none
    else
      match digitValue? c with
      | some d => (digitRun true r).map fun (ds, rest) => (d :: ds, rest)
      | none => if afterDigit then some ([], c :: r) else none

/-- The fraction part after the whole digits: none, a bare point, or a point and digits. -/
def fraction (whole : Bool) : List Char → Option (List Nat × List Char)
  | '.' :: r =>
    match r with
    | d :: _ =>
      if (digitValue? d).isSome then digitRun false r
      else if whole then some ([], r) else none
    | [] => if whole then some ([], []) else none
  | r => if whole then some ([], r) else none

/-- The exponent part: none, or a letter, a sign and digits up to the end. -/
def exponent? : List Char → Option Int
  | [] => some 0
  | c :: r =>
    if c = 'e' ∨ c = 'E' then
      let (negative, body) := sign r
      match digitRun false body with
      | some (ds, []) => some (signed negative (ofDigits 10 ds))
      | _ => none
    else none

/-- The float of a signed decimal. -/
def signedFloat (negative : Bool) (d : Decimal) : Float :=
  if negative then -d.toFloat else d.toFloat

/-- A decimal text as the nearest float. -/
def readFloat? (s : String) : Option Float :=
  let (negative, body) := sign (trim s.toList)
  let word := body.map Char.toLower
  if word = "inf".toList ∨ word = "infinity".toList then
    some (if negative then -(1 / 0) else 1 / 0)
  else if word = "nan".toList then some (0 / 0)
  else do
    let startsWithDigit := match body with
      | c :: _ => (digitValue? c).isSome
      | [] => false
    let (whole, rest) ← if startsWithDigit then digitRun false body else some ([], body)
    let (part, rest) ← fraction startsWithDigit rest
    let e ← exponent? rest
    some (signedFloat negative ⟨ofDigits 10 (whole ++ part), e - part.length⟩)

end Sabotage.Numeral
