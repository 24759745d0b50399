import Sabotage.Decimal.Numeral
import Sabotage.Text.Split

/-!
# Figures

Where a number is asked for, in a history entry or on a command line, it may be given as a text. A
figure has blanks around it, a sign and ASCII digits, between which single low lines may stand.
`Figure.readInt?` reads a whole number, of which zeros in front and a fraction of zeros are no
part; `Figure.readFloat?` a number with a fraction and an exponent.
-/

namespace Sabotage.Figure

open Text

/-- A text without its single low lines, all of which stand inside. -/
def dropLowLines? (cs : List Char) : Option (List Char) :=
  if (pieces '_' cs).all (!·.isEmpty) then some (cs.filter (· != '_')) else none

/-! ## Whole numbers -/

/-- A numeral from its first digit that counts on, or from a minus sign that comes after zeros. Low
lines may stand between the zeros; one zero is left when no other digit comes before the point or
the end. -/
def dropZerosFrom (last : Char) : List Char → Option (List Char)
  | [] => some [last]
  | c :: cs =>
    if c = '0' ∨ c = '_' then dropZerosFrom c cs
    else if c = '.' then some (last :: c :: cs)
    else if isAsciiDigit c ∨ c = '-' then some (c :: cs)
    else none

/-- A numeral, which begins with a digit, without the zeros in front. -/
def dropZeros? : List Char → Option (List Char)
  | [] => none
  | c :: cs =>
    if c = '0' then dropZerosFrom c cs
    else if isAsciiDigit c then some (c :: cs)
    else none

/-- A numeral without its fraction, which must be zero. -/
def dropFraction (cs : List Char) : List Char :=
  match cs.span (· != '.') with
  | (whole, '.' :: zeros) => if !zeros.isEmpty ∧ zeros.all (· == '0') then whole else cs
  | _ => cs

/-- Digits within the limit, the first of which is no zero unless it is the only one. -/
def magnitude? (cs : List Char) : Option Nat :=
  if cs.isEmpty ∨ !cs.all isAsciiDigit ∨ (cs.head? = some '0' ∧ cs.length > 1)
      ∨ cs.length > Numeral.digitLimit then none
  else some (ofDigits 10 (cs.filterMap digitValue?))

/-- Digits after a minus sign, or without. -/
def signed? : List Char → Option Int
  | '-' :: digits => (magnitude? digits).map fun n => -(n : Int)
  | digits => (magnitude? digits).map fun n => (n : Int)

/-- A numeral without a plus sign, as far as it counts: with a minus sign in front of it or
none. -/
def counting? : List Char → Option (List Char)
  | '-' :: rest => (dropZeros? rest).map ('-' :: ·)
  | cs => dropZeros? cs

/-- A whole number; a plus sign comes before digits only. -/
def readInt? (s : String) : Option Int := do
  let cs := Numeral.trim s.toList
  let numeral ← match cs with
    | '+' :: rest => dropZeros? rest
    | _ => counting? cs
  signed? (← dropLowLines? (dropFraction numeral))

/-! ## Numbers with a fraction -/

/-- The exponent at the end of a number, zero when there is none. -/
def exponent? : List Char → Option Int
  | [] => some 0
  | c :: cs =>
    if c = 'e' ∨ c = 'E' then
      let (negative, digits) := Numeral.sign cs
      if !digits.isEmpty ∧ digits.all isAsciiDigit then
        some (Numeral.signed negative (ofDigits 10 (digits.filterMap digitValue?)))
      else none
    else none

/-- Digits with a point among them, before them or behind them, and an exponent. -/
def decimal? (cs : List Char) : Option Decimal := do
  let (whole, rest) := cs.span isAsciiDigit
  let (fraction, rest) := match rest with
    | '.' :: after => after.span isAsciiDigit
    | _ => ([], rest)
  let e ← exponent? rest
  let digits := (whole ++ fraction).filterMap digitValue?
  if digits.isEmpty then none else some ⟨ofDigits 10 digits, e - fraction.length⟩

/-- A number without low lines and blanks. -/
def plainFloat? (cs : List Char) : Option Float :=
  let (negative, body) := Numeral.sign cs
  match String.ofList (body.map Char.toLower) with
  | "inf" | "infinity" => some (if negative then -(1 / 0) else 1 / 0)
  | "nan" => some (0 / 0)
  | _ => (decimal? body).map (Numeral.signedFloat negative)

/-- A number. Blanks may stand around one without low lines; low lines may stand everywhere inside
one without blanks. -/
def readFloat? (s : String) : Option Float :=
  plainFloat? (Numeral.trim s.toList) <|> (dropLowLines? s.toList).bind plainFloat?

end Sabotage.Figure
