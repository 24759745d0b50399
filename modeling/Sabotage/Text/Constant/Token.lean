import Sabotage.Decimal.Numeral
import Sabotage.Text.CharacterName
import Sabotage.Text.Letter
import Sabotage.Text.LineEnding
import Sabotage.Text.Split

/-!
# Tokens of constants

Numbers, texts between quotes, words and signs, with blanks and comments between them. Lines end
outside of all groups only, and what stands first may not be indented. `Token.ofChars?` gives the
tokens of a text, if it consists of them.
-/

namespace Sabotage.Text.Constant

/-- What a number is. -/
inductive NumberKind where
  | real
  /-- An integer beyond all floats. -/
  | huge
  | imaginary
  deriving DecidableEq, Repr

/-- What constants are written with. -/
inductive Token where
  | number (kind : NumberKind)
  | text (bytes : Bool)
  | word (cs : List Char)
  | sign (c : Char)
  | dots
  /-- The end of a line outside of all groups. -/
  | lineEnd
  deriving DecidableEq, Repr

/-! ## Numbers -/

/-- Whether digits are grouped as they may be, by single low lines between them. -/
def isGrouped (digits : List Char) : Bool :=
  (pieces '_' digits).all (!·.isEmpty)

/-- The characters in front that are digits or low lines, and the rest. -/
def digitRun (isDigit : Char → Bool) (cs : List Char) : List Char × List Char :=
  cs.span fun c => isDigit c || c == '_'

/-- An ASCII digit of a base. -/
def isDigitOf (base : Nat) (c : Char) : Bool :=
  c.toNat < 0x80 && (digitIn? base c).isSome

/-- The base that a letter after a zero stands for. -/
def baseOf? : Char → Option Nat
  | 'x' | 'X' => some 16
  | 'o' | 'O' => some 8
  | 'b' | 'B' => some 2
  | _ => none

/-- The least integer that is beyond all floats: halfway from the greatest one to the next power
of two. -/
def floatBound : Nat := (1 <<< 1024) - (1 <<< 970)

/-- What an integer is. -/
def wholeKind (base : Nat) (digits : List Char) : NumberKind :=
  if ofDigits base (digits.filterMap (digitIn? base)) < floatBound then .real else .huge

/-- An integer in a base in front of a text, and the rest; one low line may come before its
digits. -/
def based? (base : Nat) (cs : List Char) : Option (NumberKind × List Char) :=
  let (digits, rest) := digitRun (isDigitOf base) cs
  let digits := if digits.head? = some '_' then digits.drop 1 else digits
  if isGrouped digits then some (wholeKind base digits, rest) else none

/-- What is left of a text after an exponent, if there is one. -/
def afterExponent? : List Char → Option (List Char)
  | c :: cs =>
    if c = 'e' ∨ c = 'E' then
      let cs := match cs with
        | '+' :: rest | '-' :: rest => rest
        | _ => cs
      let (digits, rest) := digitRun isAsciiDigit cs
      if isGrouped digits then some rest else none
    else some (c :: cs)
  | [] => some []

/-- Whether digits may be an integer: one that is not zero has no zeros in front, and not too many
digits. -/
def isWhole (digits : List Char) : Bool :=
  let digits := digits.filter (· != '_')
  digits.all (· == '0')
    || (digits.head? != some '0' && digits.length ≤ Numeral.digitLimit)

/-- The letter after an imaginary number. -/
def isImaginaryUnit (c : Char) : Bool :=
  c == 'j' || c == 'J'

/-- A decimal number in front of a text, and the rest. -/
def decimal? (cs : List Char) : Option (NumberKind × List Char) :=
  let (whole, rest) := digitRun isAsciiDigit cs
  let (fraction?, rest) := match rest with
    | '.' :: cs =>
      let (digits, rest) := digitRun isAsciiDigit cs
      (some digits, rest)
    | _ => (none, rest)
  let fine := (isGrouped whole || (whole.isEmpty && (fraction?.any fun f => !f.isEmpty)))
    && fraction?.all fun f => f.isEmpty || isGrouped f
  match if fine then afterExponent? rest else none with
  | none => none
  | some after =>
    if after.head?.any isImaginaryUnit then some (.imaginary, after.drop 1)
    else if fraction?.isSome || after.length < rest.length then some (.real, after)
    else if isWhole whole then some (wholeKind 10 whole, after)
    else none

/-- A number in front of a text. -/
def number? (cs : List Char) : Option (NumberKind × List Char) :=
  let read := match cs with
    | '0' :: c :: rest =>
      match baseOf? c with
      | some base => based? base rest
      | none => decimal? cs
    | _ => decimal? cs
  read.filter fun (_, rest) => !(rest.head?.any isWordChar)

/-! ## Texts between quotes -/

/-- How a text is to be read. -/
structure Quoting where
  raw : Bool
  bytes : Bool
  deriving DecidableEq, Repr

/-- The quoting that letters before a quote ask for. -/
def quoting? (letters : List Char) : Option Quoting :=
  match String.ofList (letters.map Char.toLower) with
  | "" | "u" => some ⟨false, false⟩
  | "r" => some ⟨true, false⟩
  | "b" => some ⟨false, true⟩
  | "br" | "rb" => some ⟨true, true⟩
  | _ => none

/-- Whether so many hexadecimal digits are in front, which spell a number up to the given one. -/
def isCode (count most : Nat) (cs : List Char) : Bool :=
  let digits := cs.take count
  digits.length == count && digits.all (isDigitOf 16)
    && ofDigits 16 (digits.filterMap (digitIn? 16)) ≤ most

/-- Whether the name of a character is in front, between braces. -/
def isNamed : List Char → Bool
  | '\x7b' :: cs =>
    let name := cs.takeWhile (· != '\x7d')
    name.length < cs.length && CharacterName.isName name
  | _ => false

/-- Whether a backslash with a letter is complete. -/
def isEscape (q : Quoting) (letter : Char) (cs : List Char) : Bool :=
  if q.raw then true
  else if letter = 'x' then isCode 2 0xff cs
  else if q.bytes then true
  else if letter = 'u' then isCode 4 0xffff cs
  else if letter = 'U' then isCode 8 0x10ffff cs
  else if letter = 'N' then isNamed cs
  else true

/-- Whether a character may stand between the quotes. -/
def mayStand (q : Quoting) (c : Char) : Bool :=
  !q.bytes || c.toNat < 0x80

/-- What is left of a text after the quote that ends it, or after the three quotes. -/
def afterText? (q : Quoting) (quote : Char) (three : Bool) : List Char → Option (List Char)
  | [] => none
  | [c] => if c = quote ∧ !three then some [] else none
  | '\\' :: c :: cs =>
    if isEscape q c cs && mayStand q c then afterText? q quote three cs else none
  | c :: cs =>
    if c = quote then
      if three then
        match cs with
        | d :: e :: rest =>
          if d = quote ∧ e = quote then some rest else afterText? q quote three (d :: e :: rest)
        | _ => none
      else some cs
    else if c = '\n' ∧ !three then none
    else if mayStand q c then afterText? q quote three cs
    else none

/-- What is left after a text whose first quote is read. -/
def afterQuote? (q : Quoting) (quote : Char) : List Char → Option (List Char)
  | d :: e :: cs =>
    if d = quote ∧ e = quote then afterText? q quote true cs
    else afterText? q quote false (d :: e :: cs)
  | cs => afterText? q quote false cs

/-- Quotes. -/
def isQuote (c : Char) : Bool :=
  c == '\'' || c == '"'

/-! ## Tokens -/

/-- A token that begins with a word's character, or a quote, and the rest. -/
def wordOrText? (cs : List Char) : Option (Token × List Char) :=
  let (letters, rest) := cs.span isWordChar
  match rest with
  | c :: after =>
    if isQuote c then
      (quoting? letters).bind fun q => (afterQuote? q c after).map (Token.text q.bytes, ·)
    else some (.word letters, rest)
  | [] => some (.word letters, [])

/-- Whether a character begins a number. -/
def beginsNumber : List Char → Bool
  | '.' :: c :: _ => isAsciiDigit c
  | c :: _ => isAsciiDigit c
  | [] => false

/-- The token in front of a text, and the rest. -/
def token? (cs : List Char) : Option (Token × List Char) :=
  if beginsNumber cs then (number? cs).map fun (kind, rest) => (.number kind, rest)
  else
    match cs with
    | '.' :: '.' :: '.' :: rest => some (.dots, rest)
    | c :: rest =>
      if isWordChar c || isQuote c then wordOrText? cs
      else if "()\x7b\x7d,:+-".toList.contains c then some (.sign c, rest)
      else none
    | [] => none

/-- In how many groups a token may stand. -/
def groupLimit : Nat := 200

/-- In how many groups a text is after a token; not in more than there may be. -/
def depthAfter? (depth : Nat) : Token → Option Nat
  | .sign c =>
    if c = '(' ∨ c = '\x7b' then if depth < groupLimit then some (depth + 1) else none
    else if c = ')' ∨ c = '\x7d' then some (depth - 1)
    else some depth
  | _ => some depth

/-- The tokens of a text, at most so many, in some groups. Blanks and comments stand between them.
A backslash at the end of a line joins it with the next. -/
def tokens? (depth : Nat) : Nat → List Char → Option (List Token)
  | 0, cs => if cs.isEmpty then some [] else none
  | _ + 1, [] => some []
  | fuel + 1, c :: cs =>
    if c = ' ' ∨ c = '\t' ∨ c = '\x0c' then tokens? depth fuel cs
    else if c = '#' then tokens? depth fuel (cs.dropWhile (· != '\n'))
    else if c = '\n' then
      if depth = 0 then (tokens? depth fuel cs).map (.lineEnd :: ·) else tokens? depth fuel cs
    else if c = '\\' then
      match cs with
      | '\n' :: d :: cs => tokens? depth fuel (d :: cs)
      | _ => none
    else
      match token? (c :: cs) with
      | some (t, rest) =>
        match depthAfter? depth t with
        | some depth => (tokens? depth fuel rest).map (t :: ·)
        | none => none
      | none => none

/-- Where in the margin of a line a text is. -/
inductive Margin where
  /-- After blanks, some of which count, perhaps; and whether some stood before a line that this
  one continues. -/
  | blanks (any before : Bool)
  | comment
  deriving DecidableEq, Repr

/-- What is left of a text after empty lines and comments, unless blanks stand before it. A form
feed takes back the blanks before it in the line. -/
def afterMargin? : Margin → List Char → Option (List Char)
  | _, [] => some []
  | .comment, c :: cs => afterMargin? (if c = '\n' then .blanks false false else .comment) cs
  | .blanks any before, c :: cs =>
    if c = ' ' ∨ c = '\t' then afterMargin? (.blanks true before) cs
    else if c = '\x0c' then afterMargin? (.blanks false before) cs
    else if c = '\n' then afterMargin? (.blanks false false) cs
    else if c = '#' then afterMargin? .comment cs
    else if c = '\\' then
      match cs with
      | '\n' :: d :: cs => afterMargin? (.blanks any (before || any)) (d :: cs)
      | _ => none
    else if any || before then none
    else some (c :: cs)

/-- The tokens of a text that is not indented. Each kind of line break counts, and no zero may
stand in it. -/
def Token.ofChars? (cs : List Char) : Option (List Token) :=
  if cs.contains (Char.ofNat 0) then none
  else
    (afterMargin? (.blanks false false) (unifyBreaks cs)).bind fun rest =>
      tokens? 0 (rest.length + 1) rest

end Sabotage.Text.Constant
