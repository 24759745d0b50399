import Sabotage.Text.Digit
import Sabotage.Text.Printable
import Sabotage.Text.Spelling

/-!
# Quoted text

A text between quotes as it is shown to people: single quotes, or double ones when the text holds
single quotes and no double ones. The quote, the backslash and what has no visible form are
escaped.
-/

namespace Sabotage.Text

/-- The quote a text is put between. -/
def quoteFor (signs : List Sign) : Char :=
  if signs.contains (.char '\'') && !signs.contains (.char '"') then '"' else '\''

/-- The escape of a character or a half by its number. -/
def numberEscape (n : Nat) : List Char :=
  if n < 0x100 then '\\' :: 'x' :: hexDigits 2 n
  else if n < 0x10000 then '\\' :: 'u' :: hexDigits 4 n
  else '\\' :: 'U' :: hexDigits 8 n

/-- A character between quotes. -/
def shownChar (quote c : Char) : List Char :=
  if c = quote ∨ c = '\\' then ['\\', c]
  else if c = '\n' then ['\\', 'n']
  else if c = '\r' then ['\\', 'r']
  else if c = '\t' then ['\\', 't']
  else if isPrintable c then [c]
  else numberEscape c.toNat

/-- A sign between quotes. -/
def shownSign (quote : Char) : Sign → List Char
  | .char c => shownChar quote c
  | .half unit => numberEscape unit

/-- A text between quotes. -/
def quoted (s : Spelling) : String :=
  let quote := quoteFor s.signs
  String.ofList (quote :: s.signs.flatMap (shownSign quote) ++ [quote])

end Sabotage.Text
