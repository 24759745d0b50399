import Sabotage.Decimal.Layout
import Sabotage.Decimal.Numeral

/-!
# Number literals

`bumpLiteral?` gives the decimal spelling of a number literal's value plus one. It reads decimal
integers and fractions, the bases announced by `0x`, `0o` and `0b`, and the two legacy forms with a
leading zero, octal when all digits are below eight. A literal that ends in `n` is no plain number
and is left alone, as is what cannot be read or what would take too many digits to write.
-/

namespace Sabotage.Literal

open Text

/-- The forms a literal is told apart by. -/
inductive Form where
  | legacyOctal | legacyDecimal | announced | fraction | integer
  deriving DecidableEq, Repr

/-- A zero followed by at least one more character, all of them of a class. -/
def isLegacy (digit : Char → Bool) : List Char → Bool
  | '0' :: d :: ds => (d :: ds).all digit
  | _ => false

/-- Whether a base is announced at the front. -/
def announces : List Char → Bool
  | '0' :: letter :: _ => (Numeral.announcedBase? letter).isSome
  | _ => false

/-- The form of a literal; a legacy form is tried before a fraction, an announced base before the
letter `e`. -/
def form (cs : List Char) : Form :=
  if isLegacy (fun c => '0' ≤ c && c ≤ '7') cs then .legacyOctal
  else if isLegacy isAsciiDigit cs then .legacyDecimal
  else if announces cs then .announced
  else if cs.any fun c => c == '.' || c == 'e' || c == 'E' then .fraction
  else .integer

/-- A whole number below `10 ^ 21` is written as an integer, any other float as the shortest
decimal. -/
def writeFloat? (x : Float) : Option String :=
  if Decimal.isIntegral x && x.abs < 1e21 then Numeral.writeInt? (Decimal.truncate x)
  else some (Decimal.renderFloat x)

/-- The value of an integer form plus one. -/
def successor? (n : Option Int) : Option String :=
  n.bind fun n => Numeral.writeInt? (n + 1)

/-- The spelling of a literal's value plus one. -/
def bump? (text : String) : Option String :=
  let cs := text.toList.filter (· != '_')
  let raw := String.ofList cs
  if cs.isEmpty || cs.getLast? == some 'n' then none
  else
    match form cs with
    | .legacyOctal => successor? (Numeral.readInt? 8 raw)
    | .legacyDecimal => successor? (Numeral.readInt? 10 raw)
    | .announced => successor? (Numeral.readAnnounced? raw)
    | .fraction => (Numeral.readFloat? raw).bind fun x => writeFloat? (x + 1)
    | .integer => successor? (Numeral.readInt? 10 raw)

end Sabotage.Literal
