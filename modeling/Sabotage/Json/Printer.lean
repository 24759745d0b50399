import Sabotage.Decimal.Layout
import Sabotage.Decimal.Numeral
import Sabotage.Json.Basic
import Sabotage.Text.Digit

/-!
# Writing JSON

A `Style` holds the decisions: whether characters outside ASCII are escaped, how many blanks a
level is indented by (none: everything on one line), and what separates items and names. Numbers
that are not finite are written `NaN`, `Infinity` and `-Infinity`. What is written is a spelling:
unless all but ASCII is escaped, halves stand in it as they are.
-/

namespace Sabotage.Json

/-- How JSON is laid out. -/
structure Style where
  /-- Characters outside ASCII are written as escapes. -/
  asciiOnly : Bool
  /-- Blanks per level, when every item has a line of its own. -/
  indent : Option Nat
  /-- Between two items. -/
  itemSeparator : String
  /-- Between a name and its value. -/
  nameSeparator : String
  /-- How finite floats are laid out. -/
  floats : Decimal.Layout
  /-- Numbers that are not finite are spelled out, not written as `null`. -/
  spellsInfinities : Bool

/-- One line without blanks, characters as they are. -/
def Style.compact : Style := ⟨false, none, ",", ":", .plain, true⟩

/-- Two blanks per level, characters as they are. -/
def Style.pretty : Style := ⟨false, some 2, ",", ": ", .plain, true⟩

/-- Two blanks per level, ASCII only. -/
def Style.file : Style := ⟨true, some 2, ",", ": ", .plain, true⟩

/-- One line as in `Style.compact`, for records: exponents without padding, and `null` for numbers
that are not finite. -/
def Style.record : Style := ⟨false, none, ",", ":", .terse, false⟩

/-- Four hexadecimal digits. -/
def hex4 (n : Nat) : List Char :=
  [n / 4096 % 16, n / 256 % 16, n / 16 % 16, n % 16].map Text.digitChar

/-- The escape of a code unit of sixteen bits. -/
def unitEscape (n : Nat) : List Char :=
  '\\' :: 'u' :: hex4 n

/-- The escape of a character, as one or two code units. -/
def charEscape (c : Char) : List Char :=
  let n := c.toNat
  if n < 0x10000 then unitEscape n
  else
    let m := n - 0x10000
    unitEscape (0xd800 + m / 1024) ++ unitEscape (0xdc00 + m % 1024)

/-- A character inside a quoted text. -/
def quotedChar (asciiOnly : Bool) (c : Char) : List Char :=
  match c with
  | '"' => ['\\', '"']
  | '\\' => ['\\', '\\']
  | '\n' => ['\\', 'n']
  | '\r' => ['\\', 'r']
  | '\t' => ['\\', 't']
  | '\x08' => ['\\', 'b']
  | '\x0c' => ['\\', 'f']
  | c =>
    if c.toNat < 0x20 then unitEscape c.toNat
    else if asciiOnly && c.toNat > 0x7e then charEscape c
    else [c]

/-- A sign inside a quoted text. -/
def quotedSign (asciiOnly : Bool) : Text.Sign → List Text.Sign
  | .char c => Text.Spelling.ofChars (quotedChar asciiOnly c)
  | .half unit => if asciiOnly then Text.Spelling.ofChars (unitEscape unit) else [.half unit]

/-- A text in quotes. -/
def quote (asciiOnly : Bool) (s : Text.Spelling) : Text.Spelling :=
  ⟨.char '"' :: s.signs.flatMap (quotedSign asciiOnly) ++ [.char '"']⟩

/-- A float. -/
def floatText (style : Style) (x : Float) : String :=
  if x.isFinite then Decimal.renderFinite style.floats x
  else if !style.spellsInfinities then "null"
  else if x.isNaN then "NaN"
  else if Decimal.isNegative x then "-Infinity"
  else "Infinity"

/-- A line break and the blanks of a level. -/
def newline (style : Style) (level : Nat) : String :=
  match style.indent with
  | none => ""
  | some n => String.ofList ('\n' :: List.replicate (n * level) ' ')

/-- Items between brackets, each on a line of the level below when the style indents. -/
def bracketed (style : Style) (level : Nat) (opening closing : String)
    (texts : List Text.Spelling) : Text.Spelling :=
  match texts with
  | [] => opening ++ closing
  | _ =>
    opening ++ newline style (level + 1)
      ++ Text.Spelling.intercalate (style.itemSeparator ++ newline style (level + 1)) texts
      ++ newline style level ++ closing

mutual
/-- A value at a level of nesting. -/
def renderAt (style : Style) (level : Nat) : Json → Text.Spelling
  | .null => "null"
  | .bool b => if b then "true" else "false"
  | .int n => toString n
  | .float x => floatText style x
  | .str s => quote style.asciiOnly s
  | .arr xs => bracketed style level "[" "]" (renderItems style (level + 1) xs)
  | .obj fs => bracketed style level "\x7b" "\x7d" (renderFields style (level + 1) fs)

/-- The texts of the items of an array. -/
def renderItems (style : Style) (level : Nat) : List Json → List Text.Spelling
  | [] => []
  | x :: xs => renderAt style level x :: renderItems style level xs

/-- The texts of the fields of an object. -/
def renderFields (style : Style) (level : Nat) : Fields → List Text.Spelling
  | [] => []
  | (k, v) :: fs =>
    (quote style.asciiOnly k ++ style.nameSeparator ++ renderAt style level v)
      :: renderFields style level fs
end

/-- A value as text, in which halves may stand. -/
def render (style : Style) (j : Json) : Text.Spelling :=
  renderAt style 0 j

/-- A value as text, in which halves are escaped or replaced. -/
def renderText (style : Style) (j : Json) : String :=
  (j.render style).legible

/-! ## Writing within limits -/

/-- The beginning of a text, and whether it is all of it. -/
structure Excerpt where
  text : Text.Spelling
  complete : Bool

namespace Excerpt

/-- A text that is all there. -/
def whole (text : Text.Spelling) : Excerpt := ⟨text, true⟩

/-- What is there of a text of which nothing can be written. -/
def nothing : Excerpt := ⟨"", false⟩

/-- One text after another, as far as they are there. -/
def append (a b : Excerpt) : Excerpt :=
  if a.complete then ⟨a.text ++ b.text, b.complete⟩ else a

instance : Append Excerpt := ⟨append⟩

end Excerpt

/-- Whether a value is an integer of too many digits to be written. -/
def isOverlong : Json → Bool
  | .int n => Decimal.digitCount n.natAbs > Numeral.digitLimit
  | _ => false

mutual
/-- A value at a level of nesting, with so many levels left below. Writing ends before an integer of
too many digits and before an array or object for which no level is left. -/
def excerptAt (style : Style) (levels level : Nat) : Json → Excerpt
  | .arr xs =>
    if xs.isEmpty then .whole "[]"
    else
      match levels with
      | 0 => .nothing
      | levels + 1 =>
        excerptItems style levels (level + 1) ("[" ++ newline style (level + 1)) xs
          ++ .whole (newline style level ++ "]")
  | .obj fs =>
    if fs.isEmpty then .whole "\x7b\x7d"
    else
      match levels with
      | 0 => .nothing
      | levels + 1 =>
        excerptFields style levels (level + 1) ("\x7b" ++ newline style (level + 1)) fs
          ++ .whole (newline style level ++ "\x7d")
  | j => if j.isOverlong then .nothing else .whole (renderAt style level j)

/-- The items of an array, with a text before the first. It is not written when the item is an
integer of too many digits. -/
def excerptItems (style : Style) (levels level : Nat) (before : String) : List Json → Excerpt
  | [] => .whole ""
  | x :: xs =>
    (if x.isOverlong then .nothing else .whole before ++ excerptAt style levels level x)
      ++ excerptItems style levels level (style.itemSeparator ++ newline style level) xs

/-- The fields of an object, with a text before the first. -/
def excerptFields (style : Style) (levels level : Nat) (before : String) : Fields → Excerpt
  | [] => .whole ""
  | (k, v) :: fs =>
    .whole (before ++ (quote style.asciiOnly k ++ style.nameSeparator))
      ++ excerptAt style levels level v
      ++ excerptFields style levels level (style.itemSeparator ++ newline style level) fs
end

/-- As much of a value as can be written. -/
def excerpt (style : Style) (j : Json) : Excerpt :=
  excerptAt style levelLimit 0 j

end Sabotage.Json
