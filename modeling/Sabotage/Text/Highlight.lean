import Sabotage.Text.Digit
import Sabotage.Text.Letter
import Sabotage.Text.Pattern

/-!
# Highlighting

On a terminal, values in a text are shown in colours: names with values, brackets, numbers,
addresses, paths, quoted texts. `Highlight.stretches` gives what is coloured; the colours do not
matter here.
-/

namespace Sabotage.Text.Highlight

open Pattern

/-- A hexadecimal digit. -/
def isHexDigit (c : Char) : Bool :=
  isAsciiDigit c || ('a' ≤ c && c ≤ 'f') || ('A' ≤ c && c ≤ 'F')

/-- A character of a word, or one of some more. -/
def wordOr (more : String) : Pattern :=
  one fun c => isWordChar c || more.toList.contains c

/-- An ASCII digit. -/
def digit : Pattern := one isAsciiDigit

/-- A digit of any script. -/
def anyDigit : Pattern := one fun c => (digitValue? c).isSome

/-- A hexadecimal digit. -/
def hex : Pattern := one isHexDigit

/-- A place between a character of a word and one that is none. -/
def isEdge (before? after? : Option Char) : Bool :=
  before?.any isWordChar != after?.any isWordChar

/-- The edge of a word. -/
def edge : Pattern := joint isEdge

/-- A place that is no edge of a word. -/
def noEdge : Pattern := joint fun before? after? => !isEdge before? after?

/-- A place with no character of a word before it. -/
def noWordBefore : Pattern := joint fun before? _ => !before?.any isWordChar

/-! ## Kinds of values -/

/-- What is between angle brackets. -/
def bracketed : Pattern :=
  all [marked (text "<"), marked (many (wordOr "-.:|")), marked (many (one fun _ => true)),
    marked (text ">")]

/-- A name and the value given to it. -/
def assignment : Pattern :=
  all [marked (between 1 50 (wordOr "")), text "=",
    optional (marked (all [optional (text "\""), oneOrMore (wordOr ""), optional (text "\"")]))]

/-- A bracket. -/
def bracket : Pattern := marked (oneOf "[]\x7b\x7d()")

/-- Four numbers with points between them. -/
def shortAddress : Pattern :=
  let part := between 1 3 digit
  marked (all [part, text ".", part, text ".", part, text ".", part])

/-- Hexadecimal numbers with colons between them. -/
def longAddress : Pattern :=
  let part := between 1 4 hex
  marked (all [between 1 7 (all [part, text ":", optional (text ":")]), part])

/-- So many pairs of hexadecimal digits, or half as many groups of four with points. -/
def deviceAddress (pairs : Nat) : Pattern :=
  let pair := between 1 2 hex
  let four := exactly 4 hex
  marked (any [all [exactly (pairs - 1) (all [pair, text "-"]), pair],
    all [exactly (pairs - 1) (all [pair, text ":"]), pair],
    all [exactly (pairs / 2 - 1) (all [four, text "."]), four]])

/-- Groups of eight, four, four, four and twelve hexadecimal digits. -/
def identifier : Pattern :=
  let group (n : Nat) := exactly n hex
  marked (all [group 8, text "-", group 4, text "-", group 4, text "-", group 4, text "-",
    group 12])

/-- The name of what is called. -/
def call : Pattern := all [marked (few (wordOr ".")), text "("]

/-- A word that stands alone. -/
def word (s : String) : Pattern := all [edge, marked (text s), edge]

/-- The exponent of a number, with as few or as many digits as possible. -/
def exponent (digits : Pattern → Pattern) : Pattern :=
  all [text "e", optional (oneOf "-+"), digits anyDigit]

/-- Digits with a point among them or after them, and an exponent perhaps. -/
def decimal (digits : Pattern → Pattern) : Pattern :=
  all [oneOrMore digit, optional (text "."), many digit, optional (exponent digits)]

/-- At least one, and as few as possible. -/
def oneAtLeast (p : Pattern) : Pattern := times 1 none false p

/-- A number with an imaginary part. -/
def imaginary : Pattern :=
  marked (all [noWordBefore, optional (text "-"), decimal oneAtLeast,
    optional (all [oneOf "-+", decimal oneOrMore]), text "j"])

/-- A number. -/
def number : Pattern :=
  marked (any [all [noWordBefore, optional (text "-"), decimal oneAtLeast, edge],
    all [text "0x", many hex]])

/-- A path and the name of a file at its end. -/
def path : Pattern :=
  all [marked (all [noEdge, many (all [text "/", oneOrMore (wordOr "-._+")]), text "/"]),
    optional (marked (many (wordOr "-._+")))]

/-- What is between two quotes on one line, the last of which has no backslash before it. -/
def quotedBy (quote : String) : Pattern :=
  all [optional (text "b"), text quote, few (one (· != '\n')),
    joint fun before? _ => before? != some '\\', text quote]

/-- A quoted text. -/
def quoted : Pattern :=
  all [joint fun before? _ => !before?.any fun c => c == '\\' || isWordChar c,
    marked (any [quotedBy "'''", quotedBy "'", quotedBy "\"\"\"", quotedBy "\""])]

/-- The address of a page. -/
def pageAddress : Pattern :=
  marked (all [any (["file", "https", "http", "ws", "wss"].map text), text "://",
    many (one fun c => isAsciiDigit c || ('a' ≤ c && c ≤ 'z') || ('A' ≤ c && c ≤ 'Z')
      || "-$_+!`(),.?/;:&=%#~@".toList.contains c)])

/-- A value of the kinds of which the first that matches counts. -/
def value : Pattern :=
  any [shortAddress, longAddress, deviceAddress 8, deviceAddress 6, identifier, call, word "True",
    word "False", word "None", marked (text "..."), imaginary, number, path, quoted, pageAddress]

/-- The stretches of a text that are coloured. -/
def stretches (cs : List Char) : List Stretch :=
  [bracketed, assignment, bracket, value].flatMap (·.stretches cs)

end Sabotage.Text.Highlight
