import Sabotage.Decimal.Numeral
import Sabotage.Table
import Sabotage.Text.Lowercase
import Sabotage.Text.Spelling
import Sabotage.Text.Split

/-!
# Styles

A style is described in words: attributes such as `bold`, which may be abbreviated or negated with
`not`, a colour, a colour after `on` for the background, an address after `link`. `Style.normalize`
gives all descriptions of one style the same words, so that they can be compared. Words that
describe no style are a name of their own, in small letters.
-/

namespace Sabotage.Text

/-- A style. -/
structure Style where
  /-- The attributes that are switched on or off. -/
  switches : List (String × Bool)
  color? : Option String
  background? : Option String
  link? : Option Spelling
  deriving Repr

/-- Why words describe no style. -/
inductive StyleError where
  | noStyle
  /-- A colour is given by numbers, one of which is missing or too long. -/
  | badNumber
  deriving DecidableEq, Repr

namespace Style

/-- The style that changes nothing. -/
def empty : Style := ⟨[], none, none, none⟩

/-! ## Colours -/

/-- The colours with a name. -/
def colorNames : List String :=
  ["aquamarine1", "aquamarine3", "black", "blue", "blue1", "blue3", "blue_violet", "bright_black",
    "bright_blue", "bright_cyan", "bright_green", "bright_magenta", "bright_red", "bright_white",
    "bright_yellow", "cadet_blue", "chartreuse1", "chartreuse2", "chartreuse3", "chartreuse4",
    "cornflower_blue", "cornsilk1", "cyan", "cyan1", "cyan2", "cyan3", "dark_blue", "dark_cyan",
    "dark_goldenrod", "dark_green", "dark_khaki", "dark_magenta", "dark_olive_green1",
    "dark_olive_green2", "dark_olive_green3", "dark_orange", "dark_orange3", "dark_red",
    "dark_sea_green", "dark_sea_green1", "dark_sea_green2", "dark_sea_green3", "dark_sea_green4",
    "dark_slate_gray1", "dark_slate_gray2", "dark_slate_gray3", "dark_turquoise", "dark_violet",
    "deep_pink1", "deep_pink2", "deep_pink3", "deep_pink4", "deep_sky_blue1", "deep_sky_blue2",
    "deep_sky_blue3", "deep_sky_blue4", "dodger_blue1", "dodger_blue2", "dodger_blue3", "gold1",
    "gold3", "gray0", "gray100", "gray11", "gray15", "gray19", "gray23", "gray27", "gray3",
    "gray30", "gray35", "gray37", "gray39", "gray42", "gray46", "gray50", "gray53", "gray54",
    "gray58", "gray62", "gray63", "gray66", "gray69", "gray7", "gray70", "gray74", "gray78",
    "gray82", "gray84", "gray85", "gray89", "gray93", "green", "green1", "green3", "green4",
    "green_yellow", "grey0", "grey100", "grey11", "grey15", "grey19", "grey23", "grey27", "grey3",
    "grey30", "grey35", "grey37", "grey39", "grey42", "grey46", "grey50", "grey53", "grey54",
    "grey58", "grey62", "grey63", "grey66", "grey69", "grey7", "grey70", "grey74", "grey78",
    "grey82", "grey84", "grey85", "grey89", "grey93", "honeydew2", "hot_pink", "hot_pink2",
    "hot_pink3", "indian_red", "indian_red1", "khaki1", "khaki3", "light_coral", "light_cyan1",
    "light_cyan3", "light_goldenrod1", "light_goldenrod2", "light_goldenrod3", "light_green",
    "light_pink1", "light_pink3", "light_pink4", "light_salmon1", "light_salmon3",
    "light_sea_green", "light_sky_blue1", "light_sky_blue3", "light_slate_blue", "light_slate_gray",
    "light_slate_grey", "light_steel_blue", "light_steel_blue1", "light_steel_blue3",
    "light_yellow3", "magenta", "magenta1", "magenta2", "magenta3", "medium_orchid",
    "medium_orchid1", "medium_orchid3", "medium_purple", "medium_purple1", "medium_purple2",
    "medium_purple3", "medium_purple4", "medium_spring_green", "medium_turquoise",
    "medium_violet_red", "misty_rose1", "misty_rose3", "navajo_white1", "navajo_white3",
    "navy_blue", "orange1", "orange3", "orange4", "orange_red1", "orchid", "orchid1", "orchid2",
    "pale_green1", "pale_green3", "pale_turquoise1", "pale_turquoise4", "pale_violet_red1", "pink1",
    "pink3", "plum1", "plum2", "plum3", "plum4", "purple", "purple3", "purple4", "red", "red1",
    "red3", "rosy_brown", "royal_blue1", "salmon1", "sandy_brown", "sea_green1", "sea_green2",
    "sea_green3", "sky_blue1", "sky_blue2", "sky_blue3", "slate_blue1", "slate_blue3",
    "spring_green1", "spring_green2", "spring_green3", "spring_green4", "steel_blue", "steel_blue1",
    "steel_blue3", "tan", "thistle1", "thistle3", "turquoise2", "turquoise4", "violet", "wheat1",
    "wheat4", "white", "yellow", "yellow1", "yellow2", "yellow3", "yellow4"]

/-- What is between a given front and a closing parenthesis at the end. -/
def argument? (front : String) (cs : List Char) : Option (List Char) :=
  if front.toList.isPrefixOf cs && cs.getLast? == some ')' then
    some ((cs.drop front.length).dropLast)
  else none

/-- Six hexadecimal digits after a number sign. -/
def isHexColor : List Char → Bool
  | '#' :: digits =>
    digits.length == 6 && digits.all fun c => isAsciiDigit c || ('a' ≤ c && c ≤ 'f')
  | _ => false

/-- A colour by its number, which is below 256. -/
def isNumbered (cs : List Char) : Bool :=
  match argument? "color(" cs with
  | some digits =>
    !digits.isEmpty && digits.length ≤ 3 && digits.all isAsciiDigit
      && ofDigits 10 (digits.filterMap digitValue?) < 256
  | none => false

/-- A colour by its three parts, which are numbers below 256. -/
def isMixed (cs : List Char) : Except StyleError Bool :=
  match argument? "rgb(" cs with
  | some inside =>
    let parts := pieces ',' inside
    if inside.isEmpty || !inside.all (fun c => c == ',' || (digitValue? c).isSome)
        || parts.length != 3 then .ok false
    else if parts.any fun p => p.isEmpty || p.length > Numeral.digitLimit then .error .badNumber
    else .ok (parts.all fun p => ofDigits 10 (p.filterMap digitValue?) < 256)
  | none => .ok false

/-- Whether a word in small letters is a colour. -/
def isColor (word : String) : Except StyleError Bool :=
  if word = "default" || colorNames.contains word || isHexColor word.toList
      || isNumbered word.toList then .ok true
  else isMixed word.toList

/-- A word in small letters, if it holds no halves. -/
def small? (word : Spelling) : Option String :=
  word.toString?.map fun w => String.ofList (lowercase w.toList)

/-- A word as a colour, in small letters. -/
def color (word : Spelling) : Except StyleError String :=
  match small? word with
  | none => .error .noStyle
  | some small =>
    match isColor small with
    | .ok true => .ok small
    | .ok false => .error .noStyle
    | .error e => .error e

/-! ## Attributes -/

/-- The attributes, in the order in which they are written. -/
def attributes : List String :=
  ["bold", "dim", "italic", "underline", "blink", "blink2", "reverse", "conceal", "strike",
    "underline2", "frame", "encircle", "overline"]

/-- The abbreviations of attributes. -/
def abbreviations : List (String × String) :=
  [("b", "bold"), ("d", "dim"), ("i", "italic"), ("u", "underline"), ("r", "reverse"),
    ("c", "conceal"), ("s", "strike"), ("uu", "underline2"), ("o", "overline")]

/-- The attribute that a word names. -/
def attribute? (word : String) : Option String :=
  if attributes.contains word then some word else Table.lookup word abbreviations

/-- A style with an attribute switched. -/
def switch (s : Style) (name : String) (on : Bool) : Style :=
  { s with switches := Table.assign name on s.switches }

/-! ## Reading and writing -/

/-- A style with what one word adds. -/
def addWord (s : Style) (word : Spelling) : Except StyleError Style :=
  match (small? word).bind attribute? with
  | some name => .ok (s.switch name true)
  | none => (color word).map fun c => { s with color? := some c }

/-- A style with what a word and the one after it add together; none when the first word stands
for itself. -/
def addPair? (s : Style) (word next : Spelling) : Option (Except StyleError Style) :=
  match small? word with
  | some "on" => some ((color next).map fun c => { s with background? := some c })
  | some "not" =>
    some (match next.toString?.bind attribute? with
      | some name => .ok (s.switch name false)
      | none => .error .noStyle)
  | some "link" => some (.ok { s with link? := some next })
  | _ => none

/-- Adds what words describe to a style. -/
def addWords (s : Style) : List Spelling → Except StyleError Style
  | [] => .ok s
  | [word] => s.addWord word
  | word :: next :: rest =>
    match s.addPair? word next with
    | some (.ok s) => addWords s rest
    | some (.error e) => .error e
    | none =>
      match s.addWord word with
      | .ok s => addWords s (next :: rest)
      | .error e => .error e

/-- The words of a style. -/
def words (s : Style) : List Spelling :=
  let switched : List String := attributes.flatMap fun name =>
    match Table.lookup name s.switches with
    | some true => [name]
    | some false => ["not", name]
    | none => []
  let colors := s.color?.toList ++ (s.background?.map fun c => ["on", c]).getD []
  (switched ++ colors).map Spelling.ofString
    ++ (s.link?.map fun address => [Spelling.ofString "link", address]).getD []

/-- The words between the blanks of a text. -/
def wordsOf (text : Spelling) : List Spelling :=
  ((text.signs.splitBy fun s t => s.satisfies isBlank == t.satisfies isBlank).filter fun signs =>
    !signs.any (·.satisfies isBlank)).map Spelling.mk

/-- Signs in small letters. The characters between two halves are a text of their own, which
`run` begins, last first. -/
def lowercaseSigns (run : List Char) : List Sign → List Sign
  | [] => Spelling.ofChars (lowercase run.reverse)
  | .char c :: rest => lowercaseSigns (c :: run) rest
  | .half unit :: rest =>
    Spelling.ofChars (lowercase run.reverse) ++ .half unit :: lowercaseSigns [] rest

/-- The description that all descriptions of the same style share. -/
def normalize (text : Spelling) : Except StyleError Spelling :=
  match empty.addWords (wordsOf text) with
  | .ok s => .ok (Spelling.intercalate " " (if s.words.isEmpty then ["none"] else s.words))
  | .error .noStyle => .ok ⟨lowercaseSigns [] text.strip.signs⟩
  | .error .badNumber => .error .badNumber

end Style

end Sabotage.Text
