import Sabotage.Text.CharacterName.Aliases
import Sabotage.Text.CharacterName.EastAsia
import Sabotage.Text.CharacterName.LaterLetters
import Sabotage.Text.CharacterName.Letters
import Sabotage.Text.CharacterName.Notations
import Sabotage.Text.CharacterName.OldScripts
import Sabotage.Text.CharacterName.Pictures
import Sabotage.Text.CharacterName.Symbols
import Sabotage.Text.Digit
import Sabotage.Text.Split

/-!
# Names of characters

Unicode gives characters names of capital letters, digits, blanks and hyphens, and some have other
names beside. `isName` says whether a text is one of these names, in letters of either case. The
syllables of Hangul and the unified ideographs have names that follow a rule, in capitals only;
other names end with a number. All the rest is listed, by families: a word of a listing that ends
with a colon begins a family, the words after it are how its names go on, and a low line stands for
a blank. A family may have several beginnings.
-/

namespace Sabotage.Text.CharacterName

/-- What follows a given beginning. -/
def after? : List Char → List Char → Option (List Char)
  | [], cs => some cs
  | b :: bs, c :: cs => if b = c then after? bs cs else none
  | _ :: _, [] => none

/-- What follows is what the beginning can be put before. -/
theorem after?_eq_some_iff {beginning cs rest : List Char} :
    after? beginning cs = some rest ↔ cs = beginning ++ rest := by
  fun_induction after? beginning cs <;> simp_all [eq_comm]

/-! ## Listed names -/

/-- All listings as words. -/
def listedWords : List (List Char) :=
  [letterNames, symbolNames, eastAsianNames, laterLetterNames, oldScriptNames, notationNames,
    pictureNames, otherNames].flatMap fun listing =>
      ((pieces '\n' listing.toList).flatMap (pieces ' ')).filter (!·.isEmpty)

/-- Whether a name, with low lines for its blanks, is listed. `rests` are what follows the
beginnings of the family in the name, and `isBegun` says that a word of the family has been
seen. -/
def isListedIn (name : List Char) (isBegun : Bool) (rests : List (List Char)) :
    List (List Char) → Bool
  | [] => false
  | word :: words =>
    if word.getLast? = some ':' then
      let rests := if isBegun then [] else rests
      isListedIn name false ((after? word.dropLast name).toList ++ rests) words
    else rests.contains word || isListedIn name true rests words

/-- Whether a name in capitals is listed. -/
def isListed (name : List Char) : Bool :=
  isListedIn (name.map fun c => if c = ' ' then '_' else c) false [] listedWords

/-! ## Names with numbers -/

/-- Names that end with a number. -/
structure Numbered where
  beginning : String
  base : Nat
  /-- How many digits there are at least. -/
  width : Nat
  /-- The numbers, both ends included. -/
  ranges : List (Nat × Nat)

/-- The kinds of names that end with a number. -/
def numbered : List Numbered :=
  [⟨"CJK COMPATIBILITY IDEOGRAPH-", 16, 4, [(0xf900, 0xfa6d), (0xfa70, 0xfad9),
      (0x2f800, 0x2fa1d)]⟩,
    ⟨"NUSHU CHARACTER-", 16, 4, [(0x1b170, 0x1b2fb)]⟩,
    ⟨"KHITAN SMALL SCRIPT CHARACTER-", 16, 4, [(0x18b00, 0x18cd5)]⟩,
    ⟨"TANGUT COMPONENT-", 10, 3, [(1, 768)]⟩,
    ⟨"VARIATION SELECTOR-", 10, 1, [(1, 256)]⟩,
    ⟨"VS", 10, 1, [(1, 256)]⟩]

/-- The number that ASCII digits in capitals spell. -/
def number? (base : Nat) (digits : List Char) : Option Nat :=
  if digits.all fun c => isAsciiDigit c || ('A' ≤ c && c ≤ 'F') then
    (digits.mapM (digitIn? base)).map (ofDigits base)
  else none

/-- Whether a number is in one of the ranges. -/
def isWithin (ranges : List (Nat × Nat)) (n : Nat) : Bool :=
  ranges.any fun r => r.1 ≤ n && n ≤ r.2

/-- Whether a name is of a kind that ends with a number, which has no more zeros in front than its
width needs. -/
def Numbered.holds (kind : Numbered) (name : List Char) : Bool :=
  match after? kind.beginning.toList name with
  | some digits =>
    (digits.length == kind.width || (kind.width < digits.length && digits.head? != some '0'))
      && (number? kind.base digits).any (isWithin kind.ranges)
  | none => false

/-! ## Names by rule -/

/-- The unified ideographs. -/
def ideographRanges : List (Nat × Nat) :=
  [(0x3400, 0x4dbf), (0x4e00, 0x9fff), (0x20000, 0x2a6df), (0x2a700, 0x2b738), (0x2b740, 0x2b81d),
    (0x2b820, 0x2cea1), (0x2ceb0, 0x2ebe0), (0x30000, 0x3134a)]

/-- Whether four or five digits are the code point of a unified ideograph. -/
def isIdeograph (digits : List Char) : Bool :=
  (digits.length == 4 || digits.length == 5)
    && (number? 16 digits).any (isWithin ideographRanges)

/-- How the first sounds of syllables are written. -/
def leads : List String :=
  ["G", "GG", "N", "D", "DD", "R", "M", "B", "BB", "S", "SS", "", "J", "JJ", "C", "K", "T", "P",
    "H"]

/-- How the vowels of syllables are written. -/
def vowels : List String :=
  ["A", "AE", "YA", "YAE", "EO", "E", "YEO", "YE", "O", "WA", "WAE", "OE", "YO", "U", "WEO", "WE",
    "WI", "YU", "EU", "YI", "I"]

/-- How the last sounds of syllables are written. -/
def trails : List String :=
  ["", "G", "GG", "GS", "N", "NJ", "NH", "D", "L", "LG", "LM", "LB", "LS", "LT", "LP", "LH", "M",
    "B", "BS", "S", "SS", "NG", "J", "C", "K", "T", "P", "H"]

/-- What follows the longest of the sounds that is in front. -/
def afterLongest? (sounds : List String) (cs : List Char) : Option (List Char) :=
  (sounds.filterMap fun s => after? s.toList cs).foldl
    (fun best? rest =>
      if best?.any fun best => best.length ≤ rest.length then best? else some rest)
    none

/-- Whether a text spells the three sounds of a syllable. -/
def isSyllable (cs : List Char) : Bool :=
  ((afterLongest? leads cs).bind (afterLongest? vowels)).bind (afterLongest? trails) == some []

/-! ## All names -/

/-- Whether a text is a name that is listed or ends with a number, in capitals. -/
def isCapitalName (name : List Char) : Bool :=
  name.all (fun c => isAsciiDigit c || ('A' ≤ c && c ≤ 'Z') || c == ' ' || c == '-')
    && (isListed name || numbered.any (·.holds name))

/-- Whether a text is the name of a character. -/
def isName (name : List Char) : Bool :=
  match after? "HANGUL SYLLABLE ".toList name, after? "CJK UNIFIED IDEOGRAPH-".toList name with
  | some sounds, _ => isSyllable sounds
  | none, some digits => isIdeograph digits
  | none, none => isCapitalName (name.map Char.toUpper)

end Sabotage.Text.CharacterName
