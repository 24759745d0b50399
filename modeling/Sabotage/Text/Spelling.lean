import Sabotage.Text.Blank

/-!
# Spellings

Beyond the first 65536 characters, escapes spell a character as two code units of sixteen bits, a
high and a low half. A half that stands alone spells no character, but a text that was read may
hold it. So what is read is a `Spelling`, a list of signs, each a character or such a half.
`Spelling.toString?` is the text it spells, if it has no halves, and every text is spelled by its
characters.
-/

namespace Sabotage.Text

/-- A character, or a half that stands alone. -/
inductive Sign where
  | char (c : Char)
  /-- The code unit of a half. -/
  | half (unit : Nat)
  deriving DecidableEq, Repr

namespace Sign

/-- Whether a code unit is the first half of a character. -/
def isHighHalf (unit : Nat) : Bool :=
  0xd800 ≤ unit && unit < 0xdc00

/-- Whether a code unit is the second half of a character. -/
def isLowHalf (unit : Nat) : Bool :=
  0xdc00 ≤ unit && unit < 0xe000

/-- Whether a code unit is a half. -/
def isHalf (unit : Nat) : Bool :=
  isHighHalf unit || isLowHalf unit

/-- The character of two halves. -/
def ofHalves (high low : Nat) : Char :=
  Char.ofNat (0x10000 + (high - 0xd800) * 1024 + (low - 0xdc00))

/-- The character that a sign is. -/
def char? : Sign → Option Char
  | .char c => some c
  | .half _ => none

/-- Whether a sign is a character with a property. -/
def satisfies (p : Char → Bool) (s : Sign) : Bool :=
  s.char?.any p

/-- The character itself, or the one that takes the place of what cannot be shown. -/
def legible : Sign → Char
  | .char c => c
  | .half _ => Char.ofNat 0xfffd

end Sign

/-- A text in which halves may stand alone. -/
structure Spelling where
  signs : List Sign
  deriving DecidableEq, Repr, Inhabited

namespace Spelling

/-- Characters as signs. -/
def ofChars (cs : List Char) : List Sign :=
  cs.map .char

/-- Signs as characters, if none is a half. -/
def chars? (signs : List Sign) : Option (List Char) :=
  signs.mapM Sign.char?

/-- The spelling of a text. -/
def ofString (s : String) : Spelling :=
  ⟨ofChars s.toList⟩

instance : Coe String Spelling := ⟨ofString⟩

/-- The text that is spelled, if there is one. -/
def toString? (s : Spelling) : Option String :=
  (chars? s.signs).map String.ofList

/-- The text with every half replaced. -/
def legible (s : Spelling) : String :=
  String.ofList (s.signs.map Sign.legible)

/-- Whether there are no signs. -/
def isEmpty (s : Spelling) : Bool :=
  s.signs.isEmpty

instance : Append Spelling := ⟨fun s t => ⟨s.signs ++ t.signs⟩⟩

/-- A spelling without the blanks at its ends. -/
def strip (s : Spelling) : Spelling :=
  ⟨trimBy (Sign.satisfies isBlank) s.signs⟩

/-- Spellings with a text between each two. -/
def intercalate (between : String) (parts : List Spelling) : Spelling :=
  ⟨(parts.map signs).intersperse (ofChars between.toList) |>.flatten⟩

/-- Characters are read back from their signs. -/
theorem chars?_ofChars (cs : List Char) : chars? (ofChars cs) = some cs := by
  induction cs with
  | nil => rfl
  | cons c cs ih =>
    simp only [chars?, ofChars, List.map_cons, List.mapM_cons] at ih ⊢
    simp [Sign.char?, ih]

/-- A text is what its spelling spells. -/
@[simp] theorem toString?_ofString (s : String) : (ofString s).toString? = some s := by
  simp [toString?, ofString, chars?_ofChars]

/-- Texts that are spelled alike are one text. -/
theorem ofString_injective : Function.Injective ofString := fun s t h =>
  Option.some.inj (by rw [← toString?_ofString s, h, toString?_ofString])

/-- The signs of characters only are the signs of these characters. -/
theorem eq_ofChars_of_chars? {signs : List Sign} {cs : List Char} (h : chars? signs = some cs) :
    signs = ofChars cs := by
  induction signs generalizing cs with
  | nil => simp [chars?] at h; subst h; rfl
  | cons s signs ih =>
    cases s with
    | half u => simp [chars?, Sign.char?] at h
    | char c =>
      simp only [chars?, List.mapM_cons, Sign.char?, Option.pure_def, Option.bind_eq_bind,
        Option.bind_some, Option.bind_eq_some_iff, Option.some.injEq] at h
      obtain ⟨rest, hr, rfl⟩ := h
      simp [ofChars, @ih rest hr]

/-- What spells a text is its spelling. -/
theorem eq_ofString_of_toString? {s : Spelling} {t : String} (h : s.toString? = some t) :
    s = ofString t := by
  obtain ⟨cs, hc, rfl⟩ := Option.map_eq_some_iff.1 h
  cases s
  simp [ofString, ← eq_ofChars_of_chars? hc]

end Spelling

end Sabotage.Text
