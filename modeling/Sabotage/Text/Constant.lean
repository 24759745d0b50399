import Sabotage.Text.Constant.Token

/-!
# Constants

A constant is written as a number, a text between quotes, one of a few words, or a group of
constants: between parentheses a row, between braces a set or a table. `isConstant` says whether a
text spells one. What stands in a set, and the keys of a table, must not change later, so these are
no sets or tables themselves.

Constants may be nested, but only so deep: reading takes a number of levels, which are counted along
with it, and there are `levelLimit` of them.
-/

namespace Sabotage.Text.Constant

/-! ## What is read -/

/-- What matters about a constant inside another one. -/
inductive Shape where
  /-- A number as it is. -/
  | number (kind : NumberKind)
  /-- A number with a sign that is not imaginary. -/
  | signed (kind : NumberKind)
  /-- Any other constant: whether it never changes. -/
  | other (fixed : Bool)
  deriving DecidableEq, Repr

/-- Whether a constant never changes. -/
def Shape.fixed : Shape → Bool
  | .other fixed => fixed
  | _ => true

/-- A constant after a sign, which only numbers have. -/
def Shape.signed? : Shape → Option Shape
  | .number .imaginary => some (.other true)
  | .number kind => some (.signed kind)
  | _ => none

/-- A sum of a number and an imaginary one, for which the number must be a float. -/
def Shape.plus? : Shape → Shape → Option Shape
  | .number .real, .number .imaginary | .signed .real, .number .imaginary => some (.other true)
  | _, _ => none

/-- A constant that is read, and the levels that this takes. -/
structure Reading where
  shape : Shape
  levels : Nat
  deriving DecidableEq, Repr

/-- A constant after a sign takes one level more. -/
def Reading.signed? (r : Reading) : Option Reading :=
  r.shape.signed?.map (⟨·, r.levels + 1⟩)

/-- A sum takes the levels of the part that takes more. -/
def Reading.plus? (a b : Reading) : Option Reading :=
  (a.shape.plus? b.shape).map (⟨·, max a.levels b.levels⟩)

/-! ## Levels -/

/-- The levels there are. -/
def levelLimit : Nat := 6000

/-- The levels that a number, a word or dots take. -/
def wordLevels : Nat := 23

/-- The levels that a text takes. -/
def textLevels : Nat := 25

/-- The levels that a pair of parentheses with nothing between them takes. -/
def emptyRowLevels : Nat := 51

/-- The levels that a pair of braces with nothing between them takes. -/
def emptyBracesLevels : Nat := 52

/-- The levels that a name with a pair of parentheses after it takes. -/
def callLevels : Nat := 47

/-- How far below a group its elements stand, and what a comma at the end takes. -/
structure Steps where
  first : Nat
  second : Nat
  later : Nat
  /-- After one element. -/
  loneComma : Nat
  /-- After several elements. -/
  lastComma : Nat
  deriving DecidableEq, Repr

/-- Outside of all groups. -/
def Steps.outermost : Steps := ⟨2, 4, 4, 0, 0⟩

/-- Between parentheses. -/
def Steps.row : Steps := ⟨28, 30, 31, 53, 54⟩

/-- Between braces. -/
def Steps.braces : Steps := ⟨29, 30, 30, 53, 53⟩

/-- How far below a group the element with some before it stands. -/
def Steps.element (s : Steps) : Nat → Nat
  | 0 => s.first
  | 1 => s.second
  | _ => s.later

/-- What a comma at the end takes after an element with some before it. -/
def Steps.comma (s : Steps) : Nat → Nat
  | 0 => s.loneComma
  | _ => s.lastComma

/-! ## Constants from tokens -/

/-- Tokens without the texts of one kind in front, which make one text. -/
def dropTexts (bytes : Bool) : List Token → Option (List Token)
  | .text b :: rest => if b = bytes then dropTexts bytes rest else none
  | rest => some rest

/-- The words that are constants. -/
def constantWords : List String := ["True", "False", "None"]

/-- The letters of the name of the empty set, each with its other forms. -/
def setLetters : List (List Nat) :=
  [[0x73, 0x17f, 0x2e2, 0x209b, 0xff53, 0x1d42c, 0x1d460, 0x1d494, 0x1d4c8, 0x1d4fc, 0x1d530,
      0x1d564, 0x1d598, 0x1d5cc, 0x1d600, 0x1d634, 0x1d668, 0x1d69c],
    [0x65, 0x1d49, 0x2091, 0x212f, 0x2147, 0xff45, 0x1d41e, 0x1d452, 0x1d486, 0x1d4ee, 0x1d522,
      0x1d556, 0x1d58a, 0x1d5be, 0x1d5f2, 0x1d626, 0x1d65a, 0x1d68e],
    [0x74, 0x1d57, 0x209c, 0xff54, 0x1d42d, 0x1d461, 0x1d495, 0x1d4c9, 0x1d4fd, 0x1d531, 0x1d565,
      0x1d599, 0x1d5cd, 0x1d601, 0x1d635, 0x1d669, 0x1d69d]]

/-- Whether a word is the name of the empty set. -/
def isSetWord (cs : List Char) : Bool :=
  cs.length == setLetters.length
    && (cs.zip setLetters).all fun (c, forms) => forms.contains c.toNat

/-- The empty set in front of tokens, which is its name, in parentheses perhaps, with a pair of
parentheses after it; and the rest. -/
def emptySet? (ts : List Token) : Option (Reading × List Token) :=
  let opened := (ts.takeWhile (· == .sign '(')).length
  match ts.drop opened with
  | .word cs :: rest =>
    let closing := List.replicate opened (Token.sign ')')
    if isSetWord cs && closing.isPrefixOf rest then
      match rest.drop opened with
      | .sign '(' :: .sign ')' :: rest =>
        some (⟨.other false, max callLevels (opened * Steps.row.first + wordLevels)⟩, rest)
      | _ => none
    else none
  | _ => none

mutual

/-- A constant without a sign in front of tokens, and the rest. -/
def atom? : Nat → List Token → Option (Reading × List Token)
  | 0, _ => none
  | fuel + 1, ts =>
    match emptySet? ts with
    | some found => some found
    | none =>
      match ts with
      | .number kind :: rest => some (⟨.number kind, wordLevels⟩, rest)
      | .text bytes :: rest => (dropTexts bytes rest).map (⟨.other true, textLevels⟩, ·)
      | .dots :: rest => some (⟨.other true, wordLevels⟩, rest)
      | .word cs :: rest =>
        if constantWords.contains (String.ofList cs) then some (⟨.other true, wordLevels⟩, rest)
        else none
      | .sign '(' :: .sign ')' :: rest => some (⟨.other true, emptyRowLevels⟩, rest)
      | .sign '(' :: rest =>
        match row? fuel .row 0 rest with
        | some (r, .sign ')' :: rest) => some (r, rest)
        | _ => none
      | .sign '\x7b' :: .sign '\x7d' :: rest => some (⟨.other false, emptyBracesLevels⟩, rest)
      | .sign '\x7b' :: rest =>
        (braced? fuel none 0 rest).map fun (levels, rest) => (⟨.other false, levels⟩, rest)
      | _ => none

/-- A constant in front of tokens, and the rest. -/
def constant? : Nat → List Token → Option (Reading × List Token)
  | 0, _ => none
  | fuel + 1, ts =>
    let left? := match ts with
      | .sign c :: rest =>
        if c = '+' ∨ c = '-' then
          (atom? fuel rest).bind fun (r, rest) => r.signed?.map (·, rest)
        else atom? fuel ts
      | _ => atom? fuel ts
    match left? with
    | some (left, .sign c :: rest) =>
      if c = '+' ∨ c = '-' then
        (atom? fuel rest).bind fun (right, rest) => (left.plus? right).map (·, rest)
      else left?
    | _ => left?

/-- Constants with commas between them and perhaps one at the end, and the rest; so many come
before them. One constant without a comma stands for itself. -/
def row? : Nat → Steps → Nat → List Token → Option (Reading × List Token)
  | 0, _, _, _ => none
  | fuel + 1, steps, before, ts =>
    match constant? fuel ts with
    | some (r, .sign ',' :: rest) =>
      let levels := steps.element before + r.levels
      match rest with
      | [] | .sign ')' :: _ | .lineEnd :: _ =>
        some (⟨.other r.shape.fixed, max levels (steps.comma before)⟩, rest)
      | _ => (row? fuel steps (before + 1) rest).map fun (more, rest) =>
        (⟨.other (r.shape.fixed && more.shape.fixed), max levels more.levels⟩, rest)
    | some (r, rest) =>
      some (⟨if before = 0 then r.shape else .other r.shape.fixed,
        steps.element before + r.levels⟩, rest)
    | none => none

/-- What is left after the entries of a set or a table and the brace that closes it, and the levels
they take; so many come before them. Whether it is a table is known after the first entry. -/
def braced? : Nat → Option Bool → Nat → List Token → Option (Nat × List Token)
  | 0, _, _, _ => none
  | fuel + 1, isTable?, before, ts =>
    match constant? fuel ts with
    | some (key, rest) =>
      let entry? : Option (Bool × Nat × List Token) := match rest with
        | .sign ':' :: rest =>
          if isTable? = some false then none
          else (constant? fuel rest).map fun (value, rest) =>
            (true, max key.levels value.levels, rest)
        | _ => if isTable? = some true then none else some (false, key.levels, rest)
      match if key.shape.fixed then entry? else none with
      | some (isTable, levels, rest) =>
        let levels := Steps.braces.element before + levels
        match rest with
        | .sign '\x7d' :: rest => some (levels, rest)
        | .sign ',' :: .sign '\x7d' :: rest =>
          some (max levels (Steps.braces.comma before), rest)
        | .sign ',' :: rest =>
          (braced? fuel (some isTable) (before + 1) rest).map fun (more, rest) =>
            (max levels more, rest)
        | _ => none
      | none => none
    | none => none

end

/-- Whether a text spells a constant, which may come after empty lines. -/
def isConstant (cs : List Char) : Bool :=
  match Token.ofChars? cs with
  | some ts =>
    match row? (3 * ts.length + 3) .outermost 0 ts with
    | some (r, rest) => r.levels ≤ levelLimit && rest.all (· == .lineEnd)
    | none => false
  | none => false

end Sabotage.Text.Constant
