import Sabotage.Text.Constant
import Sabotage.Text.Emoji
import Sabotage.Text.Stretch
import Sabotage.Text.Style

/-!
# Markup

Text for a terminal carries tags in square brackets, `[bold]` to begin a style and `[/bold]` to end
it. A tag begins with a small letter, `#`, `/` or `@` and holds no further opening bracket; an odd
number of backslashes before it make it plain text.

`Markup.render` gives the text that shows, with pictures for their names, and the stretches of it
that are styled. It refuses a closing tag for which no style is open. A tag that begins with `@`
stands for an action; what it is given after an equals sign must be constants when it is closed.
`Markup.strip` is for plain output: it takes out simple tags and pictographs, knows no backslashes
and refuses nothing. `Markup.escape` makes any text show as it is.
-/

namespace Sabotage.Text.Markup

/-- Whether a character begins a tag. -/
def beginsTag (c : Char) : Bool :=
  ('a' ≤ c && c ≤ 'z') || c == '#' || c == '/' || c == '@'

/-- The inside of a tag, in a text after an opening bracket. -/
def tag? (signs : List Sign) : Option (List Sign) :=
  let inside := signs.takeWhile fun s => s != .char '[' && s != .char ']'
  match inside, signs.drop inside.length with
  | s :: _, .char ']' :: _ => if s.satisfies beginsTag then some inside else none
  | _, _ => none

/-! ## Plain output -/

/-- Whether a character may stand in a simple tag. -/
def isSimple (c : Char) : Bool :=
  ('a' ≤ c && c ≤ 'z') || ('0' ≤ c && c ≤ '9') || c == ' ' || c == '_' || c == '#' || c == '-'

/-- The inside of a simple tag: a small letter and then letters, digits and some signs, after a
slash perhaps. -/
def simpleTag? (signs : List Sign) : Option (List Sign) :=
  match tag? signs with
  | some inside =>
    match if inside.head? = some (.char '/') then inside.drop 1 else inside with
    | .char c :: rest =>
      if 'a' ≤ c ∧ c ≤ 'z' ∧ rest.all (·.satisfies isSimple) then some inside else none
    | _ => none
  | none => none

/-- A text without simple tags; the next `skip` signs belong to a tag. -/
def dropTags : Nat → List Sign → List Sign
  | _, [] => []
  | skip + 1, _ :: rest => dropTags skip rest
  | 0, s :: rest =>
    match if s = .char '[' then simpleTag? rest else none with
    | some inside => dropTags (inside.length + 1) rest
    | none => s :: dropTags 0 rest

/-- The ranges of pictographs, both ends included. -/
def pictographRanges : List (Nat × Nat) :=
  [(0x1f300, 0x1f9ff), (0x2600, 0x27bf), (0xfe00, 0xfe0f), (0x1fa00, 0x1fa6f)]

/-- A pictograph. -/
def isPictograph (c : Char) : Bool :=
  pictographRanges.any fun r => r.1 ≤ c.toNat && c.toNat ≤ r.2

/-- A text for plain output. -/
def strip (text : Spelling) : Spelling :=
  Spelling.strip ⟨(dropTags 0 text.signs).filter fun s => !s.satisfies isPictograph⟩

/-! ## Styled output -/

/-- A piece of a text with markup. -/
inductive Piece where
  | plain (signs : List Sign)
  | tag (inside : List Sign)
  deriving DecidableEq, Repr

/-- Backslashes. -/
def backslashes (n : Nat) : List Sign :=
  List.replicate n (.char '\\')

/-- The pieces of a text. The next `skip` signs belong to a tag, `slashes` backslashes stand right
before the text, and `before` are the signs, last first, before them. -/
def piecesFrom : Nat → Nat → List Sign → List Sign → List Piece
  | _, slashes, before, [] => [.plain (before.reverse ++ backslashes slashes)]
  | skip + 1, slashes, before, _ :: rest => piecesFrom skip slashes before rest
  | 0, slashes, before, s :: rest =>
    if s = .char '\\' then piecesFrom 0 (slashes + 1) before rest
    else
      match if s = .char '[' then tag? rest else none with
      | some inside =>
        .plain before.reverse :: .plain (backslashes (slashes / 2))
          :: (if slashes % 2 = 0 then .tag inside
            else .plain (.char '[' :: inside ++ [.char ']']))
          :: piecesFrom (inside.length + 1) 0 [] rest
      | none => piecesFrom 0 0 (s :: backslashes slashes ++ before) rest

/-- Plain text without the backslash of each escaped bracket. -/
def unescape : List Sign → List Sign
  | .char '\\' :: .char '[' :: rest => .char '[' :: unescape rest
  | s :: rest => s :: unescape rest
  | [] => []

/-- Why markup is refused. -/
inductive MarkupError where
  /-- A closing tag for which no style is open. -/
  | notOpen (inside : Spelling)
  /-- An action that is given something else than constants. -/
  | badAction (given : Spelling)
  /-- A colour is given by numbers, one of which is missing or too long. -/
  | badColor
  deriving DecidableEq, Repr

/-- A tag that is open. -/
structure OpenTag where
  /-- The offset of the text after it. -/
  start : Nat
  /-- The style, described as all tags of the same style describe it. -/
  style : Spelling
  /-- What comes after the equals sign, or nothing. -/
  given : Spelling
  deriving DecidableEq, Repr

/-- The description of a tag's style as it is compared. -/
def styleOf (name : Spelling) : Except MarkupError Spelling :=
  match Style.normalize name with
  | .ok style => .ok style
  | .error _ => .error .badColor

/-- What an action is given: what is between parentheses after the name of a handler, nothing when
there are none, or all of a text of another form. -/
def givenTo (cs : List Char) : List Char :=
  match cs.dropWhile fun c => isWordChar c || c == '.' with
  | [] => ['(', ')']
  | '(' :: rest =>
    if rest.getLast? = some ')' ∧ !rest.contains '\n' then '(' :: rest else cs
  | _ => cs

/-- Whether an action is given constants, in which no halves stand. -/
def isGivenConstants (given : Spelling) : Bool :=
  (given.strip.toString?.map fun s => Constant.isConstant (givenTo s.toList)).getD false

/-- Closing a tag: an action must have been given constants. -/
def OpenTag.close (t : OpenTag) : Except MarkupError Unit :=
  if t.style.signs.head? = some (.char '@') ∧ !t.given.isEmpty ∧ !isGivenConstants t.given then
    .error (.badAction t.given)
  else .ok ()

/-- The tag that is closed by a closing tag with the name of a style, or with none, which closes the
innermost; the innermost is the first. -/
def closedTag (inside name : Spelling) (opened : List OpenTag) : Except MarkupError OpenTag := do
  let closed? ←
    if name.isEmpty then pure opened.head?
    else do
      let style ← styleOf name
      pure (opened.find? (·.style == style))
  match closed? with
  | some t =>
    t.close
    pure t
  | none => throw (.notOpen inside)

/-- What markup shows. -/
structure Shown where
  text : Spelling
  /-- What is styled. -/
  stretches : List Stretch
  deriving DecidableEq, Repr

/-- What is shown, with a text before it. -/
def Shown.after (signs : List Sign) (s : Shown) : Shown :=
  { s with text := ⟨signs ++ s.text.signs⟩ }

/-- What is shown, with one more stretch. -/
def Shown.covered (stretch : Stretch) (s : Shown) : Shown :=
  { s with stretches := stretch :: s.stretches }

/-- Characters that a terminal does not show as part of a text. -/
def isControl (c : Char) : Bool :=
  [0x07, 0x08, 0x0b, 0x0c, 0x0d].contains c.toNat

/-- Plain text as it shows. -/
def plain (signs : List Sign) : List Sign :=
  (Emoji.replace signs).filter fun s => !s.satisfies isControl

/-- What pieces show from an offset on, with some tags open, the innermost first. A tag that is
never closed holds to the end. -/
def shown : Nat → List OpenTag → List Piece → Except MarkupError Shown
  | offset, opened, [] => .ok ⟨⟨[]⟩, opened.map fun t => ⟨t.start, offset⟩⟩
  | offset, opened, .plain signs :: rest =>
    let signs := plain (unescape signs)
    (shown (offset + signs.length) opened rest).map (·.after signs)
  | offset, opened, .tag inside :: rest => do
    let (name, given) := inside.span (· != .char '=')
    match name with
    | .char '/' :: name =>
      let t ← closedTag ⟨inside⟩ (Spelling.strip ⟨name⟩) opened
      (shown offset (opened.erase t) rest).map (·.covered ⟨t.start, offset⟩)
    | _ =>
      let style ← styleOf ⟨name⟩
      shown offset (⟨offset, style, ⟨given.drop 1⟩⟩ :: opened) rest

/-- What a text with markup shows. Without brackets there are no pieces. -/
def render (text : Spelling) : Except MarkupError Shown :=
  if text.signs.contains (.char '[') then shown 0 [] (piecesFrom 0 0 [] text.signs)
  else .ok ⟨⟨plain text.signs⟩, []⟩

/-! ## Escaping -/

/-- Doubles the backslashes before each tag and adds one more. -/
def escapeFrom : Nat → List Sign → List Sign
  | slashes, [] => backslashes slashes
  | slashes, s :: rest =>
    if s = .char '\\' then escapeFrom (slashes + 1) rest
    else if s = .char '[' ∧ (tag? rest).isSome then
      backslashes (2 * slashes + 1) ++ s :: escapeFrom 0 rest
    else backslashes slashes ++ s :: escapeFrom 0 rest

/-- A text written so that it shows as it is. A single backslash at the end is doubled, so that it
does not reach what comes after. -/
def escape (text : Spelling) : Spelling :=
  let signs := escapeFrom 0 text.signs
  ⟨match signs.reverse with
    | .char '\\' :: .char '\\' :: _ => signs
    | .char '\\' :: _ => signs ++ backslashes 1
    | _ => signs⟩

end Sabotage.Text.Markup
