import Sabotage.Text.Blank
import Sabotage.Text.Columns
import Sabotage.Text.Lines
import Sabotage.Text.Stretch

/-!
# Wrapping lines

A terminal has a number of columns. Text is broken before the first word that does not fit into the
line any more; a word that fits into no line is cut. Tabs are blanks up to the next multiple of
eight columns. A line is drawn piece by piece, and what its pieces take beyond the last column is
cut off.
-/

namespace Sabotage.Text.Wrap

/-! ## Tabs -/

/-- A part of a line up to a tab, with a blank for the tab and so many more. A stretch that covers
the tab covers all of them. -/
def fillTab (part : Styled) (missing : Nat) : Styled :=
  let n := part.chars.length
  ⟨part.chars.dropLast ++ List.replicate (missing + 1) ' ',
    part.stretches.map fun s => if n ≤ s.stop then ⟨s.start, s.stop + missing⟩ else s⟩

/-- The parts of a line, which end with its tabs, joined with blanks for the tabs, from a column
on. -/
def joinAtStops (column : Nat) : List Styled → Styled
  | [] => ⟨[], []⟩
  | part :: rest =>
    if part.chars.getLast? = some '\t' then
      let reached := column + width (part.chars.dropLast ++ [' '])
      let missing := (8 - reached % 8) % 8
      fillTab part missing ++ joinAtStops (reached + missing) rest
    else part ++ joinAtStops (column + width part.chars) rest

/-- The offsets after the characters of one kind in a text that begins at an offset. -/
def offsetsAfter (mark : Char) (offset : Nat) : List Char → List Nat
  | [] => []
  | c :: cs =>
    if c = mark then (offset + 1) :: offsetsAfter mark (offset + 1) cs
    else offsetsAfter mark (offset + 1) cs

/-- A line with blanks for its tabs. -/
def expandTabs (line : Styled) : Styled :=
  match offsetsAfter '\t' 0 line.chars with
  | [] => line
  | offsets => joinAtStops 0 (line.divide offsets)

/-! ## Words and breaks -/

/-- The words of a line, each with the blanks after it, and the first also with those before it. -/
def wordsFrom : List Char → List (List Char)
  | [] => []
  | [c] => [[c]]
  | c :: d :: cs =>
    match wordsFrom (d :: cs) with
    | [] => [[c]]
    | word :: rest =>
      if isBlank c && !isBlank d then [c] :: word :: rest else (c :: word) :: rest

/-- The words of a line; blanks alone are none. -/
def words (cs : List Char) : List (List Char) :=
  match wordsFrom cs with
  | [] => []
  | blanks :: rest =>
    if blanks.all isBlank then
      match rest with
      | [] => []
      | word :: rest => (blanks ++ word) :: rest
    else blanks :: rest

/-- Cuts a word into pieces that fit, between its clusters; `used` columns are taken up by `piece`,
which is begun. -/
def chop (limit : Nat) : Nat → List Char → List Cluster → List (List Char)
  | _, piece, [] => [piece]
  | used, piece, k :: ks =>
    if used + k.columns > limit then piece :: chop limit k.columns k.chars ks
    else chop limit (used + k.columns) (piece ++ k.chars) ks

/-- Cutting a word loses nothing of it. -/
theorem flatten_chop (limit used : Nat) (piece : List Char) (ks : List Cluster) :
    (chop limit used piece ks).flatten = piece ++ ks.flatMap Cluster.chars := by
  fun_induction chop limit used piece ks <;> simp_all

/-- The offsets at which pieces begin, the first of them at an offset. -/
def offsetsOf (start : Nat) : List (List Char) → List Nat
  | [] => []
  | piece :: rest => start :: offsetsOf (start + piece.length) rest

/-- The blanks at the end of a text. -/
def blanksAtEnd (cs : List Char) : Nat :=
  (cs.reverse.takeWhile isBlank).length

/-- The offsets at which a line is broken, with some columns used and the next word at an
offset. -/
def breaksFrom (limit : Nat) : Nat → Nat → List (List Char) → List Nat
  | _, _, [] => []
  | start, used, word :: rest =>
    let needed := width (word.take (word.length - blanksAtEnd word))
    let after := start + word.length
    if used + needed ≤ limit then breaksFrom limit after (used + width word) rest
    else if limit < needed then
      let pieces := chop limit 0 [] (clusters word)
      (offsetsOf start pieces).filter (0 < ·)
        ++ breaksFrom limit after (width (pieces.getLast?.getD [])) rest
    else start :: breaksFrom limit after (width word) rest

/-- The offsets at which a line is broken. -/
def breaks (limit : Nat) (cs : List Char) : List Nat :=
  breaksFrom limit 0 0 (words cs)

/-! ## Lines on a terminal -/

/-- A line without blanks at its end that make it longer than the limit. -/
def trimEnd (limit : Nat) (line : Styled) : Styled :=
  let n := line.chars.length
  if n ≤ limit then line else line.crop (n - min (blanksAtEnd line.chars) (n - limit))

/-- A line that is cut off at the limit. -/
def truncate (limit : Nat) (line : Styled) : Styled :=
  if width line.chars ≤ limit then line
  else
    let kept := fit limit line.chars
    ⟨kept, line.stretches.filterMap (·.clip? kept.length)⟩

/-- The lines that a line without line feeds is broken into. -/
def breakLine (limit : Nat) (line : Styled) : List Styled :=
  let line := expandTabs line
  (line.divide (breaks limit line.chars)).map fun part => truncate limit (trimEnd limit part)

/-- The lines of a text. -/
def linesOf (t : Styled) : List Styled :=
  match offsetsAfter '\n' 0 t.chars with
  | [] => [t]
  | offsets => (t.divide offsets).map fun line =>
    if line.chars.getLast? = some '\n' then line.crop (line.chars.length - 1) else line

/-- The pieces that have room; the first for which there is no room is cut off, and no other
follows. -/
def cropPieces : Nat → List (List Char) → List Char
  | _, [] => []
  | room, piece :: rest =>
    let needed := width piece
    if needed < room then piece ++ cropPieces (room - needed) rest else fit room piece

/-- The text of a line as it is drawn. -/
def draw (limit : Nat) (line : Styled) : List Char :=
  if line.chars.all standsAlone then line.chars
  else
    let pieces := line.pieces
    if (pieces.map width).foldl (· + ·) 0 ≤ limit then line.chars else cropPieces limit pieces

/-- The lines of a text on a terminal. -/
def wrap (limit : Nat) (t : Styled) : List String :=
  ((linesOf t).flatMap (breakLine limit)).map fun line => String.ofList (draw limit line)

end Sabotage.Text.Wrap
