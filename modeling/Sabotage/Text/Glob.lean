/-!
# Glob patterns

A star stands for any run of characters, a question mark for any one character, and a set in square
brackets for one character that is, or after an exclamation mark is not, among its members. A
bracket that is never closed stands for itself. Inside a set, a hyphen between two characters makes
a range; a range whose ends are in the wrong order is dropped together with its ends.
-/

namespace Sabotage.Glob

/-- A piece of a pattern. -/
inductive Piece where
  /-- Any run of characters. -/
  | run
  /-- Any one character. -/
  | one
  /-- The character itself. -/
  | char (c : Char)
  /-- A character in one of the ranges, or in none of them. -/
  | set (negated : Bool) (ranges : List (Char × Char))
  deriving DecidableEq, Repr

/-- Splits the inside of a set at the hyphens that make ranges. After such a hyphen, the next two
characters make none; `skip` counts down to the next place where a hyphen counts. -/
def chunksFrom : Nat → List Char → List Char → List (List Char)
  | _, done, [] => [done.reverse]
  | 0, done, c :: cs =>
    if c = '-' then done.reverse :: chunksFrom 2 [] cs else chunksFrom 0 (c :: done) cs
  | skip + 1, done, c :: cs => chunksFrom skip (c :: done) cs

/-- An empty last chunk comes from a hyphen at the end, which is then a member. -/
def closeChunks : List (List Char) → List (List Char)
  | [] => []
  | [chunk] => [chunk]
  | [chunk, []] => [chunk ++ ['-']]
  | chunk :: rest => chunk :: closeChunks rest

/-- The chunks of the inside of a set. The first character, after an exclamation mark the first
two, are never a hyphen of a range. -/
def chunks (inside : List Char) : List (List Char) :=
  closeChunks (chunksFrom (if inside.head? == some '!' then 2 else 1) [] inside)

/-- Joins two neighbouring chunks, dropping the ends of a range in the wrong order; `none` when the
range is in order. -/
def fuse? (first second : List Char) : Option (List Char) :=
  match first.getLast?, second.head? with
  | some lo, some hi => if lo > hi then some (first.dropLast ++ second.drop 1) else none
  | _, _ => none

/-- Drops the ranges in the wrong order, from the last to the first. -/
def dropEmptyRanges : List (List Char) → List (List Char)
  | [] => []
  | chunk :: rest =>
    match dropEmptyRanges rest with
    | [] => [chunk]
    | next :: rest =>
      match fuse? chunk next with
      | some joined => joined :: rest
      | none => chunk :: next :: rest

/-- A character as a range. -/
def single (c : Char) : Char × Char := (c, c)

/-- The chunks in a row, with nothing for each hyphen between two of them. -/
def inRow : List (List Char) → List (Option Char)
  | [] => []
  | [chunk] => chunk.map some
  | chunk :: rest => chunk.map some ++ none :: inRow rest

/-- The members that a row stands for: its characters, and a range around each hyphen. A hyphen at
the front or right behind a range is a character. -/
def members : List (Option Char) → List (Char × Char)
  | [] => []
  | c? :: none :: d? :: rest => (c?.getD '-', d?.getD '-') :: members rest
  | c? :: rest => single (c?.getD '-') :: members rest

/-- The piece that the inside of a set stands for. An exclamation mark at the front of the row is no
member. -/
def setPiece (inside : List Char) : Piece :=
  let row := inRow (if inside.contains '-' then dropEmptyRanges (chunks inside) else [inside])
  match row with
  | some '!' :: rest => .set true (members rest)
  | _ => .set false (members row)

/-- Where the inside of a set ends: a closing bracket that is not its first member. -/
def insideOf (cs : List Char) : Option (List Char × List Char) :=
  let front := match cs with
    | '!' :: ']' :: _ => 2
    | '!' :: _ => 1
    | ']' :: _ => 1
    | _ => 0
  let body := (cs.drop front).takeWhile (· != ']')
  match (cs.drop front).drop body.length with
  | [] => none
  | _ :: rest => some (cs.take front ++ body, rest)

/-- The pieces of a pattern, with as much fuel as it has characters. -/
def piecesFrom : Nat → List Char → List Piece
  | 0, _ => []
  | _ + 1, [] => []
  | fuel + 1, c :: cs =>
    if c = '*' then .run :: piecesFrom fuel cs
    else if c = '?' then .one :: piecesFrom fuel cs
    else if c = '[' then
      match insideOf cs with
      | some (inside, rest) => setPiece inside :: piecesFrom fuel rest
      | none => .char '[' :: piecesFrom fuel cs
    else .char c :: piecesFrom fuel cs

/-- The pieces of a pattern. -/
def parse (pattern : List Char) : List Piece :=
  piecesFrom pattern.length pattern

/-- Whether some end of a text, the text itself or the empty text among them, passes. -/
def someEnd (passes : List Char → Bool) : List Char → Bool
  | [] => passes []
  | c :: cs => passes (c :: cs) || someEnd passes cs

/-- Whether a piece for one character takes a character. -/
def Piece.takes : Piece → Char → Bool
  | .run, _ => false
  | .one, _ => true
  | .char d, c => d == c
  | .set negated ranges, c => (ranges.any fun r => r.1 ≤ c && c ≤ r.2) != negated

/-- Whether the pieces take a whole text. -/
def matchesPieces : List Piece → List Char → Bool
  | [], cs => cs.isEmpty
  | .run :: ps, cs => someEnd (matchesPieces ps) cs
  | p :: ps, cs =>
    match cs with
    | [] => false
    | c :: cs => p.takes c && matchesPieces ps cs

/-- Whether a pattern takes a whole text. -/
def accepts (pattern text : String) : Bool :=
  matchesPieces (parse pattern.toList) text.toList

/-- Some end passes exactly when a text splits into a run and an end that passes. -/
theorem someEnd_iff {passes : List Char → Bool} {cs : List Char} :
    someEnd passes cs = true ↔ ∃ run rest, cs = run ++ rest ∧ passes rest = true := by
  induction cs with
  | nil =>
    simp only [someEnd]
    constructor
    · exact fun h => ⟨[], [], rfl, h⟩
    · rintro ⟨run, rest, h, hp⟩
      obtain ⟨rfl, rfl⟩ := List.append_eq_nil_iff.1 h.symm
      exact hp
  | cons c cs ih =>
    simp only [someEnd, Bool.or_eq_true, ih]
    constructor
    · rintro (h | ⟨run, rest, rfl, hp⟩)
      · exact ⟨[], c :: cs, rfl, h⟩
      · exact ⟨c :: run, rest, rfl, hp⟩
    · rintro ⟨run, rest, h, hp⟩
      cases run with
      | nil => exact .inl (h ▸ hp)
      | cons d run => exact .inr ⟨run, rest, (List.cons.inj h).2, hp⟩

end Sabotage.Glob
