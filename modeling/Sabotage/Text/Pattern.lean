import Sabotage.Text.Stretch

/-!
# Patterns

A pattern is tried at a place in a text. Its alternatives have an order, and the first way to
match is the one that counts; a repetition prefers more or fewer times. Parts of a pattern may be
marked: what they match are the stretches that a match gives. A text is searched from left to right
for matches that do not overlap.

`Pattern.run` is given what comes after the pattern and goes on to the next way to match when that
fails. `Pattern.run_seq` and `Pattern.run_alt` say so for sequences and alternatives.
-/

namespace Sabotage.Text

/-- A place in a text that is being matched. -/
structure Place where
  offset : Nat
  /-- The character before it. -/
  before? : Option Char
  /-- What comes after it. -/
  rest : List Char
  /-- The stretches that were marked, the last first. -/
  marked : List Stretch

/-- A pattern. -/
inductive Pattern where
  /-- One character with a property. -/
  | one (holds : Char → Bool)
  | seq (first second : Pattern)
  /-- The first of two, or else the second. -/
  | alt (first second : Pattern)
  /-- So many times at least, and at most so many times more, if there is a limit. -/
  | times (least : Nat) (more? : Option Nat) (greedy : Bool) (inner : Pattern)
  /-- What is matched is a stretch of the match, unless it is empty. -/
  | marked (inner : Pattern)
  /-- A condition on the characters before and after a place. -/
  | joint (holds : Option Char → Option Char → Bool)

/-- The first of two results that there is. -/
def firstOf (a? : Option Place) (b? : Unit → Option Place) : Option Place :=
  match a? with
  | some a => some a
  | none => b? ()

/-- Goes through a step again and again, at most so often, before or after trying what comes next.
A step that stays at its place is not repeated. -/
def repeatStep (step : (Place → Option Place) → Place → Option Place) (greedy : Bool)
    (next : Place → Option Place) : Nat → Place → Option Place
  | 0, c => next c
  | n + 1, c =>
    let again (_ : Unit) :=
      step (fun d => if d.offset = c.offset then none else repeatStep step greedy next n d) c
    if greedy then firstOf (again ()) fun _ => next c else firstOf (next c) again

/-- Goes through a step so many times. -/
def repeatExactly (step : (Place → Option Place) → Place → Option Place)
    (next : Place → Option Place) : Nat → Place → Option Place
  | 0, c => next c
  | n + 1, c => step (repeatExactly step next n) c

namespace Pattern

/-- Matches a pattern at a place and what comes next after it; the place where that ends. -/
def run : Pattern → (Place → Option Place) → Place → Option Place
  | one holds, next, c =>
    match c.rest with
    | x :: rest => if holds x then next ⟨c.offset + 1, some x, rest, c.marked⟩ else none
    | [] => none
  | seq first second, next, c => first.run (second.run next) c
  | alt first second, next, c => firstOf (first.run next c) fun _ => second.run next c
  | times least more? greedy inner, next, c =>
    repeatExactly inner.run
      (fun d => repeatStep inner.run greedy next (more?.getD d.rest.length) d) least c
  | marked inner, next, c =>
    inner.run
      (fun d =>
        if d.offset = c.offset then next d
        else next { d with marked := ⟨c.offset, d.offset⟩ :: d.marked })
      c
  | joint holds, next, c => if holds c.before? c.rest.head? then next c else none

/-- Nothing, which matches everywhere. -/
def nothing : Pattern := joint fun _ _ => true

/-- Patterns one after the other. -/
def all (ps : List Pattern) : Pattern := ps.foldr seq nothing

/-- The first of several patterns that matches. -/
def any : List Pattern → Pattern
  | [] => joint fun _ _ => false
  | [p] => p
  | p :: ps => alt p (any ps)

/-- A given text. -/
def text (s : String) : Pattern := all (s.toList.map fun c => one (· == c))

/-- One of the characters of a text. -/
def oneOf (s : String) : Pattern := one fun c => s.toList.contains c

/-- A pattern as often as possible, once at least. -/
def oneOrMore (p : Pattern) : Pattern := times 1 none true p

/-- A pattern as often as possible. -/
def many (p : Pattern) : Pattern := times 0 none true p

/-- A pattern as seldom as possible. -/
def few (p : Pattern) : Pattern := times 0 none false p

/-- A pattern, or nothing. -/
def optional (p : Pattern) : Pattern := times 0 (some 1) true p

/-- A pattern a number of times. -/
def exactly (n : Nat) (p : Pattern) : Pattern := times n (some 0) true p

/-- A pattern a number of times between two bounds, as often as possible. -/
def between (least most : Nat) (p : Pattern) : Pattern :=
  times least (some (most - least)) true p

/-- The stretches of the matches from a place on, in at most so many places. -/
def searchFrom (p : Pattern) : Nat → Place → List Stretch
  | 0, _ => []
  | n + 1, c =>
    match c.rest with
    | [] => []
    | x :: rest =>
      match p.run some c with
      | some d =>
        if c.offset < d.offset then d.marked.reverse ++ p.searchFrom n { d with marked := [] }
        else p.searchFrom n ⟨c.offset + 1, x, rest, []⟩
      | none => p.searchFrom n ⟨c.offset + 1, x, rest, []⟩

/-- The stretches of all matches in a text. -/
def stretches (p : Pattern) (cs : List Char) : List Stretch :=
  p.searchFrom cs.length ⟨0, none, cs, []⟩

/-- A sequence is its second part after its first. -/
theorem run_seq (p q : Pattern) (next : Place → Option Place) (c : Place) :
    (seq p q).run next c = p.run (q.run next) c := rfl

/-- The second alternative counts where the first does not match with what comes next. -/
theorem run_alt_of_eq_none {p q : Pattern} {next : Place → Option Place} {c : Place}
    (h : p.run next c = none) : (alt p q).run next c = q.run next c := by
  simp [run, firstOf, h]

/-- Nothing leaves the place where it is. -/
theorem run_nothing (next : Place → Option Place) (c : Place) : nothing.run next c = next c := rfl

end Pattern

end Sabotage.Text
