import Sabotage.Text.Lines

/-!
# The range of changed lines

Two texts that differ are compared from the front and from the back; what lies between the common
front and the common back is the change. `ChangeRange.between?` gives the lines it spans, counted
from one, and what each text has on these lines.
-/

namespace Sabotage.Text

/-- The lines on which two texts differ. -/
structure ChangeRange where
  firstLine : Nat
  lastLine : Nat
  before : String
  after : String
  deriving DecidableEq, Repr

/-- Length of the longest common front. -/
def commonFront : List Char → List Char → Nat
  | a :: as, b :: bs => if a = b then commonFront as bs + 1 else 0
  | _, _ => 0

/-- Length of the longest common back that does not reach into a front of the given length. -/
def commonBack (before after : List Char) (front : Nat) : Nat :=
  min (commonFront before.reverse after.reverse) (min before.length after.length - front)

/-- The line, counted from one, that an offset lies on. -/
def lineAt (cs : List Char) (offset : Nat) : Nat :=
  lineFeeds (cs.take offset) + 1

/-- The range of changed lines; none for equal texts. -/
def ChangeRange.between? (before after : String) : Option ChangeRange :=
  if before = after then none
  else
    let b := before.toList
    let a := after.toList
    let front := commonFront b a
    let back := commonBack b a front
    let first := lineAt b front
    let last :=
      max (lineAt b (max (b.length - back) front)) (lineAt a (max (a.length - back) front))
    some ⟨first, last, linesBetween before first last, linesBetween after first last⟩

/-- Number of lines in the range. -/
def ChangeRange.lineCount (r : ChangeRange) : Int :=
  r.lastLine - r.firstLine + 1

/-- Equal texts have no range, and only they. -/
theorem ChangeRange.between?_eq_none_iff {before after : String} :
    ChangeRange.between? before after = none ↔ before = after := by
  simp only [ChangeRange.between?]
  split <;> simp_all

end Sabotage.Text
