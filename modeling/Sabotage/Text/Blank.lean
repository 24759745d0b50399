/-!
# Blank characters

The white space of Unicode: the characters with a bidirectional class of paragraph separator,
segment separator or white space, or with general category `Zs`. `strip` removes them from both
ends of a text.
-/

namespace Sabotage.Text

/-- The ranges of blank code points, both ends included. -/
def blankRanges : List (Nat × Nat) :=
  [(0x09, 0x0d), (0x1c, 0x20), (0x85, 0x85), (0xa0, 0xa0), (0x1680, 0x1680), (0x2000, 0x200a),
    (0x2028, 0x2029), (0x202f, 0x202f), (0x205f, 0x205f), (0x3000, 0x3000)]

/-- White space. -/
def isBlank (c : Char) : Bool :=
  blankRanges.any fun r => r.1 ≤ c.toNat && c.toNat ≤ r.2

/-- What is left of a list between what stands at its ends and has a property. -/
def trimBy {α : Type} (p : α → Bool) (xs : List α) : List α :=
  ((xs.dropWhile p).reverse.dropWhile p).reverse

/-- What is left of a text between its leading and its trailing blanks. -/
def stripChars (cs : List Char) : List Char :=
  trimBy isBlank cs

/-- The text without leading and trailing blanks. -/
def strip (s : String) : String :=
  String.ofList (stripChars s.toList)

/-- Stripping takes characters away and adds none. -/
theorem stripChars_subset {c : Char} {cs : List Char} (h : c ∈ stripChars cs) : c ∈ cs := by
  simp only [stripChars, trimBy, List.mem_reverse] at h
  have h := (List.dropWhile_sublist _).subset h
  exact (List.dropWhile_sublist _).subset (List.mem_reverse.1 h)

end Sabotage.Text
