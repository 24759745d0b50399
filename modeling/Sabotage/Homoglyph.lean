/-!
# Homoglyphs

Seven small letters of the Latin script look the same as a letter of the Cyrillic script.
`homoglyph?` takes either to the other; `spoof?` does so with the first such letter of a name.
-/

namespace Sabotage

/-- The pairs of look-alikes, Latin first. -/
def homoglyphPairs : List (Char × Char) :=
  [('a', '\u0430'), ('c', '\u0441'), ('e', '\u0435'), ('o', '\u043e'), ('p', '\u0440'),
    ('x', '\u0445'), ('y', '\u0443')]

/-- The look-alike of a letter. -/
def homoglyph? (c : Char) : Option Char :=
  homoglyphPairs.findSome? fun (latin, cyrillic) =>
    if c = latin then some cyrillic else if c = cyrillic then some latin else none

/-- A name with its first letter that has a look-alike replaced by it. -/
def spoof? : List Char → Option (List Char)
  | [] => none
  | c :: cs =>
    match homoglyph? c with
    | some d => some (d :: cs)
    | none => (spoof? cs).map (c :: ·)

/-- A spoofed name has as many letters as the name. -/
theorem length_spoof? {name spoofed : List Char} (h : spoof? name = some spoofed) :
    spoofed.length = name.length := by
  induction name generalizing spoofed with
  | nil => simp [spoof?] at h
  | cons c cs ih =>
    simp only [spoof?] at h
    split at h
    · cases h; rfl
    · obtain ⟨t, ht, rfl⟩ := Option.map_eq_some_iff.1 h
      simp [ih ht]

end Sabotage
