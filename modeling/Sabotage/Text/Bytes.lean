/-!
# Byte strings

A source text is edited as the byte string of its UTF-8 form. `Bytes.ofString` and
`Bytes.toString?` are the two directions; `Bytes.toString?` refuses a byte string that is not
well-formed UTF-8. `cut` is the slice between two offsets.
-/

namespace Sabotage

/-- A byte string. -/
abbrev Bytes := List UInt8

namespace Bytes

/-- The UTF-8 form of a text. -/
def ofString (s : String) : Bytes :=
  s.toByteArray.data.toList

/-- The text a byte string spells, when it is well-formed UTF-8. -/
def toString? (bytes : Bytes) : Option String :=
  String.fromUTF8? ⟨bytes.toArray⟩

/-- The bytes from offset `start` up to, and without, offset `stop`. -/
def cut (bytes : Bytes) (start stop : Nat) : Bytes :=
  (bytes.drop start).take (stop - start)

/-- Number of line feeds. -/
def lineFeeds (bytes : Bytes) : Nat :=
  bytes.count 10

/-- The bytes of two texts follow one another. -/
theorem ofString_append (s t : String) : ofString (s ++ t) = ofString s ++ ofString t := by
  simp [ofString]

/-- What is written of a text reads back. -/
@[simp] theorem toString?_ofString (s : String) : toString? (ofString s) = some s := by
  simp [toString?, ofString, String.fromUTF8?, String.fromUTF8, s.isValidUTF8]

/-- A byte string that reads as `s` is what is written of `s`. -/
theorem ofString_of_toString? {bytes : Bytes} {s : String} (h : toString? bytes = some s) :
    ofString s = bytes := by
  simp only [toString?, String.fromUTF8?] at h
  split at h
  · cases h; simp [ofString, String.fromUTF8]
  · cases h

end Bytes

end Sabotage
