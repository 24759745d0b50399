import Sabotage.Text.Bytes
import Sabotage.Text.Digit
import Sabotage.Text.Spelling

/-!
# Encodings

Bytes that hold a JSON text do not say how they are encoded. Its first two characters are ASCII,
so the places of the zeros among the first four bytes tell how wide a code unit is and in what
order its bytes stand. `Encoding.guess?` reads the encoding off these places, and
`Encoding.decode?` refuses what is not well formed.
-/

namespace Sabotage.Text

/-- The order of the bytes of a code unit. -/
inductive ByteOrder where
  /-- The low byte stands first. -/
  | little
  /-- The high byte stands first. -/
  | big
  deriving DecidableEq, Repr

/-- The number whose bytes are given. -/
def ByteOrder.number (order : ByteOrder) (bytes : Bytes) : Nat :=
  ofDigits 256 ((match order with | .little => bytes.reverse | .big => bytes).map UInt8.toNat)

/-- How a text is written in bytes. -/
inductive Encoding where
  | utf8
  /-- Code units of two bytes. -/
  | utf16 (order : ByteOrder)
  /-- Four bytes for each character. -/
  | utf32 (order : ByteOrder)
  deriving DecidableEq, Repr

namespace Encoding

/-- Code units of two bytes. -/
def pairs? (order : ByteOrder) : Bytes → Option (List Nat)
  | a :: b :: rest => (pairs? order rest).map (order.number [a, b] :: ·)
  | [] => some []
  | _ => none

/-- Code units of four bytes. -/
def quadruples? (order : ByteOrder) : Bytes → Option (List Nat)
  | a :: b :: c :: d :: rest => (quadruples? order rest).map (order.number [a, b, c, d] :: ·)
  | [] => some []
  | _ => none

/-- The characters of code units of two bytes, in which a high half is followed by a low one. -/
def ofUnits? : List Nat → Option (List Char)
  | [] => some []
  | high :: low :: rest =>
    if Sign.isHighHalf high then
      if Sign.isLowHalf low then (ofUnits? rest).map (Sign.ofHalves high low :: ·) else none
    else if Sign.isLowHalf high then none
    else (ofUnits? (low :: rest)).map (Char.ofNat high :: ·)
  | [unit] => if Sign.isHalf unit then none else some [Char.ofNat unit]

/-- The text in an encoding, when the bytes are well formed. -/
def decode? : Encoding → Bytes → Option String
  | utf8, bytes => bytes.toString?
  | utf16 order, bytes => ((pairs? order bytes).bind ofUnits?).map String.ofList
  | utf32 order, bytes =>
    ((quadruples? order bytes).bind fun units =>
      if units.all Nat.isValidChar then some (units.map Char.ofNat) else none).map String.ofList

/-- The encoding of a text that begins with two ASCII characters, by the zeros among its first
four bytes. -/
def guess? (bytes : Bytes) : Option Encoding :=
  match (bytes.take 4).map (· == 0) with
  | [false, false, false, false] => some utf8
  | [true, false, true, false] => some (utf16 .big)
  | [false, true, false, true] => some (utf16 .little)
  | [true, true, true, false] => some (utf32 .big)
  | [false, true, true, true] => some (utf32 .little)
  | _ => none

/-- What is written in UTF-8 is read back. -/
theorem decode?_utf8_ofString (s : String) : utf8.decode? (Bytes.ofString s) = some s :=
  Bytes.toString?_ofString s

/-- Fewer than four bytes tell nothing. -/
theorem guess?_eq_none {bytes : Bytes} (h : bytes.length < 4) : guess? bytes = none := by
  have shorter : ((bytes.take 4).map (· == 0)).length < 4 := by simp; omega
  unfold guess?
  split
  case h_6 => rfl
  all_goals rename_i zeros; simp [zeros] at shorter

end Encoding

end Sabotage.Text
