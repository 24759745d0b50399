import Sabotage.Text.Bytes
import Sabotage.Text.Digit

/-!
# Hexadecimal byte strings

Two hexadecimal digits stand for a byte. `Bytes.toHex` and `Bytes.ofHex` are the two directions.
-/

namespace Sabotage.Bytes

/-- A byte as two digits. -/
def hexByte (b : UInt8) : String :=
  String.ofList [Text.digitChar (b.toNat / 16), Text.digitChar (b.toNat % 16)]

/-- A byte string in digits. -/
def toHex (bytes : Bytes) : String :=
  String.join (bytes.map hexByte)

/-- The bytes that pairs of digits stand for. -/
def pairs : List Char → Bytes
  | high :: low :: rest =>
    let value (c : Char) : Nat := (Text.digitIn? 16 c).getD 0
    (16 * value high + value low).toUInt8 :: pairs rest
  | _ => []

/-- The bytes that a text of digits stands for. -/
def ofHex (s : String) : Bytes :=
  pairs s.toList

end Sabotage.Bytes
