import Sabotage.Text.Hex

/-!
# Faults in UTF-8

What is wrong with a byte string that is not well-formed UTF-8: the first place at which no
character can be read, and why.
-/

namespace Sabotage.Bytes

/-- Why no character can be read. -/
inductive Utf8Cause where
  | invalidStart | invalidContinuation | unexpectedEnd
  deriving DecidableEq, Repr

/-- The first fault: its cause, its offset and the number of bytes concerned. -/
structure Utf8Fault where
  cause : Utf8Cause
  offset : Nat
  length : Nat
  deriving DecidableEq, Repr

/-- What can be read at the front of a byte string: a character of so many bytes, or a fault over so
many bytes. -/
inductive Front where
  | char (length : Nat)
  | fault (cause : Utf8Cause) (length : Nat)
  deriving DecidableEq, Repr

/-- Whether a byte continues a character. -/
def isContinuation (b : UInt8) : Bool :=
  0x80 ≤ b && b ≤ 0xbf

/-- The number of bytes of a character with a given first byte; zero when there is none. -/
def announced (b : UInt8) : Nat :=
  if b < 0x80 then 1 else if b < 0xc2 then 0 else if b < 0xe0 then 2 else if b < 0xf0 then 3
  else if b < 0xf5 then 4 else 0

/-- Whether a byte may stand second, after a given first byte. -/
def mayFollow (first second : UInt8) : Bool :=
  isContinuation second && !(first == 0xe0 && second < 0xa0) && !(first == 0xed && second ≥ 0xa0)
    && !(first == 0xf0 && second < 0x90) && !(first == 0xf4 && second ≥ 0x90)

/-- Checks continuation bytes: so many are still missing, so many have been taken. -/
def checkRest : Nat → Nat → Bytes → Front
  | 0, taken, _ => .char taken
  | _ + 1, taken, [] => .fault .unexpectedEnd taken
  | missing + 1, taken, b :: rest =>
    if isContinuation b then checkRest missing (taken + 1) rest
    else .fault .invalidContinuation taken

/-- What can be read at the front of a byte string that is not empty. -/
def front (first : UInt8) (rest : Bytes) : Front :=
  match announced first with
  | 0 => .fault .invalidStart 1
  | 1 => .char 1
  | n + 2 =>
    match rest with
    | [] => .fault .unexpectedEnd 1
    | second :: rest =>
      if mayFollow first second then checkRest n 2 rest else .fault .invalidContinuation 1

/-- The first fault at or after an offset; the next `skip` bytes belong to a character. -/
def utf8FaultFrom : Nat → Nat → Bytes → Option Utf8Fault
  | _, _, [] => none
  | skip + 1, offset, _ :: rest => utf8FaultFrom skip (offset + 1) rest
  | 0, offset, b :: rest =>
    match front b rest with
    | .char n => utf8FaultFrom (n - 1) (offset + 1) rest
    | .fault cause n => some ⟨cause, offset, n⟩

/-- The first fault of a byte string. -/
def utf8Fault? (bytes : Bytes) : Option Utf8Fault :=
  utf8FaultFrom 0 0 bytes

/-- A cause in words. -/
def Utf8Cause.text : Utf8Cause → String
  | .invalidStart => "invalid start byte"
  | .invalidContinuation => "invalid continuation byte"
  | .unexpectedEnd => "unexpected end of data"

/-- A fault in words. -/
def Utf8Fault.message (bytes : Bytes) (f : Utf8Fault) : String :=
  if f.length = 1 then
    "'utf-8' codec can't decode byte 0x" ++ hexByte (bytes.getD f.offset 0)
      ++ s!" in position {f.offset}: " ++ f.cause.text
  else
    s!"'utf-8' codec can't decode bytes in position {f.offset}-"
      ++ s!"{f.offset + f.length - 1}: " ++ f.cause.text

end Sabotage.Bytes
