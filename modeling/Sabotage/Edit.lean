import Sabotage.Arrange
import Sabotage.Text.Bytes
import Sabotage.Text.Slice

/-!
# Edits of a byte string

An edit replaces the bytes between two signed bounds by a text. `Edit.applyAll` carries out a list
of edits at once: from the last to the first, an insertion at the start of a replaced range coming
before it. Two edits that overlap are refused, and the refusal names the one that reaches into the
other.
-/

namespace Sabotage

/-- The bytes from `start` to `stop` become `text`. -/
structure Edit where
  start : Int
  stop : Int
  text : String
  deriving DecidableEq, Repr

namespace Edit

/-- The order of edits by start, then by end. -/
def precedes (a b : Edit) : Bool :=
  a.start < b.start || (a.start == b.start && a.stop < b.stop)

/-- Edits from the last to the first; those with equal bounds keep their order. -/
def lastFirst (edits : List Edit) : List Edit :=
  arrange (fun e f => precedes f e) edits

/-- Carries out one edit. -/
def apply (e : Edit) (source : Bytes) : Bytes :=
  source.take (clampBound source.length e.start) ++ Bytes.ofString e.text
    ++ source.drop (clampBound source.length e.stop)

/-- Carries out edits that stand in order from the last to the first; `limit` is the start of the
one before. An edit that reaches beyond it is the error. -/
def applyOrdered : Option Int → List Edit → Bytes → Except Edit Bytes
  | _, [], source => .ok source
  | limit, e :: es, source =>
    if limit.any (e.stop > ·) then .error e
    else applyOrdered (some e.start) es (e.apply source)

/-- Carries out all edits at once. -/
def applyAll (edits : List Edit) (source : Bytes) : Except Edit Bytes :=
  applyOrdered none (lastFirst edits) source

/-- Inserts a text at an offset. -/
def insertion (offset : Int) (text : String) : Edit :=
  ⟨offset, offset, text⟩

/-- No edit leaves the source as it is. -/
@[simp] theorem applyAll_nil (source : Bytes) : applyAll [] source = .ok source := rfl

end Edit

end Sabotage
