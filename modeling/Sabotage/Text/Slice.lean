/-!
# Slices with signed bounds

A bound of a slice is an offset from the front or, when negative, from the back; a bound beyond an
end stands for that end. A slice whose bounds cross is empty.
-/

namespace Sabotage

/-- The offset a signed bound names in a sequence of `n` items. -/
def clampBound (n : Nat) (bound : Int) : Nat :=
  if bound < 0 then (n + bound).toNat else min bound.toNat n

/-- A natural bound stands for itself or for the end. -/
theorem clampBound_natCast_eq_min (n b : Nat) : clampBound n (b : Int) = min b n := by
  simp only [clampBound]
  split <;> omega

/-- A bound within the sequence stands for itself. -/
@[simp] theorem clampBound_natCast {n b : Nat} (h : b ≤ n) : clampBound n (b : Int) = b := by
  rw [clampBound_natCast_eq_min, Nat.min_eq_left h]

/-- A clamped bound is an offset of the sequence. -/
theorem clampBound_le (n : Nat) (b : Int) : clampBound n b ≤ n := by
  simp only [clampBound]
  split <;> omega

/-- The items from one signed bound up to, and without, another. -/
def slice {α : Type} (xs : List α) (start stop : Int) : List α :=
  let lo := clampBound xs.length start
  let hi := clampBound xs.length stop
  (xs.drop lo).take (hi - lo)

end Sabotage
