/-!
# Decimal digits

The characters with a decimal digit value in Unicode come in runs of ten, of values 0 to 9 in
order. `digitValue?` reads a character of any script, `digitIn?` a digit of a base up to 36, whose
digits from ten on are the Latin letters. `ofDigits` is the number that digits spell, and
`lowDigits` takes a number apart again.
-/

namespace Sabotage.Text

/-- The code points of the digit zero of each script. -/
def digitZeros : List Nat :=
  [0x30, 0x660, 0x6f0, 0x7c0, 0x966, 0x9e6, 0xa66, 0xae6, 0xb66, 0xbe6, 0xc66, 0xce6, 0xd66, 0xde6,
    0xe50, 0xed0, 0xf20, 0x1040, 0x1090, 0x17e0, 0x1810, 0x1946, 0x19d0, 0x1a80, 0x1a90, 0x1b50,
    0x1bb0, 0x1c40, 0x1c50, 0xa620, 0xa8d0, 0xa900, 0xa9d0, 0xa9f0, 0xaa50, 0xabf0, 0xff10, 0x104a0,
    0x10d30, 0x11066, 0x110f0, 0x11136, 0x111d0, 0x112f0, 0x11450, 0x114d0, 0x11650, 0x116c0,
    0x11730, 0x118e0, 0x11950, 0x11c50, 0x11d50, 0x11da0, 0x16a60, 0x16ac0, 0x16b50, 0x1d7ce,
    0x1d7d8, 0x1d7e2, 0x1d7ec, 0x1d7f6, 0x1e140, 0x1e2f0, 0x1e950, 0x1fbf0]

/-- The value of a decimal digit of any script. -/
def digitValue? (c : Char) : Option Nat :=
  (digitZeros.find? fun z => z ≤ c.toNat && c.toNat < z + 10).map (c.toNat - ·)

/-- The value of a digit in the given base. -/
def digitIn? (base : Nat) (c : Char) : Option Nat :=
  let value :=
    match digitValue? c with
    | some d => some d
    | none =>
      if 'a' ≤ c ∧ c ≤ 'z' then some (c.toNat - 'a'.toNat + 10)
      else if 'A' ≤ c ∧ c ≤ 'Z' then some (c.toNat - 'A'.toNat + 10)
      else none
  value.filter (· < base)

/-- A digit of a base is below it. -/
theorem digitIn?_lt {base d : Nat} {c : Char} (h : digitIn? base c = some d) : d < base := by
  simp only [digitIn?, Option.filter_eq_some_iff, decide_eq_true_eq] at h
  exact h.2

/-- The decimal digits of the Latin script. -/
def isAsciiDigit (c : Char) : Bool :=
  '0' ≤ c && c ≤ '9'

/-- The character of a digit below sixteen; a letter is small. -/
def digitChar (d : Nat) : Char :=
  if d < 10 then Char.ofNat ('0'.toNat + d) else Char.ofNat ('a'.toNat + d - 10)

/-- The number a list of digits spells, the first digit weighing most. -/
def ofDigits (base : Nat) (ds : List Nat) : Nat :=
  ds.foldl (fun n d => n * base + d) 0

/-- One more digit at the end. -/
@[simp] theorem ofDigits_concat (base d : Nat) (ds : List Nat) :
    ofDigits base (ds ++ [d]) = ofDigits base ds * base + d := by
  simp [ofDigits]

/-- The lowest digits of a number, so many of them, the first weighing most. -/
def lowDigits (base : Nat) : Nat → Nat → List Nat
  | 0, _ => []
  | width + 1, n => lowDigits base width (n / base) ++ [n % base]

/-- The width is the number of digits. -/
@[simp] theorem length_lowDigits (base width n : Nat) :
    (lowDigits base width n).length = width := by
  induction width generalizing n with
  | zero => rfl
  | succ width ih => simp [lowDigits, ih]

/-- A number below the power of the base that goes with the width is the one its lowest digits
spell. -/
theorem ofDigits_lowDigits {base width n : Nat} (h : n < Nat.pow base width) :
    ofDigits base (lowDigits base width n) = n := by
  induction width generalizing n with
  | zero =>
    obtain rfl : n = 0 := Nat.lt_one_iff.mp h
    rfl
  | succ width ih =>
    rw [lowDigits, ofDigits_concat, ih (Nat.div_lt_of_lt_mul (Nat.mul_comm _ _ ▸ h))]
    exact Nat.div_add_mod' n base

/-- The lowest digits of a number in hexadecimal. -/
def hexDigits (width n : Nat) : List Char :=
  (lowDigits 16 width n).map digitChar

end Sabotage.Text
