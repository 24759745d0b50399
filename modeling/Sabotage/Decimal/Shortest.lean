/-!
# The shortest decimal of a binary float

`Decimal` is a decimal `coefficient · 10 ^ exponent`, and `Decimal.toFloat` the binary float
nearest to it. In the other direction `shortest` finds, for a finite nonzero float, the decimal of
fewest digits that reads back as that float, and of those the nearest; a tie goes to the even
coefficient. The search looks, for one digit, two digits and so on, only at the two neighbours of
the value on the grid of that many digits: if a point of a grid reads back, one of them does.
-/

namespace Sabotage

/-- The number `coefficient · 10 ^ exponent`. -/
structure Decimal where
  coefficient : Nat
  exponent : Int
  deriving DecidableEq, Repr

namespace Decimal

/-- How many decimal digits a number has; one for zero. -/
def digitCount (n : Nat) : Nat :=
  (Nat.toDigits 10 n).length

/-- Takes zeros off the end of the coefficient, up to so many. -/
def dropZeros : Nat → Decimal → Decimal
  | 0, d => d
  | fuel + 1, d =>
    if d.coefficient % 10 = 0 then dropZeros fuel ⟨d.coefficient / 10, d.exponent + 1⟩ else d

/-- The same number with a coefficient that does not end in a zero, unless it is zero. -/
def reduced (d : Decimal) : Decimal :=
  dropZeros (digitCount d.coefficient) d

/-- The binary float nearest to a decimal in reduced form; infinite where there is none so great. -/
def nearest (d : Decimal) : Float :=
  .ofModel (.ofScientific d.coefficient d.exponent)

/-- The binary float nearest to a decimal. It is found from the reduced form, so that it depends on
the number alone. -/
def toFloat (d : Decimal) : Float :=
  nearest d.reduced

/-- The integer and the power of two of a finite float without its sign. -/
def mantissaAndExponent (x : Float) : Nat × Int :=
  let field : Nat := (x.toBits >>> 52 &&& 0x7ff).toNat
  let fraction : Nat := (x.toBits &&& 0xfffffffffffff).toNat
  if field = 0 then (fraction, -1074) else (fraction + 0x10000000000000, field - 1075)

/-- Whether the sign bit is set. -/
def isNegative (x : Float) : Bool :=
  x.toBits >>> 63 == 1

/-- A finite float without its sign, as a quotient. -/
def quotientOf (x : Float) : Nat × Nat :=
  let (m, q) := mantissaAndExponent x
  if q < 0 then (m, 1 <<< (-q).toNat) else (m <<< q.toNat, 1)

/-- The integer a finite float with no fraction part stands for; fractions are cut off. -/
def truncate (x : Float) : Int :=
  let (num, den) := quotientOf x
  if isNegative x then -((num / den : Nat) : Int) else (num / den : Nat)

/-- Whether a float is finite and has no fraction part. -/
def isIntegral (x : Float) : Bool :=
  x.isFinite && (let (num, den) := quotientOf x; num % den == 0)

/-- The number of places by which `num / den < 1` has to be moved to reach one. -/
def leadingZeros (num den : Nat) : Nat → Nat
  | 0 => 0
  | fuel + 1 => if num ≥ den then 0 else leadingZeros (num * 10) den fuel + 1

/-- The power of ten of the first digit of `num / den`. -/
def leadingExponent (num den : Nat) : Int :=
  if num ≥ den then digitCount (num / den) - 1 else -(leadingZeros num den 400 : Int)

/-- Whether a decimal reads as the float without its sign. -/
def readsAs (x : Float) (d : Decimal) : Bool :=
  d.toFloat.toBits == x.abs.toBits

/-- Of the two neighbours of `num / den` on the grid of spacing `10 ^ k` those that read back as
`x`, the nearer first. -/
def neighbours (x : Float) (num den : Nat) (k : Int) : List Decimal :=
  let (n, d) :=
    if k < 0 then (num * Nat.pow 10 (-k).toNat, den) else (num, den * Nat.pow 10 k.toNat)
  let low := n / d
  let above := n % d
  let lowFirst := 2 * above < d || (2 * above == d && low % 2 == 0)
  let pair := if lowFirst then [low, low + 1] else [low + 1, low]
  (pair.map (Decimal.mk · k)).filter (readsAs x)

/-- All digits of `num / den`, for a denominator that is a power of two. -/
def expansion (num den : Nat) : Decimal :=
  let places := den.log2
  ⟨num * Nat.pow 5 places, -places⟩

/-- The first hit on the grids of one, two, up to seventeen digits. -/
def shortestQuotient (x : Float) (num den : Nat) : Decimal :=
  let lead := leadingExponent num den
  ((List.range 17).findSome? fun i => (neighbours x num den (lead - (i : Nat))).head?).getD
    (expansion num den)

/-- The shortest decimal that reads back as a finite float, its sign left out. -/
def shortest (x : Float) : Decimal :=
  let (num, den) := quotientOf x
  if num = 0 then ⟨0, 0⟩ else shortestQuotient x num den

end Decimal

end Sabotage
