import Sabotage.Decimal.Shortest

/-!
# Writing a float

A `Layout` holds the decisions of a number format: which powers of ten are written positionally,
whether a whole number keeps a `.0`, and how an exponent is written. `Layout.plain` is the format of
what people read, `Layout.terse` that of records.
-/

namespace Sabotage.Decimal

/-- How a decimal is laid out as text. -/
structure Layout where
  /-- Positional notation from this power of ten of the first digit on. -/
  positionalFrom : Int
  /-- Positional notation below this power of ten of the first digit. -/
  positionalBelow : Int
  /-- A whole number ends in `.0`. -/
  pointZero : Bool
  /-- Exponents have at least this many digits. -/
  exponentWidth : Nat

/-- Positional from `1e-4` below `1e16`; whole numbers end in `.0`; exponents have at least two
digits. -/
def Layout.plain : Layout := ⟨-4, 16, true, 2⟩

/-- Positional from `1e-5` below `1e16`; whole numbers end in `.0`; exponents have no zeros in
front. -/
def Layout.terse : Layout := ⟨-5, 16, true, 1⟩

/-- The digits of a coefficient without the zeros at its end. -/
def significantDigits (n : Nat) : List Char :=
  match ((Nat.toDigits 10 n).reverse.dropWhile (· == '0')).reverse with
  | [] => ['0']
  | ds => ds

/-- The exponent part, with its sign. -/
def Layout.exponent (l : Layout) (e : Int) : List Char :=
  let digits := Nat.toDigits 10 e.natAbs
  let sign := if e < 0 then '-' else '+'
  'e' :: sign :: List.replicate (l.exponentWidth - digits.length) '0' ++ digits

/-- Digits with the point after the first `whole` of them, filled up with zeros. -/
def Layout.positional (l : Layout) (digits : List Char) (whole : Int) : List Char :=
  if whole ≤ 0 then
    '0' :: '.' :: List.replicate (-whole).toNat '0' ++ digits
  else
    let w := whole.toNat
    let front := digits.take w ++ List.replicate (w - digits.length) '0'
    match digits.drop w with
    | [] => front ++ (if l.pointZero then ['.', '0'] else [])
    | rest => front ++ '.' :: rest

/-- A decimal as text. -/
def Layout.render (l : Layout) (d : Decimal) : List Char :=
  if d.coefficient = 0 then l.positional ['0'] 1
  else
    let digits := significantDigits d.coefficient
    let lead := (digitCount d.coefficient : Int) - 1 + d.exponent
    if l.positionalFrom ≤ lead ∧ lead < l.positionalBelow then l.positional digits (lead + 1)
    else
      match digits with
      | [] => l.exponent lead
      | [c] => c :: l.exponent lead
      | c :: rest => c :: '.' :: rest ++ l.exponent lead

/-- A finite float as the shortest decimal that reads back. -/
def renderFinite (layout : Layout) (x : Float) : String :=
  String.ofList ((if isNegative x then ['-'] else []) ++ layout.render (shortest x))

/-- A float as text; what is not finite is spelled `inf`, `-inf` or `nan`. -/
def renderFloat (x : Float) : String :=
  if x.isNaN then "nan"
  else if x.isInf then (if isNegative x then "-inf" else "inf")
  else renderFinite .plain x

end Sabotage.Decimal
