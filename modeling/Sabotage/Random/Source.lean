/-!
# Random sources

A source of random words is a state with a step. From words come a float in `[0, 1)` and an index
below a bound; the latter draws again until the drawn bits are below the bound.
-/

namespace Sabotage

/-- A state that yields words of 32 random bits. -/
class WordSource (σ : Type) where
  next : σ → UInt32 × σ

namespace WordSource

variable {σ : Type} [WordSource σ]

/-- A float in `[0, 1)`, a multiple of `2 ^ -53`. -/
def unitFloat (s : σ) : Float × σ :=
  let (a, s) := next s
  let (b, s) := next s
  let high := (a >>> 5).toFloat
  let low := (b >>> 6).toFloat
  ((high * 67108864 + low) * (1 / 9007199254740992), s)

/-- Number of bits needed to write a number. -/
def bitLength (n : Nat) : Nat :=
  if n = 0 then 0 else n.log2 + 1

/-- The top `bits` bits of the first word in which they are below `bound`, among so many words;
zero when there is none. -/
def drawBelow (bits : Nat) (bound : Nat) : Nat → σ → Nat × σ
  | 0, s => (0, s)
  | attempts + 1, s =>
    let (w, s) := next s
    let drawn := w.toNat >>> (32 - bits)
    if drawn < bound then (drawn, s) else drawBelow bits bound attempts s

/-- An index below `bound`. A word fails with a chance of at most one half, so that the bound on
the number of words never shows. -/
def below (bound : Nat) (s : σ) : Nat × σ :=
  drawBelow (bitLength bound) bound 4096 s

/-- An index drawn below a positive bound is below it. -/
theorem below_lt {bound : Nat} (h : 0 < bound) (s : σ) : (below bound s).1 < bound := by
  simp only [below]
  generalize 4096 = attempts
  induction attempts generalizing s with
  | zero => exact h
  | succ n ih =>
    simp only [drawBelow]
    split
    · assumption
    · exact ih _

/-- An element of a list with at least one. -/
def pick (first : α) (rest : List α) (s : σ) : α × σ :=
  let (i, s) := below (rest.length + 1) s
  ((first :: rest).getD i first, s)

end WordSource

end Sabotage
