import Sabotage.Random.Source

/-!
# The Mersenne Twister

The generator MT19937: a state of 624 words, renewed as a whole after each 624 words, and the
tempering of a word on its way out. `ofSeed` spreads an integer of any size over the state.
-/

namespace Sabotage

/-- The words of the state and the position of the next one. -/
structure MersenneTwister where
  words : Array UInt32
  index : Nat

namespace MersenneTwister

/-- Number of words. -/
def size : Nat := 624

/-- Distance of the word that is mixed in. -/
def shift : Nat := 397

/-- The state that a single word spreads to. -/
def spread (seed : UInt32) : Array UInt32 :=
  (List.range (size - 1)).foldl
    (fun (ws : Array UInt32) (i : Nat) =>
      let last := ws.getD i 0
      ws.push ((last ^^^ (last >>> 30)) * 1812433253 + (i + 1).toUInt32))
    #[seed]

/-- A word of the state replaced from its predecessor. -/
def stir (ws : Array UInt32) (i : Nat) (multiplier : UInt32) (term : UInt32 → UInt32) :
    Array UInt32 :=
  let last := ws.getD (i - 1) 0
  ws.setIfInBounds i (term ((ws.getD i 0) ^^^ ((last ^^^ (last >>> 30)) * multiplier)))

/-- Position after `i`; after the last word comes the second one, the first being overwritten by
the last. -/
def advance (ws : Array UInt32) (i : Nat) : Array UInt32 × Nat :=
  if i + 1 ≥ size then (ws.setIfInBounds 0 (ws.getD (size - 1) 0), 1) else (ws, i + 1)

/-- Mixes the words of a key into the state. -/
def absorbKey (key : Array UInt32) : Nat → Array UInt32 → Nat → Nat → Array UInt32 × Nat
  | 0, ws, i, _ => (ws, i)
  | n + 1, ws, i, j =>
    let ws := stir ws i 1664525 fun x => x + key.getD j 0 + j.toUInt32
    let (ws, i) := advance ws i
    absorbKey key n ws i (if j + 1 ≥ key.size then 0 else j + 1)

/-- The closing pass over the state. -/
def settle : Nat → Array UInt32 → Nat → Array UInt32
  | 0, ws, _ => ws
  | n + 1, ws, i =>
    let ws := stir ws i 1566083941 fun x => x - i.toUInt32
    let (ws, i) := advance ws i
    settle n ws i

/-- The words of a number, the lowest first; one word for zero. -/
def keyWords (n : Nat) : List UInt32 :=
  let count := (n.log2 + 32) / 32
  (List.range (max count 1)).map fun i => (n >>> (32 * i)).toUInt32

/-- The generator of a key. -/
def ofKey (key : Array UInt32) : MersenneTwister :=
  let (ws, i) := absorbKey key (max size key.size) (spread 19650218) 1 0
  let ws := settle (size - 1) ws i
  ⟨ws.setIfInBounds 0 0x80000000, size⟩

/-- The generator of a seed; the sign does not count. -/
def ofSeed (seed : Int) : MersenneTwister :=
  ofKey (keyWords seed.natAbs).toArray

/-- The whole state renewed. -/
def renew (ws : Array UInt32) : Array UInt32 :=
  (List.range size).foldl
    (fun (ws : Array UInt32) i =>
      let y := (ws.getD i 0 &&& 0x80000000) ||| (ws.getD ((i + 1) % size) 0 &&& 0x7fffffff)
      let mask : UInt32 := if y &&& 1 == 0 then 0 else 0x9908b0df
      ws.setIfInBounds i (ws.getD ((i + shift) % size) 0 ^^^ (y >>> 1) ^^^ mask))
    ws

/-- A word on its way out. -/
def temper (y : UInt32) : UInt32 :=
  let y := y ^^^ (y >>> 11)
  let y := y ^^^ ((y <<< 7) &&& 0x9d2c5680)
  let y := y ^^^ ((y <<< 15) &&& 0xefc60000)
  y ^^^ (y >>> 18)

/-- The next word. -/
def next (g : MersenneTwister) : UInt32 × MersenneTwister :=
  let ws := if g.index ≥ size then renew g.words else g.words
  let i := if g.index ≥ size then 0 else g.index
  (temper (ws.getD i 0), ⟨ws, i + 1⟩)

instance : WordSource MersenneTwister := ⟨next⟩

end MersenneTwister

end Sabotage
