/-!
# Stretches

A stretch of a text is what lies between two offsets, such as what one style covers. Texts with
stretches are cut into parts and put together again; a stretch goes with the characters it covers.
-/

namespace Sabotage.Text

/-- The part of a text from an offset up to, and without, another. -/
structure Stretch where
  start : Nat
  stop : Nat
  deriving DecidableEq, Repr

namespace Stretch

/-- A stretch further back in a text. -/
def shift (n : Nat) (s : Stretch) : Stretch :=
  ⟨n + s.start, n + s.stop⟩

/-- What a stretch covers of the text between two offsets, seen from the first; none if it covers
nothing of it. -/
def within? (start stop : Nat) (s : Stretch) : Option Stretch :=
  let first := max s.start start
  let last := min s.stop stop
  if first < last then some ⟨first - start, last - start⟩ else none

/-- What is left of a stretch that begins in the first `n` characters, when only they are kept. -/
def clip? (n : Nat) (s : Stretch) : Option Stretch :=
  if s.start < n then some ⟨s.start, min s.stop n⟩ else none

/-- What is covered between two offsets lies between them and is not empty. -/
theorem bounds_of_within? {start stop : Nat} {s t : Stretch} (h : s.within? start stop = some t) :
    t.start < t.stop ∧ start + t.stop ≤ stop := by
  simp only [within?] at h
  split at h
  · cases h; simp only; omega
  · cases h

end Stretch

/-- A text with stretches that are styled. Where one begins or ends, the text falls into pieces
that are drawn one by one. -/
structure Styled where
  chars : List Char
  stretches : List Stretch
  deriving DecidableEq, Repr

namespace Styled

/-- A text and another after it. -/
def append (a b : Styled) : Styled :=
  ⟨a.chars ++ b.chars, a.stretches ++ b.stretches.map (·.shift a.chars.length)⟩

instance : Append Styled := ⟨append⟩

/-- The part of a text between two offsets. -/
def part (t : Styled) (start stop : Nat) : Styled :=
  ⟨(t.chars.take stop).drop start, t.stretches.filterMap (·.within? start stop)⟩

/-- The parts of a text, of which the one begun starts at an offset and the others at given ones. -/
def partsFrom (t : Styled) (start : Nat) : List Nat → List Styled
  | [] => [t.part start t.chars.length]
  | offset :: rest => t.part start offset :: t.partsFrom offset rest

/-- A text divided at offsets. Undivided it keeps its empty stretches too. -/
def divide (t : Styled) : List Nat → List Styled
  | [] => [t]
  | offsets => t.partsFrom 0 offsets

/-- The first `n` characters of a text. -/
def crop (n : Nat) (t : Styled) : Styled :=
  ⟨t.chars.take n, t.stretches.filterMap (·.clip? n)⟩

/-- Whether a stretch begins or ends at an offset. -/
def isBound (t : Styled) (offset : Nat) : Bool :=
  t.stretches.any fun s => s.start == offset || s.stop == offset

/-- The pieces of characters that begin at an offset. -/
def piecesFrom (isBound : Nat → Bool) (offset : Nat) : List Char → List (List Char)
  | [] => []
  | c :: cs =>
    match piecesFrom isBound (offset + 1) cs with
    | [] => [[c]]
    | piece :: rest =>
      if isBound (offset + 1) then [c] :: piece :: rest else (c :: piece) :: rest

/-- The pieces that are drawn one by one. -/
def pieces (t : Styled) : List (List Char) :=
  piecesFrom t.isBound 0 t.chars

/-- The parts of a text put together have all its characters. -/
theorem flatMap_chars_partsFrom (t : Styled) (start : Nat) (offsets : List Nat)
    (ordered : (start :: offsets).Pairwise (· ≤ ·)) (inside : ∀ n ∈ offsets, n ≤ t.chars.length) :
    (t.partsFrom start offsets).flatMap chars = t.chars.drop start := by
  induction offsets generalizing start with
  | nil => simp [partsFrom, part]
  | cons n rest ih =>
    have hn : start ≤ n := (List.pairwise_cons.1 ordered).1 n (by simp)
    have hl : n ≤ t.chars.length := inside n (by simp)
    rw [partsFrom, List.flatMap_cons, ih n (List.pairwise_cons.1 ordered).2
      (fun m hm => inside m (by simp [hm]))]
    have split : t.chars.drop start = (t.chars.take n).drop start ++ t.chars.drop n := by
      rw [← List.take_append_drop n t.chars, List.drop_append_of_le_length (by simp; omega)]
      simp
    simp [part, split]

/-- The pieces put together are the text. -/
theorem flatten_piecesFrom (isBound : Nat → Bool) (offset : Nat) (cs : List Char) :
    (piecesFrom isBound offset cs).flatten = cs := by
  induction cs generalizing offset with
  | nil => rfl
  | cons c cs ih =>
    have h := ih (offset + 1)
    rw [piecesFrom]
    split
    · next e => rw [e] at h; simp_all
    · next e => rw [e] at h; split <;> simp_all

/-- The pieces of a text put together are the text. -/
theorem flatten_pieces (t : Styled) : t.pieces.flatten = t.chars :=
  flatten_piecesFrom t.isBound 0 t.chars

end Styled

end Sabotage.Text
