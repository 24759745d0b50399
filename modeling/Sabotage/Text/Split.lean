/-!
# Splitting at a character

`pieces sep` cuts a text at every occurrence of a character; there is one piece more than there
are occurrences. `joinPieces sep` puts the pieces together again.
-/

namespace Sabotage.Text

/-- The first piece and the pieces after it. -/
def piecesFrom (sep : Char) : List Char → List Char × List (List Char)
  | [] => ([], [])
  | c :: cs =>
    let (piece, rest) := piecesFrom sep cs
    if c = sep then ([], piece :: rest) else (c :: piece, rest)

/-- The pieces of a text between the occurrences of a character. -/
def pieces (sep : Char) (cs : List Char) : List (List Char) :=
  (piecesFrom sep cs).1 :: (piecesFrom sep cs).2

/-- Pieces with a character between each two. -/
def joinPieces (sep : Char) : List (List Char) → List Char
  | [] => []
  | [piece] => piece
  | piece :: rest => piece ++ sep :: joinPieces sep rest

/-- The pieces of a text as texts. -/
def split (sep : Char) (s : String) : List String :=
  (pieces sep s.toList).map String.ofList

/-- Joining the pieces of a text gives the text. -/
@[simp] theorem joinPieces_pieces (sep : Char) (cs : List Char) :
    joinPieces sep (pieces sep cs) = cs := by
  induction cs with
  | nil => rfl
  | cons c cs ih =>
    simp only [pieces, piecesFrom] at ih ⊢
    by_cases h : c = sep
    · simp only [h, if_true, joinPieces, List.nil_append, ih]
    · simp only [h, if_false]
      cases hr : (piecesFrom sep cs).2 with
      | nil => simp only [hr, joinPieces] at ih ⊢; rw [ih]
      | cons l ls => simp only [hr, joinPieces, List.cons_append] at ih ⊢; rw [ih]

/-- There is one piece more than there are separators. -/
theorem length_pieces (sep : Char) (cs : List Char) :
    (pieces sep cs).length = cs.count sep + 1 := by
  induction cs with
  | nil => rfl
  | cons c cs ih =>
    simp only [pieces, piecesFrom, List.length_cons] at ih ⊢
    by_cases h : c = sep
    · simp [h, ih]
    · simp only [h, if_false, List.count_cons, beq_iff_eq]
      omega

/-- No piece holds the separator. -/
theorem not_mem_of_mem_pieces {sep : Char} {cs piece : List Char} (h : piece ∈ pieces sep cs) :
    sep ∉ piece := by
  induction cs generalizing piece with
  | nil => simp [pieces, piecesFrom] at h; simp [h]
  | cons c cs ih =>
    simp only [pieces, piecesFrom, List.mem_cons] at h ih
    by_cases hc : c = sep
    · simp only [hc, if_true, List.mem_cons] at h
      rcases h with rfl | h
      · simp
      · exact ih h
    · simp only [hc, if_false] at h
      rcases h with rfl | h
      · simpa [Ne.symm hc] using ih (Or.inl rfl)
      · exact ih (Or.inr h)

/-- A text without the separator is one piece. -/
theorem pieces_eq_singleton {sep : Char} {cs : List Char} (h : sep ∉ cs) :
    pieces sep cs = [cs] := by
  induction cs with
  | nil => rfl
  | cons c cs ih =>
    obtain ⟨hc, hcs⟩ := not_or.1 (mt List.mem_cons.2 h)
    have ih := ih hcs
    rw [pieces, List.cons.injEq] at ih
    simp [pieces, piecesFrom, Ne.symm hc, ih.1, ih.2]

/-- The pieces on both sides of a separator. -/
theorem pieces_append (sep : Char) (before after : List Char) :
    pieces sep (before ++ sep :: after) = pieces sep before ++ pieces sep after := by
  induction before with
  | nil => simp [pieces, piecesFrom]
  | cons c before ih =>
    simp only [pieces, List.cons_append, List.cons.injEq] at ih
    by_cases hc : c = sep
    · simp [pieces, piecesFrom, hc, ih.1, ih.2]
    · simp [pieces, piecesFrom, hc, ih.1, ih.2]

/-- A text up to its first separator is its first piece. -/
theorem pieces_append_cons {sep : Char} {piece : List Char} (h : sep ∉ piece) (cs : List Char) :
    pieces sep (piece ++ sep :: cs) = piece :: pieces sep cs := by
  rw [pieces_append, pieces_eq_singleton h, List.singleton_append]

/-- Joining at least two pieces. -/
theorem joinPieces_cons_cons (sep : Char) (p q : List Char) (ps : List (List Char)) :
    joinPieces sep (p :: q :: ps) = p ++ sep :: joinPieces sep (q :: ps) := rfl

/-- A character other than the separator is in the text that pieces make when it is in a piece. -/
theorem mem_joinPieces {sep c : Char} (hc : c ≠ sep) {ps : List (List Char)} :
    c ∈ joinPieces sep ps ↔ ∃ p ∈ ps, c ∈ p := by
  induction ps with
  | nil => simp [joinPieces]
  | cons p ps ih =>
    cases ps with
    | nil => simp [joinPieces]
    | cons q ps =>
      rw [joinPieces_cons_cons, List.mem_append, List.mem_cons, ih]
      simp [hc]

/-- Pieces that hold no separator are the pieces of the text they make. -/
theorem pieces_joinPieces {sep : Char} {ps : List (List Char)} (hne : ps ≠ [])
    (h : ∀ p ∈ ps, sep ∉ p) : pieces sep (joinPieces sep ps) = ps := by
  induction ps with
  | nil => exact absurd rfl hne
  | cons p ps ih =>
    obtain ⟨hp, hps⟩ := List.forall_mem_cons.1 h
    cases ps with
    | nil => exact pieces_eq_singleton hp
    | cons q ps =>
      rw [joinPieces_cons_cons, pieces_append_cons hp, ih (List.cons_ne_nil q ps) hps]

/-- Separators in front of a text are empty pieces in front of its pieces. -/
theorem pieces_replicate_append (sep : Char) (n : Nat) (cs : List Char) :
    pieces sep (List.replicate n sep ++ cs) = List.replicate n [] ++ pieces sep cs := by
  induction n with
  | zero => rfl
  | succ n ih =>
    rw [List.replicate_succ, List.cons_append, ← List.nil_append (sep :: _),
      pieces_append_cons List.not_mem_nil, ih]
    rfl

end Sabotage.Text
