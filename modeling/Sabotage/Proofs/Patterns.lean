import Mathlib.Data.List.Basic
import Sabotage.Text.Glob

/-!
# What patterns take

A character of a pattern that is neither a star nor a question mark nor an opening bracket stands
for itself (`Glob.isLiteral`). A pattern is read piece by piece (`Glob.parse_cons`), so that what
stands before a text without closing brackets is read as if it stood alone (`Glob.parse_append`),
and pieces one after the other take a text in parts (`Glob.matchesPieces_append`). A pattern in
which no bracket is closed takes itself (`Glob.accepts_self`).
-/

namespace Sabotage.Glob

/-- A character that stands for itself in a pattern. -/
def isLiteral (c : Char) : Bool :=
  c != '*' && c != '?' && c != '['

/-! ## Sets -/

/-- The inside of a set and what follows it, when so many characters are inside in any case. -/
def insideAfter (front : Nat) (cs : List Char) : Option (List Char × List Char) :=
  let body := (cs.drop front).takeWhile (· != ']')
  match (cs.drop front).drop body.length with
  | [] => none
  | _ :: rest => some (cs.take front ++ body, rest)

/-- How many characters are inside a set in any case. -/
def frontLength : List Char → Nat
  | '!' :: ']' :: _ => 2
  | '!' :: _ => 1
  | ']' :: _ => 1
  | _ => 0

/-- The inside of a set, by the characters that are inside in any case. -/
theorem insideOf_eq (cs : List Char) : insideOf cs = insideAfter (frontLength cs) cs :=
  rfl

/-- No set ends where there is no closing bracket. -/
theorem insideAfter_eq_none {front : Nat} {cs : List Char} (h : ']' ∉ cs.drop front) :
    insideAfter front cs = none := by
  have hbody : (cs.drop front).takeWhile (· != ']') = cs.drop front := by
    rw [← List.append_nil (cs.drop front), List.takeWhile_append_of_pos]
    · rfl
    · exact fun c hc => bne_iff_ne.2 fun heq => h (heq ▸ hc)
  simp only [insideAfter, hbody, List.drop_length]

/-- A set ends at the first closing bracket behind the characters that are inside in any case. -/
theorem insideAfter_eq_some {front : Nat} {cs body rest : List Char} (h : ']' ∉ body)
    (hcs : cs.drop front = body ++ ']' :: rest) :
    insideAfter front cs = some (cs.take front ++ body, rest) := by
  have hbody : (body ++ ']' :: rest).takeWhile (· != ']') = body := by
    rw [List.takeWhile_append_of_pos, List.takeWhile_cons_of_neg (by decide), List.append_nil]
    exact fun c hc => bne_iff_ne.2 fun heq => h (heq ▸ hc)
  simp only [insideAfter, hcs, hbody, List.drop_left]

/-- No set ends in a text without closing brackets. -/
theorem insideOf_eq_none {cs : List Char} (h : ']' ∉ cs) : insideOf cs = none :=
  insideAfter_eq_none fun hmem => h (List.mem_of_mem_drop hmem)

/-- What follows a set that ends is shorter than what follows its opening bracket. -/
theorem length_lt_of_insideOf {cs inside rest : List Char} (h : insideOf cs = some (inside, rest)) :
    rest.length < cs.length := by
  rw [insideOf_eq, insideAfter] at h
  split at h
  · cases h
  · next hdrop =>
    cases h
    have hlength := congrArg List.length hdrop
    simp only [List.length_drop, List.length_cons] at hlength
    omega

/-- The first two characters tell how many are inside a set in any case. -/
theorem frontLength_cons (c : Char) (cs : List Char) : frontLength (c :: cs) =
    if c = '!' then (if cs.head? = some ']' then 2 else 1) else if c = ']' then 1 else 0 := by
  by_cases hmark : c = '!'
  · subst hmark
    cases cs with
    | nil => rfl
    | cons d cs => by_cases hd : d = ']' <;> simp [frontLength, hd]
  · by_cases hbracket : c = ']' <;> simp [frontLength, hmark, hbracket]

/-- There are as many characters as are inside in any case. -/
theorem frontLength_le (cs : List Char) : frontLength cs ≤ cs.length := by
  cases cs with
  | nil => exact Nat.le_refl 0
  | cons c cs =>
    rw [frontLength_cons]
    cases cs with
    | nil => simp only [List.head?_nil, reduceCtorEq, if_false]; split <;> simp; split <;> simp
    | cons d cs => split <;> split <;> simp

/-- Characters behind a text of which none is a closing bracket are not inside in any case. -/
theorem frontLength_append {c : Char} {cs tail : List Char} (h : ']' ∉ tail) :
    frontLength (c :: cs ++ tail) = frontLength (c :: cs) := by
  have hhead : (cs ++ tail).head? = some ']' ↔ cs.head? = some ']' := by
    cases cs with
    | nil => exact ⟨fun hmem => absurd (List.mem_of_head? hmem) h, nofun⟩
    | cons d cs => rfl
  simp only [List.cons_append, frontLength_cons, hhead]

/-- Characters behind a text of which none is a closing bracket stand behind what follows its first
set, if that ends, and do not end it otherwise. -/
theorem insideOf_append {cs tail : List Char} (h : ']' ∉ tail) :
    insideOf (cs ++ tail) = (insideOf cs).map fun s => (s.1, s.2 ++ tail) := by
  cases cs with
  | nil => exact insideOf_eq_none h
  | cons c cs =>
    have hle := frontLength_le (c :: cs)
    rw [insideOf_eq, insideOf_eq, frontLength_append h]
    generalize frontLength (c :: cs) = front at hle ⊢
    have hdrop : (c :: cs ++ tail).drop front = (c :: cs).drop front ++ tail :=
      List.drop_append_of_le_length hle
    by_cases hmem : ']' ∈ (c :: cs).drop front
    · obtain ⟨body, rest, hbody, hnone⟩ := List.eq_append_cons_of_mem hmem
      have hbody' : (c :: cs ++ tail).drop front = body ++ ']' :: (rest ++ tail) := by
        rw [hdrop, hbody, List.append_assoc, List.cons_append]
      rw [insideAfter_eq_some hnone hbody, insideAfter_eq_some hnone hbody',
        List.take_append_of_le_length hle]
      rfl
    · rw [insideAfter_eq_none hmem, insideAfter_eq_none]
      · rfl
      · rw [hdrop, List.mem_append]
        exact not_or.2 ⟨hmem, h⟩

/-! ## Reading a pattern -/

/-- Fuel beyond the length of a pattern does not matter. -/
theorem piecesFrom_eq_parse {fuel : Nat} {cs : List Char} (h : cs.length ≤ fuel) :
    piecesFrom fuel cs = parse cs := by
  suffices heq : ∀ m n, cs.length ≤ m → cs.length ≤ n → piecesFrom m cs = piecesFrom n cs from
    heq _ _ h (Nat.le_refl _)
  clear h
  induction hn : cs.length using Nat.strongRecOn generalizing cs with
  | ind length ih =>
    intro m n hm hn'
    cases cs with
    | nil => cases m <;> cases n <;> rfl
    | cons c cs =>
      rw [List.length_cons] at hn
      obtain ⟨m, rfl⟩ := Nat.exists_eq_succ_of_ne_zero (show m ≠ 0 by omega)
      obtain ⟨n, rfl⟩ := Nat.exists_eq_succ_of_ne_zero (show n ≠ 0 by omega)
      have hrest := ih cs.length (by omega) rfl m n (by omega) (by omega)
      simp only [piecesFrom, hrest]
      cases hinside : insideOf cs with
      | none => rfl
      | some s =>
        have hlength := length_lt_of_insideOf (show insideOf cs = some (s.1, s.2) from hinside)
        simp only [ih s.2.length (by omega) rfl m n (by omega) (by omega)]

/-- A pattern is read piece by piece. -/
theorem parse_cons (c : Char) (cs : List Char) : parse (c :: cs) =
    if c = '*' then .run :: parse cs
    else if c = '?' then .one :: parse cs
    else if c = '[' then
      match insideOf cs with
      | some (inside, rest) => setPiece inside :: parse rest
      | none => .char '[' :: parse cs
    else .char c :: parse cs := by
  rw [parse, List.length_cons, piecesFrom]
  cases hinside : insideOf cs with
  | none => rfl
  | some s =>
    have hlength := length_lt_of_insideOf (show insideOf cs = some (s.1, s.2) from hinside)
    simp only [piecesFrom_eq_parse (Nat.le_of_lt hlength)]
    rfl

/-- The pieces of a pattern that begins with a character that stands for itself. -/
theorem parse_cons_literal {c : Char} (h : isLiteral c) (cs : List Char) :
    parse (c :: cs) = .char c :: parse cs := by
  simp only [isLiteral, Bool.and_eq_true, bne_iff_ne] at h
  simp [parse_cons, h]

/-- The pieces of a pattern that begins with characters that stand for themselves. -/
theorem parse_append_literal {cs : List Char} (h : ∀ c ∈ cs, isLiteral c) (rest : List Char) :
    parse (cs ++ rest) = cs.map .char ++ parse rest := by
  induction cs with
  | nil => rfl
  | cons c cs ih =>
    obtain ⟨hc, hcs⟩ := List.forall_mem_cons.1 h
    rw [List.cons_append, parse_cons_literal hc, ih hcs]
    rfl

/-- The pieces of a pattern that begins with a star. -/
theorem parse_cons_star (cs : List Char) : parse ('*' :: cs) = .run :: parse cs := by
  simp [parse_cons]

/-- What stands before a text without closing brackets is read as if it stood alone. -/
theorem parse_append {tail : List Char} (h : ']' ∉ tail) (cs : List Char) :
    parse (cs ++ tail) = parse cs ++ parse tail := by
  induction hn : cs.length using Nat.strongRecOn generalizing cs with
  | ind length ih =>
    cases cs with
    | nil => rfl
    | cons c cs =>
      have hrest := ih cs.length (by simp [← hn]) cs rfl
      rw [List.cons_append, parse_cons, parse_cons, insideOf_append h, hrest]
      split
      · rfl
      · split
        · rfl
        · split
          · cases hinside : insideOf cs with
            | none => rfl
            | some s =>
              have hlength :=
                length_lt_of_insideOf (show insideOf cs = some (s.1, s.2) from hinside)
              simp only [Option.map_some]
              rw [ih s.2.length (by rw [← hn, List.length_cons]; omega) s.2 rfl, List.cons_append]
          · rfl

/-! ## Taking a text -/

/-- No pieces take the empty text. -/
theorem matchesPieces_nil {cs : List Char} : matchesPieces [] cs = true ↔ cs = [] :=
  List.isEmpty_iff

/-- A piece other than a star takes a character off the front of a text. -/
theorem matchesPieces_cons {p : Piece} (h : p ≠ .run) {ps : List Piece} {cs : List Char} :
    matchesPieces (p :: ps) cs = true ↔
      ∃ c rest, cs = c :: rest ∧ p.takes c = true ∧ matchesPieces ps rest = true := by
  cases cs with
  | nil => simp [matchesPieces]
  | cons c cs =>
    rw [matchesPieces]
    · simp
    · exact h

/-- A star takes any run of characters off the front of a text. -/
theorem matchesPieces_run {ps : List Piece} {cs : List Char} :
    matchesPieces (.run :: ps) cs = true ↔
      ∃ run rest, cs = run ++ rest ∧ matchesPieces ps rest = true := by
  rw [matchesPieces]
  exact someEnd_iff

/-- Pieces one after the other take a text in parts. -/
theorem matchesPieces_append {ps qs : List Piece} {cs : List Char} :
    matchesPieces (ps ++ qs) cs = true ↔
      ∃ front back, cs = front ++ back ∧ matchesPieces ps front = true ∧
        matchesPieces qs back = true := by
  induction ps generalizing cs with
  | nil => simp [matchesPieces_nil]
  | cons p ps ih =>
    rw [List.cons_append]
    by_cases hp : p = .run
    · subst hp
      simp only [matchesPieces_run, ih]
      constructor
      · rintro ⟨run, _, rfl, front, back, rfl, hfront, hback⟩
        exact ⟨run ++ front, back, by simp, ⟨run, front, rfl, hfront⟩, hback⟩
      · rintro ⟨_, back, rfl, ⟨run, front, rfl, hfront⟩, hback⟩
        exact ⟨run, front ++ back, by simp, front, back, rfl, hfront, hback⟩
    · simp only [matchesPieces_cons hp, ih]
      constructor
      · rintro ⟨c, _, rfl, hc, front, back, rfl, hfront, hback⟩
        exact ⟨c :: front, back, rfl, ⟨c, front, rfl, hc, hfront⟩, hback⟩
      · rintro ⟨_, back, rfl, ⟨c, front, rfl, hc, hfront⟩, hback⟩
        exact ⟨c, front ++ back, rfl, hc, front, back, rfl, hfront, hback⟩

/-- Characters that stand for themselves take themselves off the front of a text. -/
theorem matchesPieces_literal {cs : List Char} {ps : List Piece} {text : List Char} :
    matchesPieces (cs.map .char ++ ps) text ↔
      ∃ rest, text = cs ++ rest ∧ matchesPieces ps rest := by
  induction cs generalizing text with
  | nil => simp
  | cons c cs ih =>
    rw [List.map_cons, List.cons_append, matchesPieces_cons (p := .char c) nofun]
    simp only [Piece.takes, beq_iff_eq, ih]
    constructor
    · rintro ⟨_, _, rfl, rfl, rest, rfl, h⟩
      exact ⟨rest, rfl, h⟩
    · rintro ⟨rest, rfl, h⟩
      exact ⟨c, cs ++ rest, rfl, rfl, rest, rfl, h⟩

/-- A star between characters that stand for themselves takes the texts that begin and end with
these. -/
theorem accepts_star {front back : String} (hfront : ∀ c ∈ front.toList, isLiteral c)
    (hback : ∀ c ∈ back.toList, isLiteral c) {text : String} :
    accepts (front ++ "*" ++ back) text ↔ ∃ mid, text = front ++ mid ++ back := by
  have hparse : parse (front ++ "*" ++ back).toList =
      front.toList.map .char ++ .run :: (back.toList.map .char ++ []) := by
    have hstar : (front ++ "*" ++ back).toList = front.toList ++ '*' :: (back.toList ++ []) := by
      simp
    rw [hstar, parse_append_literal hfront, parse_cons_star, parse_append_literal hback]
    rfl
  rw [accepts, hparse, matchesPieces_literal]
  simp only [matchesPieces_run, matchesPieces_literal, matchesPieces_nil]
  constructor
  · rintro ⟨_, htext, mid, _, rfl, _, rfl, rfl⟩
    exact ⟨String.ofList mid, String.toList_injective (by simpa using htext)⟩
  · rintro ⟨mid, rfl⟩
    exact ⟨_, by simp, mid.toList, back.toList, rfl, [], by simp⟩

/-- A pattern in which no bracket is closed takes itself. -/
theorem accepts_self {pattern : String} (h : '[' ∉ pattern.toList ∨ ']' ∉ pattern.toList) :
    accepts pattern pattern = true := by
  rw [accepts]
  generalize pattern.toList = cs at h
  induction cs with
  | nil => rfl
  | cons c cs ih =>
    have hrest : '[' ∉ cs ∨ ']' ∉ cs := h.imp (mt (List.mem_cons_of_mem c))
      (mt (List.mem_cons_of_mem c))
    have hself := ih hrest
    rw [parse_cons]
    split
    · exact matchesPieces_run.2 ⟨[c], cs, rfl, hself⟩
    · split
      · exact (matchesPieces_cons (p := .one) nofun).2 ⟨c, cs, rfl, rfl, hself⟩
      · split
        · next hbracket =>
          -- The bracket is not closed, and stands for itself.
          have hopen : ']' ∉ cs := by
            rcases h with h | h
            · exact absurd (hbracket ▸ List.mem_cons_self) h
            · exact mt (List.mem_cons_of_mem c) h
          rw [insideOf_eq_none hopen]
          exact (matchesPieces_cons (p := .char '[') nofun).2
            ⟨c, cs, rfl, beq_iff_eq.2 hbracket.symm, hself⟩
        · exact (matchesPieces_cons (p := .char c) nofun).2 ⟨c, cs, rfl, beq_iff_eq.2 rfl, hself⟩

end Sabotage.Glob
