import Sabotage.Proofs.Phrases

/-!
# Reading phrases

The tokens of a phrase are read from left to right, with a stack of what waits for an operand. An
operand that has been read is taken by what waits for it only when the next token can have no use
for it: the operator that comes next may bind more tightly. A settled phrase is read back from its
tokens (`read_tokens`), so that a list of tokens derives at most one phrase (`Derives.unique`).
-/

namespace Sabotage

namespace Operator

/-- What needs no parentheses on the right of an operator needs none on the left of one that the
operator may stand on the left of. -/
theorem groups_left_trans {a b c : Operator} (h : groups a b .right = false)
    (h' : groups b c .left = false) : groups a c .left = false := by
  obtain ⟨hab, hpower⟩ := groups_eq_false.1 h
  obtain ⟨hbc, hpower'⟩ := groups_eq_false.1 h'
  rw [groups_eq_false]
  constructor
  · refine Bool.eq_false_iff.2 fun hac => ?_
    simp only [mixesNullish, Bool.or_eq_true, Bool.and_eq_true, beq_iff_eq] at hac
    rcases hac with ⟨rfl, rfl | rfl⟩ | ⟨rfl, rfl | rfl⟩ <;> revert h h' <;> cases b <;> decide
  · rcases hpower with hlt | ⟨heq, hside⟩
    · exact .inl (by omega)
    · -- Only powers group to the right, and none stands on the left of another.
      have hb : b.power = 11 := by
        cases hl : b.looseSide with
        | left => exact looseSide_eq_left.1 hl
        | right => exact absurd hl.symm hside
      rcases hpower' with hlt | ⟨heq', hside'⟩
      · exact .inl (by omega)
      · exact absurd (looseSide_eq_left.2 (heq' ▸ hb)).symm hside'

end Operator

namespace Phrase

/-! ## The reader -/

/-- Something that waits for an operand on its right. -/
inductive Pending where
  | group
  | signed (s : Sign)
  /-- A `new`, as long as it is open whether an argument list follows its operand. -/
  | fresh
  | index (object : Phrase)
  | argument (callee : Phrase) (isNew : Bool) (done : List Phrase)
  | right (op : Operator) (left : Phrase)
  | consequence (condition : Phrase)
  | alternative (condition consequence : Phrase)

/-- What comes after an operand: an operator, a question mark, or the end of a phrase. -/
inductive Next where
  | operator (op : Operator)
  | question
  | stop

/-- The phrase that an operand completes if what comes next leaves the operand to what waits for
it. -/
def Pending.complete? : Pending → Next → Phrase → Option Phrase
  | .signed s, _, e => some (.signed s e)
  | .fresh, _, e => some (.bare e)
  | .right outer l, .operator op, e =>
    if op.groups outer .right then some (.binary outer l e) else none
  | .right outer l, _, e => some (.binary outer l e)
  | .alternative c a, .stop, e => some (.choice c a e)
  | _, _, _ => none

/-- Completes what an operand completes before what comes next. -/
def collapse (next : Next) : List Pending → Phrase → List Pending × Phrase
  | [], e => ([], e)
  | f :: C, e =>
    match f.complete? next e with
    | some e' => collapse next C e'
    | none => (f :: C, e)

/-- A state of the reader: an operand is expected, the name of a property is, or an operand has been
read. -/
inductive State where
  | want (C : List Pending)
  | dot (C : List Pending) (e : Phrase)
  | ready (C : List Pending) (e : Phrase)

/-- The call or the construction of an argument list. -/
def applied (callee : Phrase) (isNew : Bool) (as : List Phrase) (trailing : Bool) : Phrase :=
  if isNew then .construct callee (.arguments as trailing)
  else .call callee (.arguments as trailing)

/-- The prefix operator that a token spells. -/
def Sign.ofText? (t : String) : Option Sign :=
  [Sign.not, .complement, .plus, .minus, .typeOf, .void, .delete].find? (·.text == t)

/-- The name or the truth value that a token spells. -/
def ofToken? (t : String) : Option Phrase :=
  if t = "true" then some (.truth true)
  else if t = "false" then some (.truth false)
  else if h : Script.IsWord t.toList ∧ t ∉ reservedWords then some (.name ⟨⟨t, h.1⟩, h.2⟩)
  else none

/-- Reads a token where an operand is expected. -/
def begin? (C : List Pending) (t : String) : Option State :=
  if t = "(" then some (.want (.group :: C))
  else if t = "new" then some (.want (.fresh :: C))
  else if t = ")" then
    match C with
    | .argument callee isNew done :: C =>
      some (.ready C (applied callee isNew done !done.isEmpty))
    | _ => none
  else
    match Sign.ofText? t with
    | some s => some (.want (.signed s :: C))
    | none => (ofToken? t).map (.ready C)

/-- Reads a token that closes a bracket or a part of a list or a choice. -/
def close? (t : String) : List Pending × Phrase → Option State
  | (.group :: C, e) => if t = ")" then some (.ready C (.group e)) else none
  | (.index o :: C, e) => if t = "]" then some (.ready C (.item o e)) else none
  | (.argument callee isNew done :: C, e) =>
    if t = ")" then some (.ready C (applied callee isNew (done ++ [e]) false))
    else if t = "," then some (.want (.argument callee isNew (done ++ [e]) :: C))
    else none
  | (.consequence c :: C, e) => if t = ":" then some (.want (.alternative c e :: C)) else none
  | _ => none

/-- Reads a token after an operand. -/
def continue? (C : List Pending) (e : Phrase) (t : String) : Option State :=
  if t = "." then some (.dot C e)
  else if t = "[" then some (.want (.index e :: C))
  else if t = "(" then
    match C with
    | .fresh :: C => some (.want (.argument e true [] :: C))
    | _ => some (.want (.argument e false [] :: C))
  else if t = "?" then
    match collapse .question C e with
    | (C, c) => some (.want (.consequence c :: C))
  else
    match Operator.ofText? t with
    | some op =>
      match collapse (.operator op) C e with
      | (C, l) => some (.want (.right op l :: C))
    | none => close? t (collapse .stop C e)

/-- Reads a token. -/
def step : State → String → Option State
  | .want C, t => begin? C t
  | .dot C e, t => if h : Script.IsWord t.toList then some (.ready C (.member e ⟨t, h⟩)) else none
  | .ready C e, t => continue? C e t

/-- Reads tokens. -/
def run (state : State) (ts : List String) : Option State :=
  ts.foldlM step state

/-- The phrase that a list of tokens is read as. -/
def read (ts : List String) : Option Phrase :=
  match run (.want []) ts with
  | some (.ready C e) =>
    match collapse .stop C e with
    | ([], e) => some e
    | _ => none
  | _ => none

/-! ## What is completed, and when -/

/-- What waits for the last part of a phrase when all its tokens are read, and that part. -/
def spine : Phrase → List Pending → List Pending × Phrase
  | .signed s e, C => spine e (.signed s :: C)
  | .bare c, C => spine c (.fresh :: C)
  | .binary op l r, C => spine r (.right op l :: C)
  | .choice c a b, C => spine b (.alternative c a :: C)
  | e, C => (C, e)

/-- The state when all tokens of a phrase are read. -/
def after (e : Phrase) (C : List Pending) : State :=
  .ready (spine e C).1 (spine e C).2

/-- The level of the phrases that may stand before what comes next. -/
def Next.level : Next → Level
  | .operator op => .operand op .left
  | .question => .stratum .shortCircuit
  | .stop => .conditional

/-- The level of the phrases that something waits for. -/
def Pending.level : Pending → Level
  | .group | .index _ | .argument .. | .consequence _ | .alternative .. => .conditional
  | .signed _ => .unary
  | .fresh => .construction
  | .right op _ => .operand op .right

namespace Level
variable {s : Level} {r : Root} {op : Operator} {side : Side}

/-- An argument list stands at a level of its own. -/
theorem ne_list_of_admits (hs : s ≠ .arguments) (h : s.admits r = true) : r ≠ .list := by
  rintro rfl
  cases s <;> first | exact hs rfl | cases h

/-- A binary expression is admitted as an operand exactly when it needs no parentheses. -/
theorem admits_operand_binary (op inner : Operator) (side : Side) :
    (operand op side).admits (.binary inner) = !inner.groups op side := by
  rw [← Grammar.Stratum.admits_ofOperand]
  cases op <;> cases side <;> rfl

/-- What stands as an operand without parentheses: no argument list and no choice, no binary
expression that needs them, and no prefix operator on the left of `**`. -/
theorem admits_operand_iff : (operand op side).admits r = true ↔ r ≠ .list ∧ r ≠ .choice ∧
    (∀ inner, r = .binary inner → inner.groups op side = false) ∧
    (r = .signed → op = .pow → side = .right) := by
  cases r with
  | binary inner => simp [admits_operand_binary]
  | _ => cases op <;> cases side <;> simp [operand, admits] <;> decide

/-- What can be accessed or called stands on either side of all operators. -/
theorem admits_operand_of_target (h : r.isTarget = true) : (operand op side).admits r = true := by
  rw [admits_operand_iff]
  cases r <;> simp_all [Root.isTarget, admits]

/-- What is constructed with arguments is constructed without. -/
theorem admits_construction (h : member.admits r = true) : construction.admits r = true := by
  cases r <;> simp_all [admits]

/-- What stands between a question mark and what is before it. -/
theorem admits_shortCircuit_iff :
    (stratum .shortCircuit).admits r = true ↔ r ≠ .list ∧ r ≠ .choice := by
  cases r <;> simp [admits, Grammar.Stratum.admits]

/-- What stands where any expression does. -/
theorem admits_conditional_iff : conditional.admits r = true ↔ r ≠ .list := by
  cases r <;> simp [admits]

end Level

variable {C : List Pending} {e : Phrase} {next : Next}

/-- What is the operand of a prefix operator stands where the whole does. -/
theorem Next.admits_of_signed {r : Root} (h : next.level.admits .signed = true)
    (hr : Level.unary.admits r = true) : next.level.admits r = true := by
  cases next with
  | operator op =>
    simp only [level, Level.admits_operand_iff] at h ⊢
    cases r <;> simp_all [Level.admits, Grammar.Stratum.admits]
  | question | stop => cases r <;> simp_all [level, Level.admits, Grammar.Stratum.admits]

/-- What is constructed without arguments stands where the whole does. -/
theorem Next.admits_of_bare {r : Root} (hr : Level.construction.admits r = true) :
    next.level.admits r = true := by
  cases next with
  | operator op =>
    rw [level, Level.admits_operand_iff]
    cases r <;> simp_all [Level.admits]
  | question | stop => cases r <;> simp_all [level, Level.admits, Grammar.Stratum.admits]

/-- What is the right operand of a binary expression stands where the whole does. -/
theorem Next.admits_of_binary {op : Operator} {r : Root} (h : next.level.admits (.binary op) = true)
    (hr : (Level.operand op .right).admits r = true) : next.level.admits r = true := by
  obtain ⟨hlist, hchoice, hbinary, -⟩ := Level.admits_operand_iff.1 hr
  cases next with
  | operator op' =>
    obtain ⟨-, -, hop, -⟩ := Level.admits_operand_iff.1 h
    refine Level.admits_operand_iff.2 ⟨hlist, hchoice, fun inner hinner => ?_, ?_⟩
    · exact Operator.groups_left_trans (hbinary inner hinner) (hop op rfl)
    · rintro - rfl
      exact absurd (hop op rfl) (by cases op <;> decide)
  | question => exact Level.admits_shortCircuit_iff.2 ⟨hlist, hchoice⟩
  | stop => exact Level.admits_conditional_iff.2 hlist

/-- A binary expression that stands before what comes next is completed. -/
theorem complete?_right {op : Operator} {l : Phrase} (h : next.level.admits (.binary op) = true) :
    (Pending.right op l).complete? next e = some (.binary op l e) := by
  cases next with
  | operator op' =>
    obtain ⟨-, -, hop, -⟩ := Level.admits_operand_iff.1 h
    exact if_pos (Operator.groups_swap (hop op rfl))
  | question | stop => rfl

/-- A phrase that stands before what comes next is completed from its last part. -/
theorem Settled.collapse_spine (h : e.Settled) (next : Next)
    (hroot : next.level.admits e.root = true) (C : List Pending) :
    collapse next (spine e C).1 (spine e C).2 = collapse next C e := by
  induction h generalizing C with
  | signed hadmits _ ih =>
    rw [spine, ih (Next.admits_of_signed hroot hadmits)]
    rfl
  | bare hadmits _ ih =>
    rw [spine, ih (Next.admits_of_bare hadmits)]
    rfl
  | binary _ hright _ _ _ ihr =>
    rw [spine, ihr (Next.admits_of_binary hroot hright), collapse, complete?_right hroot]
  | choice _ _ halternative _ _ _ _ _ ihb =>
    cases next with
    | operator op => exact absurd rfl (Level.admits_operand_iff.1 hroot).2.1
    | question => exact absurd rfl (Level.admits_shortCircuit_iff.1 hroot).2
    | stop =>
      rw [spine, ihb halternative]
      rfl
  | _ => rfl

/-! ## Reading the tokens of a phrase -/

/-- Whether a phrase of a root can come after what waits. -/
def Awaits (C : List Pending) (r : Root) : Prop :=
  ∀ f ∈ C.head?, f.level.admits r = true

namespace Awaits
variable {r : Root} {op : Operator}

/-- What comes after something that waits for its level. -/
theorem cons (f : Pending) (h : f.level.admits r = true) : Awaits (f :: C) r := by
  intro g hg
  cases hg
  exact h

/-- What is accessed stands where the access does. -/
theorem of_access (h : Awaits C r.access) (hr : r.isTarget = true) : Awaits C r := by
  intro f hf
  have hadmits := h f hf
  cases f with
  | right => exact Level.admits_operand_of_target hr
  | _ => cases r <;> simp_all [Pending.level, Root.access, Root.isTarget, Level.admits]

/-- What is called stands where the call does. -/
theorem of_call (h : Awaits C .call) (hr : r.isTarget = true) : Awaits C r := by
  intro f hf
  have hadmits := h f hf
  cases f with
  | right => exact Level.admits_operand_of_target hr
  | _ => cases r <;> simp_all [Pending.level, Root.isTarget, Level.admits]

/-- The left operand of a binary expression stands where the whole does. -/
theorem of_left (h : Awaits C (.binary op)) (hr : (Level.operand op .left).admits r = true) :
    Awaits C r := by
  obtain ⟨hlist, hchoice, hbinary, -⟩ := Level.admits_operand_iff.1 hr
  intro f hf
  have hadmits := h f hf
  cases f with
  | right outer l =>
    refine Level.admits_operand_iff.2 ⟨hlist, hchoice, fun inner hinner => ?_, fun _ _ => rfl⟩
    exact Operator.groups_trans (hbinary inner hinner)
      ((Level.admits_operand_iff.1 hadmits).2.2.1 op rfl)
  | signed | fresh => cases hadmits
  | _ => exact Level.admits_conditional_iff.2 hlist

/-- The condition of a choice stands where the whole does. -/
theorem of_condition (h : Awaits C .choice) (hr : r ≠ .list) : Awaits C r := by
  intro f hf
  have hadmits := h f hf
  cases f with
  | right outer l => exact absurd rfl (Level.admits_operand_iff.1 hadmits).2.1
  | signed | fresh => cases hadmits
  | _ => exact Level.admits_conditional_iff.2 hr

/-- What waits for a binary expression is not completed before its operator. -/
theorem collapse_operator (h : Awaits C (.binary op)) : collapse (.operator op) C e = (C, e) := by
  cases C with
  | nil => rfl
  | cons f C =>
    have hadmits := h f rfl
    cases f with
    | right outer l =>
      simp [collapse, Pending.complete?, (Level.admits_operand_iff.1 hadmits).2.2.1 op rfl]
    | signed | fresh => cases hadmits
    | _ => rfl

/-- What waits for a choice is not completed before the question mark. -/
theorem collapse_question (h : Awaits C .choice) : collapse .question C e = (C, e) := by
  cases C with
  | nil => rfl
  | cons f C =>
    have hadmits := h f rfl
    cases f with
    | right outer l => exact absurd rfl (Level.admits_operand_iff.1 hadmits).2.1
    | signed | fresh => cases hadmits
    | _ => rfl

/-- Nothing constructed is waited for where there is a call. -/
theorem continue?_call (h : Awaits C .call) :
    continue? C e "(" = some (.want (.argument e false [] :: C)) := by
  cases C with
  | nil => rfl
  | cons f C =>
    have hadmits := h f rfl
    cases f with
    | fresh => cases hadmits
    | _ => rfl

end Awaits

/-- Tokens are read one after the other. -/
@[simp] theorem run_cons (state : State) (t : String) (ts : List String) :
    run state (t :: ts) = (step state t).bind (run · ts) := rfl

/-- Nothing is read of no tokens. -/
@[simp] theorem run_nil (state : State) : run state [] = some state := rfl

/-- Lists of tokens are read one after the other. -/
@[simp] theorem run_append (state : State) (ts us : List String) :
    run state (ts ++ us) = (run state ts).bind (run · us) := by
  simp [run, List.foldlM_append]

/-- A name is none of the tokens that begin other phrases. -/
theorem Name.ne_of_mem (n : Name) {t : String}
    (ht : t ∈ ["(", ")", "new", "!", "~", "+", "-", "typeof", "void", "delete", "true", "false"]) :
    n.text ≠ t := by
  rintro rfl
  have hnot : ∀ t ∈ ["(", ")", "new", "!", "~", "+", "-", "typeof", "void", "delete", "true",
      "false"], t ∈ reservedWords ∨ ¬Script.IsWord t.toList := by
    decide
  exact (hnot _ ht).elim n.not_reserved (absurd n.isWord)

/-- A name is read as such. -/
theorem begin?_name (n : Name) : begin? C n.text = some (.ready C (.name n)) := by
  have hsign : Sign.ofText? n.text = none := by
    refine List.find?_eq_none.2 fun s hs => ?_
    have hne := n.ne_of_mem (t := s.text) (by cases s <;> decide)
    simpa using hne.symm
  have hname : ofToken? n.text = some (.name n) := by
    rw [ofToken?, if_neg (n.ne_of_mem (by decide)), if_neg (n.ne_of_mem (by decide)),
      dif_pos ⟨n.isWord, n.not_reserved⟩]
  have hopen : n.text ≠ "(" := n.ne_of_mem (by decide)
  have hclose : n.text ≠ ")" := n.ne_of_mem (by decide)
  have hnew : n.text ≠ "new" := n.ne_of_mem (by decide)
  simp [begin?, hopen, hclose, hnew, hsign, hname]

/-- A truth value is read as such. -/
theorem begin?_truth (b : Bool) : begin? C (truthText b) = some (.ready C (.truth b)) := by
  cases b <;> rfl

/-- A prefix operator waits for its operand. -/
theorem begin?_sign (s : Sign) : begin? C s.text = some (.want (.signed s :: C)) := by
  cases s <;> rfl

/-- A binary operator waits for its right operand. -/
theorem continue?_operator (op : Operator) : continue? C e op.text = some (.want
    (.right op (collapse (.operator op) C e).2 :: (collapse (.operator op) C e).1)) := by
  cases op <;> rfl

/-- What can be accessed or called waits for nothing. -/
theorem spine_of_target (h : e.root.isTarget = true) : spine e C = (C, e) := by
  cases e <;> first | rfl | cases h

/-- What can be accessed or called is no argument list. -/
theorem ne_list_of_target (h : e.root.isTarget = true) : e.root ≠ .list := by
  obtain ⟨s, rfl | rfl, hadmits⟩ := Root.isTarget_iff.1 h
  · exact Level.ne_list_of_admits (by decide) hadmits
  · exact Level.ne_list_of_admits (by decide) hadmits

/-- The phrases of an argument list. -/
theorem exists_arguments (h : Level.arguments.admits e.root = true) :
    ∃ as trailing, e = .arguments as trailing := by
  cases e with
  | arguments as trailing => exact ⟨as, trailing, rfl⟩
  | member o _ | item o _ =>
    have hne : o.root.access ≠ .list := by cases o.root <;> nofun
    simp [root, Level.admits, hne] at h
  | _ => cases h

/-- A token that closes something is read when all before it is completed. -/
theorem continue?_of_mem {t : String} (ht : t ∈ [")", "]", ",", ":"]) :
    continue? C e t = close? t (collapse .stop C e) := by
  simp only [List.mem_cons, List.not_mem_nil, or_false] at ht
  rcases ht with rfl | rfl | rfl | rfl <;> rfl

/-- What waits for a phrase to end takes it whole. -/
theorem Settled.run_closing (h : e.Settled) (hroot : e.root ≠ .list) {f : Pending} {t : String}
    (ht : t ∈ [")", "]", ",", ":"]) (hf : f.complete? .stop e = none) (ts : List String) :
    run (after e (f :: C)) (t :: ts) = (close? t (f :: C, e)).bind (run · ts) := by
  have hcollapse : collapse .stop (f :: C) e = (f :: C, e) := by
    rw [collapse, hf]
  have hlevel : Next.stop.level.admits e.root = true := Level.admits_conditional_iff.2 hroot
  rw [run_cons, after, step, continue?_of_mem ht,
    h.collapse_spine .stop hlevel, hcollapse]

/-- The tokens of a phrase are read up to its last part, whatever waits for the phrase. -/
def IsRead (e : Phrase) : Prop :=
  ∀ C, Awaits C e.root → run (.want C) e.tokens = some (after e C)

/-- The tokens of an argument list behind the parenthesis that opens it are read up to the one that
closes it. -/
def ListIsRead (as : List Phrase) (trailing : Bool) : Prop :=
  ∀ C callee isNew, run (.want (.argument callee isNew [] :: C))
      ([","].intercalate (as.map tokens) ++ closing trailing) =
    some (.ready C (applied callee isNew as trailing))

/-- The parts of an argument list are read one by one up to the closing parenthesis. -/
theorem run_arguments {callee : Phrase} {isNew trailing : Bool} {as : List Phrase}
    (has : ∀ a ∈ as, a.Settled ∧ a.root ≠ .list ∧ a.IsRead) (hne : as ≠ [])
    (done : List Phrase) :
    run (.want (.argument callee isNew done :: C))
        ([","].intercalate (as.map tokens) ++ closing trailing) =
      some (.ready C (applied callee isNew (done ++ as) trailing)) := by
  induction as generalizing done with
  | nil => exact absurd rfl hne
  | cons a as ih =>
    obtain ⟨⟨hsettled, hroot, hread⟩, has⟩ := List.forall_mem_cons.1 has
    have hawaits : Awaits (.argument callee isNew done :: C) a.root :=
      .cons _ (Level.admits_conditional_iff.2 hroot)
    cases as with
    | nil =>
      have hlist : [","].intercalate ([a].map tokens) = a.tokens := by simp
      rw [hlist, run_append, hread _ hawaits, Option.bind_some]
      cases trailing with
      | false =>
        rw [closing, hsettled.run_closing hroot (by decide) rfl]
        rfl
      | true =>
        have hcomma : close? "," (.argument callee isNew done :: C, a) =
            some (.want (.argument callee isNew (done ++ [a]) :: C)) := rfl
        have hclose : step (.want (.argument callee isNew (done ++ [a]) :: C)) ")" =
            some (.ready C (applied callee isNew (done ++ [a]) !(done ++ [a]).isEmpty)) := rfl
        have hdone : (done ++ [a]).isEmpty = false := by simp
        rw [closing, hsettled.run_closing hroot (by decide) rfl, hcomma, Option.bind_some,
          run_cons, hclose, hdone]
        rfl
    | cons b as =>
      have hlist : [","].intercalate ((a :: b :: as).map tokens) =
          a.tokens ++ "," :: [","].intercalate ((b :: as).map tokens) := by
        simp
      rw [hlist, List.append_assoc, run_append, hread _ hawaits, Option.bind_some,
        List.cons_append, hsettled.run_closing hroot (by decide) rfl]
      have hrest := ih has (List.cons_ne_nil b as) (done ++ [a])
      rw [List.append_assoc] at hrest
      exact hrest

/-- An argument list is read when its parts are. -/
theorem listIsRead {as : List Phrase} {trailing : Bool}
    (has : ∀ a ∈ as, a.Settled ∧ a.root ≠ .list ∧ a.IsRead) (htrailing : trailing = true → as ≠ []) :
    ListIsRead as trailing := by
  intro C callee isNew
  cases as with
  | nil =>
    cases trailing with
    | false => rfl
    | true => exact absurd rfl (htrailing rfl)
  | cons a as => exact run_arguments has (List.cons_ne_nil a as) []

namespace IsRead
variable {a b c f i l o r : Phrase} {op : Operator} {as : List Phrase} {trailing : Bool}

/-- A name is read. -/
theorem name (n : Name) : IsRead (.name n) := by
  intro C _
  rw [tokens, run_cons, step, begin?_name]
  rfl

/-- A truth value is read. -/
theorem truth (b : Bool) : IsRead (.truth b) := by
  intro C _
  rw [tokens, run_cons, step, begin?_truth]
  rfl

/-- Parentheses are read when what they are put around is. -/
theorem group (hs : e.Settled) (hroot : Level.conditional.admits e.root = true) (h : e.IsRead) :
    IsRead (.group e) := by
  intro C _
  have hstep : step (.want C) "(" = some (.want (.group :: C)) := rfl
  rw [tokens, List.cons_append, run_cons, hstep, Option.bind_some, run_append,
    h _ (.cons .group hroot), Option.bind_some,
    hs.run_closing (Level.admits_conditional_iff.1 hroot) (by decide) rfl]
  rfl

/-- A prefix operator is read when its operand is. -/
theorem signed {s : Sign} (hroot : Level.unary.admits e.root = true) (h : e.IsRead) :
    IsRead (.signed s e) := by
  intro C _
  rw [tokens, run_cons, step, begin?_sign, Option.bind_some]
  exact h _ (.cons (.signed s) hroot)

/-- An access to a member is read when its object is. -/
theorem member {p : Word} (hroot : o.root.isTarget = true) (h : o.IsRead) :
    IsRead (.member o p) := by
  intro C hC
  rw [tokens, run_append, h C (.of_access hC hroot), Option.bind_some, after,
    spine_of_target hroot]
  simp [step, continue?, p.isWord, after, spine]

/-- An access by an index is read when its object and its index are. -/
theorem item (hroot : o.root.isTarget = true) (hi : i.Settled)
    (hindex : Level.conditional.admits i.root = true) (ho : o.IsRead) (h : i.IsRead) :
    IsRead (.item o i) := by
  intro C hC
  have hstep : step (.ready C o) "[" = some (.want (.index o :: C)) := rfl
  rw [tokens, List.append_assoc, run_append, ho C (.of_access hC hroot), Option.bind_some, after,
    spine_of_target hroot, List.cons_append, run_cons, hstep, Option.bind_some, run_append,
    h _ (.cons (.index o) hindex), Option.bind_some,
    hi.run_closing (Level.admits_conditional_iff.1 hindex) (by decide) rfl]
  rfl

/-- A call is read when what is called and its arguments are. -/
theorem call (hroot : f.root.isTarget = true) (hf : f.IsRead) (h : ListIsRead as trailing) :
    IsRead (.call f (.arguments as trailing)) := by
  intro C hC
  rw [tokens, run_append, hf C (.of_call hC hroot), Option.bind_some, after,
    spine_of_target hroot, tokens, tokensAll_eq_map, List.cons_append, run_cons, step,
    hC.continue?_call, Option.bind_some, h]
  rfl

/-- A construction is read when what is constructed and its arguments are. -/
theorem construct (hroot : Level.member.admits c.root = true) (hc : c.IsRead)
    (h : ListIsRead as trailing) : IsRead (.construct c (.arguments as trailing)) := by
  intro C _
  have htarget : c.root.isTarget = true := Root.isTarget_iff.2 ⟨.member, .inl rfl, hroot⟩
  have hstep : step (.want C) "new" = some (.want (.fresh :: C)) := rfl
  have hfresh : Awaits (.fresh :: C) c.root := .cons _ (Level.admits_construction hroot)
  have hopen : step (.ready (.fresh :: C) c) "(" = some (.want (.argument c true [] :: C)) := rfl
  rw [tokens, List.cons_append, run_cons, hstep, Option.bind_some, run_append, hc _ hfresh,
    Option.bind_some, after, spine_of_target htarget, tokens, tokensAll_eq_map, List.cons_append,
    run_cons, hopen, Option.bind_some, h]
  rfl

/-- A construction without arguments is read when what is constructed is. -/
theorem bare (hroot : Level.construction.admits c.root = true) (h : c.IsRead) :
    IsRead (.bare c) := by
  intro C _
  have hstep : step (.want C) "new" = some (.want (.fresh :: C)) := rfl
  rw [tokens, run_cons, hstep, Option.bind_some]
  exact h _ (.cons .fresh hroot)

/-- A binary expression is read when its operands are. -/
theorem binary (hl : l.Settled) (hleft : (Level.operand op .left).admits l.root = true)
    (hright : (Level.operand op .right).admits r.root = true) (hlread : l.IsRead) (h : r.IsRead) :
    IsRead (.binary op l r) := by
  intro C hC
  rw [tokens, run_append, hlread C (hC.of_left hleft), Option.bind_some, run_cons, after, step,
    continue?_operator, hl.collapse_spine (.operator op) hleft, hC.collapse_operator,
    Option.bind_some]
  exact h _ (.cons (.right op l) hright)

/-- A choice is read when its condition and its branches are. -/
theorem choice (hc : c.Settled) (hcondition : (Level.stratum .shortCircuit).admits c.root = true)
    (ha : a.Settled) (hconsequence : Level.conditional.admits a.root = true)
    (halternative : Level.conditional.admits b.root = true) (hcread : c.IsRead) (haread : a.IsRead)
    (h : b.IsRead) : IsRead (.choice c a b) := by
  intro C hC
  have hstep (C : List Pending) (c : Phrase) : step (.ready C c) "?" =
      some (.want (.consequence (collapse .question C c).2 :: (collapse .question C c).1)) := rfl
  rw [tokens, List.append_assoc, run_append,
    hcread C (hC.of_condition (Level.admits_shortCircuit_iff.1 hcondition).1), Option.bind_some,
    List.cons_append, run_cons, after, hstep, hc.collapse_spine .question hcondition,
    hC.collapse_question, Option.bind_some, run_append,
    haread _ (.cons (.consequence c) hconsequence), Option.bind_some,
    ha.run_closing (Level.admits_conditional_iff.1 hconsequence) (by decide) rfl]
  exact h _ (.cons (.alternative c a) halternative)

end IsRead

/-- The tokens of a settled phrase are read up to its last part, and those of an argument list up to
its closing parenthesis. -/
theorem Settled.isRead (h : e.Settled) : (e.root ≠ .list → e.IsRead) ∧
    ∀ as trailing, e = .arguments as trailing → ListIsRead as trailing := by
  induction h with
  | name n => exact ⟨fun _ => .name n, nofun⟩
  | truth b => exact ⟨fun _ => .truth b, nofun⟩
  | group hroot hs ih =>
    exact ⟨fun _ => .group hs hroot (ih.1 (Level.admits_conditional_iff.1 hroot)), nofun⟩
  | signed hroot _ ih =>
    exact ⟨fun _ => .signed hroot (ih.1 (Level.ne_list_of_admits (by decide) hroot)), nofun⟩
  | member hroot _ ih =>
    exact ⟨fun _ => .member hroot (ih.1 (ne_list_of_target hroot)), nofun⟩
  | item hroot hindex _ hi iho ihi =>
    exact ⟨fun _ => .item hroot hi hindex (iho.1 (ne_list_of_target hroot))
      (ihi.1 (Level.admits_conditional_iff.1 hindex)), nofun⟩
  | call hroot hlist _ _ ihf iha =>
    obtain ⟨as, trailing, rfl⟩ := exists_arguments hlist
    exact ⟨fun _ => .call hroot (ihf.1 (ne_list_of_target hroot)) (iha.2 as trailing rfl), nofun⟩
  | construct hroot hlist _ _ ihc iha =>
    obtain ⟨as, trailing, rfl⟩ := exists_arguments hlist
    exact ⟨fun _ => .construct hroot (ihc.1 (Level.ne_list_of_admits (by decide) hroot))
      (iha.2 as trailing rfl), nofun⟩
  | bare hroot _ ih =>
    exact ⟨fun _ => .bare hroot (ih.1 (Level.ne_list_of_admits (by decide) hroot)), nofun⟩
  | arguments htrailing hroot hs ih =>
    refine ⟨fun hlist => absurd rfl hlist, ?_⟩
    rintro as trailing ⟨⟩
    refine listIsRead (fun a ha => ?_) htrailing
    have hlist := Level.admits_conditional_iff.1 (hroot a ha)
    exact ⟨hs a ha, hlist, (ih a ha).1 hlist⟩
  | binary hleft hright hl _ ihl ihr =>
    exact ⟨fun _ => .binary hl hleft hright (ihl.1 (Level.admits_operand_iff.1 hleft).1)
      (ihr.1 (Level.admits_operand_iff.1 hright).1), nofun⟩
  | choice hcondition hconsequence halternative hc ha _ ihc iha ihb =>
    exact ⟨fun _ => .choice hc hcondition ha hconsequence halternative
      (ihc.1 (Level.admits_shortCircuit_iff.1 hcondition).1)
      (iha.1 (Level.admits_conditional_iff.1 hconsequence))
      (ihb.1 (Level.admits_conditional_iff.1 halternative)), nofun⟩

/-- A settled phrase that is no argument list is read from its tokens. -/
theorem Settled.read_tokens (h : e.Settled) (hroot : e.root ≠ .list) : read e.tokens = some e := by
  have hstop : collapse .stop (spine e []).1 (spine e []).2 = ([], e) :=
    h.collapse_spine .stop (Level.admits_conditional_iff.2 hroot) []
  rw [read, h.isRead.1 hroot [] nofun]
  simp only [after, hstop]

/-- The grammar is unambiguous. -/
theorem Derives.unique {ts : List String} {e e' : Phrase} (h : Derives .conditional ts e)
    (h' : Derives .conditional ts e') : e = e' := by
  obtain ⟨htokens, hs, hroot⟩ := h.sound
  obtain ⟨htokens', hs', hroot'⟩ := h'.sound
  have hread := hs.read_tokens (Level.admits_conditional_iff.1 hroot)
  rw [← htokens, htokens', hs'.read_tokens (Level.admits_conditional_iff.1 hroot')] at hread
  exact (Option.some.inj hread).symm

end Phrase

end Sabotage
