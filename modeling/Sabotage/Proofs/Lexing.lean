import Mathlib.Data.List.SplitBy
import Sabotage.Proofs.Strata

/-!
# From text to tokens

`lex` cuts a text where the class of the characters changes: signs that stand side by side are one
operator, the characters of a word one atom or one operator, a parenthesis is a token by itself, and
blanks only keep tokens apart. A text that has a blank or a parenthesis wherever two tokens meet is
read back token by token (`lex_of_spells`).

`Parses` puts tokens and grammar together: a text parses to an expression when it is the only one
that the tokens of the text derive.
-/

namespace Sabotage.Grammar

/-! ## Runs -/

/-- Neighbours that belong to one token. -/
def joins (c d : Char) : Bool :=
  charClass c == charClass d && (charClass c == .sign || charClass c == .word)

/-- A character that keeps tokens apart: a blank or a bracket. -/
def Parts (c : Char) : Prop :=
  charClass c = .blank ∨ charClass c = .bracket

/-- A character that keeps tokens apart joins with none after it. -/
theorem Parts.joins_left {c : Char} (h : Parts c) (d : Char) : joins c d = false := by
  rcases h with h | h <;> simp [joins, h]

/-- A character that keeps tokens apart joins with none before it. -/
theorem Parts.joins_right {d : Char} (h : Parts d) (c : Char) : joins c d = false := by
  rcases h with h | h <;> cases hc : charClass c <;> simp [joins, h, hc]

/-- The atom that a run of characters spells. -/
def Atom.ofRun? (run : List Char) : Option Atom :=
  if h : run ≠ [] ∧ run.all (charClass · == .word) = true ∧
      Operator.ofText? (String.ofList run) = none then
    some ⟨String.ofList run, by simpa using h.1, by simpa using h.2.1, h.2.2⟩
  else none

/-- The token that a run of characters spells. -/
def token? (run : List Char) : Option Token :=
  if run = ['('] then some .open
  else if run = [')'] then some .close
  else
    match Operator.ofText? (String.ofList run) with
    | some op => some (.operator op)
    | none => (Atom.ofRun? run).map .atom

/-- The tokens of a text; none when a run of it spells no token. -/
def lex (s : String) : Option (List Token) :=
  ((s.toList.splitBy joins).filter fun run => !run.all (charClass · == .blank)).mapM token?

/-- Texts that do not join are read one after the other. -/
theorem lex_append {s t : String} {us vs : List Token}
    (h : ∀ c ∈ s.toList.getLast?, ∀ d ∈ t.toList.head?, joins c d = false)
    (hs : lex s = some us) (ht : lex t = some vs) : lex (s ++ t) = some (us ++ vs) := by
  rw [lex] at hs ht ⊢
  rw [String.toList_append, List.splitBy_append h, List.filter_append, List.mapM_append, hs, ht]
  rfl

/-- A run that spells a token is read as that token. -/
theorem lex_run {s : String} {t : Token} {k : CharClass} (hne : s.toList ≠ [])
    (hk : k = .sign ∨ k = .word) (hall : s.toList.all (charClass · == k) = true)
    (ht : token? s.toList = some t) : lex s = some [t] := by
  have hclass : ∀ c ∈ s.toList, charClass c = k := by simpa using hall
  have hchain : s.toList.IsChain fun c d => joins c d = true := by
    refine (List.pairwise_of_forall_mem_list fun c hc d hd => ?_).isChain
    rcases hk with rfl | rfl <;> simp [joins, hclass c hc, hclass d hd]
  have hkeep : s.toList.all (charClass · == .blank) = false := by
    obtain ⟨c, hc⟩ := List.exists_mem_of_ne_nil _ hne
    refine List.all_eq_false.2 ⟨c, hc, ?_⟩
    rcases hk with rfl | rfl <;> simp [hclass c hc]
  simp [lex, List.splitBy_of_isChain hne hchain, hkeep, ht]

/-- An operator is spelled by signs, or by the characters of a word. -/
theorem class_operator (op : Operator) : ∃ k, (k = .sign ∨ k = .word) ∧
    op.text.toList.all (charClass · == k) = true := by
  cases op with
  | isIn | instanceOf => exact ⟨.word, .inr rfl, by decide⟩
  | _ => exact ⟨.sign, .inl rfl, by decide⟩

/-- A run without brackets is no parenthesis. -/
theorem token?_of_class {run : List Char} {k : CharClass} (hk : k = .sign ∨ k = .word)
    (hall : run.all (charClass · == k) = true) :
    token? run = match Operator.ofText? (String.ofList run) with
      | some op => some (.operator op)
      | none => (Atom.ofRun? run).map .atom := by
  have hbracket (c : Char) (hc : charClass c = .bracket) : run ≠ [c] := by
    rintro rfl
    rcases hk with rfl | rfl <;> simp [hc] at hall
  rw [token?, if_neg (hbracket '(' (by decide)), if_neg (hbracket ')' (by decide))]

/-- An atom is read back from its spelling. -/
theorem ofRun?_text (a : Atom) : Atom.ofRun? a.text.toList = some a := by
  have h : a.text.toList ≠ [] ∧ a.text.toList.all (charClass · == .word) = true ∧
      Operator.ofText? (String.ofList a.text.toList) = none :=
    ⟨by simpa using a.ne_empty, a.isWord, by simpa using a.not_operator⟩
  rw [Atom.ofRun?, dif_pos h]
  cases a
  simp

/-- A token is read back from its spelling. -/
theorem lex_token (t : Token) : lex t.text = some [t] := by
  cases t with
  | «open» => decide
  | close => decide
  | operator op =>
    obtain ⟨k, hk, hall⟩ := class_operator op
    have hne : op.text.toList ≠ [] := by simpa using op.text_ne_empty
    refine lex_run hne hk hall ?_
    change token? op.text.toList = _
    rw [token?_of_class hk hall, String.ofList_toList, Operator.ofText?_text]
  | atom a =>
    have hne : a.text.toList ≠ [] := by simpa using a.ne_empty
    refine lex_run hne (.inr rfl) a.isWord ?_
    change token? a.text.toList = _
    rw [token?_of_class (.inr rfl) a.isWord, String.ofList_toList, a.not_operator, ofRun?_text]
    rfl

/-! ## Spacing -/

/-- A text that spells tokens, with a blank between any two that no parenthesis keeps apart. -/
inductive Spells : String → List Token → Prop
  | token (t : Token) : Spells t.text [t]
  | blank {s t : String} {us vs : List Token} :
      Spells s us → Spells t vs → Spells (s ++ " " ++ t) (us ++ vs)
  | parens {s : String} {us : List Token} :
      Spells s us → Spells ("(" ++ s ++ ")") (.open :: us ++ [.close])

/-- Spaced tokens are read back. -/
theorem lex_of_spells {s : String} {ts : List Token} (h : Spells s ts) : lex s = some ts := by
  have hblank : Parts ' ' := .inl (by decide)
  have hopen : Parts '(' := .inr (by decide)
  have hclose : Parts ')' := .inr (by decide)
  induction h with
  | token t => exact lex_token t
  | @blank s t us vs _ _ ihs iht =>
    have hspace : lex " " = some [] := by decide
    have hfirst : ∀ d ∈ " ".toList.head?, Parts d := by simpa using hblank
    have hlast : ∀ c ∈ (s ++ " ").toList.getLast?, Parts c := by simpa using hblank
    have hs : lex (s ++ " ") = some (us ++ []) :=
      lex_append (fun c _ d hd => (hfirst d hd).joins_right c) ihs hspace
    rw [List.append_nil] at hs
    exact lex_append (fun c hc d _ => (hlast c hc).joins_left d) hs iht
  | @parens s us _ ih =>
    have hfirst : ∀ c ∈ "(".toList.getLast?, Parts c := by simpa using hopen
    have hlast : ∀ d ∈ ")".toList.head?, Parts d := by simpa using hclose
    have hs : lex ("(" ++ s) = some ([.open] ++ us) :=
      lex_append (fun c hc d _ => (hfirst c hc).joins_left d) (lex_token .open) ih
    exact lex_append (fun c _ d hd => (hlast d hd).joins_right c) hs (lex_token .close)

/-! ## Parsing -/

/-- The tokens of an expression with a space between any two. -/
def Expression.text (e : Expression) : String :=
  " ".intercalate (e.tokens.map Token.text)

namespace Expression

/-- An expression has tokens. -/
theorem tokens_ne_nil (e : Expression) : e.tokens ≠ [] := by
  cases e <;> simp [tokens]

/-- The text of an expression in parentheses. -/
theorem text_group (e : Expression) : (group e).text = "(" ++ " " ++ e.text ++ " " ++ ")" := by
  have hne : e.tokens.map Token.text ≠ [] := by simpa using e.tokens_ne_nil
  simp only [text, tokens, List.map_append, List.map_cons, List.map_nil, List.cons_append]
  rw [String.intercalate_cons_of_ne_nil (by simp),
    String.intercalate_append_of_ne_nil hne (by simp), String.intercalate_singleton]
  simp [Token.text, String.append_assoc]

/-- The text of a binary expression. -/
theorem text_binary (op : Operator) (l r : Expression) :
    (binary op l r).text = l.text ++ " " ++ op.text ++ " " ++ r.text := by
  have hl : l.tokens.map Token.text ≠ [] := by simpa using l.tokens_ne_nil
  have hr : r.tokens.map Token.text ≠ [] := by simpa using r.tokens_ne_nil
  simp only [text, tokens, List.map_append, List.map_cons]
  rw [String.intercalate_append_of_ne_nil hl (by simp), String.intercalate_cons_of_ne_nil hr]
  simp [Token.text, String.append_assoc]

/-- The text of an expression spells its tokens. -/
theorem spells_text (e : Expression) : Spells e.text e.tokens := by
  induction e with
  | atom a => exact .token (.atom a)
  | group e ih =>
    rw [text_group]
    exact ((Spells.token .open).blank ih).blank (.token .close)
  | binary op l r ihl ihr =>
    rw [text_binary]
    have h := (ihl.blank (.token (.operator op))).blank ihr
    rwa [List.append_assoc] at h

end Expression

/-- A text parses to an expression, and to no other. -/
def Parses (s : String) (e : Expression) : Prop :=
  ∃ ts, lex s = some ts ∧ ∀ e', Derives .shortCircuit ts e' ↔ e' = e

/-- A text parses to the settled expression of its tokens. -/
theorem parses_iff {s : String} {e : Expression} :
    Parses s e ↔ lex s = some e.tokens ∧ e.Settled := by
  constructor
  · rintro ⟨ts, hlex, h⟩
    obtain ⟨rfl, hs⟩ := derives_iff.1 ((h e).2 rfl)
    exact ⟨hlex, hs⟩
  · rintro ⟨hlex, hs⟩
    have he := derives_iff.2 ⟨rfl, hs⟩
    exact ⟨e.tokens, hlex, fun e' => ⟨fun h => h.unique he, fun h => h ▸ he⟩⟩

end Sabotage.Grammar
