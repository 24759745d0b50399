import Sabotage.Operator
import Sabotage.Text.Blank

/-!
# Expressions and their tokens

Expressions are built from atoms, parentheses and binary operators. An expression is settled when
no operand stands without the parentheses that `Operator.groups` asks for. The tokens of a settled
expression determine it (`Expression.tokens_injective`): outside parentheses they are a chain of
operators and blocks, a block being an atom or an expression in parentheses, and a settled
expression is what its chain gives when the links are put on one after the other, each as deep in
the right operands as its operator allows (`Expression.foldl_graft`).
-/

namespace Sabotage

/-! ## Grouping of operators -/

namespace Operator
variable {a b c : Operator} {side : Side}

/-- An operand stands without parentheses when its operator may share the chain and binds more
tightly, or as tightly on the side that the operators group to. -/
theorem groups_eq_false : groups a b side = false ↔
    mixesNullish a b = false ∧ (b.power < a.power ∨ a.power = b.power ∧ side ≠ b.looseSide) := by
  simp only [groups, Bool.or_eq_false_iff, decide_eq_false_iff_not, Bool.and_eq_false_iff,
    beq_eq_false_iff_ne, and_assoc]
  refine and_congr_right fun _ => ?_
  rcases Nat.lt_trichotomy a.power b.power with h | h | h
  · exact ⟨fun ⟨hn, _⟩ => absurd h hn, fun hor => by omega⟩
  · exact ⟨fun ⟨_, hor⟩ => .inr ⟨h, hor.resolve_left (absurd h)⟩,
      fun hor => ⟨by omega, .inr (hor.resolve_left (by omega)).2⟩⟩
  · exact ⟨fun _ => .inl h, fun _ => ⟨by omega, .inl (by omega)⟩⟩

/-- Exponentiation binds most tightly, and it alone groups to the right. -/
theorem looseSide_eq_left : a.looseSide = .left ↔ a.power = 11 := by
  cases a <;> decide

/-- No operator binds more tightly than exponentiation. -/
theorem power_le (a : Operator) : a.power ≤ 11 := by
  cases a <;> decide

/-- An operand that stands on the left of an operator could not stand on its own right. -/
theorem groups_swap (h : groups a b .left = false) : groups b a .right = true := by
  obtain ⟨-, h | ⟨h, hside⟩⟩ := groups_eq_false.1 h
  · simp [groups, h]
  · have hloose : a.looseSide = .right := by
      cases ha : a.looseSide with
      | left => exact absurd (looseSide_eq_left.2 (h ▸ looseSide_eq_left.1 ha)).symm hside
      | right => rfl
    simp [groups, h, hloose]

/-- What needs no parentheses on the right of an operator leaves its own operands free of them
there. -/
theorem groups_trans (h : groups a b side = false) (h' : groups b c .right = false) :
    groups a c .right = false := by
  obtain ⟨hab, hpower⟩ := groups_eq_false.1 h
  obtain ⟨hbc, hpower'⟩ := groups_eq_false.1 h'
  have hle : b.power ≤ a.power := by omega
  rw [groups_eq_false]
  constructor
  · -- Only a conjunction above `??` is loose enough to be mixed, and nothing fits between them.
    refine Bool.eq_false_iff.2 fun hac => ?_
    simp only [mixesNullish, Bool.or_eq_true, Bool.and_eq_true, beq_iff_eq] at hac
    rcases hac with ⟨rfl, rfl | rfl⟩ | ⟨rfl, rfl | rfl⟩ <;> revert h h' <;> cases b <;>
      cases side <;> decide
  · rcases hpower' with hlt | ⟨heq, hside⟩
    · exact .inl (Nat.lt_of_lt_of_le hlt hle)
    · refine .inr ⟨?_, hside⟩
      have hc : c.power = 11 := by
        cases hl : c.looseSide with
        | left => exact looseSide_eq_left.1 hl
        | right => exact absurd hl.symm hside
      have := a.power_le
      omega

end Operator

namespace Grammar

/-! ## Tokens -/

/-- The classes of characters that tell tokens apart. -/
inductive CharClass where
  | blank | bracket | sign | word
  deriving DecidableEq, Repr

/-- The characters of the operators that are no words. -/
def signs : List Char :=
  ['=', '!', '<', '>', '&', '|', '?', '^', '+', '-', '*', '/', '%']

/-- The class of a character. -/
def charClass (c : Char) : CharClass :=
  if Text.isBlank c then .blank
  else if c = '(' ∨ c = ')' then .bracket
  else if c ∈ signs then .sign
  else .word

/-- The text of an operand that is no binary expression and not in parentheses: a word that is no
operator. -/
structure Atom where
  text : String
  ne_empty : text ≠ ""
  isWord : text.toList.all (charClass · == .word) = true
  not_operator : Operator.ofText? text = none
  deriving DecidableEq

/-- A token of an expression. -/
inductive Token where
  | open
  | close
  | operator (op : Operator)
  | atom (a : Atom)
  deriving DecidableEq

/-- The spelling of a token. -/
def Token.text : Token → String
  | .open => "("
  | .close => ")"
  | .operator op => op.text
  | .atom a => a.text

/-- An expression of binary operators. -/
inductive Expression where
  | atom (a : Atom)
  | group (e : Expression)
  | binary (op : Operator) (left right : Expression)
  deriving DecidableEq

namespace Expression

/-- The tokens in order. -/
def tokens : Expression → List Token
  | .atom a => [.atom a]
  | .group e => .open :: e.tokens ++ [.close]
  | .binary op l r => l.tokens ++ .operator op :: r.tokens

/-- The operator at the root, for a binary expression. -/
def root? : Expression → Option Operator
  | .binary op _ _ => some op
  | _ => none

/-- Whether an expression stands without parentheses on a side of an operator. -/
def Fits (e : Expression) (outer : Operator) (side : Side) : Prop :=
  ∀ op ∈ e.root?, Operator.groups op outer side = false

/-- Every operand stands without parentheses where it stands. -/
def Settled : Expression → Prop
  | .atom _ => True
  | .group e => e.Settled
  | .binary op l r => (l.Fits op .left ∧ r.Fits op .right) ∧ l.Settled ∧ r.Settled

/-! ## Chains -/

/-- The first block of a chain. -/
def first : Expression → Expression
  | .binary _ l _ => l.first
  | e => e

/-- The links of a chain after the first block. -/
def links : Expression → List (Operator × Expression)
  | .binary op l r => l.links ++ (op, r.first) :: r.links
  | _ => []

/-- Puts a link on to the end of an expression, as deep in the right operands as it has to go. -/
def graft : Expression → Operator × Expression → Expression
  | .binary op l r, link =>
    if Operator.groups link.1 op .right then .binary link.1 (.binary op l r) link.2
    else .binary op l (r.graft link)
  | e, link => .binary link.1 e link.2

/-- An operator that needs no parentheses around its left operand takes the whole of it. -/
theorem graft_of_fits {e : Expression} {op : Operator} (h : e.Fits op .left) (p : Expression) :
    e.graft (op, p) = .binary op e p := by
  cases e with
  | atom | group => rfl
  | binary o l r => exact if_pos (Operator.groups_swap (h o rfl))

/-- Links that go into the right operand are put on to it. -/
theorem foldl_graft_binary {op : Operator} {l : Expression}
    {ls : List (Operator × Expression)} (h : ∀ link ∈ ls, Operator.groups link.1 op .right = false)
    (r : Expression) : ls.foldl graft (.binary op l r) = .binary op l (ls.foldl graft r) := by
  induction ls generalizing r with
  | nil => rfl
  | cons link ls ih =>
    obtain ⟨hlink, hls⟩ := List.forall_mem_cons.1 h
    rw [List.foldl_cons, graft, if_neg (Bool.eq_false_iff.1 hlink), ih hls, List.foldl_cons]

/-- All operators of a chain fit where the chain fits. -/
theorem Settled.links_fit {e : Expression} (h : e.Settled) {outer : Operator}
    (hfit : e.Fits outer .right) :
    ∀ link ∈ e.links, Operator.groups link.1 outer .right = false := by
  induction e with
  | atom | group => nofun
  | binary op l r ihl ihr =>
    obtain ⟨⟨hl, hr⟩, hsl, hsr⟩ := h
    have hop := hfit op rfl
    intro link hlink
    rcases List.mem_append.1 hlink with hlink | hlink
    · exact ihl hsl (fun o ho => Operator.groups_trans (hl o ho) hop) link hlink
    · rcases List.mem_cons.1 hlink with rfl | hlink
      · exact hop
      · exact ihr hsr (fun o ho => Operator.groups_trans (hr o ho) hop) link hlink

/-- A settled expression is what its chain gives, link by link. -/
theorem Settled.foldl_graft {e : Expression} (h : e.Settled) : e.links.foldl graft e.first = e := by
  induction e with
  | atom | group => rfl
  | binary op l r ihl ihr =>
    obtain ⟨⟨hl, hr⟩, hsl, hsr⟩ := h
    calc (l.links ++ (op, r.first) :: r.links).foldl graft l.first
        = r.links.foldl graft (l.graft (op, r.first)) := by
          rw [List.foldl_append, List.foldl_cons, ihl hsl]
      _ = r.links.foldl graft (.binary op l r.first) := by rw [graft_of_fits hl]
      _ = .binary op l (r.links.foldl graft r.first) :=
          foldl_graft_binary (hsr.links_fit hr) r.first
      _ = .binary op l r := by rw [ihr hsr]

/-! ## Blocks -/

/-- An atom, or a settled expression in parentheses. -/
def Block (e : Expression) : Prop :=
  e.root? = none ∧ e.Settled

/-- A chain of a settled expression begins with a block. -/
theorem Settled.block_first {e : Expression} (h : e.Settled) : e.first.Block := by
  induction e with
  | atom | group => exact ⟨rfl, h⟩
  | binary op l r ihl ihr => exact ihl h.2.1

/-- The links of a settled expression are blocks. -/
theorem Settled.block_links {e : Expression} (h : e.Settled) : ∀ link ∈ e.links, link.2.Block := by
  induction e with
  | atom | group => nofun
  | binary op l r ihl ihr =>
    refine List.forall_mem_append.2 ⟨ihl h.2.1, List.forall_mem_cons.2 ⟨?_, ihr h.2.2⟩⟩
    exact h.2.2.block_first

/-- The tokens of the links of a chain. -/
def linkTokens (ls : List (Operator × Expression)) : List Token :=
  ls.flatMap fun link => .operator link.1 :: link.2.tokens

/-- The tokens of an expression are those of its chain. -/
theorem tokens_eq_chain (e : Expression) : e.tokens = e.first.tokens ++ linkTokens e.links := by
  induction e with
  | atom | group => simp [first, links, linkTokens]
  | binary op l r ihl ihr =>
    rw [tokens, ihl, ihr]
    simp [first, links, linkTokens]

/-- What stands before the parenthesis that closes a number of open ones more than are opened, and
what stands from there on. -/
def closing : Nat → List Token → List Token × List Token
  | _, [] => ([], [])
  | 0, .close :: ts => ([], .close :: ts)
  | n + 1, .close :: ts => (.close :: (closing n ts).1, (closing n ts).2)
  | n, .open :: ts => (.open :: (closing (n + 1) ts).1, (closing (n + 1) ts).2)
  | n, .operator op :: ts => (.operator op :: (closing n ts).1, (closing n ts).2)
  | n, .atom a :: ts => (.atom a :: (closing n ts).1, (closing n ts).2)

/-- The tokens of an expression close what they open. -/
theorem closing_tokens (e : Expression) (n : Nat) (ts : List Token) :
    closing n (e.tokens ++ ts) = (e.tokens ++ (closing n ts).1, (closing n ts).2) := by
  induction e generalizing n ts with
  | atom a => simp [tokens, closing]
  | group e ih => simp [tokens, closing, ih]
  | binary op l r ihl ihr => simp [tokens, closing, ihl, ihr]

/-- The tokens of a block tell where it ends. -/
theorem Block.tokens_append {p q : Expression} (hp : p.Block) (hq : q.Block) {us vs : List Token}
    (h : p.tokens ++ us = q.tokens ++ vs) : p.tokens = q.tokens ∧ us = vs := by
  match p, q with
  | .atom _, .atom _ => simpa [tokens] using h
  | .atom _, .group _ | .group _, .atom _ => simp [tokens] at h
  | .group p, .group q =>
    simp only [tokens, List.cons_append, List.append_assoc, List.cons.injEq, true_and] at h
    have hclosing := congrArg (closing 0) h
    simp only [List.nil_append, closing_tokens, closing, List.append_nil, Prod.mk.injEq,
      List.cons.injEq, true_and] at hclosing
    simp [tokens, hclosing]
  | .binary .., _ => cases hp.1
  | _, .binary .. => cases hq.1

/-! ## Tokens determine settled expressions -/

/-- Chains of the same tokens are the same, once this is known of the blocks. -/
theorem chain_injective {Same : Expression → Prop}
    (hsame : ∀ p q : Expression, Same p → p.Block → q.Block → p.tokens = q.tokens → p = q) :
    ∀ {ls ms : List (Operator × Expression)} {p q : Expression}, Same p → (∀ l ∈ ls, Same l.2) →
      p.Block → q.Block → (∀ l ∈ ls, l.2.Block) → (∀ m ∈ ms, m.2.Block) →
      p.tokens ++ linkTokens ls = q.tokens ++ linkTokens ms → p = q ∧ ls = ms
  | ls, ms, p, q, hp, hls, hbp, hbq, hbls, hbms, h => by
    obtain ⟨htokens, h⟩ := hbp.tokens_append hbq h
    refine ⟨hsame p q hp hbp hbq htokens, ?_⟩
    match ls, ms with
    | [], [] => rfl
    | [], m :: ms => cases h
    | l :: ls, [] => cases h
    | (o, p') :: ls, (o', q') :: ms =>
      simp only [linkTokens, List.flatMap_cons, List.cons_append, List.cons.injEq,
        Token.operator.injEq] at h
      obtain ⟨hp', hls⟩ := List.forall_mem_cons.1 hls
      obtain ⟨hbp', hbls⟩ := List.forall_mem_cons.1 hbls
      obtain ⟨hbq', hbms⟩ := List.forall_mem_cons.1 hbms
      obtain ⟨rfl, rfl⟩ := chain_injective hsame hp' hls hbp' hbq' hbls hbms h.2
      rw [h.1]

/-- The first block has no more tokens than the expression. -/
theorem length_first_le (e : Expression) : e.first.tokens.length ≤ e.tokens.length := by
  have := congrArg List.length e.tokens_eq_chain
  rw [List.length_append] at this
  omega

/-- A link has no more tokens than the expression. -/
theorem length_link_le {e : Expression} {link : Operator × Expression} (h : link ∈ e.links) :
    link.2.tokens.length ≤ e.tokens.length := by
  obtain ⟨before, after, heq⟩ := List.append_of_mem h
  have := congrArg List.length e.tokens_eq_chain
  simp only [heq, linkTokens, List.flatMap_append, List.flatMap_cons, List.length_append,
    List.length_cons] at this
  omega

/-- Two settled expressions of the same tokens are the same. -/
theorem tokens_injective {e e' : Expression} (he : e.Settled) (he' : e'.Settled)
    (h : e.tokens = e'.tokens) : e = e' := by
  -- The induction on the number of tokens settles what stands in the parentheses of the blocks.
  induction hn : e.tokens.length using Nat.strongRecOn generalizing e e' with | _ n ih
  subst hn
  have hsame : ∀ p q : Expression, p.tokens.length ≤ e.tokens.length → p.Block → q.Block →
      p.tokens = q.tokens → p = q := by
    intro p q hle hp hq hpq
    match p, q with
    | .atom _, .atom _ => simpa [tokens] using hpq
    | .atom _, .group _ | .group _, .atom _ => simp [tokens] at hpq
    | .group p, .group q =>
      have hlt : p.tokens.length < e.tokens.length := by
        simp only [tokens, List.length_append, List.length_cons] at hle
        omega
      have hps : p.Settled := hp.2
      have hqs : q.Settled := hq.2
      rw [ih _ hlt hps hqs (by simpa [tokens] using hpq) rfl]
    | .binary .., _ => cases hp.1
    | _, .binary .. => cases hq.1
  rw [e.tokens_eq_chain, e'.tokens_eq_chain] at h
  obtain ⟨hfirst, hlinks⟩ := chain_injective hsame e.length_first_le (fun _ => length_link_le)
    he.block_first he'.block_first he.block_links he'.block_links h
  rw [← he.foldl_graft, ← he'.foldl_graft, hfirst, hlinks]

end Expression

end Grammar

end Sabotage
