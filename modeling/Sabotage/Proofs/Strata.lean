import Sabotage.Proofs.Expression

/-!
# The stratified grammar of binary expressions

The grammar has a stratum for each level of binding, as in the language standard: a unit production
takes a tighter stratum for a looser one, the operators of a level group to the left, `**` groups
to the right, and the strata of `??` lead past conjunctions and disjunctions.

`derives_iff` says which token lists derive an expression: its own, and these exactly when it is
settled. So a list of tokens derives at most one expression (`Derives.unique`).
-/

namespace Sabotage.Grammar

/-! ## Strata -/

/-- The levels of the grammar. -/
inductive Stratum where
  | shortCircuit | coalesceHead | coalesce | or | and | bitOr | bitXor | bitAnd | equality
  | relational | shift | additive | multiplicative | power | primary
  deriving DecidableEq, Repr

namespace Stratum

/-- The strata that stand for a stratum by a unit production. -/
def units : Stratum → List Stratum
  | .shortCircuit => [.coalesce, .or]
  | .coalesceHead => [.coalesce, .bitOr]
  | .coalesce => []
  | .or => [.and]
  | .and => [.bitOr]
  | .bitOr => [.bitXor]
  | .bitXor => [.bitAnd]
  | .bitAnd => [.equality]
  | .equality => [.relational]
  | .relational => [.shift]
  | .shift => [.additive]
  | .additive => [.multiplicative]
  | .multiplicative => [.power]
  | .power => [.primary]
  | .primary => []

/-- The stratum of the binary expressions of an operator. -/
def ofOperator : Operator → Stratum
  | .nullish => .coalesce
  | .or => .or
  | .and => .and
  | .bitOr => .bitOr
  | .bitXor => .bitXor
  | .bitAnd => .bitAnd
  | .looseEq | .looseNe | .strictEq | .strictNe => .equality
  | .less | .lessEq | .greater | .greaterEq | .isIn | .instanceOf => .relational
  | .shiftLeft | .shiftRight | .shiftRightZero => .shift
  | .add | .sub => .additive
  | .mul | .div | .rem => .multiplicative
  | .pow => .power

/-- The stratum of the left operand of an operator. -/
def ofLeft : Operator → Stratum
  | .nullish => .coalesceHead
  | .pow => .primary
  | op => ofOperator op

/-- The stratum of the right operand of an operator. -/
def ofRight : Operator → Stratum
  | .nullish => .bitOr
  | .or => .and
  | .and => .bitOr
  | .bitOr => .bitXor
  | .bitXor => .bitAnd
  | .bitAnd => .equality
  | .looseEq | .looseNe | .strictEq | .strictNe => .relational
  | .less | .lessEq | .greater | .greaterEq | .isIn | .instanceOf => .shift
  | .shiftLeft | .shiftRight | .shiftRightZero => .additive
  | .add | .sub => .multiplicative
  | .mul | .div | .rem | .pow => .power

/-- The stratum of an operand. -/
def ofOperand (op : Operator) : Side → Stratum
  | .left => ofLeft op
  | .right => ofRight op

end Stratum

/-- A list of tokens derives an expression from a stratum. -/
inductive Derives : Stratum → List Token → Expression → Prop
  | atom (a : Atom) : Derives .primary [.atom a] (.atom a)
  | group {ts : List Token} {e : Expression} :
      Derives .shortCircuit ts e → Derives .primary (.open :: ts ++ [.close]) (.group e)
  | unit {s t : Stratum} {ts : List Token} {e : Expression} :
      t ∈ s.units → Derives t ts e → Derives s ts e
  | binary {op : Operator} {us vs : List Token} {l r : Expression} :
      Derives (.ofOperand op .left) us l → Derives (.ofOperand op .right) vs r →
      Derives (.ofOperator op) (us ++ .operator op :: vs) (.binary op l r)

/-! ## What a stratum admits -/

namespace Stratum

/-- Whether the expressions of a stratum include, without parentheses, the binary expressions of an
operator, or, for none, the atoms and the expressions in parentheses. -/
def admits : Stratum → Option Operator → Bool
  | .shortCircuit, _ => true
  | .coalesceHead, some op => op == .nullish || decide (3 ≤ op.power)
  | .coalesce, some op => op == .nullish
  | .coalesce, none => false
  | .or, some op => op != .nullish
  | .and, some op => decide (2 ≤ op.power)
  | .bitOr, some op => decide (3 ≤ op.power)
  | .bitXor, some op => decide (4 ≤ op.power)
  | .bitAnd, some op => decide (5 ≤ op.power)
  | .equality, some op => decide (6 ≤ op.power)
  | .relational, some op => decide (7 ≤ op.power)
  | .shift, some op => decide (8 ≤ op.power)
  | .additive, some op => decide (9 ≤ op.power)
  | .multiplicative, some op => decide (10 ≤ op.power)
  | .power, some op => decide (11 ≤ op.power)
  | .primary, some _ => false
  | _, none => true

/-- A unit production admits nothing new. -/
theorem admits_of_units {s : Stratum} {op? : Option Operator} :
    ∀ t ∈ s.units, t.admits op? = true → s.admits op? = true := by
  cases op? with
  | none => cases s <;> decide
  | some op => cases s <;> cases op <;> decide

/-- The tightest stratum of the expressions with an operator, or none, at the root. -/
def ofRoot : Option Operator → Stratum
  | some op => ofOperator op
  | none => .primary

/-- What a stratum admits is its own or admitted by a unit production. -/
theorem exists_units {s : Stratum} {op? : Option Operator} (h : s.admits op? = true) :
    s = ofRoot op? ∨ ∃ t ∈ s.units, t.admits op? = true := by
  revert h
  cases op? with
  | none => cases s <;> decide
  | some op => cases s <;> cases op <;> decide

/-- An operand is admitted exactly when it stands without parentheses. -/
theorem admits_ofOperand (op inner : Operator) (side : Side) :
    (ofOperand op side).admits (some inner) = !inner.groups op side := by
  cases op <;> cases side <;> cases inner <;> rfl

/-- An operand that stands without parentheses is one that its stratum admits. -/
theorem admits_ofOperand_iff {op : Operator} {side : Side} {e : Expression} :
    (ofOperand op side).admits e.root? = true ↔ e.Fits op side := by
  simp only [Expression.Fits]
  cases e.root? with
  | none =>
    refine ⟨fun _ => nofun, fun _ => ?_⟩
    cases op <;> cases side <;> rfl
  | some inner => simp [admits_ofOperand]

/-- How many unit productions can follow one another. -/
def height : Stratum → Nat
  | .shortCircuit => 13
  | .or => 12
  | .and => 11
  | .coalesceHead => 11
  | .bitOr => 10
  | .bitXor => 9
  | .bitAnd => 8
  | .equality => 7
  | .relational => 6
  | .shift => 5
  | .additive => 4
  | .multiplicative => 3
  | .power => 2
  | .primary => 1
  | .coalesce => 0

/-- A unit production leads down. -/
theorem height_lt_of_units {s : Stratum} : ∀ t ∈ s.units, t.height < s.height := by
  cases s <;> decide

end Stratum

/-! ## Derivations -/

/-- What derives an expression is its own tokens, and these only when it is settled. -/
theorem Derives.sound {s : Stratum} {ts : List Token} {e : Expression} (h : Derives s ts e) :
    ts = e.tokens ∧ e.Settled ∧ s.admits e.root? = true := by
  induction h with
  | atom a => exact ⟨rfl, trivial, rfl⟩
  | group _ ih =>
    obtain ⟨rfl, hs, -⟩ := ih
    exact ⟨rfl, hs, rfl⟩
  | unit ht _ ih =>
    obtain ⟨rfl, hs, hadmits⟩ := ih
    exact ⟨rfl, hs, Stratum.admits_of_units _ ht hadmits⟩
  | @binary op us vs l r _ _ ihl ihr =>
    obtain ⟨rfl, hl, hleft⟩ := ihl
    obtain ⟨rfl, hr, hright⟩ := ihr
    have hfits := And.intro (Stratum.admits_ofOperand_iff.1 hleft)
      (Stratum.admits_ofOperand_iff.1 hright)
    refine ⟨rfl, ⟨hfits, hl, hr⟩, ?_⟩
    cases op <;> rfl

/-- An expression is derived from every stratum that admits it. -/
theorem Derives.of_admits {op? : Option Operator} {ts : List Token} {e : Expression}
    (h : Derives (.ofRoot op?) ts e) {s : Stratum} (hs : s.admits op? = true) :
    Derives s ts e := by
  -- The induction goes down the unit productions to the stratum of the root.
  induction hn : s.height using Nat.strongRecOn generalizing s with | _ n ih
  subst hn
  rcases Stratum.exists_units hs with rfl | ⟨t, ht, hadmits⟩
  · exact h
  · exact .unit ht (ih _ (Stratum.height_lt_of_units t ht) hadmits rfl)

/-- A settled expression is derived from every stratum that admits it. -/
theorem Expression.Settled.derives {e : Expression} (h : e.Settled) {s : Stratum}
    (hs : s.admits e.root? = true) : Derives s e.tokens e := by
  induction e generalizing s with
  | atom a =>
    have hroot : Derives (.ofRoot none) [.atom a] (.atom a) := .atom a
    exact hroot.of_admits hs
  | group e ih =>
    have hroot : Derives (.ofRoot none) (.open :: e.tokens ++ [.close]) (.group e) :=
      .group (ih h rfl)
    exact hroot.of_admits hs
  | binary op l r ihl ihr =>
    obtain ⟨⟨hleft, hright⟩, hl, hr⟩ := h
    have hroot : Derives (.ofRoot (some op)) (l.tokens ++ .operator op :: r.tokens)
        (.binary op l r) :=
      .binary (ihl hl (Stratum.admits_ofOperand_iff.2 hleft))
        (ihr hr (Stratum.admits_ofOperand_iff.2 hright))
    exact hroot.of_admits hs

/-- The lists of tokens that derive an expression: its own, when it is settled. -/
theorem derives_iff {ts : List Token} {e : Expression} :
    Derives .shortCircuit ts e ↔ ts = e.tokens ∧ e.Settled := by
  constructor
  · intro h
    exact ⟨h.sound.1, h.sound.2.1⟩
  · rintro ⟨rfl, h⟩
    exact h.derives rfl

/-- The grammar is unambiguous. -/
theorem Derives.unique {ts : List Token} {e e' : Expression} (h : Derives .shortCircuit ts e)
    (h' : Derives .shortCircuit ts e') : e = e' := by
  obtain ⟨rfl, hs⟩ := derives_iff.1 h
  obtain ⟨htokens, hs'⟩ := derives_iff.1 h'
  exact Expression.tokens_injective hs hs' htokens

end Sabotage.Grammar
