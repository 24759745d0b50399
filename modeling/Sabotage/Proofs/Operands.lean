import Sabotage.Proofs.Strata

/-!
# Operands without parentheses

An expression is given back when its tokens derive it, and derive nothing else. Whether it is can be
read off its operands: an expression is given back exactly when none of its operators stands on a
side of another where `Operator.groupingNeeded` asks for parentheses (`regained_iff`). So
parentheses put in where they are asked for are enough, and none of them can be left out.
-/

namespace Sabotage.Grammar

namespace Expression

/-- A binary expression of the operator `inner` stands, without parentheses, on a side of the
operator `outer` somewhere in an expression. -/
inductive Nests (inner outer : Operator) : Side → Expression → Prop
  | left {l r : Expression} : l.root? = some inner → Nests inner outer .left (.binary outer l r)
  | right {l r : Expression} : r.root? = some inner → Nests inner outer .right (.binary outer l r)
  | group {side : Side} {e : Expression} : Nests inner outer side e →
      Nests inner outer side (.group e)
  | leftOf {side : Side} {op : Operator} {l r : Expression} : Nests inner outer side l →
      Nests inner outer side (.binary op l r)
  | rightOf {side : Side} {op : Operator} {l r : Expression} : Nests inner outer side r →
      Nests inner outer side (.binary op l r)

/-- The tokens of an expression derive it, and derive nothing else. -/
def Regained (e : Expression) : Prop :=
  ∀ e', Derives .shortCircuit e.tokens e' ↔ e' = e

/-- The tokens of settled expressions, and of no others, give them back. -/
theorem regained_iff_settled {e : Expression} : e.Regained ↔ e.Settled := by
  constructor
  · intro h
    exact (derives_iff.1 ((h e).2 rfl)).2
  · intro h e'
    have he : Derives .shortCircuit e.tokens e := derives_iff.2 ⟨rfl, h⟩
    constructor
    · intro he'
      exact he'.unique he
    · rintro rfl
      exact he

/-- In a settled expression no operator stands where it has to be put into parentheses. -/
theorem Settled.groups_of_nests {inner outer : Operator} {side : Side} {e : Expression}
    (h : e.Settled) (hn : Nests inner outer side e) : Operator.groups inner outer side = false := by
  induction hn with
  | left hroot => exact h.1.1 inner hroot
  | right hroot => exact h.1.2 inner hroot
  | group _ ih => exact ih h
  | leftOf _ ih => exact ih h.2.1
  | rightOf _ ih => exact ih h.2.2

/-- An expression is settled when no operator stands where it has to be put into parentheses. -/
theorem settled_of_nests {e : Expression} (h : ∀ inner outer side, Nests inner outer side e →
    Operator.groups inner outer side = false) : e.Settled := by
  induction e with
  | atom a => trivial
  | group e ih => exact ih fun inner outer side hn => h inner outer side (.group hn)
  | binary op l r ihl ihr =>
    refine ⟨⟨fun inner hroot => ?_, fun inner hroot => ?_⟩, ihl ?_, ihr ?_⟩
    · exact h inner op .left (.left hroot)
    · exact h inner op .right (.right hroot)
    · exact fun inner outer side hn => h inner outer side (.leftOf hn)
    · exact fun inner outer side hn => h inner outer side (.rightOf hn)

/-- The tokens of an expression give it back exactly when no operand that is a binary expression
itself needs parentheses where it stands. -/
theorem regained_iff (e : Expression) : e.Regained ↔ ∀ inner outer side,
    Nests inner outer side e → Operator.groupingNeeded inner.text outer.text side = false := by
  simp only [Operator.groupingNeeded_text]
  constructor
  · intro h inner outer side hn
    exact (regained_iff_settled.1 h).groups_of_nests hn
  · intro h
    exact regained_iff_settled.2 (settled_of_nests h)

end Expression

end Sabotage.Grammar
