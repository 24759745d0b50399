import Sabotage.Proofs.Context
import Sabotage.Proofs.WellFormed

/-!
# The tree of an expression

The syntax tree of the text of an expression, laid out over its bytes: parentheses and operators are
tokens of their own, and the operands of an operator fill the fields of its node. The sites of the
tree are its places: each binary expression among them is one that stands in a context, with the
nodes of the context above it (`exists_context_of_mem_walk`).
-/

namespace Sabotage.Grammar

/-! ## Widths -/

/-- The number of bytes of a text. -/
def width (s : String) : Nat :=
  (Bytes.ofString s).length

/-- The width of two texts. -/
@[simp] theorem width_append (s t : String) : width (s ++ t) = width s + width t := by
  simp [width, Bytes.ofString_append]

/-- A text that is not empty has bytes. -/
theorem width_pos {s : String} (h : s ≠ "") : 0 < width s := by
  refine List.length_pos_of_ne_nil fun hnil => h ?_
  have hread : Bytes.toString? (Bytes.ofString s) = Bytes.toString? (Bytes.ofString "") :=
    congrArg Bytes.toString? hnil
  rw [Bytes.toString?_ofString, Bytes.toString?_ofString] at hread
  exact Option.some.inj hread

/-- The width of a blank. -/
@[simp] theorem width_blank : width " " = 1 := by
  decide

/-- An expression has a text. -/
theorem Expression.width_text_pos (e : Expression) : 0 < width e.text := by
  induction e with
  | atom a => exact width_pos (by simpa [text, tokens, Token.text] using a.ne_empty)
  | group e ih =>
    rw [text_group]
    simp only [width_append]
    omega
  | binary op l r ihl ihr =>
    rw [text_binary]
    simp only [width_append]
    omega

/-! ## Nodes -/

/-- The node of a token. -/
def tokenNode (t : Token) (start : Nat) (field? : Option Field) : Node :=
  ⟨t.text, false, false, start, start + width t.text, field?, []⟩

/-- The tree of an expression whose text begins at an offset. The kinds of its atoms are given. -/
def Expression.node (kindOf : Atom → String) : Expression → Nat → Option Field → Node
  | .atom a, i, field? => ⟨kindOf a, true, false, i, i + width a.text, field?, []⟩
  | .group e, i, field? =>
    ⟨"parenthesized_expression", true, false, i, i + width (group e).text, field?,
      [tokenNode .open i none, e.node kindOf (i + 2) none,
        tokenNode .close (i + 2 + width e.text + 1) none]⟩
  | .binary op l r, i, field? =>
    ⟨"binary_expression", true, false, i, i + width (binary op l r).text, field?,
      [l.node kindOf i (some .left),
        tokenNode (.operator op) (i + width l.text + 1) (some .operator),
        r.node kindOf (i + (width l.text + 1 + width op.text + 1)) (some .right)]⟩

section
variable (kindOf : Atom → String) (e : Expression) (i : Nat) (field? : Option Field)

/-- The tree of an expression begins at its offset. -/
@[simp] theorem Expression.start_node : (e.node kindOf i field?).start = i := by
  cases e <;> rfl

/-- The tree of an expression ends after its text. -/
@[simp] theorem Expression.stop_node : (e.node kindOf i field?).stop = i + width e.text := by
  cases e <;> simp [node, text, tokens, Token.text]

/-- The tree of an expression fills its field. -/
@[simp] theorem Expression.field?_node : (e.node kindOf i field?).field? = field? := by
  cases e <;> rfl

variable (op : Operator) (l r : Expression)

/-- The left operand of a binary expression. -/
@[simp] theorem child?_left : ((Expression.binary op l r).node kindOf i field?).child? .left =
    some (l.node kindOf i (some .left)) := by
  simp [Node.child?, Expression.node]

/-- The operator of a binary expression. -/
@[simp] theorem child?_operator :
    ((Expression.binary op l r).node kindOf i field?).child? .operator =
      some (tokenNode (.operator op) (i + width l.text + 1) (some .operator)) := by
  simp [Node.child?, Expression.node, tokenNode]

/-- The right operand of a binary expression. -/
@[simp] theorem child?_right : ((Expression.binary op l r).node kindOf i field?).child? .right =
    some (r.node kindOf (i + (width l.text + 1 + width op.text + 1)) (some .right)) := by
  simp [Node.child?, Expression.node, tokenNode]

end

/-- The field that a part fills. -/
def Frame.field? : Frame → Option Field
  | .group => none
  | .leftOf _ _ => some .left
  | .rightOf _ _ => some .right

/-- Where a part begins in the whole. -/
def Frame.offset : Frame → Nat
  | .group => 2
  | .leftOf _ _ => 0
  | .rightOf l op => width l.text + 1 + width op.text + 1

/-- Where a place begins. -/
def offset : List Frame → Nat
  | [] => 0
  | f :: C => offset C + f.offset

/-- A part begins after what is before it. -/
theorem Frame.offset_eq (f : Frame) : f.offset = width f.before := by
  cases f with
  | group => decide
  | leftOf => rfl
  | rightOf => simp [offset, before]

/-- A place begins after what is before it. -/
theorem offset_eq (C : List Frame) : offset C = width (before C) := by
  induction C with
  | nil => rfl
  | cons f C ih => simp [offset, before, ih, f.offset_eq]

section
variable (kindOf : Atom → String) (root : Option Field) (base : List Node)

/-- The field that a place fills. -/
def fieldAt : List Frame → Option Field
  | [] => root
  | f :: _ => f.field?

/-- The nodes above a place. -/
def nodesAbove : List Frame → Expression → List Node
  | [], _ => base
  | f :: C, e =>
    (f.fill e).node kindOf (offset C) (fieldAt root C) :: nodesAbove C (f.fill e)

/-- The site of a place: the part that stands there, with the nodes of the context above it. -/
def siteAt (C : List Frame) (e : Expression) : Site :=
  ⟨e.node kindOf (offset C) (fieldAt root C), nodesAbove kindOf root base C e⟩

end

variable {kindOf : Atom → String} {root : Option Field} {base : List Node}

/-- The sites below that of a part are those of its own parts and of tokens. -/
theorem children_siteAt {C : List Frame} {e : Expression} :
    ∀ c ∈ (siteAt kindOf root base C e).children,
      (∃ f x, f.fill x = e ∧ c = siteAt kindOf root base (f :: C) x) ∨
        (c.node.children = [] ∧ c.node.kind ≠ "binary_expression") := by
  have hopen : Token.open.text ≠ "binary_expression" := by decide
  have hclose : Token.close.text ≠ "binary_expression" := by decide
  have hoperator (op : Operator) : op.text ≠ "binary_expression" := by cases op <;> decide
  cases e with
  | atom a => exact List.forall_mem_nil _
  | group e =>
    simp only [Site.children, siteAt, Expression.node, List.map_cons, List.forall_mem_cons]
    exact ⟨.inr ⟨rfl, hopen⟩, .inl ⟨.group, e, rfl, rfl⟩, .inr ⟨rfl, hclose⟩,
      List.forall_mem_nil _⟩
  | binary op l r =>
    simp only [Site.children, siteAt, Expression.node, List.map_cons, List.forall_mem_cons]
    exact ⟨.inl ⟨.leftOf op r, l, rfl, rfl⟩, .inr ⟨rfl, hoperator op⟩,
      .inl ⟨.rightOf l op, r, rfl, rfl⟩, List.forall_mem_nil _⟩

/-- The sites of the tree of an expression are those of its parts and of tokens. -/
theorem mem_walk_siteAt {e : Expression} :
    ∀ s ∈ Site.walk [siteAt kindOf root base [] e],
      (∃ C x, plug C x = e ∧ s = siteAt kindOf root base C x) ∨
        (s.node.children = [] ∧ s.node.kind ≠ "binary_expression") := by
  refine Site.forall_walk (fun s hs c hc => ?_) ?_
  · rcases hs with ⟨C, x, rfl, rfl⟩ | ⟨hleaf, -⟩
    · refine (children_siteAt c hc).imp ?_ id
      rintro ⟨f, y, rfl, rfl⟩
      exact ⟨f :: C, y, rfl, rfl⟩
    · rw [Site.children, hleaf] at hc
      cases hc
  · exact List.forall_mem_singleton.2 (.inl ⟨[], e, rfl, rfl⟩)

/-- A binary expression among the sites of a tree stands in a context. -/
theorem exists_context_of_mem_walk {e : Expression} (hkind : ∀ a, kindOf a ≠ "binary_expression")
    {s : Site} (hs : s ∈ Site.walk [siteAt kindOf root base [] e])
    (hbinary : s.node.kind = "binary_expression") :
    ∃ C op l r, plug C (.binary op l r) = e ∧ s = siteAt kindOf root base C (.binary op l r) := by
  rcases mem_walk_siteAt s hs with ⟨C, x, rfl, rfl⟩ | ⟨-, hother⟩
  · cases x with
    | atom a => exact absurd hbinary (hkind a)
    | group e => exact absurd hbinary (by decide : "parenthesized_expression" ≠ _)
    | binary op l r => exact ⟨C, op, l, r, rfl, rfl⟩
  · exact absurd hbinary hother

end Sabotage.Grammar
