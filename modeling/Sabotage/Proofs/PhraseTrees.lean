import Sabotage.Proofs.Layout
import Sabotage.Proofs.PhraseContexts
import Sabotage.Proofs.Positions

/-!
# The tree of a phrase

The syntax tree of a phrase, laid out over a script that has its tokens: every phrase has a node,
the tokens between its parts are leaves, and the parts of some phrases fill fields. The sites of the
tree of a program that is one expression are the places of the expression, besides the leaves and
the two nodes around it (`mem_sites`, `siteAt_mem`).
-/

namespace Sabotage

open Grammar (width width_append width_pos)

/-! ## Offsets -/

namespace Script
variable (x : Script)

/-- Where the first tokens of a script end, as many as are given. -/
def stopAt (k : Nat) : Nat :=
  width (spell (x.parts.take k))

/-- Where a token of a script begins. -/
def startAt (k : Nat) : Nat :=
  x.stopAt k + width ((x.parts[k]?.map Part.blanks).getD "")

end Script

/-! ## Nodes -/

namespace Phrase

/-- The node of a phrase of `n` tokens from the `k`-th on. -/
def branch (x : Script) (kind : String) (k n : Nat) (field? : Option Field)
    (children : List Node) : Node :=
  ⟨kind, true, false, x.startAt k, x.stopAt (k + n), field?, children⟩

/-- The node of a token that is not named. -/
def leaf (x : Script) (text : String) (k : Nat) (field? : Option Field) : Node :=
  ⟨text, false, false, x.startAt k, x.stopAt (k + 1), field?, []⟩

/-- The leaves that close an argument list. -/
def closingLeaves (x : Script) (k : Nat) : Bool → List Node
  | true => [leaf x "," k none, leaf x ")" (k + 1) none]
  | false => [leaf x ")" k none]

mutual
/-- The tree of a phrase whose tokens begin with the `k`-th of a script. The kinds of its names are
given. -/
def node (x : Script) (kindOf : Name → String) : Phrase → Nat → Option Field → Node
  | .name n, k, field? => branch x (kindOf n) k 1 field? []
  | .truth b, k, field? => branch x (truthText b) k 1 field? []
  | w@(.group e), k, field? =>
    branch x "parenthesized_expression" k w.tokens.length field?
      [leaf x "(" k none, node x kindOf e (k + 1) none, leaf x ")" (k + 1 + e.tokens.length) none]
  | w@(.signed s e), k, field? =>
    branch x "unary_expression" k w.tokens.length field?
      [leaf x s.text k (some .operator), node x kindOf e (k + 1) none]
  | w@(.member o _), k, field? =>
    branch x "member_expression" k w.tokens.length field?
      [node x kindOf o k (some .object), leaf x "." (k + o.tokens.length) none,
        branch x "property_identifier" (k + o.tokens.length + 1) 1 (some .property) []]
  | w@(.item o i), k, field? =>
    branch x "subscript_expression" k w.tokens.length field?
      [node x kindOf o k (some .object), leaf x "[" (k + o.tokens.length) none,
        node x kindOf i (k + (o.tokens.length + 1)) (some .index),
        leaf x "]" (k + (o.tokens.length + 1) + i.tokens.length) none]
  | w@(.call f a), k, field? =>
    branch x "call_expression" k w.tokens.length field?
      [node x kindOf f k (some .function),
        node x kindOf a (k + f.tokens.length) (some .arguments)]
  | w@(.construct c a), k, field? =>
    branch x "new_expression" k w.tokens.length field?
      [leaf x "new" k none, node x kindOf c (k + 1) (some .constructor),
        node x kindOf a (k + (c.tokens.length + 1)) (some .arguments)]
  | w@(.bare c), k, field? =>
    branch x "new_expression" k w.tokens.length field?
      [leaf x "new" k none, node x kindOf c (k + 1) (some .constructor)]
  | w@(.arguments as trailing), k, field? =>
    branch x "arguments" k w.tokens.length field?
      (leaf x "(" k none :: nodes x kindOf as (k + 1) ++
        closingLeaves x (k + 1 + ([","].intercalate (as.map tokens)).length) trailing)
  | w@(.binary op l r), k, field? =>
    branch x "binary_expression" k w.tokens.length field?
      [node x kindOf l k (some .left), leaf x op.text (k + l.tokens.length) (some .operator),
        node x kindOf r (k + (l.tokens.length + 1)) (some .right)]
  | w@(.choice c a b), k, field? =>
    branch x "ternary_expression" k w.tokens.length field?
      [node x kindOf c k (some .condition), leaf x "?" (k + c.tokens.length) none,
        node x kindOf a (k + (c.tokens.length + 1)) (some .consequence),
        leaf x ":" (k + (c.tokens.length + 1) + a.tokens.length) none,
        node x kindOf b (k + (c.tokens.length + 1 + a.tokens.length + 1)) (some .alternative)]

/-- The trees of the parts of an argument list, with the commas between them. -/
def nodes (x : Script) (kindOf : Name → String) : List Phrase → Nat → List Node
  | [], _ => []
  | a :: as, k => node x kindOf a k none ::
      (if as.isEmpty then [] else [leaf x "," (k + a.tokens.length) none]) ++
        nodes x kindOf as (k + a.tokens.length + 1)
end

/-- The kind of the tree of a phrase. -/
def kind (kindOf : Name → String) : Phrase → String
  | .name n => kindOf n
  | .truth b => truthText b
  | .group _ => "parenthesized_expression"
  | .signed .. => "unary_expression"
  | .member .. => "member_expression"
  | .item .. => "subscript_expression"
  | .call .. => "call_expression"
  | .construct .. | .bare _ => "new_expression"
  | .arguments .. => "arguments"
  | .binary .. => "binary_expression"
  | .choice .. => "ternary_expression"

section
variable (x : Script) (kindOf : Name → String) (e : Phrase) (k : Nat) (field? : Option Field)

/-- The kind of a tree. -/
@[simp] theorem kind_node : (e.node x kindOf k field?).kind = e.kind kindOf := by
  cases e <;> simp only [node, branch, kind]

/-- The tree of a phrase begins with its first token. -/
@[simp] theorem start_node : (e.node x kindOf k field?).start = x.startAt k := by
  cases e <;> simp only [node, branch]

/-- The tree of a phrase ends with its last token. -/
@[simp] theorem stop_node : (e.node x kindOf k field?).stop = x.stopAt (k + e.tokens.length) := by
  cases e <;> simp only [node, branch] <;> simp [tokens]

/-- The tree of a phrase fills its field. -/
@[simp] theorem field?_node : (e.node x kindOf k field?).field? = field? := by
  cases e <;> simp only [node, branch]

end

/-! ## What is below a node -/

/-- The field that a part fills. -/
def Frame.field? : Frame → Option Field
  | .group | .signed _ | .argument .. => none
  | .object _ | .itemObject _ => some .object
  | .index _ => some .index
  | .function _ => some .function
  | .callArguments _ | .constructArguments _ => some .arguments
  | .constructor _ | .bare => some .constructor
  | .left .. => some .left
  | .right .. => some .right
  | .condition .. => some .condition
  | .consequence .. => some .consequence
  | .alternative .. => some .alternative

section
variable {x : Script} {kindOf : Name → String}

/-- Each part of an argument list has its tree. -/
theorem node_mem_nodes (before after : List Phrase) (a : Phrase) (k : Nat) :
    a.node x kindOf (k + (before.flatMap fun b => b.tokens ++ [","]).length) none ∈
      nodes x kindOf (before ++ a :: after) k := by
  induction before generalizing k with
  | nil => simp [nodes]
  | cons b before ih =>
    have hrest := ih (k + b.tokens.length + 1)
    simp only [List.cons_append, nodes, List.mem_cons, List.mem_append]
    refine .inr (.inr ?_)
    simpa [Nat.add_assoc, Nat.add_comm, Nat.add_left_comm] using hrest

/-- Besides the trees of its parts an argument list has commas. -/
theorem of_mem_nodes {as : List Phrase} {k : Nat} {n : Node} (h : n ∈ nodes x kindOf as k) :
    (∃ before a after, as = before ++ a :: after ∧
      n = a.node x kindOf (k + (before.flatMap fun b => b.tokens ++ [","]).length) none) ∨
    ∃ j, n = leaf x "," j none := by
  induction as generalizing k with
  | nil => cases h
  | cons a as ih =>
    simp only [nodes, List.mem_cons, List.mem_append] at h
    rcases h with (rfl | h) | h
    · exact .inl ⟨[], a, as, rfl, rfl⟩
    · split at h
      · cases h
      · exact .inr ⟨_, List.mem_singleton.1 h⟩
    · refine (ih h).imp ?_ id
      rintro ⟨before, b, after, rfl, rfl⟩
      refine ⟨a :: before, b, after, rfl, ?_⟩
      congr 1
      simp
      omega

/-- The tree of a part is below that of the whole. -/
theorem node_mem_children (f : Frame) (e : Phrase) (k : Nat) (field? : Option Field) :
    e.node x kindOf (k + f.before.length) f.field? ∈
      ((f.fill e).node x kindOf k field?).children := by
  cases f with
  | argument before after trailing =>
    have hmem : e.node x kindOf (k + 1 + (before.flatMap fun b => b.tokens ++ [","]).length) none ∈
        nodes x kindOf (before ++ e :: after) (k + 1) := node_mem_nodes before after e (k + 1)
    simp only [Frame.fill, node, branch, List.mem_cons, List.mem_append]
    refine .inl (.inr ?_)
    simpa [Frame.before, Frame.field?, Nat.add_assoc, Nat.add_comm, Nat.add_left_comm] using hmem
  | alternative c a =>
    have hlength : k + (Frame.alternative c a).before.length =
        k + (c.tokens.length + 1 + a.tokens.length + 1) := by
      simp [Frame.before]
      omega
    rw [hlength]
    simp [Frame.fill, node, branch, Frame.field?]
  | _ => simp [Frame.fill, node, branch, Frame.before, Frame.field?]

/-- The kinds that a leaf of a phrase does not have. -/
def weighty : List String :=
  ["true", "false", "binary_expression"]

/-- A leaf spelled unlike any truth value. -/
def Plain (n : Node) : Prop :=
  n.children = [] ∧ n.kind ∉ weighty

/-- The leaf of a token. -/
theorem plain_leaf {text : String} {k : Nat} {field? : Option Field} (h : text ∉ weighty) :
    Plain (leaf x text k field?) :=
  ⟨rfl, h⟩

/-- The leaves that close an argument list are plain. -/
theorem plain_of_mem_closingLeaves {k : Nat} {trailing : Bool} {n : Node}
    (h : n ∈ closingLeaves x k trailing) : Plain n := by
  cases trailing with
  | false =>
    rw [closingLeaves, List.mem_singleton] at h
    exact h ▸ plain_leaf (by decide)
  | true =>
    simp only [closingLeaves, List.mem_cons, List.not_mem_nil, or_false] at h
    rcases h with rfl | rfl <;> exact plain_leaf (by decide)

/-- What is below the tree of a phrase: the trees of its parts and plain leaves. -/
theorem of_mem_children {e : Phrase} {k : Nat} {field? : Option Field} {n : Node}
    (h : n ∈ (e.node x kindOf k field?).children) :
    (∃ (f : Frame) (y : Phrase), f.fill y = e ∧
      n = y.node x kindOf (k + f.before.length) f.field?) ∨ Plain n := by
  cases e with
  | name | truth => cases h
  | group e =>
    simp only [node, branch, List.mem_cons, List.not_mem_nil, or_false] at h
    rcases h with rfl | rfl | rfl
    · exact .inr (plain_leaf (by decide))
    · exact .inl ⟨.group, e, rfl, rfl⟩
    · exact .inr (plain_leaf (by decide))
  | signed s e =>
    simp only [node, branch, List.mem_cons, List.not_mem_nil, or_false] at h
    rcases h with rfl | rfl
    · exact .inr (plain_leaf (by cases s <;> decide))
    · exact .inl ⟨.signed s, e, rfl, rfl⟩
  | member o p =>
    simp only [node, branch, List.mem_cons, List.not_mem_nil, or_false] at h
    rcases h with rfl | rfl | rfl
    · exact .inl ⟨.object p, o, rfl, rfl⟩
    · exact .inr (plain_leaf (by decide))
    · have hproperty : "property_identifier" ∉ weighty := by decide
      exact .inr ⟨rfl, hproperty⟩
  | item o i =>
    simp only [node, branch, List.mem_cons, List.not_mem_nil, or_false] at h
    rcases h with rfl | rfl | rfl | rfl
    · exact .inl ⟨.itemObject i, o, rfl, rfl⟩
    · exact .inr (plain_leaf (by decide))
    · exact .inl ⟨.index o, i, rfl, by simp [Frame.before, Frame.field?]⟩
    · exact .inr (plain_leaf (by decide))
  | call f a =>
    simp only [node, branch, List.mem_cons, List.not_mem_nil, or_false] at h
    rcases h with rfl | rfl
    · exact .inl ⟨.function a, f, rfl, rfl⟩
    · exact .inl ⟨.callArguments f, a, rfl, rfl⟩
  | construct c a =>
    simp only [node, branch, List.mem_cons, List.not_mem_nil, or_false] at h
    rcases h with rfl | rfl | rfl
    · exact .inr (plain_leaf (by decide))
    · exact .inl ⟨.constructor a, c, rfl, rfl⟩
    · exact .inl ⟨.constructArguments c, a, rfl, rfl⟩
  | bare c =>
    simp only [node, branch, List.mem_cons, List.not_mem_nil, or_false] at h
    rcases h with rfl | rfl
    · exact .inr (plain_leaf (by decide))
    · exact .inl ⟨.bare, c, rfl, rfl⟩
  | arguments as trailing =>
    simp only [node, branch, List.cons_append, List.mem_cons, List.mem_append] at h
    rcases h with rfl | h | h
    · exact .inr (plain_leaf (by decide))
    · rcases of_mem_nodes h with ⟨before, a, after, rfl, rfl⟩ | ⟨j, rfl⟩
      · refine .inl ⟨.argument before after trailing, a, rfl, ?_⟩
        simp [Frame.before, Frame.field?, Nat.add_assoc, Nat.add_comm]
      · exact .inr (plain_leaf (by decide))
    · exact .inr (plain_of_mem_closingLeaves h)
  | binary op l r =>
    simp only [node, branch, List.mem_cons, List.not_mem_nil, or_false] at h
    rcases h with rfl | rfl | rfl
    · exact .inl ⟨.left op r, l, rfl, rfl⟩
    · exact .inr (plain_leaf (by cases op <;> decide))
    · exact .inl ⟨.right l op, r, rfl, by simp [Frame.before, Frame.field?]⟩
  | choice c a b =>
    simp only [node, branch, List.mem_cons, List.not_mem_nil, or_false] at h
    rcases h with rfl | rfl | rfl | rfl | rfl
    · exact .inl ⟨.condition a b, c, rfl, rfl⟩
    · exact .inr (plain_leaf (by decide))
    · exact .inl ⟨.consequence c b, a, rfl, by simp [Frame.before, Frame.field?]⟩
    · exact .inr (plain_leaf (by decide))
    · refine .inl ⟨.alternative c a, b, rfl, ?_⟩
      congr 1
      simp [Frame.before]
      omega

end

/-! ## Places -/

section
variable (x : Script) (kindOf : Name → String)

/-- The tree of the statement that an expression is. -/
def statement (e : Phrase) : Node :=
  branch x "expression_statement" 0 e.tokens.length none [e.node x kindOf 0 none]

/-- The tree of a program that is one expression. -/
def program (e : Phrase) : Node :=
  ⟨"program", true, false, x.startAt 0, width x.text, none, [statement x kindOf e]⟩

/-- The field that a place fills. -/
def fieldAt : List Frame → Option Field
  | [] => none
  | f :: _ => f.field?

/-- The tree of the phrase at a place. -/
def nodeAt (C : List Frame) (e : Phrase) : Node :=
  e.node x kindOf (before C).length (fieldAt C)

/-- The nodes above a place. -/
def nodesAbove : List Frame → Phrase → List Node
  | [], e => [statement x kindOf e, program x kindOf e]
  | f :: C, e => nodeAt x kindOf C (f.fill e) :: nodesAbove C (f.fill e)

/-- The site of a place: the phrase that stands there, with the nodes of the context above it. -/
def siteAt (C : List Frame) (e : Phrase) : Site :=
  ⟨nodeAt x kindOf C e, nodesAbove x kindOf C e⟩

variable {x} {kindOf}

/-- The site of a part is below that of the whole. -/
theorem siteAt_cons (f : Frame) (C : List Frame) (e : Phrase) :
    siteAt x kindOf (f :: C) e = (siteAt x kindOf C (f.fill e)).down
      (e.node x kindOf ((before C).length + f.before.length) f.field?) := by
  simp [siteAt, Site.down, nodeAt, nodesAbove, before, fieldAt]

/-- Every place of an expression has its site. -/
theorem siteAt_mem (C : List Frame) (e : Phrase) :
    siteAt x kindOf C e ∈ (program x kindOf (plug C e)).sites := by
  induction C generalizing e with
  | nil =>
    have hroot : ⟨program x kindOf e, []⟩ ∈ (program x kindOf e).sites :=
      Site.mem_walk_of_mem (List.mem_singleton.2 rfl)
    have hstatement := Site.mem_walk_down hroot (List.mem_singleton.2 rfl)
    exact Site.mem_walk_down hstatement (List.mem_singleton.2 rfl)
  | cons f C ih =>
    rw [siteAt_cons]
    exact Site.mem_walk_down (ih (f.fill e)) (node_mem_children f e _ _)

/-- The sites of a program that is one expression: its places, and others that are none of truth. -/
theorem mem_sites {e : Phrase} : ∀ s ∈ (program x kindOf e).sites,
    (∃ C N, e = plug C N ∧ s = siteAt x kindOf C N) ∨ s.node.kind ∉ weighty := by
  have hprogram : "program" ∉ weighty := by decide
  have hstatement : "expression_statement" ∉ weighty := by decide
  suffices h : ∀ s ∈ (program x kindOf e).sites,
      s = ⟨program x kindOf e, []⟩ ∨ s = ⟨statement x kindOf e, [program x kindOf e]⟩ ∨
        (∃ C N, e = plug C N ∧ s = siteAt x kindOf C N) ∨ Plain s.node by
    intro s hs
    rcases h s hs with rfl | rfl | hplace | hplain
    · exact .inr hprogram
    · exact .inr hstatement
    · exact .inl hplace
    · exact .inr hplain.2
  refine Site.forall_walk (fun s hs c hc => ?_) (List.forall_mem_singleton.2 (.inl rfl))
  obtain ⟨n, hn, rfl⟩ := List.mem_map.1 hc
  rcases hs with rfl | rfl | ⟨C, N, rfl, rfl⟩ | hplain
  · rw [List.mem_singleton.1 hn]
    exact .inr (.inl rfl)
  · rw [List.mem_singleton.1 hn]
    exact .inr (.inr (.inl ⟨[], e, rfl, rfl⟩))
  · rcases of_mem_children hn with ⟨f, y, rfl, rfl⟩ | hplain
    · exact .inr (.inr (.inl ⟨f :: C, y, rfl, (siteAt_cons f C y).symm⟩))
    · exact .inr (.inr (.inr hplain))
  · rw [hplain.1] at hn
    cases hn

end

end Phrase

end Sabotage
