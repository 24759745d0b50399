/-!
# Syntax nodes

A node of a concrete syntax tree has a kind, a range of source bytes and children. A node may be
labelled with the field of its parent that it fills. A `Site` is a node together with the nodes
above it, the nearest first.

A tree is walked in source order, parents first. `walk` keeps the nodes still to be visited on a
worklist, so that the depth of a tree does not bound it; `Node.preorder` is the same order by
recursion, and `walk_singleton` says that they agree.
-/

namespace Sabotage

/-- The field labels that are asked for. -/
inductive Field where
  | operator | left | right | function | object | constructor | property | condition | body
  | consequence | alternative | index | arguments | name | value | pattern | alias | declaration
  | kind | parameters | parameter | initializer
  deriving DecidableEq, Repr

/-- All labels. -/
def Field.all : List Field :=
  [.operator, .left, .right, .function, .object, .constructor, .property, .condition, .body,
    .consequence, .alternative, .index, .arguments, .name, .value, .pattern, .alias, .declaration,
    .kind, .parameters, .parameter, .initializer]

/-- The spelling of a label. -/
def Field.text : Field → String
  | .operator => "operator"
  | .left => "left"
  | .right => "right"
  | .function => "function"
  | .object => "object"
  | .constructor => "constructor"
  | .property => "property"
  | .condition => "condition"
  | .body => "body"
  | .consequence => "consequence"
  | .alternative => "alternative"
  | .index => "index"
  | .arguments => "arguments"
  | .name => "name"
  | .value => "value"
  | .pattern => "pattern"
  | .alias => "alias"
  | .declaration => "declaration"
  | .kind => "kind"
  | .parameters => "parameters"
  | .parameter => "parameter"
  | .initializer => "initializer"

/-- The label a text spells. -/
def Field.ofText? (s : String) : Option Field :=
  Field.all.find? (·.text == s)

/-- A node of a concrete syntax tree. -/
structure Node where
  /-- Its kind; for a token without a name of its own, the text of the token. -/
  kind : String
  /-- Whether its kind is a name rather than the text of a token. -/
  named : Bool
  /-- Whether the parser put it in where the source has nothing. -/
  missing : Bool
  /-- Offset of its first byte. -/
  start : Nat
  /-- Offset after its last byte. -/
  stop : Nat
  /-- The field of the parent that it fills. -/
  field? : Option Field
  children : List Node
  deriving Inhabited

/-- What tells a node from the others of its tree. -/
structure NodeKey where
  start : Nat
  stop : Nat
  kind : String
  deriving DecidableEq, Repr

namespace Node

/-- The key of a node. -/
def key (n : Node) : NodeKey :=
  ⟨n.start, n.stop, n.kind⟩

/-- The child that fills a field. -/
def child? (n : Node) (f : Field) : Option Node :=
  n.children.find? (·.field? == some f)

/-- Whether a node counts among the named children of its parent: comments, which may stand
anywhere, do not. -/
def isContent (n : Node) : Bool :=
  n.named && n.kind != "comment"

/-- The named children that are not comments. -/
def content (n : Node) : List Node :=
  n.children.filter isContent

/-- Whether a node stands for a fault of the source: text that fits no rule, or a token put in. -/
def isFault (n : Node) : Bool :=
  n.kind == "ERROR" || n.missing

/-- Whether `n` is what fills a field of `parent?`. -/
def fills (f : Field) (n : Node) (parent? : Option Node) : Bool :=
  match parent?.bind (·.child? f) with
  | some c => c.key == n.key
  | none => false

mutual
/-- Number of nodes. -/
def count : Node → Nat
  | ⟨_, _, _, _, _, _, children⟩ => 1 + countAll children

/-- Number of nodes of the trees of a list. -/
def countAll : List Node → Nat
  | [] => 0
  | n :: ns => count n + countAll ns
end

/-- Number of nodes by children. -/
theorem count_eq (n : Node) : count n = 1 + countAll n.children := by
  cases n; simp [count]

/-- Counting goes through appended lists. -/
@[simp] theorem countAll_append (ms ns : List Node) :
    countAll (ms ++ ns) = countAll ms + countAll ns := by
  induction ms with
  | nil => simp [countAll]
  | cons m ms ih => simp [countAll, ih, Nat.add_assoc]

mutual
/-- The nodes of a tree in source order, parents first. -/
def preorder : Node → List Node
  | n@⟨_, _, _, _, _, _, children⟩ => n :: preorderAll children

/-- The nodes of the trees of a list in order. -/
def preorderAll : List Node → List Node
  | [] => []
  | n :: ns => preorder n ++ preorderAll ns
end

/-- The order by children. -/
theorem preorder_eq (n : Node) : preorder n = n :: preorderAll n.children := by
  cases n; simp [preorder]

/-- The order goes through appended lists. -/
@[simp] theorem preorderAll_append (ms ns : List Node) :
    preorderAll (ms ++ ns) = preorderAll ms ++ preorderAll ns := by
  induction ms with
  | nil => simp [preorderAll]
  | cons m ms ih => simp [preorderAll, ih]

/-- Visits the nodes of a worklist and of the trees below them. -/
def walk : List Node → List Node
  | [] => []
  | n :: rest => n :: walk (n.children ++ rest)
termination_by ns => countAll ns
decreasing_by simp only [countAll_append, countAll, count_eq]; omega

/-- The worklist visits the trees in order. -/
theorem walk_eq_preorderAll (ns : List Node) : walk ns = preorderAll ns := by
  fun_induction walk ns with
  | case1 => rfl
  | case2 n rest ih => simp [ih, preorderAll, preorder_eq]

/-- From a single node the worklist visits its tree in order. -/
theorem walk_singleton (n : Node) : walk [n] = n.preorder := by
  simp [walk_eq_preorderAll, preorderAll]

end Node

/-- A node and the nodes above it, the nearest first. -/
structure Site where
  node : Node
  above : List Node
  deriving Inhabited

namespace Site

/-- The node above. -/
def parent? (s : Site) : Option Node :=
  s.above.head?

/-- A node below this one. -/
def down (s : Site) (n : Node) : Site :=
  ⟨n, s.node :: s.above⟩

/-- The children. -/
def children (s : Site) : List Site :=
  s.node.children.map s.down

/-- The named children that are not comments. -/
def content (s : Site) : List Site :=
  s.node.content.map s.down

/-- The child that fills a field. -/
def child? (s : Site) (f : Field) : Option Site :=
  (s.node.child? f).map s.down

/-- Whether this node is what fills a field of its parent. -/
def fills (f : Field) (s : Site) : Bool :=
  s.node.fills f s.parent?

/-- Number of nodes below the sites of a list, these included. -/
def countAll (ss : List Site) : Nat :=
  Node.countAll (ss.map Site.node)

/-- Visits the sites of a worklist and those below them. -/
def walk : List Site → List Site
  | [] => []
  | s :: rest => s :: walk (s.children ++ rest)
termination_by ss => countAll ss
decreasing_by
  have : (s.children).map Site.node = s.node.children := by
    simp [children, Function.comp_def, down]
  simp only [countAll, List.map_append, this, Node.countAll_append, List.map_cons, Node.countAll,
    Node.count_eq]
  omega

/-- The nodes visited are those of the walk without the way to them. -/
theorem map_node_walk (ss : List Site) :
    (walk ss).map Site.node = Node.walk (ss.map Site.node) := by
  fun_induction walk ss with
  | case1 => simp [Node.walk]
  | case2 s rest ih =>
    rw [List.map_cons, ih, List.map_cons, Node.walk, List.map_append]
    congr 3
    simp [children, Function.comp_def, down]

end Site

/-- All sites of a tree in source order, parents first. -/
def Node.sites (root : Node) : List Site :=
  Site.walk [⟨root, []⟩]

/-- The sites of a tree are its nodes in order. -/
theorem Node.map_node_sites (root : Node) : root.sites.map Site.node = root.preorder := by
  simp [Node.sites, Site.map_node_walk, Node.walk_singleton]

end Sabotage
