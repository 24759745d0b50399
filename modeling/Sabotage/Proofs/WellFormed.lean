import Sabotage.Proofs.Yields
import Sabotage.Rule.Plan

/-!
# Well-formed trees

What can be relied on in a parse of a text: the range of a node lies between two boundaries of
characters, the ranges of its children lie within its own, and each child ends before the next one
begins (`Node.LaidOut`). In a well-formed tree every node is laid out so, and the range of every
node is a text (`Draft.Sound.textOf`).

The sites of a tree are the ends of the ways down from its root (`Site.Within`), so that every node
met on such a way is one of the tree.
-/

namespace Sabotage

/-! ## Nodes below a node -/

namespace Node

/-- A tree begins with its root. -/
theorem self_mem_preorder (n : Node) : n ∈ n.preorder := by
  rw [preorder_eq]
  exact List.mem_cons_self

/-- The nodes of the trees of a list are those of each. -/
theorem mem_preorderAll {m : Node} {ns : List Node} :
    m ∈ preorderAll ns ↔ ∃ n ∈ ns, m ∈ n.preorder := by
  induction ns with
  | nil => simp [preorderAll]
  | cons n ns ih => simp [preorderAll, ih]

/-- Below a node are the node itself and what is below a child. -/
theorem mem_preorder {m n : Node} :
    m ∈ n.preorder ↔ m = n ∨ ∃ c ∈ n.children, m ∈ c.preorder := by
  rw [preorder_eq, List.mem_cons, mem_preorderAll]

/-- A child is a node of the tree. -/
theorem mem_preorder_of_mem_children {c n : Node} (h : c ∈ n.children) : c ∈ n.preorder :=
  mem_preorder.2 (.inr ⟨c, h, c.self_mem_preorder⟩)

mutual
/-- What is below a node below another is below that one. -/
theorem preorder_trans {k m : Node} : ∀ {n : Node}, m ∈ n.preorder → k ∈ m.preorder →
    k ∈ n.preorder
  | ⟨_, _, _, _, _, _, children⟩, hm, hk => by
    rw [mem_preorder] at hm ⊢
    rcases hm with rfl | hm
    · exact mem_preorder.1 hk
    · exact .inr (mem_preorderAll.1 (preorderAll_trans (mem_preorderAll.2 hm) hk))

/-- `preorder_trans` for the trees of a list. -/
theorem preorderAll_trans {k m : Node} : ∀ {ns : List Node}, m ∈ preorderAll ns →
    k ∈ m.preorder → k ∈ preorderAll ns
  | [], hm, _ => by simp [preorderAll] at hm
  | n :: ns, hm, hk => by
    simp only [preorderAll, List.mem_append] at hm ⊢
    rcases hm with hm | hm
    · exact .inl (preorder_trans hm hk)
    · exact .inr (preorderAll_trans hm hk)
end

/-- A child of a node of a tree is one of the tree. -/
theorem mem_preorder_child {c m n : Node} (hm : m ∈ n.preorder) (hc : c ∈ m.children) :
    c ∈ n.preorder :=
  preorder_trans hm (mem_preorder_of_mem_children hc)

/-- What fills a field is a child, with the label of the field. -/
theorem child?_eq_some {c n : Node} {f : Field} (h : n.child? f = some c) :
    c ∈ n.children ∧ c.field? = some f := by
  refine ⟨List.mem_of_find?_eq_some h, ?_⟩
  simpa using List.find?_some h

/-- What fills a field of a node of a tree is one of the tree. -/
theorem mem_preorder_child? {c m n : Node} {f : Field} (hm : m ∈ n.preorder)
    (hc : m.child? f = some c) : c ∈ n.preorder :=
  mem_preorder_child hm (child?_eq_some hc).1

/-- The content of a node is among its children. -/
theorem mem_children_of_mem_content {c n : Node} (h : c ∈ n.content) : c ∈ n.children :=
  (List.mem_filter.1 h).1

/-! ## Layout -/

/-- A node whose range lies between boundaries of characters of a text, and whose children lie
within it, one after the other. -/
structure LaidOut (text : String) (n : Node) : Prop where
  start_le_stop : n.start ≤ n.stop
  start_isValid : (⟨n.start⟩ : String.Pos.Raw).IsValid text
  stop_isValid : (⟨n.stop⟩ : String.Pos.Raw).IsValid text
  nested : ∀ c ∈ n.children, n.start ≤ c.start ∧ c.stop ≤ n.stop
  ordered : n.children.Pairwise fun a b => a.stop ≤ b.start

/-- Two children of a node that is laid out are apart. -/
theorem LaidOut.apart {text : String} {n a b : Node} (h : n.LaidOut text) (ha : a ∈ n.children)
    (hb : b ∈ n.children) (hne : a ≠ b) : a.stop ≤ b.start ∨ b.stop ≤ a.start := by
  have hpair := h.ordered
  revert ha hb hpair
  induction n.children with
  | nil => nofun
  | cons c cs ih =>
    intro ha hb hpair
    obtain ⟨hc, hcs⟩ := List.pairwise_cons.1 hpair
    rcases List.mem_cons.1 ha with rfl | ha' <;> rcases List.mem_cons.1 hb with rfl | hb'
    · exact absurd rfl hne
    · exact .inl (hc b hb')
    · exact .inr (hc a ha')
    · exact ih ha' hb' hcs

/-- A tree of which every node is laid out over a text. -/
def WellFormed (text : String) (root : Node) : Prop :=
  ∀ n ∈ root.preorder, n.LaidOut text

end Node

/-- A parser whose trees are well-formed. -/
def Parser.WellFormed (parser : Parser) : Prop :=
  ∀ language text, (parser language (Bytes.ofString text)).WellFormed text

/-! ## Ways down -/

/-- The places a way down from a root leads to. -/
inductive Site.Within (root : Node) : Site → Prop
  | root : Within root ⟨root, []⟩
  | down {s : Site} {n : Node} : Within root s → n ∈ s.node.children → Within root (s.down n)

namespace Site
variable {root : Node} {s : Site}

/-- A place within a tree is at a node of the tree, and so are the places above it. -/
theorem Within.mem_preorder (h : Within root s) :
    s.node ∈ root.preorder ∧ ∀ n ∈ s.above, n ∈ root.preorder := by
  induction h with
  | root => exact ⟨root.self_mem_preorder, nofun⟩
  | down _ hn ih =>
    refine ⟨Node.mem_preorder_child ih.1 hn, ?_⟩
    simp only [Site.down, List.forall_mem_cons]
    exact ih

/-- The node above a place of a tree has the node of the place among its children. -/
theorem Within.parent? (h : Within root s) {p : Node} (hp : s.parent? = some p) :
    p ∈ root.preorder ∧ s.node ∈ p.children := by
  cases h with
  | root => cases hp
  | down h hn => cases hp; exact ⟨h.mem_preorder.1, hn⟩

/-- The children of a place of a tree are places of the tree. -/
theorem Within.children (h : Within root s) : ∀ c ∈ s.children, Within root c := by
  intro c hc
  obtain ⟨n, hn, rfl⟩ := List.mem_map.1 hc
  exact h.down hn

/-- What fills a field of a place of a tree is a place of the tree. -/
theorem Within.child? (h : Within root s) {f : Field} {c : Site} (hc : s.child? f = some c) :
    Within root c := by
  obtain ⟨n, hn, rfl⟩ := Option.map_eq_some_iff.1 hc
  exact h.down (Node.child?_eq_some hn).1

/-- The content of a place of a tree consists of places of the tree. -/
theorem Within.content (h : Within root s) : ∀ c ∈ s.content, Within root c := by
  intro c hc
  obtain ⟨n, hn, rfl⟩ := List.mem_map.1 hc
  exact h.down (Node.mem_children_of_mem_content hn)

/-- What holds of the sites a walk starts from, and of the children of a site it holds of, holds of
all sites visited. -/
theorem forall_walk {p : Site → Prop} (hchildren : ∀ s, p s → ∀ c ∈ s.children, p c)
    {ss : List Site} (h : ∀ s ∈ ss, p s) : ∀ s ∈ walk ss, p s := by
  fun_induction walk ss with
  | case1 => exact List.forall_mem_nil _
  | case2 s rest ih =>
    obtain ⟨hs, hrest⟩ := List.forall_mem_cons.1 h
    refine List.forall_mem_cons.2 ⟨hs, ih fun c hc => ?_⟩
    rcases List.mem_append.1 hc with hc | hc
    · exact hchildren s hs c hc
    · exact hrest c hc

/-- The sites of a tree are places of the tree. -/
theorem within_sites : ∀ s ∈ root.sites, Within root s :=
  forall_walk (fun _ => Within.children) (List.forall_mem_singleton.2 .root)

end Site

/-! ## Drafts of a text -/

/-- The slice of a text between two boundaries of characters is a text. -/
theorem Bytes.toString?_cut {text : String} {i j : Nat} (hij : i ≤ j)
    (hi : (⟨i⟩ : String.Pos.Raw).IsValid text) (hj : (⟨j⟩ : String.Pos.Raw).IsValid text) :
    ∃ s, toString? ((ofString text).cut i j) = some s := by
  have hvalid : (text.toByteArray.extract i j).IsValidUTF8 :=
    (String.Pos.Raw.isValidUTF8_extract_iff ⟨i⟩ ⟨j⟩ hij hj.le_rawEndPos).2 (.inr ⟨hi, hj⟩)
  have hcut : (⟨((ofString text).cut i j).toArray⟩ : ByteArray) = text.toByteArray.extract i j := by
    simp only [cut, ofString, ByteArray.ext_iff, ByteArray.data_extract]
    rw [← Array.toList_inj]
    simp [List.extract_eq_take_drop]
  rw [toString?, hcut, String.fromUTF8?]
  exact ⟨_, dif_pos hvalid⟩

/-- A draft of a text with a well-formed tree. -/
structure Draft.Sound (text : String) (d : Draft) : Prop where
  source_eq : d.source = Bytes.ofString text
  wellFormed : d.root.WellFormed text

namespace Draft
variable {text : String} {d : Draft}

/-- A new draft of a well-formed parser is sound. -/
theorem sound_ofSource {parser : Parser} (hp : parser.WellFormed) (language : Language)
    (path? : Option String) : (ofSource parser language path? (Bytes.ofString text)).Sound text :=
  ⟨rfl, hp language text⟩

/-- The range of a node of a sound draft is a text. -/
theorem Sound.textOf (h : d.Sound text) {n : Node} (hn : n ∈ d.root.preorder) :
    Yields (fun _ => True) (d.textOf n) := by
  have hl := h.wellFormed n hn
  obtain ⟨s, hs⟩ := Bytes.toString?_cut hl.start_le_stop hl.start_isValid hl.stop_isValid
  refine ⟨s, ?_, trivial⟩
  simp only [Draft.textOf, h.source_eq, hs]

/-- The operator of a node of a sound draft can be read, if there is one. -/
theorem Sound.binaryOperator (h : d.Sound text) {n : Node} (hn : n ∈ d.root.preorder) :
    Yields (fun op? => op?.isSome → ∃ o, n.child? .operator = some o) (d.binaryOperator n) := by
  rw [Draft.binaryOperator]
  split
  · split
    · next o ho =>
      exact (h.textOf (Node.mem_preorder_child? hn ho)).map fun _ _ _ => ⟨o, ho⟩
    · exact .ok nofun
  · exact .ok nofun

end Draft

end Sabotage
