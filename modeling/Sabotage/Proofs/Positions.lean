import Sabotage.Proofs.WellFormed

/-!
# Where nodes stand

In a well-formed tree the range of a node lies within the ranges of the nodes above it, and what
stands at a byte stands on one way down. So of two nodes that share a byte one is below the other
(`Node.WellFormed.below_or_below`), and two tokens of the same range are the same node
(`Node.WellFormed.eq_of_range`).
-/

namespace Sabotage.Node
variable {text : String} {root a b c k m n : Node}

/-! ## Fewer nodes further down -/

/-- A child has fewer nodes. -/
theorem count_lt_of_mem_children (h : c ∈ n.children) : c.count < n.count := by
  obtain ⟨before, after, hsplit⟩ := List.append_of_mem h
  rw [count_eq n, hsplit, countAll_append, countAll]
  omega

/-- What holds of every node whose children it holds of holds of every node. -/
@[elab_as_elim]
theorem induction_children {motive : Node → Prop}
    (h : ∀ n, (∀ c ∈ n.children, motive c) → motive n) (n : Node) : motive n := by
  induction hcount : n.count using Nat.strongRecOn generalizing n with | _ k ih
  subst hcount
  exact h n fun c hc => ih _ (count_lt_of_mem_children hc) c rfl

/-- A node below another has no more nodes. -/
theorem count_le_of_mem_preorder (h : m ∈ n.preorder) : m.count ≤ n.count := by
  induction n using induction_children with | _ n ih
  rcases mem_preorder.1 h with rfl | ⟨c, hc, h⟩
  · exact Nat.le_refl _
  · exact Nat.le_trans (ih c hc h) (Nat.le_of_lt (count_lt_of_mem_children hc))

/-! ## Ranges -/

/-- Whether a node is laid out over a text can be checked. -/
instance decidableLaidOut (text : String) (n : Node) : Decidable (n.LaidOut text) :=
  decidable_of_iff (n.start ≤ n.stop ∧ (⟨n.start⟩ : String.Pos.Raw).IsValid text ∧
      (⟨n.stop⟩ : String.Pos.Raw).IsValid text ∧
      (∀ c ∈ n.children, n.start ≤ c.start ∧ c.stop ≤ n.stop) ∧
      n.children.Pairwise fun a b => a.stop ≤ b.start)
    ⟨fun ⟨hle, hstart, hstop, hnested, hordered⟩ => ⟨hle, hstart, hstop, hnested, hordered⟩,
      fun h => ⟨h.start_le_stop, h.start_isValid, h.stop_isValid, h.nested, h.ordered⟩⟩

/-- Whether a tree is well-formed can be checked. -/
instance decidableWellFormed (text : String) (root : Node) : Decidable (root.WellFormed text) :=
  inferInstanceAs (Decidable (∀ n ∈ root.preorder, n.LaidOut text))

namespace WellFormed

/-- The trees below the nodes of a well-formed tree are well-formed. -/
theorem of_mem (h : root.WellFormed text) (hn : n ∈ root.preorder) : n.WellFormed text :=
  fun _ hm => h _ (preorder_trans hn hm)

/-- The range of a node lies within that of a node above it. -/
theorem within (h : n.WellFormed text) (hm : m ∈ n.preorder) :
    n.start ≤ m.start ∧ m.stop ≤ n.stop := by
  induction n using induction_children with | _ n ih
  rcases mem_preorder.1 hm with rfl | ⟨c, hc, hm⟩
  · exact ⟨Nat.le_refl _, Nat.le_refl _⟩
  · have hnested := (h n n.self_mem_preorder).nested c hc
    have hin := ih c hc (h.of_mem (mem_preorder_of_mem_children hc)) hm
    omega

/-- Nodes that share a byte are below the same child. -/
theorem child_eq (h : n.WellFormed text) (ha : a ∈ n.children) (hb : b ∈ n.children)
    (hk : k ∈ a.preorder) (hm : m ∈ b.preorder) (hkm : k.start < m.stop) (hmk : m.start < k.stop) :
    a = b := by
  by_cases heq : a = b
  · exact heq
  · have hka := (h.of_mem (mem_preorder_of_mem_children ha)).within hk
    have hmb := (h.of_mem (mem_preorder_of_mem_children hb)).within hm
    rcases (h n n.self_mem_preorder).apart ha hb heq with hapart | hapart
    · omega
    · omega

/-- Of two nodes that share a byte one is below the other. -/
theorem below_or_below (h : root.WellFormed text) (ha : a ∈ root.preorder)
    (hb : b ∈ root.preorder) (hab : a.start < b.stop) (hba : b.start < a.stop) :
    a ∈ b.preorder ∨ b ∈ a.preorder := by
  induction root using induction_children with | _ root ih
  rcases mem_preorder.1 ha with rfl | ⟨c, hc, hac⟩
  · exact .inr hb
  rcases mem_preorder.1 hb with rfl | ⟨c', hc', hbc⟩
  · exact .inl ha
  obtain rfl := h.child_eq hc hc' hac hbc hab hba
  exact ih c hc (h.of_mem (mem_preorder_of_mem_children hc)) hac hbc

/-- Tokens of the same range, if it is not empty, are the same node. -/
theorem eq_of_range (h : root.WellFormed text) (ha : a ∈ root.preorder) (hb : b ∈ root.preorder)
    (haleaf : a.children = []) (hbleaf : b.children = []) (hstart : a.start = b.start)
    (hstop : a.stop = b.stop) (hne : a.start < a.stop) : a = b := by
  rcases h.below_or_below ha hb (hstop ▸ hne) (hstart ▸ hne) with hbelow | hbelow
  · rcases mem_preorder.1 hbelow with rfl | ⟨c, hc, -⟩
    · rfl
    · rw [hbleaf] at hc
      cases hc
  · rcases mem_preorder.1 hbelow with rfl | ⟨c, hc, -⟩
    · rfl
    · rw [haleaf] at hc
      cases hc

end WellFormed

end Sabotage.Node

namespace Sabotage.Site
variable {root n : Node} {s t : Site} {ss : List Site}

/-! ## Ways down -/

/-- A walk visits the sites it starts from. -/
theorem mem_walk_of_mem (h : s ∈ ss) : s ∈ walk ss := by
  fun_induction walk ss with
  | case1 => cases h
  | case2 t rest ih =>
    rcases List.mem_cons.1 h with rfl | h
    · exact List.mem_cons_self
    · exact List.mem_cons_of_mem _ (ih (List.mem_append_right _ h))

/-- A walk visits what is below a site that it visits. -/
theorem mem_walk_down (h : s ∈ walk ss) (hn : n ∈ s.node.children) : s.down n ∈ walk ss := by
  fun_induction walk ss with
  | case1 => cases h
  | case2 t rest ih =>
    rcases List.mem_cons.1 h with rfl | h
    · exact List.mem_cons_of_mem _
        (mem_walk_of_mem (List.mem_append_left _ (List.mem_map_of_mem hn)))
    · exact List.mem_cons_of_mem _ (ih h)

/-- Above a site that is met below another one are the nodes between the two, and then those above
the other. -/
theorem above_of_mem_walk : ∀ s ∈ walk [t], ∃ between, s.above = between ++ t.above := by
  refine forall_walk ?_ (List.forall_mem_singleton.2 ⟨[], rfl⟩)
  rintro s ⟨between, habove⟩ c hc
  obtain ⟨n, -, rfl⟩ := List.mem_map.1 hc
  exact ⟨s.node :: between, congrArg (s.node :: ·) habove⟩

/-- The sites met below a site are at the nodes of its tree. -/
theorem mem_preorder_iff_walk : n ∈ t.node.preorder ↔ ∃ s ∈ walk [t], s.node = n := by
  rw [← Node.walk_singleton, ← List.map_singleton, ← map_node_walk, List.mem_map]

end Sabotage.Site
