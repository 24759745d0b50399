import Mathlib
import Sabotage.Proofs.WellFormed
import Sabotage.Scope.Shadow

/-!
# Where bound identifiers stand

The identifiers a scope binds are nodes below the node that opens it (`Scope.mem_of_mem_bindings`).
This is followed through each form of binding: patterns, declarators, imports, statements, hoisted
declarations and the heads of loops. In a sound draft the names that a function can be shadowed
with are therefore read without a failure (`Draft.Sound.shadowable`).
-/

namespace Sabotage.Scope

open Node

variable {m n : Node}

/-! ## Patterns -/

mutual
/-- What a pattern binds is below it. -/
theorem mem_of_mem_ofPattern : ∀ {n : Node}, m ∈ ofPattern n → m ∈ n.preorder
  | n@⟨kind, _, _, _, _, _, children⟩, h => by
    rw [ofPattern] at h
    split at h
    · rw [List.mem_singleton.1 h]
      exact self_mem_preorder _
    · rw [mem_preorder]
      split at h
      · exact .inr (mem_preorderAll.1 (mem_of_mem_ofPatterns h))
      · split at h
        · exact .inr (mem_preorderAll.1 (mem_of_mem_ofPatternField h))
        · cases h

/-- What the parts of a pattern bind is below them. -/
theorem mem_of_mem_ofPatterns : ∀ {ns : List Node}, m ∈ ofPatterns ns → m ∈ preorderAll ns
  | [], h => by cases h
  | n :: ns, h => by
    rw [ofPatterns] at h
    rw [preorderAll, List.mem_append]
    split at h
    · exact (List.mem_append.1 h).imp mem_of_mem_ofPattern mem_of_mem_ofPatterns
    · exact .inr (mem_of_mem_ofPatterns h)

/-- What the part of a pattern in a field binds is below the parts. -/
theorem mem_of_mem_ofPatternField {f : Field} :
    ∀ {ns : List Node}, m ∈ ofPatternField f ns → m ∈ preorderAll ns
  | [], h => by cases h
  | n :: ns, h => by
    rw [ofPatternField] at h
    rw [preorderAll, List.mem_append]
    split at h
    · exact .inl (mem_of_mem_ofPattern h)
    · exact .inr (mem_of_mem_ofPatternField h)
end

/-- What the pattern in a field binds is below the node. -/
theorem mem_of_mem_ofField {f : Field} (h : m ∈ ofField f n) : m ∈ n.preorder := by
  rw [ofField] at h
  split at h
  · next c hc =>
    exact preorder_trans (mem_preorder_child? n.self_mem_preorder hc) (mem_of_mem_ofPattern h)
  · cases h

/-! ## Statements -/

/-- Content of a node is below it. -/
theorem mem_preorder_content (h : m ∈ n.content) : m ∈ n.preorder :=
  mem_preorder_of_mem_children (mem_children_of_mem_content h)

/-- What fills a field of a node, if anything, is below the node. -/
theorem mem_preorder_toList {f : Field} (h : m ∈ (n.child? f).toList) : m ∈ n.preorder :=
  mem_preorder_child? n.self_mem_preorder (Option.mem_toList.1 h)

/-- What the declarators of a declaration bind is below it. -/
theorem mem_of_mem_ofDeclarators (h : m ∈ ofDeclarators n) : m ∈ n.preorder := by
  obtain ⟨c, hc, h⟩ := List.mem_flatMap.1 h
  split at h
  · exact preorder_trans (mem_preorder_content hc) (mem_of_mem_ofField h)
  · cases h

/-- The local name of an import specifier is below it. -/
theorem mem_of_mem_ofImportSpecifier (h : m ∈ ofImportSpecifier n) : m ∈ n.preorder := by
  rw [ofImportSpecifier] at h
  split at h
  · split at h
    · next c hc =>
      split at h
      · rw [List.mem_singleton.1 h]
        rcases Option.or_eq_some_iff.1 hc with hc | ⟨-, hc⟩
        · exact mem_preorder_child? n.self_mem_preorder hc
        · exact mem_preorder_child? n.self_mem_preorder hc
      · cases h
    · cases h
  · cases h

/-- What a part of an import clause binds is below it. -/
theorem mem_of_mem_ofImportPart (h : m ∈ ofImportPart n) : m ∈ n.preorder := by
  rw [ofImportPart] at h
  split at h
  · rw [List.mem_singleton.1 h]
    exact n.self_mem_preorder
  · split at h
    · exact mem_preorder_content (List.mem_filter.1 h).1
    · split at h
      · obtain ⟨c, hc, h⟩ := List.mem_flatMap.1 h
        exact preorder_trans (mem_preorder_content hc) (mem_of_mem_ofImportSpecifier h)
      · cases h

/-- What an import statement binds is below it. -/
theorem mem_of_mem_ofImport (h : m ∈ ofImport n) : m ∈ n.preorder := by
  obtain ⟨clause, hclause, h⟩ := List.mem_flatMap.1 h
  split at h
  · obtain ⟨part, hpart, h⟩ := List.mem_flatMap.1 h
    exact preorder_trans (mem_preorder_content hclause)
      (preorder_trans (mem_preorder_content hpart) (mem_of_mem_ofImportPart h))
  · cases h

mutual
/-- What a statement declares is below it. -/
theorem mem_of_mem_ofStatement : ∀ {n : Node}, m ∈ ofStatement n → m ∈ n.preorder
  | n@⟨kind, _, _, _, _, _, children⟩, h => by
    rw [ofStatement] at h
    split at h
    · exact mem_of_mem_ofDeclarators h
    · split at h
      · exact mem_preorder_toList h
      · split at h
        · exact mem_preorder.2 (.inr (mem_preorderAll.1 (mem_of_mem_ofExported h)))
        · split at h
          · exact mem_of_mem_ofImport h
          · cases h

/-- What an exported declaration declares is below the children of the export statement. -/
theorem mem_of_mem_ofExported : ∀ {ns : List Node}, m ∈ ofExported ns → m ∈ preorderAll ns
  | [], h => by cases h
  | n :: ns, h => by
    rw [ofExported] at h
    rw [preorderAll, List.mem_append]
    split at h
    · exact .inl (mem_of_mem_ofStatement h)
    · exact .inr (mem_of_mem_ofExported h)
end

/-! ## Scopes -/

/-- A local walk stays below the nodes it starts from. -/
theorem mem_of_mem_walkLocal {ns : List Node} (h : m ∈ walkLocal ns) : m ∈ preorderAll ns := by
  fun_induction walkLocal ns with
  | case1 => cases h
  | case2 n rest ih =>
    rw [preorderAll, preorder_eq, List.cons_append, List.mem_cons, List.mem_append]
    rcases List.mem_cons.1 h with rfl | h
    · exact .inl rfl
    · have h := ih h
      rw [preorderAll_append, List.mem_append] at h
      refine .inr (h.imp_left fun h => ?_)
      rw [localChildren] at h
      split at h
      · cases h
      · exact h

/-- What hoisted declarations bind is below the body. -/
theorem mem_of_mem_ofHoisted (h : m ∈ ofHoisted n) : m ∈ n.preorder := by
  obtain ⟨c, hc, h⟩ := List.mem_flatMap.1 h
  refine preorder_trans (m := c) ?_ ?_
  · rw [preorder_eq]
    exact List.mem_cons_of_mem _ (mem_of_mem_walkLocal hc)
  · split at h
    · exact mem_of_mem_ofDeclarators h
    · split at h
      · split at h
        · split at h
          · exact mem_of_mem_ofField h
          · cases h
        · cases h
      · cases h

/-- What the statements of a block declare is below the block. -/
theorem mem_of_mem_ofBlock (h : m ∈ ofBlock n) : m ∈ n.preorder := by
  obtain ⟨c, hc, h⟩ := List.mem_flatMap.1 h
  exact preorder_trans (mem_preorder_content hc) (mem_of_mem_ofStatement h)

/-- What the scope of a function binds is below the function. -/
theorem mem_of_mem_ofFunction (h : m ∈ ofFunction n) : m ∈ n.preorder := by
  rw [ofFunction] at h
  rcases List.mem_append.1 h with h | h
  · rcases List.mem_append.1 h with h | h
    · rcases List.mem_append.1 h with h | h
      · split at h
        · exact mem_preorder_toList h
        · cases h
      · exact mem_of_mem_ofField h
    · exact mem_of_mem_ofField h
  · split at h
    · next body hbody =>
      refine preorder_trans (mem_preorder_child? n.self_mem_preorder hbody) ?_
      split at h
      · exact (List.mem_append.1 h).elim mem_of_mem_ofBlock mem_of_mem_ofHoisted
      · cases h
    · cases h

/-- What the head of a counting loop binds is below the loop. -/
theorem mem_of_mem_ofForHead (h : m ∈ ofForHead n) : m ∈ n.preorder := by
  rw [ofForHead] at h
  split at h
  · next i hi =>
    split at h
    · exact preorder_trans (mem_preorder_child? n.self_mem_preorder hi)
        (mem_of_mem_ofDeclarators h)
    · cases h
  · cases h

/-- What the head of a loop over a collection binds is below the loop. -/
theorem mem_of_mem_ofForInHead (h : m ∈ ofForInHead n) : m ∈ n.preorder := by
  rw [ofForInHead] at h
  split at h
  · split at h
    · exact mem_of_mem_ofField h
    · cases h
  · cases h

/-- The identifiers a scope binds are below the node that opens it. -/
theorem mem_of_mem_bindings (h : m ∈ bindings n) : m ∈ n.preorder := by
  rw [bindings] at h
  split at h
  · exact (List.mem_append.1 h).elim mem_of_mem_ofBlock mem_of_mem_ofHoisted
  · split at h
    · exact mem_of_mem_ofFunction h
    · split at h
      · exact mem_of_mem_ofBlock h
      · split at h
        · exact mem_of_mem_ofForHead h
        · split at h
          · exact mem_of_mem_ofForInHead h
          · split at h
            · exact mem_of_mem_ofField h
            · cases h

end Sabotage.Scope

namespace Sabotage.Draft
variable {text : String} {d : Draft}

/-- The texts of nodes of a sound draft can be read. -/
theorem Sound.namesOf (h : d.Sound text) {ns : List Node} (hns : ∀ n ∈ ns, n ∈ d.root.preorder) :
    Yields (fun _ => True) (Scope.namesOf d ns) :=
  (Yields.mapM fun n hn => h.textOf (hns n hn)).mono fun _ _ => trivial

/-- The names a function of a sound draft can be shadowed with are read without a failure. -/
theorem Sound.shadowable (h : d.Sound text) {s : Site} (hs : s.Within d.root) :
    Yields (fun _ => True) (Scope.shadowable d s) := by
  obtain ⟨hnode, habove⟩ := hs.mem_preorder
  refine (h.namesOf fun n hn => ?_).bind fun outer _ => ?_
  · obtain ⟨a, ha, hn⟩ := List.mem_flatMap.1 hn
    exact Node.preorder_trans (habove a ha) (Scope.mem_of_mem_bindings hn)
  · split
    · exact .ok trivial
    · refine (h.namesOf fun n hn => ?_).bind fun own _ => ?_
      · exact Node.preorder_trans hnode (Scope.mem_of_mem_bindings hn)
      · refine Yields.bind (p := fun _ => True) ?_ fun used _ => .ok trivial
        rw [Scope.referencedNames]
        split
        · exact .ok trivial
        · next body hbody =>
          refine (h.namesOf fun n hn => ?_).bind fun _ _ => .ok trivial
          have hn := (List.mem_filter.1 hn).1
          rw [Node.walk_singleton] at hn
          exact Node.preorder_trans (Node.mem_preorder_child? hnode hbody) hn

end Sabotage.Draft
