import Sabotage.Proofs.Bindings
import Sabotage.Proofs.Positions

/-!
# Declaring positions

An identifier stands in a declaring position of a tree when some node of the tree binds it or has
it as the name of a declaration. No node reaches into the bodies of the functions below it
(`Scope.outsideBelow_of_mem_declaredBy`), so what stands in the body of a function is put into a
declaring position by nodes of the function alone (`Scope.Declared.of_root`). And the keys of a
function's declaring positions tell them from all its other identifiers
(`Scope.key_mem_declaringKeys`): no reference is taken for a declaration.
-/

namespace Sabotage.Scope

open Node

variable {text : String} {body c f k m n p root : Node}

/-- A node stands in a declaring position of a tree. -/
def Declared (root n : Node) : Prop :=
  ∃ m ∈ root.preorder, n ∈ declaredBy m

/-- The identifiers of a tree are tokens, and not empty. -/
def NamesAreTokens (root : Node) : Prop :=
  ∀ n ∈ root.preorder, referenceKinds.contains n.kind → n.children = [] ∧ n.start < n.stop

/-- Whether the identifiers of a tree are tokens can be checked. -/
instance decidableNamesAreTokens (root : Node) : Decidable (NamesAreTokens root) :=
  inferInstanceAs (Decidable (∀ n ∈ root.preorder, _))

/-! ## Outside of functions -/

/-- A node is in the body of no function at or below another node. -/
def Outside (n p : Node) : Prop :=
  ∀ g ∈ p.preorder, functionScopeKinds.contains g.kind →
    ∀ body, g.child? .body = some body → n ∉ body.preorder

/-- A node is in the body of no function below another node. -/
def OutsideBelow (n p : Node) : Prop :=
  ∀ c ∈ p.children, Outside n c

/-- A node is in no body of a function below itself. -/
theorem outside_self (n : Node) : Outside n n := by
  intro g hg _ body hbody hn
  have hlt := count_lt_of_mem_children (child?_eq_some hbody).1
  have hgn := count_le_of_mem_preorder hg
  have hnb := count_le_of_mem_preorder hn
  omega

/-- A node is outside the functions at a node that is none when it is outside those below. -/
theorem OutsideBelow.outside (h : OutsideBelow n p)
    (hkind : functionScopeKinds.contains p.kind = false) : Outside n p := by
  intro g hg hfunction
  rcases mem_preorder.1 hg with rfl | ⟨c, hc, hg⟩
  · rw [hkind] at hfunction
    cases hfunction
  · exact h c hc g hg hfunction

/-- What stands below one child, outside its functions, is outside those of the others. -/
theorem Outside.below (h : Outside n c) (hp : p.WellFormed text) (hne : n.start < n.stop)
    (hc : c ∈ p.children) (hn : n ∈ c.preorder) : OutsideBelow n p := by
  intro c' hc' g hg hfunction body hbody hmem
  have hn' : n ∈ c'.preorder := preorder_trans hg (preorder_trans
    (mem_preorder_child? g.self_mem_preorder hbody) hmem)
  obtain rfl := hp.child_eq hc hc' hn hn' hne hne
  exact h g hg hfunction body hbody hmem

/-! ## What the forms of binding reach -/

/-- Patterns made of parts are no functions. -/
theorem not_function_of_compound :
    ∀ kind ∈ compoundPatternKinds, functionScopeKinds.contains kind = false := by
  decide

/-- Functions are no patterns. -/
theorem patternField?_of_function :
    ∀ kind ∈ functionScopeKinds, patternField? kind = none := by
  decide

section
variable (hp : p.WellFormed text) (hne : n.start < n.stop)
include hp hne

/-- What fills a field is outside the functions below the node. -/
theorem outsideBelow_of_child? {field : Field} (h : p.child? field = some n) :
    OutsideBelow n p :=
  (outside_self n).below hp hne (child?_eq_some h).1 n.self_mem_preorder

/-- The name of a declaration is outside its body. -/
theorem outside_of_name (h : p.child? .name = some n) : Outside n p := by
  intro g hg hfunction body hbody hn
  rcases mem_preorder.1 hg with rfl | ⟨c, hc, hg⟩
  · obtain rfl := hp.child_eq (child?_eq_some h).1 (child?_eq_some hbody).1 n.self_mem_preorder hn
      hne hne
    have hfield := (child?_eq_some h).2.symm.trans (child?_eq_some hbody).2
    cases hfield
  · exact outsideBelow_of_child? hp hne h c hc g hg hfunction body hbody hn

/-- What a part of a pattern binds is outside the functions below the pattern. -/
theorem outsideBelow_of_part (hc : c ∈ p.children) (hn : n ∈ ofPattern c) (h : Outside n c) :
    OutsideBelow n p :=
  h.below hp hne hc (mem_of_mem_ofPattern hn)

/-- What a pattern binds is outside all functions in it, such as those in its defaults. -/
theorem outside_of_mem_ofPattern (h : n ∈ ofPattern p) : Outside n p := by
  induction p using induction_children with | _ p ih
  have hpart (c : Node) (hc : c ∈ p.children) (hn : n ∈ ofPattern c) : OutsideBelow n p :=
    outsideBelow_of_part hp hne hc hn (ih c hc (hp.of_mem (mem_preorder_of_mem_children hc)) hn)
  rw [ofPattern_eq] at h
  split at h
  · rw [List.mem_singleton.1 h]
    exact outside_self p
  split at h
  · next hkind =>
    obtain ⟨c, hc, hn⟩ := List.mem_flatMap.1 h
    refine (hpart c (mem_children_of_mem_content hc) hn).outside ?_
    exact not_function_of_compound _ (List.contains_iff_mem.1 hkind)
  split at h
  · next field hfield =>
    rw [ofField] at h
    split at h
    · next c hc =>
      refine (hpart c (child?_eq_some hc).1 h).outside (Bool.eq_false_iff.2 fun hfunction => ?_)
      rw [patternField?_of_function _ (List.contains_iff_mem.1 hfunction)] at hfield
      cases hfield
    · cases h
  · cases h

/-- What the pattern in a field binds is outside the functions below the node. -/
theorem outsideBelow_of_mem_ofField {field : Field} (h : n ∈ ofField field p) :
    OutsideBelow n p := by
  rw [ofField] at h
  split at h
  · next c hc =>
    have hchild := (child?_eq_some hc).1
    have hwf := hp.of_mem (mem_preorder_of_mem_children hchild)
    exact outsideBelow_of_part hp hne hchild h (outside_of_mem_ofPattern hwf hne h)
  · cases h

/-- What the declarators of a declaration bind is outside the functions below it. -/
theorem outsideBelow_of_mem_ofDeclarators (h : n ∈ ofDeclarators p) : OutsideBelow n p := by
  obtain ⟨c, hc, hn⟩ := List.mem_flatMap.1 h
  have hchild := mem_children_of_mem_content hc
  split at hn
  · next hkind =>
    have hwf := hp.of_mem (mem_preorder_of_mem_children hchild)
    have hbelow := outsideBelow_of_mem_ofField hwf hne hn
    exact (hbelow.outside (hkind ▸ by decide)).below hp hne hchild (mem_of_mem_ofField hn)
  · cases hn

/-- The local name of an import specifier is outside all functions. -/
theorem outside_of_mem_ofImportSpecifier (h : n ∈ ofImportSpecifier p) : Outside n p := by
  rw [ofImportSpecifier] at h
  split at h
  · next hkind =>
    refine OutsideBelow.outside ?_ (hkind ▸ by decide)
    split at h
    · next c hc =>
      split at h
      · obtain rfl := List.mem_singleton.1 h
        rcases Option.or_eq_some_iff.1 hc with hc | ⟨-, hc⟩
        · exact outsideBelow_of_child? hp hne hc
        · exact outsideBelow_of_child? hp hne hc
      · cases h
    · cases h
  · cases h

/-- What a part of an import clause binds is outside all functions. -/
theorem outside_of_mem_ofImportPart (h : n ∈ ofImportPart p) : Outside n p := by
  rw [ofImportPart] at h
  split at h
  · rw [List.mem_singleton.1 h]
    exact outside_self p
  split at h
  · next hkind =>
    have hchild := mem_children_of_mem_content (List.mem_filter.1 h).1
    exact ((outside_self n).below hp hne hchild n.self_mem_preorder).outside (hkind ▸ by decide)
  split at h
  · next hkind =>
    obtain ⟨spec, hspec, hn⟩ := List.mem_flatMap.1 h
    have hchild := mem_children_of_mem_content hspec
    have hwf := hp.of_mem (mem_preorder_of_mem_children hchild)
    exact ((outside_of_mem_ofImportSpecifier hwf hne hn).below hp hne hchild
      (mem_of_mem_ofImportSpecifier hn)).outside (hkind ▸ by decide)
  · cases h

/-- What an import statement binds is outside the functions below it. -/
theorem outsideBelow_of_mem_ofImport (h : n ∈ ofImport p) : OutsideBelow n p := by
  obtain ⟨clause, hclause, hn⟩ := List.mem_flatMap.1 h
  have hchild := mem_children_of_mem_content hclause
  have hwf := hp.of_mem (mem_preorder_of_mem_children hchild)
  split at hn
  · next hkind =>
    obtain ⟨part, hpart, hn⟩ := List.mem_flatMap.1 hn
    have hchild' := mem_children_of_mem_content hpart
    have hwf' := hwf.of_mem (mem_preorder_of_mem_children hchild')
    have hbelow := (outside_of_mem_ofImportPart hwf' hne hn).below hwf hne hchild'
      (mem_of_mem_ofImportPart hn)
    exact (hbelow.outside (hkind ▸ by decide)).below hp hne hchild
      (preorder_trans (mem_preorder_content hpart) (mem_of_mem_ofImportPart hn))
  · cases hn

/-- What a statement declares is outside all functions, that of a declared function included. -/
theorem outside_of_mem_ofStatement (h : n ∈ ofStatement p) : Outside n p := by
  induction p using induction_children with | _ p ih
  rw [ofStatement_eq] at h
  split at h
  · next hkind =>
    refine (outsideBelow_of_mem_ofDeclarators hp hne h).outside ?_
    rcases hkind with hkind | hkind
    · exact hkind ▸ by decide
    · exact hkind ▸ by decide
  split at h
  · exact outside_of_name hp hne (Option.mem_toList.1 h)
  split at h
  · next hkind =>
    split at h
    · next c hc =>
      have hchild := (child?_eq_some hc).1
      have hwf := hp.of_mem (mem_preorder_of_mem_children hchild)
      exact ((ih c hchild hwf h).below hp hne hchild (mem_of_mem_ofStatement h)).outside
        (hkind ▸ by decide)
    · cases h
  split at h
  · next hkind =>
    exact (outsideBelow_of_mem_ofImport hp hne h).outside (hkind ▸ by decide)
  · cases h

/-- What the statements of a block declare is outside the functions below it. -/
theorem outsideBelow_of_mem_ofBlock (h : n ∈ ofBlock p) : OutsideBelow n p := by
  obtain ⟨c, hc, hn⟩ := List.mem_flatMap.1 h
  have hchild := mem_children_of_mem_content hc
  have hwf := hp.of_mem (mem_preorder_of_mem_children hchild)
  exact (outside_of_mem_ofStatement hwf hne hn).below hp hne hchild (mem_of_mem_ofStatement hn)

end

/-! ## Nodes of the same function -/

/-- The nodes below a node that are not below a function between them. -/
inductive Local (p : Node) : Node → Prop
  | child {c : Node} : c ∈ p.children → Local p c
  | down {k c : Node} : Local p k → functionScopeKinds.contains k.kind = false → c ∈ k.children →
      Local p c

/-- The nodes of the same function are below the node. -/
theorem Local.mem_preorder (h : Local p k) : k ∈ p.preorder := by
  induction h with
  | child hc => exact mem_preorder_of_mem_children hc
  | down _ _ hc ih => exact mem_preorder_child ih hc

/-- The worklist is visited. -/
theorem mem_walkLocal_of_mem {ns : List Node} (h : k ∈ ns) : k ∈ walkLocal ns := by
  fun_induction walkLocal ns with
  | case1 => cases h
  | case2 n rest ih =>
    rcases List.mem_cons.1 h with rfl | h
    · exact List.mem_cons_self
    · exact List.mem_cons_of_mem _ (ih (List.mem_append_right _ h))

/-- What is below a visited node, in the same function, is visited. -/
theorem mem_walkLocal_of_localChildren {ns : List Node} (h : k ∈ walkLocal ns)
    (hc : c ∈ localChildren k) : c ∈ walkLocal ns := by
  fun_induction walkLocal ns with
  | case1 => cases h
  | case2 n rest ih =>
    rcases List.mem_cons.1 h with rfl | h
    · exact List.mem_cons_of_mem _ (mem_walkLocal_of_mem (List.mem_append_left _ hc))
    · exact List.mem_cons_of_mem _ (ih h)

/-- From nodes of the same function the walk leads to such nodes. -/
theorem local_of_mem_walkLocal {ns : List Node} (hns : ∀ c ∈ ns, Local p c)
    (h : k ∈ walkLocal ns) : Local p k := by
  fun_induction walkLocal ns with
  | case1 => cases h
  | case2 n rest ih =>
    obtain ⟨hn, hrest⟩ := List.forall_mem_cons.1 hns
    rcases List.mem_cons.1 h with rfl | h
    · exact hn
    refine ih (List.forall_mem_append.2 ⟨fun c hc => ?_, hrest⟩) h
    rw [localChildren] at hc
    split at hc
    · cases hc
    · next hkind => exact .down hn (Bool.eq_false_iff.2 hkind) hc

/-- The walk visits the nodes of the same function. -/
theorem mem_walkLocal : k ∈ walkLocal p.children ↔ Local p k := by
  constructor
  · exact local_of_mem_walkLocal fun c hc => .child hc
  · intro h
    induction h with
    | child hc => exact mem_walkLocal_of_mem hc
    | down _ hkind hc ih =>
      refine mem_walkLocal_of_localChildren ih ?_
      rw [localChildren, hkind]
      exact hc

section
variable (hp : p.WellFormed text) (hne : n.start < n.stop)
include hp hne

/-- What stands below a node of the same function, outside of the functions there, is outside of
all functions. -/
theorem Local.outsideBelow (hk : Local p k) (hn : n ∈ k.preorder) (h : Outside n k) :
    OutsideBelow n p := by
  induction hk with
  | child hc => exact h.below hp hne hc hn
  | down hk hkind hc ih =>
    have hwf := hp.of_mem hk.mem_preorder
    exact ih (preorder_trans (mem_preorder_of_mem_children hc) hn)
      ((h.below hwf hne hc hn).outside hkind)

/-- What hoisted declarations bind is outside the functions below. -/
theorem outsideBelow_of_mem_ofHoisted (h : n ∈ ofHoisted p) : OutsideBelow n p := by
  obtain ⟨k, hk, hn⟩ := List.mem_flatMap.1 h
  have hlocal := mem_walkLocal.1 hk
  have hwf := hp.of_mem hlocal.mem_preorder
  split at hn
  · next hkind =>
    have hbelow := outsideBelow_of_mem_ofDeclarators hwf hne hn
    exact hlocal.outsideBelow hp hne (mem_of_mem_ofDeclarators hn)
      (hbelow.outside (hkind ▸ by decide))
  split at hn
  · next hkind =>
    split at hn
    · split at hn
      · have hbelow := outsideBelow_of_mem_ofField hwf hne hn
        exact hlocal.outsideBelow hp hne (mem_of_mem_ofField hn)
          (hbelow.outside (hkind ▸ by decide))
      · cases hn
    · cases hn
  · cases hn

/-! ## Scopes -/

/-- What the scope of a function binds is outside the functions below it. -/
theorem outsideBelow_of_mem_ofFunction (h : n ∈ ofFunction p) : OutsideBelow n p := by
  rw [ofFunction] at h
  rcases List.mem_append.1 h with h | h
  · rcases List.mem_append.1 h with h | h
    · rcases List.mem_append.1 h with h | h
      · split at h
        · exact outsideBelow_of_child? hp hne (Option.mem_toList.1 h)
        · cases h
      · exact outsideBelow_of_mem_ofField hp hne h
    · exact outsideBelow_of_mem_ofField hp hne h
  · split at h
    · next body hbody =>
      have hchild := (child?_eq_some hbody).1
      have hwf := hp.of_mem (mem_preorder_of_mem_children hchild)
      split at h
      · next hkind =>
        rcases List.mem_append.1 h with h | h
        · exact ((outsideBelow_of_mem_ofBlock hwf hne h).outside (hkind ▸ by decide)).below hp hne
            hchild (mem_of_mem_ofBlock h)
        · exact ((outsideBelow_of_mem_ofHoisted hwf hne h).outside (hkind ▸ by decide)).below hp
            hne hchild (mem_of_mem_ofHoisted h)
      · cases h
    · cases h

/-- What the head of a counting loop binds is outside the functions below the loop. -/
theorem outsideBelow_of_mem_ofForHead (h : n ∈ ofForHead p) : OutsideBelow n p := by
  rw [ofForHead] at h
  split at h
  · next i hi =>
    have hchild := (child?_eq_some hi).1
    have hwf := hp.of_mem (mem_preorder_of_mem_children hchild)
    split at h
    · next hkind =>
      exact ((outsideBelow_of_mem_ofDeclarators hwf hne h).outside (hkind ▸ by decide)).below hp
        hne hchild (mem_of_mem_ofDeclarators h)
    · cases h
  · cases h

/-- What the head of a loop over a collection binds is outside the functions below the loop. -/
theorem outsideBelow_of_mem_ofForInHead (h : n ∈ ofForInHead p) : OutsideBelow n p := by
  rw [ofForInHead] at h
  split at h
  · split at h
    · exact outsideBelow_of_mem_ofField hp hne h
    · cases h
  · cases h

/-- What a scope binds is outside the functions below the node that opens it. -/
theorem outsideBelow_of_mem_bindings (h : n ∈ bindings p) : OutsideBelow n p := by
  rw [bindings] at h
  split at h
  · rcases List.mem_append.1 h with h | h
    · exact outsideBelow_of_mem_ofBlock hp hne h
    · exact outsideBelow_of_mem_ofHoisted hp hne h
  split at h
  · exact outsideBelow_of_mem_ofFunction hp hne h
  split at h
  · exact outsideBelow_of_mem_ofBlock hp hne h
  split at h
  · exact outsideBelow_of_mem_ofForHead hp hne h
  split at h
  · exact outsideBelow_of_mem_ofForInHead hp hne h
  split at h
  · exact outsideBelow_of_mem_ofField hp hne h
  · cases h

/-- What a node puts into a declaring position is outside the functions below it. -/
theorem outsideBelow_of_mem_declaredBy (h : n ∈ declaredBy p) : OutsideBelow n p := by
  rcases List.mem_append.1 h with h | h
  · exact outsideBelow_of_mem_bindings hp hne h
  · split at h
    · exact outsideBelow_of_child? hp hne (Option.mem_toList.1 h)
    · cases h

end

/-- What a node puts into a declaring position is below it. -/
theorem mem_of_mem_declaredBy (h : n ∈ declaredBy m) : n ∈ m.preorder := by
  rcases List.mem_append.1 h with h | h
  · exact mem_of_mem_bindings h
  · split at h
    · exact mem_preorder_toList h
    · cases h

/-! ## Declaring positions -/

/-- What stands in the body of a function is put into a declaring position by nodes of the function
alone. -/
theorem Declared.of_root (hroot : root.WellFormed text) (hf : f ∈ root.preorder)
    (hkind : functionScopeKinds.contains f.kind) (hbody : f.child? .body = some body)
    (hn : n ∈ body.preorder) (hne : n.start < n.stop) (h : Declared root n) : Declared f n := by
  obtain ⟨m, hm, hdeclared⟩ := h
  have hnf : n ∈ f.preorder := preorder_trans (mem_preorder_child? f.self_mem_preorder hbody) hn
  have hrange := (hroot.of_mem hf).within hnf
  have hrange' := (hroot.of_mem hm).within (mem_of_mem_declaredBy hdeclared)
  -- Both nodes are above the identifier; were the function the lower one, the identifier would be
  -- in the body of a function below the node that declares it.
  rcases hroot.below_or_below hm hf (by omega) (by omega) with hbelow | hbelow
  · exact ⟨m, hbelow, hdeclared⟩
  · rcases mem_preorder.1 hbelow with rfl | ⟨c, hc, hfc⟩
    · exact ⟨f, f.self_mem_preorder, hdeclared⟩
    · have houtside := outsideBelow_of_mem_declaredBy (hroot.of_mem hm) hne hdeclared
      exact absurd hn (houtside c hc f hfc hkind body hbody)

/-- What stands in a declaring position of a function does so in the whole tree. -/
theorem Declared.to_root (hf : f ∈ root.preorder) (h : Declared f n) : Declared root n := by
  obtain ⟨m, hm, hdeclared⟩ := h
  exact ⟨m, preorder_trans hf hm, hdeclared⟩

/-- The key of an identifier is among those of a function's declaring positions only if the
identifier itself stands in one of them. -/
theorem key_mem_declaringKeys (hroot : root.WellFormed text) (hnames : NamesAreTokens root)
    (hf : f ∈ root.preorder) (hn : n ∈ root.preorder) (hkind : referenceKinds.contains n.kind) :
    n.key ∈ declaringKeys f ↔ Declared f n := by
  rw [declaringKeys, walk_singleton]
  constructor
  · intro h
    obtain ⟨m, hm, h⟩ := List.mem_flatMap.1 h
    obtain ⟨n', hn', hkey⟩ := List.mem_map.1 h
    simp only [key, NodeKey.mk.injEq] at hkey
    obtain ⟨hstart, hstop, hkinds⟩ := hkey
    have hmem := preorder_trans hf (preorder_trans hm (mem_of_mem_declaredBy hn'))
    obtain ⟨hleaf, hne⟩ := hnames n hn hkind
    obtain ⟨hleaf', -⟩ := hnames n' hmem (hkinds ▸ hkind)
    obtain rfl := hroot.eq_of_range hn hmem hleaf hleaf' hstart.symm hstop.symm hne
    exact ⟨m, hm, hn'⟩
  · rintro ⟨m, hm, hdeclared⟩
    exact List.mem_flatMap.2 ⟨m, hm, List.mem_map_of_mem hdeclared⟩

end Sabotage.Scope
