import Sabotage.Proofs.Positions
import Sabotage.Scope.Binding
import Mathlib.Data.List.Forall2

/-!
# Comments in a tree

A tree with comments added has the nodes of the tree, of the same kinds and in the same fields, and
between them tokens that are comments (`Node.Commented`). The comments may move what stands after
them; a function takes the offsets of the new text back to those of the old.

What fills a field is what filled it before (`Node.Commented.child?`). The content of a node is what
it was, with the comments between that are written in the manner of markup
(`Node.Commented.content`), for only those of the other kind are left out of it. No form of binding
takes one of them for a part of itself, so the identifiers that a scope binds are the same
(`Scope.bindings_commented`).
-/

namespace Sabotage

/-! ## Lists with further items in between -/

/-- Of two values that may be missing, both are, or they correspond. -/
theorem rel_cases {α β : Type} {R : α → β → Prop} {a? : Option α} {b? : Option β}
    (h : Option.Rel R a? b?) :
    (a? = none ∧ b? = none) ∨ ∃ a b, a? = some a ∧ b? = some b ∧ R a b := by
  cases h with
  | none => exact .inl ⟨rfl, rfl⟩
  | some hab => exact .inr ⟨_, _, rfl, rfl, hab⟩

/-- Items that correspond in turn to those of another list, with further items in between. -/
inductive Strewn {α β : Type} (extra : β → Prop) (R : α → β → Prop) : List α → List β → Prop
  | nil : Strewn extra R [] []
  | keep {a : α} {b : β} {as : List α} {bs : List β} : R a b → Strewn extra R as bs →
      Strewn extra R (a :: as) (b :: bs)
  | add {b : β} {as : List α} {bs : List β} : extra b → Strewn extra R as bs →
      Strewn extra R as (b :: bs)

namespace Strewn
variable {α β γ δ : Type} {extra extra' : β → Prop} {R R' : α → β → Prop} {as as' : List α}
  {bs bs' : List β}

/-- What is strewn with items of one kind is strewn with items of a wider one. -/
theorem mono (h : Strewn extra R as bs) (hextra : ∀ b, extra b → extra' b) :
    Strewn extra' R as bs := by
  induction h with
  | nil => exact .nil
  | keep hab _ ih => exact .keep hab ih
  | add hb _ ih => exact .add (hextra _ hb) ih

/-- Lists are strewn one after the other. -/
theorem append (h : Strewn extra R as bs) (h' : Strewn extra R as' bs') :
    Strewn extra R (as ++ as') (bs ++ bs') := by
  induction h with
  | nil => exact h'
  | keep hab _ ih => exact .keep hab ih
  | add hb _ ih => exact .add hb ih

/-- The images of strewn items. -/
theorem map {extra' : δ → Prop} {S : γ → δ → Prop} {f : α → γ} {g : β → δ}
    (h : Strewn extra R as bs) (hR : ∀ a b, R a b → S (f a) (g b))
    (hextra : ∀ b, extra b → extra' (g b)) : Strewn extra' S (as.map f) (bs.map g) := by
  induction h with
  | nil => exact .nil
  | keep hab _ ih => exact .keep (hR _ _ hab) ih
  | add hb _ ih => exact .add (hextra _ hb) ih

/-- Lists that correspond item by item have nothing in between. -/
theorem of_forall₂ (h : List.Forall₂ R as bs) : Strewn extra R as bs := by
  induction h with
  | nil => exact .nil
  | cons hab _ ih => exact .keep hab ih

/-- With nothing in between the items correspond one by one. -/
theorem forall₂ (h : Strewn extra R as bs) (hextra : ∀ b ∈ bs, ¬extra b) :
    List.Forall₂ R as bs := by
  induction h with
  | nil => exact .nil
  | keep hab _ ih => exact .cons hab (ih fun b hb => hextra b (List.mem_cons_of_mem _ hb))
  | add hb _ _ => exact absurd hb (hextra _ List.mem_cons_self)

/-- What a test that does not tell the items apart leaves in. -/
theorem filter {p : α → Bool} {q : β → Bool} (h : Strewn extra R as bs)
    (hR : ∀ a b, R a b → p a = q b) :
    Strewn (fun b => extra b ∧ q b) R (as.filter p) (bs.filter q) := by
  induction h with
  | nil => exact .nil
  | keep hab _ ih =>
    rw [List.filter_cons, List.filter_cons, hR _ _ hab]
    split
    · exact .keep hab ih
    · exact ih
  | add hb _ ih =>
    rw [List.filter_cons]
    split
    · next hq => exact .add ⟨hb, hq⟩ ih
    · exact ih

/-- What a test finds first that fails for all that is in between. -/
theorem find? {p : α → Bool} {q : β → Bool} (h : Strewn extra R as bs)
    (hR : ∀ a b, R a b → p a = q b) (hextra : ∀ b, extra b → q b = false) :
    Option.Rel R (as.find? p) (bs.find? q) := by
  induction h with
  | nil => exact .none
  | keep hab _ ih =>
    rw [List.find?_cons, List.find?_cons, hR _ _ hab]
    split
    · exact .some hab
    · exact ih
  | add hb _ ih =>
    rw [List.find?_cons, hextra _ hb]
    exact ih

/-- What is made of the items one by one, and nothing of what is in between. -/
theorem flatMap {S : γ → δ → Prop} {f : α → List γ} {g : β → List δ} (h : Strewn extra R as bs)
    (hR : ∀ a ∈ as, ∀ b ∈ bs, R a b → List.Forall₂ S (f a) (g b))
    (hextra : ∀ b, extra b → g b = []) : List.Forall₂ S (as.flatMap f) (bs.flatMap g) := by
  induction h with
  | nil => exact .nil
  | keep hab _ ih =>
    rw [List.flatMap_cons, List.flatMap_cons]
    refine List.rel_append (hR _ List.mem_cons_self _ List.mem_cons_self hab) (ih ?_)
    exact fun a ha b hb => hR a (List.mem_cons_of_mem _ ha) b (List.mem_cons_of_mem _ hb)
  | add hb _ ih =>
    rw [List.flatMap_cons, hextra _ hb, List.nil_append]
    exact ih fun a ha b hb => hR a ha b (List.mem_cons_of_mem _ hb)

end Strewn

/-! ## Trees with comments added -/

namespace Node

/-- The kinds of comments. Those of the second kind begin in the manner of markup. -/
def commentKinds : List String :=
  ["comment", "html_comment"]

/-- A comment of certain kinds: a token that fills no field. -/
structure IsComment (kinds : List String) (c : Node) : Prop where
  mem_kinds : c.kind ∈ kinds
  mem_commentKinds : c.kind ∈ commentKinds
  field?_eq : c.field? = none
  children_eq : c.children = []

/-- A comment in the manner of markup. -/
structure IsMarkupComment (kinds : List String) (c : Node) : Prop extends c.IsComment kinds where
  kind_eq : c.kind = "html_comment"

/-- A node and the same node after comments of certain kinds have been added to its tree. The
offsets of the second are taken back to those of the first. -/
inductive Commented (kinds : List String) (back : Nat → Nat) : Node → Node → Prop
  | intro {n n' : Node} (kind_eq : n'.kind = n.kind) (named_eq : n'.named = n.named)
      (missing_eq : n'.missing = n.missing) (field?_eq : n'.field? = n.field?)
      (start_eq : back n'.start = n.start) (stop_eq : back n'.stop = n.stop)
      (children : Strewn (IsComment kinds) (Commented kinds back) n.children n'.children) :
      Commented kinds back n n'

variable {kinds : List String} {back : Nat → Nat} {c n n' : Node}

/-- A comment is of one of two kinds. -/
theorem IsComment.kind_cases (h : c.IsComment kinds) :
    c.kind = "comment" ∨ c.kind = "html_comment" := by
  simpa [commentKinds] using h.mem_commentKinds

/-- A comment is of no other kind. -/
theorem IsComment.kind_ne {kind : String} (h : c.IsComment kinds) (hkind : kind ∉ commentKinds) :
    c.kind ≠ kind := by
  rintro rfl
  exact hkind h.mem_commentKinds

/-- A comment that counts as content is one in the manner of markup. -/
theorem IsComment.isMarkupComment (h : c.IsComment kinds) (hcontent : c.isContent) :
    c.IsMarkupComment kinds := by
  refine ⟨h, h.kind_cases.resolve_left fun hkind => ?_⟩
  rw [isContent, hkind, Bool.and_eq_true] at hcontent
  exact absurd hcontent.2 (by decide)

namespace Commented

/-- The kind stays the same. -/
theorem kind_eq (h : Commented kinds back n n') : n'.kind = n.kind := by
  obtain ⟨h, -, -, -, -, -, -⟩ := h
  exact h

/-- The field that is filled stays the same. -/
theorem field?_eq (h : Commented kinds back n n') : n'.field? = n.field? := by
  obtain ⟨-, -, -, h, -, -, -⟩ := h
  exact h

/-- The first byte is taken back to what it was. -/
theorem start_eq (h : Commented kinds back n n') : back n'.start = n.start := by
  obtain ⟨-, -, -, -, h, -, -⟩ := h
  exact h

/-- The end is taken back to what it was. -/
theorem stop_eq (h : Commented kinds back n n') : back n'.stop = n.stop := by
  obtain ⟨-, -, -, -, -, h, -⟩ := h
  exact h

/-- The children stay the same, with comments in between. -/
theorem children (h : Commented kinds back n n') :
    Strewn (IsComment kinds) (Commented kinds back) n.children n'.children := by
  obtain ⟨-, -, -, -, -, -, h⟩ := h
  exact h

/-- A node counts as content as before. -/
theorem isContent_eq (h : Commented kinds back n n') : n.isContent = n'.isContent := by
  obtain ⟨hkind, hnamed, -, -, -, -, -⟩ := h
  rw [isContent, isContent, hkind, hnamed]

/-- What fills a field is what filled it before. -/
theorem child? (h : Commented kinds back n n') (f : Field) :
    Option.Rel (Commented kinds back) (n.child? f) (n'.child? f) := by
  refine h.children.find? (fun c c' hc => ?_) fun c hc => ?_
  · rw [hc.field?_eq]
  · rw [hc.field?_eq]
    rfl

/-- A field is filled neither before nor after, or by the same node. -/
theorem child?_cases (h : Commented kinds back n n') (f : Field) :
    (n.child? f = none ∧ n'.child? f = none) ∨
      ∃ c c', n.child? f = some c ∧ n'.child? f = some c' ∧ Commented kinds back c c' :=
  rel_cases (h.child? f)

/-- The content is what it was, with comments in the manner of markup in between. -/
theorem content (h : Commented kinds back n n') :
    Strewn (IsMarkupComment kinds) (Commented kinds back) n.content n'.content := by
  refine (h.children.filter fun c c' hc => hc.isContent_eq).mono ?_
  exact fun c hc => hc.1.isMarkupComment hc.2

end Commented

end Node

/-! ## What scopes bind -/

namespace Scope

open Node

variable {kinds : List String} {back : Nat → Nat} {c n n' : Node} {ns ns' : List Node}

/-- What may fill a field, as a list. -/
theorem forall₂_toList {α β : Type} {R : α → β → Prop} {a? : Option α} {b? : Option β}
    (h : Option.Rel R a? b?) : List.Forall₂ R a?.toList b?.toList := by
  cases h with
  | none => exact .nil
  | some h => exact .cons h .nil

/-- A comment binds nothing as a pattern. -/
theorem ofPattern_comment (h : c.IsComment kinds) : ofPattern c = [] := by
  rw [ofPattern_eq]
  rcases h.kind_cases with hkind | hkind
  · simp [hkind, compoundPatternKinds, patternField?]
  · simp [hkind, compoundPatternKinds, patternField?]

/-- A comment declares nothing as a statement. -/
theorem ofStatement_comment (h : c.IsComment kinds) : ofStatement c = [] := by
  rw [ofStatement_eq]
  rcases h.kind_cases with hkind | hkind
  · simp [hkind, namedDeclarationKinds]
  · simp [hkind, namedDeclarationKinds]

/-- A pattern binds the same identifiers. -/
theorem ofPattern_commented (h : Commented kinds back n n') :
    List.Forall₂ (Commented kinds back) (ofPattern n) (ofPattern n') := by
  induction n using induction_children generalizing n' with | _ n ih
  rw [ofPattern_eq, ofPattern_eq, h.kind_eq]
  split
  · exact .cons h .nil
  split
  · refine h.content.flatMap (fun c hc c' _ hcc' => ?_) fun c hc => ?_
    · exact ih c (mem_children_of_mem_content hc) hcc'
    · exact ofPattern_comment hc.toIsComment
  split
  · next f _ =>
    rw [ofField, ofField]
    obtain ⟨hc, hc'⟩ | ⟨c, c', hc, hc', hcc'⟩ := h.child?_cases f
    · rw [hc, hc']
      exact .nil
    · rw [hc, hc']
      exact ih c (child?_eq_some hc).1 hcc'
  · exact .nil

/-- The pattern in a field binds the same identifiers. -/
theorem ofField_commented (h : Commented kinds back n n') (f : Field) :
    List.Forall₂ (Commented kinds back) (ofField f n) (ofField f n') := by
  rw [ofField, ofField]
  obtain ⟨hc, hc'⟩ | ⟨c, c', hc, hc', hcc'⟩ := h.child?_cases f
  · rw [hc, hc']
    exact .nil
  · rw [hc, hc']
    exact ofPattern_commented hcc'

/-- A form of binding goes over the content of a node, and takes no comment for a part. -/
theorem flatMap_content {form : Node → List Node} (h : Commented kinds back n n')
    (hform : ∀ c ∈ n.content, ∀ c', Commented kinds back c c' →
      List.Forall₂ (Commented kinds back) (form c) (form c'))
    (hcomment : ∀ c, c.IsComment kinds → form c = []) :
    List.Forall₂ (Commented kinds back) (n.content.flatMap form) (n'.content.flatMap form) :=
  h.content.flatMap (fun c hc c' _ hcc' => hform c hc c' hcc')
    fun c hc => hcomment c hc.toIsComment

/-- The declarators of a declaration bind the same identifiers. -/
theorem ofDeclarators_commented (h : Commented kinds back n n') :
    List.Forall₂ (Commented kinds back) (ofDeclarators n) (ofDeclarators n') := by
  refine flatMap_content h (fun c _ c' hcc' => ?_) fun c hc => ?_
  · rw [hcc'.kind_eq]
    split
    · exact ofField_commented hcc' .name
    · exact .nil
  · exact if_neg (hc.kind_ne (by decide))

/-- An import specifier has the same local name. -/
theorem ofImportSpecifier_commented (h : Commented kinds back n n') :
    List.Forall₂ (Commented kinds back) (ofImportSpecifier n) (ofImportSpecifier n') := by
  have hlocal : Option.Rel (Commented kinds back) ((n.child? .alias).or (n.child? .name))
      ((n'.child? .alias).or (n'.child? .name)) := by
    obtain ⟨hc, hc'⟩ | ⟨c, c', hc, hc', hcc'⟩ := h.child?_cases .alias
    · rw [hc, hc', Option.none_or, Option.none_or]
      exact h.child? .name
    · rw [hc, hc', Option.some_or, Option.some_or]
      exact .some hcc'
  rw [ofImportSpecifier, ofImportSpecifier, h.kind_eq]
  split
  · obtain ⟨hc, hc'⟩ | ⟨c, c', hc, hc', hcc'⟩ := rel_cases hlocal
    · rw [hc, hc']
      exact .nil
    · simp only [hc, hc', hcc'.kind_eq]
      split
      · exact .cons hcc' .nil
      · exact .nil
  · exact .nil

/-- A part of an import clause binds the same identifiers. -/
theorem ofImportPart_commented (h : Commented kinds back n n') :
    List.Forall₂ (Commented kinds back) (ofImportPart n) (ofImportPart n') := by
  rw [ofImportPart, ofImportPart, h.kind_eq]
  split
  · exact .cons h .nil
  split
  · refine (h.content.filter fun c c' hc => ?_).forall₂ fun c _ hc => ?_
    · rw [hc.kind_eq]
    · exact hc.1.kind_ne (by decide) (beq_iff_eq.1 hc.2)
  split
  · refine flatMap_content h (fun c _ c' hcc' => ofImportSpecifier_commented hcc') fun c hc => ?_
    rw [ofImportSpecifier, if_neg (hc.kind_ne (by decide))]
  · exact .nil

/-- An import statement binds the same identifiers. -/
theorem ofImport_commented (h : Commented kinds back n n') :
    List.Forall₂ (Commented kinds back) (ofImport n) (ofImport n') := by
  refine flatMap_content h (fun c _ c' hcc' => ?_) fun c hc => if_neg (hc.kind_ne (by decide))
  rw [hcc'.kind_eq]
  split
  · refine flatMap_content hcc' (fun p _ p' hpp' => ofImportPart_commented hpp') fun p hp => ?_
    rw [ofImportPart, if_neg (hp.kind_ne (by decide)), if_neg (hp.kind_ne (by decide)),
      if_neg (hp.kind_ne (by decide))]
  · exact .nil

/-- A statement declares the same identifiers. -/
theorem ofStatement_commented (h : Commented kinds back n n') :
    List.Forall₂ (Commented kinds back) (ofStatement n) (ofStatement n') := by
  induction n using induction_children generalizing n' with | _ n ih
  rw [ofStatement_eq, ofStatement_eq, h.kind_eq]
  split
  · exact ofDeclarators_commented h
  split
  · exact forall₂_toList (h.child? .name)
  split
  · obtain ⟨hc, hc'⟩ | ⟨c, c', hc, hc', hcc'⟩ := h.child?_cases .declaration
    · rw [hc, hc']
      exact .nil
    · rw [hc, hc']
      exact ih c (child?_eq_some hc).1 hcc'
  split
  · exact ofImport_commented h
  · exact .nil

/-- The statements of a block declare the same identifiers. -/
theorem ofBlock_commented (h : Commented kinds back n n') :
    List.Forall₂ (Commented kinds back) (ofBlock n) (ofBlock n') :=
  flatMap_content h (fun _ _ _ hcc' => ofStatement_commented hcc') fun _ hc =>
    ofStatement_comment hc

/-- A walk within a function visits the same nodes, with comments in between. -/
theorem walkLocal_commented (h : Strewn (IsComment kinds) (Commented kinds back) ns ns') :
    Strewn (IsComment kinds) (Commented kinds back) (walkLocal ns) (walkLocal ns') := by
  fun_induction walkLocal ns' generalizing ns with
  | case1 =>
    cases h
    rw [walkLocal]
    exact .nil
  | case2 n' rest' ih =>
    cases h with
    | keep hn hrest =>
      rw [walkLocal]
      refine .keep hn (ih (Strewn.append ?_ hrest))
      rw [localChildren, localChildren, hn.kind_eq]
      split
      · exact .nil
      · exact hn.children
    | add hc hrest =>
      refine .add hc (ih ?_)
      rw [localChildren, hc.children_eq, ite_self]
      exact hrest

/-- The `var` declarations below a node bind the same identifiers. -/
theorem ofHoisted_commented (h : Commented kinds back n n') :
    List.Forall₂ (Commented kinds back) (ofHoisted n) (ofHoisted n') := by
  refine (walkLocal_commented h.children).flatMap (fun k _ k' _ hkk' => ?_) fun c hc => ?_
  · rw [hkk'.kind_eq]
    split
    · exact ofDeclarators_commented hkk'
    split
    · obtain ⟨hc, hc'⟩ | ⟨c, c', hc, hc', hcc'⟩ := hkk'.child?_cases .kind
      · rw [hc, hc']
        exact .nil
      · simp only [hc, hc', hcc'.kind_eq]
        split
        · exact ofField_commented hkk' .left
        · exact .nil
    · exact .nil
  · rw [if_neg (hc.kind_ne (by decide)), if_neg (hc.kind_ne (by decide))]

/-- The scope of a function binds the same identifiers. -/
theorem ofFunction_commented (h : Commented kinds back n n') :
    List.Forall₂ (Commented kinds back) (ofFunction n) (ofFunction n') := by
  rw [ofFunction, ofFunction, h.kind_eq]
  refine List.rel_append (List.rel_append (List.rel_append ?_ ?_) ?_) ?_
  · split
    · exact forall₂_toList (h.child? .name)
    · exact .nil
  · exact ofField_commented h .parameters
  · exact ofField_commented h .parameter
  · obtain ⟨hc, hc'⟩ | ⟨c, c', hc, hc', hcc'⟩ := h.child?_cases .body
    · rw [hc, hc']
      exact .nil
    · simp only [hc, hc', hcc'.kind_eq]
      split
      · exact List.rel_append (ofBlock_commented hcc') (ofHoisted_commented hcc')
      · exact .nil

/-- The head of a counting loop binds the same identifiers. -/
theorem ofForHead_commented (h : Commented kinds back n n') :
    List.Forall₂ (Commented kinds back) (ofForHead n) (ofForHead n') := by
  rw [ofForHead, ofForHead]
  obtain ⟨hc, hc'⟩ | ⟨c, c', hc, hc', hcc'⟩ := h.child?_cases .initializer
  · rw [hc, hc']
    exact .nil
  · simp only [hc, hc', hcc'.kind_eq]
    split
    · exact ofDeclarators_commented hcc'
    · exact .nil

/-- The head of a loop over a collection binds the same identifiers. -/
theorem ofForInHead_commented (h : Commented kinds back n n') :
    List.Forall₂ (Commented kinds back) (ofForInHead n) (ofForInHead n') := by
  rw [ofForInHead, ofForInHead]
  obtain ⟨hc, hc'⟩ | ⟨c, c', hc, hc', hcc'⟩ := h.child?_cases .kind
  · rw [hc, hc']
    exact .nil
  · simp only [hc, hc', hcc'.kind_eq]
    split
    · exact ofField_commented h .left
    · exact .nil

/-- A scope binds the same identifiers, whatever comments are added to its tree. -/
theorem bindings_commented (h : Commented kinds back n n') :
    List.Forall₂ (Commented kinds back) (bindings n) (bindings n') := by
  rw [bindings, bindings, h.kind_eq]
  split
  · exact List.rel_append (ofBlock_commented h) (ofHoisted_commented h)
  split
  · exact ofFunction_commented h
  split
  · exact ofBlock_commented h
  split
  · exact ofForHead_commented h
  split
  · exact ofForInHead_commented h
  split
  · exact ofField_commented h .parameter
  · exact .nil

end Scope

end Sabotage
