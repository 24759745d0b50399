import Sabotage.Proofs.Declaring

/-!
# Names captured from around a function

A reference is resolved at the innermost scope around it that binds its name. A name that a
function can be shadowed with is bound around the function, not by the function, and referred to in
its body (`Scope.mem_shadowable`).

Every name that a reference in the body takes from around the function is among these names, each
once, in the order of first use (`Scope.shadowable_complete`). The converse fails: a scope inside
the body may bind the name again, as the head of a loop does in `Scope.shadowable_loopDraft`. A
name that can be shadowed is resolved around the function, or else inside of it
(`Scope.shadowable_resolves`).
-/

namespace Sabotage.Scope

open Node

variable {d : Draft} {text name : String} {names : List String} {body n : Node} {r s t : Site}

/-! ## Resolution -/

/-- A scope binds a name. -/
def Binds (d : Draft) (scope : Node) (name : String) : Prop :=
  ∃ n ∈ bindings scope, d.textOf n = .ok name

/-- An attempt yields a value, without the reason for its failure where it does not. -/
theorem toOption_eq_some {ε α : Type} {e : Except ε α} {a : α} :
    e.toOption = some a ↔ e = .ok a := by
  cases e <;> simp [Except.toOption]

/-- Whether a scope binds a name can be checked. -/
instance decidableBinds (d : Draft) (scope : Node) (name : String) :
    Decidable (Binds d scope name) :=
  decidable_of_iff (∃ n ∈ bindings scope, (d.textOf n).toOption = some name)
    (exists_congr fun _ => and_congr_right fun _ => toOption_eq_some)

/-- A node refers to a name: an identifier, not in a declaring position, that is spelled like it. -/
structure Refers (d : Draft) (n : Node) (name : String) : Prop where
  isReference : referenceKinds.contains n.kind
  not_declared : ¬Declared d.root n
  textOf_eq : d.textOf n = .ok name

/-- A site is above another one. -/
def Encloses (above below : Site) : Prop :=
  ∃ between, below.above = between ++ above.node :: above.above

/-- The innermost scope around a site that binds a name. -/
def ResolvesTo (d : Draft) (r : Site) (name : String) (binder : Site) : Prop :=
  ∃ between, r.above = between ++ binder.node :: binder.above ∧ Binds d binder.node name ∧
    ∀ k ∈ between, ¬Binds d k name

/-- No scope from a site up to one above it, that one included, binds a name. -/
def FreeIn (d : Draft) (r : Site) (name : String) (s : Site) : Prop :=
  ∃ between, r.above = between ++ s.node :: s.above ∧
    ∀ k ∈ r.node :: (between ++ [s.node]), ¬Binds d k name

/-- The first reference to one name comes before all references to another. -/
def RefersFirst (d : Draft) (body : Node) (name later : String) : Prop :=
  ∃ before n after, body.preorder = before ++ n :: after ∧ Refers d n name ∧
    ∀ m ∈ before, ¬Refers d m later

/-! ## Names that are read -/

/-- The texts of nodes are read one by one. -/
theorem namesOf_eq_ok {ns : List Node} : namesOf d ns = .ok names ↔
    List.Forall₂ (fun n name => d.textOf n = .ok name) ns names := by
  rw [namesOf]
  induction ns generalizing names with
  | nil => cases names <;> simp [pure, Except.pure]
  | cons n ns ih =>
    rw [List.mapM_cons]
    cases hn : d.textOf n with
    | error e => cases names <;> simp [bind, Except.bind, hn]
    | ok s =>
      cases hns : ns.mapM d.textOf with
      | error e => cases names <;> simp [bind, Except.bind, ← ih, hn, hns]
      | ok ss => cases names <;> simp [bind, Except.bind, pure, Except.pure, ← ih, hn, hns]

/-- The texts that are read are those of the nodes. -/
theorem mem_of_namesOf {ns : List Node} (h : namesOf d ns = .ok names) :
    name ∈ names ↔ ∃ n ∈ ns, d.textOf n = .ok name := by
  have hall := namesOf_eq_ok.1 h
  clear h
  induction hall with
  | nil => simp
  | cons hn _ ih => simp [ih, hn, eq_comm]

/-- The names read as bound by a scope are those that it binds. -/
theorem mem_of_boundNames {scope : Node} (h : boundNames d scope = .ok names) :
    name ∈ names ↔ Binds d scope name :=
  mem_of_namesOf h

/-- The names read as bound around a site are those that a scope above it binds. -/
theorem mem_of_enclosingNames (h : enclosingNames d s = .ok names) :
    name ∈ names ↔ ∃ k ∈ s.above, Binds d k name := by
  rw [mem_of_namesOf h]
  constructor
  · rintro ⟨n, hn, hname⟩
    obtain ⟨k, hk, hn⟩ := List.mem_flatMap.1 hn
    exact ⟨k, hk, n, hn, hname⟩
  · rintro ⟨k, hk, n, hn, hname⟩
    exact ⟨n, List.mem_flatMap.2 ⟨k, hk, hn⟩, hname⟩

/-- What is read to find the names that can be shadowed. -/
theorem shadowable_eq_ok (h : shadowable d s = .ok names) :
    ∃ outer, enclosingNames d s = .ok outer ∧
      (outer = [] ∧ names = [] ∨ ∃ own used, boundNames d s.node = .ok own ∧
        referencedNames d s.node = .ok used ∧
        names = used.filter fun name => outer.contains name && !own.contains name) := by
  rw [shadowable] at h
  cases houter : enclosingNames d s with
  | error e => rw [houter] at h; cases h
  | ok outer =>
    rw [houter] at h
    refine ⟨outer, rfl, ?_⟩
    cases outer with
    | nil => cases h; exact .inl ⟨rfl, rfl⟩
    | cons o os =>
      cases hown : boundNames d s.node with
      | error e => rw [hown] at h; cases h
      | ok own =>
        cases hused : referencedNames d s.node with
        | error e => rw [hown, hused] at h; cases h
        | ok used =>
          rw [hown, hused] at h
          cases h
          exact .inr ⟨own, used, rfl, rfl, rfl⟩

/-! ## References -/

/-- The site of a function is one of the tree. -/
theorem within_function (hs : s ∈ d.sitesOf functionScopeKinds) :
    s.Within d.root ∧ functionScopeKinds.contains s.node.kind := by
  obtain ⟨hsite, hkind⟩ := List.mem_filter.1 hs
  exact ⟨Site.within_sites s hsite, hkind⟩

section
variable (h : d.Sound text) (htokens : NamesAreTokens d.root)
  (hs : s ∈ d.sitesOf functionScopeKinds) (hbody : s.node.child? .body = some body)
include h htokens hs hbody

/-- The references listed for the body of a function are the identifiers in it that stand in no
declaring position of the tree. -/
theorem isReference_iff (hn : n ∈ body.preorder) :
    (referenceKinds.contains n.kind && !(declaringKeys s.node).contains n.key) = true ↔
      referenceKinds.contains n.kind ∧ ¬Declared d.root n := by
  obtain ⟨hwithin, hfunction⟩ := within_function hs
  have hf := hwithin.mem_preorder.1
  have hroot := preorder_trans (mem_preorder_child? hf hbody) hn
  simp only [Bool.and_eq_true, Bool.not_eq_true', Bool.eq_false_iff, ne_eq, List.contains_iff_mem]
  refine and_congr_right fun hkind => not_congr ?_
  have hkind : referenceKinds.contains n.kind := List.contains_iff_mem.2 hkind
  rw [key_mem_declaringKeys h.wellFormed htokens hf hroot hkind]
  constructor
  · exact fun hdeclared => hdeclared.to_root hf
  · exact fun hdeclared =>
      hdeclared.of_root h.wellFormed hf hfunction hbody hn (htokens n hroot hkind).2

/-- The listed references that are spelled like a name are those that refer to it. -/
theorem mem_references : (n ∈ references s.node body ∧ d.textOf n = .ok name) ↔
    n ∈ body.preorder ∧ Refers d n name := by
  rw [references, walk_singleton, List.mem_filter]
  constructor
  · rintro ⟨⟨hn, hreference⟩, hname⟩
    obtain ⟨hkind, hfree⟩ := (isReference_iff h htokens hs hbody hn).1 hreference
    exact ⟨hn, hkind, hfree, hname⟩
  · rintro ⟨hn, hkind, hfree, hname⟩
    exact ⟨⟨hn, (isReference_iff h htokens hs hbody hn).2 ⟨hkind, hfree⟩⟩, hname⟩

/-- The names read as referred to in a body are those that a node in it refers to. -/
theorem mem_of_referencedNames (hnames : referencedNames d s.node = .ok names) :
    name ∈ names ↔ ∃ n ∈ body.preorder, Refers d n name := by
  rw [referencedNames, hbody] at hnames
  cases hread : namesOf d (references s.node body) with
  | error e => simp [hread, bind, Except.bind] at hnames
  | ok read =>
    simp only [hread, bind, Except.bind, pure, Except.pure, Except.ok.injEq] at hnames
    rw [← hnames, mem_firstOccurrences, mem_of_namesOf hread]
    simp only [mem_references h htokens hs hbody]

/-- The names that a function can be shadowed with: bound around it, not by itself, and referred to
in its body. -/
theorem mem_shadowable (hnames : shadowable d s = .ok names) : name ∈ names ↔
    (∃ k ∈ s.above, Binds d k name) ∧ ¬Binds d s.node name ∧
      ∃ n ∈ body.preorder, Refers d n name := by
  obtain ⟨outer, houter, ⟨rfl, rfl⟩ | ⟨own, used, hown, hused, rfl⟩⟩ := shadowable_eq_ok hnames
  · rw [← mem_of_enclosingNames houter]
    simp
  · rw [← mem_of_enclosingNames houter, ← mem_of_boundNames hown,
      ← mem_of_referencedNames h htokens hs hbody hused]
    simp only [List.mem_filter, Bool.and_eq_true, Bool.not_eq_true', List.contains_iff_mem,
      Bool.eq_false_iff, ne_eq]
    tauto

end

/-! ## First use -/

/-- Of two names in the list of first occurrences, the one before the other occurs before all
occurrences of the other. -/
theorem pairwise_firstOccurrences (names : List String) :
    (firstOccurrences names).Pairwise fun u v =>
      ∃ before after, names = before ++ u :: after ∧ v ∉ before := by
  induction names with
  | nil => exact .nil
  | cons s rest ih =>
    rw [firstOccurrences, List.pairwise_cons]
    refine ⟨fun v _ => ⟨[], rest, rfl, List.not_mem_nil⟩, ?_⟩
    refine (ih.filter _).imp_of_mem fun {u v} _ hv hpair => ?_
    obtain ⟨before, after, rfl, hbefore⟩ := hpair
    have hne : v ≠ s := by simpa using (List.mem_filter.1 hv).2
    exact ⟨s :: before, after, rfl, List.not_mem_cons_of_ne_of_not_mem hne hbefore⟩

section
variable (h : d.Sound text) (htokens : NamesAreTokens d.root)
  (hs : s ∈ d.sitesOf functionScopeKinds) (hbody : s.node.child? .body = some body)
include h htokens hs hbody

/-- Where one name comes before another among the texts of the references, it is referred to
first. -/
theorem refersFirst_of_split {u v : String} {before after : List String}
    (hread : namesOf d (references s.node body) = .ok (before ++ u :: after)) (hv : v ∉ before) :
    RefersFirst d body u v := by
  have hall := namesOf_eq_ok.1 hread
  have hfront := namesOf_eq_ok.2 (List.forall₂_take_append _ _ _ hall)
  obtain ⟨n, rest, hn, -, hrest⟩ :=
    List.forall₂_cons_right_iff.1 (List.forall₂_drop_append _ _ _ hall)
  have hsplit := List.take_append_drop before.length (references s.node body)
  rw [hrest, references, walk_singleton] at hsplit
  obtain ⟨front, back, hbody', hfilter, hback⟩ := List.filter_eq_append_iff.1 hsplit.symm
  obtain ⟨skipped, last, rfl, hskipped, hreference, -⟩ := List.filter_eq_cons_iff.1 hback
  have hmem {m : Node} (hm : m ∈ front ++ skipped) : m ∈ body.preorder := by
    rw [hbody', ← List.append_assoc]
    exact List.mem_append_left _ hm
  refine ⟨front ++ skipped, n, last, by rw [hbody', List.append_assoc], ?_, fun m hm hrefers => ?_⟩
  · have hnbody : n ∈ body.preorder := by
      rw [hbody']
      exact List.mem_append_right _ (List.mem_append_right _ List.mem_cons_self)
    obtain ⟨hkind, hfree⟩ := (isReference_iff h htokens hs hbody hnbody).1 hreference
    exact ⟨hkind, hfree, hn⟩
  · have hlisted := (isReference_iff h htokens hs hbody (hmem hm)).2
      ⟨hrefers.isReference, hrefers.not_declared⟩
    rcases List.mem_append.1 hm with hm | hm
    · have hm : m ∈ (references s.node body).take before.length := by
        rw [references, walk_singleton, ← hfilter]
        exact List.mem_filter.2 ⟨hm, hlisted⟩
      exact hv ((mem_of_namesOf hfront).2 ⟨m, hm, hrefers.textOf_eq⟩)
    · exact hskipped m hm hlisted

/-- The names that a function can be shadowed with come in the order of their first use. -/
theorem pairwise_shadowable (hnames : shadowable d s = .ok names) :
    names.Nodup ∧ names.Pairwise (RefersFirst d body) := by
  obtain ⟨outer, -, ⟨-, rfl⟩ | ⟨own, used, -, hused, rfl⟩⟩ := shadowable_eq_ok hnames
  · exact ⟨.nil, .nil⟩
  rw [referencedNames, hbody] at hused
  cases hread : namesOf d (references s.node body) with
  | error e => simp [hread, bind, Except.bind] at hused
  | ok read =>
    simp only [hread, bind, Except.bind, pure, Except.pure, Except.ok.injEq] at hused
    subst hused
    refine ⟨(nodup_firstOccurrences read).filter _,
      ((pairwise_firstOccurrences read).imp ?_).filter _⟩
    rintro u v ⟨before, after, rfl, hv⟩
    exact refersFirst_of_split h htokens hs hbody hread hv

end

/-! ## Ways up -/

/-- The nearest node of a way up that has a property. -/
theorem exists_nearest {P : Node → Prop} {above : List Node} (h : ∃ k ∈ above, P k) :
    ∃ between k further, above = between ++ k :: further ∧ P k ∧ ∀ m ∈ between, ¬P m := by
  induction above with
  | nil => simp at h
  | cons a above ih =>
    by_cases ha : P a
    · exact ⟨[], a, above, rfl, ha, List.forall_mem_nil _⟩
    · obtain ⟨k, hk, hP⟩ := h
      have hne : k ≠ a := by
        rintro rfl
        exact ha hP
      obtain ⟨between, k, further, rfl, hP, hbetween⟩ :=
        ih ⟨k, List.mem_of_ne_of_mem hne hk, hP⟩
      exact ⟨a :: between, k, further, rfl, hP, List.forall_mem_cons.2 ⟨ha, hbetween⟩⟩

/-- An identifier opens no scope. -/
theorem not_binds_of_reference (h : referenceKinds.contains n.kind) : ¬Binds d n name := by
  have hbindings : bindings n = [] := by
    have hkind : n.kind = "identifier" ∨ n.kind = "shorthand_property_identifier" := by
      simpa [referenceKinds] using h
    rcases hkind with hkind | hkind
    · simp [bindings, hkind, functionScopeKinds, functionKinds, blockScopeKinds]
    · simp [bindings, hkind, functionScopeKinds, functionKinds, blockScopeKinds]
  rintro ⟨m, hm, -⟩
  rw [hbindings] at hm
  cases hm

/-- A name that is bound around a function, and not by it, is resolved around the function where no
scope in it binds the name, and inside of the function elsewhere. -/
theorem exists_resolvesTo (hr : ∃ between, r.above = between ++ s.node :: s.above)
    (hreference : referenceKinds.contains r.node.kind) (hbound : ∃ k ∈ s.above, Binds d k name)
    (hown : ¬Binds d s.node name) : ∃ binder, ResolvesTo d r name binder ∧
      (FreeIn d r name s ∧ Encloses binder s ∨ ¬FreeIn d r name s ∧ Encloses s binder) := by
  obtain ⟨between, habove⟩ := hr
  by_cases hinner : ∃ k ∈ between, Binds d k name
  · obtain ⟨inner, k, outer, hsplit, hk, hfirst⟩ := exists_nearest hinner
    refine ⟨⟨k, outer ++ s.node :: s.above⟩, ⟨inner, ?_, hk, hfirst⟩, .inr ⟨?_, outer, rfl⟩⟩
    · rw [habove, hsplit, List.append_assoc, List.cons_append]
    · rintro ⟨between', habove', hfree⟩
      obtain rfl := List.append_cancel_right (habove.symm.trans habove')
      obtain ⟨k, hk, hbinds⟩ := hinner
      exact hfree k (List.mem_cons_of_mem _ (List.mem_append_left _ hk)) hbinds
  · have hbetween : ∀ k ∈ between, ¬Binds d k name := fun k hk hbinds => hinner ⟨k, hk, hbinds⟩
    have hown' : ∀ k ∈ [s.node], ¬Binds d k name := List.forall_mem_singleton.2 hown
    obtain ⟨inner, k, outer, hsplit, hk, hfirst⟩ := exists_nearest hbound
    refine ⟨⟨k, outer⟩, ⟨between ++ [s.node] ++ inner, ?_, hk, ?_⟩, .inl ⟨?_, inner, hsplit⟩⟩
    · simp [habove, hsplit]
    · exact List.forall_mem_append.2 ⟨List.forall_mem_append.2 ⟨hbetween, hown'⟩, hfirst⟩
    · exact ⟨between, habove, List.forall_mem_cons.2 ⟨not_binds_of_reference hreference,
        List.forall_mem_append.2 ⟨hbetween, hown'⟩⟩⟩

/-- Where a name is resolved around a function, no scope from the reference up to the function binds
it. -/
theorem ResolvesTo.not_binds {binder : Site} {between : List Node} (h : ResolvesTo d r name binder)
    (hencloses : Encloses binder s) (habove : r.above = between ++ s.node :: s.above) :
    ∀ k ∈ between, ¬Binds d k name := by
  obtain ⟨inner, hinner, -, hfirst⟩ := h
  obtain ⟨outer, houter⟩ := hencloses
  have hsplit : inner = between ++ s.node :: outer := by
    refine List.append_cancel_right (hinner.symm.trans ?_)
    rw [habove, houter, List.append_assoc, List.cons_append]
  intro k hk
  rw [hsplit] at hfirst
  exact hfirst k (List.mem_append_left _ hk)

/-! ## A program with a function -/

/-- A token without a name of its own. -/
def tokenNode (text : String) (start : Nat) (field? : Option Field) : Node :=
  ⟨text, false, false, start, start + text.length, field?, []⟩

/-- An identifier of one letter. -/
def letterNode (start : Nat) (field? : Option Field) : Node :=
  ⟨"identifier", true, false, start, start + 1, field?, []⟩

/-- A block between braces. -/
def blockNode (start stop : Nat) (statements : List Node) : Node :=
  ⟨"statement_block", true, false, start, stop, some .body,
    tokenNode "\x7b" start none :: statements ++ [tokenNode "\x7d" (stop - 1) none]⟩

/-- A declaration of a function without parameters, whose name has one letter. -/
def functionNode (start stop : Nat) (field? : Option Field) (statements : List Node) : Node :=
  ⟨"function_declaration", true, false, start, stop, field?,
    [tokenNode "function" start none, letterNode (start + 9) (some .name),
      ⟨"formal_parameters", true, false, start + 10, start + 12, some .parameters,
        [tokenNode "(" (start + 10) none, tokenNode ")" (start + 11) none]⟩,
      blockNode (start + 13) stop statements]⟩

/-- A program that gives a variable a digit, such as `let n = 0;`, and then declares a function. -/
def programNode (stop : Nat) (statements : List Node) : Node :=
  ⟨"program", true, false, 0, stop, none,
    [⟨"lexical_declaration", true, false, 0, 10, none,
      [tokenNode "let" 0 (some .kind),
        ⟨"variable_declarator", true, false, 4, 9, none,
          [letterNode 4 (some .name), tokenNode "=" 6 none,
            ⟨"number", true, false, 8, 9, some .value, []⟩]⟩,
        tokenNode ";" 9 none]⟩,
      functionNode 11 stop none statements]⟩

/-- A parser that takes every text for such a program. -/
def programParser (text : String) (statements : List Node) : Parser := fun _ _ =>
  programNode text.length statements

/-- The draft of such a program. -/
def programDraft (text : String) (statements : List Node) : Draft :=
  Draft.ofSource (programParser text statements) .tsx none (Bytes.ofString text)

/-- The function in it. -/
def functionSite (text : String) (statements : List Node) : Site :=
  ⟨functionNode 11 text.length none statements, [programNode text.length statements]⟩

/-- The function is one of the draft. -/
theorem functionSite_mem (text : String) (statements : List Node) {kinds : List String}
    (hkinds : kinds.contains "function_declaration") :
    functionSite text statements ∈ (programDraft text statements).sitesOf kinds :=
  List.mem_filter.2 ⟨Site.mem_walk_down (Site.mem_walk_of_mem (List.mem_singleton_self _))
    (List.mem_cons_of_mem _ List.mem_cons_self), hkinds⟩

/-! ## Captured names -/

/-- A function with a name that it can be shadowed with has a body. -/
theorem exists_body (hnames : shadowable d s = .ok names) (hname : name ∈ names) :
    ∃ body, s.node.child? .body = some body := by
  obtain ⟨outer, -, ⟨-, rfl⟩ | ⟨own, used, -, hused, rfl⟩⟩ := shadowable_eq_ok hnames
  · cases hname
  rw [referencedNames] at hused
  split at hused
  · cases hused
    cases hname
  · next body hbody => exact ⟨body, hbody⟩

/-- The names that a function can be shadowed with are complete: each name that a reference in the
body takes from around the function is among them. Each is there once, and they come in the order of
their first use. -/
theorem shadowable_complete {body : Site}
    (h : d.Sound text) (htokens : NamesAreTokens d.root) (hs : s ∈ d.sitesOf functionScopeKinds)
    (hbody : s.child? .body = some body) :
    ∃ names, shadowable d s = .ok names ∧
      (∀ r ∈ Site.walk [body], ∀ name, Refers d r.node name → FreeIn d r name s →
        (∃ k ∈ s.above, Binds d k name) → name ∈ names) ∧
      names.Nodup ∧ names.Pairwise (RefersFirst d body.node) := by
  obtain ⟨c, hc, rfl⟩ := Option.map_eq_some_iff.1 hbody
  obtain ⟨names, hnames, -⟩ := h.shadowable (within_function hs).1
  refine ⟨names, hnames, fun r hr name hrefers hfree hbound => ?_,
    pairwise_shadowable h htokens hs hc hnames⟩
  obtain ⟨between, -, hfree⟩ := hfree
  refine (mem_shadowable h htokens hs hc hnames).2 ⟨hbound, ?_, r.node, ?_, hrefers⟩
  · exact hfree s.node (List.mem_cons_of_mem _ (List.mem_append_right _ List.mem_cons_self))
  · exact Site.mem_preorder_iff_walk.2 ⟨r, hr, rfl⟩

/-- The text of a function that reads a name from around it. -/
def readText : String := "let n = 0; function f() \x7b n \x7d"

/-- The statement that reads the name. -/
def readStatement : Node :=
  ⟨"expression_statement", true, false, 26, 27, none, [letterNode 26 none]⟩

/-- The draft of this function. -/
def readDraft : Draft :=
  programDraft readText [readStatement]

/-- The body of this function. -/
def readBody : Site :=
  (functionSite readText [readStatement]).down (blockNode 24 29 [readStatement])

/-- The name that is read from around the function is listed. -/
theorem shadowable_complete_readDraft : readDraft.Sound readText ∧ NamesAreTokens readDraft.root ∧
    ∃ names, shadowable readDraft (functionSite readText [readStatement]) = .ok names ∧
      "n" ∈ names ∧ names.Nodup := by
  have hsound : readDraft.Sound readText := ⟨rfl, by decide +kernel⟩
  have htokens : NamesAreTokens readDraft.root := by decide +kernel
  have hfunction : functionSite readText [readStatement] ∈ readDraft.sitesOf functionScopeKinds :=
    functionSite_mem _ _ rfl
  have hbody : (functionSite readText [readStatement]).child? .body = some readBody := rfl
  have hstatement : readStatement ∈ readBody.node.children :=
    List.mem_cons_of_mem _ List.mem_cons_self
  have hletter : letterNode 26 none ∈ readStatement.children := List.mem_cons_self
  obtain ⟨names, hnames, hcomplete, hnodup, -⟩ :=
    shadowable_complete hsound htokens hfunction hbody
  have hread : (readBody.down readStatement).down (letterNode 26 none) ∈ Site.walk [readBody] :=
    Site.mem_walk_down (Site.mem_walk_down (Site.mem_walk_of_mem (List.mem_singleton_self _))
      hstatement) hletter
  have hrefers : Refers readDraft (letterNode 26 none) "n" := by
    refine ⟨rfl, fun hdeclared => ?_, toOption_eq_some.1 (by decide +kernel)⟩
    have hplace := (((within_function hfunction).1.child? hbody).down hstatement).down hletter
    have hkey := (key_mem_declaringKeys hsound.wellFormed htokens readDraft.root.self_mem_preorder
      hplace.mem_preorder.1 rfl).2 hdeclared
    revert hkey
    decide +kernel
  have hfree : FreeIn readDraft ((readBody.down readStatement).down (letterNode 26 none)) "n"
      (functionSite readText [readStatement]) :=
    ⟨[readStatement, readBody.node], rfl, by decide +kernel⟩
  exact ⟨hsound, htokens, names, hnames, hcomplete _ hread "n" hrefers hfree
    ⟨_, List.mem_singleton_self _, by decide +kernel⟩, hnodup⟩

/-- A name that a function can be shadowed with is referred to in its body. Each reference to it is
resolved around the function where no scope inside binds the name, and at a scope inside the
function elsewhere. -/
theorem shadowable_resolves
    (h : d.Sound text) (htokens : NamesAreTokens d.root) (hs : s ∈ d.sitesOf functionScopeKinds)
    (hnames : shadowable d s = .ok names) (hname : name ∈ names) :
    ∃ body, s.child? .body = some body ∧ (∃ r ∈ Site.walk [body], Refers d r.node name) ∧
      ∀ r ∈ Site.walk [body], Refers d r.node name → ∃ binder, ResolvesTo d r name binder ∧
        (FreeIn d r name s ∧ Encloses binder s ∨ ¬FreeIn d r name s ∧ Encloses s binder) := by
  obtain ⟨body, hbody⟩ := exists_body hnames hname
  obtain ⟨hbound, hown, n, hn, hrefers⟩ := (mem_shadowable h htokens hs hbody hnames).1 hname
  have hsite : s.child? .body = some (s.down body) := Option.map_eq_some_iff.2 ⟨body, hbody, rfl⟩
  refine ⟨s.down body, hsite, ?_, fun r hr hrefers => ?_⟩
  · obtain ⟨r, hr, rfl⟩ := (Site.mem_preorder_iff_walk (t := s.down body)).1 hn
    exact ⟨r, hr, hrefers⟩
  · exact exists_resolvesTo (Site.above_of_mem_walk r hr) hrefers.isReference hbound hown

/-- The text of a function with a loop that binds the name again. -/
def loopText : String := "let n = 0; function f() \x7b for (const n of x) \x7b n \x7d \x7d"

/-- The loop. -/
def loopStatement : Node :=
  ⟨"for_in_statement", true, false, 26, 50, none,
    [tokenNode "for" 26 none, tokenNode "(" 30 none, tokenNode "const" 31 (some .kind),
      letterNode 37 (some .left), tokenNode "of" 39 (some .operator),
      letterNode 42 (some .right), tokenNode ")" 43 none,
      blockNode 45 50 [⟨"expression_statement", true, false, 47, 48, none, [letterNode 47 none]⟩]]⟩

/-- The draft of this function. -/
def loopDraft : Draft :=
  programDraft loopText [loopStatement]

/-- The function with the loop. -/
def loopSite : Site :=
  functionSite loopText [loopStatement]

/-- The draft is sound. -/
theorem sound_loopDraft : loopDraft.Sound loopText :=
  ⟨rfl, by decide +kernel⟩

/-- The name that the loop binds is listed. -/
theorem shadowable_loopSite : shadowable loopDraft loopSite = .ok ["n"] :=
  toOption_eq_some.1 (by decide +kernel)

/-- Each identifier in the body that is spelled like the name has the loop between itself and the
function. -/
theorem loopSite_binds {body : Site} (hbody : loopSite.child? .body = some body) :
    ∀ r ∈ Site.walk [body], (loopDraft.textOf r.node).toOption = some "n" →
      ∃ k ∈ r.above.take (r.above.length - 2), Binds loopDraft k "n" := by
  cases hbody
  decide +kernel

/-- The references to the name are resolved at the loop. -/
theorem shadowable_resolves_loopDraft : loopDraft.Sound loopText ∧ NamesAreTokens loopDraft.root ∧
    ∃ body, loopSite.child? .body = some body ∧
      (∃ r ∈ Site.walk [body], Refers loopDraft r.node "n") ∧
      ∀ r ∈ Site.walk [body], Refers loopDraft r.node "n" →
        ∃ binder, ResolvesTo loopDraft r "n" binder ∧
          (FreeIn loopDraft r "n" loopSite ∧ Encloses binder loopSite ∨
            ¬FreeIn loopDraft r "n" loopSite ∧ Encloses loopSite binder) := by
  have htokens : NamesAreTokens loopDraft.root := by decide +kernel
  exact ⟨sound_loopDraft, htokens, shadowable_resolves sound_loopDraft htokens
    (functionSite_mem _ _ rfl) shadowable_loopSite (List.mem_singleton_self _)⟩

/-- The name is listed though no reference in the body is resolved around the function: the loop
binds it again. -/
theorem shadowable_loopDraft : loopDraft.Sound loopText ∧
    ∃ s ∈ loopDraft.sitesOf functionScopeKinds, shadowable loopDraft s = .ok ["n"] ∧
      ¬∃ body, s.child? .body = some body ∧ ∃ r ∈ Site.walk [body], Refers loopDraft r.node "n" ∧
        ∃ binder, ResolvesTo loopDraft r "n" binder ∧ Encloses binder s := by
  refine ⟨sound_loopDraft, loopSite, functionSite_mem _ _ rfl, shadowable_loopSite, ?_⟩
  rintro ⟨body, hbody, r, hr, hrefers, binder, hresolves, hencloses⟩
  obtain ⟨k, hk, hbinds⟩ := loopSite_binds hbody r hr (toOption_eq_some.2 hrefers.textOf_eq)
  obtain ⟨c, -, rfl⟩ := Option.map_eq_some_iff.1 hbody
  obtain ⟨between, habove⟩ := Site.above_of_mem_walk r hr
  have hlength : r.above.length - 2 = between.length := by
    rw [habove, List.length_append]
    rfl
  rw [hlength, habove, List.take_left] at hk
  exact hresolves.not_binds hencloses habove k hk hbinds

end Sabotage.Scope
