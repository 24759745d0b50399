import Sabotage.Proofs.Captures
import Sabotage.Proofs.RulePlans

/-!
# Redeclarations

The rule that shadows a name opens the body of a function with a `let` of it. The language refuses
a body that declares this name once more: as a parameter, by a statement at the top of the body,
labelled or not, or by a `var` anywhere in the function (`Scope.Declares`). The parser does not see
such a fault.

The name is none of those that the function binds. So where it is declared once more, spelled the
same, that is done by a statement under a label, which is not looked at, or by the name `undefined`
in a pattern, whose node is no identifier (`Scope.shadows_fresh`). A label does lead to a
redeclaration (`Scope.shadows_labelDraft`).
-/

namespace Sabotage.Scope

open Node

/-! ## What the language declares -/

/-- Nodes that stand for a name in a pattern. The name `undefined` has a kind of its own. -/
def bindingNameKinds : List String :=
  ["identifier", "shorthand_property_identifier_pattern", "undefined"]

/-- The names that a pattern or a parameter list binds. Neither the keys of properties nor default
values bind any. -/
inductive PatternBinds : Node → Node → Prop
  | name {n : Node} : n.kind ∈ bindingNameKinds → PatternBinds n n
  | part {p c n : Node} :
      p.kind ∈ ["formal_parameters", "object_pattern", "array_pattern", "rest_pattern"] →
      c ∈ p.content → PatternBinds c n → PatternBinds p n
  | property {p c n : Node} : p.kind = "pair_pattern" → p.child? .value = some c →
      PatternBinds c n → PatternBinds p n
  | defaulted {p c n : Node} : p.kind ∈ ["assignment_pattern", "object_assignment_pattern"] →
      p.child? .left = some c → PatternBinds c n → PatternBinds p n
  | parameter {p c n : Node} : p.kind ∈ ["required_parameter", "optional_parameter"] →
      p.child? .pattern = some c → PatternBinds c n → PatternBinds p n

/-- The names that the declarators of a declaration bind. -/
def DeclaratorsBind (declaration n : Node) : Prop :=
  ∃ c ∈ declaration.content, c.kind = "variable_declarator" ∧
    ∃ p, c.child? .name = some p ∧ PatternBinds p n

/-- The names that a statement without labels declares in the block around it, those of `var`
apart. -/
inductive StatementDeclares (t : Node) : Node → Prop
  | lexical {n : Node} : t.kind = "lexical_declaration" → DeclaratorsBind t n →
      StatementDeclares t n
  | named {n : Node} : t.kind ∈ ["function_declaration", "generator_function_declaration",
        "class_declaration", "abstract_class_declaration", "enum_declaration"] →
      t.child? .name = some n → StatementDeclares t n

/-- The statement that labels stand before. -/
inductive Labels : Node → Node → Prop
  | one {l t : Node} : l.kind = "labeled_statement" → l.child? .body = some t → Labels l t
  | more {l m t : Node} : l.kind = "labeled_statement" → l.child? .body = some m → Labels m t →
      Labels l t

/-- The names declared at the top of a body by statements under labels. -/
def DeclaredUnderLabel (body n : Node) : Prop :=
  ∃ l ∈ body.content, ∃ t, Labels l t ∧ StatementDeclares t n

/-- The names that a function declares in the scope at the top of its body. -/
inductive Declares (f body : Node) : Node → Prop
  | parameter {p n : Node} : f.child? .parameters = some p ∨ f.child? .parameter = some p →
      PatternBinds p n → Declares f body n
  | statement {t n : Node} : t ∈ body.content → StatementDeclares t n → Declares f body n
  | labelled {n : Node} : DeclaredUnderLabel body n → Declares f body n
  | hoisted {k n : Node} : Local body k → k.kind = "variable_declaration" → DeclaratorsBind k n →
      Declares f body n
  | loop {k v p n : Node} : Local body k → k.kind = "for_in_statement" → k.child? .kind = some v →
      v.kind = "var" → k.child? .left = some p → PatternBinds p n → Declares f body n

variable {d d' : Draft} {name : String} {names : List String} {body c f k m n p t : Node} {s : Site}
  {field : Field}

/-! ## What a function binds -/

/-- A wrapping pattern binds what the pattern in its field binds. -/
theorem mem_ofPattern_of_field (hfield : patternField? p.kind = some field)
    (hc : p.child? field = some c) (hn : n ∈ ofPattern c) : n ∈ ofPattern p := by
  have hnone : ∀ kind ∈ ["identifier", "shorthand_property_identifier_pattern"]
      ++ compoundPatternKinds, patternField? kind = none := by decide
  have hother : p.kind ∉ ["identifier", "shorthand_property_identifier_pattern"]
      ++ compoundPatternKinds := fun hmem => by
    rw [hnone _ hmem] at hfield
    cases hfield
  rw [List.mem_append, not_or] at hother
  rw [ofPattern_eq, if_neg (by simpa using hother.1), if_neg (by simpa using hother.2), hfield]
  simpa only [ofField, hc] using hn

/-- The names that a pattern binds are found, but for `undefined`. -/
theorem PatternBinds.mem_ofPattern (h : PatternBinds p n) (hn : n.kind ≠ "undefined") :
    n ∈ ofPattern p := by
  induction h with
  | @name n hkind =>
    have hname : n.kind = "identifier" ∨ n.kind = "shorthand_property_identifier_pattern" := by
      simpa [bindingNameKinds, hn] using hkind
    rw [ofPattern_eq, if_pos hname]
    exact List.mem_singleton_self _
  | part hkind hc _ ih =>
    have hcompound : ∀ kind ∈ ["formal_parameters", "object_pattern", "array_pattern",
        "rest_pattern"], ¬(kind = "identifier" ∨ kind = "shorthand_property_identifier_pattern") ∧
          compoundPatternKinds.contains kind := by decide
    rw [ofPattern_eq, if_neg (hcompound _ hkind).1, if_pos (hcompound _ hkind).2]
    exact List.mem_flatMap.2 ⟨_, hc, ih hn⟩
  | property hkind hc _ ih =>
    exact mem_ofPattern_of_field (by rw [hkind, patternField?]) hc (ih hn)
  | defaulted hkind hc _ ih =>
    have hleft : ∀ kind ∈ ["assignment_pattern", "object_assignment_pattern"],
        patternField? kind = some .left := by decide
    exact mem_ofPattern_of_field (hleft _ hkind) hc (ih hn)
  | parameter hkind hc _ ih =>
    have hpattern : ∀ kind ∈ ["required_parameter", "optional_parameter"],
        patternField? kind = some .pattern := by decide
    exact mem_ofPattern_of_field (hpattern _ hkind) hc (ih hn)

/-- The names that the pattern in a field binds are found. -/
theorem PatternBinds.mem_ofField (h : PatternBinds p n) (hn : n.kind ≠ "undefined")
    (hp : k.child? field = some p) : n ∈ ofField field k := by
  rw [ofField, hp]
  exact h.mem_ofPattern hn

/-- The names that declarators bind are found. -/
theorem DeclaratorsBind.mem_ofDeclarators (h : DeclaratorsBind k n) (hn : n.kind ≠ "undefined") :
    n ∈ ofDeclarators k := by
  obtain ⟨c, hc, hkind, p, hp, hbinds⟩ := h
  refine List.mem_flatMap.2 ⟨c, hc, ?_⟩
  rw [if_pos hkind]
  exact hbinds.mem_ofField hn hp

/-- The names that a statement without labels declares are found. -/
theorem StatementDeclares.mem_ofStatement (h : StatementDeclares t n) (hn : n.kind ≠ "undefined") :
    n ∈ ofStatement t := by
  cases h with
  | lexical hkind hbinds =>
    rw [ofStatement_eq, if_pos (.inl hkind)]
    exact hbinds.mem_ofDeclarators hn
  | named hkind hname =>
    have hnamed : ∀ kind ∈ namedDeclarationKinds,
        ¬(kind = "lexical_declaration" ∨ kind = "variable_declaration") := by decide
    have hcontains : namedDeclarationKinds.contains t.kind := List.contains_iff_mem.2 hkind
    rw [ofStatement_eq, if_neg (hnamed _ hkind), if_pos hcontains, hname]
    exact List.mem_singleton_self _

/-- The names of `var` declarations are found below a body. -/
theorem mem_ofHoisted (hk : Local body k)
    (h : k.kind = "variable_declaration" ∧ n ∈ ofDeclarators k ∨ k.kind = "for_in_statement" ∧
      (∃ v, k.child? .kind = some v ∧ v.kind = "var") ∧ n ∈ ofField .left k) :
    n ∈ ofHoisted body := by
  refine List.mem_flatMap.2 ⟨k, mem_walkLocal.2 hk, ?_⟩
  rcases h with ⟨hkind, hn⟩ | ⟨hkind, ⟨v, hv, hvar⟩, hn⟩
  · rwa [if_pos hkind]
  · simpa only [if_neg (hkind ▸ by decide : k.kind ≠ "variable_declaration"), if_pos hkind, hv,
      if_pos hvar] using hn

/-- Functions open the scope of a function. -/
theorem bindings_of_function (hkind : functionKinds.contains f.kind) :
    bindings f = ofFunction f := by
  have hscope : ∀ kind ∈ functionKinds, kind ≠ "program" ∧ functionScopeKinds.contains kind := by
    decide
  obtain ⟨hprogram, hfunction⟩ := hscope _ (List.contains_iff_mem.1 hkind)
  rw [bindings, if_neg hprogram, if_pos hfunction]

/-- A function binds what it declares in the scope at the top of its body, but for what is declared
under a label or stands for `undefined`. -/
theorem Declares.mem_bindings (h : Declares f body n) (hkind : functionKinds.contains f.kind)
    (hbody : f.child? .body = some body) (hblock : body.kind = "statement_block")
    (hn : n.kind ≠ "undefined") (hlabel : ¬DeclaredUnderLabel body n) : n ∈ bindings f := by
  rw [bindings_of_function hkind, ofFunction, hbody]
  simp only [if_pos hblock, List.mem_append]
  cases h with
  | parameter hp hbinds =>
    rcases hp with hp | hp
    · exact .inl (.inl (.inr (hbinds.mem_ofField hn hp)))
    · exact .inl (.inr (hbinds.mem_ofField hn hp))
  | statement ht hdeclares =>
    exact .inr (.inl (List.mem_flatMap.2 ⟨_, ht, hdeclares.mem_ofStatement hn⟩))
  | labelled h => exact absurd h hlabel
  | hoisted hk hkind hbinds =>
    exact .inr (.inr (mem_ofHoisted hk (.inl ⟨hkind, hbinds.mem_ofDeclarators hn⟩)))
  | loop hk hkind hv hvar hp hbinds =>
    exact .inr (.inr (mem_ofHoisted hk (.inr ⟨hkind, ⟨_, hv, hvar⟩, hbinds.mem_ofField hn hp⟩)))

/-! ## The rewrite -/

/-- A draft becomes another by a declaration of a name at the top of the body of a function, the
first name that the function can be shadowed with. -/
structure Shadows (d d' : Draft) (s : Site) (body : Node) (name : String) : Prop where
  mem_sites : s ∈ d.sitesOf functionKinds
  body_eq : s.node.child? .body = some body
  isBlock : body.kind = "statement_block"
  isFirst : ∃ rest, shadowable d s = .ok (name :: rest)
  rewrites : ∃ e, Rule.Opens body ("let " ++ name ++ " = null;") e ∧
    Edit.applyAll [e] d.source = .ok d'.source

/-- A name that a function can be shadowed with is not bound by it. -/
theorem not_binds_of_mem_shadowable (hnames : shadowable d s = .ok names) (hname : name ∈ names) :
    ¬Binds d s.node name := by
  obtain ⟨outer, -, ⟨-, rfl⟩ | ⟨own, used, hown, -, rfl⟩⟩ := shadowable_eq_ok hnames
  · cases hname
  · rw [← mem_of_boundNames hown]
    simp only [List.mem_filter, Bool.and_eq_true, Bool.not_eq_true', Bool.eq_false_iff, ne_eq,
      List.contains_iff_mem] at hname
    exact hname.2.2

/-- The name that a function is shadowed with is not declared, as it is spelled, in the scope that
its declaration joins, but for a statement under a label and the name `undefined`. -/
theorem shadows_fresh {parser : Parser}
    (h : BugKind.apply parser .scopeGaslighting d = .ok (true, d')) :
    ∃ s body name, Shadows d d' s body name ∧ ∀ n, Declares s.node body n →
      d.textOf n = .ok name → n.kind = "undefined" ∨ DeclaredUnderLabel body n := by
  obtain ⟨plan, hplan, hsplice⟩ := BugKind.exists_plan h
  obtain ⟨s, body, name, rest, e, hs, hbody, hblock, hnames, hopens, rfl⟩ :=
    Draft.findShadow_opens _ hplan plan rfl
  refine ⟨s, body, name, ⟨hs, hbody, hblock, ⟨rest, hnames⟩, e, hopens,
    Draft.applyAll_of_splice hsplice⟩, fun n hdeclares hname => ?_⟩
  by_cases hundefined : n.kind = "undefined"
  · exact .inl hundefined
  by_cases hlabel : DeclaredUnderLabel body n
  · exact .inr hlabel
  have hkind : functionKinds.contains s.node.kind := (List.mem_filter.1 hs).2
  have hbound := hdeclares.mem_bindings hkind hbody hblock hundefined hlabel
  exact absurd ⟨n, hbound, hname⟩ (not_binds_of_mem_shadowable hnames List.mem_cons_self)

/-- A function that reads a name from around it is shadowed with this name. -/
theorem shadows_fresh_readDraft : ∃ d',
    BugKind.apply (programParser readText [readStatement]) .scopeGaslighting readDraft =
      .ok (true, d') ∧
    ∃ s body name, Shadows readDraft d' s body name ∧ ∀ n, Declares s.node body n →
      readDraft.textOf n = .ok name → n.kind = "undefined" ∨ DeclaredUnderLabel body n := by
  have hchanged : (BugKind.apply (programParser readText [readStatement]) .scopeGaslighting
      readDraft).toOption.map Prod.fst = some true := by decide +kernel
  obtain ⟨⟨changed, d'⟩, happly, rfl⟩ := Option.map_eq_some_iff.1 hchanged
  have happly := toOption_eq_some.1 happly
  exact ⟨d', happly, shadows_fresh happly⟩

/-! ## A function under a label -/

/-- The text of a function with a labelled one in its body. -/
def labelText : String :=
  "let n = 0; function f() \x7b a: function n() \x7b\x7d n; \x7d"

/-- The labelled function. -/
def labelledNode : Node :=
  functionNode 29 44 (some .body) []

/-- Its statement. -/
def labelStatement : Node :=
  ⟨"labeled_statement", true, false, 26, 44, none,
    [⟨"statement_identifier", true, false, 26, 27, none, []⟩, tokenNode ":" 27 none, labelledNode]⟩

/-- The statements of the body. -/
def labelStatements : List Node :=
  [labelStatement, ⟨"expression_statement", true, false, 45, 47, none,
    [letterNode 45 none, tokenNode ";" 46 none]⟩]

/-- The draft of this function. -/
def labelDraft : Draft :=
  programDraft labelText labelStatements

/-- The name of a function under a label is declared once more. -/
theorem shadows_labelDraft : labelDraft.Sound labelText ∧ ∃ d' s body n,
    BugKind.apply (programParser labelText labelStatements) .scopeGaslighting labelDraft =
      .ok (true, d') ∧
    d'.source = Bytes.ofString
      "let n = 0; function f() \x7b let n = null; a: function n() \x7b\x7d n; \x7d" ∧
    Shadows labelDraft d' s body "n" ∧ Declares s.node body n ∧ labelDraft.textOf n = .ok "n" := by
  have hchanged : (BugKind.apply (programParser labelText labelStatements) .scopeGaslighting
      labelDraft).toOption.map (fun answer => (answer.1, answer.2.source)) = some (true,
        Bytes.ofString
          "let n = 0; function f() \x7b let n = null; a: function n() \x7b\x7d n; \x7d") := by
    decide +kernel
  obtain ⟨⟨changed, d'⟩, happly, hanswer⟩ := Option.map_eq_some_iff.1 hchanged
  obtain ⟨rfl, hsource⟩ := Prod.mk.inj hanswer
  have hnames : shadowable labelDraft (functionSite labelText labelStatements) = .ok ["n"] :=
    toOption_eq_some.1 (by decide +kernel)
  have hedit :
      Edit.applyAll [.insertion 25 " let n = null;"] labelDraft.source = .ok d'.source := by
    rw [hsource]
    exact toOption_eq_some.1 (by decide +kernel)
  have hlabel : DeclaredUnderLabel (blockNode 24 49 labelStatements) (letterNode 38 (some .name)) :=
    ⟨labelStatement, List.mem_cons_self, labelledNode, .one rfl rfl, .named (by decide) rfl⟩
  exact ⟨⟨rfl, by decide +kernel⟩, d', functionSite labelText labelStatements,
    blockNode 24 49 labelStatements, letterNode 38 (some .name), toOption_eq_some.1 happly, hsource,
    ⟨functionSite_mem _ _ rfl, rfl, rfl, ⟨[], hnames⟩, _, .inl rfl, hedit⟩, .labelled hlabel,
    toOption_eq_some.1 (by decide +kernel)⟩

end Sabotage.Scope
