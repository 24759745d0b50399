import Sabotage.Syntax.Node

/-!
# Bindings

Which identifiers a scope binds. Scopes are the program, functions and methods (parameters, hoisted
`var`, the declarations of the body), blocks and switch cases (their declarations), the heads of
`for` loops and `catch` clauses. This approximates the scoping of the language: a name that is
never declared in the text is bound nowhere.
-/

namespace Sabotage.Scope

/-- Functions that a shadowing declaration can be put into. -/
def functionKinds : List String :=
  ["function_declaration", "generator_function_declaration", "function_expression", "function",
    "generator_function", "arrow_function"]

/-- What opens the scope of a function, methods included. -/
def functionScopeKinds : List String :=
  functionKinds ++ ["method_definition"]

/-- What opens the scope of a block. -/
def blockScopeKinds : List String :=
  ["statement_block", "class_static_block", "switch_case", "switch_default"]

/-- What refers to a name. -/
def referenceKinds : List String :=
  ["identifier", "shorthand_property_identifier"]

/-- Declarations whose `name` is bound in the block around them. -/
def namedDeclarationKinds : List String :=
  ["function_declaration", "generator_function_declaration", "class_declaration",
    "abstract_class_declaration", "enum_declaration"]

/-- Patterns that bind what their parts bind. -/
def compoundPatternKinds : List String :=
  ["object_pattern", "array_pattern", "formal_parameters", "rest_pattern"]

/-- The field of a wrapping pattern that holds the pattern itself. -/
def patternField? : String → Option Field
  | "pair_pattern" => some .value
  | "assignment_pattern" | "object_assignment_pattern" => some .left
  | "required_parameter" | "optional_parameter" => some .pattern
  | _ => none

mutual
/-- The identifiers a pattern or a parameter list binds. -/
def ofPattern : Node → List Node
  | n@⟨kind, _, _, _, _, _, children⟩ =>
    if kind = "identifier" ∨ kind = "shorthand_property_identifier_pattern" then [n]
    else if compoundPatternKinds.contains kind then ofPatterns children
    else
      match patternField? kind with
      | some f => ofPatternField f children
      | none => []

/-- The identifiers that the named parts among the children bind. -/
def ofPatterns : List Node → List Node
  | [] => []
  | n :: ns => if n.isContent then ofPattern n ++ ofPatterns ns else ofPatterns ns

/-- The identifiers that the child filling a field binds. -/
def ofPatternField (f : Field) : List Node → List Node
  | [] => []
  | n :: ns => if n.field? == some f then ofPattern n else ofPatternField f ns
end

/-- The identifiers bound by the pattern in a field, if there is one. -/
def ofField (f : Field) (n : Node) : List Node :=
  match n.child? f with
  | some c => ofPattern c
  | none => []

/-- The named parts bind what each of them binds. -/
theorem ofPatterns_eq (ns : List Node) :
    ofPatterns ns = (ns.filter Node.isContent).flatMap ofPattern := by
  induction ns with
  | nil => rfl
  | cons n ns ih =>
    rw [ofPatterns, ih, List.filter_cons]
    split <;> simp

/-- The child filling a field is the first one with its label. -/
theorem ofPatternField_eq (f : Field) (n : Node) : ofPatternField f n.children = ofField f n := by
  rw [ofField, Node.child?]
  induction n.children with
  | nil => rfl
  | cons c cs ih =>
    rw [ofPatternField, List.find?_cons, ih]
    cases c.field? == some f <;> rfl

/-- What a pattern binds, by its parts. -/
theorem ofPattern_eq (n : Node) : ofPattern n =
    if n.kind = "identifier" ∨ n.kind = "shorthand_property_identifier_pattern" then [n]
    else if compoundPatternKinds.contains n.kind then n.content.flatMap ofPattern
    else
      match patternField? n.kind with
      | some f => ofField f n
      | none => [] := by
  cases n
  simp only [ofPattern, ofPatterns_eq, Node.content, ← ofPatternField_eq]

/-- The identifiers the declarators of a declaration bind. -/
def ofDeclarators (declaration : Node) : List Node :=
  declaration.content.flatMap fun c =>
    if c.kind = "variable_declarator" then ofField .name c else []

/-- The local name of an import specifier, when it is an identifier. -/
def ofImportSpecifier (spec : Node) : List Node :=
  if spec.kind = "import_specifier" then
    match (spec.child? .alias).or (spec.child? .name) with
    | some c => if c.kind = "identifier" then [c] else []
    | none => []
  else []

/-- The identifiers a part of an import clause binds. -/
def ofImportPart (part : Node) : List Node :=
  if part.kind = "identifier" then [part]
  else if part.kind = "namespace_import" then part.content.filter (·.kind == "identifier")
  else if part.kind = "named_imports" then part.content.flatMap ofImportSpecifier
  else []

/-- The identifiers an import statement binds. -/
def ofImport (statement : Node) : List Node :=
  statement.content.flatMap fun clause =>
    if clause.kind = "import_clause" then clause.content.flatMap ofImportPart else []

mutual
/-- The identifiers a statement declares in the block that holds it. -/
def ofStatement : Node → List Node
  | n@⟨kind, _, _, _, _, _, children⟩ =>
    if kind = "lexical_declaration" ∨ kind = "variable_declaration" then ofDeclarators n
    else if namedDeclarationKinds.contains kind then (n.child? .name).toList
    else if kind = "export_statement" then ofExported children
    else if kind = "import_statement" then ofImport n
    else []

/-- The identifiers that the declaration of an export statement declares. -/
def ofExported : List Node → List Node
  | [] => []
  | n :: ns => if n.field? == some .declaration then ofStatement n else ofExported ns
end

/-- An export statement declares what its declaration declares. -/
theorem ofExported_eq (n : Node) : ofExported n.children =
    match n.child? .declaration with
    | some c => ofStatement c
    | none => [] := by
  rw [Node.child?]
  induction n.children with
  | nil => rfl
  | cons c cs ih =>
    rw [ofExported, List.find?_cons, ih]
    cases c.field? == some Field.declaration <;> rfl

/-- What a statement declares, by its parts. -/
theorem ofStatement_eq (n : Node) : ofStatement n =
    if n.kind = "lexical_declaration" ∨ n.kind = "variable_declaration" then ofDeclarators n
    else if namedDeclarationKinds.contains n.kind then (n.child? .name).toList
    else if n.kind = "export_statement" then
      match n.child? .declaration with
      | some c => ofStatement c
      | none => []
    else if n.kind = "import_statement" then ofImport n
    else [] := by
  rw [← ofExported_eq]
  cases n
  simp only [ofStatement]

/-- The children of a node that belong to the same function; none below a function's scope. -/
def localChildren (n : Node) : List Node :=
  if functionScopeKinds.contains n.kind then [] else n.children

/-- The children left out make no tree larger. -/
theorem countAll_localChildren_le (n : Node) :
    Node.countAll (localChildren n) ≤ Node.countAll n.children := by
  simp only [localChildren]
  split <;> simp [Node.countAll]

/-- Visits the nodes of a worklist and what is below them, but nothing below a function's scope. -/
def walkLocal : List Node → List Node
  | [] => []
  | n :: rest => n :: walkLocal (localChildren n ++ rest)
termination_by ns => Node.countAll ns
decreasing_by
  have := countAll_localChildren_le n
  simp only [Node.countAll_append, Node.countAll, Node.count_eq]
  omega

mutual
/-- A node and what is below it, but nothing below a function's scope, in source order. -/
def localPreorder : Node → List Node
  | n@⟨kind, _, _, _, _, _, children⟩ =>
    n :: (if functionScopeKinds.contains kind then [] else localPreorderAll children)

/-- `localPreorder` of the trees of a list in order. -/
def localPreorderAll : List Node → List Node
  | [] => []
  | n :: ns => localPreorder n ++ localPreorderAll ns
end

/-- The local order by children. -/
theorem localPreorder_eq (n : Node) :
    localPreorder n = n :: localPreorderAll (localChildren n) := by
  cases n
  simp only [localPreorder, localChildren]
  split <;> simp [localPreorderAll]

/-- The local order goes through appended lists. -/
@[simp] theorem localPreorderAll_append (ms ns : List Node) :
    localPreorderAll (ms ++ ns) = localPreorderAll ms ++ localPreorderAll ns := by
  induction ms with
  | nil => simp [localPreorderAll]
  | cons m ms ih => simp [localPreorderAll, ih]

/-- The worklist visits the trees in the local order. -/
theorem walkLocal_eq_localPreorderAll (ns : List Node) : walkLocal ns = localPreorderAll ns := by
  fun_induction walkLocal ns with
  | case1 => rfl
  | case2 n rest ih => simp [ih, localPreorderAll, localPreorder_eq]

/-- The identifiers that `var` declarations below a node bind, nested functions left out. -/
def ofHoisted (body : Node) : List Node :=
  (walkLocal body.children).flatMap fun n =>
    if n.kind = "variable_declaration" then ofDeclarators n
    else if n.kind = "for_in_statement" then
      match n.child? .kind with
      | some k => if k.kind = "var" then ofField .left n else []
      | none => []
    else []

/-- The identifiers that the statements of a block declare. -/
def ofBlock (block : Node) : List Node :=
  block.content.flatMap ofStatement

/-- Functions whose own name is bound inside them. -/
def selfNamedKinds : List String :=
  ["function_expression", "function", "generator_function"]

/-- The identifiers that the scope of a function binds. -/
def ofFunction (f : Node) : List Node :=
  (if selfNamedKinds.contains f.kind then (f.child? .name).toList else [])
    ++ ofField .parameters f ++ ofField .parameter f
    ++ match f.child? .body with
      | some body => if body.kind = "statement_block" then ofBlock body ++ ofHoisted body else []
      | none => []

/-- The identifiers that the head of a counting loop binds. -/
def ofForHead (loop : Node) : List Node :=
  match loop.child? .initializer with
  | some i => if i.kind = "lexical_declaration" then ofDeclarators i else []
  | none => []

/-- The identifiers that the head of a loop over a collection binds. -/
def ofForInHead (loop : Node) : List Node :=
  match loop.child? .kind with
  | some k => if k.kind = "let" ∨ k.kind = "const" then ofField .left loop else []
  | none => []

/-- The identifiers whose binding lives in the scope that a node opens; none when it opens none. -/
def bindings (scope : Node) : List Node :=
  if scope.kind = "program" then ofBlock scope ++ ofHoisted scope
  else if functionScopeKinds.contains scope.kind then ofFunction scope
  else if blockScopeKinds.contains scope.kind then ofBlock scope
  else if scope.kind = "for_statement" then ofForHead scope
  else if scope.kind = "for_in_statement" then ofForInHead scope
  else if scope.kind = "catch_clause" then ofField .parameter scope
  else []

end Sabotage.Scope
