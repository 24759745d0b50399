import Sabotage.Proofs.ClearPlans
import Sabotage.Proofs.Replay
import Sabotage.Proofs.Tokens
import Sabotage.Proofs.Yields

/-!
# What the rules plan

`BugKind.Plans` lists the plans that the rules can make for a draft, with what a rule has seen of
the tree when it makes one. Every plan that a rule finds is of this listing, whatever the tree looks
like (`BugKind.plan?_plans`), with a lemma for each rule. What holds of all bugs is therefore proved
over the six cases of the listing, and no other proof has to search a tree.
-/

namespace Sabotage

open Bytes

/-! ## The listing -/

/-- The bytes of a node. -/
def Node.bytes (source : Bytes) (n : Node) : Bytes :=
  source.cut n.start n.stop

/-- The branches of a conditional expression. -/
def Node.branches (n : Node) : List Node :=
  (n.child? .consequence).toList ++ (n.child? .alternative).toList

namespace Rule

/-- Kinds of nodes that are negated. -/
def truthKinds : List String :=
  ["true", "false", "binary_expression"]

/-- A text under negation, with parentheses inside and outside of it where they are needed. -/
def negated (inner outer : Bool) (text : String) : String :=
  let negated := if inner then "!(" ++ text ++ ")" else "!" ++ text
  if outer then "(" ++ negated ++ ")" else negated

/-- An insertion of a declaration where a body begins, or after one of its directives. -/
def Opens (body : Node) (declaration : String) (e : Edit) : Prop :=
  e = .insertion (body.start + 1) (" " ++ declaration) ∨
    ∃ last ∈ directives body, ∃ front ∈ [" ", "; "],
      e = .insertion last.stop (front ++ declaration)

end Rule

/-- The swap a bug of a kind makes, for those that change an operator. -/
def BugKind.swap? : BugKind → Option (Operator → Option Operator)
  | .offByOne | .generalBoundaryOffByOne => some Operator.flipBoundary
  | .logicalAndOrSwap => some Operator.swapAndOr
  | .comparisonDirectionFlip => some Operator.flipDirection
  | .equalityInequalityFlip => some Operator.flipEquality
  | .wrongArithmeticOperator => some Operator.swapArithmetic
  | .bitwiseLogicalSwap => some Operator.swapLogicalBitwise
  | _ => none

/-- The plans that the rule of a kind can make for a draft. -/
inductive BugKind.Plans (d : Draft) : BugKind → Plan → Prop
  /-- An expression of truth is negated. -/
  | negation {n text} (inner outer : Bool) : n ∈ d.root.preorder → n.kind ∈ Rule.truthKinds →
      ofString text = n.bytes d.source →
      Plans d .booleanNegation (.single (Draft.replacement n (Rule.negated inner outer text)))
  /-- An operator becomes the one a swap leads to, and binary expressions get parentheses. -/
  | operator {kind : BugKind} {swap n o a b front back parens} : kind.swap? = some swap →
      n ∈ d.root.preorder → n.kind = "binary_expression" → n.child? .operator = some o →
      o.bytes d.source = ofString a.text → swap a = some b →
      front ∈ ["", " "] → back ∈ ["", " "] →
      (∀ e ∈ parens, ∃ m ∈ d.root.preorder, m.kind = "binary_expression" ∧ e ∈ Draft.wrap m) →
      Plans d kind ⟨Draft.replacement o (front ++ b.text ++ back) :: parens, true⟩
  /-- Two branches change places. -/
  | branches {n c a first second} : n ∈ d.root.preorder → n.kind = "ternary_expression" →
      n.branches = [c, a] → ofString first = c.bytes d.source →
      ofString second = a.bytes d.source → first ≠ second →
      Plans d .invertTernaryBranches
        ⟨[Draft.replacement c second, Draft.replacement a first], false⟩
  /-- A number is bumped. -/
  | number {n text bumped} : n ∈ d.root.preorder → n.kind = "number" →
      ofString text = n.bytes d.source → Literal.bump? text = some bumped →
      Plans d .indexOffByOne (.single (Draft.replacement n bumped))
  /-- A name is spoofed. -/
  | name {n name spoofed} : n ∈ d.root.preorder → n.kind = "identifier" →
      ofString name = n.bytes d.source → spoof? name.toList = some spoofed →
      Plans d .homoglyphSabotage (.single (Draft.replacement n (String.ofList spoofed)))
  /-- The body of a function is opened with a declaration of a name referred to in it. -/
  | declaration {n body m name e} : n ∈ d.root.preorder → Scope.functionKinds.contains n.kind →
      n.child? .body = some body → body.kind = "statement_block" → m ∈ d.root.preorder →
      Scope.referenceKinds.contains m.kind → ofString name = m.bytes d.source →
      Rule.Opens body ("let " ++ name ++ " = null;") e → Plans d .scopeGaslighting (.single e)

/-- A search that, where it finds a plan, finds one that the rule of a kind can make. -/
abbrev FindsPlans (d : Draft) (kind : BugKind) : Except DraftError (Option Plan) → Prop :=
  Grants fun found => ∀ plan ∈ found, kind.Plans d plan

namespace Draft
variable {d : Draft}

/-- The text of a node has the bytes of the node. -/
theorem textOf_grants (n : Node) :
    Grants (fun text => ofString text = n.bytes d.source) (d.textOf n) := by
  rw [textOf]
  split
  · next hs => exact .ok (ofString_of_toString? hs)
  · exact .error

/-! ## Negation -/

/-- An expression of truth is of a kind that is negated. -/
theorem isTruthExpression_grants (s : Site) :
    Grants (fun isTruth => isTruth = true → s.node.kind ∈ Rule.truthKinds)
      (Rule.isTruthExpression d s) := by
  rw [Rule.isTruthExpression]
  split
  · next hkind => exact .ok fun _ => by rcases hkind with hkind | hkind <;> rw [hkind] <;> decide
  · rw [binaryOperator]
    split
    · next hkind => exact (Grants.trivial _).map fun _ _ _ => by rw [hkind]; decide
    · rintro isTruth ⟨⟩ h
      cases h

/-- The search for an expression to negate. -/
theorem findNegation_plans : FindsPlans d .booleanNegation (Rule.findNegation d) := by
  refine Grants.findSomeM? fun s hs => ?_
  have hnode := (Site.within_sites s hs).mem_preorder.1
  refine (isTruthExpression_grants s).bind fun isTruth hkind => ?_
  split
  · exact .missing
  next hgo =>
  refine (textOf_grants s.node).bind fun text htext => ?_
  refine (Grants.trivial _).bind fun outer _ => .ok fun plan hplan => ?_
  cases hplan
  exact .negation (Rule.looserThanNot.contains s.node.kind) outer hnode (hkind (by simp_all)) htext

/-! ## Operators -/

/-- A node with a binary operator is a binary expression, with an operator that has this text. -/
theorem binaryOperator_grants (n : Node) :
    Grants (fun op? => ∀ op ∈ op?, n.kind = "binary_expression" ∧
      ∃ o, n.child? .operator = some o ∧ ofString op = o.bytes d.source) (d.binaryOperator n) := by
  rw [binaryOperator]
  split
  · next hkind =>
    split
    · next o ho =>
      refine (textOf_grants o).map fun text htext op hop => ?_
      cases hop
      exact ⟨hkind, o, ho, htext⟩
    · exact .missing
  · exact .missing

/-- What a swap makes of a binary expression's operator. -/
theorem swapped?_grants (swap : Operator → Option Operator) (n : Node) :
    Grants (fun new? => ∀ new ∈ new?, n.kind = "binary_expression" ∧
      ∃ o a b, n.child? .operator = some o ∧ o.bytes d.source = ofString a.text ∧
        swap a = some b ∧ new = b.text) (Rule.swapped? d swap n) := by
  refine (binaryOperator_grants n).map fun op? hop new hnew => ?_
  obtain ⟨op, rfl, hnew⟩ := Option.bind_eq_some_iff.1 hnew
  obtain ⟨hkind, o, ho, hbytes⟩ := hop op rfl
  obtain ⟨b, hb, rfl⟩ := Option.map_eq_some_iff.1 hnew
  obtain ⟨a, ha, hb⟩ := Option.bind_eq_some_iff.1 hb
  exact ⟨hkind, o, a, b, ho, by rw [← hbytes, Operator.text_of_ofText? ha], hb, rfl⟩

/-- The parentheses of a list of edits stand around binary expressions. -/
def Parenthesizes (d : Draft) (edits : List Edit) : Prop :=
  ∀ e ∈ edits, ∃ m ∈ d.root.preorder, m.kind = "binary_expression" ∧ e ∈ wrap m

/-- An operand in parentheses is a binary expression. -/
theorem wrapOperand_grants {operand? : Option Node} (hmem : ∀ n ∈ operand?, n ∈ d.root.preorder)
    (op : String) (side : Side) : Grants d.Parenthesizes (d.wrapOperand operand? op side) := by
  cases operand? with
  | none => exact .empty
  | some n =>
    refine (binaryOperator_grants n).map fun inner? hinner => ?_
    cases inner? with
    | none => exact List.forall_mem_nil _
    | some inner =>
      exact fun e he => ⟨n, hmem n rfl, (hinner inner rfl).1, (List.mem_ite_nil_right.1 he).2⟩

/-- A binary expression that is put into parentheses as a whole. -/
theorem wrapWhole_grants {s : Site} (hnode : s.node ∈ d.root.preorder)
    (hkind : s.node.kind = "binary_expression") (op : String) :
    Grants d.Parenthesizes (d.wrapWhole s op) := by
  rw [wrapWhole]
  split
  · exact .empty
  · refine (Grants.trivial _).map fun outer? _ => ?_
    cases outer? with
    | none => exact List.forall_mem_nil _
    | some outer => exact fun e he => ⟨s.node, hnode, hkind, (List.mem_ite_nil_right.1 he).2⟩

/-- An operator gets at most one blank on either side. -/
theorem padded_grants {source : Bytes} {operator : Node} {op : String} :
    Grants (fun text => ∃ front ∈ ["", " "], ∃ back ∈ ["", " "], text = front ++ op ++ back)
      (padded source operator op) := by
  have hblank (needed : Bool) : (if needed then " " else "") ∈ ["", " "] := by
    cases needed <;> decide
  rw [padded]
  split
  · exact .error
  · exact .ok ⟨_, hblank _, _, hblank _, rfl⟩

/-- The plan to give a binary expression another operator. -/
theorem operatorPlan_grants {s : Site} (hnode : s.node ∈ d.root.preorder)
    (hkind : s.node.kind = "binary_expression") {o : Node} (ho : s.node.child? .operator = some o)
    {op : String} :
    Grants (fun plan => ∃ front ∈ ["", " "], ∃ back ∈ ["", " "], ∃ parens, d.Parenthesizes parens ∧
      plan = ⟨replacement o (front ++ op ++ back) :: parens, true⟩) (d.operatorPlan s op) := by
  have hmem (f : Field) : ∀ n ∈ s.node.child? f, n ∈ d.root.preorder := fun n hn =>
    Node.mem_preorder_child? hnode hn
  refine Grants.map (p := fun edits => ∃ front ∈ ["", " "], ∃ back ∈ ["", " "], ∃ parens,
    d.Parenthesizes parens ∧ edits = replacement o (front ++ op ++ back) :: parens) ?_ ?_
  · rw [operatorEdits, ho]
    refine padded_grants.bind fun text htext => ?_
    obtain ⟨front, hfront, back, hback, htext⟩ := htext
    refine (wrapOperand_grants (hmem .left) op .left).bind fun left hleft => ?_
    refine (wrapOperand_grants (hmem .right) op .right).bind fun right hright => ?_
    refine (wrapWhole_grants hnode hkind op).bind fun whole hwhole => .ok ?_
    refine ⟨front, hfront, back, hback, left ++ right ++ whole, ?_, by rw [htext]; rfl⟩
    exact List.forall_mem_append.2 ⟨List.forall_mem_append.2 ⟨hleft, hright⟩, hwhole⟩
  · rintro edits ⟨front, hfront, back, hback, parens, hparens, rfl⟩
    exact ⟨front, hfront, back, hback, parens, hparens, rfl⟩

/-- The plan to swap an operator. -/
theorem planSwap_plans {kind : BugKind} {swap : Operator → Option Operator}
    (hswap : kind.swap? = some swap) {s : Site} (hnode : s.node ∈ d.root.preorder) :
    FindsPlans d kind (Rule.planSwap d swap s) := by
  refine (swapped?_grants swap s.node).bind fun new? hnew => ?_
  cases new? with
  | none => exact .missing
  | some new =>
    obtain ⟨hkind, o, a, b, ho, hbytes, hb, rfl⟩ := hnew new rfl
    refine (operatorPlan_grants hnode hkind ho).bind fun plan hplan => .ok fun found hfound => ?_
    obtain ⟨front, hfront, back, hback, parens, hparens, hplan⟩ := hplan
    cases hfound
    exact hplan ▸ .operator hswap hnode hkind ho hbytes hb hfront hback hparens

/-- The search for an operator to swap. -/
theorem findSwap_plans {kind : BugKind} {swap : Operator → Option Operator}
    (hswap : kind.swap? = some swap) : FindsPlans d kind (Rule.findSwap swap d) :=
  Grants.findSomeM? fun s hs => planSwap_plans hswap (Sound.within_sitesOf s hs).mem_preorder.1

/-- The search for a loop bound. -/
theorem findLoopBound_plans : FindsPlans d .offByOne (Rule.findLoopBound d) := by
  refine Grants.findSomeM? fun s hs => ?_
  split
  · exact .missing
  · next test htest =>
    exact planSwap_plans rfl
      (Sound.within_loopTest? (Sound.within_sitesOf s hs) htest).mem_preorder.1

/-! ## Branches, indices and names -/

/-- The search for branches to exchange. -/
theorem findBranches_plans : FindsPlans d .invertTernaryBranches (Rule.findBranches d) := by
  refine Grants.findSomeM? fun s hs => ?_
  have hnode := (Sound.within_sitesOf s hs).mem_preorder.1
  have hkind : s.node.kind = "ternary_expression" := by
    simpa using (List.mem_filter.1 hs).2
  rw [Rule.planBranches]
  split
  · next c a hc ha =>
    refine (textOf_grants c).bind fun first hfirst => ?_
    refine (textOf_grants a).bind fun second hsecond => ?_
    split
    · exact .missing
    next hne =>
    refine .ok fun plan hplan => ?_
    cases hplan
    have hbranches : s.node.branches = [c, a] := by
      rw [Node.branches, hc, ha]
      rfl
    exact .branches hnode hkind hbranches hfirst hsecond (by simpa using hne)
  · exact .missing

/-- The nodes that stand for positions are nodes of the tree. -/
theorem positions_grants {n : Node} (hn : n ∈ d.root.preorder) :
    Grants (fun ns => ∀ m ∈ ns, m ∈ d.root.preorder) (Rule.positions d n) := by
  rw [Rule.positions]
  split
  · exact .ok fun m hm => Node.mem_preorder_child? hn (Option.mem_toList.1 hm)
  · refine (Grants.trivial _).map fun method _ m hm => ?_
    split at hm
    · split at hm
      · next arguments hargs =>
        exact Node.mem_preorder_child (Node.mem_preorder_child? hn hargs)
          (Node.mem_children_of_mem_content hm)
      · cases hm
    · cases hm

/-- The search for a literal index. -/
theorem findIndex_plans : FindsPlans d .indexOffByOne (Rule.findIndex d) := by
  refine Grants.findSomeM? fun s hs => ?_
  have hnode := (Sound.within_sitesOf s hs).mem_preorder.1
  refine (positions_grants hnode).bind fun ns hns => Grants.findSomeM? fun n hn => ?_
  rw [Rule.planBump]
  split
  · next hkind =>
    refine (textOf_grants n).map fun text htext plan hplan => ?_
    obtain ⟨bumped, hbump, rfl⟩ := Option.map_eq_some_iff.1 hplan
    exact .number (hns n hn) hkind htext hbump
  · exact .missing

/-- What is planned to spoof a name: the name of a declaration is replaced. -/
theorem findSpoof_respells : Grants (fun found => ∀ plan ∈ found, ∃ s name spoofed,
    s ∈ d.sitesOf ["identifier"] ∧ Rule.isDeclaredName s ∧ ofString name = s.node.bytes d.source ∧
      spoof? name.toList = some spoofed ∧
      plan = .single (Draft.replacement s.node (String.ofList spoofed))) (Rule.findSpoof d) := by
  refine Grants.findSomeM? fun s hs => ?_
  rw [Rule.planSpoof]
  split
  · next hdeclared =>
    refine (textOf_grants s.node).map fun name hname plan hplan => ?_
    obtain ⟨spoofed, hspoof, rfl⟩ := Option.map_eq_some_iff.1 hplan
    exact ⟨s, name, spoofed, hs, hdeclared, hname, hspoof, rfl⟩
  · exact .missing

/-- The search for a name to spoof. -/
theorem findSpoof_plans : FindsPlans d .homoglyphSabotage (Rule.findSpoof d) := by
  intro found hfound plan hplan
  obtain ⟨s, name, spoofed, hs, -, hname, hspoof, rfl⟩ :=
    findSpoof_respells found hfound plan hplan
  have hkind : s.node.kind = "identifier" := by
    simpa using (List.mem_filter.1 hs).2
  exact .name (Sound.within_sitesOf s hs).mem_preorder.1 hkind hname hspoof

/-! ## Shadowing -/

/-- The names a function can be shadowed with are referred to in the tree. -/
theorem shadowable_grants {s : Site} (hnode : s.node ∈ d.root.preorder) :
    Grants (fun names => ∀ name ∈ names, ∃ m ∈ d.root.preorder,
      Scope.referenceKinds.contains m.kind ∧ ofString name = m.bytes d.source)
      (Scope.shadowable d s) := by
  have hreferenced : Grants (fun names => ∀ name ∈ names, ∃ m ∈ d.root.preorder,
      Scope.referenceKinds.contains m.kind ∧ ofString name = m.bytes d.source)
      (Scope.referencedNames d s.node) := by
    rw [Scope.referencedNames]
    split
    · exact .empty
    · next body hbody =>
      refine Grants.bind (p := fun names => ∀ name ∈ names, ∃ m ∈ d.root.preorder,
        Scope.referenceKinds.contains m.kind ∧ ofString name = m.bytes d.source)
        (Grants.mapM fun n hn => ?_) fun names hnames => .ok ?_
      · obtain ⟨hmem, hkind⟩ := List.mem_filter.1 hn
        rw [Node.walk_singleton] at hmem
        have hmem := Node.preorder_trans (Node.mem_preorder_child? hnode hbody) hmem
        exact fun name hname => ⟨n, hmem, by simp_all, textOf_grants n name hname⟩
      · exact fun name hname => hnames name (Scope.mem_firstOccurrences.1 hname)
  refine (Grants.trivial _).bind fun outer _ => ?_
  split
  · exact .empty
  · refine (Grants.trivial _).bind fun own _ => hreferenced.bind fun used hused => .ok ?_
    exact fun name hname => hused name (List.mem_filter.1 hname).1

/-- A declaration opens a body at its head, or after its directives. -/
theorem opening_grants (body : Node) (declaration : String) :
    Grants (Rule.Opens body declaration) (Rule.opening d body declaration) := by
  rw [Rule.opening]
  split
  · exact .ok (.inl rfl)
  · next last hlast =>
    refine (Grants.trivial _).map fun text _ =>
      .inr ⟨last, List.mem_of_getLast? hlast, _, ?_, rfl⟩
    split <;> decide

/-- What is planned to shadow a name: the body of a function is opened with a declaration of the
first name that it can be shadowed with. -/
theorem findShadow_opens : Grants (fun found => ∀ plan ∈ found, ∃ s body name rest e,
    s ∈ d.sitesOf Scope.functionKinds ∧ s.node.child? .body = some body ∧
      body.kind = "statement_block" ∧ Scope.shadowable d s = .ok (name :: rest) ∧
      Rule.Opens body ("let " ++ name ++ " = null;") e ∧ plan = .single e) (Rule.findShadow d) := by
  refine Grants.findSomeM? fun s hs => ?_
  rw [Rule.planShadow]
  split
  · exact .missing
  next body hbody =>
  split
  · next hblock =>
    refine Grants.bind (p := fun names => Scope.shadowable d s = .ok names) (fun _ h => h)
      fun victims hvictims => ?_
    cases victims with
    | nil => exact .missing
    | cons victim rest =>
      refine (opening_grants body _).bind fun e he => .ok fun plan hplan => ?_
      cases hplan
      exact ⟨s, body, victim, rest, e, hs, hbody, hblock, hvictims, he, rfl⟩
  · exact .missing

/-- The search for a name to shadow. -/
theorem findShadow_plans : FindsPlans d .scopeGaslighting (Rule.findShadow d) := by
  intro found hfound plan hplan
  obtain ⟨s, body, victim, rest, e, hs, hbody, hblock, hvictims, he, rfl⟩ :=
    findShadow_opens found hfound plan hplan
  have hnode := (Sound.within_sitesOf s hs).mem_preorder.1
  obtain ⟨m, hm, hreference, hname⟩ :=
    shadowable_grants hnode _ hvictims victim List.mem_cons_self
  exact .declaration hnode (List.mem_filter.1 hs).2 hbody hblock hm hreference hname he

end Draft

/-! ## All rules -/

/-- The plan that a rule finds is one that it can make. -/
theorem BugKind.plan?_plans {d : Draft} (kind : BugKind) : FindsPlans d kind (kind.plan? d) := by
  cases kind with
  | booleanNegation => exact Draft.findNegation_plans
  | offByOne => exact Draft.findLoopBound_plans
  | invertTernaryBranches => exact Draft.findBranches_plans
  | indexOffByOne => exact Draft.findIndex_plans
  | homoglyphSabotage => exact Draft.findSpoof_plans
  | scopeGaslighting => exact Draft.findShadow_plans
  | _ => exact Draft.findSwap_plans rfl

/-- A splice carries out its edits. -/
theorem Draft.applyAll_of_splice {parser : Parser} {d d' : Draft} {edits : List Edit}
    (h : d.splice parser edits = .ok d') : Edit.applyAll edits d.source = .ok d'.source := by
  rw [splice] at h
  split at h
  · next hedits =>
    cases h
    exact hedits
  · cases h

/-- An attempt at a bug that finds a place splices the edits of the plan that the rule finds. -/
theorem BugKind.exists_plan {parser : Parser} {d d' : Draft} {kind : BugKind}
    (h : kind.apply parser d = .ok (true, d')) :
    ∃ plan, kind.plan? d = .ok (some plan) ∧ d.splice parser plan.edits = .ok d' := by
  rw [apply] at h
  split at h
  · cases h
  · cases h
  next plan hplan =>
  rw [Plan.carryOut] at h
  split at h
  · cases h
  next hsplice =>
  split at h
  · cases h
  · cases h
    exact ⟨plan, hplan, hsplice⟩

/-- An attempt at a bug that finds a place carries out a plan that the rule can make. -/
theorem BugKind.apply_plans {parser : Parser} {d d' : Draft} {kind : BugKind}
    (h : kind.apply parser d = .ok (true, d')) :
    d'.Coherent parser ∧
      ∃ plan, kind.Plans d plan ∧ Edit.applyAll plan.edits d.source = .ok d'.source := by
  obtain ⟨plan, hplan, hsplice⟩ := exists_plan h
  exact ⟨(Draft.splice_ok hsplice).1, plan, kind.plan?_plans (some plan) hplan plan rfl,
    Draft.applyAll_of_splice hsplice⟩

end Sabotage
