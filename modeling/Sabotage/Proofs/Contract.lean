import Sabotage.Proofs.Bindings
import Sabotage.Proofs.ClearPlans
import Sabotage.Proofs.Replay

/-!
# The contract of the rules

Over a sound draft no rule fails: every text it asks for can be read, and the edits it plans keep
clear of each other. Each rule has its lemma, and `BugKind.plan?_yields` puts them together. With
the cases of an attempt (`BugKind.apply_cases`) this gives the contract `apply_contract`: an attempt
at a bug either counts one change or gives the draft back as it was, and an operator rewrite whose
result has faults gives it back.
-/

namespace Sabotage

namespace Draft.Sound
variable {text : String} {d : Draft}

/-- A single replacement of a node is a clear plan. -/
theorem clear_replacement (h : d.Sound text) {n : Node} (hn : n ∈ d.root.preorder)
    (new : String) : (Plan.single (replacement n new)).Clear :=
  Plan.clear_single (h.replacement_bounds hn new)

/-! ## Negation -/

/-- Whether a place is an expression of truth can be told. -/
theorem isTruthExpression_yields (h : d.Sound text) {s : Site} (hs : s.Within d.root) :
    Yields (fun _ => True) (Rule.isTruthExpression d s) := by
  rw [Rule.isTruthExpression]
  split
  · exact .ok trivial
  · exact (h.binaryOperator hs.mem_preorder.1).map fun _ _ => trivial

/-- Whether a negation has to be put into parentheses can be told. -/
theorem needsOuterGroup_yields (h : d.Sound text) {s : Site} (hs : s.Within d.root) :
    Yields (fun _ => True) (Rule.needsOuterGroup d s) := by
  rw [Rule.needsOuterGroup]
  split
  · exact .ok trivial
  · next p hp =>
    split
    · exact .ok trivial
    · split
      · exact .ok trivial
      · exact (h.binaryOperator (hs.parent? hp).1).map fun _ _ => trivial

/-- The search for an expression to negate plans clearly. -/
theorem findNegation_yields (h : d.Sound text) : PlansClear (Rule.findNegation d) := by
  refine Yields.findSomeM? fun s hs => ?_
  have hs := Site.within_sites s hs
  refine (h.isTruthExpression_yields hs).bind fun isTruth _ => ?_
  split
  · exact plansClear_none
  · refine (h.textOf hs.mem_preorder.1).bind fun text _ => ?_
    refine (h.needsOuterGroup_yields hs).bind fun group _ => .ok fun plan hplan => ?_
    cases hplan
    exact h.clear_replacement hs.mem_preorder.1 _

/-! ## Branches, indices and names -/

/-- The two branches of a conditional expression are replaced clear of each other. -/
theorem clear_branches (h : d.Sound text) {n consequence alternative : Node}
    (hn : n ∈ d.root.preorder) (hc : n.child? .consequence = some consequence)
    (ha : n.child? .alternative = some alternative) (first second : String) :
    (Plan.mk [replacement consequence second, replacement alternative first] false).Clear := by
  obtain ⟨hcmem, hcfield⟩ := Node.child?_eq_some hc
  obtain ⟨hamem, hafield⟩ := Node.child?_eq_some ha
  have hne : consequence ≠ alternative := by
    rintro rfl
    rw [hcfield] at hafield
    cases hafield
  constructor
  · refine List.pairwise_pair.2 (((h.wellFormed n hn).apart hcmem hamem hne).imp ?_ ?_)
    · exact Int.ofNat_le.2
    · exact Int.ofNat_le.2
  · refine List.forall_mem_cons.2 ⟨?_, List.forall_mem_singleton.2 ?_⟩
    · exact h.replacement_bounds (Node.mem_preorder_child hn hcmem) second
    · exact h.replacement_bounds (Node.mem_preorder_child hn hamem) first

/-- The search for branches to exchange plans clearly. -/
theorem findBranches_yields (h : d.Sound text) : PlansClear (Rule.findBranches d) := by
  refine Yields.findSomeM? fun s hs => ?_
  have hnode := (within_sitesOf s hs).mem_preorder.1
  rw [Rule.planBranches]
  split
  · next c a hc ha =>
    refine (h.textOf (Node.mem_preorder_child? hnode hc)).bind fun first _ => ?_
    refine (h.textOf (Node.mem_preorder_child? hnode ha)).bind fun second _ => ?_
    split
    · exact plansClear_none
    · refine .ok fun plan hplan => ?_
      cases hplan
      exact h.clear_branches hnode hc ha first second
  · exact plansClear_none

/-- The name of the method that a call calls can be read. -/
theorem calledMethod?_yields (h : d.Sound text) {n : Node} (hn : n ∈ d.root.preorder) :
    Yields (fun _ => True) (Rule.calledMethod? d n) := by
  rw [Rule.calledMethod?]
  split
  · exact .ok trivial
  · next callee hcallee =>
    split
    · split
      · next p hp =>
        have hmem := Node.mem_preorder_child? (Node.mem_preorder_child? hn hcallee) hp
        split
        · exact (h.textOf hmem).map fun _ _ => trivial
        · exact .ok trivial
      · exact .ok trivial
    · exact .ok trivial

/-- The nodes that stand for positions are nodes of the tree. -/
theorem positions_yields (h : d.Sound text) {n : Node} (hn : n ∈ d.root.preorder) :
    Yields (fun ns => ∀ m ∈ ns, m ∈ d.root.preorder) (Rule.positions d n) := by
  rw [Rule.positions]
  split
  · exact .ok fun m hm => Node.mem_preorder_child? hn (Option.mem_toList.1 hm)
  · refine (h.calledMethod?_yields hn).map fun method _ m hm => ?_
    split at hm
    · split at hm
      · next arguments hargs =>
        exact Node.mem_preorder_child (Node.mem_preorder_child? hn hargs)
          (Node.mem_children_of_mem_content hm)
      · cases hm
    · cases hm

/-- The search for a literal index plans clearly. -/
theorem findIndex_yields (h : d.Sound text) : PlansClear (Rule.findIndex d) := by
  refine Yields.findSomeM? fun s hs => ?_
  refine (h.positions_yields (within_sitesOf s hs).mem_preorder.1).bind fun ns hns => ?_
  refine Yields.findSomeM? fun n hn => ?_
  rw [Rule.planBump]
  split
  · refine (h.textOf (hns n hn)).map fun text _ plan hplan => ?_
    obtain ⟨bumped, -, rfl⟩ := Option.map_eq_some_iff.1 hplan
    exact h.clear_replacement (hns n hn) bumped
  · exact plansClear_none

/-- The search for a name to spoof plans clearly. -/
theorem findSpoof_yields (h : d.Sound text) : PlansClear (Rule.findSpoof d) := by
  refine Yields.findSomeM? fun s hs => ?_
  have hnode := (within_sitesOf s hs).mem_preorder.1
  rw [Rule.planSpoof]
  split
  · refine (h.textOf hnode).map fun name _ plan hplan => ?_
    obtain ⟨spoofed, -, rfl⟩ := Option.map_eq_some_iff.1 hplan
    exact h.clear_replacement hnode _
  · exact plansClear_none

/-! ## Shadowing -/

/-- The declaration that opens a body is an insertion. -/
theorem opening_yields (h : d.Sound text) {body : Node} (hbody : body ∈ d.root.preorder)
    (declaration : String) :
    Yields (fun e => e.start ≤ e.stop) (Rule.opening d body declaration) := by
  rw [Rule.opening]
  split
  · exact .ok (Int.le_refl _)
  · next last hlast =>
    have hmem : last ∈ Rule.directives body := List.mem_of_getLast? hlast
    have hcontent : last ∈ body.content := List.takeWhile_subset _ hmem
    have hlast := Node.mem_preorder_child hbody (Node.mem_children_of_mem_content hcontent)
    exact (h.textOf hlast).map fun _ _ => Int.le_refl _

/-- The search for a name to shadow plans clearly. -/
theorem findShadow_yields (h : d.Sound text) : PlansClear (Rule.findShadow d) := by
  refine Yields.findSomeM? fun s hs => ?_
  have hs := within_sitesOf s hs
  rw [Rule.planShadow]
  split
  · exact plansClear_none
  · next body hbody =>
    have hmem := Node.mem_preorder_child? hs.mem_preorder.1 hbody
    split
    · refine (h.shadowable hs).bind fun victims _ => ?_
      cases victims with
      | nil => exact plansClear_none
      | cons victim _ =>
        refine (h.opening_yields hmem _).bind fun e he => .ok fun plan hplan => ?_
        cases hplan
        exact Plan.clear_single he
    · exact plansClear_none

end Draft.Sound

/-! ## All rules -/

/-- Over a sound draft no rule fails, and each plans clearly. -/
theorem BugKind.plan?_yields {text : String} {d : Draft} (h : d.Sound text) (kind : BugKind) :
    PlansClear (kind.plan? d) := by
  cases kind with
  | booleanNegation => exact h.findNegation_yields
  | offByOne => exact h.findLoopBound_yields
  | invertTernaryBranches => exact h.findBranches_yields
  | indexOffByOne => exact h.findIndex_yields
  | homoglyphSabotage => exact h.findSpoof_yields
  | scopeGaslighting => exact h.findShadow_yields
  | _ => exact h.findSwap_yields _

/-- Over a sound draft an attempt at a bug does not fail. -/
theorem BugKind.apply_finishes (parser : Parser) {text : String} {d : Draft} (h : d.Sound text)
    (kind : BugKind) : ∃ changed d', kind.apply parser d = .ok (changed, d') := by
  obtain ⟨plan?, hplan, hclear⟩ := kind.plan?_yields h
  simp only [apply, hplan]
  cases plan? with
  | none => exact ⟨false, d, rfl⟩
  | some plan => exact (hclear plan rfl).carryOut parser d

section
variable {parser : Parser} {d : Draft}

/-- A guarded plan that is clear is kept when its result has no faults, and given up otherwise. -/
theorem Plan.Clear.carryOut_guarded {plan : Plan} (h : plan.Clear) (hg : plan.guarded = true)
    (hd : d.Coherent parser) :
    ∃ d', d.splice parser plan.edits = .ok d' ∧
      plan.carryOut parser d = .ok (if d'.faults.isEmpty then (true, d') else (false, d)) := by
  obtain ⟨d', hs⟩ := h.splice parser d
  refine ⟨d', hs, ?_⟩
  simp only [Plan.carryOut, hs, hg, Bool.true_and, Bool.not_eq_true',
    Draft.rollback_checkpoint hd hs]
  cases d'.faults.isEmpty
  · rfl
  · rfl

/-- The plan to replace an operator of a sound draft is kept when its result has no faults, and
given up otherwise. -/
theorem Draft.Sound.operatorPlan_carryOut {text : String} (h : d.Sound text)
    (hd : d.Coherent parser) {s : Site} (hs : s ∈ d.sites) {op : String} (hop : op ≠ "")
    (ho : s.node.child? .operator ≠ none) :
    ∃ plan d', d.operatorPlan s op = .ok plan ∧ d.splice parser plan.edits = .ok d' ∧
      plan.carryOut parser d = .ok (if d'.faults.isEmpty then (true, d') else (false, d)) := by
  have hop := h.operatorPlan_yields (Site.within_sites s hs) hop (Option.ne_none_iff_exists'.1 ho)
  obtain ⟨plan, hplan, hclear⟩ := hop
  have hg : plan.guarded = true := by
    rw [Draft.operatorPlan] at hplan
    cases hedits : d.operatorEdits s op with
    | error => rw [hedits] at hplan; cases hplan
    | ok edits => rw [hedits] at hplan; cases hplan; rfl
  obtain ⟨d', hs, hc⟩ := hclear.carryOut_guarded hg hd
  exact ⟨plan, d', hplan, hs, hc⟩

/-- A parse without faults is a new draft of the text. -/
theorem Draft.eq_ofSource {language : Language} {path? : Option String} {source : String}
    (h : parse parser language path? source = .ok d) :
    d = ofSource parser language path? (Bytes.ofString source) := by
  simp only [parse] at h
  split at h
  · exact (Except.ok.inj h).symm
  · cases h

/-- Over a text that a well-formed parser takes without faults no rule fails. An attempt that found
no place, or gave its change up, leaves source, parse and count as they were; any other counts one
change. The replacement of an operator is given up so when its result has faults. -/
theorem apply_contract (hp : parser.WellFormed) {language : Language} {path? : Option String}
    {source : String} (h : Draft.parse parser language path? source = .ok d) :
    (∀ kind : BugKind, ∃ changed d', kind.apply parser d = .ok (changed, d') ∧
      (changed = false → d' = d) ∧ (changed = true → d'.edits = d.edits + 1)) ∧
    ∀ s ∈ d.sites, ∀ op ≠ "", s.node.child? .operator ≠ none →
      ∃ plan d', d.operatorPlan s op = .ok plan ∧ d.splice parser plan.edits = .ok d' ∧
        plan.carryOut parser d = .ok (if d'.faults.isEmpty then (true, d') else (false, d)) := by
  obtain rfl := Draft.eq_ofSource h
  have hsound : (Draft.ofSource parser language path? (Bytes.ofString source)).Sound source :=
    Draft.sound_ofSource hp language path?
  have hcoherent := Draft.coherent_ofSource parser language path? (Bytes.ofString source)
  refine ⟨fun kind => ?_, fun s hs op hop ho => hsound.operatorPlan_carryOut hcoherent hs hop ho⟩
  obtain ⟨changed, d', happly⟩ := kind.apply_finishes parser hsound
  refine ⟨changed, d', happly, ?_⟩
  rcases BugKind.apply_cases hcoherent happly with ⟨rfl, edits, hs⟩ | ⟨rfl, rfl⟩
  · exact ⟨fun hc => Bool.noConfusion hc, fun _ => (Draft.splice_ok hs).2⟩
  · exact ⟨fun _ => rfl, fun hc => Bool.noConfusion hc⟩

end

/-! ## A rewrite that is given up -/

/-- The tree of the text `a < b`. -/
def comparisonTree : Node :=
  ⟨"binary_expression", true, false, 0, 5, none,
    [⟨"identifier", true, false, 0, 1, some .left, []⟩,
      ⟨"<", false, false, 2, 3, some .operator, []⟩,
      ⟨"identifier", true, false, 4, 5, some .right, []⟩]⟩

/-- A parser that knows this text alone. -/
def comparisonParser : Parser := fun _ source =>
  if source = Bytes.ofString "a < b" then comparisonTree
  else ⟨"ERROR", true, false, 0, 0, none, []⟩

/-- The draft of the text `a < b`. -/
def comparisonDraft : Draft :=
  Draft.ofSource comparisonParser .tsx none (Bytes.ofString "a < b")

/-- The parser is well-formed. -/
theorem wellFormed_comparisonParser : comparisonParser.WellFormed := by
  intro language text
  rw [comparisonParser]
  split
  · next h =>
    have htext : text = "a < b" := by
      have := congrArg Bytes.toString? h
      rw [Bytes.toString?_ofString, Bytes.toString?_ofString] at this
      exact Option.some.inj this
    subst htext
    simp only [Node.WellFormed, comparisonTree, Node.preorder, Node.preorderAll]
    simp only [List.append_nil, List.cons_append, List.nil_append, List.forall_mem_cons]
    refine ⟨?_, ?_, ?_, ?_, List.forall_mem_nil _⟩ <;> constructor <;> simp <;> decide
  · intro n hn
    simp only [Node.preorder, Node.preorderAll, List.mem_singleton] at hn
    subst hn
    exact ⟨Nat.le_refl 0, String.Pos.Raw.isValid_zero, String.Pos.Raw.isValid_zero,
      List.forall_mem_nil _, .nil⟩

/-- A flip of the comparison would give a text that the parser finds faults in, so that the draft
stays as it is. -/
theorem apply_comparisonDraft :
    comparisonParser.WellFormed ∧
      Draft.parse comparisonParser .tsx none "a < b" = .ok comparisonDraft ∧
      BugKind.apply comparisonParser .comparisonDirectionFlip comparisonDraft =
        .ok (false, comparisonDraft) := by
  have hparse : Draft.parse comparisonParser .tsx none "a < b" = .ok comparisonDraft := by cbv
  obtain ⟨hall, -⟩ := apply_contract wellFormed_comparisonParser hparse
  obtain ⟨changed, d', happly, hkept, -⟩ := hall .comparisonDirectionFlip
  have hfalse : (BugKind.apply comparisonParser .comparisonDirectionFlip comparisonDraft).map
      Prod.fst = .ok false := by
    cbv
  rw [happly] at hfalse
  cases hfalse
  rw [hkept rfl] at happly
  exact ⟨wellFormed_comparisonParser, hparse, happly⟩

end Sabotage
