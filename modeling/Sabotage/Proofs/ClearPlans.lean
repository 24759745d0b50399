import Sabotage.Proofs.Bindings
import Sabotage.Proofs.Replay
import Sabotage.Proofs.Splices

/-!
# Clear plans

A plan is clear when its edits keep clear of each other (`Plan.Clear`); a clear plan is always
carried out or given up, never refused. In a sound draft a replaced operator has a clear plan: the
parentheses are insertions at the ends of the expression and of its operands, and the operator lies
between them. So the rules that replace operators, anywhere or in the test of a loop, do not fail
and plan clearly.
-/

namespace Sabotage

/-- A plan whose edits keep clear of each other. -/
structure Plan.Clear (plan : Plan) : Prop where
  pairwise : plan.edits.Pairwise Edit.Clear
  bounds : ∀ e ∈ plan.edits, e.start ≤ e.stop

/-- A search that does not fail, and finds clear plans only. -/
abbrev PlansClear : Except DraftError (Option Plan) → Prop :=
  Yields fun found => ∀ plan ∈ found, plan.Clear

/-- A search that finds nothing. -/
theorem plansClear_none : PlansClear (.ok none) :=
  .ok nofun

/-- A plan of a single edit with its bounds in order is clear. -/
theorem Plan.clear_single {e : Edit} (h : e.start ≤ e.stop) : (Plan.single e).Clear :=
  ⟨List.pairwise_singleton _ _, List.forall_mem_singleton.2 h⟩

/-- A splice of a clear plan is carried out. -/
theorem Plan.Clear.splice {plan : Plan} (h : plan.Clear) (parser : Parser) (d : Draft) :
    ∃ d', d.splice parser plan.edits = .ok d' := by
  simp only [Draft.splice, Edit.applyAll_eq_foldl h.pairwise h.bounds]
  exact ⟨_, rfl⟩

/-- A clear plan is carried out or given up. -/
theorem Plan.Clear.carryOut {plan : Plan} (h : plan.Clear) (parser : Parser) (d : Draft) :
    ∃ changed d', plan.carryOut parser d = .ok (changed, d') := by
  obtain ⟨d', hs⟩ := h.splice parser d
  simp only [Plan.carryOut, hs]
  split
  · exact ⟨_, _, rfl⟩
  · exact ⟨_, _, rfl⟩

namespace Draft.Sound
variable {text : String} {d : Draft}

/-- The edit that puts a text in the place of a node has its bounds in order. -/
theorem replacement_bounds (h : d.Sound text) {n : Node} (hn : n ∈ d.root.preorder)
    (new : String) : (replacement n new).start ≤ (replacement n new).stop :=
  Int.ofNat_le.2 (h.wellFormed n hn).start_le_stop

/-! ## Operators -/

/-- The edits of parentheses are insertions at the ends of a node. -/
theorem mem_wrap {n : Node} {e : Edit} (h : e ∈ wrap n) :
    ∃ s, e = .insertion n.start s ∨ e = .insertion n.stop s := by
  rcases List.mem_cons.1 h with rfl | h
  · exact ⟨_, .inl rfl⟩
  · exact ⟨_, .inr (List.mem_singleton.1 h)⟩

/-- Parentheses around an operand, if any, are insertions at its ends. -/
theorem wrapOperand_yields (h : d.Sound text) {operand? : Option Node}
    (hmem : ∀ n ∈ operand?, n ∈ d.root.preorder) (op : String) (side : Side) :
    Yields (fun edits => ∀ e ∈ edits, ∃ n ∈ operand?, e ∈ wrap n)
      (d.wrapOperand operand? op side) := by
  cases operand? with
  | none => exact .ok nofun
  | some n =>
    refine (h.binaryOperator (hmem n rfl)).map fun inner? _ => ?_
    cases inner? with
    | none => nofun
    | some inner => exact fun e he => ⟨n, rfl, (List.mem_ite_nil_right.1 he).2⟩

/-- Parentheses around a whole expression, if any, are insertions at its ends. -/
theorem wrapWhole_yields (h : d.Sound text) {s : Site} (hs : s.Within d.root) (op : String) :
    Yields (fun edits => ∀ e ∈ edits, e ∈ wrap s.node) (d.wrapWhole s op) := by
  rw [wrapWhole]
  split
  · exact .ok nofun
  · next p hp =>
    refine (h.binaryOperator (hs.parent? hp).1).map fun outer? _ => ?_
    cases outer? with
    | none => nofun
    | some outer => exact fun e he => (List.mem_ite_nil_right.1 he).2

/-- An operator that is not empty can be put into any place. -/
theorem padded_yields {source : Bytes} {operator : Node} {op : String} (hop : op ≠ "") :
    Yields (fun _ => True) (padded source operator op) := by
  have hempty : op.isEmpty = false := by simpa using hop
  simp only [padded, hempty, Bool.false_and, Bool.false_eq_true, ↓reduceIte]
  exact .ok trivial

/-- An insertion at an end of a child other than the operator, or at an end of the expression, is
clear of the edit that replaces the operator. -/
theorem clear_operator {n operator : Node} {new : String} {e : Edit} (hn : n.LaidOut text)
    (ho : n.child? .operator = some operator)
    (he : e ∈ wrap n ∨ ∃ f c, f ≠ .operator ∧ n.child? f = some c ∧ c.start ≤ c.stop ∧ e ∈ wrap c) :
    (replacement operator new).Clear e := by
  obtain ⟨hmem, hfield⟩ := Node.child?_eq_some ho
  have hin := hn.nested operator hmem
  rcases he with he | ⟨f, c, hf, hc, hle, he⟩
  · obtain ⟨s, rfl | rfl⟩ := mem_wrap he
    · exact .inr (Int.ofNat_le.2 hin.1)
    · exact .inl (Int.ofNat_le.2 hin.2)
  · obtain ⟨hcmem, hcfield⟩ := Node.child?_eq_some hc
    have hne : operator ≠ c := by
      rintro rfl
      rw [hfield] at hcfield
      exact hf (Option.some.inj hcfield).symm
    rcases hn.apart hmem hcmem hne with hapart | hapart <;> obtain ⟨s, rfl | rfl⟩ := mem_wrap he
    · exact .inl (Int.ofNat_le.2 hapart)
    · exact .inl (Int.ofNat_le.2 (Nat.le_trans hapart hle))
    · exact .inr (Int.ofNat_le.2 (Nat.le_trans hle hapart))
    · exact .inr (Int.ofNat_le.2 hapart)

/-- The plan to replace an operator is clear. -/
theorem operatorPlan_yields (h : d.Sound text) {s : Site} (hs : s.Within d.root) {op : String}
    (hop : op ≠ "") (ho : ∃ o, s.node.child? .operator = some o) :
    Yields Plan.Clear (d.operatorPlan s op) := by
  obtain ⟨operator, ho⟩ := ho
  have hnode := hs.mem_preorder.1
  have hlaid := h.wellFormed _ hnode
  have hmem (f : Field) : ∀ n ∈ s.node.child? f, n ∈ d.root.preorder := fun n hn =>
    Node.mem_preorder_child? hnode hn
  -- An insertion beside an operand is one at an end of a child that is not the operator.
  have hoperand (f : Field) (hf : f ≠ .operator) {e : Edit}
      (he : ∃ n ∈ s.node.child? f, e ∈ wrap n) :
      ∃ f c, f ≠ .operator ∧ s.node.child? f = some c ∧ c.start ≤ c.stop ∧ e ∈ wrap c := by
    obtain ⟨c, hc, he⟩ := he
    exact ⟨f, c, hf, hc, (h.wellFormed c (hmem f c hc)).start_le_stop, he⟩
  refine Yields.map (p := fun edits => (Plan.mk edits true).Clear) ?_ fun edits hedits => hedits
  rw [operatorEdits, ho]
  refine (padded_yields hop).bind fun new _ => ?_
  refine (h.wrapOperand_yields (hmem .left) op .left).bind fun left hleft => ?_
  refine (h.wrapOperand_yields (hmem .right) op .right).bind fun right hright => ?_
  refine (h.wrapWhole_yields hs op).bind fun whole hwhole => .ok ?_
  have hrest : ∀ e ∈ left ++ right ++ whole, e ∈ wrap s.node ∨
      ∃ f c, f ≠ .operator ∧ s.node.child? f = some c ∧ c.start ≤ c.stop ∧ e ∈ wrap c := by
    intro e he
    rcases List.mem_append.1 he with he | he
    · rcases List.mem_append.1 he with he | he
      · exact .inr (hoperand .left (by decide) (hleft e he))
      · exact .inr (hoperand .right (by decide) (hright e he))
    · exact .inl (hwhole e he)
  have hinsertion : ∀ e ∈ left ++ right ++ whole, ∃ i s, e = .insertion i s := by
    intro e he
    rcases hrest e he with he | ⟨_, _, _, _, _, he⟩
    · obtain ⟨s, rfl | rfl⟩ := mem_wrap he <;> exact ⟨_, _, rfl⟩
    · obtain ⟨s, rfl | rfl⟩ := mem_wrap he <;> exact ⟨_, _, rfl⟩
  constructor
  · refine List.pairwise_cons.2 ⟨fun e he => clear_operator hlaid ho (hrest e he), ?_⟩
    refine List.pairwise_of_forall_mem_list fun e he f hf => ?_
    obtain ⟨i, s, rfl⟩ := hinsertion e he
    obtain ⟨j, t, rfl⟩ := hinsertion f hf
    exact Edit.clear_insertion i j s t
  · refine List.forall_mem_cons.2 ⟨?_, fun e he => ?_⟩
    · exact h.replacement_bounds (Node.mem_preorder_child? hnode ho) new
    · obtain ⟨i, s, rfl⟩ := hinsertion e he
      exact Int.le_refl i

/-- A swap plans clearly at every place. -/
theorem planSwap_yields (h : d.Sound text) (swap : Operator → Option Operator) {s : Site}
    (hs : s.Within d.root) : PlansClear (Rule.planSwap d swap s) := by
  have hswapped : Yields (fun new? => ∀ new ∈ new?, new ≠ "" ∧
      ∃ o, s.node.child? .operator = some o) (Rule.swapped? d swap s.node) := by
    refine (h.binaryOperator hs.mem_preorder.1).map fun op? hop new hnew => ?_
    obtain ⟨op, rfl, hnew⟩ := Option.bind_eq_some_iff.1 hnew
    obtain ⟨o, -, rfl⟩ := Option.map_eq_some_iff.1 hnew
    exact ⟨o.text_ne_empty, hop rfl⟩
  refine hswapped.bind fun new? hnew => ?_
  cases new? with
  | none => exact plansClear_none
  | some new =>
    obtain ⟨hne, ho⟩ := hnew new rfl
    refine (h.operatorPlan_yields hs hne ho).bind fun plan hplan => .ok fun found hfound => ?_
    cases hfound
    exact hplan

/-- A site of given kinds is a place of the tree. -/
theorem within_sitesOf {kinds : List String} : ∀ s ∈ d.sitesOf kinds, s.Within d.root :=
  fun s hs => Site.within_sites s (List.mem_filter.1 hs).1

/-- The search for an operator to swap plans clearly. -/
theorem findSwap_yields (h : d.Sound text) (swap : Operator → Option Operator) :
    PlansClear (Rule.findSwap swap d) :=
  Yields.findSomeM? fun s hs => h.planSwap_yields swap (within_sitesOf s hs)

/-! ## Tests of loops -/

mutual
/-- Taking parentheses off leads down the tree. -/
theorem within_unwrap {root : Node} {above : List Node} {test : Site} : ∀ {n : Node},
    Site.Within root ⟨n, above⟩ → Rule.unwrap above n = some test → test.Within root
  | ⟨_, _, _, _, _, _, _⟩, hn, h => by
    rw [Rule.unwrap] at h
    split at h
    · exact within_unwrapFirst (fun c hc => hn.down hc) h
    · cases h
      exact hn

/-- Taking parentheses off the first child that counts leads down the tree. -/
theorem within_unwrapFirst {root : Node} {above : List Node} {test : Site} : ∀ {ns : List Node},
    (∀ n ∈ ns, Site.Within root ⟨n, above⟩) → Rule.unwrapFirst above ns = some test →
      test.Within root
  | [], _, h => by cases h
  | n :: ns, hns, h => by
    obtain ⟨hn, hrest⟩ := List.forall_mem_cons.1 hns
    rw [Rule.unwrapFirst] at h
    split at h
    · exact within_unwrap hn h
    · exact within_unwrapFirst hrest h
end

/-- The test of a loop is below the loop. -/
theorem within_loopTest? {root : Node} {s test : Site} (hs : s.Within root)
    (h : Rule.loopTest? s = some test) : test.Within root := by
  rw [Rule.loopTest?] at h
  split at h
  · cases h
  · next c hc =>
    have hc : c.Within root := hs.child? hc
    split at h
    · obtain ⟨inner, hinner, h⟩ := Option.bind_eq_some_iff.1 h
      exact within_unwrap (hc.content inner (List.mem_of_head? hinner)) h
    · exact within_unwrap hc h

/-- The search for a loop bound plans clearly. -/
theorem findLoopBound_yields (h : d.Sound text) : PlansClear (Rule.findLoopBound d) := by
  refine Yields.findSomeM? fun s hs => ?_
  split
  · exact plansClear_none
  · next test htest =>
    exact h.planSwap_yields Operator.flipBoundary (within_loopTest? (within_sitesOf s hs) htest)

end Draft.Sound

end Sabotage
