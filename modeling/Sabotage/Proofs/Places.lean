import Sabotage.Injection
import Sabotage.Proofs.Contract

/-!
# Where a bug has a place

A rule looks only at nodes of some kinds, so that a draft without such nodes has no place for its
bug (`BugKind.plan?_eq_none`). When a single kind of bug has a place in a draft, and no other has
one afterwards, a run puts in that kind alone whatever its random source does (`select_single`), and
the whole injection is what rendering makes of it (`inject_single`).
-/

namespace Sabotage

/-! ## Kinds of nodes looked at -/

/-- The kinds of nodes that the rule of a bug looks at. -/
def BugKind.sought : BugKind → List String
  | .booleanNegation => ["true", "false", "binary_expression"]
  | .offByOne => Rule.loopKinds
  | .invertTernaryBranches => ["ternary_expression"]
  | .indexOffByOne => ["subscript_expression", "call_expression"]
  | .homoglyphSabotage => ["identifier"]
  | .scopeGaslighting => Scope.functionKinds
  | _ => ["binary_expression"]

/-- Rules do not look at the path of a text. -/
theorem BugKind.plan?_path (kind : BugKind) (d : Draft) (path? : Option String) :
    kind.plan? { d with path? } = kind.plan? d := by
  cases kind <;> rfl

/-- What a rule makes of a text it makes of it under every path. -/
theorem BugKind.apply_path {parser : Parser} {kind : BugKind} {d d' : Draft} {changed : Bool}
    (h : kind.apply parser d = .ok (changed, d')) (path? : Option String) :
    kind.apply parser { d with path? } = .ok (changed, { d' with path? }) := by
  rw [apply] at h ⊢
  rw [plan?_path]
  rcases hplan : kind.plan? d with e | (_ | plan)
  · rw [hplan] at h
    cases h
  · rw [hplan] at h
    cases h
    rfl
  · rw [hplan] at h
    simp only [Plan.carryOut, Draft.splice] at h ⊢
    cases hedits : Edit.applyAll plan.edits d.source with
    | error e => simp only [hedits] at h; cases h
    | ok source =>
      simp only [hedits] at h ⊢
      split at h
      · next hguard =>
        cases h
        exact if_pos hguard
      · next hguard =>
        cases h
        exact if_neg hguard

/-- A search over nothing finds nothing. -/
theorem Draft.findSomeM?_sitesOf {d : Draft} {kinds : List String}
    {f : Site → Except DraftError (Option Plan)}
    (h : ∀ n ∈ d.root.preorder, n.kind ∉ kinds) :
    (d.sitesOf kinds).findSomeM? f = .ok none := by
  have hnil : d.sitesOf kinds = [] := by
    refine List.filter_eq_nil_iff.2 fun s hs hkind => ?_
    exact h s.node (Site.within_sites s hs).mem_preorder.1 (by simpa using hkind)
  rw [hnil]
  rfl

/-- A draft without nodes of the kinds that a rule looks at has no place for its bug. -/
theorem BugKind.plan?_eq_none {d : Draft} {kind : BugKind}
    (h : ∀ n ∈ d.root.preorder, n.kind ∉ kind.sought) : kind.plan? d = .ok none := by
  cases kind with
  | booleanNegation =>
    have hnone : ∀ ss : List Site, (∀ s ∈ ss, s.node ∈ d.root.preorder) →
        ss.findSomeM? (Rule.planNegation d) = .ok none := by
      intro ss hss
      induction ss with
      | nil => rfl
      | cons s ss ih =>
        have hkind := h s.node (hss s List.mem_cons_self)
        simp only [sought, List.mem_cons, List.not_mem_nil, or_false, not_or] at hkind
        have hplan : Rule.planNegation d s = .ok none := by
          simp [Rule.planNegation, Rule.isTruthExpression, Draft.binaryOperator, hkind, bind,
            Except.bind, Except.map, pure, Except.pure]
        rw [List.findSomeM?_cons, hplan]
        exact ih fun s hs => hss s (List.mem_cons_of_mem _ hs)
    exact hnone _ fun s hs => (Site.within_sites s hs).mem_preorder.1
  | _ => exact Draft.findSomeM?_sitesOf h

/-! ## Runs with a single place -/

section
variable {σ : Type} [WordSource σ] {parser : Parser} {kind : BugKind} {d d' : Draft}

/-- When a single kind of bug has a place in a draft, and afterwards no other has, the rounds of a
run put in that kind alone. -/
theorem played_single {n : Nat} {applied : List BugKind} {subject : Draft}
    (hfirst : ∀ k : BugKind,
      k.apply parser d = .ok (k == kind, if k = kind then d' else d))
    (hsecond : ∀ k ≠ kind, k.apply parser d' = .ok (false, d'))
    (h : Played (candidates parser (catalog .null)) (n + 1) d applied subject) :
    applied = [kind] ∧ subject = d' := by
  cases h with
  | stuck hall =>
    -- The kind that has a place is in the catalog.
    have hmem : kind ∈ (catalog .null).map CatalogEntry.kind := by
      rw [map_kind_catalog]
      exact kind.mem_all
    obtain ⟨entry, hentry, rfl⟩ := List.mem_map.1 hmem
    have hnone := hall _ (List.mem_map_of_mem hentry)
    simp only [hfirst] at hnone
    simp at hnone
  | round hc ha hrest =>
    rw [attempt_candidates _ hc, hfirst] at ha
    have hkind := congrArg Prod.fst (Except.ok.inj ha)
    simp only [beq_iff_eq] at hkind
    simp only [hkind, ↓reduceIte, beq_self_eq_true] at ha
    cases ha
    cases hrest with
    | spent | stuck => exact ⟨by rw [hkind], rfl⟩
    | round hc' ha' =>
      obtain ⟨hc', hother⟩ := List.mem_filter.1 hc'
      rw [attempt_candidates _ hc', hsecond _ (by simpa [hkind] using hother)] at ha'
      cases ha'

/-- When a single kind of bug has a place in a draft, and afterwards no other has, a run under the
default weights puts in that kind alone. The rules have to finish on all drafts that come up. -/
theorem select_single {inv : Draft → Prop}
    (hfinish : ∀ (k : BugKind) (t : Draft), inv t → ∃ b t', k.apply parser t = .ok (b, t') ∧ inv t')
    (hinv : inv d)
    (hfirst : ∀ k : BugKind,
      k.apply parser d = .ok (k == kind, if k = kind then d' else d))
    (hsecond : ∀ k ≠ kind, k.apply parser d' = .ok (false, d')) (hd : d.Coherent parser)
    {budget : Int} (hbudget : 0 < budget) (s : σ) :
    ∃ s', select (candidates parser (catalog .null)) budget d s = (.ok ⟨[kind], d'⟩, s') := by
  have hw : ∀ c ∈ candidates parser (catalog .null), ∃ x, c.weight.reciprocal = .ok x := by
    simp only [candidates, catalog, List.forall_mem_map]
    intro kind _
    cases kind <;> exact ⟨_, rfl⟩
  have hfinish : ∀ c ∈ candidates parser (catalog .null), c.Finishes inv := by
    simp only [candidates, List.forall_mem_map]
    exact fun entry _ t ht => hfinish entry.kind t ht
  obtain ⟨⟨applied, subject⟩, s', hrun⟩ : ∃ out s',
      select (candidates parser (catalog .null)) budget d s = (.ok out, s') :=
    rounds_finish hw hfinish hinv s
  have hplayed := played_of_rounds leavesNoTrace_candidates hd hrun
  obtain ⟨n, hn⟩ : ∃ n, budget.toNat = n + 1 := ⟨budget.toNat - 1, by omega⟩
  rw [hn] at hplayed
  obtain ⟨rfl, rfl⟩ := played_single hfirst hsecond hplayed
  exact ⟨s', hrun⟩

/-- When a single kind of bug has a place in a text, and afterwards no other has, a request under
the default weights, or others that give the same catalog, is answered with that kind alone. -/
theorem inject_single {r : InjectionRequest} {language : Language}
    (hlanguage : r.language = .ok language)
    (hparse : Draft.parse parser language r.path? r.code = .ok d)
    (hweights : catalog r.weights = catalog .null) (hbudget : 0 < r.budget)
    {inv : Draft → Prop}
    (hfinish : ∀ (k : BugKind) (t : Draft), inv t → ∃ b t', k.apply parser t = .ok (b, t') ∧ inv t')
    (hinv : inv d)
    (hfirst : ∀ k : BugKind,
      k.apply parser d = .ok (k == kind, if k = kind then d' else d))
    (hsecond : ∀ k ≠ kind, k.apply parser d' = .ok (false, d')) (s : σ) :
    ∃ s', inject parser r s = (Injection.ofRun r.code language [kind] d', s') := by
  have hcoherent : d.Coherent parser :=
    Draft.eq_ofSource hparse ▸ Draft.coherent_ofSource parser language r.path? _
  obtain ⟨s', hselect⟩ := select_single hfinish hinv hfirst hsecond hcoherent hbudget s
  refine ⟨s', ?_⟩
  simp only [inject, hlanguage, hparse, hweights, hselect]

end

end Sabotage
