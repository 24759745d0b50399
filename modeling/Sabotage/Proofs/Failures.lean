import Sabotage.Proofs.Fitting
import Sabotage.Proofs.Report

/-!
# How an injection fails

Over well-formed trees the rules do not fail and a run ends in a text, so that only the language,
the text given and the changed text can make an injection fail, and the weights. A weight of the
catalog is above zero, and can be used unless it is too large for a float (`Weight.IsHuge`). One
such weight makes every injection fail that has a budget (`inject_failures`).
-/

namespace Sabotage

open Bytes

/-! ## Weights -/

namespace Weight

/-- A weight that is too large for a float. -/
def IsHuge (w : Weight) : Prop :=
  (⟨w.value.natAbs, 0⟩ : Decimal).toFloat.isInf

/-- Whether a weight is too large can be told. -/
instance (w : Weight) : Decidable w.IsHuge :=
  inferInstanceAs (Decidable (_ = true))

/-- A weight other than zero can be used when it is not too large, and fails as such when it is. -/
theorem reciprocal_cases {w : Weight} (h : w.value ≠ 0) :
    (¬w.IsHuge ∧ ∃ x, w.reciprocal = .ok x) ∨ (w.IsHuge ∧ w.reciprocal = .error .tooLarge) := by
  by_cases hhuge : w.IsHuge
  · refine .inr ⟨hhuge, ?_⟩
    simp only [reciprocal, h, ↓reduceIte, if_pos (show _ = true from hhuge)]
  · refine .inl ⟨hhuge, ?_⟩
    simp only [reciprocal, h, ↓reduceIte, if_neg (show ¬_ = true from hhuge)]
    exact ⟨_, rfl⟩

/-- An override that counts is above zero. -/
theorem one_le_of_ofJson? {j : Json} {w : Weight} (h : ofJson? j = some w) : 1 ≤ w.value := by
  cases j with
  | int n =>
    rw [ofJson?] at h
    split at h
    · cases h
    · cases h
      rw [value]
      omega
  | bool b => cases b <;> cases h; decide
  | _ => cases h

end Weight

/-- The weights of a catalog are above zero. -/
theorem one_le_of_mem_catalog {overrides : Json} :
    ∀ entry ∈ catalog overrides, 1 ≤ entry.weight.value := by
  intro entry hentry
  obtain ⟨kind, -, rfl⟩ := List.mem_map.1 hentry
  rw [overriddenWeight]
  generalize hfound : List.findSome? _ overrides.fields.reverse = weight?
  cases weight? with
  | none => cases kind <;> decide
  | some w =>
    obtain ⟨⟨name, value⟩, -, hw⟩ := List.exists_of_findSome?_eq_some hfound
    exact Weight.one_le_of_ofJson? (Option.ite_none_right_eq_some.1 hw).2

/-! ## Draws under a weight that cannot be used -/

section
variable {ε τ σ ρ : Type} [WordSource σ]

/-- No keys are drawn when a weight cannot be used; the failure is that of one of the weights. -/
theorem drawKeys_fails {weight : ρ → Weight} {rules : List ρ}
    (h : ∃ r ∈ rules, ∃ e, (weight r).reciprocal = .error e) (s : σ) :
    ∃ e s', drawKeys weight rules s = (.error e, s') ∧
      ∃ r ∈ rules, (weight r).reciprocal = .error e := by
  induction rules generalizing s with
  | nil => obtain ⟨r, hr, -⟩ := h; cases hr
  | cons rule rest ih =>
    cases hrule : (weight rule).reciprocal with
    | error e =>
      exact ⟨e, (WordSource.unitFloat s).2, by simp only [drawKeys, hrule], rule,
        List.mem_cons_self, hrule⟩
    | ok x =>
      obtain ⟨r, hr, e, he⟩ := h
      have hrest : ∃ r ∈ rest, ∃ e, (weight r).reciprocal = .error e := by
        rcases List.mem_cons.1 hr with rfl | hr
        · rw [hrule] at he; cases he
        · exact ⟨r, hr, e, he⟩
      obtain ⟨e, s', hdraw, r, hr, he⟩ := ih hrest (WordSource.unitFloat s).2
      exact ⟨e, s', by simp only [drawKeys, hrule, hdraw], r, List.mem_cons_of_mem _ hr, he⟩

/-- A run with a budget fails in its first round when a weight cannot be used. -/
theorem rounds_fails {pool : List (Candidate ε τ)} (budget : Nat) (hbudget : budget ≠ 0)
    (h : ∃ c ∈ pool, ∃ e, c.weight.reciprocal = .error e) (t : τ) (s : σ) :
    ∃ e s', rounds budget pool t s = (.error (.weight e), s') ∧
      ∃ c ∈ pool, c.weight.reciprocal = .error e := by
  obtain ⟨budget, rfl⟩ := Nat.exists_eq_succ_of_ne_zero hbudget
  have hpool : pool.isEmpty = false := by
    obtain ⟨c, hc, -⟩ := h
    exact List.isEmpty_eq_false_iff.2 (List.ne_nil_of_mem hc)
  obtain ⟨e, s', hdraw, hweight⟩ := drawKeys_fails h s
  refine ⟨e, s', ?_, hweight⟩
  simp [rounds, hpool, weightedOrder, hdraw]

end

/-! ## Injections -/

/-- The failures a caller is told of: a language that is not known, a text that does not parse, and
a changed text that does not. -/
def InjectionError.IsDocumented : InjectionError → Prop
  | .unsupported _ | .parse _ | .unparsable _ => True
  | .weight _ | .draft _ => False

/-- A draft of a text is rendered unless it has faults. -/
theorem Draft.isDocumented_of_render {d : Draft} {text model : String} {e : InjectionError}
    (htext : d.source = ofString text) (h : d.render model = .error e) : e.IsDocumented := by
  rw [render] at h
  split at h
  · cases h
    trivial
  · rw [Draft.text, htext, toString?_ofString] at h
    cases h

/-- What a run without a failure amounts to fails only as documented, if it ends in a text. -/
theorem Injection.isDocumented_of_ofRun {code text : String} {language : Language}
    {applied : List BugKind} {d : Draft} {e : InjectionError} (htext : d.source = ofString text)
    (h : ofRun code language applied d = .error e) : e.IsDocumented := by
  rw [ofRun] at h
  split at h
  · cases h
  · split at h
    · next hrender =>
      cases h
      exact Draft.isDocumented_of_render htext hrender
    · cases h

/-- The weights of the candidates are those of the catalog. -/
theorem exists_candidate_weight (parser : Parser) {entries : List CatalogEntry}
    {p : Weight → Prop} :
    (∃ c ∈ candidates parser entries, p c.weight) ↔ ∃ entry ∈ entries, p entry.weight := by
  simp [candidates]

section
variable {σ : Type} [WordSource σ] {parser : Parser} {r : InjectionRequest}

/-- Under weights that can be used, an injection fails only as documented. -/
theorem isDocumented_of_inject (hp : parser.WellFormed) (hb : parser.BracesBlocks)
    (hw : (∀ entry ∈ catalog r.weights, ¬entry.weight.IsHuge) ∨ r.budget ≤ 0) {s s' : σ}
    {e : InjectionError} (h : inject parser r s = (.error e, s')) : e.IsDocumented := by
  rw [inject] at h
  split at h
  · -- The language of the request is not known.
    next he =>
    cases h
    rw [InjectionRequest.language] at he
    repeat' split at he
    all_goals cases he
    trivial
  split at h
  · cases h
    trivial
  next language _ _ _ hparse =>
  obtain rfl := Draft.eq_ofSource hparse
  have hspelled : (Draft.ofSource parser language r.path? (ofString r.code)).Spelled parser :=
    ⟨Draft.coherent_ofSource .., r.code, rfl⟩
  obtain ⟨out, s₁, hrun⟩ : ∃ out s₁, rounds r.budget.toNat (candidates parser (catalog r.weights))
      (Draft.ofSource parser language r.path? (ofString r.code)) s = (.ok out, s₁) := by
    rcases hw with hw | hbudget
    · refine rounds_finish (fun c hc => ?_) (BugKind.finishes hp hb) hspelled s
      obtain ⟨entry, hentry, rfl⟩ := List.mem_map.1 hc
      have hpos := one_le_of_mem_catalog entry hentry
      obtain ⟨-, husable⟩ | ⟨hhuge, -⟩ :=
        entry.weight.reciprocal_cases (by omega)
      · exact husable
      · exact absurd hhuge (hw entry hentry)
    · rw [Int.toNat_of_nonpos hbudget]
      exact ⟨_, _, rfl⟩
  rw [select, hrun] at h
  have hplayed := played_of_rounds leavesNoTrace_candidates hspelled.coherent hrun
  obtain ⟨text, htext⟩ := exists_text_of_played hp hb attempt_candidates hspelled hplayed
  exact Injection.isDocumented_of_ofRun htext (congrArg Prod.fst h)

/-- A weight that is too large makes an injection with a budget fail. -/
theorem inject_tooLarge (hhuge : ∃ entry ∈ catalog r.weights, entry.weight.IsHuge)
    (hbudget : 0 < r.budget) {language : Language} {d : Draft}
    (hlanguage : r.language = .ok language)
    (hparse : Draft.parse parser language r.path? r.code = .ok d) (s : σ) :
    (inject parser r s).1 = .error (.weight .tooLarge) := by
  have hcases : ∀ entry ∈ catalog r.weights, ∀ e, entry.weight.reciprocal = .error e →
      e = .tooLarge := by
    intro entry hentry e he
    have hpos := one_le_of_mem_catalog entry hentry
    obtain ⟨-, x, hx⟩ | ⟨-, hx⟩ := entry.weight.reciprocal_cases (by omega)
    · rw [hx] at he; cases he
    · rw [hx] at he; cases he; rfl
  have hfails : ∃ entry ∈ catalog r.weights, ∃ e, entry.weight.reciprocal = .error e := by
    obtain ⟨entry, hentry, hhuge⟩ := hhuge
    have hpos := one_le_of_mem_catalog entry hentry
    obtain ⟨hsmall, -⟩ | ⟨-, hx⟩ := entry.weight.reciprocal_cases (by omega)
    · exact absurd hhuge hsmall
    · exact ⟨entry, hentry, _, hx⟩
  obtain ⟨e, s', hrun, hweight⟩ := rounds_fails r.budget.toNat (by omega)
    ((exists_candidate_weight parser (p := fun w => ∃ e, w.reciprocal = .error e)).2 hfails) d s
  obtain ⟨entry, hentry, he⟩ := (exists_candidate_weight parser
    (p := fun w => w.reciprocal = .error e)).1 hweight
  obtain rfl := hcases entry hentry e he
  simp [inject, hlanguage, hparse, select, hrun]

/-- Over well-formed trees, whose blocks begin with a brace, an injection fails only for a language
that is not known, a text that does not parse or a changed text that does not, when it has no budget
or all weights of the catalog can be used. These are the weights that are not too large for a float;
a catalog with one that is makes every injection with a budget fail, once the text has parsed. -/
theorem inject_failures (hp : parser.WellFormed) (hb : parser.BracesBlocks) (s : σ) :
    (∀ entry ∈ catalog r.weights,
      (∃ x, entry.weight.reciprocal = .ok x) ↔ ¬entry.weight.IsHuge) ∧
    ((∀ entry ∈ catalog r.weights, ¬entry.weight.IsHuge) ∨ r.budget ≤ 0 →
      ∀ e, (inject parser r s).1 = .error e → e.IsDocumented) ∧
    ((∃ entry ∈ catalog r.weights, entry.weight.IsHuge) → 0 < r.budget →
      ∀ language d, r.language = .ok language →
        Draft.parse parser language r.path? r.code = .ok d →
        (inject parser r s).1 = .error (.weight .tooLarge)) := by
  refine ⟨fun entry hentry => ?_, fun hw e he => ?_, fun hhuge hbudget language d hl hd => ?_⟩
  · have hpos := one_le_of_mem_catalog entry hentry
    obtain ⟨hsmall, husable⟩ | ⟨hhuge, hx⟩ := entry.weight.reciprocal_cases (by omega)
    · exact iff_of_true husable hsmall
    · exact iff_of_false (by simp [hx]) (not_not_intro hhuge)
  · exact isDocumented_of_inject hp hb hw (Prod.ext he rfl)
  · exact inject_tooLarge hhuge hbudget hl hd s

end

/-! ## A weight of four hundred zeros -/

/-- The trees of the parser are well-formed. -/
theorem wellFormed_literalParser : literalParser.WellFormed := by
  have hleaf (text : String) :
      (⟨"program", true, false, 0, 0, none, []⟩ : Node).WellFormed text := by
    intro n hn
    simp only [Node.preorder, Node.preorderAll, List.mem_singleton] at hn
    subst hn
    exact ⟨Nat.le_refl 0, String.Pos.Raw.isValid_zero, String.Pos.Raw.isValid_zero,
      List.forall_mem_nil _, .nil⟩
  intro language text
  rw [literalParser]
  split
  · next h =>
    obtain rfl := ofString_injective h
    simp only [Node.WellFormed, literalTree, literalStatement, literalNode, commentNode,
      literalCode, Node.preorder, Node.preorderAll, List.append_nil, List.cons_append,
      List.nil_append, List.forall_mem_cons]
    refine ⟨?_, ?_, ?_, ?_, List.forall_mem_nil _⟩ <;> constructor <;> simp <;> decide
  · split
    · next h =>
      obtain rfl := ofString_injective h
      simp only [Node.WellFormed, negatedTree, negatedStatement, negatedNode, commentNode,
        negatedCode, Node.preorder, Node.preorderAll, List.append_nil, List.cons_append,
        List.nil_append, List.forall_mem_cons]
      refine ⟨?_, ?_, ?_, ?_, ?_, ?_, List.forall_mem_nil _⟩ <;> constructor <;> simp <;> decide
    · exact hleaf text

/-- The trees of the parser hold no block. -/
theorem bracesBlocks_literalParser : literalParser.BracesBlocks := by
  have hkinds (language : Language) (source : Bytes) :
      ∀ n ∈ (literalParser language source).preorder, n.kind ≠ "statement_block" := by
    rw [literalParser]
    split
    · decide
    · split <;> decide
  exact fun language text n hn hkind => absurd hkind (hkinds language (ofString text) n hn)

/-- Overrides that give one kind a weight too large for a float. -/
def heavyWeights : Json :=
  .obj [("offByOne", .int (10 ^ 400))]

/-- A request for a bug in an empty text, under these overrides. -/
def heavyRequest : InjectionRequest :=
  ⟨"", 1, none, none, heavyWeights⟩

/-- The draft of the empty text. -/
def emptyDraft : Draft :=
  ⟨.tsx, none, [], ⟨"program", true, false, 0, 0, none, []⟩, 0⟩

/-- The language of the request is the one of texts without a path. -/
theorem language_heavyRequest : heavyRequest.language = .ok .tsx :=
  congrArg Except.ok (show Language.detect "" = .tsx by cbv)

/-- The catalog takes the weight over. -/
theorem mem_catalog_heavyWeights :
    (⟨.offByOne, .count (10 ^ 400)⟩ : CatalogEntry) ∈ catalog heavyWeights := by
  decide +kernel

/-- The weight is too large. -/
theorem isHuge_heavy : (Weight.count (10 ^ 400)).IsHuge := by
  decide +kernel

/-- Under weights that are not too large, the empty text is given back; the request for a bug under
the heavy one fails. -/
theorem inject_failures_heavyRequest :
    literalParser.WellFormed ∧ literalParser.BracesBlocks ∧
      (∀ e, (inject literalParser { heavyRequest with weights := .null }
        (MersenneTwister.ofSeed 1)).1 = .error e → e.IsDocumented) ∧
      (inject literalParser heavyRequest (MersenneTwister.ofSeed 1)).1 =
        .error (.weight .tooLarge) := by
  obtain ⟨-, hsmall, -⟩ := inject_failures (r := { heavyRequest with weights := .null })
    wellFormed_literalParser bracesBlocks_literalParser (MersenneTwister.ofSeed 1)
  obtain ⟨-, -, hheavy⟩ := inject_failures (r := heavyRequest)
    wellFormed_literalParser bracesBlocks_literalParser (MersenneTwister.ofSeed 1)
  have hparse : Draft.parse literalParser .tsx none "" = .ok emptyDraft := by cbv
  exact ⟨wellFormed_literalParser, bracesBlocks_literalParser,
    hsmall (.inl (by decide +kernel)),
    hheavy ⟨_, mem_catalog_heavyWeights, isHuge_heavy⟩ (by decide) .tsx emptyDraft
      language_heavyRequest hparse⟩

/-- The catalog takes the weight over, but no order can be drawn with it, so that the injection
fails in a way that no caller is told of. -/
theorem inject_heavyRequest :
    (⟨.offByOne, .count (10 ^ 400)⟩ : CatalogEntry) ∈ catalog heavyRequest.weights ∧
      (Weight.count (10 ^ 400)).reciprocal = .error .tooLarge ∧
      (inject literalParser heavyRequest (MersenneTwister.ofSeed 1)).1 =
        .error (.weight .tooLarge) ∧
      ¬(InjectionError.weight .tooLarge).IsDocumented := by
  have hparse : Draft.parse literalParser .tsx none "" = .ok emptyDraft := by cbv
  have hweight : (Weight.count (10 ^ 400)).reciprocal = .error .tooLarge := by
    obtain ⟨hsmall, -⟩ | ⟨-, hweight⟩ :=
      Weight.reciprocal_cases (w := .count (10 ^ 400)) (pow_ne_zero 400 (by decide))
    · exact absurd isHuge_heavy hsmall
    · exact hweight
  have hhuge : ∃ entry ∈ catalog heavyRequest.weights, entry.weight.IsHuge :=
    ⟨_, mem_catalog_heavyWeights, isHuge_heavy⟩
  exact ⟨mem_catalog_heavyWeights, hweight,
    inject_tooLarge hhuge (by decide) language_heavyRequest hparse _, id⟩

end Sabotage
