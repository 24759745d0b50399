import Mathlib
import Sabotage.Injection
import Sabotage.Proofs.Rounds
import Sabotage.Random.MersenneTwister

/-!
# Replaying a run

What a run makes of a text depends on its random source and its weights only through the kinds it
puts in. An attempt of a rule either splices the draft once, or gives back the draft it was given
(`BugKind.apply_cases`); for this the draft has to hold the parse of its own source (`Coherent`),
since that is what a rollback makes anew. A run is therefore the same as calling the rules of the
kinds it put in, one after the other, without any that failed (`replay_of_played`), and two runs
over a text that put in the same kinds end in the same text (`replay_of_select`).
-/

namespace Sabotage

section
variable {parser : Parser} {d d' : Draft}

/-! ## One attempt -/

/-- What a splice gives holds its own parse, and one change more. -/
theorem Draft.splice_ok {edits : List Edit} (h : d.splice parser edits = .ok d') :
    d'.Coherent parser ∧ d'.edits = d.edits + 1 := by
  simp only [splice] at h
  split at h
  · cases h; exact ⟨rfl, rfl⟩
  · cases h

/-- A plan is carried out by one splice or leaves the draft as it was. -/
theorem Plan.carryOut_cases {plan : Plan} {changed : Bool} (hd : d.Coherent parser)
    (h : plan.carryOut parser d = .ok (changed, d')) :
    (changed = true ∧ d.splice parser plan.edits = .ok d') ∨ (changed = false ∧ d' = d) := by
  simp only [carryOut] at h
  split at h
  · cases h
  · next d₁ hs =>
    split at h
    · cases h
      exact .inr ⟨rfl, Draft.rollback_checkpoint hd hs⟩
    · cases h
      exact .inl ⟨rfl, hs⟩

/-- An attempt at a bug splices the draft once or leaves it as it was. -/
theorem BugKind.apply_cases {kind : BugKind} {changed : Bool} (hd : d.Coherent parser)
    (h : kind.apply parser d = .ok (changed, d')) :
    (changed = true ∧ ∃ edits, d.splice parser edits = .ok d') ∨ (changed = false ∧ d' = d) := by
  simp only [apply] at h
  split at h
  · cases h
  · cases h; exact .inr ⟨rfl, rfl⟩
  · next plan _ =>
    rcases Plan.carryOut_cases hd h with ⟨hc, hs⟩ | hc
    · exact .inl ⟨hc, plan.edits, hs⟩
    · exact .inr hc

/-- The rules of a catalog are those of its kinds. -/
theorem attempt_candidates {entries : List CatalogEntry} :
    ∀ c ∈ candidates parser entries, c.attempt = c.kind.apply parser := by
  intro c hc
  obtain ⟨entry, -, rfl⟩ := List.mem_map.1 hc
  rfl

/-- The rules of a catalog leave no trace in coherent drafts. -/
theorem leavesNoTrace_candidates {entries : List CatalogEntry} :
    ∀ c ∈ candidates parser entries, c.LeavesNoTrace (Draft.Coherent parser) := by
  intro c hc
  obtain ⟨entry, -, rfl⟩ := List.mem_map.1 hc
  refine ⟨fun ht h => ?_, fun ht h => ?_⟩
  · rcases BugKind.apply_cases ht h with ⟨-, edits, hs⟩ | ⟨-, rfl⟩
    · exact (Draft.splice_ok hs).1
    · exact ht
  · rcases BugKind.apply_cases ht h with ⟨hf, -⟩ | ⟨-, rfl⟩
    · cases hf
    · rfl

/-! ## The whole run -/

/-- Calls the rules of a list of kinds one after the other, and keeps their answers. -/
def replay (parser : Parser) : List BugKind → Draft → Except DraftError (List Bool × Draft)
  | [], d => .ok ([], d)
  | kind :: kinds, d =>
    match kind.apply parser d with
    | .error e => .error e
    | .ok (changed, d) =>
      match replay parser kinds d with
      | .error e => .error e
      | .ok (answers, d) => .ok (changed :: answers, d)

/-- Every rule of the kinds put in by a run finds a place when the rules are called again in that
order, and the end is that of the run, one change for each. -/
theorem replay_of_played {pool : List (Candidate DraftError Draft)} {budget : Nat}
    {kinds : List BugKind} (hpool : ∀ c ∈ pool, c.attempt = c.kind.apply parser)
    (hd : d.Coherent parser) (h : Played pool budget d kinds d') :
    replay parser kinds d = .ok (kinds.map fun _ => true, d') ∧
      d'.edits = d.edits + kinds.length := by
  induction h with
  | spent | stuck => exact ⟨rfl, rfl⟩
  | round hm ha _ ih =>
    rw [hpool _ hm] at ha
    rcases BugKind.apply_cases hd ha with ⟨-, edits, hs⟩ | ⟨hf, -⟩
    · obtain ⟨hd₁, hcount⟩ := Draft.splice_ok hs
      obtain ⟨hrest, hedits⟩ := ih (fun c hc => hpool c (List.mem_filter.1 hc).1) hd₁
      refine ⟨by simp only [replay, ha, hrest, List.map_cons], ?_⟩
      rw [hedits, hcount, List.length_cons]
      omega
    · cases hf

/-- A finished run over a text, under any weights, is replayed from a new draft of the text: each
rule it put in finds its place again, the replay ends in the draft of the run, and the changes
counted are those put in. Any other run over the text that put in the same kinds ends in the same
text. -/
theorem replay_of_select {σ : Type} [WordSource σ] {language : Language} {path? : Option String}
    {source : Bytes} {overrides : Json} {budget : Int} {s s' : σ} {out : Outcome Draft}
    (h : select (candidates parser (catalog overrides)) budget
      (Draft.ofSource parser language path? source) s = (.ok out, s')) :
    replay parser out.applied (Draft.ofSource parser language path? source) =
        .ok (out.applied.map fun _ => true, out.subject) ∧
      out.subject.edits = out.applied.length ∧
      ∀ {σ₂ : Type} [WordSource σ₂] (overrides₂ : Json) (budget₂ : Int) (s₂ s₂' : σ₂)
        (out₂ : Outcome Draft),
        select (candidates parser (catalog overrides₂)) budget₂
          (Draft.ofSource parser language path? source) s₂ = (.ok out₂, s₂') →
        out₂.applied = out.applied → out₂.subject.source = out.subject.source := by
  have hcoh := Draft.coherent_ofSource parser language path? source
  have replayed {σ₂ : Type} [WordSource σ₂] {overrides₂ : Json} {budget₂ : Int} {s₂ s₂' : σ₂}
      {out₂ : Outcome Draft}
      (h₂ : select (candidates parser (catalog overrides₂)) budget₂
        (Draft.ofSource parser language path? source) s₂ = (.ok out₂, s₂')) :=
    replay_of_played attempt_candidates hcoh (played_of_rounds leavesNoTrace_candidates hcoh h₂)
  obtain ⟨hreplay, hcount⟩ := replayed h
  refine ⟨hreplay, by simpa [Draft.ofSource] using hcount, ?_⟩
  intro σ₂ _ overrides₂ budget₂ s₂ s₂' out₂ h₂ heq
  obtain ⟨hreplay₂, -⟩ := replayed h₂
  rw [heq, hreplay] at hreplay₂
  have hsubject : out.subject = out₂.subject := congrArg Prod.snd (Except.ok.inj hreplay₂)
  rw [hsubject]

end

/-! ## A run over a boolean literal -/

/-- The literal of the text `true`. -/
def truthLiteral : Node :=
  ⟨"true", true, false, 0, 4, none, []⟩

/-- The statement of the text `true`. -/
def truthStatement : Node :=
  ⟨"expression_statement", true, false, 0, 4, none, [truthLiteral]⟩

/-- The tree of the text `true`. -/
def truthTree : Node :=
  ⟨"program", true, false, 0, 4, none, [truthStatement]⟩

/-- The tree of the text `!true`. -/
def negationTree : Node :=
  ⟨"program", true, false, 0, 5, none,
    [⟨"expression_statement", true, false, 0, 5, none,
      [⟨"unary_expression", true, false, 0, 5, none,
        [⟨"!", false, false, 0, 1, some .operator, []⟩, ⟨"true", true, false, 1, 5, none, []⟩]⟩]⟩]⟩

/-- A parser that knows these two texts. -/
def truthParser : Parser := fun _ source =>
  if source = Bytes.ofString "true" then truthTree else negationTree

/-- The draft of the text `true`. -/
def truthDraft : Draft :=
  Draft.ofSource truthParser .tsx none (Bytes.ofString "true")

/-- The draft of the text `true` once it is negated. -/
def negationDraft : Draft :=
  ⟨.tsx, none, Bytes.ofString "!true", negationTree, 1⟩

/-- In the text `true` only the negation has a place. -/
theorem plan?_truthDraft (kind : BugKind) :
    kind.plan? truthDraft =
      .ok (if kind = .booleanNegation then some (.single ⟨0, 4, "!true"⟩) else none) := by
  cases kind with
  | booleanNegation =>
    have hsites : truthDraft.sites = [⟨truthTree, []⟩, ⟨truthStatement, [truthTree]⟩,
        ⟨truthLiteral, [truthStatement, truthTree]⟩] := by
      cbv
    simp [BugKind.plan?, Rule.findNegation, hsites, List.findSomeM?, Rule.planNegation,
      Rule.isTruthExpression, Draft.binaryOperator, Rule.isNegated, Rule.needsOuterGroup,
      Site.parent?, Rule.looserThanNot, truthTree, truthStatement, truthLiteral, bind,
      Except.bind, pure, Except.pure, Except.map]
    cbv
  | _ => cbv

/-- What the rules make of the text `true`. -/
theorem apply_truthDraft (kind : BugKind) :
    kind.apply truthParser truthDraft =
      .ok (kind == .booleanNegation,
        if kind = .booleanNegation then negationDraft else truthDraft) := by
  cases kind with
  | booleanNegation =>
    simp only [BugKind.apply, plan?_truthDraft]
    cbv
  | _ => simp only [BugKind.apply, plan?_truthDraft]; rfl

/-- No rule has a place in the text `!true`. -/
theorem apply_negationDraft (kind : BugKind) :
    kind.apply truthParser negationDraft = .ok (false, negationDraft) := by
  cases kind <;> cbv

/-- Two rounds over the text `true` put in a negation alone. -/
theorem applied_truthDraft {kinds : List BugKind} {d : Draft}
    (h : Played (candidates truthParser (catalog .null)) 2 truthDraft kinds d) :
    kinds = [.booleanNegation] := by
  cases h with
  | stuck hall =>
    have hnone : BugKind.apply truthParser .booleanNegation truthDraft = .ok (false, truthDraft) :=
      hall ⟨.booleanNegation, .count 1, BugKind.apply truthParser .booleanNegation⟩
        (List.mem_map.2 ⟨⟨.booleanNegation, .count 1⟩, by decide, rfl⟩)
    rw [apply_truthDraft] at hnone
    cases hnone
  | round hc ha hrest =>
    rw [attempt_candidates _ hc, apply_truthDraft] at ha
    have hkind := congrArg Prod.fst (Except.ok.inj ha)
    simp only [beq_iff_eq] at hkind
    simp only [hkind, ↓reduceIte] at ha
    cases ha
    cases hrest with
    | stuck => rw [hkind]
    | round hc' ha' =>
      rw [attempt_candidates _ (List.mem_filter.1 hc').1, apply_negationDraft] at ha'
      cases ha'

/-- A run over the text `true` puts in a negation and no second bug, and calling that rule alone
leads to the same text. -/
theorem replay_truthDraft :
    ∃ out s', select (candidates truthParser (catalog .null)) 2
        (Draft.ofSource truthParser .tsx none (Bytes.ofString "true"))
        (MersenneTwister.ofSeed 7) = (.ok out, s') ∧
      out.applied = [.booleanNegation] ∧
      replay truthParser out.applied truthDraft = .ok ([true], out.subject) ∧
      out.subject.edits = 1 := by
  have hw : ∀ c ∈ candidates truthParser (catalog .null),
      ∃ x, c.weight.reciprocal = .ok x := by
    simp only [candidates, catalog, List.forall_mem_map]
    intro kind _
    cases kind <;> exact ⟨_, rfl⟩
  have hfinish : ∀ c ∈ candidates truthParser (catalog .null),
      c.Finishes fun d => d = truthDraft ∨ d = negationDraft := by
    simp only [candidates, List.forall_mem_map]
    rintro entry - d (rfl | rfl)
    · exact ⟨_, _, apply_truthDraft entry.kind, by split <;> simp⟩
    · exact ⟨_, _, apply_negationDraft entry.kind, .inr rfl⟩
  obtain ⟨out, s', h⟩ : ∃ out s', select (candidates truthParser (catalog .null)) 2
      (Draft.ofSource truthParser .tsx none (Bytes.ofString "true"))
      (MersenneTwister.ofSeed 7) = (.ok out, s') :=
    rounds_finish hw hfinish (.inl rfl) (MersenneTwister.ofSeed 7)
  have happlied := applied_truthDraft
    (played_of_rounds leavesNoTrace_candidates (Draft.coherent_ofSource ..) h)
  obtain ⟨hreplay, hcount, -⟩ := replay_of_select h
  rw [happlied] at hcount
  exact ⟨out, s', h, happlied, by rw [happlied] at hreplay ⊢; exact hreplay, hcount⟩

end Sabotage
