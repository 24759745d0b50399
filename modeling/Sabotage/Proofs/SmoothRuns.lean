import Sabotage.Injection
import Sabotage.Proofs.Contract
import Sabotage.Proofs.SmoothPlans

/-!
# What a run keeps of the line breaks

Under a tidy parser an attempt at a bug that finds a place keeps the line breaks of the source, as
they stand side by side and at the end (`BugKind.apply_retains`). So does a whole run
(`retains_of_played`). What a run ends with is therefore rendered by a change of convention alone:
the line break at the end needs no repair (`Draft.render_eq`), and another change to the same
convention does nothing (`normalize_eq_self`).
-/

namespace Sabotage

open Bytes

/-! ## Line breaks kept -/

/-- The breaks of a byte string stand side by side only as those of another one do, and one stands
at its end as it does there. -/
structure Bytes.Retains (bytes source : Bytes) : Prop where
  quotes : bytes.Quotes source
  last : (marks bytes).getLast? = some .lineFeed ↔ (marks source).getLast? = some .lineFeed

/-- A byte string keeps its own breaks. -/
theorem Bytes.Retains.refl (source : Bytes) : source.Retains source :=
  ⟨fun _ _ h => h, .rfl⟩

/-- Breaks kept by one change and then by another are kept by both. -/
theorem Bytes.Retains.trans {bytes other source : Bytes} (h : bytes.Retains other)
    (h' : other.Retains source) : bytes.Retains source :=
  ⟨fun R hR hs => h.quotes R hR (h'.quotes R hR hs), h.last.trans h'.last⟩

section
variable {parser : Parser} {d d' : Draft} {kind : BugKind}

/-- An attempt at a bug that finds a place keeps the line breaks. -/
theorem BugKind.apply_retains (hp : parser.Tidy) (hd : d.Coherent parser)
    (h : kind.apply parser d = .ok (true, d')) :
    d'.Coherent parser ∧ d'.source.Retains d.source := by
  obtain ⟨hcoherent, plan, hplan, happly⟩ := BugKind.apply_plans h
  have hsmooth := hplan.smooth (hd.tidy hp)
  exact ⟨hcoherent, Edit.quotes_applyAll hsmooth.smooth hsmooth.quotes happly,
    Edit.getLast?_applyAll hsmooth.smooth happly⟩

/-! ## Runs -/

/-- What each attempt that finds a place keeps is kept by a run. -/
theorem forall_of_played {p : Draft → Prop} {pool : List (Candidate DraftError Draft)}
    {budget : Nat} {kinds : List BugKind}
    (hpool : ∀ c ∈ pool, c.attempt = c.kind.apply parser)
    (hstep : ∀ (kind : BugKind) (d d' : Draft), d.Coherent parser →
      kind.apply parser d = .ok (true, d') → p d → p d')
    (hd : d.Coherent parser) (h : Played pool budget d kinds d') (hstart : p d) : p d' := by
  induction h with
  | spent | stuck => exact hstart
  | @round pool budget c t t₁ kinds t' hm ha _ ih =>
    rw [hpool _ hm] at ha
    exact ih (fun c hc => hpool c (List.mem_filter.1 hc).1) (BugKind.apply_plans ha).1
      (hstep _ _ _ hd ha hstart)

/-- A run keeps the line breaks of the source. -/
theorem retains_of_played {pool : List (Candidate DraftError Draft)} {budget : Nat}
    {kinds : List BugKind} (hp : parser.Tidy)
    (hpool : ∀ c ∈ pool, c.attempt = c.kind.apply parser) (hd : d.Coherent parser)
    (h : Played pool budget d kinds d') : d'.source.Retains d.source :=
  forall_of_played (p := fun t => t.source.Retains d.source) hpool
    (fun _ _ _ hd ha hkept => (BugKind.apply_retains hp hd ha).2.trans hkept) hd h (.refl _)

end

/-! ## Rendering -/

namespace Text
variable {text model : String}

/-- The characters of a text in a convention. -/
theorem toList_normalize (e : LineEnding) (s : String) :
    (normalize e s).toList = normalizeChars e s.toList :=
  String.toList_ofList

/-- A text that keeps the line breaks of a model without pairs of them has no pairs. -/
theorem toLf_of_retains (h : (ofString text).Retains (ofString model))
    (hmodel : hasCrlf model.toList = false) : toLf text.toList = text.toList := by
  refine toLf_eq_self ((chained_ofString Mark.apart_plain _).1 ?_)
  refine h.quotes _ Mark.apart_plain ((chained_ofString Mark.apart_plain _).2 ?_)
  exact isChain_apart_of_hasCrlf hmodel

/-- Line breaks kept, a text in the convention of its model ends with one when the model does. -/
theorem matchFinalBreak_of_retains (h : (ofString text).Retains (ofString model)) (e : LineEnding) :
    matchFinalBreak model (normalize e text) = normalize e text := by
  have hend : endsWithBreak (normalize e text).toList = endsWithBreak model.toList := by
    rw [Bool.eq_iff_iff, endsWithBreak_iff, endsWithBreak_iff, ← getLast?_marks_ofString model,
      ← h.last, getLast?_marks_ofString, List.getLast?_map, List.getLast?_map, toList_normalize,
      getLast?_normalizeChars]
  simp [matchFinalBreak, hend]

/-- A text brought to the convention of its model is in that convention. -/
theorem normalize_eq_self (h : (ofString text).Retains (ofString model)) :
    normalize (.detect model) (normalize (.detect model) text) =
      normalize (.detect model) text := by
  refine String.toList_injective ?_
  rw [toList_normalize, toList_normalize, LineEnding.detect]
  split
  · rw [normalizeChars, normalizeChars, toLf_toCrlf]
  · next hlf =>
    have hself := toLf_of_retains h (Bool.eq_false_iff.2 hlf)
    rw [normalizeChars, normalizeChars, hself, hself]

/-- A text that becomes its model when it is brought to the model's convention is the model. -/
theorem eq_of_normalize_eq (h : (ofString text).Retains (ofString model))
    (heq : normalize (.detect model) text = model) : text = model := by
  have hchars : normalizeChars (.detect model) text.toList = model.toList := by
    rw [← toList_normalize, heq]
  rw [LineEnding.detect] at hchars
  refine String.toList_injective ?_
  split at hchars
  · rw [normalizeChars] at hchars
    rw [← hchars]
    refine (toCrlf_toLf_eq_self ((chained_ofString Mark.paired_plain _).1 ?_)).symm
    refine h.quotes _ Mark.paired_plain ((chained_ofString Mark.paired_plain _).2 ?_)
    rw [← hchars]
    exact isChain_paired_toCrlf _
  · next hlf =>
    rwa [normalizeChars, toLf_of_retains h (Bool.eq_false_iff.2 hlf)] at hchars

end Text

/-- A draft that keeps the line breaks of the text it came from is rendered by a change of
convention alone. -/
theorem Draft.render_eq {d : Draft} {model code : String}
    (h : d.source.Retains (ofString model)) (hrender : d.render model = .ok code) :
    ∃ text, d.source = ofString text ∧ (ofString text).Retains (ofString model) ∧
      code = Text.normalize (.detect model) text := by
  rw [render] at hrender
  split at hrender
  · cases hrender
  · rw [Draft.text] at hrender
    cases htext : toString? d.source with
    | none => rw [htext] at hrender; cases hrender
    | some text =>
      rw [htext] at hrender
      cases hrender
      have hsource := ofString_of_toString? htext
      rw [← hsource] at h
      exact ⟨text, hsource.symm, h, Text.matchFinalBreak_of_retains h _⟩

/-! ## Injections -/

/-- What an injection gives was played from the text given, and rendered when there is a bug. -/
theorem played_of_inject {σ : Type} [WordSource σ] {parser : Parser} {r : InjectionRequest}
    {s s' : σ} {i : Injection} (h : inject parser r s = (.ok i, s')) :
    ∃ d', Played (candidates parser (catalog r.weights)) r.budget.toNat
        (Draft.ofSource parser i.language r.path? (ofString r.code)) i.applied d' ∧
      (i.applied = [] → i.code = r.code ∧ i.change? = none) ∧
      (i.applied ≠ [] → d'.render r.code = .ok i.code ∧
        i.change? = Text.ChangeRange.between? r.code i.code) := by
  rw [inject] at h
  split at h
  · cases h
  · next language _ =>
    split at h
    · cases h
    · next d hparse =>
      split at h
      · cases h
      · cases h
      · next out s₁ hselect =>
        obtain rfl := Draft.eq_ofSource hparse
        have hplayed :=
          played_of_rounds leavesNoTrace_candidates (Draft.coherent_ofSource ..) hselect
        have hrun : Injection.ofRun r.code language out.applied out.subject = .ok i :=
          congrArg Prod.fst h
        rw [Injection.ofRun] at hrun
        split at hrun
        · next hempty =>
          cases hrun
          rw [List.isEmpty_iff.1 hempty] at hplayed
          exact ⟨_, hplayed, fun _ => ⟨rfl, rfl⟩, fun hne => absurd rfl hne⟩
        · next hne =>
          split at hrun
          · cases hrun
          · next code hrender =>
            cases hrun
            exact ⟨_, hplayed, fun hempty => absurd (List.isEmpty_iff.2 hempty) hne,
              fun _ => ⟨hrender, rfl⟩⟩

end Sabotage
