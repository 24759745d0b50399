import Sabotage.Text.LineEnding

/-!
# The line break at the end

`matchFinalBreak` gives a text a line break at its end, or takes one away, so that it ends as a
model does. One is enough to give; but where a text that should end without a break ends with two,
one is still there (`endsWithBreak_matchFinalBreak`).
-/

namespace Sabotage.Text

variable {cs : List Char}

/-- At most one line break: nothing, or the break of a convention. -/
def AtMostOneBreak (cs : List Char) : Prop :=
  cs = [] ∨ ∃ e : LineEnding, cs = e.chars

/-- A text with the break of a convention at its end ends with a break. -/
theorem endsWithBreak_append (cs : List Char) (e : LineEnding) :
    endsWithBreak (cs ++ e.chars) = true := by
  cases e <;> simp [endsWithBreak, LineEnding.chars]

/-- What is dropped of a text that ends with a break is the break of a convention. -/
theorem exists_dropBreak_append (h : endsWithBreak cs = true) :
    ∃ e : LineEnding, cs = dropBreak cs ++ e.chars := by
  obtain ⟨rest, rfl⟩ : ∃ rest, cs = rest ++ ['\n'] :=
    List.getLast?_eq_some_iff.1 (by simpa [endsWithBreak] using h)
  -- The break is the longer one when a carriage return stands before the line feed.
  rcases hlast : rest.reverse with _ | ⟨c, before⟩
  · exact ⟨.lf, by simp [dropBreak, hlast, LineEnding.chars]; simpa using hlast⟩
  · have hrest : rest = before.reverse ++ [c] := by simpa using congrArg List.reverse hlast
    by_cases hc : c = '\r'
    · exact ⟨.crlf, by simp [hrest, hc, dropBreak, LineEnding.chars]⟩
    · exact ⟨.lf, by simp [hrest, dropBreak, LineEnding.chars, hc]⟩

/-- After a line feed, what is dropped is the break of a convention and no more. -/
theorem dropBreak_append (cs : List Char) (e : LineEnding) :
    dropBreak (cs ++ '\n' :: e.chars) = cs ++ ['\n'] := by
  cases e <;> simp [dropBreak, LineEnding.chars]

/-- A text ends with a break also after one is dropped when it ends with two. -/
theorem endsWithBreak_dropBreak (h : endsWithBreak cs = true) :
    endsWithBreak (dropBreak cs) = true ↔
      ∃ (stem : List Char) (e : LineEnding), cs = stem ++ '\n' :: e.chars := by
  constructor
  · intro hdrop
    obtain ⟨e, hcs⟩ := exists_dropBreak_append h
    obtain ⟨stem, hstem⟩ : ∃ stem, dropBreak cs = stem ++ ['\n'] :=
      List.getLast?_eq_some_iff.1 (by simpa [endsWithBreak] using hdrop)
    refine ⟨stem, e, ?_⟩
    rw [hstem] at hcs
    simpa using hcs
  · rintro ⟨stem, e, rfl⟩
    rw [dropBreak_append]
    exact endsWithBreak_append stem .lf

/-- A text matched with a model ends with a break when the model does, and also when it ended with
two breaks before. It is changed by one break at its end at most. -/
theorem endsWithBreak_matchFinalBreak (model content : String) :
    (endsWithBreak (matchFinalBreak model content).toList = true ↔
      endsWithBreak model.toList = true ∨
        ∃ (stem : List Char) (e : LineEnding), content.toList = stem ++ '\n' :: e.chars) ∧
    ∃ stem before after : List Char, AtMostOneBreak before ∧ AtMostOneBreak after ∧
      content.toList = stem ++ before ∧ (matchFinalBreak model content).toList = stem ++ after := by
  have htwo {cs : List Char} (h : ∃ (stem : List Char) (e : LineEnding),
      cs = stem ++ '\n' :: e.chars) : endsWithBreak cs = true := by
    obtain ⟨stem, e, rfl⟩ := h
    simpa using endsWithBreak_append (stem ++ ['\n']) e
  cases hmodel : endsWithBreak model.toList <;> cases hcontent : endsWithBreak content.toList
  · -- Neither ends with a break.
    have heq : matchFinalBreak model content = content := by
      simp [matchFinalBreak, hmodel, hcontent]
    rw [heq]
    refine ⟨⟨fun h => ?_, fun h => ?_⟩, content.toList, [], [], .inl rfl, .inl rfl, by simp, by simp⟩
    · rw [hcontent] at h
      cases h
    · exact htwo (h.resolve_left Bool.false_ne_true)
  · -- The break of the content is dropped.
    have heq : (matchFinalBreak model content).toList = dropBreak content.toList := by
      simp [matchFinalBreak, hmodel, hcontent]
    obtain ⟨e, hdrop⟩ := exists_dropBreak_append hcontent
    rw [heq, endsWithBreak_dropBreak hcontent]
    exact ⟨⟨.inr, fun h => h.resolve_left Bool.false_ne_true⟩,
      dropBreak content.toList, e.chars, [], .inr ⟨e, rfl⟩, .inl rfl, hdrop, by simp⟩
  · -- The break of the model is added.
    have heq : (matchFinalBreak model content).toList =
        content.toList ++ (LineEnding.detect model).chars := by
      simp [matchFinalBreak, hmodel, hcontent]
    rw [heq]
    exact ⟨⟨fun _ => .inl rfl, fun _ => endsWithBreak_append _ _⟩,
      content.toList, [], _, .inl rfl, .inr ⟨_, rfl⟩, by simp, rfl⟩
  · -- Both end with a break.
    have heq : matchFinalBreak model content = content := by
      simp [matchFinalBreak, hmodel, hcontent]
    rw [heq]
    exact ⟨⟨fun _ => .inl rfl, fun _ => hcontent⟩,
      content.toList, [], [], .inl rfl, .inl rfl, by simp, by simp⟩

/-- A text that ends with two line feeds keeps one, although the model ends with none. -/
theorem endsWithBreak_twoBreaks :
    endsWithBreak "a".toList = false ∧
      endsWithBreak (matchFinalBreak "a" "a\n\n").toList = true := by
  decide

end Sabotage.Text
