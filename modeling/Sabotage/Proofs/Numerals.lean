import Sabotage.Literal

/-!
# What numerals cannot hold

A text with a semicolon does not read as an integer or a float in any of the forms of number
literals, so that a literal that can be bumped holds none (`Literal.semicolon_not_mem`). Each reader
is followed to where the semicolon is met.
-/

namespace Sabotage

namespace Text

/-- What does not have the property stays when the ends of a list that have it are dropped. -/
theorem mem_trimBy {α : Type} {p : α → Bool} {xs : List α} {x : α} (hx : x ∈ xs)
    (hp : p x = false) : x ∈ trimBy p xs := by
  have hdrop {ys : List α} (hy : x ∈ ys) : x ∈ ys.dropWhile p := by
    rw [← List.takeWhile_append_dropWhile (p := p) (l := ys), List.mem_append] at hy
    refine hy.resolve_left fun hmem => ?_
    rw [List.all_eq_true.1 List.all_takeWhile x hmem] at hp
    cases hp
  rw [trimBy, List.mem_reverse]
  exact hdrop (List.mem_reverse.2 (hdrop hx))

end Text

namespace Numeral
open Text
variable {cs : List Char} {s : String}

/-- A semicolon is no digit. -/
theorem digitIn?_semicolon (base : Nat) : digitIn? base ';' = none := by
  have hvalue : digitValue? ';' = none := by decide
  simp [digitIn?, hvalue]

/-- A semicolon stays when a sign is split off. -/
theorem semicolon_mem_sign (h : ';' ∈ cs) : ';' ∈ (sign cs).2 := by
  rw [sign.eq_def]
  split
  · simpa using h
  · simpa using h
  · exact h

/-- A semicolon ends no digits of a base. -/
theorem digits?_semicolon {base : Nat} {afterDigit : Bool} (h : ';' ∈ cs) :
    digits? base afterDigit cs = none := by
  induction cs generalizing afterDigit with
  | nil => cases h
  | cons c cs ih =>
    rw [digits?]
    rcases List.mem_cons.1 h with rfl | h
    · simp [digitIn?_semicolon]
    · simp only [ih h, ite_self, Option.map_none]
      split
      · rfl
      · split <;> rfl

/-- A semicolon is still to be read after a run of decimal digits. -/
theorem semicolon_mem_digitRun {afterDigit : Bool} {ds : List Nat} {rest : List Char}
    (h : ';' ∈ cs) (hrun : digitRun afterDigit cs = some (ds, rest)) : ';' ∈ rest := by
  have hvalue : digitValue? ';' = none := by decide
  induction cs generalizing afterDigit ds with
  | nil => cases h
  | cons c cs ih =>
    rw [digitRun.eq_def] at hrun
    simp only at hrun
    split at hrun
    · next hc =>
      have hcs : ';' ∈ cs := (List.mem_cons.1 h).resolve_left (by rw [hc]; decide)
      split at hrun
      · split at hrun
        · split at hrun
          · exact ih hcs hrun
          · cases hrun
        · cases hrun
      · cases hrun
    · split at hrun
      · next d hd =>
        obtain ⟨run, hrest, heq⟩ := Option.map_eq_some_iff.1 hrun
        cases heq
        refine ih ((List.mem_cons.1 h).resolve_left ?_) hrest
        rintro rfl
        rw [hvalue] at hd
        cases hd
      · split at hrun
        · cases hrun
          exact h
        · cases hrun

/-- A semicolon is still to be read after a fraction part. -/
theorem semicolon_mem_fraction {whole : Bool} {ds : List Nat} {rest : List Char} (h : ';' ∈ cs)
    (hrun : fraction whole cs = some (ds, rest)) : ';' ∈ rest := by
  rw [fraction.eq_def] at hrun
  split at hrun
  · next r =>
    have hr : ';' ∈ r := (List.mem_cons.1 h).resolve_left (by decide)
    split at hrun
    · split at hrun
      · exact semicolon_mem_digitRun hr hrun
      · split at hrun <;> cases hrun
        exact hr
    · cases hr
  · split at hrun <;> cases hrun
    exact h

/-- A semicolon ends no exponent part. -/
theorem exponent?_semicolon (h : ';' ∈ cs) : exponent? cs = none := by
  cases cs with
  | nil => cases h
  | cons c cs =>
    rw [exponent?.eq_def]
    simp only
    split
    · next hc =>
      have hcs : ';' ∈ cs :=
        (List.mem_cons.1 h).resolve_left (by rcases hc with rfl | rfl <;> decide)
      split
      · next hrun =>
        exact absurd (semicolon_mem_digitRun (semicolon_mem_sign hcs) hrun) List.not_mem_nil
      · rfl
    · rfl

/-- A semicolon stays when the blanks around a numeral are dropped. -/
theorem semicolon_mem_trim (h : ';' ∈ cs) : ';' ∈ trim cs :=
  mem_trimBy h (by decide)

/-- A text with a semicolon is no integer. -/
theorem readInt?_semicolon {base : Nat} (h : ';' ∈ s.toList) : readInt? base s = none := by
  simp only [readInt?, digits?_semicolon (semicolon_mem_sign (semicolon_mem_trim h))]

/-- A text with a semicolon is no integer in an announced base. -/
theorem readAnnounced?_semicolon (h : ';' ∈ s.toList) : readAnnounced? s = none := by
  have htrim := semicolon_mem_trim h
  rw [readAnnounced?]
  split
  · next letter rest heq =>
    rw [heq] at htrim
    split
    · next base hbase =>
      have hrest : ';' ∈ rest := by
        rcases List.mem_cons.1 ((List.mem_cons.1 htrim).resolve_left (by decide)) with hl | hr
        · rw [← hl] at hbase
          cases hbase
        · exact hr
      refine Option.map_eq_none_iff.2 (digits?_semicolon ?_)
      split
      · simpa using hrest
      · exact hrest
    · rfl
  · rfl

/-- A text with a semicolon is no float. -/
theorem readFloat?_semicolon (h : ';' ∈ s.toList) : readFloat? s = none := by
  have hbody := semicolon_mem_sign (semicolon_mem_trim h)
  have hlower : ';' ∈ ((sign (trim s.toList)).2).map Char.toLower :=
    List.mem_map.2 ⟨_, hbody, by decide⟩
  have hnone (word : String) (h : ';' ∉ word.toList) :
      ((sign (trim s.toList)).2).map Char.toLower ≠ word.toList :=
    fun heq => h (heq ▸ hlower)
  simp only [readFloat?]
  rw [if_neg (not_or.2 ⟨hnone "inf" (by decide), hnone "infinity" (by decide)⟩),
    if_neg (hnone "nan" (by decide))]
  -- Whichever digits come first, the semicolon is left for the exponent.
  have hlast {rest : List Char} (hrest : ';' ∈ rest) {whole : Bool} {α : Type}
      (f : List Nat × List Char → Int → Option α) :
      ((fraction whole rest).bind fun r => (exponent? r.2).bind (f r)) = none := by
    refine Option.bind_eq_none_iff.2 fun ⟨part, rest'⟩ hpart => ?_
    rw [exponent?_semicolon (semicolon_mem_fraction hrest hpart)]
    rfl
  split
  · split
    · exact Option.bind_eq_none_iff.2 fun run hrun => hlast (semicolon_mem_digitRun hbody hrun) _
    · exact hlast hbody _
  · next hempty =>
    rw [hempty] at hbody
    cases hbody

end Numeral

/-- A number literal that can be bumped holds no semicolon. -/
theorem Literal.semicolon_not_mem {text bumped : String} (h : Literal.bump? text = some bumped) :
    ';' ∉ text.toList := by
  intro hmem
  have hraw : ';' ∈ (String.ofList (text.toList.filter (· != '_'))).toList := by
    rw [String.toList_ofList]
    exact List.mem_filter.2 ⟨hmem, rfl⟩
  simp only [Literal.bump?, Literal.successor?, Numeral.readInt?_semicolon hraw,
    Numeral.readAnnounced?_semicolon hraw, Numeral.readFloat?_semicolon hraw, Option.bind_none] at h
  split at h
  · cases h
  · split at h <;> cases h

end Sabotage
