import Mathlib.Data.List.Basic
import Sabotage.Homoglyph
import Sabotage.Literal
import Sabotage.Operator
import Sabotage.Proofs.Breaks

/-!
# Texts put in the place of tokens

What the rules write in the place of an operator, a number or a name holds no line break and is not
empty: the spellings of operators (`Operator.isUnbroken_text`), the figures of a bumped number
(`Literal.isUnbroken_bump?`), and a name in which a letter became its look-alike
(`isUnbroken_spoof?`).
-/

namespace Sabotage

open Bytes

/-! ## Operators -/

/-- An operator is what its spelling spells. -/
theorem Operator.text_of_ofText? {s : String} {op : Operator} (h : Operator.ofText? s = some op) :
    op.text = s := by
  simpa using List.find?_some h

/-- The spelling of an operator has no line break and is not empty. -/
theorem Operator.isUnbroken_text (op : Operator) :
    isUnbroken (ofString op.text) ∧ ofString op.text ≠ [] := by
  cases op <;> decide

/-! ## Numbers -/

namespace Decimal

/-- The characters that numbers are written with, and the words `inf` and `nan`. -/
def isFigure (c : Char) : Bool :=
  c.isDigit || ['+', '-', '.', 'a', 'e', 'f', 'i', 'n'].contains c

/-- Digits are figures. -/
theorem isFigure_toDigits (n : Nat) : ∀ c ∈ Nat.toDigits 10 n, isFigure c := fun _ hc => by
  simp [isFigure, Nat.isDigit_of_mem_toDigits (by decide) (by decide) hc]

/-- The digits of a coefficient are figures. -/
theorem isFigure_significantDigits (n : Nat) : ∀ c ∈ significantDigits n, isFigure c := by
  rw [significantDigits]
  split
  · exact List.all_eq_true.1 (by decide)
  · intro c hc
    have hc := List.mem_reverse.1 (List.dropWhile_subset _ (List.mem_reverse.1 hc))
    exact isFigure_toDigits n c hc

/-- An exponent is written in figures. -/
theorem isFigure_exponent (l : Layout) (e : Int) : ∀ c ∈ l.exponent e, isFigure c := by
  simp only [Layout.exponent, List.forall_mem_cons, List.forall_mem_append]
  refine ⟨⟨by decide, by split <;> decide, ?_⟩, isFigure_toDigits _⟩
  intro c hc
  rw [List.eq_of_mem_replicate hc]
  decide

/-- Positional notation adds figures to its digits. -/
theorem isFigure_positional (l : Layout) {digits : List Char} (h : ∀ c ∈ digits, isFigure c)
    (whole : Int) : ∀ c ∈ l.positional digits whole, isFigure c := by
  have hzeros (n : Nat) : ∀ c ∈ List.replicate n '0', isFigure c := by
    intro c hc
    rw [List.eq_of_mem_replicate hc]
    decide
  have hfront (n m : Nat) : ∀ c ∈ digits.take n ++ List.replicate m '0', isFigure c :=
    List.forall_mem_append.2 ⟨fun c hc => h c (List.mem_of_mem_take hc), hzeros _⟩
  simp only [Layout.positional]
  split
  · simp only [List.forall_mem_cons, List.forall_mem_append]
    exact ⟨⟨by decide, by decide, hzeros _⟩, h⟩
  · split
    · refine List.forall_mem_append.2 ⟨hfront _ _, ?_⟩
      split <;> exact List.all_eq_true.1 (by decide)
    · refine List.forall_mem_append.2 ⟨hfront _ _, List.forall_mem_cons.2 ⟨by decide, ?_⟩⟩
      exact fun c hc => h c (List.mem_of_mem_drop hc)

/-- Positional notation is not empty. -/
theorem positional_ne_nil (l : Layout) (digits : List Char) (whole : Int) :
    l.positional digits whole ≠ [] := by
  simp only [Layout.positional]
  split
  · exact List.cons_ne_nil _ _
  · split
    · intro h
      have hlen := congrArg List.length (List.append_eq_nil_iff.1 h).1
      simp only [List.length_append, List.length_take, List.length_replicate,
        List.length_nil] at hlen
      omega
    · exact fun h => List.cons_ne_nil _ _ (List.append_eq_nil_iff.1 h).2

/-- A decimal is written in figures. -/
theorem isFigure_render (l : Layout) (d : Decimal) : ∀ c ∈ l.render d, isFigure c := by
  have hdigits := isFigure_significantDigits d.coefficient
  simp only [Layout.render]
  split
  · exact isFigure_positional l (List.all_eq_true.1 (by decide)) _
  · split
    · exact isFigure_positional l hdigits _
    · split
      · exact isFigure_exponent l _
      · next c hc =>
        rw [hc] at hdigits
        exact List.forall_mem_cons.2 ⟨hdigits c List.mem_cons_self, isFigure_exponent l _⟩
      · next c rest _ hc =>
        rw [hc] at hdigits
        simp only [List.forall_mem_cons, List.forall_mem_append, List.cons_append] at hdigits ⊢
        exact ⟨hdigits.1, by decide, hdigits.2, isFigure_exponent l _⟩

/-- A decimal is not written as nothing. -/
theorem render_ne_nil (l : Layout) (d : Decimal) : l.render d ≠ [] := by
  simp only [Layout.render]
  split
  · exact positional_ne_nil l _ _
  · split
    · exact positional_ne_nil l _ _
    · split <;> simp [Layout.exponent]

/-- A float is written in figures, and not as nothing. -/
theorem isFigure_renderFloat (x : Float) :
    (∀ c ∈ (renderFloat x).toList, isFigure c) ∧ (renderFloat x).toList ≠ [] := by
  rw [renderFloat]
  split
  · exact ⟨List.all_eq_true.1 (by decide), by decide⟩
  · split
    · split <;> exact ⟨List.all_eq_true.1 (by decide), by decide⟩
    · rw [renderFinite, String.toList_ofList]
      refine ⟨List.forall_mem_append.2 ⟨?_, isFigure_render _ _⟩, fun h => ?_⟩
      · split <;> exact List.all_eq_true.1 (by decide)
      · exact render_ne_nil _ _ (List.append_eq_nil_iff.1 h).2

/-- An integer is written in figures, and not as nothing. -/
theorem isFigure_toString (n : Int) :
    (∀ c ∈ (toString n).toList, isFigure c) ∧ (toString n).toList ≠ [] := by
  rw [Int.toString_eq_repr]
  cases n with
  | ofNat m =>
    rw [Int.repr, Nat.toList_repr]
    exact ⟨isFigure_toDigits m, Nat.toDigits_ne_nil⟩
  | negSucc m =>
    rw [Int.repr, String.toList_append, Nat.toList_repr]
    refine ⟨List.forall_mem_append.2 ⟨List.all_eq_true.1 (by decide), isFigure_toDigits _⟩,
      fun h => ?_⟩
    exact Nat.toDigits_ne_nil (List.append_eq_nil_iff.1 h).2

end Decimal

namespace Literal

/-- What a number literal is bumped to is written in figures, and not as nothing. -/
theorem isFigure_bump? {text bumped : String} (h : bump? text = some bumped) :
    (∀ c ∈ bumped.toList, Decimal.isFigure c) ∧ bumped.toList ≠ [] := by
  have hwrite {n : Int} {bumped : String} (h : Numeral.writeInt? n = some bumped) :
      (∀ c ∈ bumped.toList, Decimal.isFigure c) ∧ bumped.toList ≠ [] := by
    rw [Numeral.writeInt?] at h
    split at h
    · cases h
    · cases h
      exact Decimal.isFigure_toString n
  have hsuccessor {n : Option Int} (h : successor? n = some bumped) :
      (∀ c ∈ bumped.toList, Decimal.isFigure c) ∧ bumped.toList ≠ [] := by
    obtain ⟨n, -, h⟩ := Option.bind_eq_some_iff.1 h
    exact hwrite h
  simp only [bump?] at h
  split at h
  · cases h
  · split at h
    case _ => exact hsuccessor h
    case _ => exact hsuccessor h
    case _ => exact hsuccessor h
    case _ =>
      obtain ⟨x, -, h⟩ := Option.bind_eq_some_iff.1 h
      rw [writeFloat?] at h
      split at h
      · exact hwrite h
      · cases h
        exact Decimal.isFigure_renderFloat _
    case _ => exact hsuccessor h

/-- What a number literal is bumped to has no line break and is not empty. -/
theorem isUnbroken_bump? {text bumped : String} (h : bump? text = some bumped) :
    isUnbroken (ofString bumped) ∧ ofString bumped ≠ [] := by
  obtain ⟨hfigures, hne⟩ := isFigure_bump? h
  have hplain (c : Char) (hc : Decimal.isFigure c) : Mark.ofChar c = .plain := by
    rw [Mark.ofChar, if_neg (by rintro rfl; cases hc), if_neg (by rintro rfl; cases hc)]
  refine ⟨(isUnbroken_ofString _).2 fun c hc => hplain c (hfigures c hc), fun hempty => hne ?_⟩
  have hbumped : bumped = "" := ofString_injective hempty
  rw [hbumped]
  rfl

end Literal

/-! ## Names -/

/-- A letter and its look-alike are one of the pairs, in either order. -/
theorem mem_homoglyphPairs {c d : Char} (h : homoglyph? c = some d) :
    (c, d) ∈ homoglyphPairs ∨ (d, c) ∈ homoglyphPairs := by
  obtain ⟨⟨latin, cyrillic⟩, hmem, h⟩ := List.exists_of_findSome?_eq_some h
  grind

/-- A letter is not its own look-alike. -/
theorem homoglyph?_ne {c c' : Char} (h : homoglyph? c = some c') : c ≠ c' := by
  have hpairs : ∀ pair ∈ homoglyphPairs, pair.1 ≠ pair.2 := by decide
  rcases mem_homoglyphPairs h with hmem | hmem
  · exact hpairs _ hmem
  · exact (hpairs _ hmem).symm

/-- Neither a letter with a look-alike nor the look-alike is a line break. -/
theorem ofChar_homoglyph? {c d : Char} (h : homoglyph? c = some d) :
    Mark.ofChar c = .plain ∧ Mark.ofChar d = .plain := by
  have hplain : ∀ pair ∈ homoglyphPairs,
      Mark.ofChar pair.1 = .plain ∧ Mark.ofChar pair.2 = .plain := by
    decide
  rcases mem_homoglyphPairs h with h | h
  · exact hplain _ h
  · exact (hplain _ h).symm

/-- A spoofed name is the name with one letter replaced by its look-alike. -/
theorem spoof?_eq_some {name spoofed : List Char} (h : spoof? name = some spoofed) :
    ∃ front c d back, name = front ++ c :: back ∧ spoofed = front ++ d :: back ∧
      homoglyph? c = some d := by
  induction name generalizing spoofed with
  | nil => cases h
  | cons c cs ih =>
    rw [spoof?] at h
    split at h
    · next d hd => cases h; exact ⟨[], c, d, cs, rfl, rfl, hd⟩
    · obtain ⟨t, ht, rfl⟩ := Option.map_eq_some_iff.1 h
      obtain ⟨front, c', d, back, rfl, rfl, hd⟩ := ih ht
      exact ⟨c :: front, c', d, back, rfl, rfl, hd⟩

/-- A name without a line break is spoofed to one without, which is not empty. -/
theorem isUnbroken_spoof? {name : String} {spoofed : List Char}
    (h : spoof? name.toList = some spoofed) (hname : isUnbroken (ofString name)) :
    isUnbroken (ofString (String.ofList spoofed)) ∧ ofString (String.ofList spoofed) ≠ [] := by
  obtain ⟨front, c, d, back, hsplit, rfl, hd⟩ := spoof?_eq_some h
  rw [isUnbroken_ofString, hsplit] at hname
  constructor
  · rw [isUnbroken_ofString, String.toList_ofList]
    simp only [List.forall_mem_append, List.forall_mem_cons] at hname ⊢
    exact ⟨hname.1, (ofChar_homoglyph? hd).2, hname.2.2⟩
  · intro hempty
    have hnil : String.ofList (front ++ d :: back) = "" := ofString_injective hempty
    have := congrArg String.toList hnil
    rw [String.toList_ofList] at this
    exact List.append_ne_nil_of_right_ne_nil _ (List.cons_ne_nil d back) this

end Sabotage
