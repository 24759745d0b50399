import Sabotage.Json.Printer
import Sabotage.Proofs.SoundValues

/-!
# Values are read back from their texts

A sound value is read back from its text, by any reader that takes its levels and whatever the
layout (`readBy_renderText`): blanks between the signs of the grammar do not count, and numbers and
texts are read back on their own. A sound value of few enough levels is also one that can be written
to a file as a whole (`excerpt_eq_whole`).
-/

namespace Sabotage

open Text

namespace Text.Spelling

/-- One text after another is spelled so. -/
theorem ofString_append (a b : String) : ofString (a ++ b) = ofString a ++ ofString b := by
  have hsigns : ofChars (a ++ b).toList = ofChars a.toList ++ ofChars b.toList := by
    rw [String.toList_append]
    exact List.map_append
  exact congrArg Spelling.mk hsigns

theorem append_assoc (a b c : Spelling) : a ++ b ++ c = a ++ (b ++ c) :=
  congrArg Spelling.mk (List.append_assoc a.signs b.signs c.signs)

/-- Nothing is added by nothing. -/
theorem append_empty (a : Spelling) : a ++ ofString "" = a :=
  congrArg Spelling.mk (List.append_nil a.signs)

/-- One item stands by itself. -/
theorem intercalate_singleton (between : String) (t : Spelling) : intercalate between [t] = t := by
  simp [intercalate]

/-- Between two items stands what stands between them. -/
theorem intercalate_cons_cons (between : String) (t u : Spelling) (us : List Spelling) :
    intercalate between (t :: u :: us)
      = t ++ (ofString between ++ intercalate between (u :: us)) := by
  simp only [intercalate, List.map_cons, List.intersperse_cons_cons, List.flatten_cons]
  rfl

end Text.Spelling

namespace Json

/-- A layout of which nothing is lost: halves stand in it as escapes, and numbers that are not
finite are spelled, where there are any. -/
structure Style.Faithful (style : Style) (strict finite : Bool) : Prop where
  halves : style.asciiOnly ∨ strict
  infinities : style.spellsInfinities ∨ finite
  items : style.itemSeparator = ","
  names : ∃ blanks, style.nameSeparator.toList = ':' :: blanks ∧ ∀ c ∈ blanks, Reader.isBlank c
  point : style.floats.pointZero = true
  positional : style.floats.positionalBelow ≤ Numeral.digitLimit

/-- Nothing that is read from a file is lost when it is written to one. -/
theorem Style.faithful_file : Style.file.Faithful false false :=
  ⟨.inl rfl, .inl rfl, rfl, ⟨[' '], rfl, List.forall_mem_singleton.2 rfl⟩, rfl, by decide⟩

/-- Nothing of a record of finite numbers is lost. -/
theorem Style.faithful_record : Style.record.Faithful true true :=
  ⟨.inr rfl, .inr rfl, rfl, ⟨[], rfl, List.forall_mem_nil _⟩, rfl, by decide⟩

/-- The characters that are written for a spelling. -/
def charsOf (s : Spelling) : List Char :=
  s.signs.map Sign.legible

@[simp] theorem charsOf_append (s t : Spelling) : charsOf (s ++ t) = charsOf s ++ charsOf t :=
  List.map_append

@[simp] theorem charsOf_ofString (s : String) : charsOf (Spelling.ofString s) = s.toList :=
  map_legible_ofChars _

/-- Between two items stands what stands between them. -/
@[simp] theorem charsOf_intercalate_cons_cons (between : String) (t u : Spelling)
    (us : List Spelling) :
    charsOf (Spelling.intercalate between (t :: u :: us))
      = charsOf t ++ (between.toList ++ charsOf (Spelling.intercalate between (u :: us))) := by
  rw [Spelling.intercalate_cons_cons, charsOf_append, charsOf_append, charsOf_ofString]

namespace Reader
variable {strict finite : Bool} {style : Style} {rest : List Char}

/-! ## Blanks -/

/-- Blanks are passed over. -/
theorem skipBlanks_append {blanks : List Char} (h : ∀ c ∈ blanks, isBlank c) (cs : List Char) :
    skipBlanks (blanks ++ cs) = skipBlanks cs :=
  List.dropWhile_append_of_pos h

/-- What does not begin with a blank stays. -/
theorem skipBlanks_cons {c : Char} (h : isBlank c = false) (cs : List Char) :
    skipBlanks (c :: cs) = c :: cs := by
  rw [skipBlanks, List.dropWhile_cons_of_neg (by simp [h])]

/-- A line break and the blanks of a level are blanks. -/
theorem isBlank_newline (style : Style) (level : Nat) :
    ∀ c ∈ (newline style level).toList, isBlank c := by
  rw [newline]
  split
  · simp
  · intro c hc
    simp only [String.toList_ofList, List.mem_cons, List.mem_replicate] at hc
    rcases hc with rfl | ⟨-, rfl⟩ <;> rfl

/-! ## Scalars -/

/-- A whole part begins with a digit. -/
theorem exists_digit_of_wholePart {cs : List Char} {r : List Char × List Char}
    (h : wholePart cs = some r) : ∃ c cs', cs = c :: cs' ∧ isAsciiDigit c := by
  cases cs with
  | nil => cases h
  | cons c cs =>
    refine ⟨c, cs, rfl, ?_⟩
    by_contra hc
    have hzero : c ≠ '0' := by
      rintro rfl
      exact hc rfl
    have hnone : digits (c :: cs) = ([], c :: cs) :=
      @digits_append [] (c :: cs) (by simp) (by simpa using hc)
    rw [wholePart.eq_def] at h
    split at h
    · next heq => exact hzero (List.cons.inj heq).1
    · rw [hnone] at h
      cases h

/-- A number that is read begins with a digit. -/
theorem exists_digit_of_numeral {negative : Bool} {cs : List Char} {r : Json × List Char}
    (h : numeral strict negative cs = .ok r) : ∃ c cs', cs = c :: cs' ∧ isAsciiDigit c := by
  rw [numeral] at h
  split at h
  · cases h
  · next hwhole => exact exists_digit_of_wholePart hwhole

/-- A number that is read is a value without a sign. -/
theorem scalar_of_numeral {cs : List Char} {r : Json × List Char}
    (h : numeral strict false cs = .ok r) : scalar strict cs = .ok r := by
  obtain ⟨c, cs, rfl, hc⟩ := exists_digit_of_numeral h
  rw [← h, scalar.eq_def]
  split <;> first | rfl | (next heq => obtain ⟨rfl, -⟩ := List.cons.inj heq; cases hc)

/-- A number that is read is a value after a minus sign. -/
theorem scalar_minus_of_numeral {cs : List Char} {r : Json × List Char}
    (h : numeral strict true cs = .ok r) : scalar strict ('-' :: cs) = .ok r := by
  obtain ⟨c, cs, rfl, hc⟩ := exists_digit_of_numeral h
  have hne : 'I' ≠ c := by
    rintro rfl
    cases hc
  have hnone : after? "Infinity".toList (c :: cs) = none := if_neg hne
  simp only [scalar, hnone, h]

/-- An integer is read back. -/
theorem scalar_int {n : Int} (hn : Decimal.digitCount n.natAbs ≤ Numeral.digitLimit)
    (hrest : Parted rest) : scalar strict ((toString n).toList ++ rest) = .ok (.int n, rest) := by
  cases n with
  | ofNat k =>
    have htext : (toString (Int.ofNat k)).toList = Nat.toDigits 10 k := Nat.toList_repr
    rw [htext]
    exact scalar_of_numeral (numeral_toDigits hn hrest)
  | negSucc k =>
    have htext : (toString (Int.negSucc k)).toList = '-' :: Nat.toDigits 10 (k + 1) := by
      rw [← Nat.toList_repr]
      exact String.toList_append
    rw [htext]
    exact scalar_minus_of_numeral (numeral_toDigits hn hrest)

/-- A float is read back. -/
theorem scalar_float (hstyle : style.Faithful strict finite) {x : Float} (hx : finite → x.isFinite)
    (hrest : Parted rest) :
    scalar strict ((floatText style x).toList ++ rest) = .ok (.float x, rest) := by
  rw [floatText]
  split
  · next hfinite =>
    have hread := Decimal.numeral_render strict (Decimal.isNegative x) hstyle.point
      hstyle.positional (Decimal.shortest x) hrest
    rw [Decimal.signedFloat_shortest hfinite] at hread
    rw [Decimal.renderFinite, String.toList_ofList]
    cases hsign : Decimal.isNegative x with
    | true =>
      rw [hsign] at hread
      exact scalar_minus_of_numeral hread
    | false =>
      rw [hsign] at hread
      exact scalar_of_numeral hread
  · next hinfinite =>
    have hspelled : style.spellsInfinities = true :=
      hstyle.infinities.resolve_right fun h => hinfinite (hx h)
    conv_rhs => rw [Binary64.eq_of_not_isFinite hinfinite]
    simp only [hspelled, Bool.not_true, Bool.false_eq_true, if_false]
    split
    · rfl
    · split <;> rfl

/-- What follows a value inside another one does not go on with a number. -/
theorem parted_cons {c : Char} (h : continues c = false) (cs : List Char) : Parted (c :: cs) := by
  rintro b ⟨⟩
  exact h

/-- A line break does not go on with a number, nor does what comes after no line break. -/
theorem parted_newline (style : Style) (level : Nat) {cs : List Char} (h : Parted cs) :
    Parted ((newline style level).toList ++ cs) := by
  rw [newline]
  split
  · exact h
  · rw [String.toList_ofList]
    exact parted_cons (by decide) _

/-! ## Values -/

/-- A value is read back from its text at every level, whatever follows. -/
def ReadsBack (strict : Bool) (style : Style) (levels : Nat) (j : Json) : Prop :=
  ∀ level fuel rest, Parted rest → (charsOf (renderAt style level j)).length < fuel →
    value strict fuel levels (charsOf (renderAt style level j) ++ rest) = .ok (j, rest)

/-- What begins neither an array nor an object is read as a scalar. -/
theorem value_of_scalar {fuel levels : Nat} {cs : List Char} {v : Json}
    (h : scalar strict cs = .ok (v, rest)) (hfuel : 0 < fuel) :
    value strict fuel levels cs = .ok (v, rest) := by
  obtain ⟨fuel, rfl⟩ : ∃ n, fuel = n + 1 := ⟨fuel - 1, by omega⟩
  rw [← h, value.eq_def]
  simp only
  split
  · cases h
  · cases h
  · rfl

/-- What begins with no blank and no closing bracket. -/
def Opens (cs : List Char) : Prop :=
  ∃ c more, cs = c :: more ∧ isBlank c = false ∧ c ≠ ']' ∧ c ≠ '\x7d'

/-- What follows changes nothing at the beginning. -/
theorem Opens.append {cs : List Char} (h : Opens cs) (more : List Char) : Opens (cs ++ more) := by
  obtain ⟨c, cs, rfl, hc⟩ := h
  exact ⟨c, cs ++ more, rfl, hc⟩

/-- There is something at the beginning. -/
theorem Opens.length_pos {cs : List Char} (h : Opens cs) : 0 < cs.length := by
  obtain ⟨c, cs, rfl, -⟩ := h
  exact Nat.succ_pos _

/-- Blanks before what begins with no blank are passed over. -/
theorem Opens.skipBlanks {cs blanks : List Char} (h : Opens cs)
    (hblanks : ∀ c ∈ blanks, isBlank c) : skipBlanks (blanks ++ cs) = cs := by
  obtain ⟨c, more, rfl, hblank, -⟩ := h
  rw [skipBlanks_append hblanks, skipBlanks_cons hblank]

/-- A value that is read begins with no blank and no closing bracket. -/
theorem ReadsBack.opens {levels : Nat} {j : Json} (h : ReadsBack strict style levels j)
    (level : Nat) : Opens (charsOf (renderAt style level j)) := by
  have hread := h level _ [] (by rintro _ ⟨⟩) (Nat.lt_succ_self _)
  rw [List.append_nil] at hread
  cases htext : charsOf (renderAt style level j) with
  | nil =>
    rw [htext] at hread
    cases hread
  | cons c cs =>
    rw [htext] at hread
    refine ⟨c, cs, rfl, ?_, ?_, ?_⟩
    · by_contra hblank
      simp only [isBlank, Bool.not_eq_false, Bool.or_eq_true, beq_iff_eq] at hblank
      rcases hblank with ((rfl | rfl) | rfl) | rfl <;> cases hread
    · rintro rfl
      cases hread
    · rintro rfl
      cases hread

/-! ## Items and fields -/

/-- Items with what stands between them, on lines of a level. -/
def itemsText (style : Style) (level : Nat) (texts : List Spelling) : List Char :=
  charsOf (Spelling.intercalate (style.itemSeparator ++ newline style level) texts)

/-- One item stands by itself. -/
@[simp] theorem itemsText_singleton (style : Style) (level : Nat) (t : Spelling) :
    itemsText style level [t] = charsOf t := by
  rw [itemsText, Spelling.intercalate_singleton]

/-- Items begin as the first one does. -/
theorem Opens.itemsText {t : Spelling} (h : Opens (charsOf t)) (style : Style) (level : Nat)
    (ts : List Spelling) : Opens (itemsText style level (t :: ts)) := by
  cases ts with
  | nil => rwa [itemsText_singleton]
  | cons u us =>
    rw [Reader.itemsText, charsOf_intercalate_cons_cons]
    exact h.append _

/-- A key that comes later is not among the first ones. -/
theorem not_mem_keys_of_nodup {done : Fields} {f : Spelling × Json} {fs : Fields}
    (h : (Table.keys (done ++ f :: fs)).Nodup) : f.1 ∉ Table.keys done := by
  rw [Table.keys, List.map_append, List.map_cons, List.nodup_append] at h
  exact fun hmem => h.2.2 _ hmem _ List.mem_cons_self rfl

section
variable (hstyle : style.Faithful strict finite) {levels level outer fuel : Nat}
include hstyle

/-- Between two items stand a comma and blanks. -/
theorem itemsText_cons_cons (t u : Spelling) (us : List Spelling) :
    itemsText style level (t :: u :: us)
      = charsOf t ++ ',' :: ((newline style level).toList ++ itemsText style level (u :: us)) := by
  rw [itemsText, itemsText, charsOf_intercalate_cons_cons, hstyle.items, String.toList_append,
    List.append_assoc]
  rfl

/-- Items are read back, from the first one to the closing bracket. -/
theorem items_renderItems {x : Json} {xs : List Json}
    (h : ∀ y ∈ x :: xs, ReadsBack strict style levels y) (done : List Json) (rest : List Char)
    (hfuel : (itemsText style level (renderItems style level (x :: xs))).length + 1 < fuel) :
    items strict fuel levels done
      (itemsText style level (renderItems style level (x :: xs))
        ++ ((newline style outer).toList ++ ']' :: rest))
      = .ok (.arr (done.reverse ++ x :: xs), rest) := by
  have hbracket : isBlank ']' = false := rfl
  have hcomma : isBlank ',' = false := rfl
  obtain ⟨fuel, rfl⟩ : ∃ n, fuel = n + 1 := ⟨fuel - 1, by omega⟩
  induction xs generalizing x done fuel with
  | nil =>
    simp only [renderItems, itemsText_singleton] at hfuel ⊢
    have hparted : Parted ((newline style outer).toList ++ ']' :: rest) :=
      parted_newline style outer (parted_cons (by decide) rest)
    rw [items, h x (by simp) level fuel _ hparted (by omega)]
    simp [skipBlanks_append (isBlank_newline style outer), skipBlanks_cons hbracket]
  | cons y ys ih =>
    have hys : ∀ z ∈ y :: ys, ReadsBack strict style levels z :=
      fun z hz => h z (List.mem_cons_of_mem _ hz)
    have hopens : Opens (itemsText style level (renderItems style level (y :: ys))
        ++ ((newline style outer).toList ++ ']' :: rest)) :=
      (((hys y (by simp)).opens level).itemsText style level _).append _
    have htext : itemsText style level (renderItems style level (x :: y :: ys))
        = charsOf (renderAt style level x) ++ ',' :: ((newline style level).toList
          ++ itemsText style level (renderItems style level (y :: ys))) :=
      itemsText_cons_cons hstyle _ _ _
    rw [htext] at hfuel ⊢
    simp only [List.length_append, List.length_cons] at hfuel
    have hpos := ((h x (by simp)).opens level).length_pos
    obtain ⟨fuel, rfl⟩ : ∃ n, fuel = n + 1 := ⟨fuel - 1, by omega⟩
    simp only [List.append_assoc, List.cons_append]
    rw [items, h x (by simp) level _ _ (parted_cons (by decide) _) (by omega)]
    simp only [skipBlanks_cons hcomma, hopens.skipBlanks (isBlank_newline style level)]
    rw [ih hys (x :: done) fuel (by omega)]
    simp

/-- A name is read back, with what stands between it and its value. -/
theorem name_quote {k : Spelling} (hk : Readable strict k.signs) {cs : List Char} (hcs : Opens cs) :
    name strict (charsOf (quote style.asciiOnly k) ++ (style.nameSeparator.toList ++ cs))
      = .ok (k, cs) := by
  obtain ⟨more, htext, hread⟩ :=
    string_quoted hstyle.halves hk (style.nameSeparator.toList ++ cs)
  obtain ⟨blanks, hsep, hblanks⟩ := hstyle.names
  have hcolon : isBlank ':' = false := rfl
  rw [charsOf, htext, name, hread, hsep, List.cons_append]
  simp only [skipBlanks_cons hcolon, hcs.skipBlanks hblanks]

/-- A field is read back. -/
theorem name_field {f : Spelling × Json} (hname : Readable strict f.1.signs)
    (hvalue : ReadsBack strict style levels f.2) (level : Nat) (rest : List Char) :
    name strict (charsOf (quote style.asciiOnly f.1 ++ style.nameSeparator
        ++ renderAt style level f.2) ++ rest)
      = .ok (f.1, charsOf (renderAt style level f.2) ++ rest) := by
  rw [charsOf_append, charsOf_append, charsOf_ofString, List.append_assoc, List.append_assoc]
  exact name_quote hstyle hname ((hvalue.opens level).append rest)

omit hstyle in
variable (style) in
/-- A field holds its value. -/
theorem length_le_field (f : Spelling × Json) (level : Nat) :
    (charsOf (renderAt style level f.2)).length
      ≤ (charsOf (quote style.asciiOnly f.1 ++ style.nameSeparator
        ++ renderAt style level f.2)).length := by
  rw [charsOf_append, List.length_append]
  exact Nat.le_add_left _ _

omit hstyle in
variable (style) in
/-- A field begins with a quote. -/
theorem opens_field (f : Spelling × Json) (level : Nat) :
    Opens (charsOf (quote style.asciiOnly f.1 ++ style.nameSeparator
      ++ renderAt style level f.2)) := by
  rw [charsOf_append, charsOf_append]
  exact Opens.append (Opens.append ⟨'"', _, rfl, by decide⟩ _) _

/-- Fields are read back, from the first one to the closing brace. -/
theorem members_renderFields {f : Spelling × Json} {fs : Fields}
    (h : ∀ g ∈ f :: fs, Readable strict g.1.signs ∧ ReadsBack strict style levels g.2)
    (done : Fields) (hdistinct : (Table.keys (done ++ f :: fs)).Nodup) (rest : List Char)
    (hfuel : (itemsText style level (renderFields style level (f :: fs))).length + 1 < fuel) :
    members strict fuel levels done
      (itemsText style level (renderFields style level (f :: fs))
        ++ ((newline style outer).toList ++ '\x7d' :: rest))
      = .ok (.obj (done ++ f :: fs), rest) := by
  have hbrace : isBlank '\x7d' = false := rfl
  have hcomma : isBlank ',' = false := rfl
  obtain ⟨fuel, rfl⟩ : ∃ n, fuel = n + 1 := ⟨fuel - 1, by omega⟩
  induction fs generalizing f done fuel with
  | nil =>
    obtain ⟨hname, hvalue⟩ := h f (by simp)
    simp only [renderFields, itemsText_singleton] at hfuel ⊢
    have hparted : Parted ((newline style outer).toList ++ '\x7d' :: rest) :=
      parted_newline style outer (parted_cons (by decide) rest)
    have hlength := length_le_field style f level
    have hnew : f.1 ∉ Table.keys done := not_mem_keys_of_nodup hdistinct
    rw [members, name_field hstyle hname hvalue]
    simp only [hvalue level fuel _ hparted (by omega), Table.assign_of_not_mem hnew,
      skipBlanks_append (isBlank_newline style outer), skipBlanks_cons hbrace]
  | cons g gs ih =>
    obtain ⟨hname, hvalue⟩ := h f (by simp)
    have hgs : ∀ e ∈ g :: gs, Readable strict e.1.signs ∧ ReadsBack strict style levels e.2 :=
      fun e he => h e (List.mem_cons_of_mem _ he)
    have hopens : Opens (itemsText style level (renderFields style level (g :: gs))
        ++ ((newline style outer).toList ++ '\x7d' :: rest)) :=
      ((opens_field style g level).itemsText style level _).append _
    have htext : itemsText style level (renderFields style level (f :: g :: gs))
        = charsOf (quote style.asciiOnly f.1 ++ style.nameSeparator ++ renderAt style level f.2)
          ++ ',' :: ((newline style level).toList
            ++ itemsText style level (renderFields style level (g :: gs))) :=
      itemsText_cons_cons hstyle _ _ _
    have hlength := length_le_field style f level
    have hpos := (hvalue.opens level).length_pos
    have hnew : f.1 ∉ Table.keys done := not_mem_keys_of_nodup hdistinct
    rw [htext] at hfuel ⊢
    simp only [List.length_append, List.length_cons] at hfuel
    obtain ⟨fuel, rfl⟩ : ∃ n, fuel = n + 1 := ⟨fuel - 1, by omega⟩
    have hread (cs : List Char) :=
      hvalue level (fuel + 1) (',' :: cs) (parted_cons (by decide) cs) (by omega)
    simp only [List.append_assoc, List.cons_append]
    rw [members, name_field hstyle hname hvalue]
    simp only [hread, Table.assign_of_not_mem hnew, skipBlanks_cons hcomma,
      hopens.skipBlanks (isBlank_newline style level)]
    rw [ih hgs (done ++ [f]) (by simpa using hdistinct) fuel (by omega)]
    simp

end

/-- An array without items. -/
theorem value_noItems {fuel : Nat} (levels level : Nat) (rest : List Char) (hfuel : 0 < fuel) :
    value strict fuel levels (charsOf (renderAt style level (.arr [])) ++ rest)
      = .ok (.arr [], rest) := by
  obtain ⟨fuel, rfl⟩ : ∃ n, fuel = n + 1 := ⟨fuel - 1, by omega⟩
  rfl

/-- An object without fields. -/
theorem value_noFields {fuel : Nat} (levels level : Nat) (rest : List Char) (hfuel : 0 < fuel) :
    value strict fuel levels (charsOf (renderAt style level (.obj [])) ++ rest)
      = .ok (.obj [], rest) := by
  obtain ⟨fuel, rfl⟩ : ∃ n, fuel = n + 1 := ⟨fuel - 1, by omega⟩
  rfl

/-- An array that has items is read from the first one on. -/
theorem value_items {cs : List Char} (h : Opens cs) (fuel levels level : Nat) :
    value strict (fuel + 1) (levels + 1) ('[' :: ((newline style level).toList ++ cs))
      = items strict fuel levels [] cs := by
  have hskip := h.skipBlanks (isBlank_newline style level)
  obtain ⟨c, more, rfl, -, hbracket, -⟩ := h
  rw [value.eq_def]
  simp only [hskip]
  split
  · next heq => exact absurd (List.cons.inj heq).1 hbracket
  · next heq _ => cases heq
  · next heq _ =>
    cases heq
    rfl

/-- An object that has fields is read from the first one on. -/
theorem value_members {cs : List Char} (h : Opens cs) (fuel levels level : Nat) :
    value strict (fuel + 1) (levels + 1) ('\x7b' :: ((newline style level).toList ++ cs))
      = members strict fuel levels [] cs := by
  have hskip := h.skipBlanks (isBlank_newline style level)
  obtain ⟨c, more, rfl, -, -, hbrace⟩ := h
  rw [value.eq_def]
  simp only [hskip]
  split
  · next heq => exact absurd (List.cons.inj heq).1 hbrace
  · next heq _ => cases heq
  · next heq _ =>
    cases heq
    rfl

/-- Items between brackets. -/
theorem charsOf_bracketed_cons (style : Style) (level : Nat) (opening closing : String)
    (t : Spelling) (ts : List Spelling) :
    charsOf (bracketed style level opening closing (t :: ts))
      = opening.toList ++ ((newline style (level + 1)).toList
        ++ (itemsText style (level + 1) (t :: ts)
          ++ ((newline style level).toList ++ closing.toList))) := by
  simp [bracketed, itemsText]

/-- An array of items that are read back is read back. -/
theorem readsBack_items (hstyle : style.Faithful strict finite) {x : Json} {xs : List Json}
    {levels : Nat} (h : ∀ y ∈ x :: xs, ReadsBack strict style levels y) :
    ReadsBack strict style (levels + 1) (.arr (x :: xs)) := by
  intro level fuel rest hrest hfuel
  have htext := charsOf_bracketed_cons style level "[" "]" (renderAt style (level + 1) x)
    (renderItems style (level + 1) xs)
  have hopens := (((h x (by simp)).opens (level + 1)).itemsText style (level + 1)
    (renderItems style (level + 1) xs)).append ((newline style level).toList ++ ']' :: rest)
  obtain ⟨fuel, rfl⟩ : ∃ n, fuel = n + 1 := ⟨fuel - 1, by omega⟩
  rw [renderAt, renderItems, htext] at hfuel ⊢
  have hopening : "[".toList.length = 1 := rfl
  have hclosing : "]".toList.length = 1 := rfl
  simp only [List.length_append, hopening, hclosing] at hfuel
  simp only [List.append_assoc]
  refine (value_items hopens fuel levels (level + 1)).trans ?_
  exact items_renderItems hstyle h [] rest (by rw [renderItems]; omega)

/-- An object of fields that are read back is read back, if their names are distinct. -/
theorem readsBack_fields (hstyle : style.Faithful strict finite) {f : Spelling × Json}
    {fs : Fields} {levels : Nat} (hdistinct : (Table.keys (f :: fs)).Nodup)
    (h : ∀ g ∈ f :: fs, Readable strict g.1.signs ∧ ReadsBack strict style levels g.2) :
    ReadsBack strict style (levels + 1) (.obj (f :: fs)) := by
  intro level fuel rest hrest hfuel
  have htext := charsOf_bracketed_cons style level "\x7b" "\x7d"
    (quote style.asciiOnly f.1 ++ style.nameSeparator ++ renderAt style (level + 1) f.2)
    (renderFields style (level + 1) fs)
  have hopens := ((opens_field style f (level + 1)).itemsText style (level + 1)
    (renderFields style (level + 1) fs)).append ((newline style level).toList ++ '\x7d' :: rest)
  obtain ⟨fuel, rfl⟩ : ∃ n, fuel = n + 1 := ⟨fuel - 1, by omega⟩
  rw [renderAt, renderFields, htext] at hfuel ⊢
  have hopening : "\x7b".toList.length = 1 := rfl
  have hclosing : "\x7d".toList.length = 1 := rfl
  simp only [List.length_append, hopening, hclosing] at hfuel
  simp only [List.append_assoc]
  refine (value_members hopens fuel levels (level + 1)).trans ?_
  exact members_renderFields hstyle h [] hdistinct rest (by rw [renderFields]; omega)

/-- Sound values are read back. -/
theorem readsBack (hstyle : style.Faithful strict finite) {levels : Nat} {j : Json}
    (h : Sound strict finite levels j) : ReadsBack strict style levels j := by
  induction h with
  | null => exact fun level fuel rest hrest hfuel => value_of_scalar rfl (by omega)
  | bool b =>
    intro level fuel rest hrest hfuel
    cases b
    · exact value_of_scalar rfl (by omega)
    · exact value_of_scalar rfl (by omega)
  | int hn =>
    intro level fuel rest hrest hfuel
    rw [renderAt, charsOf_ofString] at hfuel ⊢
    exact value_of_scalar (scalar_int hn hrest) (by omega)
  | float hx =>
    intro level fuel rest hrest hfuel
    rw [renderAt, charsOf_ofString] at hfuel ⊢
    exact value_of_scalar (scalar_float hstyle hx hrest) (by omega)
  | str hs =>
    intro level fuel rest hrest hfuel
    obtain ⟨more, htext, hread⟩ := string_quoted hstyle.halves hs rest
    rw [renderAt] at hfuel ⊢
    refine value_of_scalar ?_ (by omega)
    rw [charsOf, htext, scalar, hread]
  | noItems => exact fun level fuel rest hrest hfuel => value_noItems _ _ _ (by omega)
  | @arr levels xs hxs ih =>
    cases xs with
    | nil => exact fun level fuel rest hrest hfuel => value_noItems _ _ _ (by omega)
    | cons x xs => exact readsBack_items hstyle ih
  | noFields => exact fun level fuel rest hrest hfuel => value_noFields _ _ _ (by omega)
  | @obj levels fs hdistinct hnames hvalues ih =>
    cases fs with
    | nil => exact fun level fuel rest hrest hfuel => value_noFields _ _ _ (by omega)
    | cons f fs =>
      exact readsBack_fields hstyle hdistinct
        fun g hg => ⟨hnames _ (List.mem_map_of_mem hg), ih g hg⟩

end Reader

/-- A sound value is read back from its text. -/
theorem readBy_renderText {rules : Rules} {style : Style} {finite : Bool}
    (hstyle : style.Faithful rules.strict finite) {j : Json}
    (h : Sound rules.strict finite rules.levels j) : readBy rules (j.renderText style) = .ok j := by
  have hback := Reader.readsBack hstyle h
  have htext : (j.renderText style).toList = charsOf (renderAt style 0 j) :=
    String.toList_ofList
  have hskip := (hback.opens 0).skipBlanks (List.forall_mem_nil _)
  have hread := hback 0 _ [] (by rintro _ ⟨⟩) (Nat.lt_succ_self _)
  rw [List.append_nil] at hread
  rw [readBy, htext]
  simp only [List.nil_append] at hskip
  simp only [hskip, hread]
  rfl

/-! ## Writing within limits -/

namespace Excerpt

/-- Texts that are all there make one. -/
theorem whole_append (a b : Spelling) : whole a ++ whole b = whole (a ++ b) :=
  rfl

end Excerpt

section
variable {strict finite : Bool} {style : Style} {levels level : Nat}

/-- A sound value is no integer of too many digits. -/
theorem Sound.isOverlong_eq {j : Json} (h : Sound strict finite levels j) :
    j.isOverlong = false := by
  cases h with
  | int h => simpa [isOverlong] using h
  | _ => rfl

/-- Items that can be written are written with what stands between them. -/
theorem excerptItems_eq {x : Json} {xs : List Json} (before : String)
    (h : ∀ y ∈ x :: xs, y.isOverlong = false
      ∧ excerptAt style levels level y = .whole (renderAt style level y)) :
    excerptItems style levels level before (x :: xs)
      = .whole (Spelling.ofString before
        ++ Spelling.intercalate (style.itemSeparator ++ newline style level)
          (renderItems style level (x :: xs))) := by
  obtain ⟨hshort, hx⟩ := h x (by simp)
  induction xs generalizing x before with
  | nil =>
    simp only [excerptItems, hshort, hx, renderItems, Spelling.intercalate_singleton,
      Bool.false_eq_true, if_false, Excerpt.whole_append, Spelling.append_empty]
  | cons y ys ih =>
    have hys : ∀ z ∈ y :: ys, z.isOverlong = false
        ∧ excerptAt style levels level z = .whole (renderAt style level z) :=
      fun z hz => h z (List.mem_cons_of_mem _ hz)
    rw [excerptItems, ih _ hys (hys y (by simp)).1 (hys y (by simp)).2]
    simp only [hshort, hx, renderItems, Spelling.intercalate_cons_cons, Bool.false_eq_true,
      if_false, Excerpt.whole_append, Spelling.append_assoc]

/-- Fields that can be written are written with what stands between them. -/
theorem excerptFields_eq {f : Spelling × Json} {fs : Fields} (before : String)
    (h : ∀ g ∈ f :: fs, excerptAt style levels level g.2 = .whole (renderAt style level g.2)) :
    excerptFields style levels level before (f :: fs)
      = .whole (Spelling.ofString before
        ++ Spelling.intercalate (style.itemSeparator ++ newline style level)
          (renderFields style level (f :: fs))) := by
  have hf := h f (by simp)
  induction fs generalizing f before with
  | nil =>
    simp only [excerptFields, hf, renderFields, Spelling.intercalate_singleton,
      Excerpt.whole_append, Spelling.append_empty, Spelling.append_assoc]
  | cons g gs ih =>
    have hgs : ∀ e ∈ g :: gs,
        excerptAt style levels level e.2 = .whole (renderAt style level e.2) :=
      fun e he => h e (List.mem_cons_of_mem _ he)
    rw [excerptFields, ih _ hgs (hgs g (by simp))]
    simp only [hf, renderFields, Spelling.intercalate_cons_cons, Excerpt.whole_append,
      Spelling.append_assoc]

/-- A sound value of few enough levels is written as a whole. -/
theorem excerptAt_eq {j : Json} (h : Sound strict finite levels j) (style : Style) (level : Nat) :
    excerptAt style levels level j = .whole (renderAt style level j) := by
  induction h generalizing level with
  | int h => simp [excerptAt, isOverlong, h]
  | @arr levels xs hxs ih =>
    cases xs with
    | nil => rfl
    | cons x xs =>
      have hitems := excerptItems_eq ("[" ++ newline style (level + 1))
        fun y hy => ⟨(hxs y hy).isOverlong_eq, ih y hy (level + 1)⟩
      simp only [excerptAt, List.isEmpty_cons, Bool.false_eq_true, if_false, hitems, renderAt,
        renderItems, bracketed, Excerpt.whole_append, Spelling.ofString_append,
        Spelling.append_assoc]
  | @obj levels fs hdistinct hnames hvalues ih =>
    cases fs with
    | nil => rfl
    | cons f fs =>
      have hfields := excerptFields_eq ("\x7b" ++ newline style (level + 1))
        fun g hg => ih g hg (level + 1)
      simp only [excerptAt, List.isEmpty_cons, Bool.false_eq_true, if_false, hfields, renderAt,
        renderFields, bracketed, Excerpt.whole_append, Spelling.ofString_append,
        Spelling.append_assoc]
  | _ => rfl

end

/-- A sound value within the limit is written as a whole. -/
theorem excerpt_eq_whole {strict finite : Bool} {j : Json}
    (h : Sound strict finite levelLimit j) (style : Style) :
    j.excerpt style = .whole (j.render style) :=
  excerptAt_eq h style 0

/-- What is written to a file is what is read from it. -/
theorem read?_renderText {j : Json} (h : Sound false false levelLimit j) :
    read? (j.renderText .file) = some j := by
  have hback : readBy .lenient (j.renderText .file) = .ok j :=
    readBy_renderText Style.faithful_file h
  rw [read?, read, hback]
  rfl

end Json

end Sabotage
