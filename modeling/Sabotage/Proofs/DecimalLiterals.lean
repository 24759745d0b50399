import Sabotage.Proofs.IntegerLiterals
import Sabotage.Proofs.Rounding

/-!
# Decimal literals

The number literals with a point or an exponent, by their grammar (`DecimalLiteral`). The program
reads them as it reads any numeral, part by part, so each part has its lemma, and the float that
comes out is the nearest to the decimal (`DecimalLiteral.readFloat?_eq`). What it writes is again of
this grammar, as the layout of a decimal has one of three shapes (`decimalLiteral_of_shape`). So a
bumped literal is a literal, unless it is too great for a float (`bump?_numericLiteral`).
-/

namespace Sabotage.Literal

open Text

/-! ## The grammar -/

/-- A fraction: none, a bare point, or a point and a row of digits. -/
inductive FractionPart : List Char → List Nat → Prop
  | absent : FractionPart [] []
  | bare : FractionPart ['.'] []
  | row {cs : List Char} {ds : List Nat} (hrow : Row 10 cs ds) : FractionPart ('.' :: cs) ds

/-- The sign of an exponent, and whether it is a minus. -/
inductive SignPart : List Char → Bool → Prop
  | absent : SignPart [] false
  | plus : SignPart ['+'] false
  | minus : SignPart ['-'] true

/-- An exponent: none, or a letter, a sign and a row of digits. -/
inductive ExponentPart : List Char → Int → Prop
  | absent : ExponentPart [] 0
  | row {letter : Char} {signs cs : List Char} {negative : Bool} {ds : List Nat}
    (hletter : letter = 'e' ∨ letter = 'E') (hsign : SignPart signs negative)
    (hrow : Row 10 cs ds) :
    ExponentPart (letter :: (signs ++ cs)) (Numeral.signed negative (spelled 10 ds))

/-- A decimal literal, with the decimal that it spells. -/
inductive DecimalLiteral : List Char → Decimal → Prop
  | whole {front part exponent : List Char} {ds ds' : List Nat} {e : Int}
    (hwhole : WholePart front ds) (hpart : FractionPart part ds')
    (hexponent : ExponentPart exponent e) :
    DecimalLiteral (front ++ (part ++ exponent)) ⟨spelled 10 (ds ++ ds'), e - ds'.length⟩
  | point {part exponent : List Char} {ds : List Nat} {e : Int} (hrow : Row 10 part ds)
    (hexponent : ExponentPart exponent e) :
    DecimalLiteral ('.' :: (part ++ exponent)) ⟨spelled 10 ds, e - ds.length⟩

/-- The number literals of the language. -/
inductive NumericLiteral (cs : List Char) : Prop
  | decimal {d : Decimal} (h : DecimalLiteral cs d)
  | integer {base : Nat} {ds : List Nat} (h : IntegerLiteral base cs ds)
  | bigInt (h : BigIntLiteral cs)

/-- The characters that tell a number with a fraction or an exponent from an integer. -/
def isMark (c : Char) : Bool :=
  c == '.' || c == 'e' || c == 'E'

/-! ## Without low lines -/

section
variable {cs : List Char} {ds : List Nat} {e : Int} {d : Decimal}

theorem FractionPart.filter (h : FractionPart cs ds) :
    FractionPart (cs.filter (· != '_')) ds := by
  cases h with
  | absent => exact .absent
  | bare => exact .bare
  | row hrow =>
    rw [List.filter_cons_of_pos (by decide)]
    exact .row hrow.filter

theorem ExponentPart.filter (h : ExponentPart cs e) : ExponentPart (cs.filter (· != '_')) e := by
  cases h with
  | absent => exact .absent
  | @row letter signs _ negative _ hletter hsign hrow =>
    have hkeep : (letter != '_') = true := by rcases hletter with rfl | rfl <;> decide
    have hsigns : signs.filter (· != '_') = signs := by cases hsign <;> rfl
    rw [List.filter_cons_of_pos (p := (· != '_')) hkeep, List.filter_append, hsigns]
    exact .row hletter hsign hrow.filter

/-- Without its low lines a decimal literal spells the same decimal. -/
theorem DecimalLiteral.filter (h : DecimalLiteral cs d) :
    DecimalLiteral (cs.filter (· != '_')) d := by
  cases h with
  | whole hwhole hpart hexponent =>
    rw [List.filter_append, List.filter_append]
    exact .whole hwhole.filter hpart.filter hexponent.filter
  | point hrow hexponent =>
    rw [List.filter_cons_of_pos (by decide), List.filter_append]
    exact .point hrow.filter hexponent.filter

/-! ## The characters of decimal literals -/

/-- The characters of decimal literals. -/
def decimalChars : List Char :=
  ['0', '1', '2', '3', '4', '5', '6', '7', '8', '9', '_', '.', 'e', 'E', '+', '-']

theorem IsDigit.mem_decimalChars {c : Char} {d : Nat} (h : IsDigit 10 c d) : c ∈ decimalChars :=
  h.of_table (p := fun e => e.2 < 10 → e.1 ∈ decimalChars) (by decide) h.lt

theorem Row.subset_decimalChars (h : Row 10 cs ds) : cs ⊆ decimalChars := by
  intro c hc
  obtain rfl | ⟨d, -, h⟩ := h.digit_of_mem hc
  · decide
  · exact h.mem_decimalChars

theorem FractionPart.subset_decimalChars (h : FractionPart cs ds) : cs ⊆ decimalChars := by
  cases h with
  | absent => exact List.nil_subset _
  | bare => decide
  | row hrow => exact List.cons_subset.2 ⟨by decide, hrow.subset_decimalChars⟩

theorem ExponentPart.subset_decimalChars (h : ExponentPart cs e) : cs ⊆ decimalChars := by
  cases h with
  | absent => exact List.nil_subset _
  | row hletter hsign hrow =>
    refine List.cons_subset.2 ⟨?_, List.append_subset.2 ⟨?_, hrow.subset_decimalChars⟩⟩
    · rcases hletter with rfl | rfl <;> decide
    · cases hsign <;> decide

/-- A decimal literal is written with digits, low lines, points, signs and the letters of an
exponent. -/
theorem DecimalLiteral.subset_decimalChars (h : DecimalLiteral cs d) : cs ⊆ decimalChars := by
  cases h with
  | whole hwhole hpart hexponent =>
    exact List.append_subset.2 ⟨hwhole.row_digits.subset_decimalChars,
      List.append_subset.2 ⟨hpart.subset_decimalChars, hexponent.subset_decimalChars⟩⟩
  | point hrow hexponent =>
    exact List.cons_subset.2 ⟨by decide,
      List.append_subset.2 ⟨hrow.subset_decimalChars, hexponent.subset_decimalChars⟩⟩

/-- A decimal literal is not empty. -/
theorem DecimalLiteral.ne_nil (h : DecimalLiteral cs d) : cs ≠ [] := by
  cases h with
  | whole hwhole => exact List.append_ne_nil_of_left_ne_nil hwhole.row_digits.ne_nil _
  | point => exact List.cons_ne_nil _ _

/-- A decimal literal is neither empty nor marked at its end. -/
theorem DecimalLiteral.unmarked (h : DecimalLiteral cs d) :
    (cs.isEmpty || cs.getLast? == some 'n') = false := by
  rw [List.isEmpty_eq_false_iff.2 h.ne_nil, Bool.false_or, beq_eq_false_iff_ne]
  intro hlast
  exact absurd (h.subset_decimalChars (List.mem_of_getLast? hlast)) (by decide)

/-! ## Reading decimals -/

/-- What the program knows of the characters of decimal literals. -/
theorem decimalChar_cases {c : Char} (h : c ∈ decimalChars) :
    (Numeral.announcedBase? c).isSome = false ∧ Numeral.isMargin c = false ∧ c.toLower ≠ 'n' := by
  have hall : decimalChars.all (fun c => !(Numeral.announcedBase? c).isSome &&
      !Numeral.isMargin c && c.toLower != 'n') = true := by decide
  simpa [and_assoc] using List.all_eq_true.1 hall c h

/-- A point and the letters of an exponent are no digits. -/
theorem not_digit_of_isMark {c : Char} (h : isMark c = true) :
    isAsciiDigit c = false ∧ ('0' ≤ c && c ≤ '7') = false ∧ digitValue? c = none ∧ c ≠ '_' := by
  simp only [isMark, Bool.or_eq_true, beq_iff_eq] at h
  obtain (rfl | rfl) | rfl := h <;> decide

/-- A legacy form holds nothing but digits. -/
theorem isLegacy_eq_false_of_mem {p : Char → Bool} {c : Char} (hc : c ∈ cs) (hp : p c = false)
    (hzero : c ≠ '0') : isLegacy p cs = false := by
  rw [isLegacy.eq_def]
  split
  · next d ds =>
    exact List.all_eq_false.2 ⟨c, (List.mem_cons.1 hc).resolve_left hzero, by simp [hp]⟩
  · rfl

/-- A literal with a point or an exponent is told by that. -/
theorem form_of_mark (h : cs ⊆ decimalChars) (hmark : cs.any isMark = true) :
    form cs = .fraction := by
  have hannounces : announces cs = false := by
    rw [announces.eq_def]
    split
    · next letter rest =>
      exact (decimalChar_cases (h (List.mem_cons_of_mem _ List.mem_cons_self))).1
    · rfl
  obtain ⟨c, hc, hc'⟩ := List.any_eq_true.1 hmark
  obtain ⟨hdigit, hoctal, -⟩ := not_digit_of_isMark hc'
  have hzero : c ≠ '0' := by
    rintro rfl
    cases hdigit
  have hany : (cs.any fun c => c == '.' || c == 'e' || c == 'E') = true := hmark
  rw [form, isLegacy_eq_false_of_mem hc hoctal hzero, isLegacy_eq_false_of_mem hc hdigit hzero,
    hannounces, hany]
  rfl

/-- A literal without a point and without an exponent is a whole part. -/
theorem DecimalLiteral.wholePart (h : DecimalLiteral cs d) (hmark : cs.any isMark = false) :
    ∃ ds, WholePart cs ds := by
  have hletter {letter : Char} (h : letter = 'e' ∨ letter = 'E') : isMark letter = true := by
    rcases h with rfl | rfl <;> rfl
  cases h with
  | whole hwhole hpart hexponent =>
    simp only [List.any_append, Bool.or_eq_false_iff] at hmark
    cases hpart with
    | absent =>
      cases hexponent with
      | absent => exact ⟨_, by simpa using hwhole⟩
      | row hl => simp [hletter hl] at hmark
    | bare => simp [isMark] at hmark
    | row => simp [isMark] at hmark
  | point => simp [isMark] at hmark

/-- A part that comes after digits does not go on with them. -/
theorem ExponentPart.head (h : ExponentPart cs e) :
    ∀ c ∈ cs.head?, c ≠ '.' ∧ c ≠ '_' ∧ digitValue? c = none := by
  cases h with
  | absent => simp
  | row hletter =>
    rintro _ ⟨⟩
    rcases hletter with rfl | rfl <;> decide

/-- An exponent is read. -/
theorem ExponentPart.exponent?_eq (h : ExponentPart cs e) : Numeral.exponent? cs = some e := by
  cases h with
  | absent => rfl
  | @row letter signs cs negative ds hletter hsign hrow =>
    have hsplit : Numeral.sign (signs ++ cs) = (negative, cs) := by
      cases hsign with
      | absent => exact hrow.sign_eq
      | plus => rfl
      | minus => rfl
    have hrun : Numeral.digitRun false (cs ++ []) = some (ds, []) :=
      hrow.digitRun_append (by simp) false
    rw [List.append_nil] at hrun
    simp only [Numeral.exponent?, hletter, if_true, hsplit, hrun, ofDigits_eq]

/-- A row of decimal digits begins with one. -/
theorem Row.head_digit (h : Row 10 cs ds) :
    ∃ c rest, cs = c :: rest ∧ (digitValue? c).isSome = true := by
  obtain ⟨c, d, rest, ds, rfl, rfl, hc⟩ := h.exists_cons
  exact ⟨c, rest, rfl, by rw [hc.digitValue?_eq]; rfl⟩

variable {exponent : List Char}

/-- A point and digits are read. -/
theorem fraction_row (hrow : Row 10 cs ds) (hexponent : ExponentPart exponent e) (whole : Bool) :
    Numeral.fraction whole ('.' :: (cs ++ exponent)) = some (ds, exponent) := by
  have hrun := hrow.digitRun_append (fun c hc => (hexponent.head c hc).2) false
  obtain ⟨c, rest, rfl, hvalue⟩ := hrow.head_digit
  simp only [List.cons_append] at hrun ⊢
  simp only [Numeral.fraction, hvalue, if_true, hrun]

/-- A fraction after digits is read. -/
theorem FractionPart.fraction_eq (h : FractionPart cs ds) (hexponent : ExponentPart exponent e) :
    Numeral.fraction true (cs ++ exponent) = some (ds, exponent) := by
  have hhead := hexponent.head
  cases h with
  | absent =>
    rw [List.nil_append, Numeral.fraction.eq_def]
    split
    · exact absurd rfl (hhead '.' rfl).1
    · rfl
  | bare =>
    cases exponent with
    | nil => rfl
    | cons c rest =>
      have hvalue := (hhead c rfl).2.2
      simp [Numeral.fraction, hvalue]
  | row hrow => exact fraction_row hrow hexponent true

/-- What comes after the whole part does not go on with it. -/
theorem FractionPart.head (h : FractionPart cs ds) (hexponent : ExponentPart exponent e) :
    ∀ c ∈ (cs ++ exponent).head?, c ≠ '_' ∧ digitValue? c = none := by
  cases h with
  | absent => exact fun c hc => (hexponent.head c hc).2
  | bare =>
    rintro _ ⟨⟩
    decide
  | row =>
    rintro _ ⟨⟩
    decide

/-- A sign is split off from a decimal literal. -/
theorem DecimalLiteral.sign_eq (h : DecimalLiteral cs d) (negative : Bool) :
    Numeral.sign ((if negative then ['-'] else []) ++ cs) = (negative, cs) := by
  cases negative with
  | true => rfl
  | false =>
    refine sign_eq_self ?_
    cases h with
    | whole hwhole =>
      obtain ⟨c, d, rest, ds, rfl, -, hc⟩ := hwhole.row_digits.exists_cons
      rintro _ ⟨⟩
      exact ⟨hc.not_mark.2.1, hc.not_mark.2.2.1⟩
    | point =>
      rintro _ ⟨⟩
      decide

/-- A decimal literal is none of the words for what is no number. -/
theorem DecimalLiteral.ne_word (h : DecimalLiteral cs d) {word : String} (hn : 'n' ∈ word.toList) :
    cs.map Char.toLower ≠ word.toList := by
  intro heq
  obtain ⟨c, hc, hlower⟩ := List.mem_map.1 (heq ▸ hn)
  exact (decimalChar_cases (h.subset_decimalChars hc)).2.2 hlower

/-- A decimal literal is read as the float of the decimal that it spells, with a minus sign in front
or without. -/
theorem DecimalLiteral.readFloat?_eq (h : DecimalLiteral cs d) (negative : Bool) :
    Numeral.readFloat? (String.ofList ((if negative then ['-'] else []) ++ cs)) =
      some (Numeral.signedFloat negative d) := by
  have htrim : ∀ c ∈ (if negative then ['-'] else []) ++ cs, Numeral.isMargin c = false := by
    intro c hc
    rcases List.mem_append.1 hc with hc | hc
    · cases negative with
      | true =>
        rw [List.mem_singleton.1 hc]
        decide
      | false => cases hc
    · exact (decimalChar_cases (h.subset_decimalChars hc)).2.1
  rw [Numeral.readFloat?, String.toList_ofList, trim_eq_self htrim, h.sign_eq]
  simp only
  rw [if_neg (not_or.2 ⟨h.ne_word (by decide), h.ne_word (by decide)⟩),
    if_neg (h.ne_word (by decide))]
  cases h with
  | whole hwhole hpart hexponent =>
    have hrun := hwhole.row_digits.digitRun_append (hpart.head hexponent) false
    obtain ⟨c, rest, rfl, hvalue⟩ := hwhole.row_digits.head_digit
    simp only [List.cons_append] at hrun ⊢
    simp only [hvalue, if_true, hrun, Option.bind_some, Option.bind_eq_bind,
      hpart.fraction_eq hexponent, hexponent.exponent?_eq, ofDigits_eq]
  | point hrow hexponent =>
    have hpoint : digitValue? '.' = none := by decide
    simp only [hpoint, Option.isSome_none, Bool.false_eq_true, if_false, Option.bind_some,
      Option.bind_eq_bind, fraction_row hrow hexponent, hexponent.exponent?_eq, ofDigits_eq,
      List.nil_append]

end

/-! ## Writing decimals -/

section
open Json.Reader
variable {cs : List Char} {d : Decimal}

/-- A digit, as the layout writes it. -/
theorem isDigit_of_ascii {c : Char} (h : isAsciiDigit c) : IsDigit 10 c (c.toNat - '0'.toNat) := by
  have hrange : 48 ≤ c.toNat ∧ c.toNat ≤ 57 := by
    simpa [isAsciiDigit, Char.le_def, UInt32.le_iff_toNat_le] using h
  have hc : c = Char.ofNat c.toNat := (Char.ofNat_toNat c).symm
  obtain ⟨hlow, hhigh⟩ := hrange
  generalize c.toNat = n at *
  subst hc
  interval_cases n <;> exact ⟨by decide, by decide⟩

/-- Digits in a row, as the layout writes them. -/
theorem row_of_digits (hdigits : ∀ c ∈ cs, isAsciiDigit c) (hne : cs ≠ []) :
    Row 10 cs (cs.map fun c => c.toNat - '0'.toNat) := by
  induction cs with
  | nil => exact absurd rfl hne
  | cons c cs ih =>
    cases cs with
    | nil => exact .one (isDigit_of_ascii (hdigits c List.mem_cons_self))
    | cons b cs =>
      exact .next (isDigit_of_ascii (hdigits c List.mem_cons_self))
        (ih (fun x hx => hdigits x (List.mem_cons_of_mem _ hx)) (List.cons_ne_nil _ _))

/-- The number that digits spell, as they are added up and by the grammar. -/
theorem number_eq_spelled (cs : List Char) :
    number cs = spelled 10 (cs.map fun c => c.toNat - '0'.toNat) := by
  rw [number, ofDigits_eq]

/-- Digits that begin with no zero, by their values. -/
theorem head?_map_ne_zero (h : Whole cs) (hzero : cs.head? ≠ some '0') :
    (cs.map fun c => c.toNat - '0'.toNat).head? ≠ some 0 := by
  obtain ⟨c, cs, rfl⟩ := List.exists_cons_of_ne_nil h.ne_nil
  have hc := isDigit_of_ascii (h.digits c List.mem_cons_self)
  exact fun hhead => hzero (congrArg some (hc.ascii.2.2.2 (Option.some.inj hhead)))

/-- A whole part as the layout writes it. -/
theorem wholePart_of_whole (h : Whole cs) : WholePart cs (cs.map fun c => c.toNat - '0'.toNat) := by
  by_cases hzero : cs.head? = some '0'
  · rw [h.head hzero]
    exact .zero
  · exact .row (row_of_digits h.digits h.ne_nil) (head?_map_ne_zero h hzero)

/-- An exponent as the layout writes it. -/
theorem exponentPart_exponent (l : Decimal.Layout) (e : Int) : ExponentPart (l.exponent e) e := by
  obtain ⟨ds, heq, hdigits, hne, hnumber⟩ := exponent_eq l e
  have hsign : SignPart [if e < 0 then '-' else '+'] (decide (e < 0)) := by
    split <;> simp [*] <;> constructor
  have hpart := ExponentPart.row (.inl (Eq.refl 'e')) hsign (row_of_digits hdigits hne)
  rw [← number_eq_spelled, hnumber, signed_natAbs] at hpart
  rw [heq]
  exact hpart

/-- A decimal that is laid out is a decimal literal of its number. -/
theorem decimalLiteral_of_shape {l : Decimal.Layout} (h : l.Shape cs d) : DecimalLiteral cs d := by
  cases h with
  | point hfront hlimit hpart hne =>
    have hliteral := DecimalLiteral.whole (wholePart_of_whole hfront)
      (.row (row_of_digits hpart hne)) .absent
    rw [← List.map_append, ← number_eq_spelled, List.append_nil, List.length_map, zero_sub]
      at hliteral
    exact hliteral
  | exponent hfront hlimit e =>
    have hliteral := DecimalLiteral.whole (wholePart_of_whole hfront) .absent
      (exponentPart_exponent l e)
    rw [List.append_nil, ← number_eq_spelled, List.nil_append] at hliteral
    simpa using hliteral
  | pointExponent hfront hlimit hpart hne e =>
    have hliteral := DecimalLiteral.whole (wholePart_of_whole hfront)
      (.row (row_of_digits hpart hne)) (exponentPart_exponent l e)
    rw [← List.map_append, ← number_eq_spelled, List.length_map] at hliteral
    exact hliteral

end
/-! ## What is written for a float -/

section
open Binary64
variable {x : Float}

/-- The digits of a natural number are a decimal literal. -/
theorem decimalLiteral_toDigits (n : Nat) : ∃ d, DecimalLiteral (Nat.toDigits 10 n) d := by
  have hliteral := DecimalLiteral.whole (wholePart_of_whole (Json.Reader.whole_toDigits n)) .absent
    .absent
  rw [List.append_nil, List.append_nil] at hliteral
  exact ⟨_, hliteral⟩

/-- A natural number is written as a decimal literal. -/
theorem decimalLiteral_toString (n : Nat) : ∃ d, DecimalLiteral (toString n).toList d := by
  rw [show (toString n).toList = Nat.toDigits 10 n from String.toList_ofList]
  exact decimalLiteral_toDigits n

/-- Infinity is written as a word. -/
theorem writeFloat?_infinity (h : Unsigned x) (hinfinite : ¬ x.isFinite) :
    writeFloat? x = some "inf" := by
  have hparts : parts x = .infinity .positive := by
    rw [isFinite_iff] at hinfinite
    cases h with
    | zero h => exact absurd (congrArg Float.Model.UnpackedFloat.isFinite h) hinfinite
    | finite _ h => exact absurd (congrArg Float.Model.UnpackedFloat.isFinite h) hinfinite
    | infinity h => exact h
  rw [← ofParts_parts x, hparts]
  decide +kernel

/-- A finite float is spelled as its sign and a decimal literal of the same number. -/
theorem renderFloat_finite (h : x.isFinite) : ∃ cs, ∃ d : Decimal,
    Decimal.renderFloat x = String.ofList ((if Decimal.isNegative x then ['-'] else []) ++ cs) ∧
      DecimalLiteral cs d ∧ Numeral.signedFloat (Decimal.isNegative x) d = x := by
  obtain ⟨hnan, hinf⟩ := isFinite_iff_not.1 h
  obtain ⟨d, hvalue, hshape⟩ := Decimal.Layout.shape_render (l := .plain) rfl (by decide)
    (Decimal.shortest x)
  refine ⟨_, d, ?_, decimalLiteral_of_shape hshape, ?_⟩
  · rw [Decimal.renderFloat, hnan, hinf]
    rfl
  · rw [Decimal.signedFloat_congr hvalue, Decimal.signedFloat_shortest h]

/-- A finite float is read back from its spelling. -/
theorem readFloat?_renderFloat (h : x.isFinite) :
    Numeral.readFloat? (Decimal.renderFloat x) = some x := by
  obtain ⟨cs, d, htext, hliteral, hfloat⟩ := renderFloat_finite h
  rw [htext, hliteral.readFloat?_eq, hfloat]

/-- What is written for a finite float without a minus sign is a decimal literal. -/
theorem writeFloat?_finite (h : Unsigned x) (hfinite : x.isFinite) {bumped : String}
    (hbumped : writeFloat? x = some bumped) : ∃ d, DecimalLiteral bumped.toList d := by
  have hsign := h.isNegative_eq
  rw [writeFloat?] at hbumped
  split at hbumped
  · have htruncate : ∃ n : Nat, Decimal.truncate x = n := by
      rw [Decimal.truncate, hsign]
      exact ⟨_, rfl⟩
    obtain ⟨n, hn⟩ := htruncate
    rw [hn, Numeral.writeInt?] at hbumped
    split at hbumped
    · cases hbumped
    · obtain rfl := Option.some.inj hbumped
      exact decimalLiteral_toString n
  · obtain rfl := Option.some.inj hbumped
    obtain ⟨cs, d, htext, hliteral, -⟩ := renderFloat_finite hfinite
    rw [htext, hsign]
    simp only [Bool.false_eq_true, if_false, List.nil_append, String.toList_ofList]
    exact ⟨d, hliteral⟩

end

/-! ## Bumped literals -/

section
variable {text : String} {d : Decimal}

/-- A literal with a point or an exponent is bumped as a float. -/
theorem DecimalLiteral.bump?_eq (h : DecimalLiteral text.toList d)
    (hmark : text.toList.any isMark = true) : bump? text = writeFloat? (d.toFloat + 1) := by
  have hraw := h.filter
  have hraw' : (text.toList.filter (· != '_')).any isMark = true := by
    obtain ⟨c, hc, hmark⟩ := List.any_eq_true.1 hmark
    exact List.any_eq_true.2 ⟨c, List.mem_filter.2 ⟨hc,
      bne_iff_ne.2 (not_digit_of_isMark hmark).2.2.2⟩, hmark⟩
  rw [bump?]
  generalize text.toList.filter (· != '_') = cs at hraw hraw'
  have hread := hraw.readFloat?_eq false
  simp only [Bool.false_eq_true, if_false, List.nil_append] at hread
  simp only [hraw.unmarked, Bool.false_eq_true, if_false, hread,
    form_of_mark hraw.subset_decimalChars hraw', Option.bind_some, Numeral.signedFloat]

/-- A literal with a point or an exponent is bumped to infinity, which is no literal, when it is too
great for a float, and else to a decimal literal, if at all. -/
theorem DecimalLiteral.bump?_cases (h : DecimalLiteral text.toList d)
    (hmark : text.toList.any isMark = true) :
    if Binary64.tooGreat ≤ d.value then bump? text = some "inf"
    else ∀ {bumped : String}, bump? text = some bumped → ∃ d, DecimalLiteral bumped.toList d := by
  obtain ⟨hunsigned, hfinite⟩ := Binary64.toFloat_unsigned d
  obtain ⟨hnext, hnextFinite⟩ := Binary64.unsigned_add_one hunsigned
  rw [h.bump?_eq hmark]
  split
  · next hgreat =>
    exact writeFloat?_infinity hnext fun h => hgreat.not_gt (hfinite.1 (hnextFinite.1 h))
  · next hless =>
    exact fun hbumped =>
      writeFloat?_finite hnext (hnextFinite.2 (hfinite.2 (not_le.1 hless))) hbumped

/-- An integer is bumped to a decimal literal. -/
theorem IntegerLiteral.decimalLiteral_of_bump? {base : Nat} {ds : List Nat} {bumped : String}
    (h : IntegerLiteral base text.toList ds) (hbumped : bump? text = some bumped) :
    ∃ d, DecimalLiteral bumped.toList d := by
  rw [h.bump?_eq] at hbumped
  split at hbumped
  · obtain rfl := Option.some.inj hbumped
    exact decimalLiteral_toString (spelled base ds + 1)
  · cases hbumped

/-- A literal is bumped to infinity or to a decimal literal, if at all. -/
theorem NumericLiteral.bump?_cases (h : NumericLiteral text.toList) :
    (bump? text = some "inf" ∧ ∃ d, DecimalLiteral text.toList d ∧
      text.toList.any isMark = true ∧ Binary64.tooGreat ≤ d.value) ∨
      ∀ {bumped : String}, bump? text = some bumped → ∃ d, DecimalLiteral bumped.toList d := by
  cases h with
  | @decimal d h =>
    cases hmark : text.toList.any isMark with
    | true =>
      have hcases := h.bump?_cases hmark
      split at hcases
      · next hle => exact .inl ⟨hcases, d, h, rfl, hle⟩
      · exact .inr hcases
    | false =>
      obtain ⟨ds, hwhole⟩ := h.wholePart hmark
      exact .inr (IntegerLiteral.decimal hwhole).decimalLiteral_of_bump?
  | integer h => exact .inr h.decimalLiteral_of_bump?
  | bigInt h =>
    refine .inr fun hbumped => ?_
    rw [h.bump?_eq] at hbumped
    cases hbumped

end

/-- Infinity is spelled as a name. -/
theorem not_decimalLiteral_inf : ¬ ∃ d, DecimalLiteral "inf".toList d := by
  rintro ⟨d, hd⟩
  exact absurd (hd.subset_decimalChars List.mem_cons_self) (by decide)

/-- Bumped literals are decimal literals, or infinity for a number with a point or an exponent that
is too great for a float. -/
theorem bump?_numericLiteral {text : String} (h : NumericLiteral text.toList) :
    (∀ {bumped : String}, bump? text = some bumped → bumped ≠ "inf" →
      ∃ d, DecimalLiteral bumped.toList d) ∧
      (bump? text = some "inf" ↔ ∃ d, DecimalLiteral text.toList d ∧
        text.toList.any isMark = true ∧ Binary64.tooGreat ≤ d.value) := by
  refine ⟨fun hbumped hne => ?_, fun hinf => ?_, fun ⟨d, hliteral, hmark, hgreat⟩ => ?_⟩
  · obtain ⟨hinf, -⟩ | hdecimal := h.bump?_cases
    · exact absurd (Option.some.inj (hbumped.symm.trans hinf)) hne
    · exact hdecimal hbumped
  · obtain ⟨-, hgreat⟩ | hdecimal := h.bump?_cases
    · exact hgreat
    · exact absurd (hdecimal hinf) not_decimalLiteral_inf
  · have hcases := hliteral.bump?_cases hmark
    rwa [if_pos hgreat] at hcases

/-- A literal with all parts of a decimal. -/
theorem bump?_numericLiteral_thousand :
    bump? "1_000.5e2" = some "100051" ∧ ∃ d, DecimalLiteral "100051".toList d := by
  have hfront : Row 10 ['1', '_', '0', '0', '0'] [1, 0, 0, 0] :=
    .parted ⟨by decide, by decide⟩ (.next ⟨by decide, by decide⟩ (.next ⟨by decide, by decide⟩
      (.one ⟨by decide, by decide⟩)))
  have hpart : Row 10 ['5'] [5] := .one ⟨by decide, by decide⟩
  have hexponent : Row 10 ['2'] [2] := .one ⟨by decide, by decide⟩
  have hliteral : NumericLiteral "1_000.5e2".toList :=
    .decimal (.whole (.row hfront (by decide)) (.row hpart) (.row (.inl rfl) .absent hexponent))
  have hbump : bump? "1_000.5e2" = some "100051" := by decide +kernel
  exact ⟨hbump, (bump?_numericLiteral hliteral).1 hbump (by decide)⟩

/-- A literal that is too great for a float becomes a name. -/
theorem bump?_overflow : NumericLiteral "1e400".toList ∧ bump? "1e400" = some "inf" ∧
    ¬ ∃ d, DecimalLiteral "inf".toList d := by
  have hfront : Row 10 ['1'] [1] := .one ⟨by decide, by decide⟩
  have hexponent : Row 10 ['4', '0', '0'] [4, 0, 0] :=
    .next ⟨by decide, by decide⟩ (.next ⟨by decide, by decide⟩ (.one ⟨by decide, by decide⟩))
  exact ⟨.decimal (.whole (.row hfront (by decide)) .absent (.row (.inl rfl) .absent hexponent)),
    by decide +kernel, not_decimalLiteral_inf⟩

end Sabotage.Literal
