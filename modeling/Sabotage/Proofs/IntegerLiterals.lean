import Sabotage.Literal
import Sabotage.Proofs.NumeralTexts

/-!
# Integer literals

The integer literals of the language, by their grammar: a row of digits may hold single low lines
between the digits (`Row`), a base is announced by a letter or by a zero in front, as a legacy
(`IntegerLiteral`). The program tells these forms apart without looking at a literal as a whole, so
each form has a lemma on how it is taken (`form_row`, `form_announced` and so on). Integer literals
are bumped exactly (`bump?_integers`).
-/

namespace Sabotage.Literal

open Text

/-! ## Digits -/

/-- The digits and their values. -/
def digitTable : List (Char × Nat) :=
  [('0', 0), ('1', 1), ('2', 2), ('3', 3), ('4', 4), ('5', 5), ('6', 6), ('7', 7), ('8', 8),
    ('9', 9), ('a', 10), ('b', 11), ('c', 12), ('d', 13), ('e', 14), ('f', 15), ('A', 10),
    ('B', 11), ('C', 12), ('D', 13), ('E', 14), ('F', 15)]

/-- The letters that announce a base after a zero. -/
def announcements : List (Char × Nat) :=
  [('x', 16), ('X', 16), ('o', 8), ('O', 8), ('b', 2), ('B', 2)]

/-- A digit of a base, with its value. -/
structure IsDigit (base : Nat) (c : Char) (d : Nat) : Prop where
  mem : (c, d) ∈ digitTable
  lt : d < base

/-- A row of digits of a base, between which single low lines may stand, with their values. -/
inductive Row (base : Nat) : List Char → List Nat → Prop
  | one {c : Char} {d : Nat} (h : IsDigit base c d) : Row base [c] [d]
  | next {c : Char} {d : Nat} {cs : List Char} {ds : List Nat} (h : IsDigit base c d)
    (hrow : Row base cs ds) : Row base (c :: cs) (d :: ds)
  | parted {c : Char} {d : Nat} {cs : List Char} {ds : List Nat} (h : IsDigit base c d)
    (hrow : Row base cs ds) : Row base (c :: '_' :: cs) (d :: ds)

/-- The number that digits of a base spell. -/
def spelled (base : Nat) (ds : List Nat) : Nat :=
  Nat.ofDigits base ds.reverse

/-- The program adds up the digits to the same number. -/
theorem ofDigits_eq (base : Nat) (ds : List Nat) : ofDigits base ds = spelled base ds := by
  induction ds using List.reverseRecOn with
  | nil => rfl
  | append_singleton ds d ih =>
    rw [ofDigits_concat, ih, spelled, spelled, List.reverse_concat, Nat.ofDigits_cons]
    simp [Nat.add_comm, Nat.mul_comm]

namespace IsDigit
variable {base d : Nat} {c : Char}

/-- A property of digits that all those of the table have. -/
theorem of_table {p : Char × Nat → Prop} (hp : ∀ e ∈ digitTable, p e) (h : IsDigit base c d) :
    p (c, d) :=
  hp _ h.mem

/-- The program reads a digit of a base. -/
theorem digitIn?_eq (h : IsDigit base c d) : digitIn? base c = some d := by
  have hgreat : digitIn? 36 c = some d :=
    h.of_table (p := fun e => digitIn? 36 e.1 = some e.2) (by decide)
  rw [digitIn?, Option.filter_eq_some_iff] at hgreat ⊢
  exact ⟨hgreat.1, by simpa using h.lt⟩

/-- The program reads a decimal digit. -/
theorem digitValue?_eq (h : IsDigit 10 c d) : digitValue? c = some d :=
  h.of_table (p := fun e => e.2 < 10 → digitValue? e.1 = some e.2) (by decide) h.lt

/-- What is no digit. -/
theorem not_mark (h : IsDigit base c d) : c ≠ '_' ∧ c ≠ '+' ∧ c ≠ '-' ∧ c ≠ '.' ∧ c ≠ 'n' :=
  h.of_table (p := fun e => e.1 ≠ '_' ∧ e.1 ≠ '+' ∧ e.1 ≠ '-' ∧ e.1 ≠ '.' ∧ e.1 ≠ 'n') (by decide)

/-- A digit is no blank. -/
theorem not_margin (h : IsDigit base c d) : Numeral.isMargin c = false :=
  h.of_table (p := fun e => Numeral.isMargin e.1 = false) (by decide)

end IsDigit


namespace Row
variable {base : Nat} {cs : List Char} {ds : List Nat}

/-- A row begins with a digit. -/
theorem exists_cons (h : Row base cs ds) :
    ∃ c d rest, ∃ ds', cs = c :: rest ∧ ds = d :: ds' ∧ IsDigit base c d := by
  cases h with
  | one h => exact ⟨_, _, _, _, rfl, rfl, h⟩
  | next h => exact ⟨_, _, _, _, rfl, rfl, h⟩
  | parted h => exact ⟨_, _, _, _, rfl, rfl, h⟩

theorem ne_nil (h : Row base cs ds) : cs ≠ [] := by
  cases h <;> exact List.cons_ne_nil _ _

/-- A row holds digits and low lines. -/
theorem digit_of_mem (h : Row base cs ds) {c : Char} (hc : c ∈ cs) :
    c = '_' ∨ ∃ d ∈ ds, IsDigit base c d := by
  induction h with
  | one h =>
    obtain rfl := List.mem_singleton.1 hc
    exact .inr ⟨_, List.mem_cons_self, h⟩
  | next h _ ih =>
    obtain rfl | hc := List.mem_cons.1 hc
    · exact .inr ⟨_, List.mem_cons_self, h⟩
    · exact (ih hc).imp_right fun ⟨d, hd, h⟩ => ⟨d, List.mem_cons_of_mem _ hd, h⟩
  | parted h _ ih =>
    obtain rfl | hc := List.mem_cons.1 hc
    · exact .inr ⟨_, List.mem_cons_self, h⟩
    obtain rfl | hc := List.mem_cons.1 hc
    · exact .inl rfl
    · exact (ih hc).imp_right fun ⟨d, hd, h⟩ => ⟨d, List.mem_cons_of_mem _ hd, h⟩

/-- A digit of a row without low lines. -/
theorem isDigit_of_mem (h : Row base cs ds) (hlow : '_' ∉ cs) {c : Char} (hc : c ∈ cs) :
    ∃ d ∈ ds, IsDigit base c d :=
  (h.digit_of_mem hc).resolve_left fun heq => hlow (heq ▸ hc)

/-- Every value of a row is that of one of its digits. -/
theorem char_of_mem (h : Row base cs ds) {d : Nat} (hd : d ∈ ds) : ∃ c ∈ cs, IsDigit base c d := by
  induction h with
  | one h =>
    obtain rfl := List.mem_singleton.1 hd
    exact ⟨_, List.mem_cons_self, h⟩
  | next h _ ih =>
    obtain rfl | hd := List.mem_cons.1 hd
    · exact ⟨_, List.mem_cons_self, h⟩
    · obtain ⟨c, hc, h⟩ := ih hd
      exact ⟨c, List.mem_cons_of_mem _ hc, h⟩
  | parted h _ ih =>
    obtain rfl | hd := List.mem_cons.1 hd
    · exact ⟨_, List.mem_cons_self, h⟩
    · obtain ⟨c, hc, h⟩ := ih hd
      exact ⟨c, List.mem_cons_of_mem _ (List.mem_cons_of_mem _ hc), h⟩

/-- Without its low lines a row spells the same digits. -/
theorem filter (h : Row base cs ds) : Row base (cs.filter (· != '_')) ds := by
  have hkeep {c : Char} {d : Nat} (h : IsDigit base c d) : (c != '_') = true :=
    bne_iff_ne.2 h.not_mark.1
  induction h with
  | one h =>
    rw [List.filter_cons_of_pos (p := (· != '_')) (hkeep h)]
    exact .one h
  | next h _ ih =>
    rw [List.filter_cons_of_pos (p := (· != '_')) (hkeep h)]
    exact .next h ih
  | parted h _ ih =>
    rw [List.filter_cons_of_pos (p := (· != '_')) (hkeep h),
      List.filter_cons_of_neg (p := (· != '_')) (by decide)]
    exact .next h ih

/-- The program reads a row of digits of a base. -/
theorem digits?_eq (h : Row base cs ds) (afterDigit : Bool) :
    Numeral.digits? base afterDigit cs = some ds := by
  induction h generalizing afterDigit with
  | one h => simp [Numeral.digits?, h.not_mark.1, h.digitIn?_eq]
  | next h _ ih => simp [Numeral.digits?, h.not_mark.1, h.digitIn?_eq, ih]
  | parted h _ ih => simp [Numeral.digits?, h.not_mark.1, h.digitIn?_eq, ih]

/-- The program reads a row of decimal digits up to something else. -/
theorem digitRun_append (h : Row 10 cs ds) {rest : List Char}
    (hrest : ∀ c ∈ rest.head?, c ≠ '_' ∧ digitValue? c = none) (afterDigit : Bool) :
    Numeral.digitRun afterDigit (cs ++ rest) = some (ds, rest) := by
  have hdigit {c : Char} {d : Nat} (h : IsDigit 10 c d) (afterDigit : Bool) (cs : List Char) :
      Numeral.digitRun afterDigit (c :: cs) =
        (Numeral.digitRun true cs).map fun run => (d :: run.1, run.2) := by
    simp only [Numeral.digitRun, h.not_mark.1, h.digitValue?_eq, if_false]
  have hparted {c : Char} {d : Nat} (h : IsDigit 10 c d) (cs : List Char) :
      Numeral.digitRun true ('_' :: c :: cs) = Numeral.digitRun false (c :: cs) := by
    conv_lhs => rw [Numeral.digitRun]
    simp only [h.digitValue?_eq, if_true, Option.isSome_some]
  induction h generalizing afterDigit with
  | one h =>
    have hend : Numeral.digitRun true rest = some ([], rest) := by
      cases rest with
      | nil => rfl
      | cons c rest =>
        obtain ⟨hlow, hvalue⟩ := hrest c rfl
        simp [Numeral.digitRun, hlow, hvalue]
    rw [List.singleton_append, hdigit h, hend]
    rfl
  | next h _ ih =>
    rw [List.cons_append, hdigit h, ih]
    rfl
  | parted h hrow ih =>
    obtain ⟨c, d, cs, ds, rfl, rfl, hc⟩ := hrow.exists_cons
    rw [List.cons_append, List.cons_append, List.cons_append, hdigit h, hparted hc,
      ← List.cons_append, ih]
    rfl

end Row

/-! ## Integers -/

/-- The whole part of a decimal number: a zero, a row that begins with another digit, or as a legacy
digits after a zero that are not all octal. -/
inductive WholePart : List Char → List Nat → Prop
  | zero : WholePart ['0'] [0]
  | row {cs : List Char} {ds : List Nat} (hrow : Row 10 cs ds) (hhead : ds.head? ≠ some 0) :
    WholePart cs ds
  | legacy {cs : List Char} {ds : List Nat} (hrow : Row 10 cs ds) (hlow : '_' ∉ cs)
    (hgreat : ∃ d ∈ ds, 8 ≤ d) : WholePart ('0' :: cs) (0 :: ds)

/-- An integer literal, with its base and its digits. -/
inductive IntegerLiteral : Nat → List Char → List Nat → Prop
  | decimal {cs : List Char} {ds : List Nat} (h : WholePart cs ds) : IntegerLiteral 10 cs ds
  | announced {base : Nat} {letter : Char} {cs : List Char} {ds : List Nat}
    (hbase : (letter, base) ∈ announcements) (hrow : Row base cs ds) :
    IntegerLiteral base ('0' :: letter :: cs) ds
  | legacyOctal {cs : List Char} {ds : List Nat} (hrow : Row 8 cs ds) (hlow : '_' ∉ cs) :
    IntegerLiteral 8 ('0' :: cs) (0 :: ds)

/-- A literal of an integer of any size, which is marked at its end and knows no legacy forms. -/
inductive BigIntLiteral : List Char → Prop
  | zero : BigIntLiteral ['0', 'n']
  | row {cs : List Char} {ds : List Nat} (hrow : Row 10 cs ds) (hhead : ds.head? ≠ some 0) :
    BigIntLiteral (cs ++ ['n'])
  | announced {base : Nat} {letter : Char} {cs : List Char} {ds : List Nat}
    (hbase : (letter, base) ∈ announcements) (hrow : Row base cs ds) :
    BigIntLiteral ('0' :: letter :: cs ++ ['n'])

/-- Zero is a digit of every base. -/
theorem isDigit_zero {base : Nat} (h : 0 < base) : IsDigit base '0' 0 := ⟨by decide, h⟩

/-- No low line is filtered out where there is none. -/
theorem filter_eq_self {cs : List Char} (h : '_' ∉ cs) : cs.filter (· != '_') = cs :=
  List.filter_eq_self.2 fun _ hc => bne_iff_ne.2 fun heq => h (heq ▸ hc)

namespace WholePart
variable {cs : List Char} {ds : List Nat}

/-- A whole part is a row of digits. -/
theorem row_digits (h : WholePart cs ds) : Row 10 cs ds := by
  cases h with
  | zero => exact .one (isDigit_zero (by decide))
  | row hrow => exact hrow
  | legacy hrow => exact .next (isDigit_zero (by decide)) hrow

/-- Without its low lines it is the same whole part. -/
theorem filter (h : WholePart cs ds) : WholePart (cs.filter (· != '_')) ds := by
  cases h with
  | zero => exact .zero
  | row hrow hhead => exact .row hrow.filter hhead
  | legacy hrow hlow hgreat =>
    rw [List.filter_cons_of_pos (by decide), filter_eq_self hlow]
    exact .legacy hrow hlow hgreat

end WholePart

/-- Without its low lines a literal is the same literal. -/
theorem IntegerLiteral.filter {base : Nat} {cs : List Char} {ds : List Nat}
    (h : IntegerLiteral base cs ds) : IntegerLiteral base (cs.filter (· != '_')) ds := by
  cases h with
  | decimal h => exact .decimal h.filter
  | @announced _ letter _ _ hbase hrow =>
    have hletter : (letter != '_') = true :=
      (by decide : ∀ e ∈ announcements, (e.1 != '_') = true) _ hbase
    rw [List.filter_cons_of_pos (by decide), List.filter_cons_of_pos (p := (· != '_')) hletter]
    exact .announced hbase hrow.filter
  | legacyOctal hrow hlow =>
    rw [List.filter_cons_of_pos (by decide), filter_eq_self hlow]
    exact .legacyOctal hrow hlow

/-! ## The forms of integers -/

namespace IsDigit
variable {c : Char} {d : Nat}

/-- A decimal digit as the program knows it, and an octal digit by its value. -/
theorem ascii (h : IsDigit 10 c d) :
    isAsciiDigit c = true ∧ ('0' ≤ c && c ≤ '7') = decide (d < 8) ∧ (c = '0' ↔ d = 0) :=
  h.of_table (p := fun e => e.2 < 10 → isAsciiDigit e.1 = true ∧
    ('0' ≤ e.1 && e.1 ≤ '7') = decide (e.2 < 8) ∧ (e.1 = '0' ↔ e.2 = 0)) (by decide) h.lt

/-- A decimal digit is no letter of an exponent. -/
theorem not_exponent (h : IsDigit 10 c d) : c ≠ 'e' ∧ c ≠ 'E' :=
  h.of_table (p := fun e => e.2 < 10 → e.1 ≠ 'e' ∧ e.1 ≠ 'E') (by decide) h.lt

/-- A digit of a smaller base. -/
theorem mono {base base' : Nat} (h : IsDigit base c d) (hle : base ≤ base') : IsDigit base' c d :=
  ⟨h.mem, h.lt.trans_le hle⟩

end IsDigit

/-- What the program knows of the letters that announce a base. -/
theorem announcement {letter : Char} {base : Nat} (h : (letter, base) ∈ announcements) :
    Numeral.announcedBase? letter = some base ∧ ('0' ≤ letter && letter ≤ '7') = false ∧
      isAsciiDigit letter = false ∧ Numeral.isMargin letter = false ∧ letter ≠ 'n' :=
  (by decide : ∀ e ∈ announcements, Numeral.announcedBase? e.1 = some e.2 ∧
    ('0' ≤ e.1 && e.1 ≤ '7') = false ∧ isAsciiDigit e.1 = false ∧
      Numeral.isMargin e.1 = false ∧ e.1 ≠ 'n') _ h

/-- After a zero all characters are looked at. -/
theorem isLegacy_zero_cons (p : Char → Bool) {cs : List Char} (h : cs ≠ []) :
    isLegacy p ('0' :: cs) = cs.all p := by
  obtain ⟨c, cs, rfl⟩ := List.exists_cons_of_ne_nil h
  rfl

/-- A legacy form begins with a zero. -/
theorem isLegacy_eq_false {p : Char → Bool} {cs : List Char} (h : cs.head? ≠ some '0') :
    isLegacy p cs = false := by
  rw [isLegacy.eq_def]
  split
  · exact absurd rfl h
  · rfl

/-- A base is announced after a zero. -/
theorem announces_eq_false {cs : List Char} (h : cs.head? ≠ some '0') : announces cs = false := by
  rw [announces.eq_def]
  split
  · exact absurd rfl h
  · rfl

section
variable {cs : List Char} {ds : List Nat}

/-- Octal digits after a zero are a legacy form. -/
theorem form_legacyOctal (hrow : Row 8 cs ds) (hlow : '_' ∉ cs) :
    form ('0' :: cs) = .legacyOctal := by
  have hall : cs.all (fun c => '0' ≤ c && c ≤ '7') = true := by
    refine List.all_eq_true.2 fun c hc => ?_
    obtain ⟨d, -, h⟩ := hrow.isDigit_of_mem hlow hc
    rw [(h.mono (by decide)).ascii.2.1]
    exact decide_eq_true h.lt
  rw [form, isLegacy_zero_cons _ hrow.ne_nil, hall, if_pos rfl]

/-- Other digits after a zero are the other legacy form. -/
theorem form_legacyDecimal (hrow : Row 10 cs ds) (hlow : '_' ∉ cs) (hgreat : ∃ d ∈ ds, 8 ≤ d) :
    form ('0' :: cs) = .legacyDecimal := by
  obtain ⟨d, hd, hge⟩ := hgreat
  obtain ⟨c, hc, h⟩ := hrow.char_of_mem hd
  have hoctal : cs.all (fun c => '0' ≤ c && c ≤ '7') = false := by
    refine List.all_eq_false.2 ⟨c, hc, ?_⟩
    rw [h.ascii.2.1, decide_eq_true_iff]
    omega
  have hdecimal : cs.all isAsciiDigit = true := by
    refine List.all_eq_true.2 fun c hc => ?_
    obtain ⟨d, -, h⟩ := hrow.isDigit_of_mem hlow hc
    exact h.ascii.1
  rw [form, isLegacy_zero_cons _ hrow.ne_nil, isLegacy_zero_cons _ hrow.ne_nil, hoctal, hdecimal,
    if_neg Bool.false_ne_true, if_pos rfl]

/-- A letter after a zero announces a base. -/
theorem form_announced {base : Nat} {letter : Char} (hbase : (letter, base) ∈ announcements)
    (cs : List Char) : form ('0' :: letter :: cs) = .announced := by
  obtain ⟨hannounced, hoctal, hdecimal, -⟩ := announcement hbase
  have hne : letter :: cs ≠ [] := List.cons_ne_nil _ _
  rw [form, isLegacy_zero_cons _ hne, isLegacy_zero_cons _ hne, List.all_cons, List.all_cons,
    hoctal, hdecimal, announces, hannounced]
  rfl

/-- Digits that do not begin with a zero are an integer. -/
theorem form_row (hrow : Row 10 cs ds) (hlow : '_' ∉ cs) (hhead : ds.head? ≠ some 0) :
    form cs = .integer := by
  have hzero : cs.head? ≠ some '0' := by
    obtain ⟨c, d, cs, ds, rfl, rfl, h⟩ := hrow.exists_cons
    intro heq
    exact hhead (congrArg some (h.ascii.2.2.1 (Option.some.inj heq)))
  have hmarks : cs.any (fun c => c == '.' || c == 'e' || c == 'E') = false := by
    refine List.any_eq_false.2 fun c hc => ?_
    obtain ⟨d, -, h⟩ := hrow.isDigit_of_mem hlow hc
    simp [h.not_mark, h.not_exponent]
  rw [form, isLegacy_eq_false hzero, isLegacy_eq_false hzero, announces_eq_false hzero, hmarks]
  rfl

end

/-! ## Reading integers -/

section
variable {base : Nat} {cs : List Char} {ds : List Nat}

/-- A text without blanks is not trimmed. -/
theorem trim_eq_self (h : ∀ c ∈ cs, Numeral.isMargin c = false) : Numeral.trim cs = cs := by
  have hdrop {cs : List Char} (h : ∀ c ∈ cs, Numeral.isMargin c = false) :
      cs.dropWhile Numeral.isMargin = cs := by
    cases cs with
    | nil => rfl
    | cons c cs => rw [List.dropWhile_cons_of_neg (by simp [h c List.mem_cons_self])]
  rw [Numeral.trim, trimBy, hdrop h, hdrop (fun c hc => h c (List.mem_reverse.1 hc)),
    List.reverse_reverse]

/-- A text that begins with no sign has none split off. -/
theorem sign_eq_self (h : ∀ c ∈ cs.head?, c ≠ '+' ∧ c ≠ '-') : Numeral.sign cs = (false, cs) := by
  rw [Numeral.sign.eq_def]
  split
  · exact absurd rfl (h '-' rfl).2
  · exact absurd rfl (h '+' rfl).1
  · rfl

/-- A row holds no blanks. -/
theorem Row.not_margin (h : Row base cs ds) : ∀ c ∈ cs, Numeral.isMargin c = false := by
  intro c hc
  obtain rfl | ⟨d, -, h⟩ := h.digit_of_mem hc
  · decide
  · exact h.not_margin

/-- A row begins with no sign. -/
theorem Row.sign_eq (h : Row base cs ds) : Numeral.sign cs = (false, cs) := by
  obtain ⟨c, d, cs, ds, rfl, -, h⟩ := h.exists_cons
  refine sign_eq_self ?_
  rintro _ ⟨⟩
  exact ⟨h.not_mark.2.1, h.not_mark.2.2.1⟩

/-- A row is read in its base, if it is not too long. -/
theorem readInt?_row (h : Row base cs ds) :
    Numeral.readInt? base (String.ofList cs) =
      if !Numeral.unlimited base && ds.length > Numeral.digitLimit then none
      else some (spelled base ds : Int) := by
  rw [Numeral.readInt?, String.toList_ofList, trim_eq_self h.not_margin, h.sign_eq]
  simp only [h.digits?_eq, Numeral.signed, ofDigits_eq, Bool.false_eq_true, if_false]

/-- A row is read in the base that is announced. -/
theorem readAnnounced?_row {letter : Char} (hbase : (letter, base) ∈ announcements)
    (h : Row base cs ds) : Numeral.readAnnounced? (String.ofList ('0' :: letter :: cs)) =
      some (spelled base ds : Int) := by
  obtain ⟨hannounced, -, -, hmargin, -⟩ := announcement hbase
  have htrim : ∀ c ∈ '0' :: letter :: cs, Numeral.isMargin c = false := by
    rintro c (_ | ⟨_, _ | ⟨_, hc⟩⟩)
    · decide
    · exact hmargin
    · exact h.not_margin c hc
  rw [Numeral.readAnnounced?, String.toList_ofList, trim_eq_self htrim]
  obtain ⟨c, d, cs, ds, rfl, rfl, hc⟩ := h.exists_cons
  simp only [hannounced]
  split
  · next heq => exact absurd (List.cons.inj heq).1 hc.not_mark.1
  · rw [h.digits?_eq, Option.map_some, ofDigits_eq]

end

/-! ## Integers are bumped exactly -/

/-- What is written for the number after another one. -/
theorem successor?_natCast (n : Nat) : successor? (some (n : Int)) =
    if (toString (n + 1)).length ≤ Numeral.digitLimit then some (toString (n + 1)) else none := by
  have hcount : Decimal.digitCount (n + 1) = (toString (n + 1)).length :=
    String.length_ofList.symm
  have habs : ((n : Int) + 1).natAbs = n + 1 := by omega
  have htext : toString ((n : Int) + 1) = toString (n + 1) := rfl
  rw [successor?, Option.bind_some, Numeral.writeInt?, habs, htext, hcount]
  simp only [← Nat.not_lt, gt_iff_lt, ite_not]

section
variable {base : Nat} {cs : List Char} {ds : List Nat}

/-- What is written for the number after the one that a row of decimal digits spells. -/
theorem successor?_readInt? (h : Row 10 cs ds) :
    successor? (Numeral.readInt? 10 (String.ofList cs)) =
      if ds.length ≤ Numeral.digitLimit ∧
          (toString (spelled 10 ds + 1)).length ≤ Numeral.digitLimit
        then some (toString (spelled 10 ds + 1)) else none := by
  have hlimited : Numeral.unlimited 10 = false := rfl
  rw [readInt?_row h, hlimited]
  by_cases hlength : ds.length ≤ Numeral.digitLimit
  · simp only [hlength, Nat.not_lt.2 hlength, decide_false, Bool.and_false, if_false,
      Bool.false_eq_true, successor?_natCast, true_and]
  · simp only [hlength, Nat.not_le.1 hlength, decide_true, Bool.not_false, Bool.and_true, if_true,
      false_and, if_false]
    rfl

/-- An integer literal is not empty and has no mark at its end. -/
theorem IntegerLiteral.unmarked (h : IntegerLiteral base cs ds) :
    (cs.isEmpty || cs.getLast? == some 'n') = false := by
  have hrow {base : Nat} {cs : List Char} {ds : List Nat} (h : Row base cs ds) : 'n' ∉ cs := by
    intro hn
    obtain heq | ⟨d, -, h⟩ := h.digit_of_mem hn
    · exact absurd heq (by decide)
    · exact h.not_mark.2.2.2.2 rfl
  have hn : cs ≠ [] ∧ 'n' ∉ cs := by
    cases h with
    | decimal h => exact ⟨h.row_digits.ne_nil, hrow h.row_digits⟩
    | announced hbase h =>
      refine ⟨List.cons_ne_nil _ _, ?_⟩
      rintro (_ | ⟨_, _ | ⟨_, hn⟩⟩)
      · exact (announcement hbase).2.2.2.2 rfl
      · exact hrow h hn
    | legacyOctal h =>
      exact ⟨List.cons_ne_nil _ _, hrow (.next (isDigit_zero (by decide)) h)⟩
  rw [List.isEmpty_eq_false_iff.2 hn.1, Bool.false_or, beq_eq_false_iff_ne]
  exact fun h => hn.2 (List.mem_of_getLast? h)

/-- An integer literal is bumped to the number after the one that it spells, if neither the decimal
digits of the literal nor those of the result are too many. -/
theorem IntegerLiteral.bump?_eq {text : String} (h : IntegerLiteral base text.toList ds) :
    bump? text =
      if (base = 10 → ds.length ≤ Numeral.digitLimit) ∧
          (toString (spelled base ds + 1)).length ≤ Numeral.digitLimit
        then some (toString (spelled base ds + 1)) else none := by
  have hlow : '_' ∉ text.toList.filter (· != '_') := fun h => by simp at h
  have hraw := h.filter
  rw [bump?]
  generalize text.toList.filter (· != '_') = cs at hraw hlow
  simp only [hraw.unmarked, Bool.false_eq_true, if_false]
  cases hraw with
  | decimal hwhole =>
    simp only [forall_const]
    rw [← successor?_readInt? hwhole.row_digits]
    cases hwhole with
    | zero => rfl
    | row hrow hhead => rw [form_row hrow hlow hhead]
    | legacy hrow hplain hgreat => rw [form_legacyDecimal hrow hplain hgreat]
  | announced hbase hrow =>
    have hten : base ≠ 10 :=
      (by decide : ∀ e ∈ announcements, e.2 ≠ 10) _ hbase
    simp only [form_announced hbase, readAnnounced?_row hbase hrow, successor?_natCast, hten,
      false_implies, true_and]
  | legacyOctal hrow hplain =>
    have hread := readInt?_row (.next (isDigit_zero (by decide)) hrow)
    have hunlimited : Numeral.unlimited 8 = true := rfl
    simp only [form_legacyOctal hrow hplain, hread, hunlimited, Bool.not_true, Bool.false_and,
      Bool.false_eq_true, if_false, successor?_natCast]
    simp

/-- A literal that is marked as an integer of any size is not bumped. -/
theorem BigIntLiteral.bump?_eq {text : String} (h : BigIntLiteral text.toList) :
    bump? text = none := by
  have hlast : ∃ cs, text.toList = cs ++ ['n'] := by
    generalize text.toList = cs at h
    cases h with
    | zero => exact ⟨['0'], rfl⟩
    | row => exact ⟨_, rfl⟩
    | announced => exact ⟨_, rfl⟩
  obtain ⟨cs, hcs⟩ := hlast
  have hfilter : text.toList.filter (· != '_') = cs.filter (· != '_') ++ ['n'] := by
    rw [hcs, List.filter_append]
    rfl
  simp [bump?, hfilter]

end

/-- Integer literals are bumped exactly: to the decimal numeral of the next number, in whichever
base and form they spell theirs. What is marked as an integer of any size is left alone. -/
theorem bump?_integers :
    (∀ {base : Nat} {text : String} {ds : List Nat}, IntegerLiteral base text.toList ds →
      bump? text =
        if (base = 10 → ds.length ≤ Numeral.digitLimit) ∧
            (toString (spelled base ds + 1)).length ≤ Numeral.digitLimit
          then some (toString (spelled base ds + 1)) else none) ∧
      ∀ {text : String}, BigIntLiteral text.toList → bump? text = none :=
  ⟨fun h => h.bump?_eq, fun h => h.bump?_eq⟩

/-- A literal in hexadecimal, and one that is left alone. -/
theorem bump?_integers_hexadecimal : bump? "0XF_f" = some "256" ∧ bump? "1_0n" = none := by
  have hhex : IntegerLiteral 16 "0XF_f".toList [15, 15] :=
    .announced (by decide) (.parted ⟨by decide, by decide⟩ (.one ⟨by decide, by decide⟩))
  have hrow : Row 10 ['1', '_', '0'] [1, 0] :=
    .parted ⟨by decide, by decide⟩ (.one ⟨by decide, by decide⟩)
  have hbig : BigIntLiteral "1_0n".toList := .row hrow (by decide)
  refine ⟨?_, bump?_integers.2 hbig⟩
  rw [bump?_integers.1 hhex]
  decide

end Sabotage.Literal
