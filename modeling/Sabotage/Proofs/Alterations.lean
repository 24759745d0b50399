import Sabotage.Proofs.DecimalLiterals
import Sabotage.Proofs.Positions
import Sabotage.Proofs.RealChange

/-!
# A bug changes the text

A rule that answers that it has put a bug in gives another text than the one before, with one
exception (`BugKind.source_eq_iff`). Of the six cases of what rules plan, five rule a change to the
same text out by themselves: a negated text and a text with a declaration are longer, spellings that
a swap trades differ in a byte that parentheses do not hold, and so on (`BugKind.Plans.changes`). A
number can be bumped to itself, where one more is rounded away and the float is written with an
exponent (`Literal.exists_float_of_bump?_self`).
-/

namespace Sabotage

open Bytes

/-! ## Literals that are bumped to themselves -/

namespace Literal

/-- An integer is written as its sign and the digits of the rest. -/
theorem toList_toString (k : Int) :
    (toString k).toList = (if k < 0 then ['-'] else []) ++ Nat.toDigits 10 k.natAbs := by
  rw [Int.toString_eq_repr]
  cases k with
  | ofNat n =>
    rw [Int.repr, Nat.toList_repr, if_neg (by simp)]
    rfl
  | negSucc n =>
    rw [Int.repr, String.toList_append, Nat.toList_repr, if_pos (Int.negSucc_lt_zero n)]
    rfl

/-- A written integer holds nothing but digits and a minus sign. -/
theorem mem_toString {k : Int} {c : Char} (hc : c ∈ (toString k).toList) :
    c = '-' ∨ ∃ d, IsDigit 10 c d := by
  rw [toList_toString] at hc
  rcases List.mem_append.1 hc with hc | hc
  · split at hc
    · exact .inl (List.mem_singleton.1 hc)
    · cases hc
  · exact .inr ⟨_, isDigit_of_ascii (Json.Reader.isAsciiDigit_of_mem_toDigits hc)⟩

/-- A written integer holds no low lines. -/
theorem low_not_mem_toString (k : Int) : '_' ∉ (toString k).toList := by
  intro hmem
  obtain h | ⟨d, h⟩ := mem_toString hmem
  · exact absurd h (by decide)
  · exact h.not_mark.1 rfl

/-- A written integer has the plain form of one. -/
theorem form_toString (k : Int) : form (toString k).toList = .integer := by
  have hlow := low_not_mem_toString k
  by_cases hneg : k < 0
  · have hhead : (toString k).toList.head? ≠ some '0' := by
      rw [toList_toString, if_pos hneg]
      exact fun h => absurd (Option.some.inj h) (by decide)
    have hmarks : (toString k).toList.any (fun c => c == '.' || c == 'e' || c == 'E') = false := by
      refine List.any_eq_false.2 fun c hc => ?_
      obtain rfl | ⟨d, h⟩ := mem_toString hc
      · decide
      · simp [h.not_mark, h.not_exponent]
    rw [form, isLegacy_eq_false hhead, isLegacy_eq_false hhead, announces_eq_false hhead, hmarks]
    rfl
  · rw [toList_toString, if_neg hneg, List.nil_append] at hlow ⊢
    have hwhole := Json.Reader.whole_toDigits k.natAbs
    by_cases hzero : (Nat.toDigits 10 k.natAbs).head? = some '0'
    · rw [hwhole.head hzero]
      rfl
    · exact form_row (row_of_digits hwhole.digits hwhole.ne_nil) hlow
        (head?_map_ne_zero hwhole hzero)

/-- A written integer is read back, if it is not too long. -/
theorem readInt?_toString (k : Int) : Numeral.readInt? 10 (toString k) =
    if Decimal.digitCount k.natAbs > Numeral.digitLimit then none else some k := by
  have hmargin : ∀ c ∈ (toString k).toList, Numeral.isMargin c = false := by
    intro c hc
    obtain rfl | ⟨d, h⟩ := mem_toString hc
    · decide
    · exact h.not_margin
  obtain ⟨d, hliteral⟩ := decimalLiteral_toDigits k.natAbs
  have hsign : Numeral.sign (toString k).toList = (decide (k < 0), Nat.toDigits 10 k.natAbs) := by
    rw [toList_toString, ← hliteral.sign_eq]
    simp only [decide_eq_true_eq]
  have hwhole := Json.Reader.whole_toDigits k.natAbs
  have hdigits := (row_of_digits hwhole.digits hwhole.ne_nil).digits?_eq false
  have hunlimited : Numeral.unlimited 10 = false := rfl
  rw [Numeral.readInt?, trim_eq_self hmargin, hsign]
  simp only [hdigits, hunlimited, Bool.not_false, Bool.true_and, decide_eq_true_eq,
    List.length_map, ofDigits_eq, ← number_eq_spelled, Json.Reader.number_toDigits,
    Json.Reader.signed_natAbs, Decimal.digitCount]
  congr

/-- A written integer is not bumped to itself. -/
theorem bump?_toString_ne (k : Int) : bump? (toString k) ≠ some (toString k) := by
  intro h
  have hlow := low_not_mem_toString k
  have hunmarked : ((toString k).toList.isEmpty || (toString k).toList.getLast? == some 'n') =
      false := by
    rw [List.isEmpty_eq_false_iff.2 (Decimal.isFigure_toString k).2, Bool.false_or,
      beq_eq_false_iff_ne]
    intro hlast
    obtain h | ⟨d, h⟩ := mem_toString (List.mem_of_getLast? hlast)
    · exact absurd h (by decide)
    · exact h.not_mark.2.2.2.2 rfl
  rw [bump?] at h
  simp only [filter_eq_self hlow, hunmarked, form_toString, String.ofList_toList, readInt?_toString,
    Bool.false_eq_true, if_false] at h
  split at h
  · cases h
  · next hshort =>
    rw [successor?, Option.bind_some, Numeral.writeInt?] at h
    split at h
    · cases h
    · next hshort' =>
      -- Both numbers are read back from the one text.
      have hread := readInt?_toString (k + 1)
      rw [Option.some.inj h, readInt?_toString, if_neg hshort, if_neg hshort'] at hread
      have := Option.some.inj hread
      omega

/-- A literal that is bumped to itself is not written as an integer. -/
theorem writeInt?_ne_self {text : String} {n : Int} (h : bump? text = some text)
    (hn : Numeral.writeInt? n = some text) : False := by
  rw [Numeral.writeInt?] at hn
  split at hn
  · cases hn
  · obtain rfl := Option.some.inj hn
    exact bump?_toString_ne n h

/-- The words for what is no finite number are not bumped. -/
theorem bump?_renderFloat_ne {x : Float} (h : ¬ x.isFinite) :
    bump? (Decimal.renderFloat x) ≠ some (Decimal.renderFloat x) := by
  have hwords : ∀ word ∈ ["nan", "inf", "-inf"], bump? word ≠ some word := by decide
  have hword : Decimal.renderFloat x ∈ ["nan", "inf", "-inf"] := by
    rw [Decimal.renderFloat]
    split
    · decide
    · next hnan =>
      split
      · split <;> decide
      · next hinf =>
        exact absurd (Binary64.isFinite_iff_not.2 ⟨by simpa using hnan, by simpa using hinf⟩) h
  exact hwords _ hword

/-- A literal that is bumped as a float, to itself, is spelled with an exponent, and the one that is
added is rounded away. -/
theorem exists_float_of_writeFloat?_self {text : String} {x : Float}
    (h : bump? text = some text)
    (hread : Numeral.readFloat? (String.ofList (text.toList.filter (· != '_'))) = some x)
    (hwrite : writeFloat? (x + 1) = some text) :
    ∃ x : Float, x.isFinite ∧ x + 1 = x ∧ ¬ x.abs < 1e21 ∧ text = Decimal.renderFloat x := by
  rw [writeFloat?] at hwrite
  split at hwrite
  · exact (writeInt?_ne_self h hwrite).elim
  · next hlarge =>
    obtain rfl := Option.some.inj hwrite
    have hlow : '_' ∉ (Decimal.renderFloat (x + 1)).toList := fun hmem =>
      absurd ((Decimal.isFigure_renderFloat _).1 _ hmem) (by decide)
    have hfinite : (x + 1).isFinite := by
      by_contra hinfinite
      exact bump?_renderFloat_ne hinfinite h
    rw [filter_eq_self hlow, String.ofList_toList, readFloat?_renderFloat hfinite] at hread
    have hx : x + 1 = x := Option.some.inj hread
    rw [hx] at hfinite hlarge ⊢
    refine ⟨x, hfinite, hx, fun hsmall => hlarge ?_, rfl⟩
    rw [Binary64.isIntegral_of_add_one hfinite hx, Bool.true_and, decide_eq_true_eq]
    exact hsmall

/-- A literal that is bumped to itself is the spelling of a float that is one more than itself, and
too great for the notation of integers. -/
theorem exists_float_of_bump?_self {text : String} (h : bump? text = some text) :
    ∃ x : Float, x.isFinite ∧ x + 1 = x ∧ ¬ x.abs < 1e21 ∧ text = Decimal.renderFloat x := by
  have hsuccessor {n? : Option Int} (hn : successor? n? = some text) : False := by
    obtain ⟨n, -, hn⟩ := Option.bind_eq_some_iff.1 hn
    exact writeInt?_ne_self h hn
  have hbump := h
  simp only [bump?] at h
  split at h
  · cases h
  · split at h
    case _ => exact (hsuccessor h).elim
    case _ => exact (hsuccessor h).elim
    case _ => exact (hsuccessor h).elim
    case _ =>
      obtain ⟨x, hread, hwrite⟩ := Option.bind_eq_some_iff.1 h
      exact exists_float_of_writeFloat?_self hbump hread hwrite
    case _ => exact (hsuccessor h).elim

end Literal

/-! ## Operators -/

/-- The bytes that tell the spellings apart that swaps trade. -/
def tellingBytes : List UInt8 :=
  [33, 37, 38, 42, 43, 60, 61, 124]

/-- The spellings that a swap trades differ in how often one of the telling bytes occurs. -/
theorem BugKind.exists_count_ne {kind : BugKind} {swap : Operator → Option Operator}
    {a b : Operator} (hswap : kind.swap? = some swap) (hb : swap a = some b) :
    ∃ c ∈ tellingBytes, (ofString a.text).count c ≠ (ofString b.text).count c := by
  cases kind <;> cases hswap <;> cases a <;> cases hb <;> decide

/-! ## Rules -/

/-- A tree in which two different branches of a conditional expression, with what stands between
them, cannot change places and leave the text as it is. -/
def Node.BranchesTellApart (source : Bytes) (root : Node) : Prop :=
  ∀ n ∈ root.preorder, n.kind = "ternary_expression" → ∀ l r, [l, r].Perm n.branches →
    l.stop ≤ r.start → l.bytes source ≠ r.bytes source →
    r.bytes source ++ source.cut l.stop r.start ++ l.bytes source ≠
      l.bytes source ++ source.cut l.stop r.start ++ r.bytes source

/-- A node of a sound draft lies inside the source. -/
theorem Draft.Sound.inside_replacement {text : String} {d : Draft} (hd : d.Sound text) {n : Node}
    (hn : n ∈ d.root.preorder) (given : String) : (Draft.replacement n given).Inside d.source := by
  have hl := hd.wellFormed n hn
  refine ⟨Int.natCast_nonneg _, Int.ofNat_le.2 hl.start_le_stop, Int.ofNat_le.2 ?_⟩
  rw [hd.source_eq]
  exact hl.stop_isValid.le_rawEndPos

section
variable {text : String} {d : Draft}

/-- A replacement that leaves the source as it is puts the bytes of the node in their own place. -/
theorem Draft.Sound.bytes_eq_of_replacement (hd : d.Sound text) {n : Node}
    (hn : n ∈ d.root.preorder) {given : String}
    (h : (Draft.replacement n given).apply d.source = d.source) :
    ofString given = n.bytes d.source := by
  have hl := (hd.wellFormed n hn).start_le_stop
  have hpatched := (hd.inside_replacement hn given).apply_eq_patched
  rw [h] at hpatched
  conv_lhs at hpatched => rw [← patched_cut d.source hl]
  exact (List.append_cancel_left (List.append_cancel_right hpatched)).symm

/-- An insertion makes the source longer by its text, wherever it is. -/
theorem Edit.length_insertion (source : Bytes) (i : Int) (given : String) :
    ((Edit.insertion i given).apply source).length = source.length + (ofString given).length := by
  have hle := clampBound_le source.length i
  simp only [Edit.apply, Edit.insertion, List.length_append, List.length_take, List.length_drop]
  omega

/-- A parenthesis around a node of a sound draft is put in between. -/
theorem Draft.Sound.extra_wrap (hd : d.Sound text) {n : Node} (hn : n ∈ d.root.preorder) :
    ∀ e ∈ Draft.wrap n, e.Extra separators d.source := by
  have hinside := hd.inside_replacement hn ""
  intro e he
  rcases List.mem_pair.1 he with rfl | rfl
  · exact ⟨⟨Int.natCast_nonneg _, Int.le_refl _, hinside.ordered.trans hinside.within⟩, rfl,
      separators_of_parenthesis (.inl rfl)⟩
  · exact ⟨⟨Int.natCast_nonneg _, Int.le_refl _, hinside.within⟩, rfl,
      separators_of_parenthesis (.inr rfl)⟩

/-- A swap of an operator changes the source: the byte that tells the spellings apart occurs more
often or less often, whatever parentheses are put in. -/
theorem Draft.Sound.ne_of_operator (hd : d.Sound text) {kind : BugKind}
    {swap : Operator → Option Operator} {n o : Node} {a b : Operator} {front back : String}
    {parens : List Edit} (hswap : kind.swap? = some swap) (hn : n ∈ d.root.preorder)
    (ho : n.child? .operator = some o) (ha : o.bytes d.source = ofString a.text)
    (hb : swap a = some b) (hfront : front ∈ ["", " "]) (hback : back ∈ ["", " "])
    (hparens : ∀ e ∈ parens,
      ∃ m ∈ d.root.preorder, m.kind = "binary_expression" ∧ e ∈ Draft.wrap m) :
    Edit.applyAll (Draft.replacement o (front ++ b.text ++ back) :: parens) d.source ≠
      .ok d.source := by
  intro happly
  obtain ⟨c, hc, hcount⟩ := BugKind.exists_count_ne hswap hb
  have ho := Node.mem_preorder_child? hn ho
  have hextra : ∀ e ∈ parens, e.Extra separators d.source := by
    intro e he
    obtain ⟨m, hm, -, he⟩ := hparens e he
    exact hd.extra_wrap hm e he
  have hinter := ((interspersed_padded b.text hfront hback).patched d.source o.start o.stop).trans
    (Edit.interspersed_applyAll (hd.inside_replacement ho _) hextra happly)
  have htelling : ∀ b ∈ separators, (b == c) = false := by
    have happart : ∀ c ∈ tellingBytes, c ∉ separators := by simp [tellingBytes, separators]
    exact fun b hb => beq_eq_false_iff_ne.2 fun heq => happart c hc (heq ▸ hb)
  have htally := hinter.tally_eq (p := (· == c)) htelling
  have hpatched := tally_patched (· == c) d.source (hd.wellFormed o ho).start_le_stop
    (ofString b.text)
  rw [← Node.bytes, ha] at hpatched
  rw [tally_beq, tally_beq] at hpatched htally
  rw [tally_beq, tally_beq] at hpatched
  omega

/-- Branches that change places change the source. -/
theorem Draft.Sound.ne_of_branches (hd : d.Sound text)
    (hbranches : d.root.BranchesTellApart d.source) {n c a : Node} {first second : String}
    (hn : n ∈ d.root.preorder) (hkind : n.kind = "ternary_expression")
    (hpair : n.branches = [c, a]) (hfirst : ofString first = c.bytes d.source)
    (hsecond : ofString second = a.bytes d.source) (hne : first ≠ second) :
    Edit.applyAll [Draft.replacement c second, Draft.replacement a first] d.source ≠
      .ok d.source := by
  intro happly
  have hmem (m : Node) (hm : m ∈ [c, a]) : m ∈ d.root.preorder := by
    rw [← hpair, Node.branches, List.mem_append, Option.mem_toList, Option.mem_toList] at hm
    exact hm.elim (Node.mem_preorder_child? hn) (Node.mem_preorder_child? hn)
  obtain ⟨l, r, hperm, hle, hsource⟩ := Edit.applyAll_replacements
    (hd.inside_replacement (hmem c (by simp)) _) (hd.inside_replacement (hmem a (by simp)) _)
    happly hfirst hsecond
  have hordered (m : Node) (hm : m ∈ [l, r]) : m.start ≤ m.stop :=
    (hd.wellFormed m (hmem m (hperm.mem_iff.1 hm))).start_le_stop
  have hdiffer := bytes_ne_of_perm hperm hfirst hsecond hne
  exact absurd (exchange_of_patched d.source (hordered l (by simp)) hle (hordered r (by simp))
    hsource.symm) (hbranches n hn hkind l r (hpair ▸ hperm) hle hdiffer)

/-- A declaration that opens a body is an insertion of some text. -/
theorem Rule.Opens.exists_insertion {body : Node} {name : String} {e : Edit}
    (h : Rule.Opens body ("let " ++ name ++ " = null;") e) :
    ∃ i given, 0 < (ofString given).length ∧ e = .insertion i given := by
  have hlength (front : String) :
      0 < (ofString (front ++ ("let " ++ name ++ " = null;"))).length := by
    have hend : (ofString " = null;").length = 8 := by decide
    simp only [ofString_append, List.length_append, hend]
    omega
  obtain rfl | ⟨last, -, front, -, rfl⟩ := h
  · exact ⟨_, _, hlength " ", rfl⟩
  · exact ⟨_, _, hlength front, rfl⟩

/-- A plan that a rule can make changes the source, unless it bumps a number to itself. -/
theorem BugKind.Plans.changes {kind : BugKind} {plan : Plan} (hd : d.Sound text)
    (hbranches : d.root.BranchesTellApart d.source) (h : kind.Plans d plan)
    (happly : Edit.applyAll plan.edits d.source = .ok d.source) :
    kind = .indexOffByOne ∧ ∃ n ∈ d.root.preorder, ∃ number, ofString number = n.bytes d.source ∧
      Literal.bump? number = some number ∧ plan = .single (Draft.replacement n number) := by
  have hsingle {n : Node} (hn : n ∈ d.root.preorder) {given : String}
      (happly : Edit.applyAll [Draft.replacement n given] d.source = .ok d.source) :
      ofString given = n.bytes d.source :=
    hd.bytes_eq_of_replacement hn (Except.ok.inj happly)
  cases h with
  | @negation n truth inner outer hn hkind htruth =>
    -- The negated text has one exclamation mark more.
    have hbytes := hsingle hn happly
    have hmark := (Rule.interspersed_negated inner outer truth).tally_eq (p := (· == 33))
      (forall_separators rfl rfl rfl)
    rw [hbytes, ← htruth, tally_cons, beq_self_eq_true, if_pos rfl] at hmark
    omega
  | operator hswap hn _ ho ha hb hfront hback hparens =>
    exact absurd happly (hd.ne_of_operator hswap hn ho ha hb hfront hback hparens)
  | branches hn hkind hpair hfirst hsecond hne =>
    exact absurd happly (hd.ne_of_branches hbranches hn hkind hpair hfirst hsecond hne)
  | @number n number bumped hn hkind hnumber hbump =>
    have hbytes := hsingle hn happly
    obtain rfl := ofString_injective (hbytes.trans hnumber.symm)
    exact ⟨rfl, n, hn, bumped, hnumber, hbump, rfl⟩
  | @name n name spoofed hn hkind hname hspoof =>
    obtain ⟨front, c, c', back, hsplit, rfl, hc⟩ := spoof?_eq_some hspoof
    have hsame : String.ofList (front ++ c' :: back) = name :=
      ofString_injective ((hsingle hn happly).trans hname.symm)
    rw [← hsame, String.toList_ofList, List.append_cancel_left_eq, List.cons.injEq] at hsplit
    exact absurd hsplit.1.symm (homoglyph?_ne hc)
  | declaration _ _ _ _ _ _ _ hopens =>
    -- The source becomes longer by the declaration.
    obtain ⟨i, given, hgiven, rfl⟩ := hopens.exists_insertion
    have hlength := Edit.length_insertion d.source i given
    have hsame : (Edit.insertion i given).apply d.source = d.source := Except.ok.inj happly
    rw [hsame] at hlength
    omega

/-- A rule that puts a bug in changes the source, unless it bumps a number to itself: one that is
spelled as the program spells a whole float from `1e21` on that is one more than itself. -/
theorem BugKind.source_eq_iff {parser : Parser} {d' : Draft} {kind : BugKind} (hd : d.Sound text)
    (hbranches : d.root.BranchesTellApart d.source) (h : kind.apply parser d = .ok (true, d')) :
    d'.source = d.source ↔ kind = .indexOffByOne ∧ ∃ n ∈ d.root.preorder, ∃ x : Float,
      x.isFinite ∧ x + 1 = x ∧ ¬ x.abs < 1e21 ∧
        ofString (Decimal.renderFloat x) = n.bytes d.source ∧
        kind.plan? d = .ok (some (.single (Draft.replacement n (Decimal.renderFloat x)))) := by
  obtain ⟨plan, hplan, hsplice⟩ := BugKind.exists_plan h
  have happly := Draft.applyAll_of_splice hsplice
  constructor
  · intro hsame
    rw [hsame] at happly
    obtain ⟨rfl, n, hn, number, hnumber, hbump, rfl⟩ :=
      (kind.plan?_plans _ hplan plan rfl).changes hd hbranches happly
    obtain ⟨x, hfinite, hone, hlarge, rfl⟩ := Literal.exists_float_of_bump?_self hbump
    exact ⟨rfl, n, hn, x, hfinite, hone, hlarge, hnumber, hplan⟩
  · rintro ⟨-, n, hn, x, -, -, -, hbytes, hplan'⟩
    obtain rfl : plan = .single (Draft.replacement n (Decimal.renderFloat x)) :=
      Option.some.inj (Except.ok.inj (hplan.symm.trans hplan'))
    have hsource : (Draft.replacement n (Decimal.renderFloat x)).apply d.source = d'.source :=
      Except.ok.inj happly
    rw [← hsource, (hd.inside_replacement hn _).apply_eq_patched]
    exact (congrArg _ hbytes).trans (patched_cut d.source (hd.wellFormed n hn).start_le_stop)

end

/-! ## Branches that change places -/

/-- A conditional expression. -/
def conditionalTree : Node :=
  ⟨"ternary_expression", true, false, 0, 5, none,
    [⟨"identifier", true, false, 0, 1, some .condition, []⟩, ⟨"?", false, false, 1, 2, none, []⟩,
      ⟨"number", true, false, 2, 3, some .consequence, []⟩, ⟨":", false, false, 3, 4, none, []⟩,
      ⟨"number", true, false, 4, 5, some .alternative, []⟩]⟩

/-- A parser that takes every text for this one. -/
def conditionalParser : Parser := fun _ _ => conditionalTree

/-- The draft of a conditional expression after some changes. -/
def conditionalDraft (code : String) (edits : Nat) : Draft :=
  ⟨.tsx, none, ofString code, conditionalTree, edits⟩

/-- The branches of a conditional expression change places, and the text is another one. -/
theorem source_ne_conditionalDraft :
    (conditionalDraft "a?1:2" 0).Sound "a?1:2" ∧
      (conditionalDraft "a?1:2" 0).root.BranchesTellApart (conditionalDraft "a?1:2" 0).source ∧
      BugKind.apply conditionalParser .invertTernaryBranches (conditionalDraft "a?1:2" 0) =
        .ok (true, conditionalDraft "a?2:1" 1) ∧
      (conditionalDraft "a?2:1" 1).source ≠ (conditionalDraft "a?1:2" 0).source := by
  have hsound : (conditionalDraft "a?1:2" 0).Sound "a?1:2" := ⟨rfl, by decide⟩
  have hbranches : (conditionalDraft "a?1:2" 0).root.BranchesTellApart
      (conditionalDraft "a?1:2" 0).source := by
    intro n hn hkind l r hperm hle hdiffer
    have hroot : n = conditionalTree := by
      obtain rfl | ⟨c, hc, hn⟩ := Node.mem_preorder.1 hn
      · rfl
      · have hkinds : ∀ c ∈ conditionalTree.children, ∀ n ∈ c.preorder,
            n.kind ≠ "ternary_expression" := by
          decide
        exact absurd hkind (hkinds c hc n hn)
    subst hroot
    rcases List.perm_pair.1 hperm with h | h <;> cases h
    · decide
    · exact absurd hle (by decide)
  have happly : BugKind.apply conditionalParser .invertTernaryBranches
      (conditionalDraft "a?1:2" 0) = .ok (true, conditionalDraft "a?2:1" 1) := by
    cbv
  refine ⟨hsound, hbranches, happly, fun hsame => ?_⟩
  exact absurd ((BugKind.source_eq_iff hsound hbranches happly).1 hsame).1 (by decide)

/-- In the access a bug is put in, and the text stays as it was. -/
theorem source_eq_accessDraft :
    (accessDraft 0).Sound accessCode ∧ (accessDraft 0).faults = [] ∧
      (accessDraft 0).root.BranchesTellApart (accessDraft 0).source ∧
      BugKind.apply accessParser .indexOffByOne (accessDraft 0) = .ok (true, accessDraft 1) ∧
      (accessDraft 1).source = (accessDraft 0).source := by
  have hkinds : ∀ n ∈ accessTree.preorder, n.kind ≠ "ternary_expression" := by decide
  exact ⟨⟨rfl, by decide⟩, by cbv, fun n hn hkind => absurd hkind (hkinds n hn),
    apply_accessDraft .indexOffByOne 0, rfl⟩

end Sabotage
