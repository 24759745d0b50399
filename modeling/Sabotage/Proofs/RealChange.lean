import Sabotage.Proofs.Report
import Sabotage.Proofs.Signs

/-!
# Bugs that change the text

A finished injection reports no change exactly when it gives the text back, and an injection without
bugs does (`inject_change`). One with bugs gives another text, with two exceptions: a number may be
bumped to itself, and the two kinds of boundary bugs may undo each other.

For the latter the gains of the kinds put in are compared. Most kinds gain something in a class of
bytes that no other kind touches (`markers`), so that they do not occur in a run that leads back. Of
the others a negation and the flip of an equality could only make up for each other with a bound,
which the two measures of signs rule out, and branches that change places alone are told apart.
-/

namespace Sabotage

open Bytes

/-- Whether a byte is a decimal digit. -/
def Bytes.isDigit (b : UInt8) : Bool :=
  48 ≤ b && b ≤ 57

/-- The digits of a byte string. -/
def Bytes.digits (bytes : Bytes) : Bytes :=
  bytes.filter isDigit

/-- A draft with a number that is bumped to one of the same digits. -/
def Draft.KeepsDigits (d : Draft) : Prop :=
  ∃ n ∈ d.root.preorder, n.kind = "number" ∧ ∃ text bumped, ofString text = n.bytes d.source ∧
    Literal.bump? text = some bumped ∧ (digits (ofString bumped)).Perm (digits (ofString text))

namespace Gains
variable {parser : Parser} {d d' : Draft} {kinds : List BugKind}
  {gain : BugKind → (Bytes → Int) → Int}

/-! ## Kinds that leave a mark -/

/-- A number and what it is bumped to hold no semicolon. -/
theorem semicolons_of_bump {text bumped : String} (h : Literal.bump? text = some bumped) :
    tally (· == 59) (ofString text) = 0 ∧ tally (· == 59) (ofString bumped) = 0 := by
  have hbumped : ';' ∉ bumped.toList := fun hmem => by
    have := (Literal.isFigure_bump? h).1 _ hmem
    revert this
    decide
  rw [tally_beq, tally_beq,
    List.count_eq_zero.2 (semicolon_not_mem_ofString (Literal.semicolon_not_mem h)),
    List.count_eq_zero.2 (semicolon_not_mem_ofString hbumped)]
  exact ⟨rfl, rfl⟩

/-- A run that leads back puts no declaration in, as nothing takes a semicolon away. -/
theorem declaration_not_mem (h : Gains parser d d' kinds gain) (hp : parser.Tidy)
    (hsame : d'.source = d.source) : .scopeGaslighting ∉ kinds := by
  intro hmem
  have hsep : ∀ b ∈ separators, (b == 59) = false := forall_separators rfl rfl rfl
  have hzero : gain .scopeGaslighting (tally (· == 59)) = 0 := by
    refine h.eq_zero (by rw [hsame]) fun k hk => ?_
    by_cases hkinds : k ∈ kinds
    · by_cases hnumber : k = .indexOffByOne
      · subst hnumber
        obtain ⟨a, taken, given, -, -, htrade, hgain⟩ := h.trades hp hkinds
        rw [hgain _ hsep]
        cases htrade with
        | operator hswap => cases hswap
        | number _ _ _ hbump =>
          rw [(semicolons_of_bump hbump).1, (semicolons_of_bump hbump).2]
          rfl
      · exact h.of_closedTrades hp hsep (P := fun _ x => x = 0) (by decide) hkinds
          hnumber hk
    · exact h.absent k hkinds _
  obtain ⟨a, taken, given, -, -, htrade, hgain⟩ := h.trades hp hmem
  rw [hgain _ hsep] at hzero
  cases htrade with
  | operator hswap => cases hswap
  | declaration _ hsemicolon =>
    have := List.count_pos_iff.2 hsemicolon
    rw [tally_beq, tally_nil] at hzero
    omega

/-- When a number was bumped by a run that leads back, it was bumped to one of the same digits, as
nothing else adds digits or takes them away. -/
theorem keepsDigits (h : Gains parser d d' kinds gain) (hp : parser.Tidy)
    (hsame : d'.source = d.source) (hmem : .indexOffByOne ∈ kinds) :
    ∃ answers stage, replay parser (kinds.takeWhile (· ≠ .indexOffByOne)) d =
      .ok (answers, stage) ∧ stage.KeepsDigits := by
  obtain ⟨a, taken, given, -, ⟨answers, hreplay⟩, htrade, hgain⟩ := h.trades hp hmem
  refine ⟨answers, a, hreplay, ?_⟩
  cases htrade with
  | operator hswap => cases hswap
  | @number n text bumped hn hkind htext hbump =>
    refine ⟨n, hn, hkind, text, bumped, htext, hbump, List.perm_iff_count.2 fun b => ?_⟩
    by_cases hb : isDigit b = true
    · rw [digits, digits, List.count_filter hb, List.count_filter hb]
      have hother {x : Bytes} (hx : x.countP isDigit = 0) : b ∉ x :=
        fun hmem => List.countP_eq_zero.1 hx b hmem hb
      have hsep : ∀ c ∈ separators, (c == b) = false := by
        have hdigits : separators.countP isDigit = 0 := by decide
        exact fun c hc => beq_eq_false_iff_ne.2 fun h => hother hdigits (h ▸ hc)
      have hclosed : ∀ t ∈ closedTrades, tally (· == b) t.2.2 - tally (· == b) t.2.1 = 0 := by
        have hdigits : ∀ t ∈ closedTrades, t.2.1.countP isDigit = 0 ∧ t.2.2.countP isDigit = 0 := by
          decide
        intro t ht
        rw [tally_beq, tally_beq, List.count_eq_zero.2 (hother (hdigits t ht).1),
          List.count_eq_zero.2 (hother (hdigits t ht).2)]
        rfl
      have hzero : gain .indexOffByOne (tally (· == b)) = 0 := by
        refine h.eq_zero (by rw [hsame]) fun k hk => ?_
        by_cases hkinds : k ∈ kinds
        · refine h.of_closedTrades hp hsep (P := fun _ x => x = 0) hclosed hkinds hk ?_
          rintro rfl
          exact h.declaration_not_mem hp hsame hkinds
        · exact h.absent k hkinds _
      rw [hgain _ hsep, tally_beq, tally_beq] at hzero
      omega
    · have hnone (bytes : Bytes) : (digits bytes).count b = 0 :=
        List.count_eq_zero.2 fun hmem => hb (List.mem_filter.1 hmem).2
      rw [hnone, hnone]

/-- Kinds with a class of bytes that no other kind trades. -/
def markers : List (BugKind × (UInt8 → Bool)) :=
  [(.homoglyphSabotage, fun b => 128 ≤ b), (.wrongArithmeticOperator, fun b => b == 45 || b == 47),
    (.bitwiseLogicalSwap, fun b => b == 38 || b == 124), (.comparisonDirectionFlip, (· == 60))]

/-- A kind whose gain of a class is never nothing, while that of all others is, is not put in by a
run that leads back and in which no number is bumped. -/
theorem not_mem_of_marker (h : Gains parser d d' kinds gain) (hp : parser.Tidy)
    (hsame : d'.source = d.source) (hindex : .indexOffByOne ∉ kinds) {kind : BugKind}
    {p : UInt8 → Bool} (hsep : ∀ b ∈ separators, p b = false) (others : List BugKind)
    (hothers : ∀ k ∈ others, k ∉ kinds)
    (hall : ∀ t ∈ closedTrades, t.1 ∉ others →
      (tally p t.2.2 - tally p t.2.1 = 0 ↔ t.1 ≠ kind)) : kind ∉ kinds := by
  intro hmem
  have hgain (k : BugKind) (hk : k ∈ kinds) : gain k (tally p) = 0 ↔ k ≠ kind := by
    refine h.of_closedTrades hp hsep
      (P := fun k x => k ∉ others → (x = 0 ↔ k ≠ kind)) hall hk ?_ ?_ ?_
    · rintro rfl
      exact hindex hk
    · rintro rfl
      exact h.declaration_not_mem hp hsame hk
    · exact fun hother => hothers k hother hk
  refine (hgain kind hmem).1 (h.eq_zero (by rw [hsame]) fun k hk => ?_) rfl
  by_cases hkinds : k ∈ kinds
  · exact (hgain k hkinds).2 hk
  · exact h.absent k hkinds _

/-- In a run that leads back and bumps no number, only negations, flips of equalities and bounds,
and exchanges of branches are put in. -/
theorem mem_of_same (h : Gains parser d d' kinds gain) (hp : parser.Tidy)
    (hsame : d'.source = d.source) (hindex : .indexOffByOne ∉ kinds) : ∀ k ∈ kinds,
    k ∈ [.booleanNegation, .equalityInequalityFlip, .offByOne, .generalBoundaryOffByOne,
      .invertTernaryBranches] := by
  have hmarked : ∀ k ∈ markers.map Prod.fst, k ∉ kinds := by
    refine List.forall_mem_map.2 fun m hm => ?_
    have hsep : ∀ m ∈ markers, ∀ b ∈ separators, m.2 b = false := by simp [markers, separators]
    have hall : ∀ m ∈ markers, ∀ t ∈ closedTrades, t.1 ∉ [] →
        (tally m.2 t.2.2 - tally m.2 t.2.1 = 0 ↔ t.1 ≠ m.1) := by
      decide
    exact h.not_mem_of_marker hp hsame hindex (hsep m hm) [] (List.forall_mem_nil _) (hall m hm)
  have hlogical : .logicalAndOrSwap ∉ kinds := by
    refine h.not_mem_of_marker hp hsame hindex (p := (· == 38))
      (forall_separators rfl rfl rfl)
      [.bitwiseLogicalSwap] ?_ (by decide)
    exact List.forall_mem_singleton.2 (hmarked .bitwiseLogicalSwap (by simp [markers]))
  intro k hk
  cases k with
  | homoglyphSabotage | wrongArithmeticOperator | bitwiseLogicalSwap | comparisonDirectionFlip =>
    exact absurd hk (hmarked _ (by simp [markers]))
  | logicalAndOrSwap => exact absurd hk hlogical
  | indexOffByOne => exact absurd hk hindex
  | scopeGaslighting => exact absurd hk (h.declaration_not_mem hp hsame)
  | _ => simp

/-! ## Signs -/

/-- What a kind put in replaces, and what it gains by that. -/
theorem replaces (h : Gains parser d d' kinds gain) (hp : parser.Tidy) {kind : BugKind}
    (hkind : kind ∈ kinds) :
    ∃ (a : Draft) (i j : Nat) (given : Bytes), a.Coherent parser ∧ kind.Replaces a i j given ∧
      i ≤ j ∧
      openMarks (a.source.patched i j given) - openMarks a.source ≤ gain kind openMarks ∧
      gain kind closedBounds ≤ closedBounds (a.source.patched i j given) - closedBounds a.source ∧
      gain kind (tally isSign) = tally isSign given - tally isSign (a.source.cut i j) := by
  obtain ⟨a, b, ha, happly, -, hgain⟩ := h.present kind hkind
  obtain ⟨i, j, given, hreplaces, hij, hinter⟩ := BugKind.apply_replaces hp ha happly
  have hsigns := hinter.signs
  have htally := hinter.tally_eq (p := isSign) (forall_separators rfl rfl rfl)
  have hpatched := tally_patched isSign a.source hij given
  refine ⟨a, i, j, given, ha, hreplaces, hij, ?_, ?_, ?_⟩ <;> rw [hgain] <;> omega

/-- A negation gains an open exclamation mark and no closed bound. -/
theorem signs_negation (h : Gains parser d d' kinds gain) (hp : parser.Tidy) (hl : parser.Legible)
    (hmem : .booleanNegation ∈ kinds) :
    1 ≤ gain .booleanNegation openMarks ∧ gain .booleanNegation closedBounds ≤ 0 := by
  obtain ⟨a, i, j, given, ha, hreplaces, hij, hopen, hclosed, -⟩ := h.replaces hp hmem
  have hlegible : a.root.Legible a.source := by rw [ha]; exact hl a.language a.source
  have := hreplaces.signs_negation hlegible hij
  omega

/-- The flip of an equality loses no open exclamation mark or gains no closed bound. -/
theorem signs_equality (h : Gains parser d d' kinds gain) (hp : parser.Tidy)
    (hmem : .equalityInequalityFlip ∈ kinds) :
    0 ≤ gain .equalityInequalityFlip openMarks ∨ gain .equalityInequalityFlip closedBounds ≤ 0 := by
  obtain ⟨a, i, j, given, -, hreplaces, hij, hopen, hclosed, -⟩ := h.replaces hp hmem
  have := hreplaces.signs_equality hij
  omega

/-- The flip of a bound loses no open exclamation mark; one that is taken out loses a closed
bound. -/
theorem signs_boundary (h : Gains parser d d' kinds gain) (hp : parser.Tidy) (hl : parser.Legible)
    {kind : BugKind} (hkind : kind.swap? = some Operator.flipBoundary) (hmem : kind ∈ kinds) :
    0 ≤ gain kind openMarks ∧
      (gain kind (tally isSign) < 0 → gain kind closedBounds ≤ -1) := by
  obtain ⟨a, i, j, given, ha, hreplaces, hij, hopen, hclosed, hsigns⟩ := h.replaces hp hmem
  have hlegible : a.root.Legible a.source := by rw [ha]; exact hl a.language a.source
  obtain ⟨hmarks, hout⟩ := hreplaces.signs_boundary hlegible hkind hij
  exact ⟨by omega, fun hlost => by have := hout (by omega); omega⟩

/-- The exchange of branches gains and loses no signs. -/
theorem signs_branches (h : Gains parser d d' kinds gain) (hp : parser.Tidy) (hl : parser.Legible)
    (hmem : .invertTernaryBranches ∈ kinds) :
    0 ≤ gain .invertTernaryBranches openMarks ∧ gain .invertTernaryBranches closedBounds ≤ 0 := by
  obtain ⟨a, i, j, given, ha, hreplaces, hij, hopen, hclosed, -⟩ := h.replaces hp hmem
  have hlegible : a.root.Legible a.source := by rw [ha]; exact hl a.language a.source
  have := hreplaces.signs_branches hlegible
  omega

/-- A run that exchanges branches and does nothing else does not lead back. -/
theorem not_only_branches (h : Gains parser d d' kinds gain) (hp : parser.Tidy)
    (hl : parser.Legible) (hsame : d'.source = d.source) (hne : kinds ≠ []) :
    ∃ k ∈ kinds, k ≠ .invertTernaryBranches := by
  by_contra hall
  push Not at hall
  obtain ⟨k, rest, rfl⟩ := List.exists_cons_of_ne_nil hne
  obtain rfl := hall k List.mem_cons_self
  obtain ⟨a, b, ha, happly, ⟨answers, hreplay⟩, hgain⟩ := h.present _ List.mem_cons_self
  obtain rfl : d = a := by
    rw [List.takeWhile_cons_of_neg (by simp), replay] at hreplay
    exact congrArg Prod.snd (Except.ok.inj hreplay)
  -- The one attempt gave the source back.
  have hback : b.source = d.source := by
    have hzero : gain .invertTernaryBranches (fun bytes => if bytes = d.source then 1 else 0) = 0 :=
      h.eq_zero (by rw [hsame]) fun k hk => h.absent k (fun hmem => hk (hall k hmem)) _
    rw [hgain, if_pos rfl] at hzero
    by_contra hdiffer
    rw [if_neg hdiffer] at hzero
    cases hzero
  obtain ⟨i, j, given, hreplaces, hij, hinter⟩ := BugKind.apply_replaces hp ha happly
  rw [hback] at hinter
  have hlegible : d.root.Legible d.source := by rw [ha]; exact hl d.language d.source
  cases hreplaces with
  | operator hswap => cases hswap
  | @branches n l r hn hkind hperm hleft hle hright hdiffer =>
    refine hlegible.exchange n hn hkind l r hperm hle hdiffer
      (exchange_of_patched d.source hleft hle hright (hinter.eq_of_length ?_))
    -- Nothing came in between, as the exchanged stretch is as long as the stretch.
    have hsource := patched_cut d.source hij
    rw [← cut_append_cut (Nat.le_trans hleft hle) hright, ← cut_append_cut hleft hle] at hsource
    conv_rhs => rw [← hsource]
    simp only [patched, Node.bytes, List.length_append]
    omega

/-! ## Runs that lead back and bump no number -/

section
variable (h : Gains parser d d' kinds gain) (hp : parser.Tidy) (hsame : d'.source = d.source)
  (hindex : .indexOffByOne ∉ kinds)
include h hp hsame hindex

/-- The gains of the kinds that are left make up for each other. -/
theorem total_of_same (measure : Bytes → Int) : gain .booleanNegation measure +
    gain .equalityInequalityFlip measure + gain .offByOne measure +
    gain .generalBoundaryOffByOne measure + gain .invertTernaryBranches measure = 0 := by
  have habsent (k : BugKind) (hk : k ∉ [.booleanNegation, .equalityInequalityFlip, .offByOne,
      .generalBoundaryOffByOne, .invertTernaryBranches]) : gain k measure = 0 :=
    h.absent k (fun hmem => hk (h.mem_of_same hp hsame hindex k hmem)) measure
  have htotal := h.total measure
  rw [hsame] at htotal
  simp [BugKind.all, habsent] at htotal
  omega

/-- A negation puts in one exclamation mark, the flip of an equality some or takes some out, and no
other kind that is left any. -/
theorem marks_of_mem {k : BugKind} (hk : k ∈ kinds) :
    (k = .booleanNegation → gain k (tally (· == 33)) = 1) ∧
      (k = .equalityInequalityFlip → gain k (tally (· == 33)) ≠ 0) ∧
      (k ∈ [.offByOne, .generalBoundaryOffByOne, .invertTernaryBranches] →
        gain k (tally (· == 33)) = 0) :=
  h.of_closedTrades hp (forall_separators rfl rfl rfl)
    (P := fun k x => (k = .booleanNegation → x = 1) ∧ (k = .equalityInequalityFlip → x ≠ 0) ∧
      (k ∈ [.offByOne, .generalBoundaryOffByOne, .invertTernaryBranches] → x = 0))
    (by decide) hk (fun heq => hindex (heq ▸ hk))
    fun heq => h.declaration_not_mem hp hsame (heq ▸ hk)

/-- Of exclamation marks and equals signs together a negation puts in one, the flip of an equality
takes none out, that of a bound puts some in or takes some out, and an exchange of branches does
neither. -/
theorem signs_of_mem {k : BugKind} (hk : k ∈ kinds) :
    (k = .booleanNegation → gain k (tally isSign) = 1) ∧
      (k = .equalityInequalityFlip → 0 ≤ gain k (tally isSign)) ∧
      (k ∈ [.offByOne, .generalBoundaryOffByOne] → gain k (tally isSign) ≠ 0) ∧
      (k = .invertTernaryBranches → gain k (tally isSign) = 0) :=
  h.of_closedTrades hp (forall_separators rfl rfl rfl)
    (P := fun k x => (k = .booleanNegation → x = 1) ∧ (k = .equalityInequalityFlip → 0 ≤ x) ∧
      (k ∈ [.offByOne, .generalBoundaryOffByOne] → x ≠ 0) ∧
      (k = .invertTernaryBranches → x = 0))
    (by decide) hk (fun heq => hindex (heq ▸ hk))
    fun heq => h.declaration_not_mem hp hsame (heq ▸ hk)

/-- The exclamation marks of negations and of flips of equalities make up for each other. -/
theorem marks_of_same : gain .booleanNegation (tally (· == 33)) +
    gain .equalityInequalityFlip (tally (· == 33)) = 0 := by
  have hnone (k : BugKind)
      (hk : k ∈ [.offByOne, .generalBoundaryOffByOne, .invertTernaryBranches]) :
      gain k (tally (· == 33)) = 0 := by
    by_cases hmem : k ∈ kinds
    · exact (h.marks_of_mem hp hsame hindex hmem).2.2 hk
    · exact h.absent k hmem _
  have htotal := h.total_of_same hp hsame hindex (tally (· == 33))
  have hoff := hnone .offByOne (by simp)
  have hgeneral := hnone .generalBoundaryOffByOne (by simp)
  have hbranches := hnone .invertTernaryBranches (by simp)
  omega

/-- A negation is put in exactly when an equality is flipped. -/
theorem negation_mem_iff : .booleanNegation ∈ kinds ↔ .equalityInequalityFlip ∈ kinds := by
  have hmarks := h.marks_of_same hp hsame hindex
  constructor
  · intro hnegation
    have hmark := (h.marks_of_mem hp hsame hindex hnegation).1 rfl
    by_contra hflip
    have hnone := h.absent _ hflip (tally (· == 33))
    omega
  · intro hflip
    have hmark := (h.marks_of_mem hp hsame hindex hflip).2.1 rfl
    by_contra hnegation
    have hnone := h.absent _ hnegation (tally (· == 33))
    omega

/-- The signs of all kinds but the exchange of branches make up for each other. -/
theorem signs_of_same : gain .booleanNegation (tally isSign) +
    gain .equalityInequalityFlip (tally isSign) + gain .offByOne (tally isSign) +
    gain .generalBoundaryOffByOne (tally isSign) = 0 := by
  have htotal := h.total_of_same hp hsame hindex (tally isSign)
  have hbranches : gain .invertTernaryBranches (tally isSign) = 0 := by
    by_cases hmem : .invertTernaryBranches ∈ kinds
    · exact (h.signs_of_mem hp hsame hindex hmem).2.2.2 rfl
    · exact h.absent _ hmem _
  omega

/-- With one kind of boundary bugs at most, no equality is flipped: a negation would make up for its
exclamation mark, and a bound that is taken out for the signs of both, but the negation leaves an
open mark, which nothing else closes. -/
theorem equality_not_mem (hl : parser.Legible)
    (hboth : .offByOne ∈ kinds → .generalBoundaryOffByOne ∉ kinds) :
    .equalityInequalityFlip ∉ kinds := by
  intro hflip
  have hnegation := (h.negation_mem_iff hp hsame hindex).2 hflip
  have hnegationSign := (h.signs_of_mem hp hsame hindex hnegation).1 rfl
  have hflipSign := (h.signs_of_mem hp hsame hindex hflip).2.1 rfl
  have hsigns := h.signs_of_same hp hsame hindex
  have hopen := h.total_of_same hp hsame hindex openMarks
  have hclosed := h.total_of_same hp hsame hindex closedBounds
  have hnegated := h.signs_negation hp hl hnegation
  have hequality := h.signs_equality hp hflip
  have hboundary (k : BugKind) (hk : k.swap? = some Operator.flipBoundary) :
      0 ≤ gain k openMarks ∧ (gain k (tally isSign) < 0 → gain k closedBounds ≤ -1) := by
    by_cases hmem : k ∈ kinds
    · exact h.signs_boundary hp hl hk hmem
    · rw [h.absent k hmem, h.absent k hmem]
      exact ⟨Int.le_refl 0, fun hlt => absurd hlt (Int.lt_irrefl 0)⟩
  have hoff := hboundary .offByOne rfl
  have hgeneral := hboundary .generalBoundaryOffByOne rfl
  have hbranches : 0 ≤ gain .invertTernaryBranches openMarks ∧
      gain .invertTernaryBranches closedBounds ≤ 0 := by
    by_cases hmem : .invertTernaryBranches ∈ kinds
    · exact h.signs_branches hp hl hmem
    · rw [h.absent _ hmem, h.absent _ hmem]
      exact ⟨Int.le_refl 0, Int.le_refl 0⟩
  by_cases hmem : .offByOne ∈ kinds
  · have hsign := h.absent _ (hboth hmem) (tally isSign)
    have hbound := h.absent _ (hboth hmem) closedBounds
    omega
  · have hsign := h.absent _ hmem (tally isSign)
    have hbound := h.absent _ hmem closedBounds
    omega

/-- With one kind of boundary bugs at most, there are none: nothing would make up for the sign of a
single bound. -/
theorem boundary_not_mem (hl : parser.Legible)
    (hboth : .offByOne ∈ kinds → .generalBoundaryOffByOne ∉ kinds) :
    .offByOne ∉ kinds ∧ .generalBoundaryOffByOne ∉ kinds := by
  have hflip := h.equality_not_mem hp hsame hindex hl hboth
  have hnegation : .booleanNegation ∉ kinds :=
    fun hmem => hflip ((h.negation_mem_iff hp hsame hindex).1 hmem)
  have hsigns := h.signs_of_same hp hsame hindex
  have hflipSign := h.absent _ hflip (tally isSign)
  have hnegationSign := h.absent _ hnegation (tally isSign)
  have hoff : .offByOne ∉ kinds := by
    intro hmem
    have hgeneralSign := h.absent _ (hboth hmem) (tally isSign)
    exact (h.signs_of_mem hp hsame hindex hmem).2.2.1 (by simp) (by omega)
  refine ⟨hoff, fun hmem => ?_⟩
  have hoffSign := h.absent _ hoff (tally isSign)
  exact (h.signs_of_mem hp hsame hindex hmem).2.2.1 (by simp) (by omega)

end

/-- A run that leads back puts in nothing, or both kinds of boundary bugs, or bumps a number to one
of the same digits. -/
theorem kinds_of_same (h : Gains parser d d' kinds gain) (hp : parser.Tidy) (hl : parser.Legible)
    (hsame : d'.source = d.source) (hne : kinds ≠ []) :
    (.offByOne ∈ kinds ∧ .generalBoundaryOffByOne ∈ kinds) ∨
      .indexOffByOne ∈ kinds ∧ ∃ answers stage,
        replay parser (kinds.takeWhile (· ≠ .indexOffByOne)) d = .ok (answers, stage) ∧
          stage.KeepsDigits := by
  by_cases hindex : .indexOffByOne ∈ kinds
  · exact .inr ⟨hindex, h.keepsDigits hp hsame hindex⟩
  left
  by_contra hnot
  have hboth (hoff : .offByOne ∈ kinds) : .generalBoundaryOffByOne ∉ kinds :=
    fun hgeneral => hnot ⟨hoff, hgeneral⟩
  have hflip := h.equality_not_mem hp hsame hindex hl hboth
  obtain ⟨hoff, hgeneral⟩ := h.boundary_not_mem hp hsame hindex hl hboth
  -- Only branches are left, and these do not lead back alone.
  obtain ⟨k, hk, hother⟩ := h.not_only_branches hp hl hsame hne
  have hlisted := h.mem_of_same hp hsame hindex k hk
  simp only [List.mem_cons, List.not_mem_nil, or_false] at hlisted
  rcases hlisted with rfl | rfl | rfl | rfl | rfl
  · exact hflip ((h.negation_mem_iff hp hsame hindex).1 hk)
  · exact hflip hk
  · exact hoff hk
  · exact hgeneral hk
  · exact hother rfl

end Gains

/-! ## Injections -/

/-- The trees of the parser of the two lines are legible. -/
theorem legible_literalParser : literalParser.Legible := by
  intro language source
  have hnone (root : Node) (hkinds : ∀ n ∈ root.preorder,
      n.kind ∉ ["binary_expression", "ternary_expression"])
      (htruth : ∀ n ∈ root.preorder, n.kind ∈ Rule.truthKinds → source[n.start]? ≠ some 61) :
      root.Legible source := by
    refine ⟨htruth, fun n hn hkind => ?_, fun n hn hkind => ?_, fun n hn hkind => ?_⟩ <;>
      exact absurd (by simp [hkind]) (hkinds n hn)
  rw [literalParser]
  split
  · next h => subst h; exact hnone _ (by decide) (by decide)
  · split
    · next h => subst h; exact hnone _ (by decide) (by decide)
    · have hprogram : ∀ n ∈ (⟨"program", true, false, 0, 0, none, []⟩ : Node).preorder,
          n.kind ∉ Rule.truthKinds := by
        decide
      exact hnone _ (by decide) fun n hn hkind => absurd hkind (hprogram n hn)

/-- An access with a number too large to grow by one. -/
def accessCode : String := "this[1e+21];"

/-- The number. -/
def accessNumber : Node :=
  ⟨"number", true, false, 5, 10, some .index, []⟩

/-- The access. -/
def accessNode : Node :=
  ⟨"subscript_expression", true, false, 0, 11, none,
    [⟨"this", true, false, 0, 4, some .object, []⟩, ⟨"[", false, false, 4, 5, none, []⟩,
      accessNumber, ⟨"]", false, false, 10, 11, none, []⟩]⟩

/-- The statement of the access. -/
def accessStatement : Node :=
  ⟨"expression_statement", true, false, 0, 12, none,
    [accessNode, ⟨";", false, false, 11, 12, none, []⟩]⟩

/-- The tree of the access. -/
def accessTree : Node :=
  ⟨"program", true, false, 0, 12, none, [accessStatement]⟩

/-- A parser that knows the access, and takes any other text for an empty program. -/
def accessParser : Parser := fun _ source =>
  if source = ofString accessCode then accessTree else ⟨"program", true, false, 0, 0, none, []⟩

/-- The draft of the access after some changes. -/
def accessDraft (edits : Nat) : Draft :=
  ⟨.tsx, none, ofString accessCode, accessTree, edits⟩

/-- The request for one bug in the access. -/
def accessRequest : InjectionRequest :=
  ⟨accessCode, 1, none, none, .null⟩

/-- One more than the number is written as the number. -/
theorem bump?_accessNumber : Literal.bump? "1e+21" = some "1e+21" := by
  decide

/-- In the access only the number has a place, which is bumped to itself. -/
theorem apply_accessDraft (kind : BugKind) (edits : Nat) :
    kind.apply accessParser (accessDraft edits) = .ok (kind == .indexOffByOne,
      if kind = .indexOffByOne then accessDraft (edits + 1) else accessDraft edits) := by
  by_cases hkind : kind = .indexOffByOne
  · subst hkind
    have hsites : (accessDraft edits).sitesOf ["subscript_expression", "call_expression"] =
        [⟨accessNode, [accessStatement, accessTree]⟩] := by
      cbv
    have hpositions : Rule.positions (accessDraft edits) accessNode = .ok [accessNumber] := by cbv
    have htext : (accessDraft edits).textOf accessNumber = .ok "1e+21" := by cbv
    have hplan : BugKind.plan? .indexOffByOne (accessDraft edits) =
        .ok (some (.single ⟨5, 10, "1e+21"⟩)) := by
      simp [BugKind.plan?, Rule.findIndex, hsites, List.findSomeM?, hpositions, Rule.planBump,
        htext, bump?_accessNumber, bind, Except.bind, Except.map]
      rfl
    have happly : Edit.applyAll [⟨5, 10, "1e+21"⟩] (ofString accessCode) =
        .ok (ofString accessCode) := by
      cbv
    simp only [BugKind.apply, hplan]
    simp [Plan.carryOut, Plan.single, Draft.splice, accessDraft, happly, accessParser]
  · have hsought : ∀ kind ∈ BugKind.all, kind ≠ .indexOffByOne →
        ∀ n ∈ accessTree.preorder, n.kind ∉ kind.sought := by
      decide
    have hplan : kind.plan? (accessDraft edits) = .ok none :=
      BugKind.plan?_eq_none (hsought kind kind.mem_all hkind)
    simp [BugKind.apply, hplan, hkind]

end Sabotage
