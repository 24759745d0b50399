import Sabotage.Proofs.ChangedLines
import Sabotage.Proofs.Places
import Sabotage.Proofs.SmoothRuns
import Sabotage.Proofs.Stretches

/-!
# The report of a change

What an injection says of its change is exact (`inject_report`). Each bug trades bytes without line
feeds for others without them, so that a run keeps their number (`lineFeeds_of_played`), and so does
rendering. Between texts with equally many line feeds the range of changed lines is exact.
-/

namespace Sabotage

open Bytes

/-- A parser in whose trees no number holds a line break. -/
def Parser.KeepsNumbersWhole (parser : Parser) : Prop :=
  ∀ language source, ∀ n ∈ (parser language source).preorder, n.kind = "number" →
    isUnbroken (n.bytes source)

section
variable {parser : Parser} {d d' : Draft}

/-- No bug trades line breaks where numbers hold none. -/
theorem BugKind.Trades.isUnbroken {kind : BugKind} {taken given : Bytes}
    (h : kind.Trades d taken given)
    (hnumbers : ∀ n ∈ d.root.preorder, n.kind = "number" → isUnbroken (n.bytes d.source)) :
    isUnbroken taken ∧ isUnbroken given := by
  cases h with
  | negation => decide
  | branches => decide
  | operator => exact ⟨(Operator.isUnbroken_text _).1, (Operator.isUnbroken_text _).1⟩
  | number hn hkind htext hbump =>
    exact ⟨htext ▸ hnumbers _ hn hkind, (Literal.isUnbroken_bump? hbump).1⟩
  | lookAlike h =>
    obtain ⟨hletter, hlike⟩ := ofChar_homoglyph? h
    exact ⟨isUnbroken_utf8EncodeChar hletter, isUnbroken_utf8EncodeChar hlike⟩
  | declaration hgiven => exact ⟨rfl, hgiven⟩

/-- A run keeps the number of line feeds. -/
theorem lineFeeds_of_played {pool : List (Candidate DraftError Draft)} {budget : Nat}
    {kinds : List BugKind} (hp : parser.Tidy) (hnumbers : parser.KeepsNumbersWhole)
    (hpool : ∀ c ∈ pool, c.attempt = c.kind.apply parser) (hd : d.Coherent parser)
    (h : Played pool budget d kinds d') : lineFeeds d'.source = lineFeeds d.source := by
  refine forall_of_played (p := fun t => lineFeeds t.source = lineFeeds d.source) hpool
    (fun kind t t' ht ha heq => ?_) hd h rfl
  obtain ⟨taken, given, htrade, hweigh⟩ := BugKind.apply_trades hp ht ha
  have hbreaks := htrade.isUnbroken (by rw [ht]; exact hnumbers t.language t.source)
  have hfeeds := hweigh (· == 10) (by decide +kernel)
  simp only [tally_beq] at hfeeds
  have htaken := lineFeeds_eq_zero hbreaks.1
  have hgiven := lineFeeds_eq_zero hbreaks.2
  rw [lineFeeds] at htaken hgiven heq ⊢
  omega

end

/-- An injection keeps the number of line feeds, and the range it reports begins and ends with the
first and the last line on which the text changed: its lines put in the place of these give the
changed text. -/
theorem inject_report {σ : Type} [WordSource σ] {parser : Parser} (hp : parser.Tidy)
    (hnumbers : parser.KeepsNumbersWhole) {r : InjectionRequest} {s s' : σ} {i : Injection}
    (h : inject parser r s = (.ok i, s')) :
    Text.lineFeeds i.code.toList = Text.lineFeeds r.code.toList ∧
      ∀ c ∈ i.change?, IsLeast (Text.differingLines r.code i.code) c.firstLine ∧
        IsGreatest (Text.differingLines r.code i.code) c.lastLine ∧
        Text.replaceLines r.code c.firstLine c.lastLine c.after = i.code := by
  obtain ⟨d', hplayed, hnone, hsome⟩ := played_of_inject h
  have hd := Draft.coherent_ofSource parser i.language r.path? (ofString r.code)
  by_cases hempty : i.applied = []
  · obtain ⟨hcode, hchange⟩ := hnone hempty
    rw [hcode, hchange]
    exact ⟨rfl, nofun⟩
  obtain ⟨hrender, hchange⟩ := hsome hempty
  have hretains := retains_of_played hp attempt_candidates hd hplayed
  obtain ⟨text, htext, -, hcode⟩ := Draft.render_eq hretains hrender
  have hfeeds : Text.lineFeeds i.code.toList = Text.lineFeeds r.code.toList := by
    have hplayed := lineFeeds_of_played hp hnumbers attempt_candidates hd hplayed
    rw [htext, Draft.ofSource, lineFeeds_ofString, lineFeeds_ofString] at hplayed
    rw [hcode, Text.toList_normalize, Text.lineFeeds_normalizeChars, hplayed]
  refine ⟨hfeeds, fun c hc => ?_⟩
  rw [hchange] at hc
  exact Text.ChangeRange.between?_exact hfeeds.symm hc

/-! ## An injection into two lines -/

/-- Two lines, a comment and a boolean literal. -/
def literalCode : String := "//\r\ntrue\r\n"

/-- The same lines with the literal negated. -/
def negatedCode : String := "//\r\n!true\r\n"

/-- The comment of both texts. -/
def commentNode : Node :=
  ⟨"comment", true, false, 0, 2, none, []⟩

/-- The literal. -/
def literalNode : Node :=
  ⟨"true", true, false, 4, 8, none, []⟩

/-- The statement of the literal. -/
def literalStatement : Node :=
  ⟨"expression_statement", true, false, 4, 8, none, [literalNode]⟩

/-- The tree of the two lines. -/
def literalTree : Node :=
  ⟨"program", true, false, 0, 10, none, [commentNode, literalStatement]⟩

/-- The negation of the literal. -/
def negatedNode : Node :=
  ⟨"unary_expression", true, false, 4, 9, none,
    [⟨"!", false, false, 4, 5, some .operator, []⟩, ⟨"true", true, false, 5, 9, none, []⟩]⟩

/-- The statement of the negated literal. -/
def negatedStatement : Node :=
  ⟨"expression_statement", true, false, 4, 9, none, [negatedNode]⟩

/-- The tree of the two lines with the literal negated. -/
def negatedTree : Node :=
  ⟨"program", true, false, 0, 11, none, [commentNode, negatedStatement]⟩

/-- A parser that knows these two texts, and takes any other for an empty program. -/
def literalParser : Parser := fun _ source =>
  if source = ofString literalCode then literalTree
  else if source = ofString negatedCode then negatedTree
  else ⟨"program", true, false, 0, 0, none, []⟩

/-- The draft of the two lines. -/
def literalDraft : Draft :=
  ⟨.tsx, none, ofString literalCode, literalTree, 0⟩

/-- The draft of the two lines once the literal is negated. -/
def negatedDraft : Draft :=
  ⟨.tsx, none, ofString negatedCode, negatedTree, 1⟩

/-- The request for two bugs in the two lines. -/
def literalRequest : InjectionRequest :=
  ⟨literalCode, 2, none, none, .null⟩

/-- What it gives. -/
def literalInjection : Injection :=
  ⟨negatedCode, [.booleanNegation], some ⟨2, 2, "true\r", "!true\r"⟩, .tsx⟩

/-- The trees of the parser are tidy. -/
theorem tidy_literalParser : literalParser.Tidy := by
  intro language source
  rw [literalParser]
  split
  · next h => subst h; decide
  · split
    · next h => subst h; decide
    · exact Node.tidy_empty source

/-- The trees of the parser hold no number. -/
theorem keepsNumbersWhole_literalParser : literalParser.KeepsNumbersWhole := by
  have hkinds (language : Language) (source : Bytes) :
      ∀ n ∈ (literalParser language source).preorder, n.kind ≠ "number" := by
    rw [literalParser]
    split
    · decide
    · split <;> decide
  exact fun language source n hn hkind => absurd hkind (hkinds language source n hn)

/-- In the two lines only the negation has a place. -/
theorem plan?_literalDraft (kind : BugKind) :
    kind.plan? literalDraft =
      .ok (if kind = .booleanNegation then some (.single ⟨4, 8, "!true"⟩) else none) := by
  by_cases hkind : kind = .booleanNegation
  · subst hkind
    have hsites : literalDraft.sites = [⟨literalTree, []⟩, ⟨commentNode, [literalTree]⟩,
        ⟨literalStatement, [literalTree]⟩, ⟨literalNode, [literalStatement, literalTree]⟩] := by
      cbv
    simp [BugKind.plan?, Rule.findNegation, hsites, List.findSomeM?, Rule.planNegation,
      Rule.isTruthExpression, Draft.binaryOperator, Rule.isNegated, Rule.needsOuterGroup,
      Site.parent?, Rule.looserThanNot, literalTree, literalStatement, literalNode, commentNode,
      bind, Except.bind, pure, Except.pure, Except.map]
    cbv
  · have hsought : ∀ kind ∈ BugKind.all, kind ≠ .booleanNegation →
        ∀ n ∈ literalDraft.root.preorder, n.kind ∉ kind.sought := by
      decide
    rw [BugKind.plan?_eq_none (hsought kind kind.mem_all hkind), if_neg hkind]

/-- What the rules make of the two lines. -/
theorem apply_literalDraft (kind : BugKind) :
    kind.apply literalParser literalDraft =
      .ok (kind == .booleanNegation,
        if kind = .booleanNegation then negatedDraft else literalDraft) := by
  by_cases hkind : kind = .booleanNegation
  · subst hkind
    simp only [BugKind.apply, plan?_literalDraft]
    cbv
  · simp [BugKind.apply, plan?_literalDraft, hkind]

/-- No rule has a place once the literal is negated. -/
theorem apply_negatedDraft (kind : BugKind) :
    kind.apply literalParser negatedDraft = .ok (false, negatedDraft) := by
  have hplan : kind.plan? negatedDraft = .ok none := by
    by_cases hkind : kind = .booleanNegation
    · subst hkind
      cbv
    · have hsought : ∀ kind ∈ BugKind.all, kind ≠ .booleanNegation →
          ∀ n ∈ negatedDraft.root.preorder, n.kind ∉ kind.sought := by
        decide
      exact BugKind.plan?_eq_none (hsought kind kind.mem_all hkind)
  rw [BugKind.apply, hplan]

/-- The two lines are given back with the literal negated, whatever their path is. -/
theorem inject_literalCode {r : InjectionRequest} (hcode : r.code = literalCode)
    (hlanguage : r.language = .ok .tsx) (hweights : catalog r.weights = catalog .null)
    (hbudget : 0 < r.budget) (s : MersenneTwister) :
    ∃ s', inject literalParser r s = (.ok literalInjection, s') := by
  obtain ⟨code, budget, language?, path?, weights⟩ := r
  obtain rfl : code = literalCode := hcode
  have hparse : Draft.parse literalParser .tsx path? literalCode =
      .ok { literalDraft with path? } := by
    have hroot : literalParser .tsx (ofString literalCode) = literalTree := if_pos rfl
    have hfaults : (Node.walk [literalTree]).filter Node.isFault = [] := by cbv
    simp only [Draft.parse, Draft.ofSource, Draft.faults, hroot, hfaults]
    rfl
  have hrender : ({ negatedDraft with path? } : Draft).render literalCode = .ok negatedCode := by
    have hfaults : (Node.walk [negatedTree]).filter Node.isFault = [] := by cbv
    have hkept : Text.matchFinalBreak literalCode
        (Text.normalize (.detect literalCode) negatedCode) = negatedCode := by
      decide
    simp only [Draft.render, Draft.faults, Draft.text, negatedDraft, hfaults, toString?_ofString,
      hkept]
  have hchange : Text.ChangeRange.between? literalCode negatedCode =
      some ⟨2, 2, "true\r", "!true\r"⟩ := by
    decide
  have hfirst (k : BugKind) : k.apply literalParser { literalDraft with path? } =
      .ok (k == .booleanNegation, if k = .booleanNegation then { negatedDraft with path? }
        else { literalDraft with path? }) := by
    rw [BugKind.apply_path (apply_literalDraft k) path?]
    split <;> rfl
  have hsecond (k : BugKind) : k.apply literalParser { negatedDraft with path? } =
      .ok (false, { negatedDraft with path? }) :=
    BugKind.apply_path (apply_negatedDraft k) path?
  have hfinish (k : BugKind) (t : Draft)
      (ht : t = { literalDraft with path? } ∨ t = { negatedDraft with path? }) :
      ∃ b t', k.apply literalParser t = .ok (b, t') ∧
        (t' = { literalDraft with path? } ∨ t' = { negatedDraft with path? }) := by
    rcases ht with rfl | rfl
    · exact ⟨_, _, hfirst k, by split <;> simp⟩
    · exact ⟨_, _, hsecond k, .inr rfl⟩
  obtain ⟨s', h⟩ := inject_single hlanguage hparse hweights hbudget hfinish (.inl rfl) hfirst
    (fun k _ => hsecond k) s
  refine ⟨s', h.trans ?_⟩
  simp only [Injection.ofRun, hrender, hchange]
  rfl

/-- The request for the two lines is answered with the literal negated. -/
theorem inject_literalRequest :
    ∃ s', inject literalParser literalRequest (MersenneTwister.ofSeed 7) =
      (.ok literalInjection, s') :=
  inject_literalCode rfl (by cbv) rfl (by decide) _

/-- The lines of the injection into the two lines: the second alone is reported, and put in its
place it gives the changed text. -/
theorem inject_report_literalRequest :
    literalParser.Tidy ∧ literalParser.KeepsNumbersWhole ∧
      ∃ s', inject literalParser literalRequest (MersenneTwister.ofSeed 7) =
          (.ok literalInjection, s') ∧
        IsLeast (Text.differingLines literalCode negatedCode) 2 ∧
        IsGreatest (Text.differingLines literalCode negatedCode) 2 ∧
        Text.replaceLines literalCode 2 2 "!true\r" = negatedCode := by
  obtain ⟨s', h⟩ := inject_literalRequest
  obtain ⟨-, hreport⟩ := inject_report tidy_literalParser keepsNumbersWhole_literalParser h
  exact ⟨tidy_literalParser, keepsNumbersWhole_literalParser, s', h, hreport _ rfl⟩

end Sabotage
