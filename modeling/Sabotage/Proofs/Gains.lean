import Mathlib.Algebra.BigOperators.Group.List.Basic
import Sabotage.Proofs.Numerals
import Sabotage.Proofs.Stretches

/-!
# What each kind of bug adds

In a run each kind is put in at most once, so that what a run adds to a measure of the text is a sum
of one gain for each kind (`exists_gains`). The gain of a tally is what the kind trades
(`Gains.trades`). Apart from numbers and declarations the trades are finitely many
(`closedTrades`), and can be gone through for each class of bytes. A run that leaves a measure as it
was, and of whose kinds only one could have changed it, did not change it by that kind either
(`Gains.eq_zero`).
-/

namespace Sabotage

open Bytes

/-! ## The gains of a run -/

/-- What each kind of a run from `d` to `d'` adds to the measures of the source: nothing for a kind
that was not put in, and otherwise what one attempt added, at the draft that the kinds before it
lead to. -/
structure Gains (parser : Parser) (d d' : Draft) (kinds : List BugKind)
    (gain : BugKind → (Bytes → Int) → Int) : Prop where
  absent : ∀ k ∉ kinds, ∀ measure, gain k measure = 0
  present : ∀ k ∈ kinds, ∃ a b : Draft, a.Coherent parser ∧ k.apply parser a = .ok (true, b) ∧
    (∃ answers, replay parser (kinds.takeWhile (· ≠ k)) d = .ok (answers, a)) ∧
    ∀ measure, gain k measure = measure b.source - measure a.source
  total : ∀ measure, (BugKind.all.map fun k => gain k measure).sum =
    measure d'.source - measure d.source

section
variable {parser : Parser} {d d' : Draft} {kinds : List BugKind}

/-- One gain of a single kind adds up to itself. -/
theorem sum_all_ite (kind : BugKind) (x : Int) :
    (BugKind.all.map fun k => if k = kind then x else 0).sum = x := by
  cases kind <;> simp [BugKind.all]

/-- A run has gains. -/
theorem exists_gains {pool : List (Candidate DraftError Draft)} {budget : Nat}
    (hpool : ∀ c ∈ pool, c.attempt = c.kind.apply parser) (hd : d.Coherent parser)
    (h : Played pool budget d kinds d') : ∃ gain, Gains parser d d' kinds gain := by
  induction h with
  | spent | stuck =>
    exact ⟨fun _ _ => 0, fun _ _ _ => rfl, nofun, fun measure => by simp⟩
  | @round pool budget c t t₁ kinds t' hm ha hrest ih =>
    rw [hpool _ hm] at ha
    obtain ⟨gain, hgain⟩ := ih (fun c hc => hpool c (List.mem_filter.1 hc).1)
      (BugKind.apply_plans ha).1
    -- The kind left the pool, so that the rest of the run gains nothing by it.
    have hc : c.kind ∉ kinds :=
      (List.nodup_cons.1 (Played.round hm (hpool _ hm ▸ ha) hrest).nodup).1
    refine ⟨fun k measure => (if k = c.kind then measure t₁.source - measure t.source else 0) +
      gain k measure, fun k hk measure => ?_, fun k hk => ?_, fun measure => ?_⟩
    · obtain ⟨hne, hk⟩ := List.ne_and_not_mem_of_not_mem_cons hk
      rw [if_neg hne, hgain.absent k hk, Int.zero_add]
    · by_cases hkind : k = c.kind
      · subst hkind
        refine ⟨t, t₁, hd, ha, ⟨[], by simp [replay]⟩, fun measure => ?_⟩
        rw [if_pos rfl, hgain.absent _ hc, Int.add_zero]
      · obtain ⟨a, b, ha', happly, ⟨answers, hreplay⟩, hmeasure⟩ :=
          hgain.present k ((List.mem_cons.1 hk).resolve_left hkind)
        refine ⟨a, b, ha', happly, ⟨true :: answers, ?_⟩, fun measure => ?_⟩
        · rw [List.takeWhile_cons_of_pos (by simpa using Ne.symm hkind), replay, ha]
          simp only [hreplay]
        · rw [if_neg hkind, Int.zero_add, hmeasure]
    · rw [List.sum_map_add, sum_all_ite, hgain.total]
      omega

variable {gain : BugKind → (Bytes → Int) → Int}

/-- A kind that alone could change a measure did not change it when the run did not. -/
theorem Gains.eq_zero (h : Gains parser d d' kinds gain) {measure : Bytes → Int} {kind : BugKind}
    (hmeasure : measure d'.source = measure d.source)
    (hother : ∀ k, k ≠ kind → gain k measure = 0) : gain kind measure = 0 := by
  have htotal := h.total measure
  have hsum : (BugKind.all.map fun k => gain k measure) =
      BugKind.all.map fun k => if k = kind then gain kind measure else 0 := by
    refine List.map_congr_left fun k _ => ?_
    split
    · next hk => rw [hk]
    · next hk => exact hother k hk
  rw [hsum, sum_all_ite, hmeasure] at htotal
  omega

/-! ## Gains of tallies -/

/-- The gain of a tally is what a kind trades. -/
theorem Gains.trades (h : Gains parser d d' kinds gain) (hp : parser.Tidy) {kind : BugKind}
    (hkind : kind ∈ kinds) :
    ∃ (a : Draft) (taken given : Bytes), a.Coherent parser ∧
      (∃ answers, replay parser (kinds.takeWhile (· ≠ kind)) d = .ok (answers, a)) ∧
      kind.Trades a taken given ∧ ∀ p : UInt8 → Bool, (∀ b ∈ separators, p b = false) →
        gain kind (tally p) = tally p given - tally p taken := by
  obtain ⟨a, b, ha, happly, hreplay, hgain⟩ := h.present kind hkind
  obtain ⟨taken, given, htrade, htally⟩ := BugKind.apply_trades hp ha happly
  refine ⟨a, taken, given, ha, hreplay, htrade, fun p hsep => ?_⟩
  have := htally p hsep
  rw [hgain]
  omega

/-- The trades of operators. -/
def operatorTrades : List (BugKind × Bytes × Bytes) :=
  BugKind.all.flatMap fun kind => kind.swap?.toList.flatMap fun swap =>
    Operator.all.flatMap fun a => (swap a).toList.map fun b =>
      (kind, ofString a.text, ofString b.text)

/-- The trades of letters. -/
def letterTrades : List (BugKind × Bytes × Bytes) :=
  homoglyphPairs.flatMap fun (c, c') =>
    [(.homoglyphSabotage, String.utf8EncodeChar c, String.utf8EncodeChar c'),
      (.homoglyphSabotage, String.utf8EncodeChar c', String.utf8EncodeChar c)]

/-- The trades that do not depend on the text. -/
def closedTrades : List (BugKind × Bytes × Bytes) :=
  [(.booleanNegation, [], [33]), (.invertTernaryBranches, [], [])] ++ operatorTrades ++ letterTrades

/-- Apart from numbers and declarations, what a bug trades does not depend on the text. -/
theorem BugKind.Trades.mem_closedTrades {kind : BugKind} {taken given : Bytes}
    (h : kind.Trades d taken given) (hnumber : kind ≠ .indexOffByOne)
    (hdeclaration : kind ≠ .scopeGaslighting) : (kind, taken, given) ∈ closedTrades := by
  cases h with
  | negation | branches => simp [closedTrades]
  | @operator _ swap a b hswap hb =>
    refine List.mem_append_left _ (List.mem_append_right _ ?_)
    simp only [operatorTrades, List.mem_flatMap, List.mem_map]
    refine ⟨kind, kind.mem_all, swap, by simp [hswap], a, ?_, b, by simp [hb], rfl⟩
    cases a <;> decide
  | @lookAlike c c' hc =>
    refine List.mem_append_right _ (List.mem_flatMap.2 ?_)
    rcases mem_homoglyphPairs hc with hmem | hmem
    · exact ⟨_, hmem, by simp⟩
    · exact ⟨_, hmem, by simp⟩
  | number => exact absurd rfl hnumber
  | declaration => exact absurd rfl hdeclaration

/-- What holds of all closed trades holds of the gains of the kinds put in, apart from numbers and
declarations. -/
theorem Gains.of_closedTrades (h : Gains parser d d' kinds gain) (hp : parser.Tidy)
    {p : UInt8 → Bool} (hsep : ∀ b ∈ separators, p b = false) {P : BugKind → Int → Prop}
    (hall : ∀ t ∈ closedTrades, P t.1 (tally p t.2.2 - tally p t.2.1)) {kind : BugKind}
    (hkind : kind ∈ kinds) (hnumber : kind ≠ .indexOffByOne)
    (hdeclaration : kind ≠ .scopeGaslighting) : P kind (gain kind (tally p)) := by
  obtain ⟨a, taken, given, -, -, htrade, hgain⟩ := h.trades hp hkind
  rw [hgain p hsep]
  exact hall _ (htrade.mem_closedTrades hnumber hdeclaration)

end

end Sabotage
