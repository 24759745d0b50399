import Sabotage.Proofs.Rounds

/-!
# Runs of different budgets

The budget of a run only says when to stop: what a round does (`Round`) depends on the pool, the
subject and the random source alone. So a run for fewer bugs is the beginning of a run for more
(`select_prefix`). To speak of the subject in the middle of a run, the run is made with candidates
that keep a record of the subjects they make (`Candidate.recorded`); a round is the same with the
record (`Round.recorded`).
-/

namespace Sabotage

section
variable {ε τ σ : Type} [WordSource σ]

/-! ## Candidates that stand for others -/

/-- Keys are drawn for rules that stand for others as for those. -/
theorem drawKeys_map {ρ ρ' : Type} {weight : ρ → Weight} {weight' : ρ' → Weight} {f : ρ → ρ'}
    (hf : ∀ r, weight' (f r) = weight r) (rules : List ρ) (s : σ) :
    drawKeys weight' (rules.map f) s =
      ((drawKeys weight rules s).1.map (List.map (Prod.map id f)), (drawKeys weight rules s).2) := by
  induction rules generalizing s with
  | nil => rfl
  | cons rule rest ih =>
    simp only [List.map_cons, drawKeys, hf, ih]
    cases (weight rule).reciprocal with
    | error e => rfl
    | ok r =>
      rcases hrest : drawKeys weight rest (WordSource.unitFloat s).2 with ⟨_ | keys, s'⟩ <;> rfl

/-- The order drawn of rules that stand for others is the one drawn of those. -/
theorem weightedOrder_map {ρ ρ' : Type} {weight : ρ → Weight} {weight' : ρ' → Weight}
    {f : ρ → ρ'} (hf : ∀ r, weight' (f r) = weight r) (rules : List ρ) (s : σ) :
    weightedOrder weight' (rules.map f) s =
      ((weightedOrder weight rules s).1.map (List.map f), (weightedOrder weight rules s).2) := by
  simp only [weightedOrder, drawKeys_map hf]
  rcases drawKeys weight rules s with ⟨_ | keys, s'⟩
  · rfl
  · have harrange := arrange_map (fun a b : Float × ρ' => b.1 < a.1) (Prod.map id f) keys
    simp only [Except.map, harrange, List.map_map]
    rfl

/-! ## Records -/

/-- The candidate over a subject together with a record, to which it adds each subject it makes
where it finds a place. -/
def Candidate.recorded (c : Candidate ε τ) : Candidate ε (τ × List τ) :=
  ⟨c.kind, c.weight, fun (t, record) =>
    match c.attempt t with
    | .error e => .error e
    | .ok (true, t') => .ok (true, t', record ++ [t'])
    | .ok (false, t') => .ok (false, t', record)⟩

/-- A turn of recorded candidates is the turn of the candidates, and adds the subject made, if there
is a hit. -/
theorem tryInOrder_recorded (order : List (Candidate ε τ)) (t : τ) (record : List τ) :
    tryInOrder (order.map Candidate.recorded) (t, record) =
      (tryInOrder order t).map fun (kind?, t') =>
        (kind?, t', if kind?.isSome then record ++ [t'] else record) := by
  induction order generalizing t with
  | nil => rfl
  | cons c rest ih =>
    simp only [List.map_cons, tryInOrder, Candidate.recorded]
    rcases c.attempt t with e | ⟨_ | _, t'⟩
    · rfl
    · exact ih t'
    · rfl

/-! ## Rounds -/

/-- What a round does: the kind put in, if any candidate finds a place, and the subject and the
random source after it. -/
inductive Round : List (Candidate ε τ) → τ → σ → Option BugKind → τ → σ → Prop
  /-- The pool is used up. -/
  | empty {t s} : Round [] t s none t s
  /-- The candidates are tried in an order drawn. -/
  | drawn {pool order t s kind? t₁ s₁} : pool.isEmpty = false →
      weightedOrder Candidate.weight pool s = (.ok order, s₁) →
      tryInOrder order t = .ok (kind?, t₁) → Round pool t s kind? t₁ s₁

variable {pool : List (Candidate ε τ)} {budget : Nat} {t t₁ : τ} {s s₁ s' : σ}
  {kind? : Option BugKind} {kind : BugKind} {out : Outcome τ}

/-- A round does the same when a record is kept, and adds the subject made, if there is a hit. -/
theorem Round.recorded (h : Round pool t s kind? t₁ s₁) (record : List τ) :
    Round (pool.map Candidate.recorded) (t, record) s kind?
      (t₁, if kind?.isSome then record ++ [t₁] else record) s₁ := by
  cases h with
  | empty => exact .empty
  | drawn hpool horder htry =>
    have hweight (c : Candidate ε τ) : c.recorded.weight = c.weight := rfl
    have horder' := weightedOrder_map hweight pool s
    rw [horder] at horder'
    refine .drawn (by simpa using hpool) horder' ?_
    rw [tryInOrder_recorded, htry]
    rfl

/-- A run ends with a round in which no candidate finds a place. -/
theorem Round.rounds_none (h : Round pool t s none t₁ s₁) (budget : Nat) :
    rounds (budget + 1) pool t s = (.ok ⟨[], t₁⟩, s₁) := by
  cases h with
  | empty => rfl
  | drawn hpool horder htry => simp [rounds, hpool, horder, htry]

/-- A run goes on after a round in which a candidate finds a place, without the kind put in. -/
theorem Round.rounds_some (h : Round pool t s (some kind) t₁ s₁)
    (hrest : rounds budget (pool.filter (·.kind != kind)) t₁ s₁ = (.ok out, s')) :
    rounds (budget + 1) pool t s = (.ok ⟨kind :: out.applied, out.subject⟩, s') := by
  cases h with
  | drawn hpool horder htry => simp [rounds, hpool, horder, htry, hrest]

/-- The first round of a finished run, and what is left of the run. -/
theorem round_of_rounds (h : rounds (budget + 1) pool t s = (.ok out, s')) :
    (Round pool t s none out.subject s' ∧ out.applied = []) ∨
      ∃ kind t₁ s₁ rest, Round pool t s (some kind) t₁ s₁ ∧
        rounds budget (pool.filter (·.kind != kind)) t₁ s₁ = (.ok rest, s') ∧
        out = ⟨kind :: rest.applied, rest.subject⟩ := by
  simp only [rounds] at h
  split at h
  · next hempty =>
    cases h
    rw [List.isEmpty_iff.1 hempty]
    exact .inl ⟨.empty, rfl⟩
  · next hpool =>
    have hpool : pool.isEmpty = false := Bool.eq_false_iff.2 hpool
    split at h
    · cases h
    · next order s₁ horder =>
      split at h
      · cases h
      · next t₁ htry =>
        cases h
        exact .inl ⟨.drawn hpool horder htry, rfl⟩
      · next kind t₁ htry =>
        split at h
        · cases h
        · next rest s₂ hrest =>
          cases h
          exact .inr ⟨kind, t₁, s₁, rest, .drawn hpool horder htry, hrest, rfl⟩

/-! ## Runs -/

/-- A finished run with a record puts in the same bugs, and its record holds the subject after each.
A run for fewer bugs puts in the first of them, and ends with the subject recorded after the last of
these, or with the same subject when there are no more. -/
theorem rounds_prefix (h : rounds budget pool t s = (.ok out, s')) :
    ∃ states : List τ, states.length = out.applied.length ∧
      (∀ record, rounds budget (pool.map Candidate.recorded) (t, record) s =
        (.ok ⟨out.applied, out.subject, record ++ states⟩, s')) ∧
      ∀ k ≤ budget, ∃ s'', rounds k pool t s =
        (.ok ⟨out.applied.take k, (t :: states)[k]?.getD out.subject⟩, s'') := by
  induction budget generalizing pool t s out s' with
  | zero =>
    cases h
    refine ⟨[], rfl, fun record => by simp [rounds], fun k hk => ⟨s, ?_⟩⟩
    rw [Nat.le_zero.1 hk]
    rfl
  | succ budget ih =>
    rcases round_of_rounds h with ⟨hround, hnone⟩ | ⟨kind, t₁, s₁, rest, hround, hrest, rfl⟩
    · refine ⟨[], by simp [hnone], fun record => ?_, fun k _ => ?_⟩
      · rw [(hround.recorded record).rounds_none, hnone]
        simp
      · cases k with
        | zero => exact ⟨s, rfl⟩
        | succ k => exact ⟨s', by simp [hround.rounds_none, hnone]⟩
    · obtain ⟨states, hlength, hrecord, hprefix⟩ := ih hrest
      refine ⟨t₁ :: states, by simp [hlength], fun record => ?_, fun k hk => ?_⟩
      · have hfilter : (pool.map Candidate.recorded).filter (·.kind != kind) =
            (pool.filter (·.kind != kind)).map Candidate.recorded := by
          rw [List.filter_map]
          rfl
        have hrun := hrecord (record ++ [t₁])
        rw [← hfilter] at hrun
        rw [(hround.recorded record).rounds_some hrun, List.append_assoc]
        rfl
      · cases k with
        | zero => exact ⟨s, rfl⟩
        | succ k =>
          obtain ⟨s'', hrun⟩ := hprefix k (Nat.le_of_succ_le_succ hk)
          exact ⟨s'', hround.rounds_some hrun⟩

/-- A run for up to `k` bugs is the beginning of a run for up to `m`, from the same start and with
the same random source: it puts in the first `k` of the kinds that the longer run puts in, or all
when these are fewer, and it ends with the subject that the longer run has right after the last of
them, as its record shows, or with the last one of the longer run when that puts in no more. -/
theorem select_prefix {m : Nat} (h : select pool m t s = (.ok out, s')) :
    ∃ states : List τ, states.length = out.applied.length ∧
      select (pool.map Candidate.recorded) m (t, []) s =
        (.ok ⟨out.applied, out.subject, states⟩, s') ∧
      ∀ k ≤ m, ∃ s'', select pool k t s =
        (.ok ⟨out.applied.take k, (t :: states)[k]?.getD out.subject⟩, s'') := by
  obtain ⟨states, hlength, hrecord, hprefix⟩ := rounds_prefix h
  exact ⟨states, hlength, hrecord [], hprefix⟩

end

/-- Runs for up to five bugs in the number seven, and for fewer. -/
theorem select_prefix_numberCandidates :
    ∃ out s', select numberCandidates (5 : Nat) 7 (MersenneTwister.ofSeed 1) = (.ok out, s') ∧
      ∃ states : List Nat, states.length = out.applied.length ∧
        select (numberCandidates.map Candidate.recorded) (5 : Nat) (7, [])
          (MersenneTwister.ofSeed 1) = (.ok ⟨out.applied, out.subject, states⟩, s') ∧
        ∀ k ≤ 5, ∃ s'', select numberCandidates (k : Nat) 7 (MersenneTwister.ofSeed 1) =
          (.ok ⟨out.applied.take k, (7 :: states)[k]?.getD out.subject⟩, s'') := by
  have hweights : ∀ c ∈ numberCandidates, ∃ x, c.weight.reciprocal = .ok x := by
    simp only [numberCandidates, List.forall_mem_cons]
    exact ⟨⟨_, rfl⟩, ⟨_, rfl⟩, ⟨_, rfl⟩, List.forall_mem_nil _⟩
  have hfinish : ∀ c ∈ numberCandidates, c.Finishes fun _ => True := by
    simp only [numberCandidates, List.forall_mem_cons]
    exact ⟨fun n _ => ⟨_, _, rfl, trivial⟩, fun n _ => ⟨_, _, rfl, trivial⟩,
      fun n _ => ⟨_, _, rfl, trivial⟩, List.forall_mem_nil _⟩
  obtain ⟨out, s', hrun⟩ : ∃ out s',
      select numberCandidates (5 : Nat) 7 (MersenneTwister.ofSeed 1) = (.ok out, s') :=
    rounds_finish hweights hfinish trivial _
  exact ⟨out, s', hrun, select_prefix hrun⟩

end Sabotage
