import Sabotage.Random.MersenneTwister
import Sabotage.Selection

/-!
# Rounds of a selection

A run of `rounds` is described by the relation `Played`: each round either puts in a bug, by a
candidate of the pool that finds a place, or finds all candidates of the pool without one. What the
random source does shows only in which candidate a round takes, so that everything said of `Played`
holds for every source and every weight. `played_of_rounds` reads a finished run as a derivation,
for candidates that leave no trace where they find no place (`LeavesNoTrace`), and `rounds_finish`
says that a run of candidates that do not fail (`Finishes`) does finish. The result is
`select_distinct_bounded_maximal`: a run gives distinct kinds of its pool, at most as many as its
budget, and stops short of the budget only when no kind left has a place.
-/

namespace Sabotage

section
variable {ε τ σ ρ : Type} [WordSource σ]

/-! ## Orders drawn -/

/-- Keys are drawn for every list of rules whose weights can be used. -/
theorem drawKeys_finish {weight : ρ → Weight} {rules : List ρ}
    (h : ∀ r ∈ rules, ∃ x, (weight r).reciprocal = .ok x) (s : σ) :
    ∃ keys s', drawKeys weight rules s = (.ok keys, s') := by
  induction rules generalizing s with
  | nil => exact ⟨[], s, rfl⟩
  | cons rule rest ih =>
    obtain ⟨x, hx⟩ := h rule List.mem_cons_self
    obtain ⟨keys, s', hk⟩ := ih (fun r hr => h r (List.mem_cons_of_mem _ hr))
      (WordSource.unitFloat s).2
    exact ⟨((1.0 - (WordSource.unitFloat s).1).pow x, rule) :: keys, s',
      by simp only [drawKeys, hx, hk]⟩

/-- An order is drawn of every list of rules whose weights can be used, and it holds every rule as
often as the list does. -/
theorem weightedOrder_finish {weight : ρ → Weight} {rules : List ρ}
    (h : ∀ r ∈ rules, ∃ x, (weight r).reciprocal = .ok x) (s : σ) :
    ∃ order s', weightedOrder weight rules s = (.ok order, s') ∧ order.Perm rules := by
  obtain ⟨keys, s', hk⟩ := drawKeys_finish h s
  have ho : weightedOrder weight rules s =
      (.ok ((arrange (fun a b => b.1 < a.1) keys).map Prod.snd), s') := by
    simp only [weightedOrder, hk]
  exact ⟨_, s', ho, weightedOrder_perm (congrArg Prod.fst ho)⟩

/-! ## Candidates -/

/-- A candidate that leaves a subject as it was where it finds no place, as long as the subject
satisfies an invariant, which its attempts keep. -/
structure Candidate.LeavesNoTrace (inv : τ → Prop) (c : Candidate ε τ) : Prop where
  keeps : ∀ {t b t'}, inv t → c.attempt t = .ok (b, t') → inv t'
  frame : ∀ {t t'}, inv t → c.attempt t = .ok (false, t') → t' = t

section
variable {inv : τ → Prop} {order : List (Candidate ε τ)} {t t' : τ}

/-- A turn without a hit has tried every candidate in vain, and the subject is what it was. -/
theorem tryInOrder_none (hc : ∀ c ∈ order, c.LeavesNoTrace inv) (ht : inv t)
    (h : tryInOrder order t = .ok (none, t')) :
    t' = t ∧ ∀ c ∈ order, c.attempt t = .ok (false, t) := by
  induction order with
  | nil => cases h; exact ⟨rfl, nofun⟩
  | cons c rest ih =>
    simp only [tryInOrder] at h
    split at h
    · cases h
    · cases h
    · next t₁ ha =>
      cases (hc c List.mem_cons_self).frame ht ha
      obtain ⟨rfl, hrest⟩ := ih (fun c hc' => hc c (List.mem_cons_of_mem _ hc')) h
      refine ⟨rfl, fun c' hc' => ?_⟩
      rcases List.mem_cons.1 hc' with rfl | hc'
      · exact ha
      · exact hrest c' hc'

/-- A turn with a hit ends in what one of its candidates made of the subject. -/
theorem tryInOrder_some {kind : BugKind} (hc : ∀ c ∈ order, c.LeavesNoTrace inv) (ht : inv t)
    (h : tryInOrder order t = .ok (some kind, t')) :
    ∃ c ∈ order, c.kind = kind ∧ c.attempt t = .ok (true, t') := by
  induction order with
  | nil => cases h
  | cons c rest ih =>
    simp only [tryInOrder] at h
    split at h
    · cases h
    · next ha => cases h; exact ⟨c, List.mem_cons_self, rfl, ha⟩
    · next t₁ ha =>
      cases (hc c List.mem_cons_self).frame ht ha
      obtain ⟨c', hc', hk⟩ := ih (fun c hc' => hc c (List.mem_cons_of_mem _ hc')) h
      exact ⟨c', List.mem_cons_of_mem _ hc', hk⟩

/-- A candidate that does not fail on subjects with an invariant, which its attempts keep. -/
def Candidate.Finishes (inv : τ → Prop) (c : Candidate ε τ) : Prop :=
  ∀ t, inv t → ∃ b t', c.attempt t = .ok (b, t') ∧ inv t'

/-- A turn of candidates that do not fail does not fail. -/
theorem tryInOrder_finish (hc : ∀ c ∈ order, c.Finishes inv) (ht : inv t) :
    ∃ kind? t', tryInOrder order t = .ok (kind?, t') ∧ inv t' := by
  induction order generalizing t with
  | nil => exact ⟨none, t, rfl, ht⟩
  | cons c rest ih =>
    obtain ⟨b, t₁, ha, ht₁⟩ := hc c List.mem_cons_self t ht
    cases b with
    | true => exact ⟨some c.kind, t₁, by simp only [tryInOrder, ha], ht₁⟩
    | false =>
      obtain ⟨kind?, t', hr, ht'⟩ := ih (fun c hc' => hc c (List.mem_cons_of_mem _ hc')) ht₁
      exact ⟨kind?, t', by simp only [tryInOrder, ha, hr], ht'⟩

end

/-! ## Runs -/

/-- What the rounds of a run do: from a pool, a budget and a subject, to the kinds put in and the
subject at the end. -/
inductive Played : List (Candidate ε τ) → Nat → τ → List BugKind → τ → Prop
  /-- The budget is used up. -/
  | spent {pool t} : Played pool 0 t [] t
  /-- No candidate finds a place. -/
  | stuck {pool budget t} : (∀ c ∈ pool, c.attempt t = .ok (false, t)) →
      Played pool (budget + 1) t [] t
  /-- A candidate finds a place, and its kind leaves the pool. -/
  | round {pool budget c t t₁ kinds t'} : c ∈ pool → c.attempt t = .ok (true, t₁) →
      Played (pool.filter (·.kind != c.kind)) budget t₁ kinds t' →
      Played pool (budget + 1) t (c.kind :: kinds) t'

variable {inv : τ → Prop} {pool : List (Candidate ε τ)} {t t' : τ}

/-- A finished run of candidates that leave no trace is played round by round. -/
theorem played_of_rounds {budget : Nat} {s s' : σ} {out : Outcome τ}
    (hc : ∀ c ∈ pool, c.LeavesNoTrace inv) (ht : inv t)
    (h : rounds budget pool t s = (.ok out, s')) :
    Played pool budget t out.applied out.subject := by
  induction budget generalizing pool t s s' out with
  | zero => cases h; exact .spent
  | succ budget ih =>
    simp only [rounds] at h
    split at h
    · next hempty =>
      cases h
      rw [List.isEmpty_iff.1 hempty]
      exact .stuck nofun
    · split at h
      · cases h
      · next order s₁ ho =>
        have hperm : order.Perm pool := weightedOrder_perm (congrArg Prod.fst ho)
        have hc' : ∀ c ∈ order, c.LeavesNoTrace inv := fun c hm => hc c (hperm.mem_iff.1 hm)
        split at h
        · cases h
        · next t₁ htry =>
          cases h
          obtain ⟨rfl, hall⟩ := tryInOrder_none hc' ht htry
          exact .stuck fun c hm => hall c (hperm.mem_iff.2 hm)
        · next kind t₁ htry =>
          obtain ⟨c, hm, rfl, ha⟩ := tryInOrder_some hc' ht htry
          have hm := hperm.mem_iff.1 hm
          split at h
          · cases h
          · next rest s₂ hr =>
            cases h
            refine .round hm ha (ih (fun c' hc'' => hc c' ?_) ((hc c hm).keeps ht ha) hr)
            exact (List.mem_filter.1 hc'').1

/-- A run of candidates that do not fail, with weights that can be used, finishes. -/
theorem rounds_finish {budget : Nat}
    (hw : ∀ c ∈ pool, ∃ x, c.weight.reciprocal = .ok x)
    (hc : ∀ c ∈ pool, c.Finishes inv) (ht : inv t) (s : σ) :
    ∃ out s', rounds budget pool t s = (.ok out, s') := by
  induction budget generalizing pool t s with
  | zero => exact ⟨⟨[], t⟩, s, rfl⟩
  | succ budget ih =>
    obtain ⟨order, s₁, ho, hperm⟩ : ∃ order s₁,
        weightedOrder Candidate.weight pool s = (.ok order, s₁) ∧ order.Perm pool :=
      weightedOrder_finish hw s
    have hc' : ∀ c ∈ order, c.Finishes inv := fun c hm => hc c (hperm.mem_iff.1 hm)
    obtain ⟨kind?, t₁, htry, ht₁⟩ := tryInOrder_finish hc' ht
    rcases hempty : pool.isEmpty with _ | _
    · cases kind? with
      | none => exact ⟨⟨[], t₁⟩, s₁, by simp [rounds, hempty, ho, htry]⟩
      | some kind =>
        have hsub {c : Candidate ε τ} (hm : c ∈ pool.filter (·.kind != kind)) : c ∈ pool :=
          (List.mem_filter.1 hm).1
        obtain ⟨rest, s₂, hr⟩ :=
          ih (fun c hm => hw c (hsub hm)) (fun c hm => hc c (hsub hm)) ht₁ s₁
        exact ⟨_, s₂, by simp [rounds, hempty, ho, htry, hr]; rfl⟩
    · exact ⟨⟨[], t⟩, s, by simp [rounds, hempty]⟩

namespace Played
variable {budget : Nat} {kinds : List BugKind}

/-- A kind put in is one of the pool. -/
theorem mem_pool (h : Played pool budget t kinds t') :
    ∀ k ∈ kinds, ∃ c ∈ pool, c.kind = k := by
  induction h with
  | spent | stuck => nofun
  | round hm _ _ ih =>
    intro k hk
    rcases List.mem_cons.1 hk with rfl | hk
    · exact ⟨_, hm, rfl⟩
    · obtain ⟨c', hc', rfl⟩ := ih k hk
      exact ⟨c', (List.mem_filter.1 hc').1, rfl⟩

/-- No kind is put in twice, as a kind put in leaves the pool. -/
theorem nodup (h : Played pool budget t kinds t') : kinds.Nodup := by
  induction h with
  | spent | stuck => exact .nil
  | round _ _ hrest ih =>
    refine List.nodup_cons.2 ⟨fun hk => ?_, ih⟩
    obtain ⟨c', hc', heq⟩ := hrest.mem_pool _ hk
    simpa [heq] using (List.mem_filter.1 hc').2

/-- The kinds put in are within the budget. -/
theorem length_le (h : Played pool budget t kinds t') : kinds.length ≤ budget := by
  induction h with
  | spent | stuck => exact Nat.zero_le _
  | round _ _ _ ih => exact Nat.succ_le_succ ih

/-- When budget is left, a candidate whose kind was not put in has no place in the end. -/
theorem maximal (h : Played pool budget t kinds t') (hleft : kinds.length < budget) :
    ∀ c ∈ pool, c.kind ∉ kinds → c.attempt t' = .ok (false, t') := by
  induction h with
  | spent => cases hleft
  | stuck hall => exact fun c hc _ => hall c hc
  | round _ _ _ ih =>
    intro c hc hk
    obtain ⟨hne, hk⟩ := List.ne_and_not_mem_of_not_mem_cons hk
    exact ih (Nat.lt_of_succ_lt_succ hleft) c (List.mem_filter.2 ⟨hc, by simpa using hne⟩) hk

end Played

/-- A run over rules that never fail, and that leave the subject as it is where they find no place,
gives distinct kinds of its pool, no more than its budget; when it gives fewer, no rule of another
kind has a place in the subject it ends with. Kinds may stand in the pool several times. -/
theorem select_distinct_bounded_maximal
    (hw : ∀ c ∈ pool, ∃ x, c.weight.reciprocal = .ok x)
    (hc : ∀ c ∈ pool, ∀ t, ∃ b t', c.attempt t = .ok (b, t') ∧ (b = false → t' = t))
    (budget : Int) (t : τ) (s : σ) :
    ∃ out s', select pool budget t s = (.ok out, s') ∧
      out.applied.Nodup ∧
      (∀ k ∈ out.applied, k ∈ pool.map Candidate.kind) ∧
      (out.applied.length : Int) ≤ max 0 budget ∧
      ((out.applied.length : Int) < budget →
        ∀ c ∈ pool, c.kind ∉ out.applied → c.attempt out.subject = .ok (false, out.subject)) := by
  have hfinish (c : Candidate ε τ) (hm : c ∈ pool) : c.Finishes fun _ => True := by
    intro t _
    obtain ⟨b, t', h, -⟩ := hc c hm t
    exact ⟨b, t', h, trivial⟩
  obtain ⟨out, s', hrun⟩ : ∃ out s', select pool budget t s = (.ok out, s') :=
    rounds_finish hw hfinish trivial s
  have hframe (c : Candidate ε τ) (hm : c ∈ pool) : c.LeavesNoTrace fun _ => True := by
    refine ⟨fun _ _ => trivial, fun {t t'} _ h => ?_⟩
    obtain ⟨b, t₁, h', hb⟩ := hc c hm t
    rw [h'] at h
    cases h
    exact hb rfl
  have hplay := played_of_rounds hframe trivial hrun
  refine ⟨out, s', hrun, hplay.nodup, fun k hk => ?_, ?_, fun hlt => ?_⟩
  · obtain ⟨c, hm, rfl⟩ := hplay.mem_pool k hk
    exact List.mem_map_of_mem hm
  · have := hplay.length_le
    omega
  · exact hplay.maximal (by omega)

end

/-- Three candidates of two kinds over a number: two of one kind take two from a number of at least
two, one of another kind adds one to an odd number. -/
def numberCandidates : List (Candidate Empty Nat) :=
  [⟨.offByOne, .count 3, fun n => .ok (2 ≤ n, n - if 2 ≤ n then 2 else 0)⟩,
    ⟨.offByOne, .yes, fun n => .ok (2 ≤ n, n - if 2 ≤ n then 2 else 0)⟩,
    ⟨.booleanNegation, .count 5, fun n => .ok (n % 2 = 1, n + n % 2)⟩]

/-- A run over these candidates, for up to five bugs in the number seven. -/
theorem select_numberCandidates :
    (∀ c ∈ numberCandidates, ∃ x, c.weight.reciprocal = .ok x) ∧
    (∀ c ∈ numberCandidates, ∀ n, ∃ b n', c.attempt n = .ok (b, n') ∧ (b = false → n' = n)) ∧
    ∃ out s', select numberCandidates 5 7 (MersenneTwister.ofSeed 1) = (.ok out, s') ∧
      out.applied.Nodup ∧
      (∀ k ∈ out.applied, k ∈ [.offByOne, .offByOne, .booleanNegation]) ∧
      out.applied.length ≤ (5 : Int) ∧
      (out.applied.length < (5 : Int) → ∀ c ∈ numberCandidates, c.kind ∉ out.applied →
        c.attempt out.subject = .ok (false, out.subject)) := by
  have hw : ∀ c ∈ numberCandidates, ∃ x, c.weight.reciprocal = .ok x := by
    simp only [numberCandidates, List.forall_mem_cons]
    exact ⟨⟨_, rfl⟩, ⟨_, rfl⟩, ⟨_, rfl⟩, nofun⟩
  have hc : ∀ c ∈ numberCandidates, ∀ n, ∃ b n',
      c.attempt n = .ok (b, n') ∧ (b = false → n' = n) := by
    simp only [numberCandidates, List.forall_mem_cons]
    refine ⟨fun n => ⟨_, _, rfl, ?_⟩, fun n => ⟨_, _, rfl, ?_⟩, fun n => ⟨_, _, rfl, ?_⟩, nofun⟩
    · grind
    · grind
    · grind
  exact ⟨hw, hc, select_distinct_bounded_maximal hw hc 5 7 (MersenneTwister.ofSeed 1)⟩

end Sabotage
