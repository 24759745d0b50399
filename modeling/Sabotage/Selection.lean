import Sabotage.Arrange
import Sabotage.Decimal.Shortest
import Sabotage.Random.Source
import Sabotage.Rule.Catalog

/-!
# Weighted selection

A run puts up to a number of bugs of different kinds into a subject. Each round draws an order of
the candidates left in which heavier ones tend to come first, and tries them in that order. The
first that finds a place is recorded, all candidates of its kind leave the pool, and the next round
begins; a round in which none finds a place ends the run.

In the order, a candidate of weight `w` has the key `u ^ (1 / w)`, with `u` uniform in `(0, 1]`,
and larger keys come first.
-/

namespace Sabotage

/-- Why a weight cannot be used. -/
inductive WeightError where
  /-- It is too large for a float. -/
  | tooLarge
  /-- It is zero. -/
  | zero
  deriving DecidableEq, Repr

/-- One over a weight. -/
def Weight.reciprocal (w : Weight) : Except WeightError Float :=
  let n := w.value
  let size := (⟨n.natAbs, 0⟩ : Decimal).toFloat
  if n = 0 then .error .zero
  else if size.isInf then .error .tooLarge
  else .ok (1.0 / (if n < 0 then -size else size))

section
variable {σ ρ : Type} [WordSource σ]

/-- Draws the key of each rule. The random source moves on also when a weight fails. -/
def drawKeys (weight : ρ → Weight) : List ρ → σ → Except WeightError (List (Float × ρ)) × σ
  | [], s => (.ok [], s)
  | rule :: rest, s =>
    let (x, s) := WordSource.unitFloat s
    match (weight rule).reciprocal with
    | .error e => (.error e, s)
    | .ok r =>
      match drawKeys weight rest s with
      | (.error e, s) => (.error e, s)
      | (.ok keys, s) => (.ok (((1.0 - x).pow r, rule) :: keys), s)

/-- Draws an order of rules, by falling keys; equal keys keep their order. -/
def weightedOrder (weight : ρ → Weight) (rules : List ρ) (s : σ) :
    Except WeightError (List ρ) × σ :=
  match drawKeys weight rules s with
  | (.error e, s) => (.error e, s)
  | (.ok keys, s) => (.ok ((arrange (fun a b => b.1 < a.1) keys).map Prod.snd), s)

/-- The keys belong to the rules, in order. -/
theorem map_snd_drawKeys {weight : ρ → Weight} {rules : List ρ} {s : σ}
    {keys : List (Float × ρ)} (h : (drawKeys weight rules s).1 = .ok keys) :
    keys.map Prod.snd = rules := by
  induction rules generalizing s keys with
  | nil => cases h; rfl
  | cons rule rest ih =>
    simp only [drawKeys] at h
    split at h
    · cases h
    · split at h
      · cases h
      · rename_i hk
        cases h
        simp [ih (congrArg Prod.fst hk)]

/-- An order drawn holds every rule as often as the rules do. -/
theorem weightedOrder_perm {weight : ρ → Weight} {rules order : List ρ} {s : σ}
    (h : (weightedOrder weight rules s).1 = .ok order) : order.Perm rules := by
  simp only [weightedOrder] at h
  split at h
  · cases h
  · rename_i keys _ hk
    cases h
    rw [← map_snd_drawKeys (congrArg Prod.fst hk)]
    exact (arrange_perm _ keys).map _

end

/-- A rule that can be drawn: an attempt on a subject says whether it found a place, and leaves the
subject changed or not. -/
structure Candidate (ε τ : Type) where
  kind : BugKind
  weight : Weight
  attempt : τ → Except ε (Bool × τ)

/-- Why a run ends without an answer. -/
inductive SelectionError (ε : Type) where
  | weight (e : WeightError)
  | rule (e : ε)

section
variable {ε τ σ : Type} [WordSource σ]

/-- Tries candidates in order until one finds a place. -/
def tryInOrder : List (Candidate ε τ) → τ → Except ε (Option BugKind × τ)
  | [], t => .ok (none, t)
  | c :: rest, t =>
    match c.attempt t with
    | .error e => .error e
    | .ok (true, t) => .ok (some c.kind, t)
    | .ok (false, t) => tryInOrder rest t

/-- What a run leaves: the kinds put in, in order, and the subject. -/
structure Outcome (τ : Type) where
  applied : List BugKind
  subject : τ

/-- Plays rounds for up to `budget` bugs. -/
def rounds : Nat → List (Candidate ε τ) → τ → σ →
    Except (SelectionError ε) (Outcome τ) × σ
  | 0, _, t, s => (.ok ⟨[], t⟩, s)
  | budget + 1, pool, t, s =>
    if pool.isEmpty then (.ok ⟨[], t⟩, s)
    else
      match weightedOrder Candidate.weight pool s with
      | (.error e, s) => (.error (.weight e), s)
      | (.ok order, s) =>
        match tryInOrder order t with
        | .error e => (.error (.rule e), s)
        | .ok (none, t) => (.ok ⟨[], t⟩, s)
        | .ok (some kind, t) =>
          match rounds budget (pool.filter (·.kind != kind)) t s with
          | (.error e, s) => (.error e, s)
          | (.ok rest, s) => (.ok ⟨kind :: rest.applied, rest.subject⟩, s)

/-- A run for up to `budget` bugs; a budget below zero is none. -/
def select (pool : List (Candidate ε τ)) (budget : Int) (t : τ) (s : σ) :
    Except (SelectionError ε) (Outcome τ) × σ :=
  rounds budget.toNat pool t s

end

end Sabotage
