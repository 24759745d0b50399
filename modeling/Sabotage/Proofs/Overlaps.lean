import Sabotage.Draft
import Sabotage.Proofs.Seams

/-!
# Edits that overlap

Two edits overlap when both replace some byte, or when one is an insertion strictly within the range
of the other (`Edit.Overlaps`); otherwise one of them ends before the other begins, or where it
begins (`Edit.not_overlaps_iff`). Only neighbours in the order from the last to the first are
compared. That is enough: an edit that ends before its neighbour begins ends before all that stand
behind that one begin, so that edits are carried out exactly when no two of them overlap
(`Edit.applyAll_eq_ok_iff`). A refusal names an edit that overlaps another one
(`Edit.exists_overlaps_of_applyAll`).

`Draft.spliceInPlace` is a splice as it goes on, step by step, on the draft at hand. The edits are
made on a copy of the source, so that a splice that is refused half way leaves the draft as it was
(`Draft.spliceInPlace_refuses`).
-/

namespace Sabotage

namespace Edit
variable {source : Bytes} {e f : Edit} {edits : List Edit}

/-! ## Overlaps -/

/-- Both edits replace some byte. -/
def SharesByte (e f : Edit) : Prop :=
  ∃ i, (e.start ≤ i ∧ i < e.stop) ∧ f.start ≤ i ∧ i < f.stop

/-- The first edit is an insertion strictly within the range of the second. -/
def InsertsWithin (e f : Edit) : Prop :=
  e.start = e.stop ∧ f.start < e.start ∧ e.start < f.stop

/-- Two edits overlap when they share a byte or one is an insertion strictly within the other. -/
def Overlaps (e f : Edit) : Prop :=
  e.SharesByte f ∨ e.InsertsWithin f ∨ f.InsertsWithin e

/-- Two entries of a list of edits overlap. -/
def Overlapping (edits : List Edit) : Prop :=
  ∃ i j : Fin edits.length, i ≠ j ∧ (edits.get i).Overlaps (edits.get j)

/-- Edits do not overlap exactly when they are clear of each other. -/
theorem not_overlaps_iff (he : e.start ≤ e.stop) (hf : f.start ≤ f.stop) :
    ¬e.Overlaps f ↔ Clear e f := by
  constructor
  · intro h
    by_contra hclear
    simp only [Clear, not_or] at hclear
    refine h ?_
    -- Each reaches beyond the start of the other: unless one of them is empty, they share the byte
    -- at which the later one begins.
    by_cases hempty : e.start = e.stop
    · exact .inr (.inl ⟨hempty, by omega, by omega⟩)
    · by_cases hempty' : f.start = f.stop
      · exact .inr (.inr ⟨hempty', by omega, by omega⟩)
      · exact .inl ⟨max e.start f.start, by omega, by omega⟩
  · rintro h (⟨i, hi, hi'⟩ | ⟨hempty, hwithin⟩ | ⟨hempty, hwithin⟩) <;> simp only [Clear] at h <;>
      omega

/-- No two entries overlap exactly when all are clear of each other. -/
theorem not_overlapping_iff (hbounds : ∀ e ∈ edits, e.start ≤ e.stop) :
    ¬Overlapping edits ↔ edits.Pairwise Clear := by
  have hclear (i j : Fin edits.length) :
      ¬(edits.get i).Overlaps (edits.get j) ↔ Clear (edits.get i) (edits.get j) :=
    not_overlaps_iff (hbounds _ (edits.get_mem i)) (hbounds _ (edits.get_mem j))
  rw [List.pairwise_iff_get, Overlapping]
  push Not
  constructor
  · exact fun h i j hij => (hclear i j).1 (h i j (Fin.ne_of_lt hij))
  · intro h i j hij
    refine (hclear i j).2 ?_
    rcases Fin.lt_or_lt_of_ne hij with hlt | hlt
    · exact h i j hlt
    · exact (h j i hlt).symm

/-! ## Refusals -/

/-- Edits are carried out exactly when all are clear of each other. -/
theorem applyAll_eq_ok_iff (source : Bytes) (hbounds : ∀ e ∈ edits, e.start ≤ e.stop) :
    (∃ result, applyAll edits source = .ok result) ↔ edits.Pairwise Clear := by
  constructor
  · rintro ⟨result, h⟩
    obtain ⟨falling, hperm, hpairwise, -⟩ := applyAll_ok hbounds h
    exact (hperm.pairwise_iff Clear.symm).1 (hpairwise.imp .inr)
  · exact fun h => ⟨_, applyAll_eq_foldl h hbounds⟩

/-- An edit that is refused among edits that fall overlaps the one before it. -/
theorem exists_overlaps_of_applyOrdered {first : Edit} (hfirst : first.start ≤ first.stop)
    (hbounds : ∀ e ∈ edits, e.start ≤ e.stop) (hfalls : (first :: edits).Pairwise Falls)
    (h : applyOrdered (some first.start) edits source = .error e) :
    e ∈ edits ∧ ∃ f ∈ first :: edits, f.Overlaps e := by
  induction edits generalizing first source with
  | nil => cases h
  | cons second rest ih =>
    obtain ⟨hsecond, hrest⟩ := List.forall_mem_cons.1 hbounds
    obtain ⟨hfirsts, hfalls⟩ := List.pairwise_cons.1 hfalls
    simp only [applyOrdered, Option.any_some, decide_eq_true_eq] at h
    split at h
    · next hreaches =>
      obtain rfl : second = e := Except.error.inj h
      refine ⟨List.mem_cons_self, first, List.mem_cons_self, ?_⟩
      have hfall := hfirsts second List.mem_cons_self
      by_contra hoverlaps
      have := ((not_overlaps_iff hfirst hsecond).1 hoverlaps).stop_le hfall hfirst
      omega
    · obtain ⟨he, f, hf, hoverlaps⟩ := ih hsecond hrest hfalls h
      exact ⟨List.mem_cons_of_mem _ he, f, List.mem_cons_of_mem _ hf, hoverlaps⟩

/-- The edit that is refused overlaps another one. -/
theorem exists_overlaps_of_applyAll (hbounds : ∀ e ∈ edits, e.start ≤ e.stop)
    (h : applyAll edits source = .error e) : e ∈ edits ∧ ∃ f ∈ edits, f.Overlaps e := by
  have hp : (lastFirst edits).Perm edits := arrange_perm _ edits
  have hfalls := lastFirst_falls edits
  rw [applyAll] at h
  cases hordered : lastFirst edits with
  | nil => rw [hordered] at h; cases h
  | cons first rest =>
    rw [hordered] at h hp hfalls
    obtain ⟨hfirst, hrest⟩ := List.forall_mem_cons.1 fun f hf => hbounds f (hp.mem_iff.1 hf)
    obtain ⟨he, f, hf, hoverlaps⟩ := exists_overlaps_of_applyOrdered hfirst hrest hfalls h
    exact ⟨hp.mem_iff.1 (List.mem_cons_of_mem _ he), f, hp.mem_iff.1 hf, hoverlaps⟩

end Edit

/-! ## A splice in place -/

namespace Draft
open Edit
variable {parser : Parser} {d d' : Draft} {edits : List Edit}

/-- One step of a splice: an edit is made on a copy of the source, unless it reaches beyond the
start of the one made before it. -/
def spliceStep (copy : Bytes × Option Int) (e : Edit) :
    EStateM DraftError Draft (Bytes × Option Int) :=
  if copy.2.any (e.stop > ·) then throw (.overlap e) else pure (e.apply copy.1, some e.start)

/-- A splice on the draft at hand. The edits are made one by one on a copy of its source, from the
last to the first; then the copy takes the place of the source, it is parsed, and the change is
counted. -/
def spliceInPlace (parser : Parser) (edits : List Edit) : EStateM DraftError Draft Unit := do
  let (source, _) ← (lastFirst edits).foldlM spliceStep ((← get).source, none)
  modify fun d => { d with source }
  modify fun d => { d with root := parser d.language d.source }
  modify fun d => { d with edits := d.edits + 1 }

/-- While edits are made on the copy the draft stays as it is. -/
theorem run_foldlM_spliceStep (ordered : List Edit) (source : Bytes) (limit : Option Int)
    (d : Draft) :
    (Prod.fst <$> ordered.foldlM spliceStep (source, limit)).run d =
      match applyOrdered limit ordered source with
      | .ok source => .ok source d
      | .error e => .error (.overlap e) d := by
  induction ordered generalizing source limit with
  | nil => rfl
  | cons e es ih =>
    rw [List.foldlM_cons, applyOrdered, spliceStep]
    split
    · rfl
    · exact ih (e.apply source) (some e.start)

/-- The steps of a splice come to the splice as a whole. When that is refused the draft is left as
it was. -/
theorem run_spliceInPlace (parser : Parser) (edits : List Edit) (d : Draft) :
    (spliceInPlace parser edits).run d =
      match d.splice parser edits with
      | .ok d' => .ok () d'
      | .error error => .error error d := by
  have hcopy : (spliceInPlace parser edits).run d = (do
      let source ← Prod.fst <$> (lastFirst edits).foldlM spliceStep (d.source, none)
      modify fun d => { d with source }
      modify fun d => { d with root := parser d.language d.source }
      modify fun d => { d with edits := d.edits + 1 } : EStateM DraftError Draft Unit).run d := by
    simp only [map_eq_pure_bind, bind_assoc, pure_bind]
    rfl
  rw [hcopy, EStateM.run_bind, run_foldlM_spliceStep, splice, applyAll]
  cases applyOrdered none (lastFirst edits) d.source <;> rfl

/-- A splice fails only by the overlap of two edits. -/
theorem splice_eq_error {error : DraftError} :
    d.splice parser edits = .error error ↔
      ∃ e, error = .overlap e ∧ applyAll edits d.source = .error e := by
  rw [splice]
  cases applyAll edits d.source with
  | error e => simp [eq_comm]
  | ok source => simp

/-- A splice of edits inside the source is refused exactly when two of them overlap. The refusal
names one of these, and leaves the source, its parse and the number of changes as they were. -/
theorem spliceInPlace_refuses (parser : Parser) (hinside : ∀ e ∈ edits, e.Inside d.source) :
    ((∃ e, d.splice parser edits = .error (.overlap e)) ↔ Overlapping edits) ∧
      ((∃ error d', (spliceInPlace parser edits).run d = .error error d') ↔ Overlapping edits) ∧
      ∀ error d', (spliceInPlace parser edits).run d = .error error d' →
        d'.source = d.source ∧ d'.root = d.root ∧ d'.edits = d.edits ∧
          ∃ e ∈ edits, error = .overlap e ∧ ∃ f ∈ edits, f.Overlaps e := by
  have hbounds : ∀ e ∈ edits, e.start ≤ e.stop := fun e he => (hinside e he).ordered
  have hrefused : (∃ e, applyAll edits d.source = .error e) ↔ Overlapping edits := by
    rw [← not_iff_not, not_overlapping_iff hbounds, ← applyAll_eq_ok_iff d.source hbounds]
    cases applyAll edits d.source <;> simp
  have hrun {error : DraftError} {d' : Draft} :
      (spliceInPlace parser edits).run d = .error error d' ↔
        d.splice parser edits = .error error ∧ d' = d := by
    rw [run_spliceInPlace]
    cases d.splice parser edits <;> simp [eq_comm]
  refine ⟨?_, ?_, fun error d' h => ?_⟩
  · rw [← hrefused]
    simp [splice_eq_error]
  · rw [← hrefused]
    simp [hrun, splice_eq_error]
  · obtain ⟨hsplice, rfl⟩ := hrun.1 h
    obtain ⟨e, rfl, happly⟩ := splice_eq_error.1 hsplice
    obtain ⟨he, hoverlaps⟩ := exists_overlaps_of_applyAll hbounds happly
    exact ⟨rfl, rfl, rfl, e, he, rfl, hoverlaps⟩

/-! ## A declaration -/

/-- A parser that takes every text for a program of one node. -/
def wholeParser : Parser := fun _ source =>
  ⟨"program", true, false, 0, source.length, none, []⟩

/-- The draft of a declaration. -/
def declarationDraft : Draft :=
  .ofSource wholeParser .tsx none (Bytes.ofString "const a = b;")

/-- A word replaced, with insertions at its ends and one strictly within it. -/
def crossedEdits : List Edit :=
  [⟨0, 5, "let"⟩, .insertion 5 " ", .insertion 3 "x", .insertion 0 " "]

/-- The insertion within the word is refused, and the declaration stays. -/
theorem spliceInPlace_crossedEdits :
    (∀ e ∈ crossedEdits, e.Inside declarationDraft.source) ∧
      ∃ error d', (spliceInPlace wholeParser crossedEdits).run declarationDraft = .error error d' ∧
        d'.source = declarationDraft.source ∧ d'.root = declarationDraft.root ∧
        d'.edits = declarationDraft.edits := by
  have hinside : ∀ e ∈ crossedEdits, e.Inside declarationDraft.source := by
    have hlength : declarationDraft.source.length = 12 := by decide
    simp only [crossedEdits, List.forall_mem_cons]
    refine ⟨?_, ?_, ?_, ?_, List.forall_mem_nil _⟩ <;> constructor <;>
      simp [insertion, hlength]
  have hoverlap : Overlapping crossedEdits :=
    ⟨⟨0, by decide⟩, ⟨2, by decide⟩, Fin.ne_of_val_ne (by decide),
      .inr (.inr ⟨rfl, by decide, by decide⟩)⟩
  obtain ⟨-, hrefused, hkept⟩ := spliceInPlace_refuses wholeParser hinside
  obtain ⟨error, d', hrun⟩ := hrefused.2 hoverlap
  obtain ⟨hsource, hroot, hedits, -⟩ := hkept error d' hrun
  exact ⟨hinside, error, d', hrun, hsource, hroot, hedits⟩

end Draft

end Sabotage
