import Sabotage.Proofs.Overlaps

/-!
# A splice as a patchwork

Edits that do not overlap are made at once: the source is taken apart into the stretches between the
edits and what these replace, and the result is put together from the same stretches and the texts
of the edits (`Edit.Patchwork`). The edits stand in the order of their places (`Edit.Listed`): an
insertion at the start of a range that is replaced comes before it, one at its end after it, and of
two insertions at one offset the one listed later comes first. The source is edited from the back
with the offsets it had at the start. These stay right, as what lies before the edit made last is as
it was (`Edit.exists_patchwork`). A splice is such a patchwork, and the order in which its edits are
listed counts for nothing but insertions at one offset (`Draft.splice_patchwork`).
-/

namespace Sabotage

/-- Of two items of a list one stands before the other; when that one may not come first, it is the
other that does. -/
theorem pair_sublist_of_pairwise {α : Type} {R : α → α → Prop} {a b : α} {xs : List α}
    (h : xs.Pairwise R) (ha : a ∈ xs) (hb : b ∈ xs) (hne : a ≠ b) (hba : ¬R b a) :
    [a, b].Sublist xs := by
  induction xs with
  | nil => cases ha
  | cons x xs ih =>
    obtain ⟨hx, hxs⟩ := List.pairwise_cons.1 h
    rcases List.mem_cons.1 ha with rfl | ha
    · have hb : b ∈ xs := (List.mem_cons.1 hb).resolve_left (Ne.symm hne)
      exact (List.singleton_sublist.2 hb).cons_cons a
    · rcases List.mem_cons.1 hb with hb | hb
      · exact absurd (hx a ha) (hb ▸ hba)
      · exact (ih hxs ha hb).cons x

namespace Edit
variable {source : Bytes} {e f : Edit} {edits rising : List Edit}

/-! ## Patchworks -/

/-- Edits made at once, in the order of their places. The source, from an offset on, is a stretch
that stays, what the first edit takes out, and a rest; the result is this stretch, the text of the
edit, and what the other edits make of the rest. -/
inductive Patchwork : Nat → List Edit → Bytes → Bytes → Prop
  /-- No edit is left, and what is left of the source stays. -/
  | last {offset : Nat} (gap : Bytes) : Patchwork offset [] gap gap
  /-- The offset of an edit is where the stretch before it ends. -/
  | patch {offset : Nat} {gap old rest result : Bytes} {e : Edit} {edits : List Edit} :
      e.start = (offset + gap.length : Nat) → e.stop = (offset + gap.length + old.length : Nat) →
      Patchwork (offset + gap.length + old.length) edits rest result →
      Patchwork offset (e :: edits) (gap ++ old ++ rest) (gap ++ Bytes.ofString e.text ++ result)

/-- A listing of edits in the order of their places. -/
structure Listed (edits rising : List Edit) : Prop where
  perm : rising.Perm edits
  /-- An insertion at the start of a range that is replaced comes before it. -/
  before_range : ∀ i ∈ edits, ∀ r ∈ edits, i.start = i.stop → r.start < r.stop →
    i.start = r.start → [i, r].Sublist rising
  /-- An insertion at the end of a range that is replaced comes after it. -/
  after_range : ∀ i ∈ edits, ∀ r ∈ edits, i.start = i.stop → r.start < r.stop →
    i.start = r.stop → [r, i].Sublist rising
  /-- Of two insertions at one offset the one listed later comes first. -/
  later_first : ∀ i j, [i, j].Sublist edits → i.start = i.stop → j.start = j.stop →
    i.start = j.start → [j, i].Sublist rising

/-- Insertions are made at different offsets. -/
def InsertsApart (edits : List Edit) : Prop :=
  edits.Pairwise fun e f => e.start = e.stop → f.start = f.stop → e.start ≠ f.start

/-- What follows an offset before an edit is the stretch up to the edit, what this takes out, and
what stands behind it. -/
theorem Inside.drop_eq {offset : Nat} (h : e.Inside source) (hle : offset ≤ e.start) :
    source.drop offset = (source.take e.start.toNat).drop offset ++ e.removed source ++
      source.drop e.stop.toNat := by
  conv_lhs => rw [h.split]
  obtain ⟨hnonneg, hordered, hwithin⟩ := h
  have hlength : offset ≤ (source.take e.start.toNat).length := by
    rw [List.length_take]
    omega
  rw [List.append_assoc, List.drop_append_of_le_length hlength, ← List.append_assoc]

/-- An edit takes out as many bytes as lie between its bounds. -/
theorem Inside.length_removed (h : e.Inside source) :
    (e.removed source).length = e.stop.toNat - e.start.toNat := by
  obtain ⟨hnonneg, hordered, hwithin⟩ := h
  rw [removed, Bytes.cut, List.length_take, List.length_drop]
  omega

/-- An edit of a source that is as it was up to the end of the edit. -/
theorem Inside.apply_take_append (h : e.Inside source) (rest : Bytes) :
    e.apply (source.take e.stop.toNat ++ rest) =
      source.take e.start.toNat ++ Bytes.ofString e.text ++ rest := by
  obtain ⟨hnonneg, hordered, hwithin⟩ := h
  have hlength : (source.take e.stop.toNat).length = e.stop.toNat := by
    rw [List.length_take]
    omega
  have hinside : e.Inside (source.take e.stop.toNat ++ rest) := by
    refine ⟨hnonneg, hordered, ?_⟩
    rw [List.length_append, hlength]
    omega
  rw [hinside.apply_eq, List.drop_left' hlength, List.take_append_of_le_length (by omega),
    List.take_take, Nat.min_eq_left (by omega)]

/-- Edits of which each ends before the next begins, made from the last to the first, leave what
stands before the first of them as it was and put a patchwork behind it. -/
theorem exists_patchwork (offset : Nat) (hrising : rising.Pairwise fun e f => e.stop ≤ f.start)
    (hinside : ∀ e ∈ rising, e.Inside source) (hoffset : ∀ e ∈ rising, offset ≤ e.start) :
    ∃ result, Patchwork offset rising (source.drop offset) result ∧
      rising.foldr (fun e bytes => e.apply bytes) source = source.take offset ++ result := by
  induction rising generalizing offset with
  | nil => exact ⟨_, .last _, (List.take_append_drop offset source).symm⟩
  | cons e rest ih =>
    obtain ⟨hfirst, hrest⟩ := List.pairwise_cons.1 hrising
    obtain ⟨he, hinside⟩ := List.forall_mem_cons.1 hinside
    have hstart := hoffset e List.mem_cons_self
    have hnonneg := he.nonneg
    have hordered := he.ordered
    have hwithin := he.within
    have hbehind : ∀ f ∈ rest, e.stop.toNat ≤ f.start := by
      intro f hf
      have := hfirst f hf
      omega
    obtain ⟨result, hpatchwork, hfold⟩ := ih e.stop.toNat hrest hinside hbehind
    have hrange := he.length_removed
    have hsource := he.drop_eq hstart
    have htake : source.take offset ++ (source.take e.start.toNat).drop offset =
        source.take e.start.toNat := by
      have hle : offset ≤ e.start.toNat := by omega
      conv_rhs => rw [← List.take_append_drop offset (source.take e.start.toNat)]
      rw [List.take_take, Nat.min_eq_left hle]
    set gap := (source.take e.start.toNat).drop offset with hgap
    have hlength : gap.length = e.start.toNat - offset := by
      rw [hgap, List.length_drop, List.length_take]
      omega
    have hstop : e.stop.toNat = offset + gap.length + (e.removed source).length := by omega
    refine ⟨gap ++ Bytes.ofString e.text ++ result, ?_, ?_⟩
    · rw [hsource]
      exact .patch (by omega) (by omega) (hstop ▸ hpatchwork)
    · calc (e :: rest).foldr (fun e bytes => e.apply bytes) source
          = e.apply (source.take e.stop.toNat ++ result) := congrArg e.apply hfold
        _ = source.take e.start.toNat ++ Bytes.ofString e.text ++ result :=
          he.apply_take_append result
        _ = source.take offset ++ (gap ++ Bytes.ofString e.text ++ result) := by
          rw [← htake, List.append_assoc, List.append_assoc, List.append_assoc]

/-! ## Listings -/

/-- Read backwards, the edits from the last to the first stand in the order of their places. -/
theorem listed_reverse (hclear : edits.Pairwise Clear) (hbounds : ∀ e ∈ edits, e.start ≤ e.stop) :
    Listed edits (lastFirst edits).reverse := by
  have hperm : (lastFirst edits).reverse.Perm edits :=
    (List.reverse_perm _).trans (arrange_perm _ edits)
  have hrising : (lastFirst edits).reverse.Pairwise fun e f => e.stop ≤ f.start :=
    List.pairwise_reverse.2 (lastFirst_clear hclear hbounds)
  constructor
  · exact hperm
  · intro i hi r hr hinsertion hrange hstart
    have hne : i ≠ r := by
      rintro rfl
      omega
    exact pair_sublist_of_pairwise hrising (hperm.mem_iff.2 hi) (hperm.mem_iff.2 hr) hne (by omega)
  · intro i hi r hr hinsertion hrange hstop
    have hne : r ≠ i := by
      rintro rfl
      omega
    exact pair_sublist_of_pairwise hrising (hperm.mem_iff.2 hr) (hperm.mem_iff.2 hi) hne (by omega)
  · intro i j hlisted hi hj hstart
    exact (pair_sublist_lastFirst hlisted hstart (by omega)).reverse

/-- Clear edits whose insertions are apart have different bounds. -/
theorem InsertsApart.eq_of_bounds (happart : InsertsApart edits) (hclear : edits.Pairwise Clear)
    (hbounds : ∀ e ∈ edits, e.start ≤ e.stop) :
    ∀ e ∈ edits, ∀ f ∈ edits, e.start = f.start → e.stop = f.stop → e = f := by
  intro e he f hf hstart hstop
  by_contra hne
  have hboth := hclear.and happart
  let : Std.Symm fun e f : Edit =>
      Clear e f ∧ (e.start = e.stop → f.start = f.stop → e.start ≠ f.start) :=
    ⟨fun a b h => ⟨h.1.symm, fun ha hb => (h.2 hb ha).symm⟩⟩
  obtain ⟨hclear, happart⟩ := hboth.forall he hf hne
  have := hbounds e he
  -- Two edits with equal bounds that are clear of each other are insertions.
  simp only [Clear] at hclear
  exact happart (by omega) (by omega) hstart

end Edit

/-! ## The result of a splice -/

namespace Draft
open Edit
variable {d : Draft} {edits : List Edit}

/-- Edits inside the source that do not overlap are spliced into it as a patchwork, in the order of
their places; the order in which they are listed does not count when insertions are apart. -/
theorem splice_patchwork (parser : Parser) (hinside : ∀ e ∈ edits, e.Inside d.source)
    (hclear : ¬Overlapping edits) :
    (∃ rising result, Listed edits rising ∧ Patchwork 0 rising d.source result ∧
      d.splice parser edits = .ok { d with
        source := result, root := parser d.language result, edits := d.edits + 1 }) ∧
      (InsertsApart edits → ∀ listing : List Edit, listing.Perm edits →
        d.splice parser listing = d.splice parser edits) := by
  have hbounds : ∀ e ∈ edits, e.start ≤ e.stop := fun e he => (hinside e he).ordered
  have hclear := (not_overlapping_iff hbounds).1 hclear
  constructor
  · have hlisted := listed_reverse hclear hbounds
    have hrising := List.pairwise_reverse.2 (lastFirst_clear hclear hbounds)
    have hinside' : ∀ e ∈ (lastFirst edits).reverse, e.Inside d.source :=
      fun e he => hinside e (hlisted.perm.mem_iff.1 he)
    obtain ⟨result, hpatchwork, hfold⟩ :=
      exists_patchwork 0 hrising hinside' fun e he => (hinside' e he).nonneg
    refine ⟨_, result, hlisted, hpatchwork, ?_⟩
    rw [List.foldr_reverse] at hfold
    simp only [splice, applyAll_eq_foldl hclear hbounds, hfold]
    rfl
  · intro happart listing hperm
    have horder : lastFirst listing = lastFirst edits := by
      refine lastFirst_eq ((arrange_perm _ edits).trans hperm.symm) (lastFirst_falls edits) ?_
      intro e he f hf
      exact happart.eq_of_bounds hclear hbounds e (hperm.mem_iff.1 he) f (hperm.mem_iff.1 hf)
    rw [splice, splice, applyAll, applyAll, horder]

/-- Two words replaced, with insertions at both ends of the first. -/
def touchingEdits : List Edit :=
  [⟨6, 7, "left"⟩, .insertion 7 ">", ⟨10, 11, "right"⟩, .insertion 6 "<"]

/-- The insertions come to stand around the first word, in whatever order they are listed. -/
theorem splice_touchingEdits :
    (∀ e ∈ touchingEdits, e.Inside declarationDraft.source) ∧ ¬Overlapping touchingEdits ∧
      InsertsApart touchingEdits ∧
      (∃ rising, Listed touchingEdits rising ∧ Patchwork 0 rising declarationDraft.source
        (Bytes.ofString "const <left> = right;")) ∧
      declarationDraft.splice wholeParser touchingEdits.reverse =
        declarationDraft.splice wholeParser touchingEdits := by
  have hinside : ∀ e ∈ touchingEdits, e.Inside declarationDraft.source := by
    have hlength : declarationDraft.source.length = 12 := by decide
    simp only [touchingEdits, List.forall_mem_cons]
    refine ⟨?_, ?_, ?_, ?_, List.forall_mem_nil _⟩ <;> constructor <;>
      simp [insertion, hlength]
  have hclear : ¬Overlapping touchingEdits := by
    refine (not_overlapping_iff fun e he => (hinside e he).ordered).2 ?_
    simp [touchingEdits, Clear, insertion]
  have happart : InsertsApart touchingEdits := by
    simp [touchingEdits, InsertsApart, insertion]
  have hsource : (declarationDraft.splice wholeParser touchingEdits).map Draft.source =
      .ok (Bytes.ofString "const <left> = right;") := by
    rfl
  obtain ⟨⟨rising, result, hlisted, hpatchwork, hsplice⟩, horder⟩ :=
    splice_patchwork wholeParser hinside hclear
  rw [hsplice] at hsource
  obtain rfl := Except.ok.inj hsource
  exact ⟨hinside, hclear, happart, ⟨rising, hlisted, hpatchwork⟩,
    horder happart _ (List.reverse_perm _)⟩

end Draft

end Sabotage
