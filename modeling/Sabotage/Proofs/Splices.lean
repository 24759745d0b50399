import Sabotage.Edit

/-!
# Splices of edits that keep clear of each other

Two edits keep clear of each other when one ends before the other begins, or where it begins
(`Edit.Clear`). Edits that all keep clear of each other are never refused, and carrying them out
at once is carrying them out one by one, from the last to the first (`Edit.applyAll_eq_foldl`). When
edits with equal bounds are equal, the order they are listed in does not count, and any listing of
them that falls is the one that is carried out (`Edit.lastFirst_eq`).
-/

namespace Sabotage

/-! ## Arranged items -/

section
variable {α : Type} {precedes : α → α → Bool}

/-- Placing an item keeps a list in order. -/
theorem place_sorted (htrans : ∀ a b c, precedes a b → precedes b c → precedes a c)
    (hirrefl : ∀ a, precedes a a = false) (x : α) {xs : List α}
    (h : xs.Pairwise fun a b => precedes b a = false) :
    (place precedes x xs).Pairwise fun a b => precedes b a = false := by
  induction xs with
  | nil => simp [place]
  | cons y ys ih =>
    obtain ⟨hy, hys⟩ := List.pairwise_cons.1 h
    simp only [place]
    split
    · next hxy =>
      refine List.pairwise_cons.2 ⟨List.forall_mem_cons.2 ⟨?_, fun z hz => ?_⟩, h⟩
      · exact Bool.eq_false_iff.2 fun hyx => Bool.eq_false_iff.1 (hirrefl x) (htrans _ _ _ hxy hyx)
      · exact Bool.eq_false_iff.2 fun hzx => Bool.eq_false_iff.1 (hy z hz) (htrans _ _ _ hzx hxy)
    · next hxy =>
      refine List.pairwise_cons.2 ⟨fun z hz => ?_, ih hys⟩
      rcases List.mem_cons.1 ((place_perm precedes x ys).mem_iff.1 hz) with rfl | hz
      · simpa using hxy
      · exact hy z hz

/-- Arranged items are in order. -/
theorem arrange_sorted (htrans : ∀ a b c, precedes a b → precedes b c → precedes a c)
    (hirrefl : ∀ a, precedes a a = false) (xs : List α) :
    (arrange precedes xs).Pairwise fun a b => precedes b a = false := by
  suffices h : ∀ done : List α, done.Pairwise (fun a b => precedes b a = false) →
      (xs.foldl (fun done x => place precedes x done) done).Pairwise
        fun a b => precedes b a = false from h [] .nil
  induction xs with
  | nil => exact fun done h => h
  | cons x xs ih => exact fun done h => ih (place precedes x done) (place_sorted htrans hirrefl x h)

/-- Placing an item keeps the order of the others. -/
theorem sublist_place (precedes : α → α → Bool) (x : α) (xs : List α) :
    xs.Sublist (place precedes x xs) := by
  induction xs with
  | nil => exact List.nil_sublist _
  | cons y ys ih =>
    rw [place]
    split
    · exact List.sublist_cons_self x _
    · exact ih.cons_cons y

/-- An item is placed behind all that it does not have to precede, in a list in order. -/
theorem pair_sublist_place (hneg : ∀ a b c, precedes a c → precedes a b ∨ precedes b c) {a x : α}
    {xs : List α} (h : xs.Pairwise fun a b => precedes b a = false) (ha : a ∈ xs)
    (hax : precedes x a = false) : [a, x].Sublist (place precedes x xs) := by
  induction xs with
  | nil => cases ha
  | cons y ys ih =>
    obtain ⟨hy, hys⟩ := List.pairwise_cons.1 h
    rw [place]
    split
    · next hxy =>
      -- What stands behind an item that `x` has to precede has to come behind `x` too.
      rcases List.mem_cons.1 ha with rfl | ha
      · exact absurd hxy (Bool.eq_false_iff.1 hax)
      · rcases hneg x a y hxy with hxa | hay
        · exact absurd hxa (Bool.eq_false_iff.1 hax)
        · exact absurd hay (Bool.eq_false_iff.1 (hy a ha))
    · rcases List.mem_cons.1 ha with rfl | ha
      · refine List.Sublist.cons_cons _ (List.singleton_sublist.2 ?_)
        exact (place_perm precedes x ys).mem_iff.2 List.mem_cons_self
      · exact (ih hys ha).cons y

/-- Items of which the second does not have to come first keep their order when they are
arranged. -/
theorem pair_sublist_arrange (htrans : ∀ a b c, precedes a b → precedes b c → precedes a c)
    (hirrefl : ∀ a, precedes a a = false)
    (hneg : ∀ a b c, precedes a c → precedes a b ∨ precedes b c) {a b : α} {xs : List α}
    (h : [a, b].Sublist xs) (hab : precedes b a = false) :
    [a, b].Sublist (arrange precedes xs) := by
  suffices hgen : ∀ done : List α, done.Pairwise (fun a b => precedes b a = false) →
      ([a, b].Sublist done ∨ (a ∈ done ∧ b ∈ xs) ∨ [a, b].Sublist xs) →
      [a, b].Sublist (xs.foldl (fun done x => place precedes x done) done) from
    hgen [] .nil (.inr (.inr h))
  clear h
  induction xs with
  | nil =>
    rintro done - (h | ⟨-, h⟩ | h)
    · exact h
    · cases h
    · cases h
  | cons x xs ih =>
    intro done hdone h
    refine ih _ (place_sorted htrans hirrefl x hdone) ?_
    rcases h with h | ⟨ha, hb⟩ | h
    · exact .inl (h.trans (sublist_place precedes x done))
    · rcases List.mem_cons.1 hb with rfl | hb
      · exact .inl (pair_sublist_place hneg hdone ha hab)
      · exact .inr (.inl ⟨(sublist_place precedes x done).subset ha, hb⟩)
    · cases h with
      | cons _ h => exact .inr (.inr h)
      | cons_cons _ h =>
        exact .inr (.inl ⟨(place_perm precedes a done).mem_iff.2 List.mem_cons_self,
          List.singleton_sublist.1 h⟩)

end

namespace Edit
variable {edits : List Edit}

/-! ## Falling edits -/

/-- The second edit does not stand after the first. -/
def Falls (e f : Edit) : Prop :=
  f.start < e.start ∨ (f.start = e.start ∧ f.stop ≤ e.stop)

/-- What does not precede falls. -/
theorem falls_iff {e f : Edit} : Falls e f ↔ precedes e f = false := by
  simp only [Falls, precedes, Bool.or_eq_false_iff, Bool.and_eq_false_iff, decide_eq_false_iff_not,
    beq_eq_false_iff_ne]
  omega

/-- Edits from the last to the first fall. -/
theorem lastFirst_falls (edits : List Edit) : (lastFirst edits).Pairwise Falls := by
  have hsorted : (lastFirst edits).Pairwise fun e f => precedes e f = false := by
    refine arrange_sorted ?_ ?_ edits
    · intro a b c
      simp only [precedes, Bool.or_eq_true, Bool.and_eq_true, decide_eq_true_eq, beq_iff_eq]
      omega
    · intro a
      simp [precedes]
  exact hsorted.imp falls_iff.2

/-- From the last to the first, edits with equal bounds keep the order they are listed in. -/
theorem pair_sublist_lastFirst {e f : Edit} (h : [e, f].Sublist edits) (hstart : e.start = f.start)
    (hstop : e.stop = f.stop) : [e, f].Sublist (lastFirst edits) := by
  refine pair_sublist_arrange ?_ ?_ ?_ h ?_
  · intro a b c
    simp only [precedes, Bool.or_eq_true, Bool.and_eq_true, decide_eq_true_eq, beq_iff_eq]
    omega
  · intro a
    simp [precedes]
  · intro a b c
    simp only [precedes, Bool.or_eq_true, Bool.and_eq_true, decide_eq_true_eq, beq_iff_eq]
    omega
  · simp [precedes, hstart, hstop]

/-- A falling listing of edits is the one from the last to the first, when edits with equal bounds
are equal. -/
theorem lastFirst_eq {falling : List Edit} (hperm : falling.Perm edits)
    (hfalls : falling.Pairwise Falls)
    (heq : ∀ e ∈ edits, ∀ f ∈ edits, e.start = f.start → e.stop = f.stop → e = f) :
    lastFirst edits = falling := by
  have hp : (lastFirst edits).Perm edits := arrange_perm _ edits
  have hantisymm : ∀ e f, e ∈ lastFirst edits → f ∈ falling → Falls e f → Falls f e → e = f := by
    intro e f he hf hef hfe
    simp only [Falls] at hef hfe
    exact heq e (hp.mem_iff.1 he) f (hperm.mem_iff.1 hf) (by omega) (by omega)
  exact (hp.trans hperm.symm).eq_of_pairwise hantisymm (lastFirst_falls edits) hfalls

/-! ## Clear edits -/

/-- One of two edits ends before the other begins, or where it begins. -/
def Clear (e f : Edit) : Prop :=
  e.stop ≤ f.start ∨ f.stop ≤ e.start

/-- Being clear does not depend on the order. -/
theorem Clear.symm {e f : Edit} (h : Clear e f) : Clear f e :=
  h.elim .inr .inl

/-- Two insertions are clear. -/
theorem clear_insertion (i j : Int) (s t : String) : Clear (insertion i s) (insertion j t) :=
  (Int.le_total i j).imp id id

/-- Clear edits that fall end one before the other. -/
theorem Clear.stop_le {e f : Edit} (h : Clear e f) (hfalls : Falls e f) (he : e.start ≤ e.stop) :
    f.stop ≤ e.start := by
  simp only [Clear, Falls] at h hfalls
  omega

/-- Edits that end one before the other are carried out in order. -/
theorem applyOrdered_eq_foldl {limit : Option Int} {source : Bytes}
    (h : edits.Pairwise fun e f => f.stop ≤ e.start)
    (hlimit : ∀ l ∈ limit, ∀ e ∈ edits, e.stop ≤ l) :
    applyOrdered limit edits source = .ok (edits.foldl (fun bytes e => e.apply bytes) source) := by
  induction edits generalizing limit source with
  | nil => rfl
  | cons e es ih =>
    obtain ⟨hfirst, hrest⟩ := List.pairwise_cons.1 h
    have hclear : limit.any (e.stop > ·) = false := by
      cases limit with
      | none => rfl
      | some l => simpa using hlimit l rfl e List.mem_cons_self
    simp only [applyOrdered, hclear, Bool.false_eq_true, ↓reduceIte, List.foldl_cons]
    refine ih hrest fun l hl f hf => ?_
    cases hl
    exact hfirst f hf

/-- From the last to the first, clear edits end one before the other. -/
theorem lastFirst_clear (hclear : edits.Pairwise Clear) (hbounds : ∀ e ∈ edits, e.start ≤ e.stop) :
    (lastFirst edits).Pairwise fun e f => f.stop ≤ e.start := by
  have hp : (lastFirst edits).Perm edits := arrange_perm _ edits
  have hboth := (hp.pairwise_iff Clear.symm).2 hclear |>.and (lastFirst_falls edits)
  refine hboth.imp_of_mem fun he _ h => ?_
  exact h.1.stop_le h.2 (hbounds _ (hp.mem_iff.1 he))

/-- Clear edits are carried out one by one, from the last to the first. -/
theorem applyAll_eq_foldl {source : Bytes} (hclear : edits.Pairwise Clear)
    (hbounds : ∀ e ∈ edits, e.start ≤ e.stop) :
    applyAll edits source =
      .ok ((lastFirst edits).foldl (fun bytes e => e.apply bytes) source) :=
  applyOrdered_eq_foldl (lastFirst_clear hclear hbounds) nofun

/-- Edits of which a listing is known where each ends before the one listed before it begins are
carried out in the order of that listing. -/
theorem applyAll_eq_foldl_of_perm {falling : List Edit} {source : Bytes}
    (hperm : falling.Perm edits) (hstop : falling.Pairwise fun e f => f.stop ≤ e.start)
    (hbounds : ∀ e ∈ edits, e.start ≤ e.stop)
    (heq : ∀ e ∈ edits, ∀ f ∈ edits, e.start = f.start → e.stop = f.stop → e = f) :
    applyAll edits source = .ok (falling.foldl (fun bytes e => e.apply bytes) source) := by
  have hfalls : falling.Pairwise Falls := by
    refine hstop.imp_of_mem fun {e f} he hf h => ?_
    have he := hbounds e (hperm.mem_iff.1 he)
    have hf := hbounds f (hperm.mem_iff.1 hf)
    simp only [Falls]
    omega
  rw [applyAll, lastFirst_eq hperm hfalls heq]
  exact applyOrdered_eq_foldl hstop nofun

/-! ## One edit -/

/-- An edit replaces what stands between what is before and after it. -/
theorem apply_append {before replaced after : Bytes} {start stop : Nat}
    (hstart : start = before.length) (hstop : stop = start + replaced.length) (new : String) :
    apply ⟨start, stop, new⟩ (before ++ replaced ++ after) =
      before ++ Bytes.ofString new ++ after := by
  have hle : start ≤ (before ++ replaced ++ after).length := by simp; omega
  have hle' : stop ≤ (before ++ replaced ++ after).length := by simp; omega
  simp only [apply, clampBound_natCast hle, clampBound_natCast hle']
  congr 1
  · rw [List.append_assoc, List.take_left' hstart.symm]
  · exact List.drop_left' (by simp [hstop, hstart])

/-- An insertion that may be left out puts its text, or nothing, at its place. -/
theorem foldl_insertion {before after : Bytes} {offset : Nat} (h : offset = before.length)
    (new : String) (needed : Bool) :
    (if needed then [insertion offset new] else []).foldl (fun bytes e => e.apply bytes)
        (before ++ after) =
      before ++ ((if needed then Bytes.ofString new else []) ++ after) := by
  cases needed with
  | false => rfl
  | true =>
    have happly : (insertion offset new).apply (before ++ [] ++ after) =
        before ++ Bytes.ofString new ++ after := apply_append h (by simp) new
    simpa using happly

end Edit

end Sabotage
