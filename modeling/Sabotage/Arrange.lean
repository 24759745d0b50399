/-!
# Stable arrangement

`arrange precedes` sorts a list by a relation that says which of two items has to come first; items
of which neither has to come first keep their order.
-/

namespace Sabotage

variable {α : Type}

/-- Puts an item before the first one of a list that it precedes. -/
def place (precedes : α → α → Bool) (x : α) : List α → List α
  | [] => [x]
  | y :: ys => if precedes x y then x :: y :: ys else y :: place precedes x ys

/-- The items in order. -/
def arrange (precedes : α → α → Bool) (xs : List α) : List α :=
  xs.foldl (fun done x => place precedes x done) []

/-- Placing an item adds it and drops none. -/
theorem place_perm (precedes : α → α → Bool) (x : α) (xs : List α) :
    (place precedes x xs).Perm (x :: xs) := by
  induction xs with
  | nil => exact .refl _
  | cons y ys ih =>
    simp only [place]
    split
    · exact .refl _
    · exact (List.Perm.cons y ih).trans (.swap x y ys)

/-- Arranging keeps the items. -/
theorem arrange_perm (precedes : α → α → Bool) (xs : List α) : (arrange precedes xs).Perm xs := by
  suffices h : ∀ done, (xs.foldl (fun done x => place precedes x done) done).Perm (done ++ xs) by
    simpa [arrange] using h []
  induction xs with
  | nil => intro done; simp
  | cons x xs ih =>
    intro done
    refine (ih _).trans ?_
    refine (List.Perm.append_right xs (place_perm precedes x done)).trans ?_
    simpa using (@List.perm_middle _ x done xs).symm

/-- Placing among items that stand for others is placing among those. -/
theorem place_map {β : Type} (precedes : β → β → Bool) (f : α → β) (x : α) (xs : List α) :
    place precedes (f x) (xs.map f) = (place (fun a b => precedes (f a) (f b)) x xs).map f := by
  induction xs with
  | nil => rfl
  | cons y ys ih =>
    simp only [List.map_cons, place, ih]
    split <;> rfl

/-- Arranging items that stand for others is arranging those. -/
theorem arrange_map {β : Type} (precedes : β → β → Bool) (f : α → β) (xs : List α) :
    arrange precedes (xs.map f) = (arrange (fun a b => precedes (f a) (f b)) xs).map f := by
  suffices h : ∀ done, (xs.map f).foldl (fun done x => place precedes x done) (done.map f)
      = (xs.foldl (fun done x => place (fun a b => precedes (f a) (f b)) x done) done).map f from
    h []
  induction xs with
  | nil => exact fun done => rfl
  | cons x xs ih =>
    intro done
    rw [List.map_cons, List.foldl_cons, List.foldl_cons, place_map, ih]

/-- An item is placed alike by relations that agree on it. -/
theorem place_congr {precedes precedes' : α → α → Bool} {x : α} {xs : List α}
    (h : ∀ y ∈ xs, precedes x y = precedes' x y) : place precedes x xs = place precedes' x xs := by
  induction xs with
  | nil => rfl
  | cons y ys ih =>
    obtain ⟨hy, hys⟩ := List.forall_mem_cons.1 h
    rw [place, place, hy, ih hys]

/-- Items are arranged alike by relations that agree on them. -/
theorem arrange_congr {precedes precedes' : α → α → Bool} {xs : List α}
    (hagree : ∀ x ∈ xs, ∀ y ∈ xs, precedes x y = precedes' x y) :
    arrange precedes xs = arrange precedes' xs := by
  suffices h : ∀ done, (∀ x ∈ xs, ∀ y ∈ done ++ xs, precedes x y = precedes' x y) →
      xs.foldl (fun done x => place precedes x done) done
        = xs.foldl (fun done x => place precedes' x done) done from h [] hagree
  clear hagree
  induction xs with
  | nil => exact fun done h => rfl
  | cons x xs ih =>
    intro done h
    obtain ⟨hx, hxs⟩ := List.forall_mem_cons.1 h
    have hplace : place precedes x done = place precedes' x done :=
      place_congr fun y hy => hx y (List.mem_append_left _ hy)
    rw [List.foldl_cons, List.foldl_cons, hplace]
    refine ih _ fun y hy z hz => hxs y hy z ?_
    rcases List.mem_append.1 hz with hz | hz
    · rcases List.mem_cons.1 ((place_perm _ _ _).mem_iff.1 hz) with rfl | hz
      · simp
      · exact List.mem_append_left _ hz
    · exact List.mem_append_right _ (List.mem_cons_of_mem _ hz)

end Sabotage
