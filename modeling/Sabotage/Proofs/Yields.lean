/-!
# Computations that end in a value

`Yields p x` says that a computation `x` ends without an error, in a value with the property `p`;
`Grants p x` says the same of the value when there is one. Each way of putting computations together
has its rule, so that what a chain of computations yields or grants is read off step by step.
-/

namespace Sabotage

/-- A computation ends in a value with a property. -/
def Yields {ε α : Type} (p : α → Prop) (x : Except ε α) : Prop :=
  ∃ a, x = .ok a ∧ p a

namespace Yields
variable {ε α β : Type} {p : α → Prop} {q : β → Prop}

/-- A value yields what holds of it. -/
theorem ok {a : α} (h : p a) : Yields (ε := ε) p (.ok a) :=
  ⟨a, rfl, h⟩

/-- What yields a property yields whatever follows from it. -/
theorem mono {p' : α → Prop} {x : Except ε α} (h : Yields p x) (hp : ∀ a, p a → p' a) :
    Yields p' x := by
  obtain ⟨a, rfl, ha⟩ := h
  exact ⟨a, rfl, hp a ha⟩

/-- A computation goes on with what the one before it yields. -/
theorem bind {x : Except ε α} {f : α → Except ε β} (h : Yields p x)
    (hf : ∀ a, p a → Yields q (f a)) : Yields q (x >>= f) := by
  obtain ⟨a, rfl, ha⟩ := h
  exact hf a ha

/-- A function takes what a computation yields further. -/
theorem map {x : Except ε α} {f : α → β} (h : Yields p x) (hf : ∀ a, p a → q (f a)) :
    Yields q (x.map f) := by
  obtain ⟨a, rfl, ha⟩ := h
  exact ⟨f a, rfl, hf a ha⟩

/-- When a search yields at every item, it yields, and what it finds was yielded at one. -/
theorem findSomeM? {f : α → Except ε (Option β)} {xs : List α}
    (h : ∀ a ∈ xs, Yields (fun found => ∀ b ∈ found, q b) (f a)) :
    Yields (fun found => ∀ b ∈ found, q b) (xs.findSomeM? f) := by
  induction xs with
  | nil => exact ok nofun
  | cons x xs ih =>
    refine (h x List.mem_cons_self).bind fun found hfound => ?_
    cases found with
    | none => exact ih fun a ha => h a (List.mem_cons_of_mem _ ha)
    | some b => exact ok hfound

/-- When a computation yields at every item, so it does over the whole list. -/
theorem mapM {f : α → Except ε β} {xs : List α} (h : ∀ a ∈ xs, Yields q (f a)) :
    Yields (fun bs => ∀ b ∈ bs, q b) (xs.mapM f) := by
  induction xs with
  | nil => exact ok nofun
  | cons x xs ih =>
    rw [List.mapM_cons]
    refine (h x List.mem_cons_self).bind fun b hb => ?_
    refine (ih fun a ha => h a (List.mem_cons_of_mem _ ha)).bind fun bs hbs => ?_
    exact ok (List.forall_mem_cons.2 ⟨hb, hbs⟩)

end Yields

/-- When a computation ends in a value, that has a property. -/
def Grants {ε α : Type} (p : α → Prop) (x : Except ε α) : Prop :=
  ∀ a, x = .ok a → p a

namespace Grants
variable {ε α β : Type} {p : α → Prop} {q : β → Prop}

/-- A value grants what holds of it. -/
theorem ok {a : α} (h : p a) : Grants (ε := ε) p (.ok a) := by
  rintro a ⟨⟩
  exact h

/-- A failure grants everything. -/
theorem error {e : ε} : Grants p (.error e) := nofun

/-- Every computation grants what holds anyway. -/
theorem trivial (x : Except ε α) : Grants (fun _ => True) x :=
  fun _ _ => True.intro

/-- Nothing found has any property. -/
theorem missing : Grants (ε := ε) (fun found => ∀ b ∈ found, q b) (.ok (none : Option β)) :=
  ok fun b hb => absurd hb (Option.not_mem_none b)

/-- No items have any property. -/
theorem empty : Grants (ε := ε) (fun bs => ∀ b ∈ bs, q b) (.ok ([] : List β)) :=
  ok (List.forall_mem_nil q)

/-- A computation goes on with what the one before it grants. -/
theorem bind {x : Except ε α} {f : α → Except ε β} (h : Grants p x)
    (hf : ∀ a, p a → Grants q (f a)) : Grants q (x >>= f) := by
  intro b hb
  cases x with
  | error e => cases hb
  | ok a => exact hf a (h a rfl) b hb

/-- A function takes what a computation grants further. -/
theorem map {x : Except ε α} {f : α → β} (h : Grants p x) (hf : ∀ a, p a → q (f a)) :
    Grants q (x.map f) := by
  intro b hb
  cases x with
  | error e => cases hb
  | ok a => cases hb; exact hf a (h a rfl)

/-- What a search finds was granted at one of its items. -/
theorem findSomeM? {f : α → Except ε (Option β)} {xs : List α}
    (h : ∀ a ∈ xs, Grants (fun found => ∀ b ∈ found, q b) (f a)) :
    Grants (fun found => ∀ b ∈ found, q b) (xs.findSomeM? f) := by
  induction xs with
  | nil => exact missing
  | cons x xs ih =>
    refine (h x List.mem_cons_self).bind fun found hfound => ?_
    cases found with
    | none => exact ih fun a ha => h a (List.mem_cons_of_mem _ ha)
    | some b => exact ok hfound

/-- What is granted at every item is granted over the whole list. -/
theorem mapM {f : α → Except ε β} {xs : List α} (h : ∀ a ∈ xs, Grants q (f a)) :
    Grants (fun bs => ∀ b ∈ bs, q b) (xs.mapM f) := by
  induction xs with
  | nil => exact empty
  | cons x xs ih =>
    rw [List.mapM_cons]
    refine (h x List.mem_cons_self).bind fun b hb => ?_
    refine (ih fun a ha => h a (List.mem_cons_of_mem _ ha)).bind fun bs hbs => ?_
    exact ok (List.forall_mem_cons.2 ⟨hb, hbs⟩)

end Grants

end Sabotage
