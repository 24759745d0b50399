/-!
# Tables

A table is a list of keys with values that keeps the order in which the keys were put. Assigning to
a key that is there replaces its value where it stands, assigning to another adds it at the end, so
that a table built from the empty one holds no key twice. `Table.lookup` is the view of a table:
what each operation does is said through it.
-/

namespace Sabotage

/-- Keys and their values, in order. -/
abbrev Table (κ ν : Type) := List (κ × ν)

namespace Table

variable {κ ν : Type} [DecidableEq κ]

/-- The value of a key. -/
def lookup (key : κ) : Table κ ν → Option ν
  | [] => none
  | (k, v) :: rest => if k = key then some v else lookup key rest

/-- Replaces the value of a key, or adds the key at the end. -/
def assign (key : κ) (value : ν) : Table κ ν → Table κ ν
  | [] => [(key, value)]
  | (k, v) :: rest => if k = key then (k, value) :: rest else (k, v) :: assign key value rest

/-- Takes a key out. -/
def drop (key : κ) (t : Table κ ν) : Table κ ν :=
  t.filter (·.1 != key)

/-- The keys. -/
def keys (t : Table κ ν) : List κ :=
  t.map Prod.fst

/-- What is assigned is found. -/
@[simp] theorem lookup_assign (key : κ) (value : ν) (t : Table κ ν) :
    lookup key (assign key value t) = some value := by
  induction t with
  | nil => simp [assign, lookup]
  | cons e t ih =>
    obtain ⟨k, v⟩ := e
    by_cases h : k = key <;> simp [assign, lookup, h, ih]

/-- Assigning leaves the other keys alone. -/
theorem lookup_assign_of_ne {key other : κ} (h : other ≠ key) (value : ν) (t : Table κ ν) :
    lookup other (assign key value t) = lookup other t := by
  induction t with
  | nil => simp [assign, lookup, Ne.symm h]
  | cons e t ih =>
    obtain ⟨k, v⟩ := e
    by_cases hk : k = key
    · subst hk; simp [assign, lookup, Ne.symm h]
    · simp [assign, lookup, hk, ih]

/-- What is taken out is not found. -/
@[simp] theorem lookup_drop (key : κ) (t : Table κ ν) : lookup key (drop key t) = none := by
  induction t with
  | nil => rfl
  | cons e t ih =>
    obtain ⟨k, v⟩ := e
    by_cases h : k = key <;> simp_all [drop, lookup]

/-- Taking a key out leaves the others alone. -/
theorem lookup_drop_of_ne {key other : κ} (h : other ≠ key) (t : Table κ ν) :
    lookup other (drop key t) = lookup other t := by
  induction t with
  | nil => rfl
  | cons e t ih =>
    obtain ⟨k, v⟩ := e
    by_cases hk : k = key
    · subst hk; simp_all [drop, lookup, Ne.symm h]
    · by_cases ho : k = other <;> simp_all [drop, lookup]

/-- A key is found exactly when it is among the keys. -/
theorem isSome_lookup_iff {key : κ} {t : Table κ ν} :
    (lookup key t).isSome ↔ key ∈ keys t := by
  induction t with
  | nil => simp [lookup, keys]
  | cons e t ih =>
    obtain ⟨k, v⟩ := e
    by_cases h : k = key
    · simp [lookup, keys, h]
    · simp only [lookup, h, if_false, ih, keys, List.map_cons, List.mem_cons, Ne.symm h, false_or]

end Table

end Sabotage
