import Sabotage.Proofs.NumeralTexts
import Sabotage.Proofs.StringTexts

/-!
# What a reader yields

A value that is read has no integer of too many digits, no text of halves that spell a character, no
name twice in an object, and no more levels than the reader allows. `Sound` says so of a value and
all that stands in it, and `sound_of_readBy` that the reader yields no other values.
-/

namespace Sabotage

open Text

/-- A value that can stand in a text to be read: in so many levels, without halves under the strict
rules, and without numbers that are not finite if it has to be. -/
inductive Json.Sound (strict finite : Bool) : Nat → Json → Prop
  | null {levels : Nat} : Sound strict finite levels .null
  | bool {levels : Nat} (b : Bool) : Sound strict finite levels (.bool b)
  | int {levels : Nat} {n : Int} (h : Decimal.digitCount n.natAbs ≤ Numeral.digitLimit) :
    Sound strict finite levels (.int n)
  | float {levels : Nat} {x : Float} (h : finite → x.isFinite) :
    Sound strict finite levels (.float x)
  | str {levels : Nat} {s : Spelling} (h : Readable strict s.signs) :
    Sound strict finite levels (.str s)
  | noItems {levels : Nat} : Sound strict finite levels (.arr [])
  | arr {levels : Nat} {xs : List Json} (h : ∀ x ∈ xs, Sound strict finite levels x) :
    Sound strict finite (levels + 1) (.arr xs)
  | noFields {levels : Nat} : Sound strict finite levels (.obj [])
  | obj {levels : Nat} {fs : Json.Fields} (distinct : (Table.keys fs).Nodup)
    (names : ∀ k ∈ Table.keys fs, Readable strict k.signs)
    (values : ∀ f ∈ fs, Sound strict finite levels f.2) :
    Sound strict finite (levels + 1) (.obj fs)

namespace Table
variable {κ ν : Type} [DecidableEq κ] {key : κ} {value : ν} {t : Table κ ν}

/-- The keys after an assignment. -/
theorem mem_keys_assign {k : κ} : k ∈ keys (assign key value t) ↔ k = key ∨ k ∈ keys t := by
  rw [← isSome_lookup_iff, ← isSome_lookup_iff]
  by_cases h : k = key
  · simp [h]
  · simp [h, lookup_assign_of_ne]

/-- A new key is put at the end. -/
theorem assign_of_not_mem (h : key ∉ keys t) : assign key value t = t ++ [(key, value)] := by
  induction t with
  | nil => rfl
  | cons f t ih =>
    obtain ⟨k, v⟩ := f
    obtain ⟨hk, ht⟩ := not_or.1 (mt List.mem_cons.2 h)
    rw [assign, if_neg (Ne.symm hk), ih ht]
    rfl

/-- What stands in a table after an assignment. -/
theorem mem_assign {e : κ × ν} (h : e ∈ assign key value t) : e = (key, value) ∨ e ∈ t := by
  induction t with
  | nil => simpa [assign] using h
  | cons f t ih =>
    obtain ⟨k, v⟩ := f
    rw [assign] at h
    split at h
    · next hk =>
      subst hk
      exact (List.mem_cons.1 h).imp id (List.mem_cons_of_mem _)
    · rcases List.mem_cons.1 h with rfl | h
      · exact .inr List.mem_cons_self
      · exact (ih h).imp id (List.mem_cons_of_mem _)

/-- What is found stands in the table. -/
theorem mem_of_lookup (h : lookup key t = some value) : (key, value) ∈ t := by
  induction t with
  | nil => cases h
  | cons f t ih =>
    obtain ⟨k, v⟩ := f
    rw [lookup] at h
    split at h
    · next hk =>
      subst hk
      cases h
      exact List.mem_cons_self
    · exact List.mem_cons_of_mem _ (ih h)

/-- What stands in a table of different keys is found. -/
theorem lookup_of_mem (h : (keys t).Nodup) (hmem : (key, value) ∈ t) :
    lookup key t = some value := by
  induction t with
  | nil => cases hmem
  | cons f t ih =>
    obtain ⟨k, v⟩ := f
    obtain ⟨hk, ht⟩ := List.nodup_cons.1 h
    rcases List.mem_cons.1 hmem with heq | hmem
    · cases heq
      rw [lookup, if_pos rfl]
    · rw [lookup, if_neg, ih ht hmem]
      rintro rfl
      exact hk (List.mem_map.2 ⟨_, hmem, rfl⟩)

/-- No key is put twice. -/
theorem nodup_keys_assign (h : (keys t).Nodup) : (keys (assign key value t)).Nodup := by
  induction t with
  | nil => simp [assign, keys]
  | cons f t ih =>
    obtain ⟨k, v⟩ := f
    obtain ⟨hk, ht⟩ := List.nodup_cons.1 h
    rw [assign]
    split
    · exact h
    · next hne =>
      refine List.nodup_cons.2 ⟨fun hmem => ?_, ih ht⟩
      exact (mem_keys_assign.1 hmem).elim hne hk

end Table

/-- Digits of a base spell a number of no more digits. -/
theorem Text.ofDigits_lt {base : Nat} {ds : List Nat} (h : ∀ d ∈ ds, d < base) :
    ofDigits base ds < base ^ ds.length := by
  induction ds using List.reverseRecOn with
  | nil => exact Nat.one_pos
  | append_singleton ds d ih =>
    obtain ⟨hds, hd⟩ := List.forall_mem_append.1 h
    have hlast := hd d (List.mem_singleton_self d)
    calc ofDigits base (ds ++ [d]) = ofDigits base ds * base + d := ofDigits_concat base d ds
      _ < ofDigits base ds * base + base := Nat.add_lt_add_left hlast _
      _ = (ofDigits base ds + 1) * base := (Nat.succ_mul _ _).symm
      _ ≤ base ^ ds.length * base := Nat.mul_le_mul_right _ (ih hds)
      _ = base ^ (ds ++ [d]).length := by rw [List.length_append, List.length_singleton, pow_succ]

namespace Json.Reader
variable {strict finite : Bool} {cs ds rest : List Char} {v : Json}

/-! ## Scalars -/

/-- Digits spell a number of no more digits. -/
theorem number_lt (hds : ∀ c ∈ ds, isAsciiDigit c) : number ds < 10 ^ ds.length := by
  have hsmall : ∀ d ∈ ds.map fun c => c.toNat - '0'.toNat, d < 10 := by
    refine List.forall_mem_map.2 fun c hc => ?_
    have hdigit := hds c hc
    rw [isAsciiDigit_eq, Char.isDigit_iff_toNat] at hdigit
    have hzero : '0'.toNat = 48 := rfl
    have hnine : '9'.toNat = 57 := rfl
    omega
  have hlt := ofDigits_lt hsmall
  rwa [List.length_map] at hlt

/-- Digits at the front are digits. -/
theorem isAsciiDigit_of_digits (h : digits cs = (ds, rest)) : ∀ c ∈ ds, isAsciiDigit c := by
  rw [digits, List.span_eq_takeWhile_dropWhile] at h
  obtain ⟨rfl, -⟩ := Prod.mk.inj h
  exact List.all_eq_true.1 List.all_takeWhile

/-- A whole part has digits, and nothing else. -/
theorem isAsciiDigit_of_wholePart (h : wholePart cs = some (ds, rest)) :
    ∀ c ∈ ds, isAsciiDigit c := by
  rw [wholePart.eq_def] at h
  split at h
  · cases h
    simp
    rfl
  · split at h
    · cases h
    · exact isAsciiDigit_of_digits (Option.some.inj h)

/-- The size of a number does not depend on its sign. -/
theorem natAbs_signed (negative : Bool) (n : Nat) : (Numeral.signed negative n).natAbs = n := by
  rw [Numeral.signed]
  split <;> simp

/-- A number that is read has few enough digits. -/
theorem sound_numeral {negative : Bool} {levels : Nat}
    (h : numeral strict negative cs = .ok (v, rest)) : Sound strict false levels v := by
  rw [numeral] at h
  split at h
  · cases h
  · next whole more hwhole =>
    split at h
    · cases h
    · split at h
      · split at h
        · cases h
        · next hlimit =>
          cases h
          refine .int ?_
          rw [natAbs_signed, Decimal.digitCount,
            Nat.length_toDigits_le_iff (by decide) (by decide)]
          calc number whole < 10 ^ whole.length := number_lt (isAsciiDigit_of_wholePart hwhole)
            _ ≤ 10 ^ Numeral.digitLimit :=
              Nat.pow_le_pow_right (by decide) (Nat.le_of_not_lt hlimit)
      · cases h
        refine .float ?_
        intro hstrict
        cases hstrict
      · cases h
        refine .float ?_
        intro hstrict
        cases hstrict

/-- What is read of a value that is neither an array nor an object. -/
theorem sound_scalar {levels : Nat} (h : scalar strict cs = .ok (v, rest)) :
    Sound strict false levels v := by
  rw [scalar.eq_def] at h
  split at h
  · split at h
    · next hread =>
      cases h
      exact .str (string_readable (.nil strict _) hread)
    · cases h
  · split at h
    · cases h
      exact .float nofun
    · exact sound_numeral h
  · split at h
    · cases h
      exact .null
    · cases h
  · split at h
    · cases h
      exact .bool true
    · cases h
  · split at h
    · cases h
      exact .bool false
    · cases h
  · split at h
    · cases h
      exact .float nofun
    · cases h
  · split at h
    · cases h
      exact .float nofun
    · cases h
  · exact sound_numeral h

/-- A name that is read is readable. -/
theorem readable_name {key : Spelling} (h : name strict cs = .ok (key, rest)) :
    Readable strict key.signs := by
  rw [name.eq_def] at h
  split at h
  · split at h
    · next hread =>
      split at h
      · cases h
        exact string_readable (.nil strict _) hread
      · cases h
    · cases h
  · cases h

/-! ## Values -/

/-- The fields that are read before a place in an object. -/
structure SoundFields (strict finite : Bool) (levels : Nat) (fs : Fields) : Prop where
  distinct : (Table.keys fs).Nodup
  names : ∀ k ∈ Table.keys fs, Readable strict k.signs
  values : ∀ f ∈ fs, Sound strict finite levels f.2

/-- Another field is read. -/
theorem SoundFields.assign {levels : Nat} {fs : Fields} {key : Spelling}
    (h : SoundFields strict finite levels fs) (hkey : Readable strict key.signs)
    (hv : Sound strict finite levels v) :
    SoundFields strict finite levels (Table.assign key v fs) where
  distinct := Table.nodup_keys_assign h.distinct
  names k hk := by
    rcases Table.mem_keys_assign.1 hk with rfl | hk
    · exact hkey
    · exact h.names k hk
  values f hf := by
    rcases Table.mem_assign hf with rfl | hf
    · exact hv
    · exact h.values f hf

/-- The values that are read from some place with so much fuel are sound. -/
structure SoundFrom (strict : Bool) (fuel : Nat) : Prop where
  value : ∀ {levels cs v rest}, value strict fuel levels cs = .ok (v, rest) →
    Sound strict false levels v
  items : ∀ {levels done cs v rest}, items strict fuel levels done cs = .ok (v, rest) →
    (∀ x ∈ done, Sound strict false levels x) → Sound strict false (levels + 1) v
  members : ∀ {levels done cs v rest}, members strict fuel levels done cs = .ok (v, rest) →
    SoundFields strict false levels done → Sound strict false (levels + 1) v

section
variable {strict : Bool} {fuel levels : Nat} {cs rest : List Char} {v : Json}
  (ih : SoundFrom strict fuel)
include ih

/-- A value is sound when the items and the members are that are read with less fuel. -/
theorem sound_value (h : value strict (fuel + 1) levels cs = .ok (v, rest)) :
    Sound strict false levels v := by
  rw [value.eq_def] at h
  simp only at h
  split at h
  · split at h
    · cases h
      exact .noItems
    · cases h
    · exact ih.items h (by simp)
  · split at h
    · cases h
      exact .noFields
    · cases h
    · exact ih.members h ⟨by simp [Table.keys], by simp [Table.keys], by simp⟩
  · exact sound_scalar h

/-- Items are sound when the first of them is, and those after it. -/
theorem sound_items {done : List Json} (h : items strict (fuel + 1) levels done cs = .ok (v, rest))
    (hdone : ∀ x ∈ done, Sound strict false levels x) : Sound strict false (levels + 1) v := by
  rw [items.eq_def] at h
  simp only at h
  split at h
  · cases h
  · next hv =>
    have hvs := List.forall_mem_cons.2 ⟨ih.value hv, hdone⟩
    split at h
    · exact ih.items h hvs
    · cases h
      exact .arr fun x hx => hvs x (List.mem_reverse.1 hx)
    · cases h

/-- Members are sound when the first of them is, and those after it. -/
theorem sound_members {done : Fields}
    (h : members strict (fuel + 1) levels done cs = .ok (v, rest))
    (hdone : SoundFields strict false levels done) : Sound strict false (levels + 1) v := by
  rw [members.eq_def] at h
  simp only at h
  split at h
  · cases h
  · next hname =>
    split at h
    · cases h
    · next hv =>
      have hfields := hdone.assign (readable_name hname) (ih.value hv)
      split at h
      · exact ih.members h hfields
      · cases h
        exact .obj hfields.distinct hfields.names hfields.values
      · cases h

end

/-- Whatever is read is sound, by the recursion of the reader. -/
theorem soundFrom (strict : Bool) (fuel : Nat) : SoundFrom strict fuel := by
  induction fuel with
  | zero => exact ⟨nofun, nofun, nofun⟩
  | succ fuel ih =>
    exact ⟨fun h => sound_value ih h, fun h => sound_items ih h, fun h => sound_members ih h⟩

end Json.Reader

/-- The values that a reader yields are sound. -/
theorem Json.sound_of_readBy {rules : Rules} {text : String} {j : Json}
    (h : readBy rules text = .ok j) : Sound rules.strict false rules.levels j := by
  rw [readBy] at h
  split at h
  · cases h
  · next hread =>
    split at h
    · cases h
      exact (Reader.soundFrom _ _).value hread
    · cases h

/-- The values that are read from files are sound. -/
theorem Json.sound_of_read? {text : String} {j : Json} (h : read? text = some j) :
    Sound false false levelLimit j := by
  rw [read?] at h
  cases hread : read text with
  | error e =>
    rw [hread] at h
    cases h
  | ok v =>
    rw [hread] at h
    cases h
    exact sound_of_readBy hread

namespace Json.Sound
variable {strict finite : Bool} {levels : Nat} {fs : Json.Fields}

/-- No name stands twice in an object. -/
theorem distinct (h : Sound strict finite levels (.obj fs)) : (Table.keys fs).Nodup := by
  cases h with
  | noFields => exact List.nodup_nil
  | obj hdistinct => exact hdistinct

/-- What stands in an object is sound, in one level less. -/
theorem lookup {key : Spelling} {v : Json} (h : Sound strict finite levels (.obj fs))
    (hv : Table.lookup key fs = some v) : ∃ n, levels = n + 1 ∧ Sound strict finite n v := by
  cases h with
  | noFields => cases hv
  | obj _ _ hvalues => exact ⟨_, rfl, hvalues _ (Table.mem_of_lookup hv)⟩

end Json.Sound

end Sabotage
