import Sabotage.Proofs.SoundValues
import Sabotage.Settings

/-!
# Settings from layers

A layer says of a path one of three things (`Verdict`): nothing, when a name along it is missing;
that there can be no value, when something other than an object stands before its end; or the value
that it holds there. The layers are merged two by two, and merging is not associative, but what is
found along a path is decided by the first layer that says anything of the whole path
(`walk_mergeValue`). An object that is found is answered for in the same way, path by path
(`Answers`, `answers_get?`).
-/

namespace Sabotage

open Text

/-! ## Walking along a path -/

namespace Json

/-- Follows names through objects. -/
def walk : Json → List Spelling → Option Json
  | j, [] => some j
  | .obj fs, k :: ks => (Table.lookup k fs).bind fun j => walk j ks
  | _, _ :: _ => none

/-- Whether a value is an object. -/
def isObject : Json → Bool
  | .obj _ => true
  | _ => false

/-- What a document says of a path. -/
inductive Verdict where
  /-- A name is missing. -/
  | silent
  /-- Something other than an object stands before the end. -/
  | blocked
  /-- There is a value at the end. -/
  | holds (j : Json)

/-- What a document says of a path. -/
def verdict : Json → List Spelling → Verdict
  | j, [] => .holds j
  | .obj fs, k :: ks =>
    match Table.lookup k fs with
    | none => .silent
    | some j => verdict j ks
  | _, _ :: _ => .blocked

variable {j : Json} {p q : List Spelling}

/-- A path after another is followed from where that one ends. -/
theorem walk_append : walk j (p ++ q) = (walk j p).bind fun v => walk v q := by
  induction p generalizing j with
  | nil => rfl
  | cons k ks ih =>
    cases j with
    | obj fs =>
      simp only [List.cons_append, walk]
      cases Table.lookup k fs with
      | none => rfl
      | some v => exact ih
    | _ => rfl

/-- The first step along a path. -/
theorem walk_cons (j : Json) (k : Spelling) (ks : List Spelling) :
    walk j (k :: ks) = (Table.lookup k j.fields).bind fun v => walk v ks := by
  cases j <;> rfl

/-- What stands at the end of a path is no greater. -/
theorem sizeOf_le_of_walk {v : Json} (h : walk j p = some v) : sizeOf v ≤ sizeOf j := by
  induction p generalizing j with
  | nil =>
    obtain rfl : j = v := by simpa [walk] using h
    exact le_rfl
  | cons k ks ih =>
    cases j with
    | obj fs =>
      obtain ⟨w, hw, hv⟩ := Option.bind_eq_some_iff.1 h
      have hmem := List.sizeOf_lt_of_mem (Table.mem_of_lookup hw)
      have hle := ih hv
      simp only [Prod.mk.sizeOf_spec, obj.sizeOf_spec] at hmem ⊢
      omega
    | _ => cases h

/-- What stands in an object is smaller. -/
theorem sizeOf_lt_of_walk {v : Json} {k : Spelling} {ks : List Spelling}
    (h : walk j (k :: ks) = some v) : sizeOf v < sizeOf j := by
  cases j with
  | obj fs =>
    obtain ⟨w, hw, hv⟩ := Option.bind_eq_some_iff.1 h
    have hmem := List.sizeOf_lt_of_mem (Table.mem_of_lookup hw)
    have hle := sizeOf_le_of_walk hv
    simp only [Prod.mk.sizeOf_spec, obj.sizeOf_spec] at hmem ⊢
    omega
  | _ => cases h

end Json

/-! ## Merging -/

section
open Json
variable {strict finite : Bool} {levels : Nat}

/-- A name in merged fields. -/
theorem lookup_mergeFields (k : Spelling) {fs : Fields} (h : (Table.keys fs).Nodup)
    (base : Fields) : Table.lookup k (mergeFields base fs) =
      match Table.lookup k fs with
      | none => Table.lookup k base
      | some v => some (mergeValue ((Table.lookup k base).getD .null) v) := by
  induction fs generalizing base with
  | nil => rfl
  | cons f fs ih =>
    obtain ⟨k', v⟩ := f
    obtain ⟨hnew, hdistinct⟩ := List.nodup_cons.1 h
    rw [mergeFields, ih hdistinct]
    by_cases hk : k' = k
    · subst hk
      have hnone : Table.lookup k' fs = none := by
        rw [← Option.not_isSome_iff_eq_none, Table.isSome_lookup_iff]
        exact hnew
      simp [Table.lookup, hnone]
    · simp [Table.lookup, hk, Table.lookup_assign_of_ne (Ne.symm hk)]

/-- What is found along a path after merging. -/
theorem walk_mergeValue {layer : Json} (h : Sound strict finite levels layer) (below : Json)
    (p : List Spelling) :
    walk (mergeValue below layer) p =
      match verdict layer p with
      | .silent => walk below p
      | .blocked => none
      | .holds v => some (mergeValue ((walk below p).getD .null) v) := by
  induction p generalizing below layer levels with
  | nil => rfl
  | cons k ks ih =>
    cases layer with
    | obj fs =>
      rw [mergeValue, walk_cons, walk_cons, fields, lookup_mergeFields k h.distinct, verdict]
      cases hv : Table.lookup k fs with
      | none => rfl
      | some v =>
        obtain ⟨n, -, hsound⟩ := h.lookup hv
        refine (ih hsound ((Table.lookup k below.fields).getD .null)).trans ?_
        cases Table.lookup k below.fields with
        | some b => rfl
        | none => cases ks <;> rfl
    | _ => rfl

end

/-! ## Layers -/

/-- What the first layer says that says anything of a path. -/
def decision : List Json → List Spelling → Json.Verdict
  | [], _ => .silent
  | layer :: layers, p =>
    match layer.verdict p with
    | .silent => decision layers p
    | verdict => verdict

/-- How a path is answered. An object is an answer when every further path into it is answered in
the same way. -/
inductive Answers (layers : List Json) : List Spelling → Option Json → Prop
  | silent {p : List Spelling} (h : decision layers p = .silent) : Answers layers p none
  | blocked {p : List Spelling} (h : decision layers p = .blocked) : Answers layers p none
  | plain {p : List Spelling} {j : Json} (h : decision layers p = .holds j)
    (hj : j.isObject = false) : Answers layers p (some j)
  | object {p : List Spelling} {j : Json} {fs : Json.Fields} (h : decision layers p = .holds j)
    (hj : j.isObject = true)
    (further : ∀ k ks, Answers layers (p ++ k :: ks) (Json.walk (.obj fs) (k :: ks))) :
    Answers layers p (some (.obj fs))

/-- Documents merged, the first one over the others. -/
def merged : List Json → Json
  | [] => .obj []
  | layer :: layers => mergeValue (merged layers) layer

section
variable {layers : List Json} (hsound : ∀ j ∈ layers, ∃ levels, j.Sound false false levels)
  {p : List Spelling} (hp : p ≠ [])
include hsound hp

/-- What is found in merged documents is there when the decision is for a value, and it is this
value unless both are objects. -/
theorem walk_merged :
    match decision layers p with
    | .silent | .blocked => (merged layers).walk p = none
    | .holds j => ∃ v, (merged layers).walk p = some v ∧ v.isObject = j.isObject
      ∧ (j.isObject = false → v = j) := by
  induction layers with
  | nil =>
    obtain ⟨k, ks, rfl⟩ := List.exists_cons_of_ne_nil hp
    rfl
  | cons layer layers ih =>
    obtain ⟨⟨levels, hlayer⟩, hrest⟩ := List.forall_mem_cons.1 hsound
    have hwalk := walk_mergeValue hlayer (merged layers) p
    rw [decision, merged]
    cases hverdict : layer.verdict p with
    | silent =>
      rw [hverdict] at hwalk
      simp only at hwalk ⊢
      rw [hwalk]
      exact ih hrest
    | blocked =>
      rw [hverdict] at hwalk
      exact hwalk
    | holds j =>
      rw [hverdict] at hwalk
      refine ⟨_, hwalk, ?_, fun hj => ?_⟩
      · cases j <;> rfl
      · cases j with
        | obj fs => cases hj
        | _ => rfl

/-- What is found in merged documents is the answer. -/
theorem answers_merged : Answers layers p ((merged layers).walk p) := by
  -- By induction on the size of what is found: further paths into it find something smaller.
  obtain ⟨n, hn⟩ : ∃ n, ∀ v, (merged layers).walk p = some v → sizeOf v < n :=
    ⟨sizeOf (merged layers) + 1, fun v hv => Nat.lt_succ_of_le (Json.sizeOf_le_of_walk hv)⟩
  induction n using Nat.strongRecOn generalizing p with
  | ind n ih =>
    have hwalk := walk_merged hsound hp
    cases hdecision : decision layers p with
    | silent =>
      rw [hdecision] at hwalk
      exact hwalk ▸ .silent hdecision
    | blocked =>
      rw [hdecision] at hwalk
      exact hwalk ▸ .blocked hdecision
    | holds j =>
      rw [hdecision] at hwalk
      obtain ⟨v, hv, hobject, hplain⟩ := hwalk
      have hv' := hv
      rw [hv]
      cases hj : j.isObject with
      | false => exact hplain hj ▸ .plain hdecision hj
      | true =>
        rw [hj] at hobject
        match v, hobject with
        | .obj fs, _ =>
          refine .object hdecision hj fun k ks => ?_
          have hfurther : (Json.obj fs).walk (k :: ks) = (merged layers).walk (p ++ k :: ks) := by
            rw [Json.walk_append, hv]
            rfl
          rw [hfurther]
          refine ih _ (hn _ hv) (by simp) fun w hw => ?_
          exact Json.sizeOf_lt_of_walk (hfurther ▸ hw)

end

namespace Settings

/-- Names are followed as they are spelled. -/
theorem dig_eq_walk (j : Json) (p : List String) :
    dig j p = j.walk (p.map Spelling.ofString) := by
  induction p generalizing j with
  | nil => cases j <;> rfl
  | cons k ks ih =>
    cases j with
    | obj fs =>
      simp only [dig, List.map_cons, Json.walk, ih]
    | _ => rfl

/-- The layers of settings, the one that counts most first. -/
def layers (files : SettingsFiles) (d : Disk) : List Json :=
  [.obj (layerAt d files.here files.localFile), .obj (layerAt d files.here files.globalFile),
    .obj defaultSettings]

/-- The names of a key as they are spelled. -/
def namesOf (key : String) : List Spelling :=
  (keyPath key).map Spelling.ofString

/-- The names of a key are not none. -/
theorem namesOf_ne_nil (key : String) : namesOf key ≠ [] := by
  simp [namesOf, keyPath, Text.split, Text.pieces]

/-- The layer of a file is sound. -/
theorem sound_layerAt (d : Disk) (here : Location) (file : String) :
    (Json.obj (layerAt d here file)).Sound false false Json.levelLimit := by
  rw [layerAt]
  split
  · split
    · next fs hread =>
      exact Json.sound_of_read? hread
    · exact .noFields
  · exact .noFields

/-- The defaults are sound. -/
theorem sound_defaultSettings : (Json.obj defaultSettings).Sound false false Json.levelLimit := by
  have hbound : 10 ^ 2 ≤ 10 ^ Numeral.digitLimit := Nat.pow_le_pow_right (by decide) (by decide)
  have hint (n : Int) (h : n.natAbs < 10 ^ 2) {levels : Nat} :
      (Json.int n).Sound false false levels :=
    .int ((Nat.length_toDigits_le_iff (by decide) (by decide)).2 (h.trans_le hbound))
  refine .obj (by decide) (by simp [Table.keys, defaultSettings]) ?_
  simp only [defaultSettings, List.forall_mem_cons, List.not_mem_nil, false_imp_iff, implies_true,
    and_true]
  refine ⟨?_, ?_, ?_, ?_⟩ <;> refine .obj (by decide) (by simp [Table.keys]) ?_ <;>
    simp only [List.forall_mem_cons, List.not_mem_nil, false_imp_iff, implies_true, and_true]
  · have hitems : ∀ x ∈ [Json.int 1, .int 2, .int 3], x.Sound false false 967 := by
      simp [hint]
    exact ⟨hint 3 (by decide), .arr hitems, .noFields⟩
  · exact ⟨.bool _, .str (by simp), .null, .str (by simp), hint 10 (by decide)⟩
  · exact .bool _
  · exact .bool _

/-- The layers are sound. -/
theorem sound_layers {files : SettingsFiles} {d : Disk} :
    ∀ j ∈ layers files d, ∃ levels, j.Sound false false levels := by
  intro j hj
  simp only [layers, List.mem_cons, List.not_mem_nil, or_false] at hj
  rcases hj with rfl | rfl | rfl
  · exact ⟨_, sound_layerAt d _ _⟩
  · exact ⟨_, sound_layerAt d _ _⟩
  · exact ⟨_, sound_defaultSettings⟩

/-- A key is looked up in the merged layers. -/
theorem get?_load (files : SettingsFiles) (d : Disk) (key : String) :
    (load files d).get? key = (merged (layers files d)).walk (namesOf key) := by
  rw [get?, dig_eq_walk]
  rfl

/-- What the file of the project holds under a key is its value, unless it is an object. -/
theorem get?_of_holds {files : SettingsFiles} {d : Disk} {key : String} {v : Json}
    (h : (Json.obj (layerAt d files.here files.localFile)).verdict (namesOf key) = .holds v)
    (hv : v.isObject = false) : (load files d).get? key = some v := by
  have hwalk := walk_merged (@sound_layers files d) (namesOf_ne_nil key)
  rw [layers, decision, h] at hwalk
  obtain ⟨w, hw, -, hplain⟩ := hwalk
  rw [get?_load, layers, hw, hplain hv]

/-- A key has the same value where the files say the same of it. -/
theorem get?_congr {files : SettingsFiles} {d d' : Disk} {key : String}
    (hlocal : (Json.obj (layerAt d' files.here files.localFile)).verdict (namesOf key)
      = (Json.obj (layerAt d files.here files.localFile)).verdict (namesOf key))
    (hglobal : (Json.obj (layerAt d' files.here files.globalFile)).verdict (namesOf key)
      = (Json.obj (layerAt d files.here files.globalFile)).verdict (namesOf key)) :
    (load files d').get? key = (load files d).get? key := by
  simp only [get?_load, layers, merged, walk_mergeValue (sound_layerAt _ _ _), hlocal, hglobal]

end Settings

end Sabotage
