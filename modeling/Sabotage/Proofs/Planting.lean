import Sabotage.Proofs.JsonTexts
import Sabotage.Proofs.Layers

/-!
# Planting a value in a document

A value that is planted under names is what the document holds there (`Settings.verdict_plant`), and
what the document says of paths that neither lead there nor further on is what it said before, where
nothing but objects stood in the way (`Settings.verdict_plant_of_not_prefix`). A sound document
stays sound if there are levels enough (`Settings.sound_plant`); under too many names the value
cannot be written (`Settings.excerptAt_plant`).
-/

namespace Sabotage

open Text

/-! ## Objects along a path -/

namespace Json
variable {j v : Json} {p : List Spelling}

/-- A document is open along a path when only objects stand before the end. -/
theorem verdict_ne_blocked
    (h : ∀ q, q <+: p → q ≠ p → ∀ v, j.walk q = some v → v.isObject = true) :
    j.verdict p ≠ .blocked := by
  induction p generalizing j with
  | nil => simp [verdict]
  | cons k ks ih =>
    have hobject := h [] List.nil_prefix (by simp) j rfl
    cases j with
    | obj fs =>
      rw [verdict]
      cases hv : Table.lookup k fs with
      | none => simp
      | some v =>
        refine ih fun q hq hne w hw => h (k :: q) ?_ ?_ w ?_
        · exact (List.cons_prefix_cons).2 ⟨rfl, hq⟩
        · simpa using hne
        · rwa [walk_cons, fields, hv]
    | _ => cases hobject

/-- More levels do not make a value less sound. -/
theorem Sound.mono {strict finite : Bool} {levels more : Nat} (h : Sound strict finite levels j)
    (hle : levels ≤ more) : Sound strict finite more j := by
  induction h generalizing more with
  | null => exact .null
  | bool b => exact .bool b
  | int h => exact .int h
  | float h => exact .float h
  | str h => exact .str h
  | noItems => exact .noItems
  | noFields => exact .noFields
  | arr _ ih =>
    obtain ⟨more, rfl⟩ : ∃ n, more = n + 1 := ⟨more - 1, by omega⟩
    exact .arr fun x hx => ih x hx (by omega)
  | obj hdistinct hnames _ ih =>
    obtain ⟨more, rfl⟩ : ∃ n, more = n + 1 := ⟨more - 1, by omega⟩
    exact .obj hdistinct hnames fun f hf => ih f hf (by omega)

end Json

namespace Settings
variable {value : Json} {path : List String} {fs : Json.Fields}

/-- The first of several names leads to an object with the others. -/
theorem plant_cons_cons (k k' : String) (ks : List String) :
    plant value (k :: k' :: ks) fs = Table.assign (k : Spelling)
      (.obj (plant value (k' :: ks) ((Table.lookup (k : Spelling) fs).getD .null).fields)) fs :=
  rfl

/-! ## What is found -/

/-- What is planted is what is found under the names. -/
theorem verdict_plant (hpath : path ≠ []) :
    (Json.obj (plant value path fs)).verdict (path.map Spelling.ofString) = .holds value := by
  induction path generalizing fs with
  | nil => exact absurd rfl hpath
  | cons k ks ih =>
    cases ks with
    | nil => simp [plant, Json.verdict]
    | cons k' ks =>
      rw [plant_cons_cons, List.map_cons, Json.verdict, Table.lookup_assign]
      exact ih (by simp)

/-- Of other paths a document says what it said before. -/
theorem verdict_plant_of_not_prefix {p : List Spelling}
    (hopen : (Json.obj fs).verdict (path.map Spelling.ofString) ≠ .blocked)
    (hon : ¬path.map Spelling.ofString <+: p) (hback : ¬p <+: path.map Spelling.ofString) :
    (Json.obj (plant value path fs)).verdict p = (Json.obj fs).verdict p := by
  induction path generalizing fs p with
  | nil => exact absurd List.nil_prefix hon
  | cons k ks ih =>
    obtain ⟨l, ls, rfl⟩ : ∃ l ls, p = l :: ls :=
      List.exists_cons_of_ne_nil fun hnil => hback (hnil ▸ List.nil_prefix)
    by_cases hl : l = Spelling.ofString k
    · subst hl
      cases ks with
      | nil => exact absurd (by simp) hon
      | cons k' ks =>
        rw [List.map_cons, List.cons_prefix_cons, not_and] at hon hback
        rw [List.map_cons, Json.verdict] at hopen
        rw [plant_cons_cons, Json.verdict, Json.verdict, Table.lookup_assign]
        cases hv : Table.lookup (Spelling.ofString k) fs with
        | none =>
          refine (ih (by rintro ⟨⟩) (hon rfl) (hback rfl)).trans ?_
          obtain ⟨m, ms, rfl⟩ : ∃ m ms, ls = m :: ms :=
            List.exists_cons_of_ne_nil fun hnil => hback rfl (hnil ▸ List.nil_prefix)
          rfl
        | some v =>
          rw [hv] at hopen
          cases v with
          | obj inner => exact ih hopen (hon rfl) (hback rfl)
          | _ => exact absurd rfl hopen
    · have hkeep (v : Json) :
          Table.lookup l (Table.assign (k : Spelling) v fs) = Table.lookup l fs :=
        Table.lookup_assign_of_ne hl v fs
      cases ks with
      | nil => simp only [plant, Json.verdict, hkeep]
      | cons k' ks => simp only [plant_cons_cons, Json.verdict, hkeep]

/-! ## What can be written -/

section
variable {strict finite : Bool} {levels : Nat}

/-- A sound document stays sound when a value is planted in it that is. -/
theorem sound_plant (hfs : (Json.obj fs).Sound strict finite (path.length + levels))
    (hvalue : value.Sound strict finite levels) :
    (Json.obj (plant value path fs)).Sound strict finite (path.length + levels) := by
  induction path generalizing fs with
  | nil => exact hfs
  | cons k ks ih =>
    rw [List.length_cons, Nat.add_right_comm] at hfs ⊢
    have hfields : Json.Reader.SoundFields strict finite (ks.length + levels) fs := by
      cases hfs with
      | noFields => exact ⟨by simp [Table.keys], by simp [Table.keys], by simp⟩
      | obj hdistinct hnames hvalues => exact ⟨hdistinct, hnames, hvalues⟩
    have hplanted (v : Json) (hv : v.Sound strict finite (ks.length + levels)) :
        (Json.obj (Table.assign (k : Spelling) v fs)).Sound strict finite
          (ks.length + levels + 1) := by
      have h := hfields.assign (readable_ofString strict k) hv
      exact .obj h.distinct h.names h.values
    cases ks with
    | nil => exact hplanted value (hvalue.mono (by simp))
    | cons k' ks =>
      refine hplanted _ (ih ?_)
      cases hv : Table.lookup (Spelling.ofString k) fs with
      | none => exact .noFields
      | some v =>
        have hsound := hfields.values _ (Table.mem_of_lookup hv)
        cases v with
        | obj inner => exact hsound
        | _ => exact .noFields

end

section
variable {style : Json.Style} {levels level : Nat}

/-- A text is all there when both parts of it are. -/
theorem complete_append (a b : Json.Excerpt) : (a ++ b).complete = (a.complete && b.complete) := by
  show (Json.Excerpt.append a b).complete = _
  rw [Json.Excerpt.append]
  cases h : a.complete
  · simp [h]
  · simp

/-- Fields are not written as a whole when one of them is not. -/
theorem excerptFields_complete {f : Spelling × Json} (hf : f ∈ fs)
    (h : (Json.excerptAt style levels level f.2).complete = false) (before : String) :
    (Json.excerptFields style levels level before fs).complete = false := by
  induction fs generalizing before with
  | nil => cases hf
  | cons g gs ih =>
    rw [Json.excerptFields, complete_append, complete_append]
    rcases List.mem_cons.1 hf with rfl | hf
    · simp [h]
    · simp [ih hf]

/-- Under more names than there are levels a value is not written as a whole. -/
theorem excerptAt_plant (hlevels : levels < path.length) :
    (Json.excerptAt style levels level (.obj (plant value path fs))).complete = false := by
  induction path generalizing fs levels level with
  | nil => cases hlevels
  | cons k ks ih =>
    have hfields : ∃ v, (∀ n l, n < ks.length → (Json.excerptAt style n l v).complete = false)
        ∧ plant value (k :: ks) fs = Table.assign (k : Spelling) v fs := by
      cases ks with
      | nil => exact ⟨value, nofun, rfl⟩
      | cons k' ks => exact ⟨_, fun n l hn => ih hn, plant_cons_cons k k' ks⟩
    obtain ⟨v, hv, hplant⟩ := hfields
    have hmem : ((k : Spelling), v) ∈ plant value (k :: ks) fs :=
      hplant ▸ Table.mem_of_lookup (Table.lookup_assign _ _ _)
    have hsome : (plant value (k :: ks) fs).isEmpty = false := by
      rw [List.isEmpty_eq_false_iff]
      exact List.ne_nil_of_mem hmem
    cases levels with
    | zero =>
      simp only [Json.excerptAt, hsome, Bool.false_eq_true, if_false]
      rfl
    | succ n =>
      have hrest := excerptFields_complete hmem (hv n (level + 1) (Nat.lt_of_succ_lt_succ hlevels))
      simp only [Json.excerptAt, hsome, Bool.false_eq_true, if_false, complete_append, hrest,
        Bool.false_and]

end

end Settings

end Sabotage
