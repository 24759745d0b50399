import Sabotage.Proofs.Assigning
import Sabotage.Proofs.Splices

/-!
# Counts from settings

The number of bugs of a run comes from what the first layer holds that says anything of its key
(`Settings.bugsPerRun_load`). Whatever that is, the number lies between one and ten, unless it is an
infinite float, from which there is no number at all (`Settings.clampCount_eq_error_iff`). The
numbers for a save are in this range in any settings, since only whole numbers are taken from a list
and one, two and three stand in for none. `Settings.counts_load` says this of all files.
-/

namespace Sabotage

namespace Binary64

/-- What is infinite is a number. -/
theorem isNaN_of_isInf {x : Float} (h : x.isInf = true) : x.isNaN = false := by
  have hinf : (parts x).isInf = true := h
  change (parts x).isNaN = false
  cases hparts : parts x with
  | notANumber =>
    rw [hparts] at hinf
    cases hinf
  | infinity s => rfl
  | zero s => rfl
  | finite s m e hm => rfl

end Binary64

namespace Settings

/-! ## The range -/

/-- A number that is clamped lies between one and ten. -/
theorem clamp_bounds (n : Int) : 1 ≤ clamp n ∧ clamp n ≤ 10 := by
  rw [clamp]
  omega

/-- A number between one and ten is clamped to itself. -/
theorem clamp_eq_self {n : Int} (hlow : 1 ≤ n) (hhigh : n ≤ 10) : clamp n = n := by
  rw [clamp]
  omega

/-! ## One number -/

variable {j : Json} {default : Int}

/-- Any value has an integer or none, but for an infinite float. -/
theorem toCount?_eq_error_iff {e : CountError} :
    toCount? j = .error e ↔ ∃ x, j = .float x ∧ x.isInf = true := by
  cases j with
  | float x =>
    simp only [Json.float.injEq, exists_eq_left', toCount?]
    split
    · next hnan =>
      refine iff_of_false nofun fun hinf => ?_
      rw [Binary64.isNaN_of_isInf hinf] at hnan
      cases hnan
    · split
      · next hinf => exact iff_of_true (by cases e; rfl) hinf
      · next hfinite => exact iff_of_false nofun hfinite
  | _ => exact iff_of_false nofun nofun

/-- There is a number from any value but an infinite float. -/
theorem clampCount_eq_error_iff {e : CountError} :
    clampCount j default = .error e ↔ ∃ x, j = .float x ∧ x.isInf = true := by
  rw [← @toCount?_eq_error_iff j e, clampCount]
  cases toCount? j with
  | error e' => rw [Except.map, Except.error.injEq, Except.error.injEq]
  | ok n => exact iff_of_false nofun nofun

/-- The number is between one and ten. -/
theorem clampCount_bounds {n : Int} (h : clampCount j default = .ok n) : 1 ≤ n ∧ n ≤ 10 := by
  rw [clampCount] at h
  cases hcount : toCount? j with
  | error e =>
    rw [hcount] at h
    cases h
  | ok n' =>
    rw [hcount] at h
    cases h
    exact clamp_bounds _

/-- The number of bugs of a run is that of the first layer that says anything of it, or three. -/
theorem bugsPerRun_load (files : SettingsFiles) (d : Disk) :
    (load files d).bugsPerRun =
      match decision (layers files d) (namesOf "mutation.bugs_per_run") with
      | .holds j => clampCount j 3
      | _ => .ok 3 := by
  have hwalk := walk_merged (@sound_layers files d) (namesOf_ne_nil "mutation.bugs_per_run")
  rw [bugsPerRun, get?_load]
  cases hdecision : decision (layers files d) (namesOf "mutation.bugs_per_run") with
  | silent | blocked =>
    rw [hdecision] at hwalk
    rw [hwalk]
    rfl
  | holds j =>
    rw [hdecision] at hwalk
    obtain ⟨v, hv, hobject, hplain⟩ := hwalk
    rw [hv]
    cases hj : j.isObject with
    | false => rw [hplain hj, Option.getD_some]
    | true =>
      -- One object is no number like another.
      rw [hj] at hobject
      cases v with
      | obj fs =>
        cases j with
        | obj fs' => rfl
        | _ => cases hj
      | _ => cases hobject

/-! ## Numbers to draw from -/

/-- The numbers are those given. -/
theorem mem_distinctSorted {n : Int} {ns : List Int} : n ∈ distinctSorted ns ↔ n ∈ ns := by
  rw [distinctSorted, (arrange_perm _ _).mem_iff, List.mem_eraseDups]

/-- Of each number one is left. -/
theorem nodup_eraseDups (ns : List Int) : ns.eraseDups.Nodup := by
  induction hlength : ns.length using Nat.strongRecOn generalizing ns with
  | ind k ih =>
    cases ns with
    | nil => exact List.nodup_nil
    | cons n ns =>
      have hlt : (ns.filter fun m => !m == n).length < k :=
        hlength ▸ Nat.lt_succ_of_le (List.length_filter_le _ ns)
      rw [List.eraseDups_cons, List.nodup_cons, List.mem_eraseDups]
      exact ⟨by simp, ih _ hlt _ rfl⟩

/-- They rise. -/
theorem pairwise_distinctSorted (ns : List Int) : (distinctSorted ns).Pairwise (· < ·) := by
  have hsorted : (distinctSorted ns).Pairwise fun a b => decide (b < a) = false := by
    refine arrange_sorted (fun a b c => ?_) (fun a => ?_) _
    · simp only [decide_eq_true_eq]
      omega
    · simp
  have hnodup : (distinctSorted ns).Nodup := (arrange_perm _ _).nodup_iff.2 (nodup_eraseDups ns)
  refine (hsorted.and hnodup).imp fun {a b} h => ?_
  have hle : ¬ b < a := of_decide_eq_false h.1
  have hne : a ≠ b := h.2
  omega

/-- The numbers to draw from are those that are given, clamped, unless none is. -/
theorem exists_bugsPerSave (s : Settings) : ∃ given : List Int,
    s.bugsPerSave = match distinctSorted (given.map clamp) with
      | [] => [1, 2, 3]
      | choices => choices :=
  ⟨_, rfl⟩

/-- There are numbers to draw from; they rise, and lie between one and ten. -/
theorem bugsPerSave_usable (s : Settings) :
    s.bugsPerSave ≠ [] ∧ s.bugsPerSave.Pairwise (· < ·) ∧ ∀ n ∈ s.bugsPerSave, 1 ≤ n ∧ n ≤ 10 := by
  obtain ⟨given, hgiven⟩ := exists_bugsPerSave s
  rw [hgiven]
  cases hchoices : distinctSorted (given.map clamp) with
  | nil => decide
  | cons n ns =>
    have hrising := pairwise_distinctSorted (given.map clamp)
    rw [hchoices] at hrising
    refine ⟨List.cons_ne_nil n ns, hrising, fun k hk => ?_⟩
    have hmem : k ∈ distinctSorted (given.map clamp) := hchoices ▸ hk
    obtain ⟨m, -, rfl⟩ := List.mem_map.1 (mem_distinctSorted.1 hmem)
    exact clamp_bounds m

/-! ## All files -/

/-- Whatever the files hold, there is a number of bugs of a run between one and ten, unless the
first layer that says anything of it holds an infinite float; a whole number that is in this range
is that number. And there are numbers to draw from at a save, which rise and are in this range. -/
theorem counts_load (files : SettingsFiles) (d : Disk) :
    (∀ e, (load files d).bugsPerRun = .error e ↔
      ∃ x, decision (layers files d) (namesOf "mutation.bugs_per_run") = .holds (.float x) ∧
        x.isInf = true) ∧
    (∀ n, (load files d).bugsPerRun = .ok n → 1 ≤ n ∧ n ≤ 10) ∧
    (∀ n, decision (layers files d) (namesOf "mutation.bugs_per_run") = .holds (.int n) →
      1 ≤ n → n ≤ 10 → (load files d).bugsPerRun = .ok n) ∧
    (load files d).bugsPerSave ≠ [] ∧ (load files d).bugsPerSave.Pairwise (· < ·) ∧
    ∀ n ∈ (load files d).bugsPerSave, 1 ≤ n ∧ n ≤ 10 := by
  have hload := bugsPerRun_load files d
  refine ⟨fun e => ?_, fun n hn => ?_, fun n hdecision hlow hhigh => ?_,
    bugsPerSave_usable (load files d)⟩
  · rw [hload]
    cases decision (layers files d) (namesOf "mutation.bugs_per_run") with
    | silent | blocked => exact iff_of_false nofun nofun
    | holds j => simp only [clampCount_eq_error_iff, Json.Verdict.holds.injEq]
  · rw [hload] at hn
    cases hdecision : decision (layers files d) (namesOf "mutation.bugs_per_run") with
    | silent | blocked =>
      rw [hdecision] at hn
      cases hn
      decide
    | holds j =>
      rw [hdecision] at hn
      exact clampCount_bounds hn
  · rw [hload, hdecision]
    exact congrArg Except.ok (clamp_eq_self hlow hhigh)

/-- An infinite number of bugs. -/
def endlessFields : Json.Fields := [("mutation", .obj [("bugs_per_run", .float (1 / 0))])]

/-- Where it is set in the file of a project, there is no number of bugs of a run. -/
theorem bugsPerRun_endlessFields :
    (load loneFiles (loneDisk (.obj endlessFields))).bugsPerRun = .error .infinite := by
  have hsound : (Json.obj endlessFields).Sound false false Json.levelLimit := by
    refine .obj (by decide) (by simp [Table.keys, endlessFields]) ?_
    simp only [endlessFields, List.forall_mem_singleton]
    refine .obj (by decide) (by simp [Table.keys]) ?_
    simp only [List.forall_mem_singleton]
    exact .float (by simp)
  have hheld : Held loneFiles (loneDisk (.obj endlessFields)) endlessFields :=
    .object (readText_loneDisk _) (Json.read?_renderText hsound)
  have hnames : namesOf "mutation.bugs_per_run" = [↑"mutation", ↑"bugs_per_run"] := by
    decide +kernel
  rw [bugsPerRun_load, layers, hheld.layerAt_eq, hnames]
  refine clampCount_eq_error_iff.2 ⟨1 / 0, rfl, ?_⟩
  rw [Binary64.inf_eq]
  exact congrArg Float.Model.UnpackedFloat.isInf (Binary64.parts_ofParts (.infinity .positive))

end Settings

end Sabotage
