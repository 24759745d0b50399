import Sabotage.Proofs.Assigning

/-!
# Settings that are not written

What can become of writing a key is one of five things (`Settings.Assigned`, `Settings.assigned`),
and from them follows what holds when the key is not written (`Settings.assign_unwritten`): the
settings stay as they are, and so does all that stands on the disk, unless what is to be written is
too deep or has a number of too many digits. Then the file is left with the beginning of it. An
error tells of the key, unless the file holds something other than an object.
-/

namespace Sabotage.Settings
variable {s : Settings} {scope : Scope} {key : String} {value : Json} {d : Disk}

/-- Whether an error tells of the key. -/
def AssignError.tellsOfKey : AssignError → Bool
  | .malformed _ | .unknownSection _ => true
  | .noFields | .notAssignable => false

/-- What is written of a value that is planted in fields. -/
def excerptOf (value : Json) (key : String) (fs : Json.Fields) : Json.Excerpt :=
  (Json.obj (plant value (keyPath key) fs)).excerpt .file

/-- A disk on which what is written is put in a file, after the directory of it is made. -/
def Saves (s : Settings) (file : String) (written : Json.Excerpt) (d d' : Disk) : Prop :=
  ∃ d₁ loc, d.Grows d₁ ∧ d₁.locate s.files.here file = .ok loc
    ∧ d₁.Puts d' loc (Bytes.ofString written.text.legible)

/-- What becomes of writing a key. -/
inductive Assigned (s : Settings) (scope : Scope) (key : String) (value : Json) (d : Disk) :
    Except AssignError (Bool × Settings × Disk) → Prop
  /-- The key is not one that settings have. -/
  | refused {e : AssignError} (hkey : ¬WellFormed key) (he : e.tellsOfKey) :
    Assigned s scope key value d (.error e)
  /-- The file holds something other than an object. -/
  | noObject {e : AssignError} {j : Json} (hkey : WellFormed key)
    (hheld : s.current? d (s.file scope) = some j) (hj : j.isObject = false)
    (he : e.tellsOfKey = false) : Assigned s scope key value d (.error e)
  /-- The file cannot be read, or cannot be written. -/
  | kept {d' : Disk} (hkey : WellFormed key)
    (hheld : ∀ j, s.current? d (s.file scope) = some j → j.isObject = true) (hgrows : d.Grows d') :
    Assigned s scope key value d (.ok (false, s, d'))
  /-- The writing ends before its end. -/
  | cut {d' : Disk} {fs : Json.Fields} (hkey : WellFormed key)
    (hheld : s.current? d (s.file scope) = some (.obj fs))
    (hcut : (excerptOf value key fs).complete = false)
    (hsaves : s.Saves (s.file scope) (excerptOf value key fs) d d') :
    Assigned s scope key value d (.ok (false, s, d'))
  /-- Everything is written. -/
  | written {d' : Disk} {fs : Json.Fields} (hkey : WellFormed key)
    (hheld : s.current? d (s.file scope) = some (.obj fs))
    (hwhole : (excerptOf value key fs).complete = true)
    (hsaves : s.Saves (s.file scope) (excerptOf value key fs) d d') :
    Assigned s scope key value d (.ok (true, load s.files d', d'))

/-- Fields are saved in the file, as far as they can be, or the file stays what it is. -/
theorem save_cases {file : String} {fields : Json.Fields} {answer : Bool} {d' : Disk}
    (h : s.save d file fields = (answer, d')) :
    (answer = false ∧ d.Grows d')
      ∨ answer = ((Json.obj fields).excerpt .file).complete
        ∧ s.Saves file ((Json.obj fields).excerpt .file) d d' := by
  rw [save] at h
  split at h
  · cases h
    exact .inl ⟨rfl, .refl d⟩
  · next d₁ hmake =>
    have hgrows := Disk.makePath_grows hmake
    simp only at h
    split at h
    · next d₂ hwrite =>
      cases h
      rw [Disk.write] at hwrite
      split at hwrite
      · next loc hlocate =>
        exact .inr ⟨rfl, d₁, loc, hgrows, hlocate, Disk.writeAt_puts hwrite⟩
      · cases hwrite
    · cases h
      exact .inl ⟨rfl, hgrows⟩

/-- One of these things becomes of writing a key. -/
theorem assigned (s : Settings) (scope : Scope) (key : String) (value : Json) (d : Disk) :
    Assigned s scope key value d (s.assign scope key value d) := by
  rw [assign]
  split
  · next hnames =>
    refine .refused (fun hkey => ?_) rfl
    obtain ⟨name, hname, hempty⟩ := List.any_eq_true.1 hnames
    exact hkey.names (eq_of_beq hempty ▸ hname)
  · next hnames =>
    split
    · next hunknown =>
      refine .refused (fun hkey => ?_) rfl
      rw [List.contains_iff_mem.2 hkey.known] at hunknown
      cases hunknown
    · next hknown =>
      have hkey : WellFormed key :=
        ⟨fun hmem => hnames (List.any_eq_true.2 ⟨"", hmem, rfl⟩), by simpa using hknown⟩
      split
      · next hheld => exact .kept hkey (by simp [hheld]) (.refl d)
      · next held hheld =>
        cases held with
        | obj fs =>
          simp only [fieldsFor]
          obtain ⟨written, d', hsave⟩ : ∃ written d',
              s.save d (s.file scope) (plant value (keyPath key) fs) = (written, d') := ⟨_, _, rfl⟩
          rw [hsave]
          rcases save_cases hsave with ⟨rfl, hgrows⟩ | ⟨hanswer, hsaves⟩
          · exact .kept hkey (by simp [hheld, Json.isObject]) hgrows
          · cases written with
            | false => exact .cut hkey hheld hanswer.symm hsaves
            | true => exact .written hkey hheld hanswer.symm hsaves
        | _ =>
          refine .noObject hkey hheld rfl ?_
          split <;> rfl

/-- A key that is not written leaves the settings as they are, and all that stands on the disk,
unless what is to be written has no end that can be written. An error tells of a key that is not
well formed, unless the file holds something other than an object. -/
theorem assign_unwritten (s : Settings) (scope : Scope) (key : String) (value : Json) (d : Disk) :
    (∀ e, s.assign scope key value d = .error e →
        e.tellsOfKey = true ∧ ¬WellFormed key
          ∨ e.tellsOfKey = false
            ∧ ∃ j, s.current? d (s.file scope) = some j ∧ j.isObject = false)
      ∧ ∀ s' d', s.assign scope key value d = .ok (false, s', d') →
        s' = s
          ∧ (d.Grows d'
            ∨ ∃ fs, s.current? d (s.file scope) = some (.obj fs)
              ∧ (excerptOf value key fs).complete = false
              ∧ s.Saves (s.file scope) (excerptOf value key fs) d d') := by
  have hassigned := assigned s scope key value d
  refine ⟨fun e herror => ?_, fun s' d' hassign => ?_⟩
  · rw [herror] at hassigned
    cases hassigned with
    | refused hkey he => exact .inl ⟨he, hkey⟩
    | noObject _ hheld hj he => exact .inr ⟨he, _, hheld, hj⟩
  · rw [hassign] at hassigned
    cases hassigned with
    | kept _ _ hgrows => exact ⟨rfl, .inl hgrows⟩
    | cut _ hheld hcut hsaves => exact ⟨rfl, .inr ⟨_, hheld, hcut, hsaves⟩⟩

/-- A key of too many names is not written, and the settings stay as they are. -/
theorem assign_unwritten_deepKey :
    ∃ d', (load loneFiles (loneDisk (.obj loneFields))).assign .local deepKey (.bool true)
        (loneDisk (.obj loneFields)) = .ok (false, load loneFiles (loneDisk (.obj loneFields)), d')
      ∧ ((loneDisk (.obj loneFields)).Grows d'
        ∨ ∃ fs, (excerptOf (.bool true) deepKey fs).complete = false
          ∧ (load loneFiles (loneDisk (.obj loneFields))).Saves loneFiles.localFile
              (excerptOf (.bool true) deepKey fs) (loneDisk (.obj loneFields)) d') := by
  have hheld := held_loneFields.current?_eq (load loneFiles (loneDisk (.obj loneFields))) rfl
  obtain ⟨d', hassign⟩ := @assign_of_deep _ _ (load loneFiles (loneDisk (.obj loneFields))) .local
    deepKey (.bool true) wellFormed_deepKey hheld lt_length_deepKey
  obtain ⟨-, hdisk⟩ := (assign_unwritten _ .local deepKey (.bool true) _).2 _ _ hassign
  refine ⟨d', hassign, hdisk.imp id ?_⟩
  rintro ⟨fs, -, hcut, hsaves⟩
  exact ⟨fs, hcut, hsaves⟩

/-- Where the file holds something other than an object, writing a well-formed key ends with an
error that does not tell of the key. -/
theorem assign_of_noObject (value : Json) {j : Json} (hkey : WellFormed key)
    (hheld : s.current? d (s.file scope) = some j) (hj : j.isObject = false) :
    ∃ e, s.assign scope key value d = .error e ∧ e.tellsOfKey = false := by
  have hassigned := assigned s scope key value d
  have hno {j'} (h : s.current? d (s.file scope) = some j') : j'.isObject = false :=
    Option.some.inj (hheld.symm.trans h) ▸ hj
  generalize s.assign scope key value d = answer at hassigned
  cases hassigned with
  | refused hnot => exact absurd hkey hnot
  | noObject _ _ _ he => exact ⟨_, rfl, he⟩
  | kept _ hobject => cases hj.symm.trans (hobject j hheld)
  | cut _ h => cases hno h
  | written _ h => cases hno h

/-- So it ends where the file of a project holds an empty list. -/
theorem assign_emptyList :
    WellFormed "history.enabled"
      ∧ ∃ e, (load loneFiles (loneDisk (.arr []))).assign .local "history.enabled" (.bool true)
          (loneDisk (.arr [])) = .error e ∧ e.tellsOfKey = false := by
  have hkey : WellFormed "history.enabled" := ⟨by decide +kernel, by decide +kernel⟩
  have hfind : (loneDisk (.arr [])).find loneFiles.here loneFiles.localFile
      = .ok (.file (Bytes.ofString ((Json.arr []).renderText .file))) := by
    rw [Disk.find, locate_loneDisk]
    rfl
  have hheld : (load loneFiles (loneDisk (.arr []))).current? (loneDisk (.arr []))
      loneFiles.localFile = some (.arr []) := by
    simp only [current?, load, hfind, readText_loneDisk]
    exact Json.read?_renderText .noItems
  exact ⟨hkey, assign_of_noObject (.bool true) hkey hheld rfl⟩

end Sabotage.Settings
