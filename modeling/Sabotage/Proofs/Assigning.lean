import Sabotage.Proofs.Planting
import Sabotage.Proofs.Recording

/-!
# Writing a setting

The file of a project is written after its directory is made, and what is written there is what is
read from it (`Settings.layerAt_of_puts`). The file for all projects stays what it is, unless both
are the same file (`Settings.layerAt_globalFile`). So a value that is written under a key is the
value of the key, and the keys beside it keep theirs (`Settings.assign_local`). A key of too many
names is not written (`Settings.assign_of_deep`).
-/

namespace Sabotage

open Text

/-! ## Making the directory of a file -/

namespace Disk
variable {d d' d₁ : Disk} {here loc target : Location} {text : String}

/-- Directories that were made are led through. -/
theorem follow_of_makeFrom {parts : List String} (hproper : ∀ part ∈ parts, Path.isProper part)
    (hdir : d.occupant? loc = some .directory) (h : d.makeFrom loc parts = .ok d')
    {rest : List String}
    (hrest : d'.occupant? (parts.foldl Path.step loc) = some .directory →
      d'.follow (parts.foldl Path.step loc) rest = .ok target) :
    d'.follow loc (parts ++ rest) = .ok target := by
  induction parts generalizing d loc with
  | nil =>
    cases h
    exact hrest hdir
  | cons part parts ih =>
    obtain ⟨hpart, hparts⟩ := List.forall_mem_cons.1 hproper
    have hbefore := (makeFrom_grows h).kept hdir
    simp only [makeFrom] at h
    split at h
    · cases h
    · next hshort =>
      rw [List.cons_append, follow_cons_eq_ok, if_pos hpart]
      refine ⟨hbefore, Nat.not_lt.1 hshort, ?_⟩
      split at h
      · next hthere => exact ih hparts hthere h hrest
      · cases h
      · next hnone =>
        have hroot : Path.step loc part ≠ [] := by
          intro hroot
          rw [hroot] at hnone
          cases hnone
        exact ih hparts (occupant?_set hroot d .directory) h hrest

/-- Directories that are led through are there. -/
theorem makeFrom_of_follow {parts rest : List String} (hproper : ∀ part ∈ parts, Path.isProper part)
    (hrest : rest ≠ []) (h : d.follow loc (parts ++ rest) = .ok target) :
    d.makeFrom loc parts = .ok d := by
  induction parts generalizing loc with
  | nil => rfl
  | cons part parts ih =>
    obtain ⟨hpart, hparts⟩ := List.forall_mem_cons.1 hproper
    obtain ⟨-, h⟩ := follow_cons_eq_ok.1 h
    rw [if_pos hpart] at h
    have hdir : d.occupant? (Path.step loc part) = some .directory := by
      have hmore : parts ++ rest ≠ [] := by simp [hrest]
      obtain ⟨next, more, hnext⟩ := List.exists_cons_of_ne_nil hmore
      rw [List.append_eq, hnext] at h
      exact (follow_cons_eq_ok.1 h.2).1
    simp only [makeFrom, if_neg (Nat.not_lt.2 h.1), hdir]
    exact ih hparts h.2

/-- Empty names lead from the root to the root. -/
theorem follow_replicate (d : Disk) (n : Nat) (parts : List String) :
    d.follow [] (List.replicate n "" ++ parts) = d.follow [] parts := by
  induction n with
  | zero => rfl
  | succ n ih =>
    rw [List.replicate_succ, List.cons_append, follow]
    simpa [checkDirectory, occupant?] using ih

/-- A path that is not found can be a path. -/
theorem fits_of_find_notFound (h : d.find here text = .error .notFound) :
    '\x00' ∉ text.toList ∧ text.utf8ByteSize < pathLimit := by
  rw [find, locate, String.contains_char_eq] at h
  split at h
  · next hlocate =>
    split at hlocate
    · cases hlocate
      cases h
    · next hname =>
      split at hlocate
      · next hempty =>
        subst hempty
        exact ⟨List.not_mem_nil, by decide⟩
      · split at hlocate
        · cases hlocate
          cases h
        · next hshort => exact ⟨by simpa using hname, Nat.lt_of_not_le hshort⟩
  · next hlocate =>
    split at hlocate
    · cases hlocate
    · next hname =>
      split at hlocate
      · cases hlocate
      · split at hlocate
        · cases hlocate
        · next hshort => exact ⟨by simpa using hname, Nat.lt_of_not_le hshort⟩

section
variable {p : Path} (hp : p.Plain) (hparts : p.parts ≠ []) (habsolute : p.isAbsolute)
include hp hparts habsolute

/-- A path from the root to a file is followed through the components of its directory. -/
theorem follow_toString_eq_ok :
    d.follow (if (Path.ofString p.toString).isAbsolute then [] else here)
        (Text.split '/' p.toString) = .ok target ↔
      d.follow [] (p.parent.parts ++ [p.name]) = .ok target := by
  rw [Path.ofString_toString hp.toNormal, if_pos habsolute, Path.split_toString hp.toNormal hparts,
    follow_replicate, Path.parent_append_name hparts]

/-- A file is located once the directory of its path is made. -/
theorem locate_of_makePath (hname : p.name.utf8ByteSize ≤ nameLimit)
    (hmissing : d.find here p.toString = .error .notFound)
    (hmake : d.makePath here p.parent = .ok d') :
    d'.locate here p.toString = .ok (p.locate here) := by
  obtain ⟨hchars, hshort⟩ := fits_of_find_notFound hmissing
  have hproper := hp.proper
  rw [← Path.parent_append_name hparts, List.forall_mem_append,
    List.forall_mem_singleton] at hproper
  rw [makePath, makeDirectory, if_pos (by exact habsolute), List.nil_append] at hmake
  refine locate_of_follow hchars ?_ hshort ((follow_toString_eq_ok hp hparts habsolute).2 ?_)
  · intro hempty
    have hread := Path.ofString_toString hp.toNormal
    rw [hempty] at hread
    exact hparts (hread ▸ rfl)
  · rw [Path.locate, if_pos habsolute, ← Path.parent_append_name hparts, List.foldl_append]
    refine follow_of_makeFrom hproper.1 rfl hmake fun hdir => follow_cons_eq_ok.2 ⟨hdir, ?_⟩
    rw [if_pos hproper.2]
    exact ⟨hname, rfl⟩

/-- Making the directory of a path from the root changes nothing where the path leads. -/
theorem occupant?_of_makePath (hmake : d.makePath here p.parent = .ok d') :
    d'.occupant? (p.locate here) = d.occupant? (p.locate here) := by
  have hlevel := hp.level
  rw [makePath, makeDirectory, if_pos (by exact habsolute), List.nil_append] at hmake
  rw [Path.locate_of_level hlevel, if_pos habsolute, List.nil_append]
  rw [← Path.parent_append_name hparts] at hlevel ⊢
  refine makeFrom_elsewhere (fun hmem => hlevel (List.mem_append_left _ hmem)) hmake fun hle => ?_
  simpa using hle.length_le

/-- The directory of a file that is located is there. -/
theorem makePath_of_locate (h : d.locate here p.toString = .ok loc) :
    d.makePath here p.parent = .ok d := by
  have hproper : ∀ part ∈ p.parent.parts, Path.isProper part :=
    fun part hpart => hp.proper part (List.mem_of_mem_dropLast hpart)
  have hfollow := (follow_toString_eq_ok hp hparts habsolute).1 (follow_of_locate h)
  rw [makePath, makeDirectory, if_pos (by exact habsolute), List.nil_append]
  exact makeFrom_of_follow hproper (by simp) hfollow

end

/-- Putting a file changes nothing that is read elsewhere. -/
theorem Puts.readText_iff {bytes : Bytes} {read : String} (h : d.Puts d' loc bytes)
    (hne : d.locate here text ≠ .ok loc) :
    d'.readText here text = .ok read ↔ d.readText here text = .ok read := by
  have hread (bytes : Bytes) : d'.read here text = .ok bytes ↔ d.read here text = .ok bytes := by
    rw [read_eq_ok, read_eq_ok]
    refine exists_congr fun l => exists_congr fun e => ?_
    rw [h.locate_iff]
    refine and_congr_right fun hl => ?_
    rw [h.elsewhere l fun heq => hne (heq ▸ hl)]
  simp only [readText_eq_ok, hread]

end Disk

/-! ## The files of a project -/

/-- The files of the settings of a project that lies at a path from the root which never leads up;
nor does the path of the file for all projects. -/
structure SettingsFiles.Within (files : SettingsFiles) (p : Project) : Prop where
  root : p.root.Plain
  absolute : p.root.isAbsolute
  localFile : files.localFile = p.localSettings.toString
  globalFile : ".." ∉ Text.split '/' files.globalFile

/-- The path of the file of a project never leads up. -/
theorem SettingsFiles.Within.plain {files : SettingsFiles} {project : Project}
    (h : files.Within project) : project.localSettings.Plain :=
  (h.root.child (by decide) (by decide) (by decide)).child (by decide) (by decide) (by decide)

namespace Settings
variable {files : SettingsFiles} {project : Project} {d d₁ d' : Disk} {fs fields : Json.Fields}
  {loc : Location} {file : String}

/-- The fields that are in the file of a project, which is missing and can be made, or holds an
object. -/
inductive Held (files : SettingsFiles) (d : Disk) : Json.Fields → Prop
  | missing {d₁ : Disk} (hfind : d.find files.here files.localFile = .error .notFound)
    (hmake : d.makePath files.here (Path.ofString files.localFile).parent = .ok d₁) :
    Held files d []
  | object {fs : Json.Fields} {text : String}
    (hread : d.readText files.here files.localFile = .ok text)
    (hjson : Json.read? text = some (.obj fs)) : Held files d fs

/-- The fields in a file are a layer. -/
theorem Held.layerAt_eq (h : Held files d fs) : layerAt d files.here files.localFile = fs := by
  cases h with
  | missing hfind => simp [layerAt, Disk.readText, Disk.read, hfind]
  | object hread hjson => simp [layerAt, hread, hjson]

/-- The fields in a file are what is written to. -/
theorem Held.current?_eq (h : Held files d fs) (s : Settings) (hs : s.files = files) :
    s.current? d files.localFile = some (.obj fs) := by
  subst hs
  cases h with
  | missing hfind => simp [current?, hfind]
  | object hread hjson =>
    obtain ⟨bytes, hbytes, -⟩ := Disk.readText_eq_ok.1 hread
    obtain ⟨loc, e, hlocate, hthere, -⟩ := Disk.read_eq_ok.1 hbytes
    simp [current?, Disk.find, hlocate, hthere, hread, hjson]

/-- The directory of the file of a project can be made, and then the file can be written. -/
theorem Held.exists_makePath (h : Held files d fs) (hfiles : files.Within project)
    (hrooted : d.Rooted) :
    ∃ d₁, d.makePath files.here (Path.ofString files.localFile).parent = .ok d₁
      ∧ d₁.locate files.here files.localFile = .ok (project.localSettings.locate files.here)
      ∧ d₁.occupant? (project.localSettings.locate files.here) ≠ some .directory := by
  have hplain := hfiles.plain
  have hparts : project.localSettings.parts ≠ [] := by simp [Project.localSettings, Path.child]
  have hname : project.localSettings.name = "config.json" := by
    simp [Path.name, Project.localSettings, Path.child]
  cases h with
  | @missing d₁ hfind hmake =>
    refine ⟨d₁, hmake, ?_⟩
    rw [hfiles.localFile] at hfind hmake ⊢
    rw [Path.ofString_toString hplain.toNormal] at hmake
    have hlocate := Disk.locate_of_makePath hplain hparts hfiles.absolute
      (by rw [hname]; decide) hfind hmake
    refine ⟨hlocate, fun hdir => ?_⟩
    -- A directory that stood there before would have been found.
    rw [Disk.occupant?_of_makePath hplain hparts hfiles.absolute hmake] at hdir
    have hgrows := Disk.makePath_grows hmake
    have hbefore := hgrows.locate_back hrooted hplain.not_mem_split hdir hlocate
    simp [Disk.find, hbefore, hdir] at hfind
  | object hread hjson =>
    obtain ⟨bytes, hbytes, -⟩ := Disk.readText_eq_ok.1 hread
    obtain ⟨loc, e, hlocate, hthere, -⟩ := Disk.read_eq_ok.1 hbytes
    have hvacant := Disk.occupant?_ne_directory hlocate hbytes
    rw [hfiles.localFile] at hlocate ⊢
    obtain rfl := Disk.locate_toString_eq hplain.toNormal hlocate
    rw [Path.ofString_toString hplain.toNormal]
    exact ⟨d, Disk.makePath_of_locate hplain hparts hfiles.absolute hlocate, hlocate, hvacant⟩

/-- Sound fields are written to a file as a whole. -/
theorem save_eq (s : Settings)
    (hmake : d.makePath s.files.here (Path.ofString file).parent = .ok d₁)
    (hlocate : d₁.locate s.files.here file = .ok loc)
    (hvacant : d₁.occupant? loc ≠ some .directory)
    (hsound : (Json.obj fields).Sound false false Json.levelLimit) :
    ∃ d₂, s.save d file fields = (true, d₂)
      ∧ d₁.Puts d₂ loc (Bytes.ofString ((Json.obj fields).renderText .file)) := by
  obtain ⟨d₂, hwrite, hputs⟩ := Disk.exists_write hlocate hvacant
  refine ⟨d₂, ?_, hputs⟩
  simp only [save, hmake, Json.excerpt_eq_whole hsound, Json.Excerpt.whole]
  rw [← Json.renderText, hwrite]

/-- Sound fields that are put in a file are the layer that is read from it. -/
theorem layerAt_of_puts {here : Location}
    (hputs : d₁.Puts d' loc (Bytes.ofString ((Json.obj fields).renderText .file)))
    (hlocate : d₁.locate here file = .ok loc)
    (hsound : (Json.obj fields).Sound false false Json.levelLimit) :
    layerAt d' here file = fields := by
  have hread : d'.readText here file = .ok ((Json.obj fields).renderText .file) :=
    Disk.readText_eq_ok.2 ⟨_, hputs.read hlocate, Bytes.toString?_ofString _⟩
  simp only [layerAt, hread, Json.read?_renderText hsound]

/-- Files at one location are one layer. -/
theorem layerAt_of_locate {here : Location} {other : String} (hfile : d.locate here file = .ok loc)
    (hother : d.locate here other = .ok loc) : layerAt d here other = layerAt d here file := by
  simp only [layerAt, Disk.readText, Disk.read, Disk.find, hfile, hother]

/-- Once the file of a project is written, the file for all projects holds what it held, unless both
are the same file. -/
theorem layerAt_globalFile (hfiles : files.Within project) (hrooted : d.Rooted)
    (hheld : Held files d fs) (hgrows : d.Grows d₁)
    (hlocate : d₁.locate files.here files.localFile = .ok loc)
    (hputs : d₁.Puts d' loc (Bytes.ofString ((Json.obj fields).renderText .file)))
    (hsound : (Json.obj fields).Sound false false Json.levelLimit) :
    layerAt d' files.here files.globalFile = layerAt d files.here files.globalFile
      ∨ layerAt d' files.here files.globalFile = fields
        ∧ layerAt d files.here files.globalFile = fs := by
  have hplain : project.localSettings.Plain := hfiles.plain
  have hglobal : layerAt d₁ files.here files.globalFile = layerAt d files.here files.globalFile :=
    layerAt_congr fun _ => hgrows.readText_iff hrooted hfiles.globalFile
  have hlocal : layerAt d₁ files.here files.localFile = layerAt d files.here files.localFile :=
    layerAt_congr fun _ => hgrows.readText_iff hrooted (hfiles.localFile ▸ hplain.not_mem_split)
  by_cases hsame : d₁.locate files.here files.globalFile = .ok loc
  · refine .inr ⟨layerAt_of_puts hputs hsame hsound, ?_⟩
    rw [← hglobal, layerAt_of_locate hlocate hsame, hlocal, hheld.layerAt_eq]
  · refine .inl ((layerAt_congr fun _ => hputs.readText_iff hsame).trans hglobal)

/-! ## Writing a key -/

/-- A key that is well formed: no name is empty, and the first one is that of a section. -/
structure WellFormed (key : String) : Prop where
  names : "" ∉ keyPath key
  known : (keyPath key).headD "" ∈ knownSections

/-- Under a well-formed key a value is planted in the object that the file holds. -/
theorem assign_eq {s : Settings} {scope : Scope} {key : String} {value : Json} {written : Bool}
    (hkey : WellFormed key) (hcurrent : s.current? d (s.file scope) = some (.obj fs))
    (hsave : s.save d (s.file scope) (plant value (keyPath key) fs) = (written, d')) :
    s.assign scope key value d = .ok (written, if written then load s.files d' else s, d') := by
  have hnames : (keyPath key).any (· == "") = false := by
    rw [List.any_eq_false]
    rintro name hname hempty
    exact hkey.names (eq_of_beq hempty ▸ hname)
  have hknown : knownSections.contains ((keyPath key).headD "") = true := by
    simpa using hkey.known
  simp only [assign, hnames, hknown, hcurrent, fieldsFor, hsave, Bool.false_eq_true, if_false,
    Bool.not_true]
  cases written <;> rfl

/-- A value other than an object is written under a well-formed key of the file of a project, which
is missing and can be made or holds an object: afterwards it is the value of the key. If nothing but
objects stood in its way, the keys that neither lead to it nor on from it keep their values. -/
theorem assign_local (hfiles : files.Within project) (hrooted : d.Rooted) (hheld : Held files d fs)
    {key : String} (hkey : WellFormed key) {value : Json} (hvalue : value.isObject = false)
    {levels : Nat} (hsound : value.Sound false false levels)
    (hlevels : (keyPath key).length + levels ≤ Json.levelLimit) :
    ∃ d', (load files d).assign .local key value d = .ok (true, load files d', d')
      ∧ (load files d').get? key = some value
      ∧ ((∀ q, q <+: namesOf key → q ≠ namesOf key →
            ∀ j, (Json.obj fs).walk q = some j → j.isObject = true) →
          ∀ other, ¬keyPath key <+: keyPath other → ¬keyPath other <+: keyPath key →
            (load files d').get? other = (load files d).get? other) := by
  obtain ⟨d₁, hmake, hlocate, hvacant⟩ := hheld.exists_makePath hfiles hrooted
  have hfields : (Json.obj (plant value (keyPath key) fs)).Sound false false Json.levelLimit := by
    obtain ⟨more, hmore⟩ := Nat.exists_eq_add_of_le hlevels
    rw [Nat.add_assoc] at hmore
    rw [hmore]
    refine sound_plant ?_ (hsound.mono (Nat.le_add_right _ _))
    rw [← hmore, ← hheld.layerAt_eq]
    exact sound_layerAt _ _ _
  obtain ⟨d', hsave, hputs⟩ := save_eq (load files d) hmake hlocate hvacant hfields
  have hlocal := layerAt_of_puts hputs hlocate hfields
  refine ⟨d', ?_, ?_, fun hobjects other hon hback => ?_⟩
  · exact assign_eq hkey (hheld.current?_eq _ rfl) hsave
  · refine get?_of_holds ?_ hvalue
    rw [hlocal]
    exact verdict_plant (by simpa [namesOf] using namesOf_ne_nil key)
  · have hverdict : (Json.obj (plant value (keyPath key) fs)).verdict (namesOf other)
        = (Json.obj fs).verdict (namesOf other) :=
      verdict_plant_of_not_prefix (Json.verdict_ne_blocked hobjects)
        (fun h => hon ((List.prefix_map_iff_of_injective Spelling.ofString_injective).1 h))
        (fun h => hback ((List.prefix_map_iff_of_injective Spelling.ofString_injective).1 h))
    refine get?_congr (by rw [hlocal, hheld.layerAt_eq, hverdict]) ?_
    rcases layerAt_globalFile hfiles hrooted hheld (Disk.makePath_grows hmake) hlocate hputs hfields
      with hsame | ⟨hafter, hbefore⟩
    · rw [hsame]
    · rw [hafter, hbefore, hverdict]

/-- The files of a project below the root, and of a home that is missing. -/
def loneFiles : SettingsFiles :=
  ⟨["p"], "/h/.bugduck/config.json", "/p/.bugduck/config.json"⟩

/-- This project. -/
def loneProject : Project := ⟨⟨1, ["p"]⟩, ⟨1, ["h"]⟩⟩

/-- A disk on which there is nothing but a value in the file of this project. -/
def loneDisk (j : Json) : Disk :=
  ⟨[(["p"], .directory), (["p", ".bugduck"], .directory),
    (["p", ".bugduck", "config.json"], .file (Bytes.ofString (j.renderText .file)))]⟩

/-- The files are those of the project. -/
theorem within_loneFiles : loneFiles.Within loneProject where
  root := ⟨⟨by decide, by decide, by decide⟩, by decide⟩
  absolute := rfl
  localFile := by decide
  globalFile := by decide

/-- Everything stands in a directory. -/
theorem rooted_loneDisk (j : Json) : (loneDisk j).Rooted :=
  Disk.rooted_of_keys (List.forall_mem_cons.2 ⟨rfl, List.forall_mem_cons.2 ⟨rfl,
    List.forall_mem_cons.2 ⟨rfl, nofun⟩⟩⟩)

/-- The file of the project leads to its location. -/
theorem locate_loneDisk (j : Json) :
    (loneDisk j).locate loneFiles.here loneFiles.localFile = .ok ["p", ".bugduck", "config.json"] :=
  Disk.locate_of_follow (by decide) (by decide) (by decide) rfl

/-- The text of the value is read. -/
theorem readText_loneDisk (j : Json) :
    (loneDisk j).readText loneFiles.here loneFiles.localFile = .ok (j.renderText .file) :=
  Disk.readText_eq_ok.2 ⟨_, Disk.read_eq_ok.2 ⟨_, _, locate_loneDisk j, rfl, rfl⟩,
    Bytes.toString?_ofString _⟩

/-- Something that is set for the history. -/
def loneFields : Json.Fields := [("history", .obj [("days", .int 7)])]

/-- The file holds it. -/
theorem held_loneFields : Held loneFiles (loneDisk (.obj loneFields)) loneFields := by
  refine .object (readText_loneDisk _) (Json.read?_renderText ?_)
  refine .obj (by decide) (by simp [Table.keys, loneFields]) ?_
  simp only [loneFields, List.forall_mem_singleton]
  refine .obj (by decide) (by simp [Table.keys]) ?_
  simp only [List.forall_mem_singleton]
  exact .int (by decide)

/-- Whether the history is kept is written beside what else is set for it. -/
theorem assign_local_beside :
    loneFiles.Within loneProject ∧ (loneDisk (.obj loneFields)).Rooted
      ∧ Held loneFiles (loneDisk (.obj loneFields)) loneFields
      ∧ WellFormed "history.enabled" ∧ (Json.bool false).Sound false false 0
      ∧ ∃ d', (load loneFiles (loneDisk (.obj loneFields))).assign .local "history.enabled"
            (.bool false) (loneDisk (.obj loneFields)) = .ok (true, load loneFiles d', d')
          ∧ (load loneFiles d').get? "history.enabled" = some (.bool false)
          ∧ (load loneFiles d').get? "history.days" = some (.int 7) := by
  have hkey : WellFormed "history.enabled" := ⟨by decide, by decide⟩
  obtain ⟨d', hassign, hget, hframe⟩ :=
    @assign_local loneFiles loneProject _ _ within_loneFiles (rooted_loneDisk _) held_loneFields
      "history.enabled" hkey (.bool false) rfl 0 (.bool false) (by decide)
  refine ⟨within_loneFiles, rooted_loneDisk _, held_loneFields, hkey, .bool false, d', hassign,
    hget, ?_⟩
  have hdays : namesOf "history.days" = [↑"history", ↑"days"] := by decide
  have henabled : namesOf "history.enabled" = [↑"history", ↑"enabled"] := by decide
  rw [hframe ?_ "history.days" (by decide) (by decide)]
  · refine get?_of_holds ?_ rfl
    rw [held_loneFields.layerAt_eq, hdays]
    rfl
  · intro q hq hne j hj
    rw [henabled] at hq hne
    rcases List.prefix_cons_iff.1 hq with rfl | ⟨rest, rfl, hrest⟩
    · cases hj
      rfl
    · rcases List.prefix_cons_iff.1 hrest with rfl | ⟨more, rfl, hmore⟩
      · cases hj
        rfl
      · obtain rfl := List.prefix_nil.1 hmore
        exact absurd rfl hne

/-! ## Too many names -/

/-- What is written is all there when the answer says so. -/
theorem complete_of_save {s : Settings} (h : s.save d file fields = (true, d')) :
    ((Json.obj fields).excerpt .file).complete = true := by
  rw [save] at h
  split at h
  · cases h
  · simp only at h
    split at h
    · exact (Prod.mk.inj h).1
    · cases h

/-- A value is not written under a key of more names than there are levels. -/
theorem assign_of_deep {s : Settings} {scope : Scope} {key : String} (value : Json)
    (hkey : WellFormed key) (hcurrent : s.current? d (s.file scope) = some (.obj fs))
    (hdeep : Json.levelLimit < (keyPath key).length) :
    ∃ d', s.assign scope key value d = .ok (false, s, d') := by
  obtain ⟨written, d', hsave⟩ : ∃ written d',
      s.save d (s.file scope) (plant value (keyPath key) fs) = (written, d') := ⟨_, _, rfl⟩
  cases written with
  | false => exact ⟨d', assign_eq hkey hcurrent hsave⟩
  | true =>
    have hexcerpt : ((Json.obj (plant value (keyPath key) fs)).excerpt .file).complete = false :=
      excerptAt_plant hdeep
    cases (complete_of_save hsave).symm.trans hexcerpt

/-- The names of a key of more names than there are levels. -/
def deepNames : List String := "history" :: List.replicate 2000 "a"

/-- This key. -/
def deepKey : String := String.intercalate "." deepNames

/-- The key is made of its names. -/
theorem keyPath_deepKey : keyPath deepKey = deepNames := by
  have hjoin : deepKey.toList = joinPieces '.' (deepNames.map String.toList) :=
    Text.toList_intercalate_singleton '.' deepNames
  have hpieces : pieces '.' deepKey.toList = deepNames.map String.toList := by
    rw [hjoin]
    refine pieces_joinPieces (List.cons_ne_nil _ _) ?_
    rw [deepNames, List.map_cons, List.map_replicate]
    refine List.forall_mem_cons.2 ⟨by decide, fun p hp => ?_⟩
    rw [List.eq_of_mem_replicate hp]
    decide
  rw [keyPath, split, hpieces, List.map_map]
  simp [Function.comp_def]

/-- The key is well formed. -/
theorem wellFormed_deepKey : WellFormed deepKey := by
  refine ⟨?_, ?_⟩
  · rw [keyPath_deepKey, deepNames, List.mem_cons, not_or]
    exact ⟨by decide, fun h => absurd (List.eq_of_mem_replicate h) (by decide)⟩
  · rw [keyPath_deepKey]
    decide

/-- The key has too many names. -/
theorem lt_length_deepKey : Json.levelLimit < (keyPath deepKey).length := by
  rw [keyPath_deepKey, deepNames, List.length_cons, List.length_replicate]
  decide

/-- A truth value is not written under this key, although the file of the project holds an
object. -/
theorem assign_deepKey :
    loneFiles.Within loneProject ∧ (loneDisk (.obj loneFields)).Rooted
      ∧ Held loneFiles (loneDisk (.obj loneFields)) loneFields ∧ WellFormed deepKey
      ∧ ∃ d', (load loneFiles (loneDisk (.obj loneFields))).assign .local deepKey (.bool true)
          (loneDisk (.obj loneFields))
          = .ok (false, load loneFiles (loneDisk (.obj loneFields)), d') := by
  refine ⟨within_loneFiles, rooted_loneDisk _, held_loneFields, wellFormed_deepKey, ?_⟩
  exact assign_of_deep (.bool true) wellFormed_deepKey (held_loneFields.current?_eq _ rfl)
    lt_length_deepKey

end Settings

end Sabotage
