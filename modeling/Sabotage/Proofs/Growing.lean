import Mathlib.Data.List.Induction
import Sabotage.Proofs.Replacing
import Sabotage.Surroundings

/-!
# Disks that grow directories

Making directories leaves what stands on a disk alone (`Disk.Grows`), and making them once more
changes nothing (`Disk.makePath_again`). On a disk where everything stands in a directory
(`Disk.Rooted`) no new directory leads to a file that no path led to before: what is read by a path
that never leads up is read there before and after (`Disk.Grows.readText_iff`), and so are the
settings of a project (`Surroundings.settings_eq`).
-/

namespace Sabotage

/-! ## Paths that never lead up -/

/-- A path in normal form without double dots. -/
structure Path.Plain (p : Path) : Prop extends Path.Normal p where
  level : ".." ∉ p.parts

/-- A path that never leads up does not do so when it is followed name by name. -/
theorem Path.Plain.not_mem_split {p : Path} (h : p.Plain) : ".." ∉ Text.split '/' p.toString := by
  intro hmem
  have hparts : ".." ∈ (Text.split '/' p.toString).filter Path.isProper :=
    List.mem_filter.2 ⟨hmem, by decide⟩
  rw [Path.filter_split_toString h.toNormal] at hparts
  exact h.level hparts

/-- One component further down a path still never leads up. -/
theorem Path.Plain.child {p : Path} (h : p.Plain) {part : String}
    (hproper : Path.isProper part = true) (hslash : '/' ∉ part.toList) (hup : part ≠ "..") :
    (p.child part).Plain where
  toNormal := h.toNormal.child hproper hslash
  level := by
    intro hmem
    rcases List.mem_append.1 hmem with hmem | hmem
    · exact h.level hmem
    · exact hup (List.mem_singleton.1 hmem).symm

/-- A path without double dots leads to its components one after the other. -/
theorem Path.locate_of_level {p : Path} (h : ".." ∉ p.parts) (here : Location) :
    p.locate here = (if p.isAbsolute then [] else here) ++ p.parts := by
  rw [Path.locate]
  generalize (if p.isAbsolute then [] else here) = loc
  generalize p.parts = parts at h
  induction parts generalizing loc with
  | nil => rw [List.foldl_nil, List.append_nil]
  | cons part rest ih =>
    obtain ⟨hpart, hrest⟩ := not_or.1 (mt List.mem_cons.2 h)
    rw [List.foldl_cons, Path.step, if_neg (Ne.symm hpart), ih _ hrest, List.append_assoc,
      List.singleton_append]

/-- A project whose root and home are given by paths that never lead up. -/
structure Project.Plain (p : Project) : Prop where
  root : p.root.Plain
  home : p.home.Plain

namespace Disk
variable {d d' d'' : Disk} {here loc target : Location} {text : String}

/-- A disk on which everything stands in a directory. -/
def Rooted (d : Disk) : Prop :=
  ∀ loc, d.occupant? loc ≠ none → d.occupant? loc.dropLast = some .directory

/-- A disk is rooted when all that was put on it was put into directories. -/
theorem rooted_of_keys
    (h : ∀ l ∈ Table.keys d.entries, d.occupant? l.dropLast = some .directory) : d.Rooted := by
  intro loc hthere
  by_cases hroot : loc = []
  · rw [hroot]
    rfl
  · refine h loc (Table.isSome_lookup_iff.1 ?_)
    rw [occupant?, if_neg hroot] at hthere
    exact Option.isSome_iff_ne_none.2 hthere

/-- Above all that stands on a disk are directories. -/
theorem Rooted.directory_of_prefix (h : d.Rooted) (hthere : d.occupant? target ≠ none)
    (hbelow : loc <+: target) (hne : loc ≠ target) : d.occupant? loc = some .directory := by
  obtain ⟨rest, rfl⟩ := hbelow
  induction rest using List.reverseRecOn with
  | nil => exact absurd (List.append_nil loc).symm hne
  | append_singleton rest name ih =>
    have habove := h _ hthere
    rw [← List.append_assoc, List.dropLast_concat] at habove
    by_cases hrest : rest = []
    · rwa [hrest, List.append_nil] at habove
    · refine ih (by rw [habove]; exact Option.some_ne_none _) fun heq => hrest ?_
      exact List.append_right_eq_self.1 heq.symm

/-- Names that do not lead up lead further down. -/
theorem prefix_of_follow {parts : List String} (hup : ".." ∉ parts)
    (h : d.follow loc parts = .ok target) : loc <+: target := by
  induction parts generalizing loc with
  | nil =>
    cases h
    exact List.prefix_rfl
  | cons part rest ih =>
    obtain ⟨hpart, hrest⟩ := not_or.1 (mt List.mem_cons.2 hup)
    obtain ⟨-, h⟩ := follow_cons_eq_ok.1 h
    split at h
    · have hstep : Path.step loc part = loc ++ [part] := if_neg (Ne.symm hpart)
      exact (hstep ▸ List.prefix_append loc [part]).trans (ih hrest h.2)
    · exact ih hrest h

/-! ## Growing -/

/-- A disk on which nothing is changed but that there may be more directories. -/
structure Grows (d d' : Disk) : Prop where
  kept : ∀ {loc e}, d.occupant? loc = some e → d'.occupant? loc = some e
  added : ∀ {loc e}, d'.occupant? loc = some e → e = .directory ∨ d.occupant? loc = some e

/-- A disk grows into itself. -/
theorem Grows.refl (d : Disk) : d.Grows d :=
  ⟨id, .inr⟩

/-- Growing twice is growing. -/
theorem Grows.trans (h : d.Grows d') (h' : d'.Grows d'') : d.Grows d'' where
  kept hthere := h'.kept (h.kept hthere)
  added hthere := by
    rcases h'.added hthere with rfl | hthere
    · exact .inl rfl
    · exact h.added hthere

/-- The files of a disk that grows stay what they are. -/
theorem Grows.file_iff (h : d.Grows d') {e : Entry} (hfile : e ≠ .directory) :
    d'.occupant? loc = some e ↔ d.occupant? loc = some e :=
  ⟨fun hthere => (h.added hthere).resolve_left hfile, h.kept⟩

/-- A path that leads somewhere leads there when the disk has grown. -/
theorem Grows.locate (h : d.Grows d') (hlocate : d.locate here text = .ok loc) :
    d'.locate here text = .ok loc :=
  locate_mono (fun _ => h.kept) hlocate

/-- What is read is read when the disk has grown. -/
theorem Grows.read (h : d.Grows d') {bytes : Bytes} (hread : d.read here text = .ok bytes) :
    d'.read here text = .ok bytes := by
  obtain ⟨loc, e, hlocate, hthere, hcontent⟩ := read_eq_ok.1 hread
  exact read_eq_ok.2 ⟨loc, e, h.locate hlocate, h.kept hthere, hcontent⟩

/-- A text that is read is read when the disk has grown. -/
theorem Grows.readText (h : d.Grows d') {read : String} (hread : d.readText here text = .ok read) :
    d'.readText here text = .ok read := by
  obtain ⟨bytes, hbytes, htext⟩ := readText_eq_ok.1 hread
  exact readText_eq_ok.2 ⟨bytes, h.read hbytes, htext⟩

/-- What is read when the disk has grown was read before by a path that led to something. -/
theorem Grows.readText_back (h : d.Grows d') {e : Entry} (hlocate : d.locate here text = .ok loc)
    (hthere : d.occupant? loc = some e) {read : String} (hread : d'.readText here text = .ok read) :
    d.readText here text = .ok read := by
  obtain ⟨bytes, hbytes, htext⟩ := readText_eq_ok.1 hread
  obtain ⟨loc', e', hlocate', hthere', hcontent⟩ := read_eq_ok.1 hbytes
  obtain rfl := Except.ok.inj ((h.locate hlocate).symm.trans hlocate')
  obtain rfl := Option.some.inj ((h.kept hthere).symm.trans hthere')
  exact readText_eq_ok.2 ⟨bytes, read_eq_ok.2 ⟨loc, e, hlocate, hthere, hcontent⟩, htext⟩

/-- Names that do not lead up lead to what stood there only through directories that were there
before. -/
theorem Grows.follow_back (h : d.Grows d') (hrooted : d.Rooted) {parts : List String}
    (hup : ".." ∉ parts) {e : Entry} (hthere : d.occupant? target = some e)
    (hfollow : d'.follow loc parts = .ok target) : d.follow loc parts = .ok target := by
  induction parts generalizing loc with
  | nil => exact hfollow
  | cons part rest ih =>
    have hbelow := prefix_of_follow hup hfollow
    obtain ⟨-, hrest⟩ := not_or.1 (mt List.mem_cons.2 hup)
    obtain ⟨hdir, hfollow⟩ := follow_cons_eq_ok.1 hfollow
    have hbefore : d.occupant? loc = some .directory := by
      by_cases hne : loc = target
      · subst hne
        rwa [← hdir, h.kept hthere]
      · refine hrooted.directory_of_prefix ?_ hbelow hne
        rw [hthere]
        exact Option.some_ne_none e
    refine follow_cons_eq_ok.2 ⟨hbefore, ?_⟩
    split
    · next hproper =>
      rw [if_pos hproper] at hfollow
      exact ⟨hfollow.1, ih hrest hfollow.2⟩
    · next hproper =>
      rw [if_neg hproper] at hfollow
      exact ih hrest hfollow

/-- A path that never leads up leads to what stood there only through directories that were there
before. -/
theorem Grows.locate_back (h : d.Grows d') (hrooted : d.Rooted) (hup : ".." ∉ Text.split '/' text)
    {e : Entry} (hthere : d.occupant? loc = some e) (hlocate : d'.locate here text = .ok loc) :
    d.locate here text = .ok loc := by
  rw [Disk.locate] at hlocate ⊢
  split at hlocate
  · cases hlocate
  · split at hlocate
    · cases hlocate
    · split at hlocate
      · cases hlocate
      · next hname hempty hlong =>
        rw [if_neg hname, if_neg hempty, if_neg hlong]
        exact h.follow_back hrooted hup hthere hlocate

/-- By a path that never leads up, the same texts are read before a disk grows and after. -/
theorem Grows.readText_iff (h : d.Grows d') (hrooted : d.Rooted)
    (hup : ".." ∉ Text.split '/' text) {read : String} :
    d'.readText here text = .ok read ↔ d.readText here text = .ok read := by
  refine ⟨fun hread => ?_, h.readText⟩
  obtain ⟨bytes, hbytes, htext⟩ := readText_eq_ok.1 hread
  obtain ⟨loc, e, hlocate, hthere, hcontent⟩ := read_eq_ok.1 hbytes
  have hfile : e ≠ .directory := by
    rintro rfl
    cases hcontent
  have hthere := (h.file_iff hfile).1 hthere
  exact h.readText_back (h.locate_back hrooted hup hthere hlocate) hthere hread

/-! ## Making directories -/

/-- A directory where nothing stood makes a disk grow. -/
theorem grows_set (h : d.occupant? loc = none) : d.Grows (d.set loc .directory) := by
  have hroot : loc ≠ [] := by
    rintro rfl
    cases h
  refine ⟨fun {l e} hthere => ?_, fun {l e} hthere => ?_⟩
  · have hne : l ≠ loc := by
      rintro rfl
      cases h.symm.trans hthere
    rw [occupant?_set_of_ne hne, hthere]
  · by_cases hl : l = loc
    · subst hl
      rw [occupant?_set hroot] at hthere
      exact .inl (Option.some.inj hthere).symm
    · rw [occupant?_set_of_ne hl] at hthere
      exact .inr hthere

/-- Making directories makes a disk grow. -/
theorem makeFrom_grows {parts : List String} (h : d.makeFrom loc parts = .ok d') : d.Grows d' := by
  induction parts generalizing d loc with
  | nil =>
    cases h
    exact .refl _
  | cons part rest ih =>
    simp only [makeFrom] at h
    split at h
    · cases h
    · split at h
      · exact ih h
      · cases h
      · next hnone => exact (grows_set hnone).trans (ih h)

/-- Making directories changes nothing where all that were made are there. -/
theorem makeFrom_again {parts : List String} (h : d.makeFrom loc parts = .ok d')
    (hdirs : ∀ {l}, d'.occupant? l = some .directory → d''.occupant? l = some .directory) :
    d''.makeFrom loc parts = .ok d'' := by
  induction parts generalizing d loc with
  | nil => rfl
  | cons part rest ih =>
    simp only [makeFrom] at h ⊢
    split at h
    · cases h
    · next hshort =>
      rw [if_neg hshort]
      split at h
      · next hdir => simpa only [hdirs ((makeFrom_grows h).kept hdir)] using ih h
      · cases h
      · next hnone =>
        have hroot : Path.step loc part ≠ [] := by
          intro hroot
          rw [hroot] at hnone
          cases hnone
        have hdir := (makeFrom_grows h).kept (occupant?_set hroot d .directory)
        simpa only [hdirs hdir] using ih h

/-- Making directories down from a location touches nothing but what lies above their end. -/
theorem makeFrom_elsewhere {parts : List String} {l : Location} (hup : ".." ∉ parts)
    (h : d.makeFrom loc parts = .ok d') (hl : ¬l <+: loc ++ parts) :
    d'.occupant? l = d.occupant? l := by
  induction parts generalizing d loc with
  | nil =>
    cases h
    rfl
  | cons part rest ih =>
    obtain ⟨hpart, hrest⟩ := not_or.1 (mt List.mem_cons.2 hup)
    have hstep : Path.step loc part = loc ++ [part] := if_neg (Ne.symm hpart)
    rw [List.append_cons] at hl
    simp only [makeFrom, hstep] at h
    split at h
    · cases h
    · split at h
      · exact ih hrest h hl
      · cases h
      · rw [ih hrest h hl, occupant?_set_of_ne]
        rintro rfl
        exact hl (List.prefix_append _ rest)

/-- Making the directories of a path makes a disk grow. -/
theorem makePath_grows {p : Path} (h : d.makePath here p = .ok d') : d.Grows d' :=
  makeFrom_grows h

/-- Making the directories of a path once more changes nothing. -/
theorem makePath_again {p : Path} (h : d.makePath here p = .ok d')
    (hdirs : ∀ {l}, d'.occupant? l = some .directory → d''.occupant? l = some .directory) :
    d''.makePath here p = .ok d'' :=
  makeFrom_again h hdirs

/-- Making the directories of a path that never leads up touches nothing but what lies above its
end. -/
theorem makePath_elsewhere {p : Path} {l : Location} (hhere : ".." ∉ here) (hup : ".." ∉ p.parts)
    (h : d.makePath here p = .ok d') (hl : ¬l <+: p.locate here) :
    d'.occupant? l = d.occupant? l := by
  rw [Path.locate_of_level hup] at hl
  refine makeFrom_elsewhere ?_ h hl
  rw [List.mem_append, not_or]
  refine ⟨?_, hup⟩
  split
  · exact List.not_mem_nil
  · exact hhere

end Disk

namespace Editor
variable {e : Editor} {d d' : Disk}

/-- Getting an editor ready makes a disk grow. -/
theorem prepare_grows (h : e.prepare d = .ok d') : d.Grows d' := by
  rw [prepare] at h
  split at h
  · exact Disk.makePath_grows h
  · cases h
    exact .refl d

/-- Getting an editor ready once more changes nothing. -/
theorem prepare_again (h : e.prepare d = .ok d') : e.prepare d' = .ok d' := by
  rw [prepare] at h ⊢
  split at h
  · next hbackups =>
    rw [if_pos hbackups]
    exact Disk.makePath_again h id
  · next hbackups => rw [if_neg hbackups]

end Editor

/-! ## Settings -/

/-- The fields that a file holds are told by the text read from it. -/
theorem layerAt_congr {d d' : Disk} {here : Location} {file : String}
    (h : ∀ text, d'.readText here file = .ok text ↔ d.readText here file = .ok text) :
    layerAt d' here file = layerAt d here file := by
  rw [layerAt, layerAt]
  cases hread : d.readText here file with
  | ok text => rw [(h text).2 hread]
  | error e =>
    cases hread' : d'.readText here file with
    | ok text => rw [(h text).1 hread'] at hread; cases hread
    | error e' => rfl

/-- A file that is missing holds no fields. -/
theorem layerAt_of_missing {d : Disk} {here : Location} {file : String}
    (h : d.occupant? ((Path.ofString file).locate here) = none) : layerAt d here file = [] := by
  rw [layerAt]
  split
  · next text hread =>
    obtain ⟨bytes, hbytes, -⟩ := Disk.readText_eq_ok.1 hread
    obtain ⟨loc, e, hlocate, hthere, -⟩ := Disk.read_eq_ok.1 hbytes
    obtain rfl := Disk.locate_eq hlocate
    cases h.symm.trans hthere
  · rfl

/-- A project without settings of its own or for all projects has the defaults. -/
theorem Surroundings.settings_of_missing {s : Surroundings} {d : Disk}
    (hglobal : d.occupant? ((Path.ofString s.project.globalSettings.toString).locate s.here) = none)
    (hlocal : d.occupant? ((Path.ofString s.project.localSettings.toString).locate s.here) = none) :
    (s.settings d).values = mergeFields [] defaultSettings := by
  simp only [Surroundings.settings, Settings.load, loadLayers, layerAt_of_missing hglobal,
    layerAt_of_missing hlocal, mergeFields]

/-- The settings of a project are the same when the disk has grown. -/
theorem Surroundings.settings_eq {s : Surroundings} (hplain : s.project.Plain) {d d' : Disk}
    (hrooted : d.Rooted) (h : d.Grows d') : s.settings d' = s.settings d := by
  have hdirectory {p : Path} (hp : p.Plain) : (p.child Project.directoryName).Plain :=
    hp.child (by decide) (by decide) (by decide)
  have hlayer {p : Path} (hp : p.Plain) :
      layerAt d' s.here ((p.child Project.directoryName).child "config.json").toString =
        layerAt d s.here ((p.child Project.directoryName).child "config.json").toString := by
    refine layerAt_congr fun text => h.readText_iff hrooted ?_
    exact ((hdirectory hp).child (by decide) (by decide) (by decide)).not_mem_split
  have hlocal := hlayer hplain.root
  have hglobal := hlayer hplain.home
  simp only [Surroundings.settings, Settings.load, loadLayers, Project.globalSettings,
    Project.localSettings, Project.directory, hlocal, hglobal]

end Sabotage
