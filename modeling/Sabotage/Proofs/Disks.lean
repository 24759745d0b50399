import Sabotage.Disk.Basic
import Sabotage.Proofs.PathTexts

/-!
# Where paths lead

A path text and the normal form of the path read from it lead to the same location
(`Disk.locate_normal`). Where a path leads depends on the directories alone, so that a file put
where no directory stands (`Disk.Puts`) leaves every path where it led (`Disk.Puts.locate_iff`).
-/

namespace Sabotage.Disk
variable {d d' : Disk} {here loc target : Location} {text : String} {bytes : Bytes}

/-! ## Following names -/

/-- A location is a directory when one stands there. -/
theorem checkDirectory_eq_ok :
    d.checkDirectory loc = .ok () ↔ d.occupant? loc = some .directory := by
  rw [checkDirectory]
  split <;> simp_all

/-- Names lead on from a directory: a proper one takes a step, another stays. -/
theorem follow_cons_eq_ok {part : String} {rest : List String} :
    d.follow loc (part :: rest) = .ok target ↔ d.occupant? loc = some .directory ∧
      if Path.isProper part = true then
        part.utf8ByteSize ≤ nameLimit ∧ d.follow (Path.step loc part) rest = .ok target
      else d.follow loc rest = .ok target := by
  rw [follow, ← checkDirectory_eq_ok]
  cases d.checkDirectory loc with
  | error e => simp
  | ok _ =>
    by_cases hstay : part = "" ∨ part = "."
    · have hproper : Path.isProper part = false := by
        rcases hstay with rfl | rfl <;> decide
      simp [hstay, hproper]
    · have hproper : Path.isProper part = true := by
        simpa [Path.isProper] using hstay
      by_cases hup : part = ".."
      · subst hup
        have hshort : "..".utf8ByteSize ≤ nameLimit := by decide
        simp [hproper, Path.step, hshort]
      · by_cases hlong : part.utf8ByteSize > nameLimit
        · simp [hstay, hproper, hup, hlong, Nat.not_le.2 hlong]
        · simp [hstay, hproper, hup, hlong, Nat.not_lt.1 hlong, Path.step]

/-- Without the names that stay where they are, names lead to the same location. -/
theorem follow_filter {parts : List String} (h : d.follow loc parts = .ok target) :
    d.follow loc (parts.filter Path.isProper) = .ok target := by
  induction parts generalizing loc with
  | nil => exact h
  | cons part rest ih =>
    obtain ⟨hdir, hrest⟩ := follow_cons_eq_ok.1 h
    by_cases hproper : Path.isProper part = true
    · rw [if_pos hproper] at hrest
      rw [List.filter_cons_of_pos hproper, follow_cons_eq_ok, if_pos hproper]
      exact ⟨hdir, hrest.1, ih hrest.2⟩
    · rw [if_neg hproper] at hrest
      rw [List.filter_cons_of_neg hproper]
      exact ih hrest

/-- Names lead to the same location on a disk that has all the directories. -/
theorem follow_mono
    (hdirs : ∀ l, d.occupant? l = some .directory → d'.occupant? l = some .directory)
    {parts : List String} (h : d.follow loc parts = .ok target) :
    d'.follow loc parts = .ok target := by
  induction parts generalizing loc with
  | nil => exact h
  | cons part rest ih =>
    rw [follow_cons_eq_ok] at h ⊢
    refine ⟨hdirs loc h.1, ?_⟩
    by_cases hproper : Path.isProper part = true
    · rw [if_pos hproper] at h ⊢
      exact ⟨h.2.1, ih h.2.2⟩
    · rw [if_neg hproper] at h ⊢
      exact ih h.2

/-! ## Locating -/

/-- A path text leads where its names lead. -/
theorem follow_of_locate (h : d.locate here text = .ok target) :
    d.follow (if (Path.ofString text).isAbsolute then [] else here) (Text.split '/' text) =
      .ok target := by
  rw [locate] at h
  split at h
  · cases h
  · split at h
    · cases h
    · split at h
      · cases h
      · rwa [Path.startsWith_eq_isAbsolute] at h

/-- Where the names of a path text lead, the text leads, if it can be a path. -/
theorem locate_of_follow (hname : '\x00' ∉ text.toList) (hempty : text ≠ "")
    (hshort : text.utf8ByteSize < pathLimit)
    (h : d.follow (if (Path.ofString text).isAbsolute then [] else here) (Text.split '/' text) =
      .ok loc) : d.locate here text = .ok loc := by
  rw [locate, String.contains_char_eq, if_neg (by simpa using hname), if_neg hempty,
    if_neg (Nat.not_le_of_lt hshort), Path.startsWith_eq_isAbsolute, h]

/-- When a path text and its normal form both lead somewhere, it is to the same location. -/
theorem locate_normal (h : d.locate here text = .ok loc)
    (hnormal : d.locate here (Path.ofString text).toString = .ok target) : target = loc := by
  have hread := Path.normal_ofString text
  have h := follow_filter (follow_of_locate h)
  have hnormal := follow_filter (follow_of_locate hnormal)
  rw [Path.filter_split_toString hread, Path.ofString_toString hread] at hnormal
  exact Except.ok.inj (hnormal.symm.trans h)

/-- A path text leads to the same location on a disk that has all the directories. -/
theorem locate_mono
    (hdirs : ∀ l, d.occupant? l = some .directory → d'.occupant? l = some .directory)
    (h : d.locate here text = .ok target) : d'.locate here text = .ok target := by
  rw [locate] at h ⊢
  split at h
  · cases h
  · split at h
    · cases h
    · split at h
      · cases h
      · next hname hempty hlong =>
        rw [if_neg hname, if_neg hempty, if_neg hlong]
        exact follow_mono hdirs h

/-- What is read stands where the path leads. -/
theorem read_eq_ok : d.read here text = .ok bytes ↔
    ∃ loc e, d.locate here text = .ok loc ∧ d.occupant? loc = some e ∧ content e = .ok bytes := by
  rw [read, find]
  cases hlocate : d.locate here text with
  | error e => simp
  | ok loc =>
    cases hthere : d.occupant? loc with
    | none => simp [hthere]
    | some e => simp [hthere]

/-- When a path text and its normal form can both be read, the same is read. -/
theorem read_normal {other : Bytes} (h : d.read here text = .ok bytes)
    (hnormal : d.read here (Path.ofString text).toString = .ok other) : other = bytes := by
  obtain ⟨loc, e, hlocate, hthere, hcontent⟩ := read_eq_ok.1 h
  obtain ⟨target, e', hlocate', hthere', hcontent'⟩ := read_eq_ok.1 hnormal
  obtain rfl := locate_normal hlocate hlocate'
  obtain rfl := Option.some.inj (hthere'.symm.trans hthere)
  exact Except.ok.inj (hcontent'.symm.trans hcontent)

/-- No directory stands where a path leads that can be read. -/
theorem occupant?_ne_directory (hlocate : d.locate here text = .ok loc)
    (hread : d.read here text = .ok bytes) : d.occupant? loc ≠ some .directory := by
  obtain ⟨l, e, hl, hthere, hcontent⟩ := read_eq_ok.1 hread
  obtain rfl := Except.ok.inj (hlocate.symm.trans hl)
  rw [hthere]
  rintro ⟨⟩
  cases hcontent

/-- A path text leads to a directory when one stands where it leads. -/
theorem isDirectory_iff : d.isDirectory here text = true ↔
    ∃ loc, d.locate here text = .ok loc ∧ d.occupant? loc = some .directory := by
  rw [isDirectory, find]
  cases hlocate : d.locate here text with
  | error e => simp
  | ok loc =>
    cases hthere : d.occupant? loc with
    | none => simp [hthere]
    | some e => cases e <;> simp [hthere]

/-- A path that leads elsewhere leads to no directory. -/
theorem isDirectory_eq_false (hlocate : d.locate here text = .ok loc)
    (hvacant : d.occupant? loc ≠ some .directory) : d.isDirectory here text = false := by
  refine Bool.eq_false_iff.2 fun hdirectory => ?_
  obtain ⟨place, hplace, hthere⟩ := isDirectory_iff.1 hdirectory
  obtain rfl := Except.ok.inj (hlocate.symm.trans hplace)
  exact hvacant hthere

/-- A copy to where no directory stands goes there. -/
theorem destination_eq (source : String) (hlocate : d.locate here text = .ok loc)
    (hvacant : d.occupant? loc ≠ some .directory) : d.destination here source text = text := by
  rw [destination, isDirectory_eq_false hlocate hvacant, if_neg Bool.false_ne_true]

/-- Something stands where a path leads that can be read. -/
theorem exists?_eq_true (h : d.read here text = .ok bytes) : d.exists? here text = .ok true := by
  obtain ⟨loc, e, hlocate, hthere, -⟩ := read_eq_ok.1 h
  simp [exists?, find, hlocate, hthere]

/-- Proper names lead where their steps do. -/
theorem follow_eq_foldl {parts : List String} (hproper : ∀ part ∈ parts, Path.isProper part = true)
    (h : d.follow loc parts = .ok target) : target = parts.foldl Path.step loc := by
  induction parts generalizing loc with
  | nil => cases h; rfl
  | cons part rest ih =>
    obtain ⟨hpart, hrest⟩ := List.forall_mem_cons.1 hproper
    obtain ⟨-, h⟩ := follow_cons_eq_ok.1 h
    rw [if_pos hpart] at h
    exact ih hrest h.2

/-- Where a path text leads, if anywhere, does not depend on the disk. -/
theorem locate_eq (h : d.locate here text = .ok loc) : loc = (Path.ofString text).locate here :=
  follow_eq_foldl (fun _ hpart => (List.mem_filter.1 hpart).2)
    (follow_filter (follow_of_locate h))

/-- Where a path written as a text leads, if anywhere, does not depend on the disk. -/
theorem locate_toString_eq {p : Path} (hp : p.Normal) (h : d.locate here p.toString = .ok loc) :
    loc = p.locate here := by
  rw [locate_eq h, Path.ofString_toString hp]

/-- A path without components leads to a directory. -/
theorem parts_ne_nil (h : d.locate here text = .ok loc)
    (hfile : d.occupant? loc ≠ some .directory) : (Path.ofString text).parts ≠ [] := by
  intro hparts
  obtain ⟨part, rest, hsplit⟩ : ∃ part rest, Text.split '/' text = part :: rest :=
    ⟨_, _, rfl⟩
  have hfollow := follow_of_locate h
  rw [hsplit] at hfollow
  have hloc := locate_eq h
  rw [Path.locate, hparts, List.foldl_nil] at hloc
  exact hfile (hloc ▸ (follow_cons_eq_ok.1 hfollow).1)

/-- Names one after the other lead on. -/
theorem follow_append {parts rest : List String} (h : d.follow loc (parts ++ rest) = .ok target) :
    ∃ mid, d.follow loc parts = .ok mid ∧ d.follow mid rest = .ok target := by
  induction parts generalizing loc with
  | nil => exact ⟨loc, rfl, h⟩
  | cons part parts ih =>
    obtain ⟨hdir, h⟩ := follow_cons_eq_ok.1 h
    split at h
    · next hproper =>
      obtain ⟨mid, hmid, hrest⟩ := ih h.2
      exact ⟨mid, follow_cons_eq_ok.2 ⟨hdir, by rw [if_pos hproper]; exact ⟨h.1, hmid⟩⟩, hrest⟩
    · next hproper =>
      obtain ⟨mid, hmid, hrest⟩ := ih h
      exact ⟨mid, follow_cons_eq_ok.2 ⟨hdir, by rwa [if_neg hproper]⟩, hrest⟩

/-- One name after a path text leads at most a step on. -/
theorem locate_append {name : String} (hslash : '/' ∉ name.toList)
    (hlocate : d.locate here text = .ok loc)
    (h : d.locate here (text ++ "/" ++ name) = .ok target) :
    target = loc ∨ target = Path.step loc name := by
  have hchars : (text ++ "/" ++ name).toList = text.toList ++ '/' :: name.toList := by simp
  have hsplit : Text.split '/' (text ++ "/" ++ name) = Text.split '/' text ++ [name] := by
    rw [Text.split, hchars, Text.pieces_append, Text.pieces_eq_singleton hslash, List.map_append,
      List.map_singleton, String.ofList_toList]
    rfl
  have hroot : (Path.ofString (text ++ "/" ++ name)).isAbsolute =
      (Path.ofString text).isAbsolute := by
    rw [← Path.startsWith_eq_isAbsolute, ← Path.startsWith_eq_isAbsolute, Bool.eq_iff_iff,
      String.startsWith_string_iff, String.startsWith_string_iff, hchars]
    cases hcs : text.toList with
    | nil =>
      obtain rfl := String.toList_eq_nil_iff.1 hcs
      simp [locate] at hlocate
    | cons c cs => simp [List.cons_prefix_cons]
  have hfollow := follow_of_locate h
  rw [hsplit, hroot] at hfollow
  obtain ⟨mid, hmid, hlast⟩ := follow_append hfollow
  obtain rfl := Except.ok.inj ((follow_of_locate hlocate).symm.trans hmid)
  obtain ⟨-, hlast⟩ := follow_cons_eq_ok.1 hlast
  split at hlast
  · exact .inr (Except.ok.inj hlast.2).symm
  · exact .inl (Except.ok.inj hlast).symm

/-! ## Bad names -/

/-- A path that leads somewhere holds no NUL character. -/
theorem not_mem_of_locate (h : d.locate here text = .ok loc) : '\x00' ∉ text.toList := by
  rw [locate, String.contains_char_eq] at h
  intro hmem
  rw [if_pos (decide_eq_true hmem)] at h
  cases h

/-- Names are followed without regard to NUL characters. -/
theorem follow_ne_badName (d : Disk) (loc : Location) (parts : List String) :
    d.follow loc parts ≠ .error .badName := by
  induction loc, parts using follow.induct d with
  | case1 => simp [follow]
  | case2 loc part rest e hcheck =>
    have hname : e ≠ .badName := by
      rw [checkDirectory] at hcheck
      split at hcheck <;> cases hcheck <;> simp
    simp [follow, hcheck, hname]
  | case3 loc part rest hcheck hstay ih => simpa [follow, hcheck, hstay] using ih
  | case4 loc rest hcheck hmove ih => simpa [follow, hcheck] using ih
  | case5 loc part rest hcheck hmove hup hlong => simp [follow, hcheck, hmove, hup, hlong]
  | case6 loc part rest hcheck hmove hup hshort ih =>
    simpa [follow, hcheck, hmove, hup, hshort] using ih

/-- Only a path with a NUL character is a bad name to read. -/
theorem read_ne_badName (h : '\x00' ∉ text.toList) : d.read here text ≠ .error .badName := by
  have hlocate : d.locate here text ≠ .error .badName := by
    rw [locate, String.contains_char_eq, if_neg (by simpa using h)]
    split
    · simp
    · split
      · simp
      · exact follow_ne_badName d _ _
  rw [read, find]
  cases hfound : d.locate here text with
  | error e => simpa [hfound] using hlocate
  | ok loc =>
    cases hthere : d.occupant? loc with
    | none => simp [hthere]
    | some e => cases e <;> simp [hthere, content]

/-! ## Putting a file -/

/-- Nothing stands at a name of a directory that is not taken. -/
theorem occupant?_eq_none {name : String} (h : name ∉ d.names loc) :
    d.occupant? (loc ++ [name]) = none := by
  have hkeys : loc ++ [name] ∉ Table.keys d.entries := by
    intro hmem
    obtain ⟨⟨l, e⟩, hentry, rfl⟩ := List.mem_map.1 hmem
    exact h (List.mem_filterMap.2 ⟨_, hentry, by simp⟩)
  rw [← Table.isSome_lookup_iff, Option.not_isSome_iff_eq_none] at hkeys
  rw [occupant?, if_neg (by simp), hkeys]

/-- Nothing stands at a name that is not taken, and only there. -/
theorem mem_names {name : String} : name ∈ d.names loc ↔ d.occupant? (loc ++ [name]) ≠ none := by
  refine ⟨fun h => ?_, not_imp_comm.1 occupant?_eq_none⟩
  obtain ⟨⟨l, e⟩, hentry, hname⟩ := List.mem_filterMap.1 h
  obtain ⟨⟨hroot, rfl⟩, hlast⟩ := Option.ite_none_right_eq_some.1 hname
  have hl : l.dropLast ++ [name] = l := List.dropLast_append_getLast? name hlast
  rw [hl, occupant?, if_neg hroot, ← Option.isSome_iff_ne_none, Table.isSome_lookup_iff]
  exact List.mem_map_of_mem hentry

/-- Taking something away leaves the other locations alone. -/
theorem occupant?_erase_of_ne {other : Location} (h : other ≠ loc) :
    (d.erase loc).occupant? other = d.occupant? other := by
  simp [occupant?, erase, Table.lookup_drop_of_ne h]

/-- A disk on which a file has been put where no directory stood, and nothing else is changed. -/
structure Puts (d d' : Disk) (loc : Location) (bytes : Bytes) : Prop where
  vacant : d.occupant? loc ≠ some .directory
  there : d'.occupant? loc = some (.file bytes)
  elsewhere : ∀ other, other ≠ loc → d'.occupant? other = d.occupant? other

/-- Putting a file leaves the directories alone. -/
theorem Puts.directory_iff (h : d.Puts d' loc bytes) (l : Location) :
    d'.occupant? l = some .directory ↔ d.occupant? l = some .directory := by
  by_cases hl : l = loc
  · subst hl
    simp [h.there, h.vacant]
  · rw [h.elsewhere l hl]

/-- Putting a file leaves every path where it led. -/
theorem Puts.locate_iff (h : d.Puts d' loc bytes) :
    d'.locate here text = .ok target ↔ d.locate here text = .ok target :=
  ⟨locate_mono fun l => (h.directory_iff l).1, locate_mono fun l => (h.directory_iff l).2⟩

/-- The file that was put is read where a path leads to it. -/
theorem Puts.read (h : d.Puts d' loc bytes) (hlocate : d.locate here text = .ok loc) :
    d'.read here text = .ok bytes :=
  read_eq_ok.2 ⟨loc, _, h.locate_iff.2 hlocate, h.there, rfl⟩

/-- Writing at a location puts a file there. -/
theorem writeAt_puts (h : d.writeAt loc bytes = .ok d') : d.Puts d' loc bytes := by
  rw [writeAt] at h
  split at h
  · cases h
  · next hvacant =>
    cases h
    have hroot : loc ≠ [] := by
      rintro rfl
      exact hvacant rfl
    exact ⟨hvacant, occupant?_set hroot d _, fun other hne => occupant?_set_of_ne hne d _⟩

/-- A file is written where no directory stands. -/
theorem writeAt_eq_ok (hvacant : d.occupant? loc ≠ some .directory) (bytes : Bytes) :
    d.writeAt loc bytes = .ok (d.set loc (.file bytes)) := by
  rw [writeAt]
  split
  · next hdirectory => exact absurd hdirectory hvacant
  · rfl

/-- A file is written where a path leads to no directory. -/
theorem exists_write (hlocate : d.locate here text = .ok loc)
    (hvacant : d.occupant? loc ≠ some .directory) :
    ∃ d', d.write here text bytes = .ok d' ∧ d.Puts d' loc bytes := by
  have hwrite := writeAt_eq_ok hvacant bytes
  refine ⟨_, ?_, writeAt_puts hwrite⟩
  rw [write, hlocate]
  exact hwrite

/-- Copying a file puts what is read at another location. -/
theorem copy_puts {source : String} (h : d.copy here source text = .ok d') :
    ∃ other bytes, d.read here source = .ok bytes ∧
      d.locate here (d.destination here source text) = .ok other ∧
      d.locate here source ≠ .ok other ∧ d.Puts d' other bytes := by
  rw [copy] at h
  split at h
  · cases h
  · next bytes hread =>
    split at h
    · next s t hs ht =>
      split at h
      · cases h
      · next hne =>
        refine ⟨t, bytes, hread, ht, ?_, writeAt_puts h⟩
        rw [hs]
        exact fun heq => hne (Except.ok.inj heq)
    · cases h
    · cases h

end Sabotage.Disk
