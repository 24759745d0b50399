import Mathlib.Data.List.Nodup
import Sabotage.Editor
import Sabotage.Proofs.Disks
import Sabotage.Proofs.Report
import Sabotage.Proofs.Stamps
import Sabotage.Watch.Guard

/-!
# What a replaced file holds

The temporary file of a replacement has a name of its own, as more names are tried than are taken
(`Editor.freeName_not_mem`), and the backup goes elsewhere. A replacement ends in one of four ways
(`Editor.Ended`). One that succeeds puts the bytes where the path leads and leaves the path leading
there (`Editor.read_write`). After an injection these bytes are those of the injected text: what the
editor makes of it is a second change to the convention it is in (`inject_write`).
-/

namespace Sabotage

open Bytes

/-- What is read as a text. -/
theorem Disk.readText_eq_ok {d : Disk} {here : Location} {file text : String} :
    d.readText here file = .ok text ↔
      ∃ bytes, d.read here file = .ok bytes ∧ toString? bytes = some text := by
  rw [readText]
  cases d.read here file with
  | error e => simp
  | ok bytes => cases h : toString? bytes <;> simp [h]

namespace Editor
variable {e : Editor} {trouble : Trouble} {d d' : Disk} {clock clock' : Clock} {here loc : Location}
  {file new : String} {path : Path} {bytes : Bytes}

/-! ## Temporary files -/

/-- Temporary names with different numbers are different. -/
theorem temporaryName_injective (path : Path) : Function.Injective (temporaryName path) := by
  intro m n h
  have hnumber := (String.append_right_inj _).1 ((String.append_left_inj _).1 h)
  exact Moment.padded_injective 8 hnumber

/-- The name of a temporary file is not taken: there is one candidate more than names that are. -/
theorem freeName_not_mem (d : Disk) (directory : Location) (path : Path) :
    freeName d directory path ∉ d.names directory := by
  rw [freeName]
  generalize d.names directory = taken
  set candidates := (List.range (taken.length + 1)).map (temporaryName path) with hcandidates
  cases hfind : candidates.find? (!taken.contains ·) with
  | some name => simpa using List.find?_some hfind
  | none =>
    have hsub : candidates ⊆ taken := fun name hname => by
      simpa using List.find?_eq_none.1 hfind name hname
    have hdistinct : candidates.Nodup :=
      (List.nodup_range).map (temporaryName_injective path)
    have hlength := hdistinct.length_le_of_subset hsub
    rw [hcandidates, List.length_map, List.length_range] at hlength
    omega

/-! ## Steps -/

/-- A copy that is made puts what is read at another location. -/
theorem copyUnder_puts {outcome : StepOutcome} {source target : String}
    (h : copyUnder outcome d here source target = (true, d')) :
    ∃ other bytes, d.read here source = .ok bytes ∧
      d.locate here (d.destination here source target) = .ok other ∧
      d.locate here source ≠ .ok other ∧ d.Puts d' other bytes := by
  cases outcome with
  | fails => cases h
  | truncates =>
    simp only [copyUnder] at h
    split at h <;> cases h
  | done =>
    simp only [copyUnder] at h
    split at h
    · next hcopy =>
      cases h
      exact Disk.copy_puts hcopy
    · cases h

/-- A backup that is made puts what is read at another location, where the path of the backup leads
or in the directory there. -/
theorem createBackup_puts {backup : String} (hpath : path.Normal)
    (h : e.createBackup trouble d clock path.toString = .ok ⟨some backup, d', clock'⟩) :
    backup = e.backupPath path clock.now ∧
      ∃ other bytes, d.read e.here path.toString = .ok bytes ∧
        d.locate e.here (d.destination e.here path.toString backup) = .ok other ∧
        d.locate e.here path.toString ≠ .ok other ∧ d.Puts d' other bytes := by
  simp only [createBackup, Path.ofString_toString hpath] at h
  split at h
  · cases h
  · cases h
  · simp only [Clock.read] at h
    split at h
    · next hcopy =>
      cases h
      exact ⟨rfl, copyUnder_puts hcopy⟩
    · cases h

/-- A file that is replaced is put where the path leads. -/
theorem replaceFile_puts (hlocate : d.locate here path.toString = .ok loc)
    (hvacant : d.occupant? loc ≠ some .directory)
    (h : replaceFile trouble d here path bytes = (true, d')) : d.Puts d' loc bytes := by
  simp only [replaceFile, hlocate] at h
  split at h
  · cases h
  · split at h
    · cases h
    · split at h
      · cases h
      · cases h
        have hroot : loc ≠ [] := by
          rintro rfl
          exact hvacant rfl
        refine ⟨hvacant, Disk.occupant?_set hroot _ _, fun other hne => ?_⟩
        rw [Disk.occupant?_set_of_ne hne]
        by_cases htemporary : other = loc.dropLast ++ [freeName d loc.dropLast path]
        · -- Nothing stood at the name of the temporary file, and nothing does once it is moved.
          rw [htemporary, Disk.occupant?_eq_none (freeName_not_mem d loc.dropLast path)]
          simp [Disk.occupant?, Disk.erase]
        · rw [Disk.occupant?_erase_of_ne htemporary, Disk.occupant?_set_of_ne htemporary]

/-! ## Replacements -/

/-- What stands ready before the new content is written: the disk as it was when the editor makes no
backups, and otherwise the disk with the backup. -/
inductive Backed (e : Editor) (trouble : Trouble) (d : Disk) (clock : Clock) (path : Path) :
    Option String → Disk → Prop
  | skipped : e.makesBackups = false → Backed e trouble d clock path none d
  | made {backup : String} {d₁ : Disk} {clock₁ : Clock} : e.makesBackups = true →
      e.createBackup trouble d clock path.toString = .ok ⟨some backup, d₁, clock₁⟩ →
      Backed e trouble d clock path (some backup) d₁

/-- How a replacement ends: what it answers, and the disk it leaves. -/
inductive Ended (e : Editor) (trouble : Trouble) (d : Disk) (clock : Clock) (path : Path)
    (new : String) : Written → Disk → Prop
  /-- The old content is not read. -/
  | unread : Ended e trouble d clock path new ⟨false, none⟩ d
  /-- The backup is not made. -/
  | unbacked {old : String} {d₁ : Disk} {clock₁ : Clock} :
      d.readText e.here path.toString = .ok old →
      e.createBackup trouble d clock path.toString = .ok ⟨none, d₁, clock₁⟩ →
      Ended e trouble d clock path new ⟨false, none⟩ d₁
  /-- The new content is moved over the old. -/
  | moved {old : String} {backup? : Option String} {d₁ d' : Disk} :
      d.readText e.here path.toString = .ok old → Backed e trouble d clock path backup? d₁ →
      replaceFile trouble d₁ e.here path (ofString (Text.normalize (.detect old) new)) =
        (true, d') →
      Ended e trouble d clock path new ⟨true, backup?⟩ d'
  /-- The new content gets no further than the temporary file, and the backup is copied back. -/
  | recovered {old : String} {backup? : Option String} {d₁ d' : Disk} :
      d.readText e.here path.toString = .ok old → Backed e trouble d clock path backup? d₁ →
      replaceFile trouble d₁ e.here path (ofString (Text.normalize (.detect old) new)) =
        (false, d') →
      Ended e trouble d clock path new ⟨false, backup?⟩
        (e.recover trouble d' backup? path.toString)

/-- A replacement ends in one of these ways. -/
theorem ended_of_write {w : Edited Written} (h : e.write trouble d clock file new = .ok w) :
    Ended e trouble d clock (Path.ofString file) new w.answer w.disk := by
  have hfinish {d₁ : Disk} {clock₁ : Clock} {old : String} {backup? : Option String}
      (hread : d.readText e.here (Path.ofString file).toString = .ok old)
      (hbacked : Backed e trouble d clock (Path.ofString file) backup? d₁) :
      Ended e trouble d clock (Path.ofString file) new
        (e.finish trouble d₁ clock₁ (Path.ofString file) old new backup?).answer
        (e.finish trouble d₁ clock₁ (Path.ofString file) old new backup?).disk := by
    rw [finish]
    split
    · next hreplace => exact .moved hread hbacked hreplace
    · next hreplace => exact .recovered hread hbacked hreplace
  simp only [write] at h
  split at h
  · cases h
    exact .unread
  · split at h
    · cases h
    · cases h
      exact .unread
    · next old hread =>
      split at h
      · next hbackups =>
        split at h
        · cases h
        · next hbackup =>
          cases h
          exact .unbacked hread hbackup
        · next hbackup =>
          cases h
          exact hfinish hread (.made hbackups hbackup)
      · next hbackups =>
        cases h
        exact hfinish hread (.skipped (Bool.eq_false_iff.2 hbackups))

/-- What a replacement that succeeds has done: it has read the old content, made the backup, if
any, and replaced the file on the disk with the backup. -/
theorem write_eq_ok {backup? : Option String}
    (h : e.write trouble d clock file new = .ok ⟨⟨true, backup?⟩, d', clock'⟩) :
    ∃ old d₁, d.readText e.here (Path.ofString file).toString = .ok old ∧
      ((backup? = none ∧ d₁ = d) ∨ ∃ backup clock₁, backup? = some backup ∧
        e.createBackup trouble d clock (Path.ofString file).toString =
          .ok ⟨some backup, d₁, clock₁⟩) ∧
      replaceFile trouble d₁ e.here (Path.ofString file)
        (ofString (Text.normalize (.detect old) new)) = (true, d') := by
  have hended : Ended e trouble d clock (Path.ofString file) new ⟨true, backup?⟩ d' :=
    ended_of_write h
  cases hended with
  | moved hread hbacked hreplace =>
    cases hbacked with
    | skipped => exact ⟨_, _, hread, .inl ⟨rfl, rfl⟩, hreplace⟩
    | made _ hbackup => exact ⟨_, _, hread, .inr ⟨_, _, rfl, hbackup⟩, hreplace⟩

/-- A file that was replaced stands where the path leads, with the new content in the line-ending
convention of the old, and the directories are those there were. -/
theorem write_there {backup? : Option String} {old : String}
    (hlocate : d.locate e.here file = .ok loc) (hfile : d.read e.here file = .ok (ofString old))
    (h : e.write trouble d clock file new = .ok ⟨⟨true, backup?⟩, d', clock'⟩) :
    d'.locate e.here file = .ok loc ∧
      d'.occupant? loc = some (.file (ofString (Text.normalize (.detect old) new))) ∧
      ∀ l, d'.occupant? l = some .directory ↔ d.occupant? l = some .directory := by
  obtain ⟨text, d₁, htext, hbackup, hreplace⟩ := write_eq_ok h
  obtain ⟨bytes, hread, hbytes⟩ := Disk.readText_eq_ok.1 htext
  obtain rfl := Disk.read_normal hfile hread
  obtain rfl : old = text := by
    rw [toString?_ofString] at hbytes
    exact Option.some.inj hbytes
  obtain ⟨loc', entry', hlocate', -, -⟩ := Disk.read_eq_ok.1 hread
  obtain rfl := Disk.locate_normal hlocate hlocate'
  have hvacant := Disk.occupant?_ne_directory hlocate hfile
  rcases hbackup with ⟨-, rfl⟩ | ⟨backup, clock₁, -, hbackup⟩
  · have hputs := replaceFile_puts hlocate' hvacant hreplace
    exact ⟨hputs.locate_iff.2 hlocate, hputs.there, hputs.directory_iff⟩
  · obtain ⟨-, other, copied, -, -, -, hputs⟩ :=
      createBackup_puts (Path.normal_ofString file) hbackup
    have hvacant₁ : d₁.occupant? loc' ≠ some .directory := mt (hputs.directory_iff loc').1 hvacant
    have hputs₁ := replaceFile_puts (hputs.locate_iff.2 hlocate') hvacant₁ hreplace
    exact ⟨hputs₁.locate_iff.2 (hputs.locate_iff.2 hlocate), hputs₁.there,
      fun l => (hputs₁.directory_iff l).trans (hputs.directory_iff l)⟩

/-- A file that was replaced holds the new content, in the line-ending convention of the old. -/
theorem read_write {backup? : Option String} {old : String}
    (hfile : d.read e.here file = .ok (ofString old))
    (h : e.write trouble d clock file new = .ok ⟨⟨true, backup?⟩, d', clock'⟩) :
    d'.read e.here file = .ok (ofString (Text.normalize (.detect old) new)) := by
  obtain ⟨loc, entry, hlocate, -, -⟩ := Disk.read_eq_ok.1 hfile
  obtain ⟨hlocate', hthere, -⟩ := write_there hlocate hfile h
  exact Disk.read_eq_ok.2 ⟨loc, _, hlocate', hthere, rfl⟩

/-- A backup that goes where nothing stands is made. -/
theorem createBackup_of_locate {target : Location} (clock : Clock)
    (hcopies : trouble .copyBackup = .done) (hnormal : (Path.ofString file).toString = file)
    (hlocate : d.locate e.here file = .ok loc) (hthere : d.occupant? loc = some (.file bytes))
    (htarget : d.locate e.here (d.destination e.here file
      (e.backupPath (Path.ofString file) clock.now)) = .ok target)
    (hvacant : d.occupant? target = none) :
    e.createBackup trouble d clock file =
      .ok ⟨some (e.backupPath (Path.ofString file) clock.now), d.set target (.file bytes),
        clock.read.2⟩ := by
  have hread : d.read e.here file = .ok bytes := Disk.read_eq_ok.2 ⟨loc, _, hlocate, hthere, rfl⟩
  have hne : loc ≠ target := by
    rintro rfl
    rw [hthere] at hvacant
    cases hvacant
  have hcopy : d.copy e.here file (e.backupPath (Path.ofString file) clock.now) =
      .ok (d.set target (.file bytes)) := by
    simp only [Disk.copy, hread, hlocate, htarget, hne, Disk.writeAt, hvacant, ↓reduceIte]
  simp only [createBackup, hnormal, Disk.exists?_eq_true hread, Clock.read, hcopies, copyUnder,
    hcopy]

/-- A replacement with a backup, step by step. -/
theorem write_of_locate {target : Location} (clock : Clock) (new old name : String)
    (hbackups : e.makesBackups)
    (hnormal : (Path.ofString file).toString = file)
    (hlocate : d.locate e.here file = .ok loc)
    (hthere : d.occupant? loc = some (.file (ofString old)))
    (htarget : d.locate e.here (e.backupPath (Path.ofString file) clock.now) = .ok target)
    (hvacant : d.occupant? target = none)
    (hfree : freeName (d.set target (.file (ofString old))) loc.dropLast (Path.ofString file) =
      name)
    (hshort : name.utf8ByteSize ≤ Disk.nameLimit) :
    e.write .none d clock file new =
      .ok ⟨⟨true, some (e.backupPath (Path.ofString file) clock.now)⟩,
        (((d.set target (.file (ofString old))).set (loc.dropLast ++ [name])
          (.file (ofString (Text.normalize (.detect old) new)))).erase (loc.dropLast ++ [name])).set
            loc (.file (ofString (Text.normalize (.detect old) new))), clock.read.2⟩ := by
  have hread : d.read e.here file = .ok (ofString old) :=
    Disk.read_eq_ok.2 ⟨loc, _, hlocate, hthere, rfl⟩
  have htext : d.readText e.here file = .ok old :=
    Disk.readText_eq_ok.2 ⟨_, hread, toString?_ofString old⟩
  have hdestination : d.destination e.here file (e.backupPath (Path.ofString file) clock.now) =
      e.backupPath (Path.ofString file) clock.now := by
    refine Disk.destination_eq file htarget ?_
    rw [hvacant]
    exact (Option.some_ne_none _).symm
  have hputs : d.Puts (d.set target (.file (ofString old))) target (ofString old) :=
    Disk.writeAt_puts (Disk.writeAt_eq_ok (by simp [hvacant]) _)
  have hbackup : e.createBackup .none d clock file = _ :=
    createBackup_of_locate clock rfl hnormal hlocate hthere (by rwa [hdestination]) hvacant
  simp [write, Trouble.none, hnormal, htext, hbackups, hbackup, finish, replaceFile,
    hputs.locate_iff.2 hlocate, hfree, Nat.not_lt.2 hshort]

/-- A replacement gives an answer, whatever the trouble, unless the path has a NUL character. -/
theorem write_ne_error (hname : '\x00' ∉ file.toList) (err : DiskError) :
    e.write trouble d clock file new ≠ .error err := by
  have hnormal : '\x00' ∉ (Path.ofString file).toString.toList := fun hmem =>
    hname (Path.mem_toString hmem (by decide) (by decide))
  intro h
  simp only [write] at h
  split at h
  · cases h
  · split at h
    · next hbad =>
      have hread : d.read e.here (Path.ofString file).toString ≠ .error .badName :=
        Disk.read_ne_badName hnormal
      rw [Disk.readText] at hbad
      split at hbad
      · next herror => cases hbad; exact hread herror
      · split at hbad <;> cases hbad
    · cases h
    · next old hread =>
      obtain ⟨bytes, hread, -⟩ := Disk.readText_eq_ok.1 hread
      split at h
      · split at h
        · -- The file that was read is there, so that the backup is not refused.
          next hbackup =>
          simp only [createBackup, Path.ofString_toString (Path.normal_ofString file),
            Disk.exists?_eq_true hread, Clock.read] at hbackup
          split at hbackup <;> cases hbackup
        · cases h
        · cases h
      · cases h

end Editor

/-- The editor leaves the injected text on the disk just as the injection gave it, so that the mark
that the guard goes by is the mark of what is read there. -/
theorem inject_write {σ : Type} [WordSource σ] {parser : Parser} (hp : parser.Tidy)
    {r : InjectionRequest} {s s' : σ} {i : Injection} (h : inject parser r s = (.ok i, s'))
    (hbugs : i.applied ≠ []) {e : Editor} {trouble : Trouble} {d d' : Disk} {clock clock' : Clock}
    {file : String} {backup? : Option String} (hfile : d.read e.here file = .ok (ofString r.code))
    (hwrite : e.write trouble d clock file i.code = .ok ⟨⟨true, backup?⟩, d', clock'⟩) :
    d'.read e.here file = .ok (ofString i.code) ∧
      ∀ {μ : Type} (mark : String → μ) (g : Watch.Guard μ), ∃ text,
        d'.readText e.here file = .ok text ∧
          (g.begin file (mark i.code)).expected? file = some (mark text) := by
  obtain ⟨t, hplayed, -, hsome⟩ := played_of_inject h
  have hretains := retains_of_played hp attempt_candidates (Draft.coherent_ofSource ..) hplayed
  obtain ⟨text, -, hkept, hcode⟩ := Draft.render_eq hretains (hsome hbugs).1
  have hread : d'.read e.here file = .ok (ofString i.code) := by
    rw [Editor.read_write hfile hwrite, hcode, Text.normalize_eq_self hkept]
  exact ⟨hread, fun mark g => ⟨i.code, Disk.readText_eq_ok.2 ⟨_, hread, toString?_ofString _⟩,
    Watch.Guard.expected?_begin g file _⟩⟩

/-! ## Two lines on a disk -/

/-- A disk with the two lines in a file. -/
def literalDisk : Disk :=
  ⟨[(["two.ts"], .file (ofString literalCode))]⟩

/-- An editor that makes no backups. -/
def literalEditor : Editor :=
  ⟨[], "backups", false⟩

/-- The file holds the two lines. -/
theorem read_literalDisk : literalDisk.read [] "two.ts" = .ok (ofString literalCode) := by
  cbv

/-- The two lines are replaced by those with the literal negated. -/
theorem write_literalDisk :
    ∃ d', literalEditor.write .none literalDisk ⟨0, 1⟩ "two.ts" negatedCode =
      .ok ⟨⟨true, none⟩, d', ⟨0, 1⟩⟩ := by
  have hnormal : (Path.ofString "two.ts").toString = "two.ts" := by decide
  have hlocate : literalDisk.locate [] "two.ts" = .ok ["two.ts"] := by cbv
  have htext : literalDisk.readText [] "two.ts" = .ok literalCode :=
    Disk.readText_eq_ok.2 ⟨_, read_literalDisk, toString?_ofString _⟩
  have hname : (Editor.freeName literalDisk [] (Path.ofString "two.ts")).utf8ByteSize ≤
      Disk.nameLimit := by
    have hfree : Editor.freeName literalDisk [] (Path.ofString "two.ts") =
        ".two.ts.00000000.tmp" := by
      cbv
    rw [hfree]
    decide
  simp [Editor.write, literalEditor, Trouble.none, hnormal, htext, Editor.finish,
    Editor.replaceFile, hlocate, Nat.not_lt.2 hname]

/-- The file holds the lines with the literal negated once these are written to it. -/
theorem inject_write_literalRequest :
    literalParser.Tidy ∧ literalInjection.applied ≠ [] ∧
      ∃ s' d', inject literalParser literalRequest (MersenneTwister.ofSeed 7) =
          (.ok literalInjection, s') ∧
        literalEditor.write .none literalDisk ⟨0, 1⟩ "two.ts" negatedCode =
          .ok ⟨⟨true, none⟩, d', ⟨0, 1⟩⟩ ∧
        d'.read [] "two.ts" = .ok (ofString negatedCode) := by
  have hbugs : literalInjection.applied ≠ [] := List.cons_ne_nil _ _
  obtain ⟨s', h⟩ := inject_literalRequest
  obtain ⟨d', hwrite⟩ := write_literalDisk
  exact ⟨tidy_literalParser, hbugs, s', d', h, hwrite,
    (inject_write tidy_literalParser h hbugs read_literalDisk hwrite).1⟩

end Sabotage
