import Sabotage.Proofs.Recording
import Sabotage.Proofs.Restoring

/-!
# What is left of a file when steps of its replacement fail

Any step of a replacement may fail, and a copy that fails may leave its destination truncated. A
run ends in one of four ways (`Editor.Ended`), and each step spares the file: the backup goes
elsewhere, and the temporary file stands at a name of its own, whether it is taken away or not. What
does not spare the file is the copy that is to put it right. The move is the only step that changes
the file, so a replacement that fails copies the backup over a file that is whole, and when that
copy breaks off the file is empty (`Editor.Aftermath.emptied`). A replacement that succeeds answers
a backup that holds the old content, unless a directory stands where the backup was to go: then the
copy is within it (`Editor.Aftermath.backed`). Both do happen (`Editor.write_loses`).
-/

namespace Sabotage

open Bytes

/-- What is read by a path on one disk, however the path is written, is read by it on another one
with a change. -/
def Disk.Becomes (d d' : Disk) (here : Location) (path : Path) (change : Bytes → Bytes) : Prop :=
  ∀ text bytes, Path.ofString text = path → d.read here text = .ok bytes →
    d'.read here text = .ok (change bytes)

namespace Editor
variable {e : Editor} {trouble : Trouble} {d d₁ d' : Disk} {clock clock₁ : Clock}
  {here loc other : Location} {file new backup source target : String} {path : Path} {bytes : Bytes}
  {backup? : Option String}

/-! ## Steps that fail -/

/-- A file that is truncated is empty. -/
theorem truncate_puts (hlocate : d.locate here target = .ok loc)
    (hvacant : d.occupant? loc ≠ some .directory) :
    d.Puts (truncate d here target) loc [] := by
  obtain ⟨d', hwrite, hputs⟩ := Disk.exists_write hlocate hvacant
  rwa [truncate, hwrite]

/-- A copy that fails leaves the disk as it is, or empties the file that it would have put. -/
theorem copyUnder_refused {outcome : StepOutcome}
    (h : copyUnder outcome d here source target = (false, d')) :
    d' = d ∨ outcome = .truncates ∧ ∃ other bytes, d.read here source = .ok bytes ∧
      d.locate here (d.destination here source target) = .ok other ∧
      d.locate here source ≠ .ok other ∧ d.Puts d' other [] := by
  cases outcome with
  | fails =>
    cases h
    exact .inl rfl
  | truncates =>
    simp only [copyUnder] at h
    split at h
    · next hcopy =>
      cases h
      obtain ⟨other, bytes, hread, hother, hne, hputs⟩ := Disk.copy_puts hcopy
      exact .inr ⟨rfl, other, bytes, hread, hother, hne, truncate_puts hother hputs.vacant⟩
    · cases h
      exact .inl rfl
  | done =>
    simp only [copyUnder] at h
    split at h
    · cases h
    · cases h
      exact .inl rfl

/-- Making a backup spares the file, whether it is made or not. -/
theorem createBackup_spares (hpath : path.Normal)
    (hlocate : d.locate e.here path.toString = .ok loc)
    (h : e.createBackup trouble d clock path.toString = .ok ⟨backup?, d₁, clock₁⟩) :
    d.Spares d₁ loc := by
  have hapart {other : Location} (hne : d.locate e.here path.toString ≠ .ok other) :
      loc ≠ other := by
    rintro rfl
    exact hne hlocate
  cases backup? with
  | some backup =>
    obtain ⟨-, other, bytes, -, -, hne, hputs⟩ := createBackup_puts hpath h
    exact hputs.spares (hapart hne)
  | none =>
    simp only [createBackup, Path.ofString_toString hpath] at h
    split at h
    · cases h
    · cases h
      exact .refl d loc
    · simp only [Clock.read] at h
      split at h
      · cases h
      · next hcopy =>
        cases h
        rcases copyUnder_refused hcopy with rfl | ⟨-, other, bytes, -, -, hne, hputs⟩
        · exact .refl _ loc
        · exact hputs.spares (hapart hne)

/-- A file that is not replaced spares whatever stood anywhere: of the temporary file nothing is
left, or it stands where nothing stood. -/
theorem replaceFile_spares (other : Location)
    (h : replaceFile trouble d here path bytes = (false, d')) : d.Spares d' other := by
  simp only [replaceFile] at h
  split at h
  · cases h
    exact .refl d other
  next loc _ =>
  have hfree := Disk.occupant?_eq_none (freeName_not_mem d loc.dropLast path)
  set temporary := loc.dropLast ++ [freeName d loc.dropLast path]
  -- Whatever is done at the name of the temporary file, it is done nowhere else.
  have habandoned (b : Bytes) : d.Spares (if trouble .removeTemporary = .done then
      (d.set temporary (.file b)).erase temporary else d.set temporary (.file b)) other := by
    refine Disk.spares_of_vacant hfree (fun l hl => ?_) other
    split
    · rw [Disk.occupant?_erase_of_ne hl, Disk.occupant?_set_of_ne hl]
    · exact Disk.occupant?_set_of_ne hl d _
  split at h
  · cases h
    exact .refl d other
  · split at h
    · cases h
      exact habandoned []
    · split at h
      · cases h
        exact habandoned bytes
      · cases h

/-! ## Copying a backup back -/

/-- A backup that is copied back puts what is read of it where the file was, or empties that, unless
the disk stays as it is. -/
theorem recover_puts (hlocate : d.locate e.here file = .ok loc)
    (hvacant : d.occupant? loc ≠ some .directory) :
    e.recover trouble d (some backup) file = d ∨
      ∃ bytes, d.read e.here backup = .ok bytes ∧
        d.Puts (e.recover trouble d (some backup) file) loc
          (if trouble .copyBack = .truncates then [] else bytes) := by
  have hdestination := Disk.destination_eq backup hlocate hvacant
  rw [recover]
  cases hcopy : copyUnder (trouble .copyBack) d e.here backup file with
  | mk made d' =>
    cases made with
    | true =>
      obtain ⟨other, bytes, hread, hother, -, hputs⟩ := copyUnder_puts hcopy
      obtain rfl := Except.ok.inj (hlocate.symm.trans (hdestination ▸ hother))
      have hmade : trouble .copyBack ≠ .truncates := by
        intro htruncates
        simp only [htruncates, copyUnder] at hcopy
        split at hcopy <;> cases hcopy
      exact .inr ⟨bytes, hread, by rwa [if_neg hmade]⟩
    | false =>
      obtain rfl | ⟨htruncates, other, bytes, hread, hother, -, hputs⟩ := copyUnder_refused hcopy
      · exact .inl rfl
      · obtain rfl := Except.ok.inj (hlocate.symm.trans (hdestination ▸ hother))
        exact .inr ⟨bytes, hread, by rwa [if_pos htruncates]⟩

/-- A copy back that truncates empties the file when the backup could have been copied. -/
theorem recover_truncates (htruncates : trouble .copyBack = .truncates)
    (hsource : d.locate e.here backup = .ok other) (hthere : d.occupant? other = some (.file bytes))
    (hlocate : d.locate e.here file = .ok loc) (hvacant : d.occupant? loc ≠ some .directory)
    (hne : other ≠ loc) : d.Puts (e.recover trouble d (some backup) file) loc [] := by
  obtain ⟨d', hcopy, -⟩ := Disk.exists_copy hsource hthere hlocate hvacant hne
  simp only [recover, htruncates, copyUnder, hcopy, Disk.destination_eq backup hlocate hvacant]
  exact truncate_puts hlocate hvacant

/-! ## Runs of a replacement -/

/-- Whether a backup was made or skipped, the file is spared. -/
theorem Backed.spares (hpath : path.Normal) (hlocate : d.locate e.here path.toString = .ok loc)
    (h : Backed e trouble d clock path backup? d₁) : d.Spares d₁ loc := by
  cases h with
  | skipped => exact .refl d loc
  | made _ hbackup => exact createBackup_spares hpath hlocate hbackup

/-- Once the old content is read and the backup made, a replacement goes on to write. -/
theorem write_eq_finish {old : String} (hreads : trouble .read = .done) (hbackups : e.makesBackups)
    (hnormal : (Path.ofString file).toString = file) (htext : d.readText e.here file = .ok old)
    (hmade : e.createBackup trouble d clock file = .ok ⟨some backup, d₁, clock₁⟩) :
    e.write trouble d clock file new =
      .ok (e.finish trouble d₁ clock₁ (Path.ofString file) old new (some backup)) := by
  simp only [write, hreads, ne_eq, not_true_eq_false, if_false, hnormal, htext, hbackups, if_true,
    hmade]

/-- A replacement does not succeed without the move. -/
theorem answer_finish_of_move (hmove : trouble .move ≠ .done) (old : String) :
    (e.finish trouble d clock path old new backup?).answer = ⟨false, backup?⟩ := by
  rw [finish]
  split
  · next hreplace =>
    simp only [replaceFile, hmove, ne_eq, not_false_eq_true, if_true] at hreplace
    split at hreplace
    · cases hreplace
    · split at hreplace
      · cases hreplace
      · split at hreplace <;> cases hreplace
  · rfl

/-- A replacement succeeds when every step is carried out and the name of the temporary file is not
too long. -/
theorem answer_finish_of_locate (hlocate : d.locate e.here path.toString = .ok loc)
    (hshort : (freeName d loc.dropLast path).utf8ByteSize ≤ Disk.nameLimit) (old : String) :
    (e.finish .none d clock path old new backup?).answer = ⟨true, backup?⟩ := by
  simp [finish, replaceFile, hlocate, Trouble.none, Nat.not_lt.2 hshort]

/-! ## What is read afterwards -/

/-- What is spared where a path leads is read as before. -/
theorem becomes_of_spares (hlocate : d.locate here path.toString = .ok loc)
    (h : d.Spares d' loc) : d.Becomes d' here path id := by
  rintro text bytes rfl hread
  obtain ⟨place, entry, hplace, hthere, hcontent⟩ := Disk.read_eq_ok.1 hread
  obtain rfl := Disk.locate_normal hplace hlocate
  exact Disk.read_eq_ok.2
    ⟨_, entry, Disk.locate_mono (fun _ => h.directory) hplace, h.kept hthere, hcontent⟩

/-- A file that stands where a path leads is read by it. -/
theorem becomes_of_there (hlocate : d.locate here path.toString = .ok loc)
    (hdirectory : ∀ l, d.occupant? l = some .directory → d'.occupant? l = some .directory)
    (hthere : d'.occupant? loc = some (.file bytes)) :
    d.Becomes d' here path fun _ => bytes := by
  rintro text old rfl hread
  obtain ⟨place, -, hplace, -, -⟩ := Disk.read_eq_ok.1 hread
  obtain rfl := Disk.locate_normal hplace hlocate
  exact Disk.read_eq_ok.2 ⟨_, _, Disk.locate_mono hdirectory hplace, hthere, rfl⟩

/-- A directory that stays cannot be read. -/
theorem read_of_isDirectory {text : String} (h : d.isDirectory here text = true)
    (hdirectory : ∀ l, d.occupant? l = some .directory → d'.occupant? l = some .directory) :
    d'.read here text = .error .isDirectory := by
  obtain ⟨place, hplace, hthere⟩ := Disk.isDirectory_iff.1 h
  simp only [Disk.read, Disk.find, Disk.locate_mono hdirectory hplace, hdirectory place hthere,
    Disk.content]

/-- Whether the copy of a backup over the file breaks off after it has begun. -/
def BreaksOff (e : Editor) (trouble : Trouble) (d : Disk) (backup? : Option String) : Prop :=
  trouble .copyBack = .truncates ∧ ∃ backup ∈ backup?, d.isDirectory e.here backup = false

/-- What a replacement has done to a file and its backup when it answers. -/
structure Aftermath (e : Editor) (trouble : Trouble) (d : Disk) (path : Path) (new : String)
    (w : Written) (d' : Disk) : Prop where
  /-- A replacement that fails keeps the file, -/
  kept : w.success = false → ¬e.BreaksOff trouble d w.backup? → d.Becomes d' e.here path id
  /-- unless the backup is copied over it and the copy breaks off. -/
  emptied : w.success = false → e.BreaksOff trouble d w.backup? →
    d.Becomes d' e.here path fun _ => []
  /-- A replacement that succeeds has written the new content in the line-ending convention of the
  old, and made a backup if the editor makes any. -/
  written : w.success = true → ∃ old, d.readText e.here path.toString = .ok old ∧
    d.Becomes d' e.here path (fun _ => ofString (Text.normalize (.detect old) new)) ∧
    w.backup?.isSome = e.makesBackups
  /-- The copy that the backup stands for holds the old content, -/
  backed : ∀ backup ∈ w.backup?, ∃ bytes, d.read e.here path.toString = .ok bytes ∧
    d'.read e.here (d.destination e.here path.toString backup) = .ok bytes
  /-- but a directory that stood where it was to go cannot be read. -/
  obstructed : ∀ backup ∈ w.backup?, d.isDirectory e.here backup = true →
    d'.read e.here backup = .error .isDirectory

/-- A file that is read as a text stands where the path leads. -/
theorem exists_of_readText {old : String} (h : d.readText e.here path.toString = .ok old) :
    ∃ loc bytes, d.locate e.here path.toString = .ok loc ∧
      d.read e.here path.toString = .ok bytes := by
  obtain ⟨bytes, hread, -⟩ := Disk.readText_eq_ok.1 h
  obtain ⟨loc, -, hlocate, -, -⟩ := Disk.read_eq_ok.1 hread
  exact ⟨loc, bytes, hlocate, hread⟩

/-- No directory stands where a file was spared. -/
theorem vacant_of_spares (hpath : path.Normal) (hlocate : d.locate here path.toString = .ok loc)
    (hread : d.read here path.toString = .ok bytes) (h : d.Spares d' loc) :
    d'.occupant? loc ≠ some .directory :=
  Disk.occupant?_ne_directory (Disk.locate_mono (fun _ => h.directory) hlocate)
    (becomes_of_spares hlocate h _ _ (Path.ofString_toString hpath) hread)

/-- A replacement that fails without a backup, and spares the file, keeps it. -/
theorem aftermath_of_kept (h : d.Becomes d' e.here path id) :
    Aftermath e trouble d path new ⟨false, none⟩ d' where
  kept _ _ := h
  emptied _ hbreaks := by
    obtain ⟨-, backup, hbackup, -⟩ := hbreaks
    cases hbackup
  written hsuccess := by cases hsuccess
  backed _ hbackup := by cases hbackup
  obstructed _ hbackup := by cases hbackup

/-- A replacement that succeeds has put the new content where the path leads, beside the backup. -/
theorem aftermath_of_moved {old : String} (hpath : path.Normal)
    (htext : d.readText e.here path.toString = .ok old)
    (hbacked : Backed e trouble d clock path backup? d₁)
    (hreplace : replaceFile trouble d₁ e.here path (ofString (Text.normalize (.detect old) new)) =
      (true, d')) : Aftermath e trouble d path new ⟨true, backup?⟩ d' := by
  obtain ⟨loc, before, hlocate, hread⟩ := exists_of_readText htext
  have hspares := hbacked.spares hpath hlocate
  have hputs := replaceFile_puts (Disk.locate_mono (fun _ => hspares.directory) hlocate)
    (vacant_of_spares hpath hlocate hread hspares) hreplace
  have hdirectory (l : Location) (hl : d.occupant? l = some .directory) :
      d'.occupant? l = some .directory :=
    (hputs.directory_iff l).2 (hspares.directory hl)
  constructor
  · intro hfailed
    cases hfailed
  · intro hfailed
    cases hfailed
  · intro _
    refine ⟨old, htext, becomes_of_there hlocate hdirectory hputs.there, ?_⟩
    cases hbacked with
    | skipped hbackups => exact hbackups.symm
    | made hbackups => exact hbackups.symm
  · intro backup hbackup
    cases hbacked with
    | skipped => cases hbackup
    | made _ hmade =>
      cases hbackup
      obtain ⟨-, other, bytes, hbytes, hother, hne, hbackup⟩ := createBackup_puts hpath hmade
      have hapart : other ≠ loc := by
        rintro rfl
        exact hne hlocate
      exact ⟨bytes, hbytes, (hputs.spares hapart).read (hbackup.locate_iff.2 hother) hbackup.there⟩
  · exact fun _ _ hobstructed => read_of_isDirectory hobstructed hdirectory

/-! ## A backup beside its file -/

/-- A disk on which a file is spared and the backup of it stands, with what the file held. -/
structure Shelved (e : Editor) (d d₂ : Disk) (path : Path) (backup : String) (loc other : Location)
    (bytes : Bytes) : Prop where
  normal : path.Normal
  locate : d.locate e.here path.toString = .ok loc
  read : d.read e.here path.toString = .ok bytes
  spares : d.Spares d₂ loc
  copied : d.locate e.here (d.destination e.here path.toString backup) = .ok other
  there : d₂.occupant? other = some (.file bytes)
  apart : other ≠ loc

section
variable {d₂ : Disk}

/-- A backup that is made stands beside its file, on any disk that spares both. -/
theorem exists_shelved (hpath : path.Normal)
    (hmade : e.createBackup trouble d clock path.toString = .ok ⟨some backup, d₁, clock₁⟩)
    (hspares : ∀ l, d₁.Spares d₂ l) :
    ∃ loc other bytes, Shelved e d d₂ path backup loc other bytes := by
  obtain ⟨-, other, bytes, hread, hother, hne, hputs⟩ := createBackup_puts hpath hmade
  obtain ⟨loc, -, hlocate, -, -⟩ := Disk.read_eq_ok.1 hread
  have hapart : other ≠ loc := by
    rintro rfl
    exact hne hlocate
  exact ⟨loc, other, bytes, hpath, hlocate, hread, (hputs.spares hapart.symm).trans (hspares loc),
    hother, (hspares other).kept hputs.there, hapart⟩

/-- The file is where it was. -/
theorem Shelved.locate_file (h : Shelved e d d₂ path backup loc other bytes) :
    d₂.locate e.here path.toString = .ok loc ∧ d₂.occupant? loc ≠ some .directory :=
  ⟨Disk.locate_mono (fun _ => h.spares.directory) h.locate,
    vacant_of_spares h.normal h.locate h.read h.spares⟩

/-- The backup is at the path that was answered, unless a directory stood there. -/
theorem Shelved.locate_backup (h : Shelved e d d₂ path backup loc other bytes)
    (hplain : d.isDirectory e.here backup = false) : d₂.locate e.here backup = .ok other := by
  have hcopied := h.copied
  rw [Disk.destination, hplain, if_neg Bool.false_ne_true] at hcopied
  exact Disk.locate_mono (fun _ => h.spares.directory) hcopied

/-- What can be read at the path that was answered is the backup. -/
theorem Shelved.read_backup {copied : Bytes} (h : Shelved e d d₂ path backup loc other bytes)
    (hread : d₂.read e.here backup = .ok copied) :
    d.isDirectory e.here backup = false ∧ copied = bytes := by
  have hplain : d.isDirectory e.here backup = false := by
    refine Bool.eq_false_iff.2 fun hdirectory => ?_
    obtain ⟨place, hplace, hthere⟩ := Disk.isDirectory_iff.1 hdirectory
    exact Disk.occupant?_ne_directory (Disk.locate_mono (fun _ => h.spares.directory) hplace) hread
      (h.spares.directory hthere)
  have hbackup := Disk.read_eq_ok.2 ⟨_, _, h.locate_backup hplain, h.there, rfl⟩
  exact ⟨hplain, Except.ok.inj (hread.symm.trans hbackup)⟩

/-- Copying the backup back leaves the directories alone. -/
theorem Shelved.directory_recover (h : Shelved e d d₂ path backup loc other bytes) (l : Location)
    (hl : d.occupant? l = some .directory) :
    (e.recover trouble d₂ (some backup) path.toString).occupant? l = some .directory := by
  obtain ⟨hlocate, hvacant⟩ := h.locate_file
  rcases recover_puts hlocate hvacant with hsame | ⟨copied, -, hputs⟩
  · rw [hsame]
    exact h.spares.directory hl
  · exact (hputs.directory_iff l).2 (h.spares.directory hl)

/-- Copying the backup back keeps the file unless the copy breaks off. -/
theorem Shelved.recover_keeps (h : Shelved e d d₂ path backup loc other bytes)
    (hwhole : ¬e.BreaksOff trouble d (some backup)) :
    d.Becomes (e.recover trouble d₂ (some backup) path.toString) e.here path id := by
  obtain ⟨hlocate, hvacant⟩ := h.locate_file
  rcases recover_puts hlocate hvacant with hsame | ⟨copied, hcopied, hputs⟩
  · rw [hsame]
    exact becomes_of_spares h.locate h.spares
  · obtain ⟨hplain, rfl⟩ := h.read_backup hcopied
    have hdone : trouble .copyBack ≠ .truncates := fun htruncates =>
      hwhole ⟨htruncates, backup, rfl, hplain⟩
    rw [if_neg hdone] at hputs
    rintro text was rfl hwas
    obtain rfl := Disk.read_normal hwas h.read
    exact becomes_of_there h.locate h.directory_recover hputs.there text _ rfl hwas

/-- Copying the backup back empties the file when the copy breaks off. -/
theorem Shelved.recover_empties (h : Shelved e d d₂ path backup loc other bytes)
    (hbreaks : e.BreaksOff trouble d (some backup)) :
    d.Becomes (e.recover trouble d₂ (some backup) path.toString) e.here path fun _ => [] := by
  obtain ⟨hlocate, hvacant⟩ := h.locate_file
  obtain ⟨htruncates, named, hnamed, hplain⟩ := hbreaks
  obtain rfl := Option.some.inj hnamed
  have hputs :=
    recover_truncates htruncates (h.locate_backup hplain) h.there hlocate hvacant h.apart
  exact becomes_of_there h.locate h.directory_recover hputs.there

/-- Copying the backup back leaves the backup alone. -/
theorem Shelved.read_recover (h : Shelved e d d₂ path backup loc other bytes) :
    (e.recover trouble d₂ (some backup) path.toString).read e.here
      (d.destination e.here path.toString backup) = .ok bytes := by
  obtain ⟨hlocate, hvacant⟩ := h.locate_file
  have hcopied := Disk.locate_mono (fun _ => h.spares.directory) h.copied
  rcases recover_puts hlocate hvacant with hsame | ⟨copied, -, hputs⟩
  · rw [hsame]
    exact Disk.read_eq_ok.2 ⟨_, _, hcopied, h.there, rfl⟩
  · exact (hputs.spares h.apart).read hcopied h.there

/-- A replacement that fails once the backup is made copies it back over the file, which is what it
was: this changes nothing unless the copy breaks off. -/
theorem aftermath_of_recovered (hpath : path.Normal)
    (hmade : e.createBackup trouble d clock path.toString = .ok ⟨some backup, d₁, clock₁⟩)
    (hspares : ∀ l, d₁.Spares d₂ l) : Aftermath e trouble d path new ⟨false, some backup⟩
      (e.recover trouble d₂ (some backup) path.toString) := by
  obtain ⟨loc, other, bytes, h⟩ := exists_shelved hpath hmade hspares
  constructor
  · exact fun _ => h.recover_keeps
  · exact fun _ => h.recover_empties
  · intro hsuccess
    cases hsuccess
  · intro named hnamed
    obtain rfl := Option.some.inj hnamed
    exact ⟨bytes, h.read, h.read_recover⟩
  · exact fun _ _ hobstructed => read_of_isDirectory hobstructed h.directory_recover

end

/-! ## However it ends -/

/-- However a replacement ends, its aftermath is known. -/
theorem aftermath_of_ended {w : Written} (hpath : path.Normal)
    (h : Ended e trouble d clock path new w d') : Aftermath e trouble d path new w d' := by
  cases h with
  | unread => exact aftermath_of_kept fun _ _ _ hread => hread
  | unbacked htext hbackup =>
    obtain ⟨loc, -, hlocate, -⟩ := exists_of_readText htext
    exact aftermath_of_kept
      (becomes_of_spares hlocate (createBackup_spares hpath hlocate hbackup))
  | moved htext hbacked hreplace => exact aftermath_of_moved hpath htext hbacked hreplace
  | recovered htext hbacked hreplace =>
    cases hbacked with
    | skipped =>
      obtain ⟨loc, -, hlocate, -⟩ := exists_of_readText htext
      exact aftermath_of_kept (becomes_of_spares hlocate (replaceFile_spares loc hreplace))
    | made _ hmade =>
      exact aftermath_of_recovered hpath hmade fun l => replaceFile_spares l hreplace

/-- When the old content cannot be read, nothing is done. -/
theorem eq_of_unread {w : Written} {err : ReadError} (h : Ended e trouble d clock path new w d')
    (hunread : d.readText e.here path.toString = .error err) : w = ⟨false, none⟩ ∧ d' = d := by
  cases h with
  | unread => exact ⟨rfl, rfl⟩
  | unbacked htext | moved htext | recovered htext =>
    rw [htext] at hunread
    cases hunread

/-- A replacement gives an answer whatever steps fail. When the old content cannot be read, nothing
is done. Otherwise a file that is not written holds what it held, unless a backup was copied over it
and the copy broke off, which leaves the file empty; and a file that is written holds the new
content, while the backup holds the old one, within the directory, if any, that stood where it was
to go and that is answered in its place. -/
theorem write_aftermath (e : Editor) (trouble : Trouble) (d : Disk) (clock : Clock) (new : String)
    (hname : '\x00' ∉ file.toList) : ∃ w, e.write trouble d clock file new = .ok w ∧
      (∀ err, d.readText e.here (Path.ofString file).toString = .error err →
        w.answer = ⟨false, none⟩ ∧ w.disk = d) ∧
      Aftermath e trouble d (Path.ofString file) new w.answer w.disk := by
  cases hwrite : e.write trouble d clock file new with
  | error err => exact absurd hwrite (write_ne_error hname err)
  | ok w =>
    have hended := ended_of_write hwrite
    exact ⟨w, rfl, fun _ => eq_of_unread hended,
      aftermath_of_ended (Path.normal_ofString file) hended⟩

/-! ## A move that fails, and a directory where the backup was to go -/

/-- The first file of two stands where its path leads. -/
theorem locate_twinFile (h : d.follow [] ["a", "x.js"] = .ok ["a", "x.js"]) :
    d.locate [] "a/x.js" = .ok ["a", "x.js"] :=
  Disk.locate_of_follow (by decide) (by decide) (by decide) h

/-- The backup of the first file of two is to go where its path leads. -/
theorem locate_twinBackup (h : d.follow [] ["backups", "x.js.20240101_000000_000000.backup"] =
      .ok ["backups", "x.js.20240101_000000_000000.backup"]) :
    d.locate [] "backups/x.js.20240101_000000_000000.backup" =
      .ok ["backups", "x.js.20240101_000000_000000.backup"] :=
  Disk.locate_of_follow (by decide) (by decide) (by decide) h

/-- The first file of two is read and its backup made, where it was to go or in the directory
there, and the writing begins. -/
theorem write_twin {target : Location} (hreads : trouble .read = .done)
    (hcopies : trouble .copyBackup = .done)
    (hlocate : d.locate [] "a/x.js" = .ok ["a", "x.js"])
    (hthere : d.occupant? ["a", "x.js"] = some (.file (ofString "a old\n")))
    (htarget : d.locate [] (d.destination [] "a/x.js"
      "backups/x.js.20240101_000000_000000.backup") = .ok target)
    (hvacant : d.occupant? target = none) :
    twinEditor.write trouble d ⟨1704067200000000, 1000000⟩ "a/x.js" "a new\n" =
      .ok (twinEditor.finish trouble (d.set target (.file (ofString "a old\n")))
        ⟨1704067201000000, 1000000⟩ (Path.ofString "a/x.js") "a old\n" "a new\n"
        (some "backups/x.js.20240101_000000_000000.backup")) := by
  have hname : (Path.ofString "a/x.js").toString = "a/x.js" := by decide
  have hbackup : twinEditor.backupPath (Path.ofString "a/x.js") 1704067200000000 =
      "backups/x.js.20240101_000000_000000.backup" := by
    decide
  have htext : d.readText [] "a/x.js" = .ok "a old\n" :=
    Disk.readText_eq_ok.2
      ⟨_, Disk.read_eq_ok.2 ⟨_, _, hlocate, hthere, rfl⟩, toString?_ofString _⟩
  have hmade := createBackup_of_locate (e := twinEditor) ⟨1704067200000000, 1000000⟩ hcopies hname
    hlocate hthere (hbackup ▸ htarget) hvacant
  rw [hbackup] at hmade
  exact write_eq_finish hreads rfl hname htext hmade

/-- The first file of two is not written when it cannot be moved. -/
theorem write_twinDisk_of_move (hreads : trouble .read = .done)
    (hcopies : trouble .copyBackup = .done) (hmove : trouble .move ≠ .done) :
    ∃ w, twinEditor.write trouble twinDisk ⟨1704067200000000, 1000000⟩ "a/x.js" "a new\n" =
        .ok w ∧
      w.answer = ⟨false, some "backups/x.js.20240101_000000_000000.backup"⟩ := by
  have htarget : twinDisk.locate [] "backups/x.js.20240101_000000_000000.backup" = _ :=
    locate_twinBackup (by decide)
  have hdestination := Disk.destination_eq "a/x.js" htarget nofun
  exact ⟨_, write_twin hreads hcopies (locate_twinFile (by decide)) rfl
    (by rwa [hdestination]) rfl, answer_finish_of_move hmove _⟩

/-- When only the move fails, the file is what it was. -/
theorem write_aftermath_failedMove : '\x00' ∉ "a/x.js".toList ∧
    ∃ w, twinEditor.write (.at .move) twinDisk ⟨1704067200000000, 1000000⟩ "a/x.js" "a new\n" =
        .ok w ∧
      w.answer = ⟨false, some "backups/x.js.20240101_000000_000000.backup"⟩ ∧
      w.disk.read [] "a/x.js" = .ok (ofString "a old\n") := by
  have hname : '\x00' ∉ "a/x.js".toList := by decide
  have hread : twinDisk.read [] "a/x.js" = .ok (ofString "a old\n") :=
    Disk.read_eq_ok.2 ⟨_, _, locate_twinFile (by decide), rfl, rfl⟩
  obtain ⟨w, hwrite, -, hafter⟩ := write_aftermath twinEditor (.at .move) twinDisk
    ⟨1704067200000000, 1000000⟩ "a new\n" hname
  obtain ⟨w', hwrite', hanswer⟩ :
      ∃ w', twinEditor.write (.at .move) twinDisk _ _ _ = .ok w' ∧ _ :=
    write_twinDisk_of_move rfl rfl nofun
  obtain rfl := Except.ok.inj (hwrite.symm.trans hwrite')
  have hwhole : ¬twinEditor.BreaksOff (.at .move) twinDisk w.answer.backup? := by
    rintro ⟨htruncates, -⟩
    cases htruncates
  exact ⟨hname, w, hwrite, hanswer, hafter.kept (by rw [hanswer]) hwhole _ _ rfl hread⟩

/-- The move fails, and the backup that is copied back breaks off. -/
def brokenMove : Trouble
  | .move => .fails
  | .copyBack => .truncates
  | _ => .done

/-- The disk of two files with a directory where the backup of the first is to go. -/
def obstructedDisk : Disk :=
  twinDisk.set ["backups", "x.js.20240101_000000_000000.backup"] .directory

/-- A directory stands where the backup of the first file is to go. -/
theorem isDirectory_obstructedDisk :
    obstructedDisk.isDirectory [] "backups/x.js.20240101_000000_000000.backup" = true :=
  Disk.isDirectory_iff.2 ⟨_, locate_twinBackup (by decide), rfl⟩

/-- The first file of two is written with a directory where its backup is to go, and this directory
is answered for the backup. -/
theorem write_obstructedDisk :
    ∃ w, twinEditor.write .none obstructedDisk ⟨1704067200000000, 1000000⟩ "a/x.js" "a new\n" =
        .ok w ∧
      w.answer = ⟨true, some "backups/x.js.20240101_000000_000000.backup"⟩ := by
  have hdestination : obstructedDisk.destination [] "a/x.js"
      "backups/x.js.20240101_000000_000000.backup" =
        "backups/x.js.20240101_000000_000000.backup/x.js" := by
    rw [Disk.destination, if_pos isDirectory_obstructedDisk]
    decide
  have hwithin : obstructedDisk.locate [] "backups/x.js.20240101_000000_000000.backup/x.js" =
      .ok ["backups", "x.js.20240101_000000_000000.backup", "x.js"] :=
    Disk.locate_of_follow (by decide) (by decide) (by decide) (by decide)
  refine ⟨_, write_twin rfl rfl (locate_twinFile (by decide)) rfl (by rwa [hdestination])
    rfl, ?_⟩
  set d := obstructedDisk.set ["backups", "x.js.20240101_000000_000000.backup", "x.js"]
    (.file (ofString "a old\n")) with hd
  have hlocate : d.locate [] (Path.ofString "a/x.js").toString = .ok ["a", "x.js"] := by
    have hname : (Path.ofString "a/x.js").toString = "a/x.js" := by decide
    rw [hname]
    exact locate_twinFile (by decide)
  have hfree : freeName d ["a"] (Path.ofString "a/x.js") = ".x.js.00000000.tmp" := by
    decide
  refine answer_finish_of_locate hlocate ?_ _
  show (freeName d ["a"] (Path.ofString "a/x.js")).utf8ByteSize ≤ Disk.nameLimit
  rw [hfree]
  decide

/-- A replacement that fails leaves the file empty when the move fails and the copy of the backup
over the whole file breaks off; and one that succeeds answers a backup that cannot be read when that
is a directory. -/
theorem write_loses :
    (∃ w, twinEditor.write brokenMove twinDisk ⟨1704067200000000, 1000000⟩ "a/x.js" "a new\n" =
        .ok w ∧
      w.answer = ⟨false, some "backups/x.js.20240101_000000_000000.backup"⟩ ∧
      twinDisk.read [] "a/x.js" = .ok (ofString "a old\n") ∧
      w.disk.read [] "a/x.js" = .ok []) ∧
    ∃ w, twinEditor.write .none obstructedDisk ⟨1704067200000000, 1000000⟩ "a/x.js" "a new\n" =
        .ok w ∧
      w.answer = ⟨true, some "backups/x.js.20240101_000000_000000.backup"⟩ ∧
      w.disk.read [] "backups/x.js.20240101_000000_000000.backup" = .error .isDirectory := by
  have hpath := Path.normal_ofString "a/x.js"
  constructor
  · have hread : twinDisk.read [] "a/x.js" = .ok (ofString "a old\n") :=
      Disk.read_eq_ok.2 ⟨_, _, locate_twinFile (by decide), rfl, rfl⟩
    have hplain : twinDisk.isDirectory [] "backups/x.js.20240101_000000_000000.backup" = false :=
      Disk.isDirectory_eq_false (locate_twinBackup (by decide)) nofun
    obtain ⟨w, hwrite, hanswer⟩ : ∃ w, twinEditor.write brokenMove _ _ _ _ = .ok w ∧ _ :=
      write_twinDisk_of_move rfl rfl nofun
    have hafter := aftermath_of_ended hpath (ended_of_write hwrite)
    rw [hanswer] at hafter
    exact ⟨w, hwrite, hanswer, hread, hafter.emptied rfl ⟨rfl, _, rfl, hplain⟩ _ _ rfl hread⟩
  · obtain ⟨w, hwrite, hanswer⟩ := write_obstructedDisk
    have hafter := aftermath_of_ended hpath (ended_of_write hwrite)
    rw [hanswer] at hafter
    exact ⟨w, hwrite, hanswer, hafter.obstructed _ rfl isDirectory_obstructedDisk⟩

end Editor

end Sabotage
