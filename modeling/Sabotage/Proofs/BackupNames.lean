import Sabotage.Editor
import Sabotage.Proofs.Disks
import Sabotage.Proofs.Patterns
import Sabotage.Proofs.Stamps

/-!
# The names of backups

The name of a backup is that of the file and the stamp of the time. Stamps have one length and no
dot, so that a name of a backup tells the name of the file and the time (`Editor.backupName_inj`).
Backups of files of one name stand in the order of their times (`Editor.backupName_lt`). The
pattern by which the backups of a file are found again begins with its name, read as a pattern
(`Editor.accepts_backupPattern`). It takes the name as it stands when no character of it means
something else (`Glob.isLiteral`), and then takes the backups of all files whose names are that name
or begin with it and a dot (`Editor.accepts_backupName`). The path of a backup leads to its name in
the backup directory (`Editor.locate_backupPath`).
-/

namespace Sabotage

/-! ## Names -/

namespace Editor
variable {file other : Path} {micros later : Nat}

/-- The characters of the name of a backup. -/
theorem toList_backupName (file : Path) (micros : Nat) :
    (backupName file micros).toList =
      file.name.toList ++ '.' :: ((Moment.ofMicros micros).stamp.toList ++ ".backup".toList) := by
  have hdot : ".".toList = ['.'] := rfl
  rw [backupName, String.toList_append, String.toList_append, String.toList_append, hdot,
    List.append_assoc, List.append_assoc, List.singleton_append]

/-- The name of a backup tells the name of the file and the time. -/
theorem backupName_inj (h : micros < Moment.limit) (h' : later < Moment.limit)
    (heq : backupName file micros = backupName other later) :
    file.name = other.name ∧ micros = later := by
  have hlength := Moment.length_stamp h
  have hlength' := Moment.length_stamp h'
  have hchars := congrArg String.toList heq
  rw [toList_backupName, toList_backupName] at hchars
  obtain ⟨hname, hrest⟩ := List.append_inj' hchars (by
    rw [List.length_cons, List.length_append, hlength, List.length_cons, List.length_append,
      hlength'])
  have hstamp := List.append_cancel_right (List.cons.inj hrest).2
  refine ⟨String.toList_injective hname, ?_⟩
  rcases Nat.lt_trichotomy micros later with hlt | rfl | hgt
  · exact absurd (String.toList_injective hstamp) (Moment.stamp_lt hlt h').ne
  · rfl
  · exact absurd (String.toList_injective hstamp) (Moment.stamp_lt hgt h).ne'

/-- Of two backups of files of one name the later one has the later name. -/
theorem backupName_lt (hname : file.name = other.name) (h : micros < later)
    (h' : later < Moment.limit) : backupName file micros < backupName other later := by
  have hlength := Moment.length_stamp (Nat.lt_trans h h')
  have hlength' := Moment.length_stamp h'
  have hstamp := String.lt_iff_toList_lt.1 (Moment.stamp_lt h h')
  rw [String.lt_iff_toList_lt, toList_backupName, toList_backupName, hname]
  refine List.append_left_lt (List.cons_lt_cons_iff.2 (.inr ⟨rfl, ?_⟩))
  exact Moment.append_lt_append (hlength.trans hlength'.symm) hstamp _ _

/-- A name that is another one, or begins with it and a dot. -/
def Extends (name other : String) : Prop :=
  other = name ∨ ∃ rest, other = name ++ "." ++ rest

/-- The dot before the stamp is the last one in the name of a backup, less its end. -/
theorem exists_stamp_iff {name other : String} {m : Moment} :
    (∃ mid, other ++ "." ++ m.stamp = name ++ "." ++ mid) ↔ Extends name other := by
  have hdot : '.' ∉ m.stamp.toList := fun hmem => absurd (Moment.mem_stamp hmem) (by decide)
  constructor
  · rintro ⟨mid, hmid⟩
    have hchars : other.toList ++ '.' :: m.stamp.toList = name.toList ++ '.' :: mid.toList := by
      simpa using congrArg String.toList hmid
    rcases List.append_eq_append_iff.1 hchars with ⟨extra, hname, htail⟩ | ⟨extra, hname, htail⟩
    · cases extra with
      | nil => exact .inl (String.toList_injective (by simpa using hname.symm))
      | cons c extra =>
        have hstamp := (List.cons.inj htail).2
        exact absurd (by rw [hstamp]; simp) hdot
    · cases extra with
      | nil => exact .inl (String.toList_injective (by simpa using hname))
      | cons c extra =>
        obtain ⟨rfl, -⟩ := List.cons.inj htail
        exact .inr ⟨String.ofList extra, String.toList_injective (by simp [hname])⟩
  · rintro (hname | ⟨rest, hname⟩)
    · exact ⟨m.stamp, by rw [hname]⟩
    · exact ⟨rest ++ "." ++ m.stamp, by rw [hname]; simp only [String.append_assoc]⟩

/-- The pattern of a file is its name, read as a pattern, and a star between a dot and the end. -/
theorem parse_backupPattern (file : Path) : Glob.parse (backupPattern file).toList =
    Glob.parse file.name.toList ++
      (".".toList.map .char ++ .run :: (".backup".toList.map .char ++ [])) := by
  have hend : ".*.backup".toList = ".".toList ++ '*' :: (".backup".toList ++ []) := rfl
  rw [backupPattern, String.toList_append, Glob.parse_append (by decide), hend,
    Glob.parse_append_literal (List.all_eq_true.1 rfl), Glob.parse_cons_star,
    Glob.parse_append_literal (List.all_eq_true.1 rfl)]
  rfl

/-- The pattern of a file takes the backups of the files whose names are, or extend, a name that its
own name takes when it is read as a pattern. -/
theorem accepts_backupPattern : Glob.accepts (backupPattern file) (backupName other micros) ↔
    ∃ name, Glob.accepts file.name name ∧ Extends name other.name := by
  rw [Glob.accepts, parse_backupPattern, Glob.matchesPieces_append]
  simp only [Glob.matchesPieces_literal, Glob.matchesPieces_run, Glob.matchesPieces_nil,
    ← exists_stamp_iff (m := Moment.ofMicros micros), backupName]
  constructor
  · rintro ⟨front, _, hname, hfront, _, rfl, mid, _, rfl, _, rfl, rfl⟩
    refine ⟨String.ofList front, by rwa [Glob.accepts, String.toList_ofList], String.ofList mid, ?_⟩
    rw [← String.append_left_inj ".backup"]
    refine String.toList_injective ?_
    simp only [String.toList_append, String.toList_ofList, List.append_assoc,
      List.append_nil] at hname ⊢
    exact hname
  · rintro ⟨name, hname, mid, hmid⟩
    refine ⟨name.toList, _, ?_, hname, _, rfl, mid.toList, _, rfl, [], rfl, rfl⟩
    rw [hmid]
    simp

/-- The pattern of a file whose name stands for itself takes the backups of the files whose names
are its own or extend it. -/
theorem accepts_backupName (hliteral : ∀ c ∈ file.name.toList, Glob.isLiteral c) :
    Glob.accepts (backupPattern file) (backupName other micros) ↔
      Extends file.name other.name := by
  have hself (name : String) : Glob.accepts file.name name ↔ name = file.name := by
    have hparse := Glob.parse_append_literal hliteral []
    rw [List.append_nil] at hparse
    rw [Glob.accepts, hparse, Glob.matchesPieces_literal]
    simp [Glob.parse, Glob.piecesFrom, Glob.matchesPieces_nil, String.toList_inj]
  simp only [accepts_backupPattern, hself, exists_eq_left]

/-! ## Places -/

/-- The location of the backup directory. -/
def vault (e : Editor) : Location :=
  e.directory.locate e.here

/-- The name of a backup is a component of a path, and leads down. -/
theorem backupName_proper (path : Path) (micros : Nat) :
    Path.isProper (backupName path micros) = true ∧ backupName path micros ≠ ".." := by
  have hmem : 'k' ∈ (backupName path micros).toList := by
    rw [toList_backupName]
    exact List.mem_append_right _ (List.mem_cons_of_mem _ (List.mem_append_right _ (by decide)))
  have hne {name : String} (h : 'k' ∉ name.toList) : backupName path micros ≠ name :=
    fun heq => h (heq ▸ hmem)
  refine ⟨?_, hne (by decide)⟩
  rw [Path.isProper, bne_iff_ne.2 (hne (by decide)), bne_iff_ne.2 (hne (by decide))]
  rfl

/-- The name of a backup holds no slash. -/
theorem slash_not_mem_backupName {path : Path} (micros : Nat) (hpath : path.Normal) :
    '/' ∉ (backupName path micros).toList := by
  rw [toList_backupName, List.mem_append, List.mem_cons, List.mem_append]
  rintro (hmem | hmem | hmem | hmem)
  · exact hpath.slash_not_mem_name hmem
  · exact absurd hmem (by decide)
  · exact absurd (Moment.mem_stamp hmem) (by decide)
  · exact absurd hmem (by decide)

/-- The path of a backup leads to its name in the backup directory. -/
theorem locate_backupPath {e : Editor} {path : Path} {micros : Nat} (hpath : path.Normal)
    {d : Disk} {loc : Location}
    (hlocate : d.locate e.here (e.backupPath path micros) = .ok loc) :
    loc = e.vault ++ [backupName path micros] := by
  obtain ⟨hproper, hdown⟩ := backupName_proper path micros
  have hchild := (Path.normal_ofString e.backupDirectory).child hproper
    (slash_not_mem_backupName micros hpath)
  rw [Disk.locate_toString_eq hchild hlocate, Path.locate_child, Path.step, if_neg hdown]
  rfl

end Editor

end Sabotage
