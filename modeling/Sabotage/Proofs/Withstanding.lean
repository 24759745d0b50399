import Sabotage.Proofs.Ledgers
import Sabotage.Proofs.Report

/-!
# What a broken history does

Trouble with the files of a history is told by answers: an entry that is not kept is answered
`false`, and where no rows can be read nothing is found (`Ledger.Mute`). Two kinds of trouble are
not told in this way but are errors: something other than a directory in the place of the directory
that the history is kept in, and a number of rows that the store does not take
(`Surroundings.history_withstands`).
-/

namespace Sabotage

namespace Disk
variable {d d' : Disk} {here loc : Location} {text : String} {bytes : Bytes}

/-- Something that is no directory stands at a location. -/
def Obstructs (d : Disk) (loc : Location) : Prop :=
  ∃ thing, d.occupant? loc = some thing ∧ thing ≠ .directory

/-- Directories are made one after the other. -/
theorem makeFrom_append {parts : List String} (h : d.makeFrom loc parts = .ok d')
    (more : List String) :
    d.makeFrom loc (parts ++ more) = d'.makeFrom (parts.foldl Path.step loc) more := by
  induction parts generalizing d loc with
  | nil =>
    cases h
    rfl
  | cons part parts ih =>
    simp only [makeFrom, List.cons_append] at h ⊢
    split at h
    · cases h
    · next hshort =>
      rw [if_neg hshort]
      split at h
      · exact ih h
      · cases h
      · exact ih h

/-- One directory is made unless something else stands in its place. -/
theorem makeFrom_singleton {name : String} (hshort : name.utf8ByteSize ≤ nameLimit)
    {err : DiskError} : d.makeFrom loc [name] = .error err ↔
      err = .alreadyThere ∧ d.Obstructs (Path.step loc name) := by
  simp only [makeFrom, if_neg (Nat.not_lt.2 hshort), Obstructs]
  cases hthere : d.occupant? (Path.step loc name) with
  | none => simp
  | some thing =>
    cases thing with
    | directory => simp
    | file _ => simp [eq_comm]
    | store _ => simp [eq_comm]

end Disk

namespace Ledger
variable {l : Ledger} {d d' : Disk} {e : HistoryEntry}

/-- What a ledger answers when nothing is found in its store: no entry is taken, and none is
there. -/
structure Mute (l : Ledger) (d : Disk) : Prop where
  record : ∀ e, (l.record e d).1 = false
  recent : ∀ limit, l.recent limit d = .ok []
  get : ∀ id, l.get? id d = none
  stats : l.stats d = ⟨0, 0, [], 0⟩

/-- Where no rows can be read nothing is found. -/
theorem mute_of_rows?_eq_none (h : l.rows? d = none) : l.Mute d where
  record e := by simp only [Ledger.record, enterRow_of_rows?_eq_none h, Bool.false_and]
  recent limit := by rw [Ledger.recent, h]
  get id := by rw [get?, h, Option.bind_none]
  stats := by
    rw [Ledger.stats, h]
    rfl

/-- The most recent entries are refused when rows can be read, but the store does not take their
number. -/
theorem recent_eq_error (limit : Int) {err : LimitError} : l.recent limit d = .error err ↔
    err = .outOfRange ∧ (∃ rows, l.rows? d = some rows) ∧ takes limit = false := by
  rw [Ledger.recent]
  cases l.rows? d with
  | none => simp
  | some rows => cases takes limit <;> simp [eq_comm]

/-- An entry that is kept: its row is the last one of the table, and its line stands at the end of
the log. -/
structure Kept (l : Ledger) (d d' : Disk) (e : HistoryEntry) : Prop where
  row : ∃ rows, l.rows? d = some rows ∧ l.rows? d' = some (Store.putRow e.row rows)
  line : ∃ old, d'.read l.here l.log.toString = .ok (old ++ Bytes.ofString (e.record ++ "\n"))

/-- A line that is said to be entered stands at the end of the log. -/
theorem read_enterLine (h : l.enterLine e d = (true, d')) :
    ∃ old, d'.read l.here l.log.toString = .ok (old ++ Bytes.ofString (e.record ++ "\n")) := by
  rw [enterLine] at h
  split at h
  · cases h
  · split at h
    · next happend =>
      cases h
      obtain ⟨place, old, hlocate, hputs⟩ := Disk.append_puts happend
      exact ⟨old, hputs.read hlocate⟩
    · cases h

/-- An entry is said to be kept only if it is. -/
theorem kept_of_record (hl : l.Apart) (h : l.record e d = (true, d')) : l.Kept d d' e := by
  have hline : l.enterLine e (l.enterRow e d).2 = (true, d') := by
    simp only [Ledger.record, Prod.mk.injEq, Bool.and_eq_true] at h
    exact Prod.ext h.1.2 h.2
  refine ⟨?_, read_enterLine hline⟩
  cases hrows : l.rows? d with
  | none =>
    have hmute := (mute_of_rows?_eq_none hrows).record e
    rw [h] at hmute
    cases hmute
  | some rows => exact ⟨rows, rfl, rows?_record hl hrows h⟩

end Ledger

namespace Surroundings
variable {s : Surroundings} {d d' : Disk}

/-- The store and the log of a project are kept at two places. -/
theorem apart_ledger (hroot : s.project.root.Plain) : s.ledger.Apart :=
  ⟨(normal_ledger hroot).1, (normal_ledger hroot).2, Ne.symm s.logPlace_ne⟩

/-- In a root that is there, the directory of a project is made unless something else stands in its
place. -/
theorem makePath_directory (hplain : s.project.root.Plain)
    (hroot : d.makePath s.here s.project.root = .ok d) {err : DiskError} :
    d.makePath s.here s.project.directory = .error err ↔
      err = .alreadyThere ∧ d.Obstructs s.directoryPlace := by
  rw [Disk.makePath, Disk.makeDirectory] at hroot
  generalize hbase : (if s.project.root.isAbsolute then [] else s.here) = base at hroot
  have hlevel : ".." ∉ base ++ s.project.root.parts := by
    rw [List.mem_append, ← hbase]
    rintro (hup | hup)
    · split at hup
      · cases hup
      · exact hplain.level hup
    · exact hplain.level hup
  have hfold : (base ++ s.project.root.parts).foldl Path.step [] = base ++ s.project.root.parts :=
    Path.locate_of_level (p := ⟨1, base ++ s.project.root.parts⟩) hlevel []
  have hplace : s.directoryPlace = Path.step (base ++ s.project.root.parts) ".bugduck" := by
    rw [directoryPlace, Project.directory, Path.locate_child, Path.locate_of_level hplain.level,
      hbase]
    rfl
  have hmake : d.makePath s.here s.project.directory
      = d.makeFrom [] (base ++ s.project.root.parts ++ [".bugduck"]) := by
    rw [List.append_assoc, ← hbase]
    rfl
  rw [hmake, Disk.makeFrom_append hroot, hfold, hplace]
  exact Disk.makeFrom_singleton (by decide)

/-- What trouble with the history of a project comes to, in a root that is there. The ledger can be
got ready unless something that is no directory stands in the place of the directory of the project.
Whatever stands on the disk afterwards, an entry is said to be kept only if it is, nothing is found
where no rows can be read, and the most recent entries are refused only where rows can be read and
the store does not take their number. -/
theorem history_withstands (hplain : s.project.root.Plain)
    (hroot : d.makePath s.here s.project.root = .ok d) :
    (∀ err, s.ledger.prepare d = .error err ↔
      err = .alreadyThere ∧ d.Obstructs s.directoryPlace)
    ∧ ∀ d₁ : Disk,
      (s.ledger.rows? d₁ = none → s.ledger.Mute d₁)
      ∧ (∀ e d₂, s.ledger.record e d₁ = (true, d₂) → s.ledger.Kept d₁ d₂ e)
      ∧ ∀ limit err, s.ledger.recent limit d₁ = .error err ↔
        err = .outOfRange ∧ (∃ rows, s.ledger.rows? d₁ = some rows)
          ∧ Ledger.takes limit = false := by
  refine ⟨fun err => ?_, fun d₁ => ⟨Ledger.mute_of_rows?_eq_none,
    fun e d₂ => Ledger.kept_of_record (apart_ledger hplain),
    fun limit err => Ledger.recent_eq_error limit⟩⟩
  have hparent : s.ledger.store.parent = s.project.directory := by
    simp [ledger, Project.historyStore, Path.parent, Path.child]
  rw [← makePath_directory hplain hroot]
  cases hmake : d.makePath s.here s.project.directory with
  | error e => rw [Ledger.prepare, hparent, ledger, hmake]
  | ok d₁ =>
    obtain ⟨d₂, hprepare⟩ := Ledger.exists_prepare (l := s.ledger) (hparent ▸ hmake)
    simp [hprepare]

/-- A project at the root. -/
def rootProject : Surroundings :=
  ⟨literalParser, ⟨⟨1, []⟩, ⟨1, ["home"]⟩⟩, fun _ => none, fun _ => .raised, 0⟩

/-- A disk on which a file stands in the place of the directory of this project. -/
def obstructedDisk : Disk :=
  ⟨[([".bugduck"], .file [])]⟩

/-- On this disk the ledger cannot be got ready, and still it answers that nothing is there. -/
theorem history_withstands_obstructed :
    rootProject.project.root.Plain
      ∧ obstructedDisk.makePath rootProject.here rootProject.project.root = .ok obstructedDisk
      ∧ (∃ err, rootProject.ledger.prepare obstructedDisk = .error err)
      ∧ rootProject.ledger.Mute obstructedDisk := by
  have hplain : rootProject.project.root.Plain := ⟨⟨by decide, by decide, by decide⟩, by decide⟩
  obtain ⟨hprepare, hanswers⟩ := history_withstands (d := obstructedDisk) hplain rfl
  have hnone : rootProject.ledger.rows? obstructedDisk = none := by
    cases hrows : rootProject.ledger.rows? obstructedDisk with
    | none => rfl
    | some rows => cases ((Ledger.rows?_eq_some (normal_ledger hplain).1).1 hrows).2
  exact ⟨hplain, rfl, ⟨_, (hprepare _).2 ⟨rfl, _, rfl, nofun⟩⟩, (hanswers _).1 hnone⟩

/-- Two errors that a history is not to give: its ledger cannot be got ready where a file stands in
the place of the directory, and more rows are asked for than the store takes. -/
theorem history_errors :
    rootProject.ledger.prepare obstructedDisk = .error .alreadyThere
      ∧ rootProject.ledger.recent (2 ^ 63) Ledger.blankHistory = .error .outOfRange := by
  refine ⟨rfl, (Ledger.recent_eq_error _).2 ⟨rfl, ⟨[], ?_⟩, rfl⟩⟩
  have hlocate : Ledger.blankHistory.locate [] "/.bugduck/history.db"
      = .ok [".bugduck", "history.db"] :=
    Disk.locate_of_follow (by decide) (by decide) (by decide) rfl
  exact (Ledger.rows?_eq_some ⟨by decide, by decide, by decide⟩).2 ⟨hlocate, rfl⟩

end Surroundings

end Sabotage
