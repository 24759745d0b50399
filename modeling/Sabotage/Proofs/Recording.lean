import Sabotage.Command.Inject
import Sabotage.Proofs.BackupNames
import Sabotage.Proofs.Growing

/-!
# What recording touches

A ledger is got ready and takes entries at two places of the disk, those of its store and of its
log; elsewhere only directories are made. A file that lies at neither place stays what it is, and so
does a file in the place of the store that is too long to count as a blank one
(`Ledger.prepare_spares`, `Ledger.record_spares`).
-/

namespace Sabotage

namespace Disk
variable {d d' d'' : Disk} {here loc target : Location} {text : String} {bytes old : Bytes}

/-- A disk on which no directory is lost and a location holds what it held. -/
structure Spares (d d' : Disk) (loc : Location) : Prop where
  directory : ∀ {l}, d.occupant? l = some .directory → d'.occupant? l = some .directory
  kept : ∀ {e}, d.occupant? loc = some e → d'.occupant? loc = some e

/-- A disk spares every location of itself. -/
theorem Spares.refl (d : Disk) (loc : Location) : d.Spares d loc :=
  ⟨id, id⟩

/-- A location that is spared twice is spared. -/
theorem Spares.trans (h : d.Spares d' loc) (h' : d'.Spares d'' loc) : d.Spares d'' loc :=
  ⟨h'.directory ∘ h.directory, h'.kept ∘ h.kept⟩

/-- A disk that grows spares every location. -/
theorem Grows.spares (h : d.Grows d') (loc : Location) : d.Spares d' loc :=
  ⟨h.kept, h.kept⟩

/-- Putting a file spares the other locations. -/
theorem Puts.spares (h : d.Puts d' target bytes) (hne : loc ≠ target) : d.Spares d' loc where
  directory := (h.directory_iff _).2
  kept hthere := by rwa [h.elsewhere loc hne]

/-- Something put where no directory stands spares the other locations. -/
theorem spares_set (hvacant : d.occupant? target ≠ some .directory) (hne : loc ≠ target)
    (e : Entry) : d.Spares (d.set target e) loc where
  directory {l} hdir := by
    have hl : l ≠ target := by
      rintro rfl
      exact hvacant hdir
    rwa [occupant?_set_of_ne hl]
  kept hthere := by rwa [occupant?_set_of_ne hne]

/-- What is changed only where nothing stood spares every location. -/
theorem spares_of_vacant (hvacant : d.occupant? target = none)
    (helsewhere : ∀ l, l ≠ target → d'.occupant? l = d.occupant? l) (loc : Location) :
    d.Spares d' loc := by
  have hapart {l : Location} {e : Entry} (hl : d.occupant? l = some e) : l ≠ target := by
    rintro rfl
    cases hvacant.symm.trans hl
  exact ⟨fun hl => (helsewhere _ (hapart hl)).trans hl,
    fun hl => (helsewhere _ (hapart hl)).trans hl⟩

/-- A file at a location that is spared is read by the paths that led to it. -/
theorem Spares.read (h : d.Spares d' loc) (hlocate : d.locate here text = .ok loc)
    (hthere : d.occupant? loc = some (.file bytes)) : d'.read here text = .ok bytes :=
  read_eq_ok.2 ⟨loc, _, locate_mono (fun _ => h.directory) hlocate, h.kept hthere, rfl⟩

/-- Bytes are added after what a file holds, and a file that is missing is made. -/
theorem exists_append (hlocate : d.locate here text = .ok loc)
    (hheld : d.occupant? loc = none ∧ old = [] ∨ d.occupant? loc = some (.file old))
    (more : Bytes) : ∃ d', d.append here text more = .ok d' ∧ d.Puts d' loc (old ++ more) := by
  rcases hheld with ⟨hnone, rfl⟩ | hfile
  · have hwrite : d.writeAt loc more = _ := writeAt_eq_ok (by simp [hnone]) more
    refine ⟨_, ?_, writeAt_puts hwrite⟩
    simp only [append, hlocate, hnone, hwrite]
  · have hwrite : d.writeAt loc (old ++ more) = _ := writeAt_eq_ok (by simp [hfile]) _
    refine ⟨_, ?_, writeAt_puts hwrite⟩
    simp only [append, hlocate, hfile, content, Except.bind, hwrite]

/-- What is added to a file stands at its end, where the path leads. -/
theorem append_puts (h : d.append here text bytes = .ok d') :
    ∃ loc old, d.locate here text = .ok loc ∧ d.Puts d' loc (old ++ bytes) := by
  rw [append] at h
  split at h
  · cases h
  · next loc hlocate =>
    split at h
    · exact ⟨loc, [], hlocate, writeAt_puts h⟩
    · next held _ =>
      cases hcontent : content held with
      | error err =>
        rw [hcontent] at h
        cases h
      | ok old =>
        rw [hcontent] at h
        exact ⟨loc, old, hlocate, writeAt_puts h⟩

end Disk

namespace Ledger
variable {l : Ledger} {d d' : Disk} {loc : Location} {bytes old : Bytes}

/-- The location of the store. -/
def storePlace (l : Ledger) : Location :=
  l.store.locate l.here

/-- The location of the log. -/
def logPlace (l : Ledger) : Location :=
  l.log.locate l.here

/-- A location with a file that a ledger leaves alone: it is not that of the log, nor that of the
store unless the file is too long to count as a blank store. -/
structure Leaves (l : Ledger) (loc : Location) (bytes : Bytes) : Prop where
  log : loc ≠ l.logPlace
  store : loc = l.storePlace → 1 < bytes.length

/-- A ledger whose directory can be made can be got ready. -/
theorem exists_prepare {d₁ : Disk} (h : d.makePath l.here l.store.parent = .ok d₁) :
    ∃ d', l.prepare d = .ok d' := by
  rw [prepare, h]
  cases hheld : l.storeAt? d₁ with
  | none => exact ⟨d₁, by simp only [hheld]⟩
  | some held => exact ⟨(l.putStore held.prepare d₁).getD d₁, by simp only [hheld]⟩

/-! ## The store -/

section
variable (hnormal : l.store.Normal) (hstore : loc = l.storePlace → 1 < bytes.length)
  (hthere : d.occupant? loc = some (.file bytes))
include hnormal hstore hthere

/-- A store that is put in its place leaves a file alone that is no store. -/
theorem putStore_spares {held put : Store} (hheld : l.storeAt? d = some held)
    (hput : l.putStore put d = some d') : d.Spares d' loc := by
  rw [putStore] at hput
  split at hput
  · next place hplace =>
    cases hput
    obtain rfl : place = l.storePlace := Disk.locate_toString_eq hnormal hplace
    simp only [storeAt?, Disk.find, hplace] at hheld
    refine Disk.spares_set ?_ ?_ (.store put)
    · intro hdir
      rw [hdir] at hheld
      cases hheld
    · rintro rfl
      -- A file that counts as a store has at most one byte.
      have hlong := hstore rfl
      rw [hthere] at hheld
      cases bytes with
      | nil => cases hlong
      | cons byte rest =>
        cases rest with
        | nil => exact absurd hlong (lt_irrefl 1)
        | cons => cases hheld
  · cases hput

/-- Getting a ledger ready makes its directory and leaves a file alone that is no store. -/
theorem prepare_eq_ok (h : l.prepare d = .ok d') :
    ∃ d₁, d.makePath l.here l.store.parent = .ok d₁ ∧ d₁.Spares d' loc := by
  rw [prepare] at h
  split at h
  · cases h
  · next d₁ hmake =>
    refine ⟨d₁, hmake, ?_⟩
    split at h
    · cases h
      exact .refl _ loc
    · next held hheld =>
      cases h
      cases hput : l.putStore held.prepare d₁ with
      | none => exact .refl d₁ loc
      | some d₂ =>
        exact putStore_spares hnormal hstore ((Disk.makePath_grows hmake).kept hthere) hheld hput

/-- Getting a ledger ready leaves a file alone that is no store. -/
theorem prepare_spares (h : l.prepare d = .ok d') : d.Spares d' loc := by
  obtain ⟨d₁, hmake, hspares⟩ := prepare_eq_ok hnormal hstore hthere h
  exact ((Disk.makePath_grows hmake).spares loc).trans hspares

/-- Entering a row leaves a file alone that is no store. -/
theorem enterRow_spares (e : HistoryEntry) : d.Spares (l.enterRow e d).2 loc := by
  rw [enterRow]
  cases hheld : l.storeAt? d with
  | none => exact .refl d loc
  | some held =>
    cases hrow : Store.put? ⟨e.id, e.time, e.record⟩ held with
    | none =>
      simp only [Option.bind_some, hrow]
      exact .refl d loc
    | some store =>
      simp only [Option.bind_some, hrow]
      cases hput : l.putStore store d with
      | none => exact .refl d loc
      | some d' => exact putStore_spares hnormal hstore hthere hheld hput

end

/-! ## The log -/

/-- Entering a line leaves a file alone that is not the log. -/
theorem enterLine_spares (hnormal : l.log.Normal) (hlog : loc ≠ l.logPlace) (e : HistoryEntry)
    (d : Disk) : d.Spares (l.enterLine e d).2 loc := by
  rw [enterLine]
  split
  · exact .refl d loc
  · next d₁ hmake =>
    refine ((Disk.makePath_grows hmake).spares loc).trans ?_
    split
    · next d₂ happend =>
      obtain ⟨place, old, hplace, hputs⟩ := Disk.append_puts happend
      obtain rfl : place = l.logPlace := Disk.locate_toString_eq hnormal hplace
      exact hputs.spares hlog
    · exact .refl d₁ loc

/-- A line is entered at the end of what the log holds. -/
theorem enterLine_there (hmake : d.makePath l.here l.log.parent = .ok d)
    (hlocate : d.locate l.here l.log.toString = .ok l.logPlace)
    (hthere : d.occupant? l.logPlace = some (.file old)) (e : HistoryEntry) :
    (l.enterLine e d).2.occupant? l.logPlace =
      some (.file (old ++ Bytes.ofString (e.record ++ "\n"))) := by
  have hroot : l.logPlace ≠ [] := by
    intro hroot
    rw [hroot] at hthere
    cases hthere
  simp only [enterLine, hmake, Disk.append, hlocate, hthere, Disk.content, Except.bind,
    Disk.writeAt]
  exact Disk.occupant?_set hroot d _

/-- Recording an entry leaves a file alone. -/
theorem record_spares (hstore : l.store.Normal) (hlog : l.log.Normal)
    (hleaves : l.Leaves loc bytes) (hthere : d.occupant? loc = some (.file bytes))
    (e : HistoryEntry) : d.Spares (l.record e d).2 loc :=
  (enterRow_spares hstore hleaves.store hthere e).trans
    (enterLine_spares hlog hleaves.log e _)

end Ledger

/-! ## The places of a project -/

namespace Surroundings
variable {s : Surroundings}

/-- The location of the directory of a project. -/
def directoryPlace (s : Surroundings) : Location :=
  s.project.directory.locate s.here

/-- A name in the directory of a project lies there. -/
theorem locate_child_directory (s : Surroundings) {name : String} (hname : name ≠ "..") :
    (s.project.directory.child name).locate s.here = s.directoryPlace ++ [name] := by
  rw [Path.locate_child, Path.step, if_neg hname]
  rfl

/-- The store of a project lies in its directory. -/
theorem storePlace_eq (s : Surroundings) :
    s.ledger.storePlace = s.directoryPlace ++ ["history.db"] :=
  s.locate_child_directory (by decide)

/-- The log of a project lies in its directory. -/
theorem logPlace_eq (s : Surroundings) :
    s.ledger.logPlace = s.directoryPlace ++ ["history.jsonl"] :=
  s.locate_child_directory (by decide)

/-- The log of a project is not its store. -/
theorem logPlace_ne (s : Surroundings) : s.ledger.logPlace ≠ s.ledger.storePlace := by
  rw [logPlace_eq, storePlace_eq]
  intro h
  exact absurd (List.singleton_inj.1 (List.append_cancel_left h)) (by decide)

/-- The directory of a project is given by a path that never leads up. -/
theorem plain_directory (hroot : s.project.root.Plain) : s.project.directory.Plain :=
  hroot.child (by decide) (by decide) (by decide)

/-- The store and the log of a project have paths in normal form. -/
theorem normal_ledger (hroot : s.project.root.Plain) :
    s.ledger.store.Normal ∧ s.ledger.log.Normal :=
  ⟨(plain_directory hroot).toNormal.child (by decide) (by decide),
    (plain_directory hroot).toNormal.child (by decide) (by decide)⟩

/-- The backups of a project go to a directory of their own in its directory. -/
theorem directory_editor (hroot : s.project.root.Plain) (makesBackups : Bool) :
    (s.editor makesBackups).directory = s.project.backups :=
  Path.ofString_toString ((plain_directory hroot).toNormal.child (by decide) (by decide))

/-- The backups of a project lie in a directory of their own in its directory. -/
theorem vault_editor (hroot : s.project.root.Plain) (makesBackups : Bool) :
    (s.editor makesBackups).vault = s.directoryPlace ++ ["backups"] := by
  rw [Editor.vault, directory_editor hroot]
  exact s.locate_child_directory (by decide)

end Surroundings

end Sabotage
