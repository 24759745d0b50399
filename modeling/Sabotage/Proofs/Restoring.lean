import Sabotage.Proofs.BackupNames
import Sabotage.Proofs.Replacing
import Sabotage.Proofs.Splices

/-!
# Restoring the newest backup

A run of replacements with backups is recorded as a list, the newest first (`Editor.Wrote`): when
each was made, of which file, and what that file held before. The backups of a run lie side by side
under names of their own, and hold what was recorded (`Editor.Kept`). Restoring a file therefore
gives it what some file of the run held, one whose name is its own or extends it, and changes
nothing else; it is what the file itself held before it was replaced last unless another file has a
backup with a later name (`Editor.restoreLatest_of_ran`). Two files of one name in different
directories do (`Editor.restoreLatest_twinDisk`).
-/

namespace Sabotage

open Bytes

/-- A file is copied onto another one. -/
theorem Disk.exists_copy {d : Disk} {here loc target : Location} {source file : String}
    {bytes : Bytes} (hsource : d.locate here source = .ok loc)
    (hread : d.occupant? loc = some (.file bytes)) (htarget : d.locate here file = .ok target)
    (hvacant : d.occupant? target ≠ some .directory) (hne : loc ≠ target) :
    ∃ d', d.copy here source file = .ok d' ∧ d.Puts d' target bytes := by
  have hdestination := destination_eq source htarget hvacant
  have hbytes : d.read here source = .ok bytes := read_eq_ok.2 ⟨loc, _, hsource, hread, rfl⟩
  have hwrite := writeAt_eq_ok hvacant bytes
  refine ⟨_, ?_, writeAt_puts hwrite⟩
  simp only [copy, hdestination, hbytes, hsource, htarget, hne, ↓reduceIte, hwrite]

namespace Editor
variable {e : Editor} {trouble : Trouble} {d d₀ d₁ d₂ d' : Disk} {clock clock' : Clock}
  {loc : Location} {file new : String} {bytes : Bytes}

/-! ## One backup -/

/-- A backup that is made where nothing stood puts what is read there, by the time of the clock. -/
theorem createBackup_eq_ok {path : Path} {backup : String} (hpath : path.Normal)
    (hvacant : d.occupant? (e.vault ++ [backupName path clock.now]) = none)
    (h : e.createBackup trouble d clock path.toString = .ok ⟨some backup, d', clock'⟩) :
    ∃ bytes, d.read e.here path.toString = .ok bytes ∧
      d.locate e.here (e.backupPath path clock.now) =
        .ok (e.vault ++ [backupName path clock.now]) ∧
      d.Puts d' (e.vault ++ [backupName path clock.now]) bytes := by
  obtain ⟨rfl, other, bytes, hread, hother, -, hputs⟩ := createBackup_puts hpath h
  have hdirectory : d.isDirectory e.here (e.backupPath path clock.now) = false := by
    refine Bool.eq_false_iff.2 fun hdirectory => ?_
    obtain ⟨place, hplace, hthere⟩ := Disk.isDirectory_iff.1 hdirectory
    obtain rfl := locate_backupPath hpath hplace
    cases hvacant.symm.trans hthere
  rw [Disk.destination, hdirectory, if_neg Bool.false_ne_true] at hother
  obtain rfl := locate_backupPath hpath hother
  exact ⟨bytes, hread, hother, hputs⟩

/-! ## Runs of replacements -/

/-- A replacement with a backup, as it is recorded: when it was made, the path it was made by and
where that led, and the bytes that stood there before. -/
structure Record where
  micros : Nat
  path : Path
  loc : Location
  before : Bytes

/-- The name of the backup. -/
def Record.name (r : Record) : String :=
  backupName r.path r.micros

/-- Where the backup is put. -/
def Record.place (e : Editor) (r : Record) : Location :=
  e.vault ++ [r.name]

/-- Replacements with backups, each later than the ones before, lead from one disk to another. They
are recorded with the newest first. -/
inductive Wrote (e : Editor) (d₀ : Disk) : List Record → Disk → Prop
  | nil : Wrote e d₀ [] d₀
  | write {records d₁ d₂ trouble clock clock' file new backup loc before} : Wrote e d₀ records d₁ →
      (∀ r ∈ records, r.micros < clock.now) → clock.now < Moment.limit →
      d₁.locate e.here (Path.ofString file).toString = .ok loc →
      d₁.read e.here (Path.ofString file).toString = .ok before →
      e.write trouble d₁ clock file new = .ok ⟨⟨true, some backup⟩, d₂, clock'⟩ →
      Wrote e d₀ (⟨clock.now, Path.ofString file, loc, before⟩ :: records) d₂

/-- A run of replacements: the backup directory is there, the files of the run stood there at the
start, and nothing stood where their backups are put. -/
structure Ran (e : Editor) (d₀ : Disk) (records : List Record) (d : Disk) : Prop where
  wrote : e.Wrote d₀ records d
  vault : d₀.locate e.here e.directory.toString = .ok e.vault
  directory : d₀.occupant? e.vault = some .directory
  there : ∀ r ∈ records, d₀.occupant? r.loc ≠ none
  named : ∀ r ∈ records, r.path.name ≠ ".."
  fresh : ∀ r ∈ records, d₀.occupant? (r.place e) = none

/-- What a run keeps: the directories, the backups of all its replacements with what was replaced,
and nothing but these beside what stood there at the start. -/
structure Kept (e : Editor) (d₀ : Disk) (records : List Record) (d : Disk) : Prop where
  directory_iff : ∀ l, d.occupant? l = some .directory ↔ d₀.occupant? l = some .directory
  backup : ∀ r ∈ records, d.locate e.here (e.backupPath r.path r.micros) = .ok (r.place e) ∧
    d.occupant? (r.place e) = some (.file r.before)
  origin : ∀ l, d.occupant? l ≠ none → d₀.occupant? l ≠ none ∨ ∃ r ∈ records, l = r.place e
  file : ∀ r ∈ records, r.loc = r.path.locate e.here ∧ r.path.parts ≠ [] ∧
    d₀.occupant? r.loc ≠ some .directory
  ordered : records.Pairwise fun r q => q.micros < r.micros
  time : ∀ r ∈ records, r.micros < Moment.limit

/-- Backups of different times are put at different places. -/
theorem Record.place_ne {r q : Record} (hr : r.micros < Moment.limit) (hq : q.micros < Moment.limit)
    (hne : r.micros ≠ q.micros) : r.place e ≠ q.place e := by
  intro h
  have hname : r.name = q.name := List.singleton_injective (List.append_cancel_left h)
  exact hne (backupName_inj hr hq hname).2

/-- Nothing stands where the backup of a later replacement is put. -/
theorem Kept.vacant {records : List Record} {r : Record} (h : e.Kept d₀ records d)
    (hlater : ∀ q ∈ records, q.micros < r.micros) (htime : r.micros < Moment.limit)
    (hfresh : d₀.occupant? (r.place e) = none) : d.occupant? (r.place e) = none := by
  by_contra hne
  rcases h.origin _ hne with hstart | ⟨q, hq, heq⟩
  · exact hstart hfresh
  · exact Record.place_ne (h.time q hq) htime (Nat.ne_of_lt (hlater q hq)) heq.symm

/-- What a run keeps is kept when one more backup is put, at a place that no other one has, and then
the file that it is of is written over. -/
theorem Kept.cons {records : List Record} {r : Record} {after : Bytes} (h : e.Kept d₀ records d₁)
    (hlater : ∀ q ∈ records, q.micros < r.micros) (htime : r.micros < Moment.limit)
    (hfresh : ∀ q ∈ r :: records, d₀.occupant? (q.place e) = none)
    (hthere : d₀.occupant? r.loc ≠ none)
    (hlocate : d₁.locate e.here (e.backupPath r.path r.micros) = .ok (r.place e))
    (hputs : d₁.Puts d' (r.place e) r.before) (hputs' : d'.Puts d₂ r.loc after)
    (hfile : r.loc = r.path.locate e.here ∧ r.path.parts ≠ []) :
    e.Kept d₀ (r :: records) d₂ := by
  obtain ⟨hfresh₁, hfreshes⟩ := List.forall_mem_cons.1 hfresh
  have hdirectory (l : Location) :
      d₂.occupant? l = some .directory ↔ d₀.occupant? l = some .directory :=
    (hputs'.directory_iff l).trans ((hputs.directory_iff l).trans (h.directory_iff l))
  -- No backup of the run stands at the new place, nor does any of the files.
  have hapart : ∀ q ∈ records, q.place e ≠ r.place e := fun q hq =>
    Record.place_ne (h.time q hq) htime (Nat.ne_of_lt (hlater q hq))
  have hplace (q : Record) (hq : d₀.occupant? (q.place e) = none) : q.place e ≠ r.loc :=
    fun heq => hthere (heq ▸ hq)
  constructor
  · exact hdirectory
  · refine List.forall_mem_cons.2 ⟨⟨?_, ?_⟩, fun q hq => ⟨?_, ?_⟩⟩
    · exact hputs'.locate_iff.2 (hputs.locate_iff.2 hlocate)
    · rw [hputs'.elsewhere _ (hplace r hfresh₁)]
      exact hputs.there
    · exact hputs'.locate_iff.2 (hputs.locate_iff.2 (h.backup q hq).1)
    · rw [hputs'.elsewhere _ (hplace q (hfreshes q hq)), hputs.elsewhere _ (hapart q hq)]
      exact (h.backup q hq).2
  · intro l hl
    by_cases hloc : l = r.loc
    · exact .inl (hloc ▸ hthere)
    by_cases hback : l = r.place e
    · exact .inr ⟨r, List.mem_cons_self, hback⟩
    rw [hputs'.elsewhere l hloc, hputs.elsewhere l hback] at hl
    rcases h.origin l hl with hstart | ⟨q, hq, heq⟩
    · exact .inl hstart
    · exact .inr ⟨q, List.mem_cons_of_mem _ hq, heq⟩
  · have hnone : d₀.occupant? r.loc ≠ some .directory :=
      mt (fun hstart => (hputs.directory_iff _).2 ((h.directory_iff _).2 hstart)) hputs'.vacant
    exact List.forall_mem_cons.2 ⟨⟨hfile.1, hfile.2, hnone⟩, h.file⟩
  · exact List.pairwise_cons.2 ⟨hlater, h.ordered⟩
  · exact List.forall_mem_cons.2 ⟨htime, h.time⟩

/-- A run over files that stood there at the start, with backups put where nothing stood, keeps
these. -/
theorem Wrote.kept {records : List Record} (h : e.Wrote d₀ records d)
    (hfresh : ∀ r ∈ records, d₀.occupant? (r.place e) = none)
    (hthere : ∀ r ∈ records, d₀.occupant? r.loc ≠ none) : e.Kept d₀ records d := by
  induction h with
  | nil =>
    exact ⟨fun _ => .rfl, nofun, fun l hl => .inl hl, nofun, .nil, nofun⟩
  | @write records d₁ d₂ trouble clock clock' file new backup loc before _ hlater htime hlocate
      hread hwrite ih =>
    obtain ⟨hfresh₁, hfreshes⟩ := List.forall_mem_cons.1 hfresh
    obtain ⟨hthere₁, htheres⟩ := List.forall_mem_cons.1 hthere
    have hkept := ih hfreshes htheres
    have hnormal := Path.normal_ofString file
    have hvacant := hkept.vacant hlater htime hfresh₁
    obtain ⟨old, d', -, ⟨hnone, -⟩ | ⟨backup', clock₁, -, hbackup⟩, hreplace⟩ := write_eq_ok hwrite
    · cases hnone
    obtain ⟨bytes, hread', hlocate', hputs⟩ := createBackup_eq_ok hnormal hvacant hbackup
    obtain rfl := Except.ok.inj (hread.symm.trans hread')
    have hfile := Disk.occupant?_ne_directory hlocate hread
    have hputs' := replaceFile_puts (hputs.locate_iff.2 hlocate)
      (mt (hputs.directory_iff loc).1 hfile) hreplace
    have hparts := Disk.parts_ne_nil hlocate hfile
    rw [Path.ofString_toString hnormal] at hparts
    exact hkept.cons hlater htime hfresh hthere₁ hlocate' hputs hputs'
      ⟨Disk.locate_toString_eq hnormal hlocate, hparts⟩

/-! ## The newest backup -/

/-- A name without stars has no two in a row. -/
theorem hasDoubleStar_eq_false {cs : List Char} (h : ∀ c ∈ cs, Glob.isLiteral c) :
    hasDoubleStar cs = false := by
  induction cs with
  | nil => rfl
  | cons c cs ih =>
    obtain ⟨hc, hcs⟩ := List.forall_mem_cons.1 h
    rw [hasDoubleStar]
    · exact ih hcs
    · rintro _ rfl -
      exact absurd hc (by decide)

/-- The backups of a file are listed by the names in the backup directory that its pattern takes,
unless its name has two stars in a row. -/
theorem listBackups_eq (file : String)
    (hvault : d.locate e.here e.directory.toString = .ok e.vault)
    (hdirectory : d.occupant? e.vault = some .directory) :
    e.listBackups d file = if hasDoubleStar (Path.ofString file).name.toList then .error .pattern
      else .ok (arrange (fun a b => decide (b < a))
        ((d.names e.vault).filter (Glob.accepts (backupPattern (Path.ofString file))))) := by
  have hexists : d.exists? e.here e.directory.toString = .ok true := by
    simp only [Disk.exists?, Disk.find, hvault, hdirectory]
  simp only [listBackups, hexists, hvault]

/-- So the backups of a file are listed whose name stands for itself. -/
theorem listBackups_eq_ok (file : String)
    (hvault : d.locate e.here e.directory.toString = .ok e.vault)
    (hdirectory : d.occupant? e.vault = some .directory)
    (hliteral : ∀ c ∈ (Path.ofString file).name.toList, Glob.isLiteral c) :
    e.listBackups d file = .ok (arrange (fun a b => decide (b < a))
      ((d.names e.vault).filter (Glob.accepts (backupPattern (Path.ofString file))))) := by
  rw [listBackups_eq file hvault hdirectory, hasDoubleStar_eq_false hliteral, if_neg nofun]

/-- Of some names the last in order is listed first. -/
theorem exists_newest {names : List String} (hne : names ≠ []) : ∃ latest rest,
    arrange (fun a b => decide (b < a)) names = latest :: rest ∧ latest ∈ names ∧
      ∀ name ∈ names, ¬latest < name := by
  have hperm : (arrange (fun a b : String => decide (b < a)) names).Perm names := arrange_perm _ _
  have hsorted := @arrange_sorted String (fun a b => decide (b < a))
    (fun _ _ _ hab hbc => decide_eq_true (lt_trans (of_decide_eq_true hbc) (of_decide_eq_true hab)))
    (fun a => decide_eq_false (lt_irrefl a)) names
  cases hlist : arrange (fun a b : String => decide (b < a)) names with
  | nil => exact absurd (List.nil_perm.1 (hlist ▸ hperm)) hne
  | cons latest rest =>
    rw [hlist] at hperm hsorted
    refine ⟨latest, rest, rfl, hperm.mem_iff.1 List.mem_cons_self, fun name hname => ?_⟩
    rcases List.mem_cons.1 (hperm.mem_iff.2 hname) with rfl | hname
    · exact lt_irrefl name
    · exact of_decide_eq_false ((List.pairwise_cons.1 hsorted).1 name hname)

/-- The newest backup is copied to a file that is none of the backups. -/
theorem restoreLatest_eq_ok {latest : String} {rest : List String} {source : Location}
    (hlist : e.listBackups d file = .ok (latest :: rest))
    (hsource : d.locate e.here (e.directory.child latest).toString = .ok source)
    (hthere : d.occupant? source = some (.file bytes)) (hlocate : d.locate e.here file = .ok loc)
    (hvacant : d.occupant? loc ≠ some .directory) (hne : source ≠ loc) :
    ∃ d', e.restoreLatest .none d file = .ok (some (e.directory.child latest).toString, d') ∧
      d.Puts d' loc bytes := by
  obtain ⟨d', hcopy, hputs⟩ := Disk.exists_copy hsource hthere hlocate hvacant hne
  refine ⟨d', ?_, hputs⟩
  simp only [restoreLatest, hlist, hlocate, Trouble.none, copyUnder, hcopy]

/-- What is known of a file that a run has replaced: by what path it is restored, and that this
leads to its name. -/
theorem Kept.name_eq {records : List Record} (h : e.Kept d₀ records d)
    (hnamed : ∀ r ∈ records, r.path.name ≠ "..") (hlocate : d.locate e.here file = .ok loc)
    (hname : (Path.ofString file).name ≠ "..") :
    ∀ r ∈ records, r.loc = loc → r.path.name = (Path.ofString file).name := by
  intro r hr hloc
  obtain ⟨hlocated, hparts, hfile⟩ := h.file r hr
  have hparts' := Disk.parts_ne_nil hlocate (hloc ▸ mt (h.directory_iff r.loc).1 hfile)
  have hlast := Path.getLast?_locate e.here hparts (hnamed r hr)
  rw [← hlocated, hloc, Disk.locate_eq hlocate, Path.getLast?_locate e.here hparts' hname] at hlast
  exact (Option.some.inj hlast).symm

/-- Restoring a file that a run has replaced changes that file alone. It gives the file what a file
of the run held before one of its replacements, a file whose name is the name of the restored one or
extends it; and this is what the restored file held before it was replaced last, unless a backup of
another such file has a later name. -/
theorem restoreLatest_of_ran {newer older : List Record} {r : Record}
    (h : e.Ran d₀ (newer ++ r :: older) d) (hlast : ∀ q ∈ newer, q.loc ≠ r.loc)
    (hlocate : d.locate e.here file = .ok r.loc) (hname : (Path.ofString file).name ≠ "..")
    (hliteral : ∀ c ∈ (Path.ofString file).name.toList, Glob.isLiteral c)
    (hold : ∀ name ∈ d₀.names e.vault,
      Glob.accepts (backupPattern (Path.ofString file)) name → name < r.name) :
    ∃ q ∈ newer ++ r :: older, Extends (Path.ofString file).name q.path.name ∧
      (∃ d', e.restoreLatest .none d file = .ok (some (e.backupPath q.path q.micros), d') ∧
        d.Puts d' r.loc q.before) ∧
      ((∀ p ∈ newer ++ r :: older, p.loc ≠ r.loc →
        Extends (Path.ofString file).name p.path.name → p.name < r.name) → q = r) := by
  have hkept := h.wrote.kept h.fresh h.there
  have hr : r ∈ newer ++ r :: older := List.mem_append_right _ List.mem_cons_self
  have hsame := hkept.name_eq h.named hlocate hname
  have hlist := listBackups_eq_ok file
    (Disk.locate_mono (fun l => (hkept.directory_iff l).2) h.vault)
    ((hkept.directory_iff e.vault).2 h.directory) hliteral
  have haccepts (q : Record) (hq : q ∈ newer ++ r :: older) :
      Glob.accepts (backupPattern (Path.ofString file)) q.name ↔
        Extends (Path.ofString file).name q.path.name :=
    accepts_backupName hliteral
  have hown : r.name ∈ (d.names e.vault).filter
      (Glob.accepts (backupPattern (Path.ofString file))) := by
    refine List.mem_filter.2 ⟨Disk.mem_names.2 ?_, (haccepts r hr).2 (.inl (hsame r hr rfl))⟩
    rw [show _ ++ [r.name] = r.place e from rfl, (hkept.backup r hr).2]
    exact Option.some_ne_none _
  obtain ⟨latest, rest, harrange, hmem, hgreatest⟩ := exists_newest (List.ne_nil_of_mem hown)
  obtain ⟨hthere, hlatest⟩ := List.mem_filter.1 hmem
  -- What was listed at the start stands before the backup of the file itself.
  obtain ⟨q, hq, rfl⟩ : ∃ q ∈ newer ++ r :: older, q.name = latest := by
    rcases hkept.origin _ (Disk.mem_names.1 hthere) with hstart | ⟨q, hq, heq⟩
    · exact absurd (hold latest (Disk.mem_names.2 hstart) hlatest) (hgreatest r.name hown)
    · exact ⟨q, hq, (List.singleton_injective (List.append_cancel_left heq)).symm⟩
  have hextends := (haccepts q hq).1 hlatest
  obtain ⟨hsource, hbefore⟩ := hkept.backup q hq
  have hapart : q.place e ≠ r.loc := fun heq => h.there r hr (heq ▸ h.fresh q hq)
  obtain ⟨d', hrestore, hputs⟩ := restoreLatest_eq_ok (hlist.trans (congrArg _ harrange)) hsource
    hbefore hlocate (mt (hkept.directory_iff r.loc).1 (hkept.file r hr).2.2) hapart
  refine ⟨q, hq, hextends, ⟨d', hrestore, hputs⟩, fun hothers => ?_⟩
  have hnotless := hgreatest r.name hown
  by_cases hloc : q.loc = r.loc
  · -- Of the replacements of the file itself the last one has the last name.
    rcases List.mem_append.1 hq with hnewer | hrest
    · exact absurd hloc (hlast q hnewer)
    rcases List.mem_cons.1 hrest with rfl | holder
    · rfl
    · have hlt := (List.pairwise_cons.1 (List.pairwise_append.1 hkept.ordered).2.1).1 q holder
      have hpath := (hsame q hq hloc).trans (hsame r hr rfl).symm
      exact absurd (backupName_lt hpath hlt (hkept.time r hr)) hnotless
  · exact absurd (hothers q hq hloc hextends) hnotless

/-! ## Two files of one name -/

/-- Two files of one name, in two directories. -/
def twinDisk : Disk :=
  ⟨[(["backups"], .directory), (["a"], .directory), (["b"], .directory),
    (["a", "x.js"], .file (ofString "a old\n")), (["b", "x.js"], .file (ofString "b old\n"))]⟩

/-- An editor that makes backups. -/
def twinEditor : Editor :=
  ⟨[], "backups", true⟩

/-- The disk once the first file is replaced. -/
def firstDisk : Disk :=
  ⟨[(["backups"], .directory), (["a"], .directory), (["b"], .directory),
    (["a", "x.js"], .file (ofString "a new\n")), (["b", "x.js"], .file (ofString "b old\n")),
    (["backups", "x.js.20240101_000000_000000.backup"], .file (ofString "a old\n"))]⟩

/-- The disk once the second file is replaced too. -/
def secondDisk : Disk :=
  ⟨[(["backups"], .directory), (["a"], .directory), (["b"], .directory),
    (["a", "x.js"], .file (ofString "a new\n")), (["b", "x.js"], .file (ofString "b new\n")),
    (["backups", "x.js.20240101_000000_000000.backup"], .file (ofString "a old\n")),
    (["backups", "x.js.20240101_000001_000000.backup"], .file (ofString "b old\n"))]⟩

/-- The first file is replaced. -/
theorem write_twinDisk :
    twinEditor.write .none twinDisk ⟨1704067200000000, 1000000⟩ "a/x.js" "a new\n" =
      .ok ⟨⟨true, some "backups/x.js.20240101_000000_000000.backup"⟩, firstDisk,
        ⟨1704067201000000, 1000000⟩⟩ := by
  have hbackup : twinEditor.backupPath (Path.ofString "a/x.js") 1704067200000000 =
      "backups/x.js.20240101_000000_000000.backup" := by
    decide
  have htarget : twinDisk.locate []
      (twinEditor.backupPath (Path.ofString "a/x.js") 1704067200000000) =
      .ok ["backups", "x.js.20240101_000000_000000.backup"] := by
    rw [hbackup]
    exact Disk.locate_of_follow (by decide) (by decide) (by decide) (by decide)
  have hlocate : twinDisk.locate [] "a/x.js" = .ok ["a", "x.js"] :=
    Disk.locate_of_follow (by decide) (by decide) (by decide) (by decide)
  have h := write_of_locate (e := twinEditor) ⟨1704067200000000, 1000000⟩ "a new\n" "a old\n"
    ".x.js.00000000.tmp" rfl (by decide) hlocate rfl htarget rfl (by decide) (by decide)
  rw [h, hbackup, show Text.normalize (.detect "a old\n") "a new\n" = "a new\n" by decide]
  rfl

/-- The second file is replaced, a second later. -/
theorem write_firstDisk :
    twinEditor.write .none firstDisk ⟨1704067201000000, 1000000⟩ "b/x.js" "b new\n" =
      .ok ⟨⟨true, some "backups/x.js.20240101_000001_000000.backup"⟩, secondDisk,
        ⟨1704067202000000, 1000000⟩⟩ := by
  have hbackup : twinEditor.backupPath (Path.ofString "b/x.js") 1704067201000000 =
      "backups/x.js.20240101_000001_000000.backup" := by
    decide
  have htarget : firstDisk.locate []
      (twinEditor.backupPath (Path.ofString "b/x.js") 1704067201000000) =
      .ok ["backups", "x.js.20240101_000001_000000.backup"] := by
    rw [hbackup]
    exact Disk.locate_of_follow (by decide) (by decide) (by decide) (by decide)
  have hlocate : firstDisk.locate [] "b/x.js" = .ok ["b", "x.js"] :=
    Disk.locate_of_follow (by decide) (by decide) (by decide) (by decide)
  have h := write_of_locate (e := twinEditor) ⟨1704067201000000, 1000000⟩ "b new\n" "b old\n"
    ".x.js.00000000.tmp" rfl (by decide) hlocate rfl htarget rfl (by decide) (by decide)
  rw [h, hbackup, show Text.normalize (.detect "b old\n") "b new\n" = "b new\n" by decide]
  rfl

/-- The name of the first file stands for itself in patterns. -/
theorem isLiteral_twinName : ∀ c ∈ (Path.ofString "a/x.js").name.toList, Glob.isLiteral c := by
  have hname : (Path.ofString "a/x.js").name = "x.js" := by decide
  rw [hname]
  exact List.all_eq_true.1 (by decide)

/-- The record of the replacement of the first file. -/
def firstRecord : Record :=
  ⟨1704067200000000, Path.ofString "a/x.js", ["a", "x.js"], ofString "a old\n"⟩

/-- The replacement of the first file alone is a run. -/
theorem ran_twinDisk : twinEditor.Ran twinDisk [firstRecord] firstDisk := by
  have hnormal : (Path.ofString "a/x.js").toString = "a/x.js" := by decide
  have hlocate : twinDisk.locate [] "a/x.js" = .ok ["a", "x.js"] :=
    Disk.locate_of_follow (by decide) (by decide) (by decide) (by decide)
  have hvault : twinDisk.locate [] twinEditor.directory.toString = .ok twinEditor.vault :=
    Disk.locate_of_follow (by decide) (by decide) (by decide) (by decide)
  refine ⟨.write .nil nofun (by decide) (by rwa [hnormal]) ?_ write_twinDisk, hvault, rfl, ?_, ?_,
    ?_⟩
  · rw [hnormal]
    exact Disk.read_eq_ok.2 ⟨_, _, hlocate, rfl, rfl⟩
  · exact List.forall_mem_singleton.2 (Option.some_ne_none _)
  · exact List.forall_mem_singleton.2 (by decide)
  · refine List.forall_mem_singleton.2 ?_
    have hplace : firstRecord.place twinEditor =
        ["backups", "x.js.20240101_000000_000000.backup"] := by
      decide
    rw [hplace]
    rfl

/-- Restoring the first file, when it alone was replaced, gives it what it held. -/
theorem restoreLatest_firstDisk :
    twinEditor.Ran twinDisk [firstRecord] firstDisk ∧
      firstDisk.locate [] "a/x.js" = .ok ["a", "x.js"] ∧
      (Path.ofString "a/x.js").name ≠ ".." ∧
      (∀ c ∈ (Path.ofString "a/x.js").name.toList, Glob.isLiteral c) ∧
      (∀ name ∈ twinDisk.names ["backups"],
        Glob.accepts (backupPattern (Path.ofString "a/x.js")) name → name < firstRecord.name) ∧
      ∃ d', twinEditor.restoreLatest .none firstDisk "a/x.js" =
          .ok (some "backups/x.js.20240101_000000_000000.backup", d') ∧
        firstDisk.Puts d' ["a", "x.js"] (ofString "a old\n") := by
  have hlocate : firstDisk.locate [] "a/x.js" = .ok ["a", "x.js"] :=
    Disk.locate_of_follow (by decide) (by decide) (by decide) (by decide)
  have hname : (Path.ofString "a/x.js").name ≠ ".." := by decide
  have hold : ∀ name ∈ twinDisk.names ["backups"],
      Glob.accepts (backupPattern (Path.ofString "a/x.js")) name → name < firstRecord.name := by
    have hempty : twinDisk.names ["backups"] = [] := by decide
    rw [hempty]
    exact List.forall_mem_nil _
  have hvault : twinEditor.vault = ["backups"] := by decide
  obtain ⟨q, hq, -, ⟨d', hrestore, hputs⟩, -⟩ := restoreLatest_of_ran (r := firstRecord)
    ran_twinDisk (List.forall_mem_nil _) hlocate hname isLiteral_twinName (by rwa [hvault])
  obtain rfl := List.mem_singleton.1 hq
  have hbackup : twinEditor.backupPath firstRecord.path firstRecord.micros =
      "backups/x.js.20240101_000000_000000.backup" := by
    decide
  rw [hbackup] at hrestore
  exact ⟨ran_twinDisk, hlocate, hname, isLiteral_twinName, hold, d', hrestore, hputs⟩

/-- Restoring the first file, once the other one was replaced too, gives it what the other one
held. -/
theorem restoreLatest_twinDisk : ∃ d',
    twinEditor.write .none twinDisk ⟨1704067200000000, 1000000⟩ "a/x.js" "a new\n" =
      .ok ⟨⟨true, some "backups/x.js.20240101_000000_000000.backup"⟩, firstDisk,
        ⟨1704067201000000, 1000000⟩⟩ ∧
    twinEditor.write .none firstDisk ⟨1704067201000000, 1000000⟩ "b/x.js" "b new\n" =
      .ok ⟨⟨true, some "backups/x.js.20240101_000001_000000.backup"⟩, secondDisk,
        ⟨1704067202000000, 1000000⟩⟩ ∧
    twinEditor.restoreLatest .none secondDisk "a/x.js" =
      .ok (some "backups/x.js.20240101_000001_000000.backup", d') ∧
    twinDisk.read [] "a/x.js" = .ok (ofString "a old\n") ∧
    d'.read [] "a/x.js" = .ok (ofString "b old\n") ∧
    ofString "b old\n" ≠ ofString "a old\n" := by
  have hlocate (d : Disk) (h : d.follow [] ["a", "x.js"] = .ok ["a", "x.js"]) :
      d.locate [] "a/x.js" = .ok ["a", "x.js"] :=
    Disk.locate_of_follow (by decide) (by decide) (by decide) h
  have hvault : secondDisk.locate [] twinEditor.directory.toString = .ok ["backups"] :=
    Disk.locate_of_follow (by decide) (by decide) (by decide) (by decide)
  have hlist := listBackups_eq_ok (e := twinEditor) "a/x.js" hvault rfl isLiteral_twinName
  have harrange : arrange (fun a b => decide (b < a)) ((secondDisk.names ["backups"]).filter
      (Glob.accepts (backupPattern (Path.ofString "a/x.js")))) =
      ["x.js.20240101_000001_000000.backup", "x.js.20240101_000000_000000.backup"] := by
    decide
  have hpath : (twinEditor.directory.child "x.js.20240101_000001_000000.backup").toString =
      "backups/x.js.20240101_000001_000000.backup" := by
    decide
  have hsource : secondDisk.locate [] "backups/x.js.20240101_000001_000000.backup" =
      .ok ["backups", "x.js.20240101_000001_000000.backup"] :=
    Disk.locate_of_follow (by decide) (by decide) (by decide) (by decide)
  have hthere := hlocate secondDisk (by decide)
  obtain ⟨d', hrestore, hputs⟩ := restoreLatest_eq_ok (hlist.trans (congrArg _ harrange))
    (hpath ▸ hsource) rfl hthere nofun (by decide)
  exact ⟨d', write_twinDisk, write_firstDisk, hpath ▸ hrestore,
    Disk.read_eq_ok.2 ⟨_, _, hlocate twinDisk (by decide), rfl, rfl⟩, hputs.read hthere,
    by decide⟩

end Editor

end Sabotage
