import Sabotage.Proofs.Restoring

/-!
# The list of backups

A replacement leaves the names in every directory as they are but for the backup, which comes last
in the backup directory (`Editor.Wrote.names_eq`). So when a run has replaced one file only, what
its pattern takes there are the backups of the run and what it took before. The pattern is the name
of the file read as a pattern, and takes the backups of the file only if the name is among what it
then stands for (`Editor.Recalls`). Names in which no set is opened or none closed are, whatever
else they hold; `a[1].js` is not (`Editor.listBackups_bracketFile`). `Editor.listBackups_of_ran`
says for every name what is listed, and what is restored.
-/

namespace Sabotage

open Bytes

/-! ## The keys of a table -/

namespace Table
variable {κ ν : Type} [DecidableEq κ] {key : κ} {t : Table κ ν}

/-- Assigning to a key that is there adds none. -/
theorem keys_assign_of_mem (h : key ∈ keys t) (value : ν) : keys (assign key value t) = keys t := by
  induction t with
  | nil => cases h
  | cons e t ih =>
    obtain ⟨k, v⟩ := e
    rw [assign]
    split
    · rfl
    · next hk =>
      have hrest : key ∈ keys t := (List.mem_cons.1 h).resolve_left (Ne.symm hk)
      exact congrArg (k :: ·) (ih hrest)

/-- Assigning to another key adds it at the end. -/
theorem keys_assign_of_not_mem (h : key ∉ keys t) (value : ν) :
    keys (assign key value t) = keys t ++ [key] := by
  induction t with
  | nil => rfl
  | cons e t ih =>
    obtain ⟨k, v⟩ := e
    have hk : k ≠ key := fun heq => h (heq ▸ List.mem_cons_self)
    have hrest : key ∉ keys t := fun hmem => h (List.mem_cons_of_mem k hmem)
    rw [assign, if_neg hk]
    exact congrArg (k :: ·) (ih hrest)

/-- A key that was added at the end is taken out again. -/
theorem keys_drop_assign (h : key ∉ keys t) (value : ν) :
    keys (drop key (assign key value t)) = keys t := by
  have hkeys : keys (drop key (assign key value t)) =
      (keys (assign key value t)).filter (· != key) := by
    rw [keys, drop, keys, List.filter_map]
    rfl
  rw [hkeys, keys_assign_of_not_mem h, List.filter_append, List.filter_eq_self.2 fun k hk => by
    simpa using fun heq : k = key => h (heq ▸ hk)]
  simp

end Table

/-! ## What stands where -/

namespace Disk
variable {d d' : Disk} {here loc : Location}

/-- All locations but the root at which something stands are keys. -/
theorem mem_keys (hroot : loc ≠ []) :
    loc ∈ Table.keys d.entries ↔ d.occupant? loc ≠ none := by
  rw [← Table.isSome_lookup_iff, occupant?, if_neg hroot, Option.isSome_iff_ne_none]

/-- A file that is put where nothing stands adds a key. -/
theorem keys_set_of_vacant (hvacant : d.occupant? loc = none) (entry : Entry) :
    Table.keys (d.set loc entry).entries = Table.keys d.entries ++ [loc] := by
  have hroot : loc ≠ [] := by
    rintro rfl
    cases hvacant
  exact Table.keys_assign_of_not_mem (fun hmem => (mem_keys hroot).1 hmem hvacant) entry

/-- A copy that is made puts a file at one location. -/
theorem copy_eq_set {source target : String} (h : d.copy here source target = .ok d') :
    ∃ other bytes, d.locate here (d.destination here source target) = .ok other ∧
      d' = d.set other (.file bytes) := by
  rw [copy] at h
  split at h
  · cases h
  · next bytes _ =>
    split at h
    · next s other _ hother =>
      split at h
      · cases h
      · rw [writeAt] at h
        split at h <;> cases h
        exact ⟨other, bytes, hother, rfl⟩
    · cases h
    · cases h

/-- The names in a directory are known from the keys. -/
theorem names_eq (d : Disk) (loc : Location) : d.names loc = (Table.keys d.entries).filterMap
    fun l => if l ≠ [] ∧ l.dropLast = loc then l.getLast? else none := by
  rw [names, Table.keys, List.filterMap_map]
  rfl

end Disk

namespace Editor
variable {e : Editor} {trouble : Trouble} {d d₀ d₁ d' : Disk} {clock clock' : Clock}
  {here loc : Location} {file new : String} {bytes : Bytes} {records : List Record}

/-- A file that is replaced stays where it stands, and the temporary file is gone. -/
theorem keys_replaceFile {path : Path} (hlocate : d.locate here path.toString = .ok loc)
    (hvacant : d.occupant? loc ≠ some .directory) (hthere : d.occupant? loc ≠ none)
    (h : replaceFile trouble d here path bytes = (true, d')) :
    Table.keys d'.entries = Table.keys d.entries := by
  have hroot : loc ≠ [] := by
    rintro rfl
    exact hvacant rfl
  have hfree := Disk.occupant?_eq_none (freeName_not_mem d loc.dropLast path)
  simp only [replaceFile, hlocate] at h
  split at h
  · cases h
  · split at h
    · cases h
    · split at h
      · cases h
      · cases h
        have hgone : Table.keys ((d.set (loc.dropLast ++ [freeName d loc.dropLast path])
            (.file bytes)).erase (loc.dropLast ++ [freeName d loc.dropLast path])).entries =
            Table.keys d.entries :=
          Table.keys_drop_assign (fun hmem => (Disk.mem_keys (by simp)).1 hmem hfree) _
        refine (Table.keys_assign_of_mem ?_ _).trans hgone
        rw [hgone]
        exact (Disk.mem_keys hroot).2 hthere

/-- A backup that is made is one file that is put. -/
theorem createBackup_eq_set {path : Path} {backup : String} (hpath : path.Normal)
    (h : e.createBackup trouble d clock path.toString = .ok ⟨some backup, d', clock'⟩) :
    ∃ other bytes, d.locate e.here (d.destination e.here path.toString
      (e.backupPath path clock.now)) = .ok other ∧ d' = d.set other (.file bytes) := by
  simp only [createBackup, Path.ofString_toString hpath, Clock.read] at h
  split at h
  · cases h
  · cases h
  · split at h
    · next hcopied =>
      cases h
      cases htrouble : trouble .copyBackup with
      | fails =>
        rw [htrouble] at hcopied
        cases hcopied
      | truncates =>
        simp only [htrouble, copyUnder] at hcopied
        split at hcopied <;> cases hcopied
      | done =>
        simp only [htrouble, copyUnder] at hcopied
        split at hcopied
        · next hcopy =>
          cases hcopied
          exact Disk.copy_eq_set hcopy
        · cases hcopied
    · cases h

/-- A backup that is made where nothing stood comes last. -/
theorem keys_createBackup {path : Path} {backup : String} (hpath : path.Normal)
    (hvacant : d.occupant? (e.vault ++ [backupName path clock.now]) = none)
    (h : e.createBackup trouble d clock path.toString = .ok ⟨some backup, d', clock'⟩) :
    Table.keys d'.entries = Table.keys d.entries ++ [e.vault ++ [backupName path clock.now]] := by
  obtain ⟨-, -, hlocate, -⟩ := createBackup_eq_ok hpath hvacant h
  obtain ⟨other, bytes, hother, rfl⟩ := createBackup_eq_set hpath h
  rw [Disk.destination_eq _ hlocate (by rw [hvacant]; nofun), hlocate] at hother
  obtain rfl := Except.ok.inj hother
  exact Disk.keys_set_of_vacant hvacant _

/-- A run adds its backups, the oldest first, and nothing else. -/
theorem Wrote.keys (h : e.Wrote d₀ records d)
    (hfresh : ∀ r ∈ records, d₀.occupant? (r.place e) = none)
    (hthere : ∀ r ∈ records, d₀.occupant? r.loc ≠ none) :
    Table.keys d.entries = Table.keys d₀.entries ++ records.reverse.map (Record.place e) := by
  induction h with
  | nil => exact (List.append_nil _).symm
  | @write records d₁ d₂ trouble clock clock' file new backup loc before hwrote hlater htime hlocate
      hread hwrite ih =>
    obtain ⟨hfresh₁, hfreshes⟩ := List.forall_mem_cons.1 hfresh
    obtain ⟨hthere₁, htheres⟩ := List.forall_mem_cons.1 hthere
    have hvacant := (hwrote.kept hfreshes htheres).vacant hlater htime hfresh₁
    have hnormal := Path.normal_ofString file
    obtain ⟨old, d', -, ⟨hnone, -⟩ | ⟨backup', clock₁, -, hbackup⟩, hreplace⟩ := write_eq_ok hwrite
    · cases hnone
    obtain ⟨bytes, -, -, hputs⟩ := createBackup_eq_ok hnormal hvacant hbackup
    have hfile := Disk.occupant?_ne_directory hlocate hread
    have hstands : d'.occupant? loc ≠ none := by
      obtain ⟨loc', entry, hlocate', hthere, -⟩ := Disk.read_eq_ok.1 hread
      obtain rfl := Except.ok.inj (hlocate.symm.trans hlocate')
      by_cases hback : loc = e.vault ++ [backupName (Path.ofString file) clock.now]
      · rw [hback, hputs.there]
        nofun
      · rw [hputs.elsewhere loc hback, hthere]
        nofun
    rw [keys_replaceFile (hputs.locate_iff.2 hlocate) (mt (hputs.directory_iff loc).1 hfile) hstands
      hreplace, keys_createBackup hnormal hvacant hbackup, ih hfreshes htheres, List.reverse_cons,
      List.map_append, List.append_assoc]
    rfl

/-- In the backup directory the backups of a run come behind what stood there at the start. -/
theorem Wrote.names_eq (h : e.Wrote d₀ records d)
    (hfresh : ∀ r ∈ records, d₀.occupant? (r.place e) = none)
    (hthere : ∀ r ∈ records, d₀.occupant? r.loc ≠ none) :
    d.names e.vault = d₀.names e.vault ++ records.reverse.map Record.name := by
  have hown : (records.reverse.map (Record.place e)).filterMap (fun l =>
      if l ≠ [] ∧ l.dropLast = e.vault then l.getLast? else none) =
      records.reverse.map Record.name := by
    rw [List.filterMap_map, ← List.filterMap_eq_map]
    refine List.filterMap_congr fun r _ => ?_
    simp [Record.place]
  rw [Disk.names_eq, h.keys hfresh hthere, List.filterMap_append, ← Disk.names_eq, hown]

/-! ## Order -/

/-- Names that are all later than others are arranged before these, the newest first. -/
theorem arrange_append_reverse {older newer : List String}
    (hnewer : newer.Pairwise fun a b => b < a) (hlater : ∀ a ∈ older, ∀ b ∈ newer, a < b) :
    arrange (fun a b : String => decide (b < a)) (older ++ newer.reverse) =
      newer ++ arrange (fun a b : String => decide (b < a)) older := by
  have hsorted (names : List String) :=
    @arrange_sorted String (fun a b => decide (b < a))
      (fun _ _ _ hab hbc =>
        decide_eq_true (lt_trans (of_decide_eq_true hbc) (of_decide_eq_true hab)))
      (fun a => decide_eq_false (lt_irrefl a)) names
  have hperm : (arrange (fun a b : String => decide (b < a)) (older ++ newer.reverse)).Perm
      (newer ++ arrange (fun a b : String => decide (b < a)) older) :=
    (arrange_perm _ _).trans (List.perm_append_comm.trans
      ((List.reverse_perm newer).append (arrange_perm _ older).symm))
  refine List.Perm.eq_of_pairwise (fun a b _ _ hab hba => ?_) (hsorted _)
    (List.pairwise_append.2 ⟨?_, hsorted _, fun a ha b hb => ?_⟩) hperm
  · exact le_antisymm (not_lt.1 (of_decide_eq_false hba)) (not_lt.1 (of_decide_eq_false hab))
  · exact hnewer.imp fun h => decide_eq_false (lt_asymm h)
  · exact decide_eq_false (lt_asymm (hlater b ((arrange_perm _ _).mem_iff.1 hb) a ha))

/-! ## What is listed -/

/-- Whether the pattern of a name takes the backups under that name: the name is among what it
stands for as a pattern, or begins with such a name and a dot. -/
def Recalls (name : String) : Prop :=
  ∃ front, Glob.accepts name front ∧ Extends front name

/-- A name in which no set is opened or none closed does. -/
theorem recalls_of_no_set {name : String} (h : '[' ∉ name.toList ∨ ']' ∉ name.toList) :
    Recalls name :=
  ⟨name, Glob.accepts_self h, .inl rfl⟩

section
variable (h : e.Ran d₀ records d) (halone : ∀ r ∈ records, r.loc = loc)
  (hlocate : d.locate e.here file = .ok loc) (hname : (Path.ofString file).name ≠ "..")
include h halone hlocate hname

/-- The names in a run over one file are its name. -/
theorem Ran.name_eq : ∀ r ∈ records, r.path.name = (Path.ofString file).name := fun r hr =>
  (h.wrote.kept h.fresh h.there).name_eq h.named hlocate hname r hr (halone r hr)

/-- The pattern of the file takes all backups of such a run, or none. -/
theorem Ran.accepts_iff : ∀ r ∈ records,
    Glob.accepts (backupPattern (Path.ofString file)) r.name ↔
      Recalls (Path.ofString file).name := by
  intro r hr
  rw [Record.name, accepts_backupPattern, h.name_eq halone hlocate hname r hr, Recalls]

/-- The backups of such a run have names in the order of their times. -/
theorem Ran.pairwise_name : (records.map Record.name).Pairwise fun a b => b < a := by
  have hkept := h.wrote.kept h.fresh h.there
  have hnames := h.name_eq halone hlocate hname
  rw [List.pairwise_map]
  refine hkept.ordered.imp_of_mem fun {r q} hr hq hlt => ?_
  exact backupName_lt ((hnames q hq).trans (hnames r hr).symm) hlt (hkept.time r hr)

/-- A name that recalls its backups gets all those of the run, behind what it got at the start. -/
theorem Ran.filter_of_recalls (hrecalls : Recalls (Path.ofString file).name) :
    (d.names e.vault).filter (Glob.accepts (backupPattern (Path.ofString file))) =
      (d₀.names e.vault).filter (Glob.accepts (backupPattern (Path.ofString file))) ++
        (records.map Record.name).reverse := by
  have hown : (records.map Record.name).reverse.filter
      (Glob.accepts (backupPattern (Path.ofString file))) =
      (records.map Record.name).reverse := by
    refine List.filter_eq_self.2 fun name hmem => ?_
    obtain ⟨r, hr, rfl⟩ := List.mem_map.1 (List.mem_reverse.1 hmem)
    exact (h.accepts_iff halone hlocate hname r hr).2 hrecalls
  rw [h.wrote.names_eq h.fresh h.there, List.filter_append, List.map_reverse, hown]

/-- One that does not gets what it got at the start. -/
theorem Ran.filter_of_not_recalls (hforgets : ¬Recalls (Path.ofString file).name) :
    (d.names e.vault).filter (Glob.accepts (backupPattern (Path.ofString file))) =
      (d₀.names e.vault).filter (Glob.accepts (backupPattern (Path.ofString file))) := by
  have hown : (records.map Record.name).reverse.filter
      (Glob.accepts (backupPattern (Path.ofString file))) = [] := by
    refine List.filter_eq_nil_iff.2 fun name hmem => ?_
    obtain ⟨r, hr, rfl⟩ := List.mem_map.1 (List.mem_reverse.1 hmem)
    exact fun haccepts => hforgets ((h.accepts_iff halone hlocate hname r hr).1 haccepts)
  rw [h.wrote.names_eq h.fresh h.there, List.filter_append, List.map_reverse, hown,
    List.append_nil]

omit hname in
/-- Where the newest backup of the run is listed first, it is restored. -/
theorem Ran.restoreLatest_eq_ok {r : Record} {older : List Record} {earlier : List String}
    (hrecords : records = r :: older)
    (hlist : e.listBackups d file = .ok (records.map Record.name ++ earlier)) :
    ∃ d', e.restoreLatest .none d file = .ok (some (e.backupPath r.path r.micros), d') ∧
      d.Puts d' loc r.before := by
  have hkept := h.wrote.kept h.fresh h.there
  have hr : r ∈ records := hrecords ▸ List.mem_cons_self
  obtain ⟨hsource, hbefore⟩ := hkept.backup r hr
  obtain rfl := halone r hr
  have hapart : r.place e ≠ r.loc := fun heq => h.there r hr (heq ▸ h.fresh r hr)
  rw [hrecords] at hlist
  exact Editor.restoreLatest_eq_ok hlist hsource hbefore hlocate
    (mt (hkept.directory_iff r.loc).1 (hkept.file r hr).2.2) hapart

/-- What is listed after a run over one file, and what is restored. A name with two stars in a row
is refused. Otherwise the backups of the run are listed before what was listed at the start, the
newest first, and the newest is restored, when the name recalls its backups; when it does not, just
what was listed at the start is. A name in which no set is opened or none closed recalls its
backups. -/
theorem listBackups_of_ran :
    (hasDoubleStar (Path.ofString file).name.toList = true →
      e.listBackups d file = .error .pattern ∧ e.restoreLatest .none d file = .error .pattern) ∧
    (hasDoubleStar (Path.ofString file).name.toList = false →
      ∃ earlier, e.listBackups d₀ file = .ok earlier ∧
        (Recalls (Path.ofString file).name →
          (∀ name ∈ earlier, ∀ r ∈ records, name < r.name) →
          e.listBackups d file = .ok (records.map Record.name ++ earlier) ∧
          ∀ r older, records = r :: older → ∃ d',
            e.restoreLatest .none d file = .ok (some (e.backupPath r.path r.micros), d') ∧
              d.Puts d' loc r.before) ∧
        (¬Recalls (Path.ofString file).name → e.listBackups d file = .ok earlier ∧
          (earlier = [] → e.restoreLatest .none d file = .ok (none, d)))) ∧
    (('[' ∉ (Path.ofString file).name.toList ∨ ']' ∉ (Path.ofString file).name.toList) →
      Recalls (Path.ofString file).name) := by
  have hkept := h.wrote.kept h.fresh h.there
  have hstart := listBackups_eq file h.vault h.directory
  have hend := listBackups_eq file (Disk.locate_mono (fun l => (hkept.directory_iff l).2) h.vault)
    ((hkept.directory_iff e.vault).2 h.directory)
  refine ⟨fun hstars => ?_, fun hstars => ?_, recalls_of_no_set⟩
  · rw [if_pos hstars] at hend
    exact ⟨hend, by rw [restoreLatest, hend]⟩
  rw [if_neg (Bool.eq_false_iff.1 hstars)] at hstart hend
  refine ⟨_, hstart, fun hrecalls hlater => ?_, fun hforgets => ?_⟩
  · rw [h.filter_of_recalls halone hlocate hname hrecalls,
      arrange_append_reverse (h.pairwise_name halone hlocate hname) fun a ha b hb => ?_] at hend
    · exact ⟨hend, fun r older hrecords => h.restoreLatest_eq_ok halone hlocate hrecords hend⟩
    · obtain ⟨r, hr, rfl⟩ := List.mem_map.1 hb
      exact hlater a ((arrange_perm _ _).mem_iff.2 ha) r hr
  · rw [h.filter_of_not_recalls halone hlocate hname hforgets] at hend
    refine ⟨hend, fun hempty => ?_⟩
    rw [hempty] at hend
    rw [restoreLatest, hend]

end

/-- The one backup of a file that was replaced once is listed, and restored. -/
theorem listBackups_firstDisk :
    twinEditor.Ran twinDisk [firstRecord] firstDisk ∧
      (∀ r ∈ [firstRecord], r.loc = ["a", "x.js"]) ∧
      firstDisk.locate [] "a/x.js" = .ok ["a", "x.js"] ∧
      (Path.ofString "a/x.js").name ≠ ".." ∧
      twinEditor.listBackups firstDisk "a/x.js" =
        .ok ["x.js.20240101_000000_000000.backup"] ∧
      ∃ d', twinEditor.restoreLatest .none firstDisk "a/x.js" =
          .ok (some "backups/x.js.20240101_000000_000000.backup", d') ∧
        firstDisk.Puts d' ["a", "x.js"] (ofString "a old\n") := by
  have halone : ∀ r ∈ [firstRecord], r.loc = ["a", "x.js"] := List.forall_mem_singleton.2 rfl
  have hlocate : firstDisk.locate [] "a/x.js" = .ok ["a", "x.js"] :=
    Disk.locate_of_follow (by decide) (by decide) (by decide) (by decide)
  have hname : (Path.ofString "a/x.js").name = "x.js" := by decide
  have hup : (Path.ofString "a/x.js").name ≠ ".." := by
    rw [hname]
    decide
  obtain ⟨-, hlisted, hrecalls⟩ := listBackups_of_ran ran_twinDisk halone hlocate hup
  rw [hname] at hlisted hrecalls
  obtain ⟨earlier, hearlier, hnewest, -⟩ := hlisted (by decide)
  have hstart : twinEditor.listBackups twinDisk "a/x.js" = .ok [] := by
    rw [listBackups_eq "a/x.js" ran_twinDisk.vault ran_twinDisk.directory]
    decide
  obtain rfl : [] = earlier := Except.ok.inj (hstart.symm.trans hearlier)
  obtain ⟨hlist, hrestored⟩ := hnewest (hrecalls (.inl (by decide))) nofun
  obtain ⟨d', hrestore, hputs⟩ := hrestored firstRecord [] rfl
  have hbackup : twinEditor.backupPath firstRecord.path firstRecord.micros =
      "backups/x.js.20240101_000000_000000.backup" := by
    decide
  have hrecord : firstRecord.name = "x.js.20240101_000000_000000.backup" := by decide
  rw [List.map_singleton, hrecord] at hlist
  rw [hbackup] at hrestore
  exact ⟨ran_twinDisk, halone, hlocate, hup, hlist, d', hrestore, hputs⟩

/-! ## A name that is no pattern of itself -/

/-- A file whose name has a set in it. -/
def bracketDisk : Disk :=
  ⟨[(["backups"], .directory), (["a[1].js"], .file (ofString "old\n"))]⟩

/-- The disk once it is replaced. -/
def bracketedDisk : Disk :=
  ⟨[(["backups"], .directory), (["a[1].js"], .file (ofString "new\n")),
    (["backups", "a[1].js.20240101_000000_000000.backup"], .file (ofString "old\n"))]⟩

/-- The file is replaced, with a backup, but no backup of it is listed, and none is restored. -/
theorem listBackups_bracketFile :
    twinEditor.write .none bracketDisk ⟨1704067200000000, 1000000⟩ "a[1].js" "new\n" =
      .ok ⟨⟨true, some "backups/a[1].js.20240101_000000_000000.backup"⟩, bracketedDisk,
        ⟨1704067201000000, 1000000⟩⟩ ∧
    twinEditor.listBackups bracketedDisk "a[1].js" = .ok [] ∧
    twinEditor.restoreLatest .none bracketedDisk "a[1].js" = .ok (none, bracketedDisk) := by
  have hbackup : twinEditor.backupPath (Path.ofString "a[1].js") 1704067200000000 =
      "backups/a[1].js.20240101_000000_000000.backup" := by
    decide
  have htarget : bracketDisk.locate []
      (twinEditor.backupPath (Path.ofString "a[1].js") 1704067200000000) =
      .ok ["backups", "a[1].js.20240101_000000_000000.backup"] := by
    rw [hbackup]
    exact Disk.locate_of_follow (by decide) (by decide) (by decide) (by decide)
  have hlocate : bracketDisk.locate [] "a[1].js" = .ok ["a[1].js"] :=
    Disk.locate_of_follow (by decide) (by decide) (by decide) (by decide)
  have hwrite := write_of_locate (e := twinEditor) ⟨1704067200000000, 1000000⟩ "new\n" "old\n"
    ".a[1].js.00000000.tmp" rfl (by decide) hlocate rfl htarget rfl (by decide)
    (by decide)
  rw [hbackup, show Text.normalize (.detect "old\n") "new\n" = "new\n" by decide] at hwrite
  have hvault : bracketedDisk.locate [] twinEditor.directory.toString = .ok ["backups"] :=
    Disk.locate_of_follow (by decide) (by decide) (by decide) (by decide)
  have hlist : twinEditor.listBackups bracketedDisk "a[1].js" = .ok [] := by
    rw [listBackups_eq (e := twinEditor) "a[1].js" hvault rfl]
    decide
  refine ⟨hwrite.trans rfl, hlist, ?_⟩
  rw [restoreLatest, hlist]

end Editor

end Sabotage
