import Sabotage.Proofs.Mishaps
import Sabotage.Proofs.Rehearsing

/-!
# What a failed injection leaves

A replacement that is refused leaves the file what it was: when a backup was made, it is copied back
(`Editor.write_refused`). So an injection that ends with a complaint leaves the file and the history
as they were (`Command.Inject.Untouched`). Once the file is written it can still fail in three ways:
the directory of the history cannot be made, the reply of the commentary service is no reply, or the
report cannot be written (`Command.Inject.Stranded`). There is no fourth
(`Command.untouched_of_failed`), and the second does happen (`Command.enact_choicesObject`).
-/

namespace Sabotage

open Bytes

/-! ## Replacements that are refused -/

namespace Editor
variable {e : Editor} {d d₁ d' : Disk} {clock clock' : Clock} {here loc : Location}
  {file new backup : String} {path : Path} {bytes : Bytes}

/-- A file that is not replaced leaves the disk as it is. -/
theorem replaceFile_refused (h : replaceFile .none d here path bytes = (false, d')) : d' = d := by
  simp only [replaceFile] at h
  split at h
  · exact (Prod.mk.inj h).2.symm
  · split at h
    · exact (Prod.mk.inj h).2.symm
    · simp [Trouble.none] at h

/-- A backup that is not made leaves the disk as it is. -/
theorem createBackup_refused
    (h : e.createBackup .none d clock file = .ok ⟨none, d', clock'⟩) : d' = d := by
  simp only [createBackup] at h
  split at h
  · cases h
  · cases h
    rfl
  · simp only [Clock.read] at h
    split at h
    · cases h
    · next hcopy =>
      cases h
      simp only [Trouble.none, copyUnder] at hcopy
      split at hcopy
      · cases hcopy
      · exact (Prod.mk.inj hcopy).2.symm

/-- A replacement that is refused leaves the disk as it is, or has made a backup and copied it
back. -/
theorem write_refused {backup? : Option String}
    (h : e.write .none d clock file new = .ok ⟨⟨false, backup?⟩, d', clock'⟩) :
    d' = d ∨ ∃ backup d₁ clock₁,
      e.createBackup .none d clock (Path.ofString file).toString =
        .ok ⟨some backup, d₁, clock₁⟩ ∧
      d' = e.recover .none d₁ (some backup) (Path.ofString file).toString := by
  have hended : Ended e .none d clock (Path.ofString file) new ⟨false, backup?⟩ d' :=
    ended_of_write h
  cases hended with
  | unread => exact .inl rfl
  | unbacked _ hbackup => exact .inl (createBackup_refused hbackup)
  | recovered _ hbacked hreplace =>
    obtain rfl := replaceFile_refused hreplace
    cases hbacked with
    | skipped => exact .inl rfl
    | made _ hbackup => exact .inr ⟨_, _, _, hbackup, rfl⟩

/-- A backup lies in the backup directory or further down. -/
theorem prefix_of_backup {other : Location} (hpath : path.Normal)
    (h : d.locate e.here (d.destination e.here path.toString (e.backupPath path clock.now)) =
      .ok other) : e.vault <+: other := by
  rw [Disk.destination, Path.ofString_toString hpath] at h
  split at h
  · next hdirectory =>
    obtain ⟨place, hplace, -⟩ := Disk.isDirectory_iff.1 hdirectory
    obtain hother | hother := Disk.locate_append hpath.slash_not_mem_name hplace h
    · rw [hother, locate_backupPath hpath hplace]
      exact List.prefix_append _ _
    · rw [hother, locate_backupPath hpath hplace, Path.step]
      split
      · rw [List.dropLast_concat]
      · rw [List.append_assoc]
        exact List.prefix_append _ _
  · rw [locate_backupPath hpath h]
    exact List.prefix_append _ _

/-- A backup that is copied back leaves the file what it was; a file is new in the backup
directory, and nothing else has changed. -/
theorem recover_backup (hpath : path.Normal) (hlocate : d.locate e.here path.toString = .ok loc)
    (hread : d.read e.here path.toString = .ok bytes)
    (h : e.createBackup .none d clock path.toString = .ok ⟨some backup, d₁, clock'⟩) :
    (e.recover .none d₁ (some backup) path.toString).read e.here path.toString = .ok bytes ∧
      ∃ other, e.vault <+: other ∧ ∀ l, l ≠ loc → l ≠ other →
        (e.recover .none d₁ (some backup) path.toString).occupant? l = d.occupant? l := by
  obtain ⟨rfl, other, copied, -, hother, -, hputs⟩ := createBackup_puts hpath h
  obtain ⟨place, target, held, hshelved⟩ := exists_shelved hpath h fun l => .refl d₁ l
  obtain rfl := Except.ok.inj (hlocate.symm.trans hshelved.locate)
  have hwhole : ¬e.BreaksOff .none d (some (e.backupPath path clock.now)) := by
    rintro ⟨htruncates, -⟩
    cases htruncates
  refine ⟨hshelved.recover_keeps hwhole _ _ (Path.ofString_toString hpath) hread, other,
    prefix_of_backup hpath hother, ?_⟩
  intro l hl hl'
  obtain ⟨hlocate₁, hvacant⟩ := hshelved.locate_file
  rcases recover_puts hlocate₁ hvacant with hsame | ⟨restored, -, hputs₂⟩
  · rw [hsame, hputs.elsewhere l hl']
  · rw [hputs₂.elsewhere l hl, hputs.elsewhere l hl']

end Editor

/-! ## Injections that fail -/

namespace Command

namespace Inject

/-- A disk on which the file to be injected into reads as before, and the store and the log of the
history, where they are not that file, are as before. -/
structure Untouched (s : Surroundings) (o : InjectOptions) (d d' : Disk) : Prop where
  file : ∀ {bytes}, d.read s.here (fileOf o) = .ok bytes → d'.read s.here (fileOf o) = .ok bytes
  history : ∀ l, l = s.ledger.storePlace ∨ l = s.ledger.logPlace →
    l ≠ (Path.ofString o.file).locate s.here → d'.occupant? l = d.occupant? l

/-- Why an injection fails although the file is written, and on what workbench: it cannot be entered
into the history, there is no taunt, or the report does not come out. -/
inductive Stranded (s : Surroundings) (o : InjectOptions) (mode : Mode) (settings : Settings)
    (p : InjectPlan) : Workbench → Status → Prop
  | history {b : Workbench} {e : DiskError} : remember s o settings p.injection b = .error e →
      Stranded s o mode settings p b (.crash (.disk e))
  | commentary {b : Workbench} {e : Commentary.RoastError} :
      (taunt s o settings p.injection.applied).1 = .error e →
      Stranded s o mode settings p b (.crash (.commentary e))
  | report {b : Workbench} {r : InjectReport} {e : SayError} : r.plan = p →
      (Console.present mode (r.pieces (o.asValue || mode = .machine))).2 = some e →
      Stranded s o mode settings p b (.crash (.say e))

section
variable {s : Surroundings} {o : InjectOptions} {settings : Settings} {p : InjectPlan}
  {d d' d'' : Disk} {b b' : Workbench}

/-- A disk is untouched itself. -/
theorem Untouched.refl (s : Surroundings) (o : InjectOptions) (d : Disk) : Untouched s o d d :=
  ⟨id, fun _ _ _ => rfl⟩

/-- What is untouched twice is untouched. -/
theorem Untouched.trans (h : Untouched s o d d') (h' : Untouched s o d' d'') :
    Untouched s o d d'' :=
  ⟨h'.file ∘ h.file, fun l hl hne => (h'.history l hl hne).trans (h.history l hl hne)⟩

/-- Neither the store nor the log lies above the backup directory or below it. -/
theorem apart_from_backups {l : Location}
    (hl : l = s.ledger.storePlace ∨ l = s.ledger.logPlace)
    (h : l <+: s.directoryPlace ++ ["backups"] ∨ s.directoryPlace ++ ["backups"] <+: l) : False := by
  rw [s.storePlace_eq, s.logPlace_eq] at hl
  rcases hl with rfl | rfl <;> rcases h with h | h <;>
    exact absurd ((List.prefix_append_right_inj _).1 h) (by decide)

/-- Getting the editor ready touches neither the file nor the history. -/
theorem untouched_of_prepare (hroot : s.project.root.Plain)
    (h : (editorOf s settings).prepare d = .ok d') : Untouched s o d d' := by
  refine ⟨(Editor.prepare_grows h).read, fun l hl _ => ?_⟩
  have hbackups : s.project.backups.Plain :=
    (Surroundings.plain_directory hroot).child (by decide) (by decide) (by decide)
  rw [Editor.prepare, editorOf, Surroundings.directory_editor hroot] at h
  split at h
  · have hplace : s.project.backups.locate s.here = s.directoryPlace ++ ["backups"] :=
      s.locate_child_directory (by decide)
    exact Disk.makePath_elsewhere hroot.level hbackups.level h fun hbelow =>
      apart_from_backups hl (.inl (hplace ▸ hbelow))
  · cases h
    rfl

/-- Planning touches neither the file nor the history. -/
theorem untouched_of_plan (hroot : s.project.root.Plain) (o : InjectOptions) (settings : Settings)
    (d : Disk) : Untouched s o d (plan s o settings d).2 := by
  rcases plan_disk s o settings d with hsame | hprepare
  · rw [hsame]
    exact .refl s o d
  · exact untouched_of_prepare hroot hprepare

/-- A replacement that is refused touches neither the file nor the history. -/
theorem untouched_of_refused {new : String} {backup? : Option String}
    (hroot : s.project.root.Plain)
    (h : b.replace .none (editorOf s settings) (fileOf o) new = .ok (⟨false, backup?⟩, b')) :
    Untouched s o b.disk b'.disk := by
  have hnormal := Path.normal_ofString o.file
  rw [Workbench.replace] at h
  split at h
  · cases h
  · next disk clock hwrite =>
    cases h
    obtain rfl | ⟨backup, d₁, clock₁, hbackup, rfl⟩ := Editor.write_refused hwrite
    · exact .refl s o b.disk
    · rw [fileOf, Path.ofString_toString hnormal] at hbackup ⊢
      obtain ⟨-, -, bytes, hread, -⟩ := Editor.createBackup_puts hnormal hbackup
      obtain ⟨loc, -, hlocate, -, -⟩ := Disk.read_eq_ok.1 hread
      obtain rfl := Disk.locate_toString_eq hnormal hlocate
      refine ⟨fun hfile => (Editor.recover_backup hnormal hlocate hfile hbackup).1,
        fun l hl hne => ?_⟩
      obtain ⟨-, other, hbelow, helsewhere⟩ :=
        Editor.recover_backup hnormal hlocate hread hbackup
      refine helsewhere l hne ?_
      rintro rfl
      rw [editorOf, Surroundings.vault_editor hroot] at hbelow
      exact apart_from_backups hl (.inr hbelow)

/-- A plan that is not carried out has touched neither the file nor the history, unless the file is
written and the injection cannot be entered into the history. -/
theorem untouched_of_undone {halt : Halt} (hroot : s.project.root.Plain)
    (h : carryOut s o settings p b = (.error halt, b')) :
    Untouched s o b.disk b'.disk ∨ (p.injection.nothingToBreak || o.dryRun) = false ∧
      ∃ e, halt = .crash (.disk e) ∧ remember s o settings p.injection b' = .error e := by
  have hcarried := carriedOut s o settings p b
  rw [h] at hcarried
  cases hcarried with
  | failed => exact .inl (.refl s o b.disk)
  | refused hbusy hreplace => exact .inl (untouched_of_refused hroot hreplace)
  | @unrecorded backup? _ e hbusy hreplace hremember =>
    exact .inr ⟨hbusy, e, rfl, hremember⟩

/-- A plan that is carried out has touched neither the file nor the history, unless there was
something to break and the run was not dry. -/
theorem untouched_of_idle {done : Done} (h : carryOut s o settings p b = (.ok done, b')) :
    Untouched s o b.disk b'.disk ∨ (p.injection.nothingToBreak || o.dryRun) = false := by
  have hcarried := carriedOut s o settings p b
  rw [h] at hcarried
  cases hcarried with
  | idle => exact .inl (.refl s o b.disk)
  | written hbusy => exact .inr hbusy

end

end Inject

/-- An injection that fails has touched neither the file nor the history, or there was something to
break, the run was not dry, and it failed after the file was written: the injection could not be
entered into the history, there was no taunt, or the report did not come out. -/
theorem untouched_of_failed {setting : Setting} {mode : Mode} {o : InjectOptions} {b : Workbench}
    (hroot : setting.surroundings.project.root.Plain)
    (hfailed : (runCommand setting mode (.inject o) b).status.code ≠ 0) :
    Inject.Untouched setting.surroundings o b.disk
        (runCommand setting mode (.inject o) b).bench.disk ∨
      ∃ p d, Inject.plan setting.surroundings o (setting.surroundings.settings b.disk) b.disk =
          (.ok p, d) ∧
        (p.injection.nothingToBreak || o.dryRun) = false ∧
        Inject.Stranded setting.surroundings o mode (setting.surroundings.settings b.disk) p
          (runCommand setting mode (.inject o) b).bench
          (runCommand setting mode (.inject o) b).status := by
  rw [runCommand_inject] at hfailed ⊢
  split at hfailed
  · next hmet =>
    rw [if_pos hmet]
    have hplanned := Inject.untouched_of_plan hroot o (setting.surroundings.settings b.disk) b.disk
    have hran := Inject.ran setting.surroundings o mode b
    revert hfailed
    generalize Inject.run setting.surroundings o mode b = ending at hran
    intro hfailed
    rw [Ending.bench_present]
    -- What planning leaves is touched no more, or the run has got beyond writing the file.
    cases hran with
    | unplanned hplan =>
      rw [hplan] at hplanned
      exact .inl hplanned
    | @undone p d halt b' hplan hcarry =>
      rw [hplan] at hplanned
      obtain huntouched | ⟨hbusy, e, rfl, hremember⟩ := Inject.untouched_of_undone hroot hcarry
      · exact .inl (hplanned.trans huntouched)
      · exact .inr ⟨p, d, hplan, hbusy, .history hremember⟩
    | @untaunted p d done b' e requests hplan hcarry htaunt =>
      rw [hplan] at hplanned
      obtain huntouched | hbusy := Inject.untouched_of_idle hcarry
      · exact .inl (hplanned.trans huntouched)
      · exact .inr ⟨p, d, hplan, hbusy, .commentary (congrArg Prod.fst htaunt)⟩
    | @reported p d done b' taunt? requests hplan hcarry htaunt =>
      rw [hplan] at hplanned
      obtain huntouched | hbusy := Inject.untouched_of_idle hcarry
      · exact .inl (hplanned.trans huntouched)
      · refine .inr ⟨p, d, hplan, hbusy, ?_⟩
        obtain ⟨e, hsaid, hstatus⟩ := Ending.status_well hfailed
        rw [hstatus]
        exact .report rfl hsaid
  · next hmet =>
    rw [if_neg hmet]
    exact .inl (.refl _ _ _)

/-! ## A reply with an object for the list of choices -/

/-- The project of the two lines, with a key for a service whose replies have an object where the
list of choices should be. -/
def chattySetting : Setting :=
  ⟨{ lineSetting.surroundings with
      environment := fun name => if name = "BUGDUCK_LLM_API_KEY" then some "k" else none
      service := fun _ => .answered 200 "\x7b\"choices\":\x7b\"0\":1\x7d\x7d" }, []⟩

/-- A request for one bug in a file, with a taunt. -/
def chattyOptions (file : String) : InjectOptions :=
  { lineOptions file with quiet := false }

/-- A service that may be asked with a key is asked. -/
theorem roast_of_key {config : Json.Fields} {bugs : List Text.Spelling}
    {service : Commentary.Request → Commentary.Reply}
    (h : (Commentary.setting config "api_key").truthy = true) :
    (Commentary.roast config bugs service).1 =
      Commentary.lineOf (service (Commentary.request config bugs)) := by
  simp [Commentary.roast, Commentary.mayAsk, h]

/-- There is no taunt in such a reply. -/
theorem taunt_chattySetting {settings : Settings} {o : InjectOptions} {k : BugKind}
    (hquiet : o.quiet = false) (hvalues : settings.values = mergeFields [] defaultSettings) :
    (Inject.taunt chattySetting.surroundings o settings [k]).1 = .error .choicesObject := by
  obtain ⟨files, values⟩ := settings
  obtain rfl : values = _ := hvalues
  have hon : (⟨files, mergeFields [] defaultSettings⟩ : Settings).switchedOn "commentary.enabled" =
      true := rfl
  have hkey : (Commentary.setting (chattySetting.surroundings.commentary
      ⟨files, mergeFields [] defaultSettings⟩) "api_key").truthy = true := rfl
  have hline : Commentary.lineOf (.answered 200 "\x7b\"choices\":\x7b\"0\":1\x7d\x7d") =
      .error .choicesObject := by decide +kernel
  simp only [Inject.taunt, hquiet, hon, List.isEmpty_cons, Bool.not_true, Bool.or_self,
    Bool.false_eq_true, if_false]
  rw [roast_of_key hkey]
  exact congrArg (Except.map some) hline

/-- A plan is carried out and there is no taunt: the command fails, and the workbench is what
carrying out the plan has left. -/
theorem Inject.run_of_untaunted {s : Surroundings} {o : InjectOptions} {mode : Mode} {d : Disk}
    {b b' : Workbench} {p : InjectPlan} {done : Done} {e : Commentary.RoastError}
    (hplan : plan s o (s.settings b.disk) b.disk = (.ok p, d))
    (hcarry : carryOut s o (s.settings b.disk) p { b with disk := d } = (.ok done, b'))
    (htaunt : (taunt s o (s.settings b.disk) p.injection.applied).1 = .error e) :
    ((run s o mode b).present mode).status = .crash (.commentary e) ∧
      ((run s o mode b).present mode).bench = b' := by
  simp [run, hplan, finish, hcarry, htaunt, Ending.early, Ending.present, Halt.pieces,
    Console.present, statusOf]

/-- The injection into the two lines, once it is carried out or left undone in a dry run, fails. -/
theorem runCommand_chattySetting (dry : Bool) {done : Inject.Done} {b' : Workbench}
    (hcarry : Inject.carryOut lineSetting.surroundings
      { lineOptions "two.tsx" with dryRun := dry }
      (lineSetting.surroundings.settings (lineDisk ["two.tsx"])) linePlan
      (lineBench ["two.tsx"]) = (.ok done, b')) :
    (runCommand chattySetting .machine (.inject { chattyOptions "two.tsx" with dryRun := dry })
        (lineBench ["two.tsx"])).status = .crash (.commentary .choicesObject) ∧
      (runCommand chattySetting .machine (.inject { chattyOptions "two.tsx" with dryRun := dry })
        (lineBench ["two.tsx"])).bench = b' := by
  have hfile : (Path.ofString "two.tsx").toString = "two.tsx" := by decide
  have hvalues := values_lineDisk ["two.tsx"] rfl rfl
  -- Planning and carrying out take no notice of the service.
  have hplan : Inject.plan chattySetting.surroundings
      { chattyOptions "two.tsx" with dryRun := dry }
      (chattySetting.surroundings.settings (lineDisk ["two.tsx"])) (lineDisk ["two.tsx"]) =
        (.ok linePlan, lineDisk ["two.tsx"]) :=
    plan_lineDisk dry hvalues hfile detect_twoLines locate_twoLines rfl
  have htaunt := taunt_chattySetting (o := { chattyOptions "two.tsx" with dryRun := dry })
    (k := .booleanNegation) rfl hvalues
  rw [runCommand_inject, if_pos]
  · exact Inject.run_of_untaunted hplan hcarry htaunt
  · exact isMet_lineDisk hfile locate_twoLines rfl

/-- An injection that fails for want of a taunt leaves the literal negated. -/
theorem enact_choicesObject :
    (enact chattySetting .machine (chattyOptions "two.tsx") (lineBench ["two.tsx"])).status =
        .crash (.commentary .choicesObject) ∧
      (enact chattySetting .machine (chattyOptions "two.tsx")
        (lineBench ["two.tsx"])).status.code = 1 ∧
      (lineBench ["two.tsx"]).disk.read [] "two.tsx" = .ok (ofString literalCode) ∧
      (enact chattySetting .machine (chattyOptions "two.tsx")
        (lineBench ["two.tsx"])).bench.disk.read [] "two.tsx" = .ok (ofString negatedCode) ∧
      ofString negatedCode ≠ ofString literalCode := by
  have hfile : (Path.ofString "two.tsx").toString = "two.tsx" := by decide
  obtain ⟨b', hwrite⟩ := replace_twoLines (values_lineDisk ["two.tsx"] rfl rfl)
  obtain ⟨b'', -, hcarry⟩ := carryOut_lineBench hfile locate_twoLines rfl hwrite
  obtain ⟨hstatus, hbench⟩ := runCommand_chattySetting false hcarry
  have hname : Inject.fileOf (lineOptions "two.tsx") = "two.tsx" := hfile
  have hwritten := Inject.read_of_written (s := lineSetting.surroundings)
    (o := lineOptions "two.tsx") plain_lineSetting (hname.symm ▸ locate_twoLines)
    (hname.symm ▸ readText_twoLines) (fun _ => leaves_twoLines) hcarry rfl
  rw [hname, bytes_linePlan] at hwritten
  refine ⟨hstatus, ?_, read_twoLines, ?_, by decide⟩
  · rw [enact, hstatus]
    rfl
  · rw [enact, hbench]
    exact hwritten

/-- The dry run that fails so leaves them as they are. -/
theorem untouched_of_failed_dry :
    chattySetting.surroundings.project.root.Plain ∧
      (rehearse chattySetting .machine (chattyOptions "two.tsx")
        (lineBench ["two.tsx"])).status.code ≠ 0 ∧
      (rehearse chattySetting .machine (chattyOptions "two.tsx")
        (lineBench ["two.tsx"])).bench.disk.read [] "two.tsx" = .ok (ofString literalCode) := by
  obtain ⟨hstatus, hbench⟩ := runCommand_chattySetting true (Inject.carryOut_dry rfl)
  have hfailed : (rehearse chattySetting .machine (chattyOptions "two.tsx")
      (lineBench ["two.tsx"])).status.code ≠ 0 := by
    rw [rehearse, hstatus]
    decide
  have hroot : chattySetting.surroundings.project.root.Plain := plain_lineSetting.root
  refine ⟨hroot, hfailed, ?_⟩
  obtain huntouched | ⟨p, d, -, hbusy, -⟩ := untouched_of_failed hroot hfailed
  · have hname : Inject.fileOf { chattyOptions "two.tsx" with dryRun := true } = "two.tsx" := by
      decide
    have hread := @huntouched.file
    rw [hname] at hread
    exact hread read_twoLines
  · rw [Bool.or_true] at hbusy
    cases hbusy

end Command

end Sabotage
