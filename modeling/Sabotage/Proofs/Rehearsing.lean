import Sabotage.Proofs.InjectRuns
import Sabotage.Proofs.Recording

/-!
# What a dry run tells of the run after it

A dry run makes the directory for backups, if there are to be any, and changes nothing else
(`Command.rehearse_grows`). The injection that follows it with the same seed reads the same settings
and the same text, so that it makes the same plan; when it has written the file, this holds the
injected text of the plan, unless the file is one of the two that the history is entered into
afterwards (`Command.enact_rehearsed`). In that case it need not (`Command.enact_historyLog`).
-/

namespace Sabotage.Command

open Bytes

/-- An injection as a dry run. -/
def rehearse (setting : Setting) (mode : Mode) (o : InjectOptions) (b : Workbench) : Outcome :=
  runCommand setting mode (.inject { o with dryRun := true }) b

/-- An injection in earnest. -/
def enact (setting : Setting) (mode : Mode) (o : InjectOptions) (b : Workbench) : Outcome :=
  runCommand setting mode (.inject { o with dryRun := false }) b

/-- What comes out when a report is presented. -/
def InjectReport.output (r : InjectReport) (mode : Mode) (asValue : Bool) : List Output :=
  (Console.present mode (r.pieces (asValue || mode = .machine))).1

/-- Whether an injection is entered into the history once it is carried out. -/
def InjectPlan.IsEntered (p : InjectPlan) (settings : Settings) : Prop :=
  p.injection.change? ≠ none ∧ settings.switchedOn "history.enabled" = true

section
variable {setting setting' : Setting} {mode : Mode} {o : InjectOptions} {b b' : Workbench}

/-- The injection command checks that there is a file, runs and presents what it says. -/
theorem runCommand_inject (setting : Setting) (mode : Mode) (o : InjectOptions) (b : Workbench) :
    runCommand setting mode (.inject o) b =
      if FileDemand.file.isMet setting.surroundings b.disk o.file = true then
        (Inject.run setting.surroundings o mode b).present mode
      else .nothing .usage b := rfl

/-- An injection with status zero has found the file, made a plan, carried it out and reported. -/
theorem reported_of_code (h : (runCommand setting mode (.inject o) b).status.code = 0) :
    FileDemand.file.isMet setting.surroundings b.disk o.file = true ∧
    ∃ p d done taunt?,
      Inject.plan setting.surroundings o (setting.surroundings.settings b.disk) b.disk =
        (.ok p, d) ∧
      Inject.carryOut setting.surroundings o (setting.surroundings.settings b.disk) p
        { b with disk := d } = (.ok done, (runCommand setting mode (.inject o) b).bench) ∧
      (runCommand setting mode (.inject o) b).output =
        InjectReport.output ⟨Inject.fileOf o, p, done.success, o.dryRun, done.backup?, taunt?⟩ mode
          o.asValue := by
  rw [runCommand_inject] at h ⊢
  split at h
  · next hmet =>
    rw [if_pos hmet]
    obtain ⟨hhalt, houtput⟩ := Ending.halt?_eq_none h
    refine ⟨hmet, ?_⟩
    have hran := Inject.ran setting.surroundings o mode b
    rw [houtput]
    revert hhalt
    generalize Inject.run setting.surroundings o mode b = ending at hran
    intro hhalt
    cases hran with
    | unplanned => cases hhalt
    | undone => cases hhalt
    | untaunted => cases hhalt
    | @reported p d done b' taunt? requests hplan hcarry htaunt =>
      exact ⟨p, d, done, taunt?, hplan, hcarry, rfl⟩
  · cases h

/-- A dry run makes the disk grow and changes nothing else on the workbench. -/
theorem rehearse_grows (setting : Setting) (mode : Mode) (o : InjectOptions) (b : Workbench) :
    ∃ d, b.disk.Grows d ∧ (rehearse setting mode o b).bench = { b with disk := d } := by
  rw [rehearse, runCommand_inject]
  split
  · have hgrows := Inject.plan_grows setting.surroundings { o with dryRun := true }
      (setting.surroundings.settings b.disk) b.disk
    have hran := Inject.ran setting.surroundings { o with dryRun := true } mode b
    simp only [Ending.present]
    generalize Inject.run setting.surroundings { o with dryRun := true } mode b = ending at hran
    cases hran with
    | unplanned hplan =>
      rw [hplan] at hgrows
      exact ⟨_, hgrows, rfl⟩
    | undone hplan hcarry =>
      rw [Inject.carryOut_dry rfl] at hcarry
      cases hcarry
    | untaunted hplan hcarry htaunt | reported hplan hcarry htaunt =>
      rw [Inject.carryOut_dry rfl] at hcarry
      cases hcarry
      rw [hplan] at hgrows
      exact ⟨_, hgrows, rfl⟩
  · exact ⟨b.disk, .refl _, rfl⟩

/-- A plan is made again on the disk that it has left, when the seed is given. -/
theorem Inject.plan_again {s s' : Surroundings} {o o' : InjectOptions} {settings : Settings}
    {d d' d'' : Disk} {p p' : InjectPlan} (h : plan s o settings d = (.ok p, d'))
    (h' : plan s' o' settings d' = (.ok p', d'')) (hparser : s'.parser = s.parser)
    (hproject : s'.project = s.project) (hfile : o'.file = o.file) (hbugs : o'.bugs? = o.bugs?)
    (hrandom : randomOf s' o' = randomOf s o) : p = p' ∧ d' = d'' := by
  obtain ⟨hcount, hprepare, code, hread, hinject⟩ := plan_eq_ok.1 h
  obtain ⟨hcount', hprepare', code', hread', hinject'⟩ := plan_eq_ok.1 h'
  have heditor : editorOf s' settings = editorOf s settings := by
    rw [editorOf, editorOf, Surroundings.editor, Surroundings.editor, Surroundings.here,
      Surroundings.here, hproject]
  obtain rfl : d' = d'' := by
    rw [heditor, Editor.prepare_again hprepare] at hprepare'
    exact Except.ok.inj hprepare'
  have hname : fileOf o' = fileOf o := by rw [fileOf, fileOf, hfile]
  obtain rfl : code' = code := by
    rw [Surroundings.here, hproject, hname] at hread'
    exact Except.ok.inj (hread'.symm.trans hread)
  have hrequested : p'.requested = p.requested := by
    rw [requested, hbugs] at hcount'
    exact Except.ok.inj (hcount'.symm.trans hcount)
  rw [hparser, hname, hrandom, hrequested, hinject] at hinject'
  obtain ⟨requested, injection⟩ := p
  obtain ⟨requested', injection'⟩ := p'
  cases hrequested
  cases hinject'
  exact ⟨rfl, rfl⟩

/-- Entering an injection into the history leaves a file alone that lies at neither of its places,
and every file when the injection is not entered. -/
theorem Inject.remember_spares {s : Surroundings} {settings : Settings} {p : InjectPlan}
    {loc : Location} {bytes : Bytes} (hplain : s.project.Plain)
    (hleaves : p.IsEntered settings → s.ledger.Leaves loc bytes)
    (hthere : b.disk.occupant? loc = some (.file bytes))
    (h : remember s o settings p.injection b = .ok b') : b.disk.Spares b'.disk loc := by
  obtain ⟨hstore, hlog⟩ := Surroundings.normal_ledger hplain.root
  rw [remember] at h
  split at h
  · next change hchange hhistory =>
    have hleaves := hleaves ⟨by simp [hchange], hhistory⟩
    split at h
    · cases h
    · next disk hprepare =>
      cases h
      have hspares := Ledger.prepare_spares hstore hleaves.store hthere hprepare
      exact hspares.trans
        (Ledger.record_spares hstore hlog hleaves (hspares.kept hthere) _)
  · cases h
    exact .refl _ loc

/-- An injection that is entered into the history adds a line to the log. -/
theorem Inject.read_of_entered {s : Surroundings} {settings : Settings} {p : InjectPlan}
    {bytes : Bytes} {file : String} (hplain : s.project.Plain) (hentered : p.IsEntered settings)
    (hthere : b.disk.occupant? s.ledger.logPlace = some (.file bytes))
    (hlog : b.disk.locate s.here s.ledger.log.toString = .ok s.ledger.logPlace)
    (hfile : b.disk.locate s.here file = .ok s.ledger.logPlace)
    (h : remember s o settings p.injection b = .ok b') :
    ∃ e : HistoryEntry,
      b'.disk.read s.here file = .ok (bytes ++ ofString (e.record ++ "\n")) := by
  obtain ⟨hstore, hnormal⟩ := Surroundings.normal_ledger hplain.root
  have happart : s.ledger.logPlace = s.ledger.storePlace → 1 < bytes.length :=
    fun heq => absurd heq s.logPlace_ne
  obtain ⟨hchange, hhistory⟩ := hentered
  obtain ⟨change, hchange⟩ := Option.ne_none_iff_exists'.1 hchange
  simp only [remember, hchange, hhistory] at h
  split at h
  · cases h
  · next disk hprepare =>
    cases h
    obtain ⟨d₁, hmake, hspares₁⟩ := Ledger.prepare_eq_ok hstore happart hthere hprepare
    have hspares := Ledger.prepare_spares hstore happart hthere hprepare
    simp only [Workbench.recordInjection, Workbench.record]
    generalize (Workbench.newEntry _ _ _ _ _).1 = e
    have hrow := Ledger.enterRow_spares hstore happart (hspares.kept hthere) e
    have hline := Ledger.enterLine_spares hnormal s.logPlace_ne.symm e
      (s.ledger.enterRow e disk).2
    have hparent : s.ledger.log.parent = s.ledger.store.parent := by
      simp [Surroundings.ledger, Project.historyLog, Project.historyStore, Path.parent, Path.child]
    have hdirs {l : Location} (hdir : b.disk.occupant? l = some .directory) :
        (s.ledger.enterRow e disk).2.occupant? l = some .directory :=
      hrow.directory (hspares.directory hdir)
    have hthere' := Ledger.enterLine_there
      (hparent ▸ Disk.makePath_again hmake (hrow.directory ∘ hspares₁.directory))
      (Disk.locate_mono (fun _ => hdirs) hlog) (hrow.kept (hspares.kept hthere)) e
    exact ⟨e, Disk.read_eq_ok.2 ⟨_, _,
      Disk.locate_mono (fun _ hdir => hline.directory (hdirs hdir)) hfile, hthere', rfl⟩⟩

/-- An injection can be entered into the history when its directory can be made. -/
theorem Inject.exists_remember {s : Surroundings} {settings : Settings} {d₁ : Disk}
    (hmake : b.disk.makePath s.here s.ledger.store.parent = .ok d₁) (i : Injection) :
    ∃ b', remember s o settings i b = .ok b' := by
  obtain ⟨disk, hprepare⟩ := Ledger.exists_prepare (l := s.ledger) hmake
  rw [remember]
  split
  · exact ⟨_, by rw [hprepare]⟩
  · exact ⟨b, rfl⟩

/-- A plan whose carrying out has succeeded is reported, without a taunt when none is wanted. -/
theorem Inject.run_of_quiet {s : Surroundings} {d : Disk} {p : InjectPlan} {done : Done}
    (mode : Mode) (hquiet : o.quiet = true) (hplan : plan s o (s.settings b.disk) b.disk = (.ok p, d))
    (hcarry : carryOut s o (s.settings b.disk) p { b with disk := d } = (.ok done, b')) :
    run s o mode b = Ending.well (InjectReport.pieces
      ⟨fileOf o, p, done.success, o.dryRun, done.backup?, none⟩ (o.asValue || mode = .machine))
      b' := by
  simp [run, hplan, finish, hcarry, taunt, hquiet, Ending.well]

/-- A plan that is written and entered is carried out. -/
theorem Inject.carryOut_of_written {s : Surroundings} {settings : Settings} {p : InjectPlan}
    {b'' : Workbench} {backup? : Option String} (hbugs : p.injection.nothingToBreak = false)
    (hwet : o.dryRun = false)
    (hwrite : b.replace .none (editorOf s settings) (fileOf o) p.injection.code =
      .ok (⟨true, backup?⟩, b'))
    (hremember : remember s o settings p.injection b' = .ok b'') :
    carryOut s o settings p b = (.ok ⟨true, backup?⟩, b'') := by
  simp [carryOut, hbugs, hwet, hwrite, hremember]

/-- What is written to the file: the injected text, in the line-ending convention of the old one. -/
def InjectPlan.bytes (p : InjectPlan) (old : String) : Bytes :=
  ofString (Text.normalize (.detect old) p.injection.code)

/-- An injection in earnest that is carried out has written the file unless there was nothing to
break. -/
theorem Inject.success_eq {s : Surroundings} {settings : Settings} {p : InjectPlan} {done : Done}
    (hwet : o.dryRun = false) (h : carryOut s o settings p b = (.ok done, b')) :
    done.success = !p.injection.nothingToBreak := by
  have hcarried := carriedOut s o settings p b
  rw [h] at hcarried
  cases hcarried with
  | idle hidle =>
    rw [hwet, Bool.or_false] at hidle
    rw [hidle]
    rfl
  | written hbusy =>
    rw [hwet, Bool.or_false] at hbusy
    rw [hbusy]
    rfl

/-- A file that an injection has written holds what the plan gives, unless it is one of the two that
the history is entered into. -/
theorem Inject.read_of_written {s : Surroundings} {settings : Settings} {p : InjectPlan}
    {done : Done} {old : String} (hplain : s.project.Plain)
    (hlocate : b.disk.locate s.here (fileOf o) = .ok ((Path.ofString o.file).locate s.here))
    (hread : b.disk.readText s.here (fileOf o) = .ok old)
    (hleaves : p.IsEntered settings →
      s.ledger.Leaves ((Path.ofString o.file).locate s.here) (p.bytes old))
    (h : carryOut s o settings p b = (.ok done, b')) (hwritten : done.success = true) :
    b'.disk.read s.here (fileOf o) = .ok (p.bytes old) := by
  have hcarried := carriedOut s o settings p b
  rw [h] at hcarried
  cases hcarried with
  | idle => cases hwritten
  | @written backup? b₁ _ hwet hreplace hremember =>
    obtain ⟨bytes, hbytes, htext⟩ := Disk.readText_eq_ok.1 hread
    rw [← ofString_of_toString? htext] at hbytes
    rw [Workbench.replace] at hreplace
    split at hreplace
    · cases hreplace
    · next disk clock hwrite =>
      cases hreplace
      obtain ⟨hlocate', hthere, -⟩ :=
        Editor.write_there (e := editorOf s settings) hlocate hbytes hwrite
      rw [← InjectPlan.bytes] at hthere
      have hspares := remember_spares (b := { b with disk, backupClock := clock }) hplain hleaves
        hthere hremember
      exact hspares.read hlocate' hthere

end

/-! ## Two lines in a project -/

/-- A project at the root, where nothing answers for the commentary service. -/
def lineSetting : Setting :=
  ⟨⟨literalParser, ⟨⟨1, []⟩, ⟨1, ["home"]⟩⟩, fun _ => none, fun _ => .raised, 0⟩, []⟩

/-- A request for one bug in a file, without a taunt. -/
def lineOptions (file : String) : InjectOptions :=
  ⟨file, some 1, some 7, false, true, true⟩

/-- A disk that is ready for backups, with the two lines at a location. -/
def lineDisk (loc : Location) : Disk :=
  ⟨[([".bugduck"], .directory), ([".bugduck", "backups"], .directory),
    (loc, .file (ofString literalCode))]⟩

/-- The disk at the start of 2024. -/
def lineBench (loc : Location) : Workbench :=
  ⟨lineDisk loc, ⟨1704067200000000, 1000000⟩, ⟨0, 1⟩, 0⟩

/-- The injection of one bug into the two lines. -/
def linePlan : InjectPlan :=
  ⟨1, literalInjection⟩

/-- The project never leads up. -/
theorem plain_lineSetting : lineSetting.surroundings.project.Plain where
  root := ⟨⟨by decide, nofun, nofun⟩, List.not_mem_nil⟩
  home := ⟨⟨by decide, by decide, by decide⟩, by decide⟩

section
variable {file : String} {loc : Location}

/-- The defaults are in force on a disk with no settings. -/
theorem values_lineDisk (loc : Location)
    (hlocal : (lineDisk loc).occupant? [".bugduck", "config.json"] = none)
    (hglobal : (lineDisk loc).occupant? ["home", ".bugduck", "config.json"] = none) :
    (lineSetting.surroundings.settings (lineDisk loc)).values = mergeFields [] defaultSettings :=
  Surroundings.settings_of_missing
    (by rwa [show (Path.ofString lineSetting.surroundings.project.globalSettings.toString).locate
      lineSetting.surroundings.here = ["home", ".bugduck", "config.json"] by decide])
    (by rwa [show (Path.ofString lineSetting.surroundings.project.localSettings.toString).locate
      lineSetting.surroundings.here = [".bugduck", "config.json"] by decide])

/-- By default backups are made and the history is kept. -/
theorem switchedOn_of_values {settings : Settings}
    (hvalues : settings.values = mergeFields [] defaultSettings) :
    settings.switchedOn "backup.enabled" = true ∧ settings.switchedOn "history.enabled" = true := by
  rw [Settings.switchedOn, Settings.switchedOn, Settings.get?, Settings.get?, hvalues]
  exact ⟨rfl, rfl⟩

/-- By default no weight is overridden. -/
theorem weights_of_values {settings : Settings}
    (hvalues : settings.values = mergeFields [] defaultSettings) :
    settings.get "mutation.weights" = .obj [] := by
  rw [Settings.get, Settings.get?, hvalues]
  rfl

/-- A bug is put into the two lines, wherever they lie. -/
theorem inject_lines (hdetect : Language.detect file = .tsx) :
    (inject literalParser ⟨literalCode, 1, none, some file, .obj []⟩
      (MersenneTwister.ofSeed 7)).1 = .ok literalInjection := by
  obtain ⟨s', hinject⟩ := inject_literalCode
    (r := ⟨literalCode, 1, none, some file, .obj []⟩) rfl
    (by rw [InjectionRequest.language, Option.getD_some, hdetect]) (by rfl) Int.one_pos
    (MersenneTwister.ofSeed 7)
  rw [hinject]

/-- Under the defaults the plan for the two lines is this one bug. -/
theorem plan_lineDisk {settings : Settings} (dry : Bool)
    (hvalues : settings.values = mergeFields [] defaultSettings)
    (hfile : (Path.ofString file).toString = file) (hdetect : Language.detect file = .tsx)
    (hlocate : (lineDisk loc).locate [] file = .ok loc)
    (hthere : (lineDisk loc).occupant? loc = some (.file (ofString literalCode))) :
    Inject.plan lineSetting.surroundings { lineOptions file with dryRun := dry } settings
      (lineDisk loc) = (.ok linePlan, lineDisk loc) := by
  have hread : (lineDisk loc).readText [] file = .ok literalCode :=
    Disk.readText_eq_ok.2 ⟨_, Disk.read_eq_ok.2 ⟨loc, _, hlocate, hthere, rfl⟩,
      toString?_ofString literalCode⟩
  have hname : Inject.fileOf { lineOptions file with dryRun := dry } = file := hfile
  refine Inject.plan_eq_ok.2 ⟨rfl, ?_, literalCode, ?_, ?_⟩
  · rw [Inject.editorOf, (switchedOn_of_values hvalues).1]
    rfl
  · rw [hname]
    exact hread
  · rw [hname, weights_of_values hvalues]
    exact inject_lines hdetect

/-- The command finds the file with the two lines. -/
theorem isMet_lineDisk (hfile : (Path.ofString file).toString = file)
    (hlocate : (lineDisk loc).locate [] file = .ok loc)
    (hthere : (lineDisk loc).occupant? loc = some (.file (ofString literalCode))) :
    FileDemand.file.isMet lineSetting.surroundings (lineDisk loc) file = true := by
  have hhere : lineSetting.surroundings.here = [] := rfl
  simp only [FileDemand.isMet, hfile, Disk.find, hhere, hlocate, hthere]
  decide

/-- The dry run on the two lines leaves everything as it is. -/
theorem rehearse_lineBench
    (hvalues : (lineSetting.surroundings.settings (lineDisk loc)).values =
      mergeFields [] defaultSettings)
    (hfile : (Path.ofString file).toString = file) (hdetect : Language.detect file = .tsx)
    (hlocate : (lineDisk loc).locate [] file = .ok loc)
    (hthere : (lineDisk loc).occupant? loc = some (.file (ofString literalCode))) :
    rehearse lineSetting .machine (lineOptions file) (lineBench loc) =
      (Ending.well (InjectReport.pieces ⟨file, linePlan, false, true, none, none⟩ true)
        (lineBench loc)).present .machine := by
  have hrun := Inject.run_of_quiet (s := lineSetting.surroundings)
    (o := { lineOptions file with dryRun := true }) (b := lineBench loc) .machine rfl
    (plan_lineDisk true hvalues hfile hdetect hlocate hthere) (Inject.carryOut_dry rfl)
  rw [rehearse, runCommand_inject]
  refine (if_pos (isMet_lineDisk hfile hlocate hthere)).trans ?_
  have hname : Inject.fileOf { lineOptions file with dryRun := true } = file := hfile
  rw [hrun, hname]
  rfl

/-- Where the two lines lay lies what the plan gives, once the file is written. -/
theorem written_lineBench {b' : Workbench} {settings : Settings} {backup? : Option String}
    (hlocate : (lineDisk loc).locate [] file = .ok loc)
    (hthere : (lineDisk loc).occupant? loc = some (.file (ofString literalCode)))
    (hwrite : (lineBench loc).replace .none (Inject.editorOf lineSetting.surroundings settings)
      file negatedCode = .ok (⟨true, backup?⟩, b')) :
    b'.disk.locate [] file = .ok loc ∧
      b'.disk.occupant? loc = some (.file (linePlan.bytes literalCode)) ∧
      ∀ l, b'.disk.occupant? l = some .directory ↔ (lineDisk loc).occupant? l = some .directory := by
  rw [Workbench.replace] at hwrite
  split at hwrite
  · cases hwrite
  · next hwritten =>
    cases hwrite
    exact Editor.write_there (e := Inject.editorOf lineSetting.surroundings settings) hlocate
      (Disk.read_eq_ok.2 ⟨loc, _, hlocate, hthere, rfl⟩) hwritten

/-- The plan for the two lines, once the file is written, is carried out and entered into the
history. -/
theorem carryOut_lineBench {b' : Workbench} {settings : Settings} {backup? : Option String}
    (hfile : (Path.ofString file).toString = file)
    (hlocate : (lineDisk loc).locate [] file = .ok loc)
    (hthere : (lineDisk loc).occupant? loc = some (.file (ofString literalCode)))
    (hwrite : (lineBench loc).replace .none (Inject.editorOf lineSetting.surroundings settings)
      file negatedCode = .ok (⟨true, backup?⟩, b')) :
    ∃ b'', Inject.remember lineSetting.surroundings (lineOptions file) settings literalInjection
        b' = .ok b'' ∧
      Inject.carryOut lineSetting.surroundings (lineOptions file) settings linePlan
        (lineBench loc) = (.ok ⟨true, backup?⟩, b'') := by
  have hname : Inject.fileOf (lineOptions file) = file := hfile
  obtain ⟨-, -, hdirs⟩ := written_lineBench hlocate hthere hwrite
  have hmake : (lineDisk loc).makePath [] lineSetting.surroundings.ledger.store.parent =
      .ok (lineDisk loc) := rfl
  obtain ⟨b'', hremember⟩ : ∃ b'', Inject.remember lineSetting.surroundings (lineOptions file)
      settings literalInjection b' = .ok b'' :=
    Inject.exists_remember (Disk.makePath_again hmake (hdirs _).2) literalInjection
  have hcarry := Inject.carryOut_of_written (s := lineSetting.surroundings)
    (o := lineOptions file) (p := linePlan) rfl rfl (hname ▸ hwrite) hremember
  exact ⟨b'', hremember, hcarry⟩

/-- The injection into the two lines, once it is carried out, is reported. -/
theorem enact_lineBench {b' : Workbench} {done : Inject.Done}
    (hvalues : (lineSetting.surroundings.settings (lineDisk loc)).values =
      mergeFields [] defaultSettings)
    (hfile : (Path.ofString file).toString = file) (hdetect : Language.detect file = .tsx)
    (hlocate : (lineDisk loc).locate [] file = .ok loc)
    (hthere : (lineDisk loc).occupant? loc = some (.file (ofString literalCode)))
    (hcarry : Inject.carryOut lineSetting.surroundings (lineOptions file)
      (lineSetting.surroundings.settings (lineDisk loc)) linePlan (lineBench loc) =
        (.ok done, b')) :
    enact lineSetting .machine (lineOptions file) (lineBench loc) =
      (Ending.well (InjectReport.pieces
        ⟨file, linePlan, done.success, false, done.backup?, none⟩ true) b').present .machine := by
  have hname : Inject.fileOf (lineOptions file) = file := hfile
  have hrun := Inject.run_of_quiet (s := lineSetting.surroundings)
    (o := lineOptions file) (b := lineBench loc) .machine rfl
    (plan_lineDisk false hvalues hfile hdetect hlocate hthere) hcarry
  rw [enact, runCommand_inject]
  refine (if_pos (isMet_lineDisk hfile hlocate hthere)).trans ?_
  rw [hname] at hrun
  exact congrArg (Ending.present .machine) hrun

/-- The two lines are replaced when the places of the backup and of the temporary file are free. -/
theorem replace_lineBench {settings : Settings} (backup name : String) (target : Location)
    (hvalues : settings.values = mergeFields [] defaultSettings)
    (hfile : (Path.ofString file).toString = file)
    (hlocate : (lineDisk loc).locate [] file = .ok loc)
    (hthere : (lineDisk loc).occupant? loc = some (.file (ofString literalCode)))
    (hbackup : (Inject.editorOf lineSetting.surroundings settings).backupPath (Path.ofString file)
      1704067200000000 = backup)
    (htarget : (lineDisk loc).locate [] backup = .ok target)
    (hvacant : (lineDisk loc).occupant? target = none)
    (hfree : Editor.freeName ((lineDisk loc).set target (.file (ofString literalCode))) loc.dropLast
      (Path.ofString file) = name)
    (hshort : name.utf8ByteSize ≤ Disk.nameLimit) :
    ∃ b', (lineBench loc).replace .none (Inject.editorOf lineSetting.surroundings settings) file
      negatedCode = .ok (⟨true, some backup⟩, b') := by
  subst hbackup
  have hwrite := Editor.write_of_locate
    (e := Inject.editorOf lineSetting.surroundings settings)
    ⟨1704067200000000, 1000000⟩ negatedCode literalCode name (switchedOn_of_values hvalues).1 hfile
    hlocate hthere htarget hvacant hfree hshort
  exact ⟨_, Workbench.replace_of_write (b := lineBench loc) hwrite⟩

end

/-- A disk with the two lines beside the directory of the project. -/
theorem rooted_lineDisk : (lineDisk ["two.tsx"]).Rooted :=
  Disk.rooted_of_keys (List.forall_mem_cons.2 ⟨rfl, List.forall_mem_cons.2 ⟨rfl,
    List.forall_mem_cons.2 ⟨rfl, nofun⟩⟩⟩)

/-- The path of two lines beside the directory of the project. -/
theorem locate_twoLines : (lineDisk ["two.tsx"]).locate [] "two.tsx" = .ok ["two.tsx"] :=
  Disk.locate_of_follow (by decide) (by decide) (by decide) (by decide)

/-- The language of that path. -/
theorem detect_twoLines : Language.detect "two.tsx" = .tsx := by decide +kernel

/-- These lines are replaced. -/
theorem replace_twoLines {settings : Settings}
    (hvalues : settings.values = mergeFields [] defaultSettings) :
    ∃ b', (lineBench ["two.tsx"]).replace .none
      (Inject.editorOf lineSetting.surroundings settings) "two.tsx" negatedCode =
        .ok (⟨true, some "/.bugduck/backups/two.tsx.20240101_000000_000000.backup"⟩, b') := by
  have hbackup : (Inject.editorOf lineSetting.surroundings settings).backupPath
      (Path.ofString "two.tsx") 1704067200000000 =
        "/.bugduck/backups/two.tsx.20240101_000000_000000.backup" := by
    rw [Inject.editorOf, (switchedOn_of_values hvalues).1]
    decide
  exact replace_lineBench _ ".two.tsx.00000000.tmp"
    [".bugduck", "backups", "two.tsx.20240101_000000_000000.backup"] hvalues (by decide)
    locate_twoLines rfl hbackup
    (Disk.locate_of_follow (by decide) (by decide) (by decide) (by decide)) rfl
    (by decide) (by decide)

/-- What is read there before a run. -/
theorem read_twoLines :
    (lineDisk ["two.tsx"]).read [] "two.tsx" = .ok (ofString literalCode) :=
  Disk.read_eq_ok.2 ⟨_, _, locate_twoLines, rfl, rfl⟩

/-- What is read there is the two lines. -/
theorem readText_twoLines : (lineDisk ["two.tsx"]).readText [] "two.tsx" = .ok literalCode :=
  Disk.readText_eq_ok.2 ⟨_, read_twoLines, toString?_ofString literalCode⟩

/-- What the plan gives for them is the text with the literal negated. -/
theorem bytes_linePlan : linePlan.bytes literalCode = ofString negatedCode :=
  congrArg ofString
    (by decide : Text.normalize (.detect literalCode) negatedCode = negatedCode)

/-- The file with these lines is none that the history is entered into. -/
theorem leaves_twoLines : lineSetting.surroundings.ledger.Leaves
    ((Path.ofString "two.tsx").locate []) (linePlan.bytes literalCode) where
  log := by decide
  store hstore := absurd hstore (by decide)

/-- A dry run on these lines and the injection after it end well. -/
theorem code_twoLines :
    (rehearse lineSetting .machine (lineOptions "two.tsx") (lineBench ["two.tsx"])).bench =
        lineBench ["two.tsx"] ∧
      (rehearse lineSetting .machine (lineOptions "two.tsx") (lineBench ["two.tsx"])).status.code =
        0 ∧
      (enact lineSetting .machine (lineOptions "two.tsx") (lineBench ["two.tsx"])).status.code =
        0 := by
  have hfile : (Path.ofString "two.tsx").toString = "two.tsx" := by decide
  have hvalues := values_lineDisk ["two.tsx"] rfl rfl
  have hrehearse := rehearse_lineBench hvalues hfile detect_twoLines locate_twoLines rfl
  obtain ⟨b', hwrite⟩ := replace_twoLines hvalues
  obtain ⟨b'', -, hcarry⟩ := carryOut_lineBench hfile locate_twoLines rfl hwrite
  rw [hrehearse, enact_lineBench hvalues hfile detect_twoLines locate_twoLines rfl hcarry]
  exact ⟨Ending.bench_present _ _, Ending.code_well (by decide +kernel),
    Ending.code_well (by decide +kernel)⟩

end Sabotage.Command
