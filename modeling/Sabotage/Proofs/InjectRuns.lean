import Sabotage.Command.Run
import Sabotage.Proofs.Growing

/-!
# How the injection command ends

The command ends in one of four ways (`Command.Inject.Ran`): no injection could be planned, the
plan could not be carried out, no taunt could be fetched, or all went well and is reported. Planning
makes the disk grow and nothing else (`Command.Inject.plan_grows`); carrying out does nothing in a
dry run, and otherwise replaces the file and enters the injection into the history
(`Command.Inject.CarriedOut`).
-/

namespace Sabotage

/-- What an editor writes is written on the workbench. -/
theorem Workbench.replace_of_write {b : Workbench} {trouble : Trouble} {editor : Editor}
    {file new : String} {written : Editor.Written} {disk : Disk} {clock : Clock}
    (h : editor.write trouble b.disk b.backupClock file new = .ok ⟨written, disk, clock⟩) :
    b.replace trouble editor file new = .ok (written, { b with disk, backupClock := clock }) := by
  rw [replace, h]

namespace Command

/-- A command whose status is zero has ended well and has said all that it had to say. -/
theorem Ending.halt?_eq_none {e : Ending} {mode : Mode} (h : (e.present mode).status.code = 0) :
    e.halt? = none ∧ (e.present mode).output = (Console.present mode e.said).1 := by
  cases hhalt : e.halt? with
  | none => exact ⟨rfl, by simp [present, hhalt]⟩
  | some halt =>
    simp only [present, hhalt] at h
    split at h
    · cases h
    · cases halt <;> cases h

/-- What a command leaves is left when it has been presented. -/
@[simp] theorem Ending.bench_present (e : Ending) (mode : Mode) :
    (e.present mode).bench = e.bench := rfl

/-- A command that ends well has status zero unless a piece does not come out. -/
theorem Ending.status_well {said : List Piece} {b : Workbench}
    {requests : List Commentary.Request} {mode : Mode}
    (h : ({ Ending.well said b with requests }.present mode).status.code ≠ 0) :
    ∃ e, (Console.present mode said).2 = some e ∧
      ({ Ending.well said b with requests }.present mode).status = .crash (.say e) := by
  cases herror : (Console.present mode said).2 with
  | none => simp [present, well, herror, statusOf, Status.code] at h
  | some e => exact ⟨e, rfl, by simp [present, well, herror]⟩

/-- What a command that ends well has said comes out. -/
theorem Ending.output_well (said : List Piece) (b : Workbench) (mode : Mode) :
    ((Ending.well said b).present mode).output = (Console.present mode said).1 := by
  simp [present, well]

/-- A command that ends well with pieces that come out has status zero. -/
theorem Ending.code_well {said : List Piece} {b : Workbench} {mode : Mode}
    (h : (Console.present mode said).2 = none) :
    ((Ending.well said b).present mode).status.code = 0 := by
  simp [present, well, h, statusOf, Status.code]

/-- A path that has to be a file leads to one. -/
theorem FileDemand.isMet_file {s : Surroundings} {d : Disk} {path : String}
    (h : FileDemand.file.isMet s d path = true) :
    ∃ e, d.locate s.here (Path.ofString path).toString =
        .ok ((Path.ofString path).locate s.here) ∧
      d.occupant? ((Path.ofString path).locate s.here) = some e ∧ e ≠ .directory := by
  rw [isMet, Disk.find] at h
  cases hlocate : d.locate s.here (Path.ofString path).toString with
  | error e => cases e <;> simp [hlocate] at h
  | ok loc =>
    obtain rfl := Disk.locate_toString_eq (Path.normal_ofString path) hlocate
    cases hthere : d.occupant? ((Path.ofString path).locate s.here) with
    | none => simp [hlocate, hthere] at h
    | some e =>
      refine ⟨e, rfl, rfl, ?_⟩
      rintro rfl
      simp [hlocate, hthere] at h

namespace Inject
variable {s : Surroundings} {o : InjectOptions} {mode : Mode} {settings : Settings} {d d' : Disk}
  {b b' : Workbench} {p : InjectPlan} {done : Done} {halt : Halt}

/-! ## Planning -/

/-- Planning leaves the disk as it is or gets the editor ready. -/
theorem plan_disk (s : Surroundings) (o : InjectOptions) (settings : Settings) (d : Disk) :
    (plan s o settings d).2 = d ∨
      (editorOf s settings).prepare d = .ok (plan s o settings d).2 := by
  rw [plan]
  split
  · exact .inl rfl
  · split
    · exact .inl rfl
    · next hprepare =>
      refine .inr ?_
      split
      · exact hprepare
      · exact hprepare
      · exact hprepare

/-- Planning makes the disk grow. -/
theorem plan_grows (s : Surroundings) (o : InjectOptions) (settings : Settings) (d : Disk) :
    d.Grows (plan s o settings d).2 := by
  rcases plan_disk s o settings d with hsame | hprepare
  · rw [hsame]
    exact .refl d
  · exact Editor.prepare_grows hprepare

/-- A plan is made of the settings and of the text of the file, once the editor is ready. -/
theorem plan_eq_ok : plan s o settings d = (.ok p, d') ↔
    requested o settings = .ok p.requested ∧ (editorOf s settings).prepare d = .ok d' ∧
      ∃ code, d'.readText s.here (fileOf o) = .ok code ∧
        (inject s.parser ⟨code, p.requested, none, some (fileOf o), settings.get "mutation.weights"⟩
          (randomOf s o)).1 = .ok p.injection := by
  rw [plan]
  cases hcount : requested o settings with
  | error e => simp
  | ok count =>
    cases hprepare : (editorOf s settings).prepare d with
    | error e => simp
    | ok d₁ =>
      cases hread : d₁.readText s.here (fileOf o) with
      | error e =>
        refine iff_of_false ?_ ?_
        · simp only [hread]
          split <;> simp_all
        · rintro ⟨-, hd, code, hcode, -⟩
          obtain rfl := Except.ok.inj hd
          cases hread.symm.trans hcode
      | ok code =>
        cases hinject : (inject s.parser ⟨code, count, none, some (fileOf o),
            settings.get "mutation.weights"⟩ (randomOf s o)).1 with
        | error e =>
          refine iff_of_false (by simp [hread, planFor, hinject]) ?_
          rintro ⟨hrequested, hd, code', hcode, hinjected⟩
          obtain rfl := Except.ok.inj hd
          obtain rfl := Except.ok.inj (hread.symm.trans hcode)
          rw [← Except.ok.inj hrequested, hinject] at hinjected
          cases hinjected
        | ok i =>
          simp only [hread, planFor, hinject]
          constructor
          · rintro ⟨⟩
            exact ⟨rfl, rfl, code, hread, hinject⟩
          · rintro ⟨hrequested, hd, code', hcode, hinjected⟩
            obtain rfl := Except.ok.inj hd
            obtain rfl := Except.ok.inj (hread.symm.trans hcode)
            rw [← Except.ok.inj hrequested, hinject] at hinjected
            obtain ⟨requested, injection⟩ := p
            cases hrequested
            cases hinjected
            rfl

/-! ## Carrying out -/

/-- What becomes of a plan: nothing is done, the file is not written, or it is and the injection
is entered into the history or cannot be. -/
inductive CarriedOut (s : Surroundings) (o : InjectOptions) (settings : Settings) (p : InjectPlan)
    (b : Workbench) : Except Halt Done × Workbench → Prop where
  | idle : (p.injection.nothingToBreak || o.dryRun) = true →
      CarriedOut s o settings p b (.ok ⟨false, none⟩, b)
  | failed {e : DiskError} :
      (p.injection.nothingToBreak || o.dryRun) = false →
      b.replace .none (editorOf s settings) (fileOf o) p.injection.code = .error e →
      CarriedOut s o settings p b (.error (.crash (.disk e)), b)
  | refused {backup? : Option String} {b' : Workbench} :
      (p.injection.nothingToBreak || o.dryRun) = false →
      b.replace .none (editorOf s settings) (fileOf o) p.injection.code =
        .ok (⟨false, backup?⟩, b') →
      CarriedOut s o settings p b
        (.error (complaint o "WRITE_FAILED" s!"Failed to write {fileOf o}"), b')
  | unrecorded {backup? : Option String} {b' : Workbench} {e : DiskError} :
      (p.injection.nothingToBreak || o.dryRun) = false →
      b.replace .none (editorOf s settings) (fileOf o) p.injection.code =
        .ok (⟨true, backup?⟩, b') →
      remember s o settings p.injection b' = .error e →
      CarriedOut s o settings p b (.error (.crash (.disk e)), b')
  | written {backup? : Option String} {b' b'' : Workbench} :
      (p.injection.nothingToBreak || o.dryRun) = false →
      b.replace .none (editorOf s settings) (fileOf o) p.injection.code =
        .ok (⟨true, backup?⟩, b') →
      remember s o settings p.injection b' = .ok b'' →
      CarriedOut s o settings p b (.ok ⟨true, backup?⟩, b'')

/-- Carrying out a plan ends in one of the ways there are. -/
theorem carriedOut (s : Surroundings) (o : InjectOptions) (settings : Settings) (p : InjectPlan)
    (b : Workbench) : CarriedOut s o settings p b (carryOut s o settings p b) := by
  rw [carryOut]
  split
  · next hidle => exact .idle hidle
  · next hbusy =>
    have hwet := Bool.eq_false_iff.2 hbusy
    split
    · next hreplace => exact .failed hwet hreplace
    · next hreplace => exact .refused hwet hreplace
    · next written b' hne hreplace =>
      obtain ⟨success, backup?⟩ := written
      cases success with
      | false => exact absurd rfl (hne backup?)
      | true =>
        split
        · next hremember => exact .unrecorded hwet hreplace hremember
        · next hremember => exact .written hwet hreplace hremember

/-- A dry run carries nothing out. -/
theorem carryOut_dry (h : o.dryRun = true) : carryOut s o settings p b = (.ok ⟨false, none⟩, b) := by
  simp [carryOut, h]

/-! ## Ending -/

/-- How the command ends: with no plan, with a plan that cannot be carried out, without a taunt, or
with a report. -/
inductive Ran (s : Surroundings) (o : InjectOptions) (mode : Mode) (b : Workbench) :
    Ending → Prop where
  | unplanned {halt : Halt} {d : Disk} :
      plan s o (s.settings b.disk) b.disk = (.error halt, d) →
      Ran s o mode b (.early halt { b with disk := d })
  | undone {p : InjectPlan} {d : Disk} {halt : Halt} {b' : Workbench} :
      plan s o (s.settings b.disk) b.disk = (.ok p, d) →
      carryOut s o (s.settings b.disk) p { b with disk := d } = (.error halt, b') →
      Ran s o mode b (.early halt b')
  | untaunted {p : InjectPlan} {d : Disk} {done : Done} {b' : Workbench}
      {e : Commentary.RoastError} {requests : List Commentary.Request} :
      plan s o (s.settings b.disk) b.disk = (.ok p, d) →
      carryOut s o (s.settings b.disk) p { b with disk := d } = (.ok done, b') →
      taunt s o (s.settings b.disk) p.injection.applied = (.error e, requests) →
      Ran s o mode b { Ending.early (.crash (.commentary e)) b' with requests }
  | reported {p : InjectPlan} {d : Disk} {done : Done} {b' : Workbench}
      {taunt? : Option Text.Spelling} {requests : List Commentary.Request} :
      plan s o (s.settings b.disk) b.disk = (.ok p, d) →
      carryOut s o (s.settings b.disk) p { b with disk := d } = (.ok done, b') →
      taunt s o (s.settings b.disk) p.injection.applied = (.ok taunt?, requests) →
      Ran s o mode b { Ending.well (InjectReport.pieces
        ⟨fileOf o, p, done.success, o.dryRun, done.backup?, taunt?⟩ (o.asValue || mode = .machine))
        b' with requests }

/-- The command ends in one of the ways there are. -/
theorem ran (s : Surroundings) (o : InjectOptions) (mode : Mode) (b : Workbench) :
    Ran s o mode b (run s o mode b) := by
  rw [run]
  rcases hplan : plan s o (s.settings b.disk) b.disk with ⟨halt | p, d⟩
  · exact .unplanned hplan
  · simp only [finish]
    rcases hcarry : carryOut s o (s.settings b.disk) p { b with disk := d } with ⟨halt | done, b'⟩
    · exact .undone hplan hcarry
    · rcases htaunt : taunt s o (s.settings b.disk) p.injection.applied with ⟨e | taunt?, requests⟩
      · exact .untaunted hplan hcarry htaunt
      · exact .reported hplan hcarry htaunt

end Inject

end Command

end Sabotage
