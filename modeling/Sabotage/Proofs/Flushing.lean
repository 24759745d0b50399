import Sabotage.Proofs.Counts
import Sabotage.Proofs.Failures
import Sabotage.Proofs.Waiting

/-!
# What a flush hands over

Processing a file goes on after nearly everything that can happen to it. It stops the watcher only
for a name with a NUL character, and for a new content that parses while a weight is set that is too
large for a float (`Watcher.Stops`, `process_fails_iff`). All paths that are due stop waiting before
the first of them is processed, so that those behind a path at which the watcher stops are neither
handed over nor wait any longer: `flush_drops_iff` says that no others are dropped.
-/

namespace Sabotage

/-- A text in a known language is never refused for its language. -/
theorem inject_ne_unsupported {σ : Type} [WordSource σ] (parser : Parser) {r : InjectionRequest}
    {language : Language} (h : r.language = .ok language) (s : σ) (name : String) :
    (inject parser r s).1 ≠ .error (.unsupported name) := by
  have hrun (applied : List BugKind) (d : Draft) :
      Injection.ofRun r.code language applied d ≠ .error (.unsupported name) := by
    intro hrun
    rw [Injection.ofRun] at hrun
    split at hrun
    · cases hrun
    · split at hrun
      · next hrender =>
        cases hrun
        rw [Draft.render] at hrender
        split at hrender
        · cases hrender
        · split at hrender <;> cases hrender
      · cases hrun
  intro hinject
  rw [inject, h] at hinject
  dsimp only at hinject
  split at hinject
  · cases hinject
  · split at hinject
    · cases hinject
    · cases hinject
    · exact hrun _ _ hinject

/-- Just a path with a NUL character in it is a bad name to read a text from. -/
theorem Disk.readText_eq_badName {d : Disk} {here : Location} {path : String} :
    d.readText here path = .error (.disk .badName) ↔ '\x00' ∈ path.toList := by
  constructor
  · intro hbad
    by_contra hname
    rw [readText] at hbad
    split at hbad
    · next herror =>
      cases hbad
      exact read_ne_badName hname herror
    · split at hbad <;> cases hbad
  · intro hname
    have hnul : path.contains '\x00' = true := by simpa [String.contains_char_eq] using hname
    simp [readText, read, find, locate, hnul]

namespace Watch

variable {μ τ σ : Type} [WordSource σ]

namespace Watcher
variable {w : Watcher μ τ} {s : WatchState μ τ σ} {path content : String}

/-! ## What stops a watcher -/

/-- The number of bugs for a save is at least one. -/
theorem one_le_drawBudget (w : Watcher μ τ) (random : σ) : 1 ≤ (w.drawBudget random).1 := by
  obtain ⟨hne, -, hbounds⟩ := w.settings.bugsPerSave_usable
  rw [drawBudget]
  cases hchoices : w.settings.bugsPerSave with
  | nil => exact absurd hchoices hne
  | cons first rest =>
    rw [hchoices] at hbounds
    have hlt : (WordSource.below (rest.length + 1) random).1 < (first :: rest).length :=
      WordSource.below_lt (Nat.succ_pos _) random
    have hpick : (WordSource.pick first rest random).1 ∈ first :: rest := by
      change (first :: rest).getD (WordSource.below (rest.length + 1) random).1 first ∈ _
      rw [List.getD_eq_getElem _ _ hlt]
      exact List.getElem_mem hlt
    exact (hbounds _ hpick).1

omit [WordSource σ] in
/-- Nothing that follows an injection stops the watcher. -/
theorem conclude_ne_error (hname : '\x00' ∉ path.toList) (i : Injection) (e : WatchError) :
    (w.conclude path i s).1 ≠ .error e := by
  have hreplace : ∀ (s : WatchState μ τ σ) (e : DiskError),
      s.bench.replace s.trouble w.editor path i.code ≠ .error e := by
    intro s e hreplace
    rw [Workbench.replace] at hreplace
    split at hreplace
    · next herror => exact Editor.write_ne_error hname _ herror
    · cases hreplace
  intro hconclude
  rw [conclude] at hconclude
  split at hconclude
  · cases hconclude
  · split at hconclude
    · next hwritten =>
      rw [writeBack] at hwritten
      split at hwritten
      · next herror => exact hreplace _ _ herror
      · cases hwritten
      · cases hwritten
    · cases hconclude
    · cases hconclude

/-- Putting bugs into a content stops the watcher when the content parses and a weight is too
large. -/
theorem sabotage_fails_iff (hp : w.parser.WellFormed) (hb : w.parser.BracesBlocks)
    (hname : '\x00' ∉ path.toList) :
    (∃ e, (w.sabotage path content s).1 = .error e) ↔
      (∃ d, Draft.parse w.parser (.detect path) (some path) content = .ok d) ∧
      ∃ entry ∈ catalog (w.settings.get "mutation.weights"), entry.weight.IsHuge := by
  have hbudget := w.one_le_drawBudget s.random
  simp only [sabotage]
  generalize w.drawBudget s.random = drawn at hbudget
  obtain ⟨budget, random⟩ := drawn
  have hlanguage : (w.request path content budget).language = .ok (.detect path) := rfl
  cases hparse : Draft.parse w.parser (.detect path) (some path) content with
  | error failure =>
    have hinject : (inject w.parser (w.request path content budget) random).1 =
        .error (.parse failure) := by
      rw [inject, hlanguage]
      dsimp only [request] at hparse ⊢
      rw [hparse]
    simp [hinject]
  | ok d =>
    by_cases hhuge : ∃ entry ∈ catalog (w.settings.get "mutation.weights"), entry.weight.IsHuge
    · have hinject := inject_tooLarge (r := w.request path content budget) hhuge
        (by exact hbudget) hlanguage hparse random
      rw [hinject]
      exact iff_of_true ⟨_, rfl⟩ ⟨⟨d, rfl⟩, hhuge⟩
    · refine iff_of_false ?_ fun h => hhuge h.2
      rintro ⟨e, he⟩
      have hunknown := inject_ne_unsupported w.parser hlanguage random
      have hdocumented (e : InjectionError) :=
        @isDocumented_of_inject σ _ w.parser (w.request path content budget) hp hb
          (.inl fun entry hentry hlarge => hhuge ⟨entry, hentry, hlarge⟩) random
          (inject w.parser (w.request path content budget) random).2 e
      cases hresult : inject w.parser (w.request path content budget) random with
      | mk result random' =>
        rw [hresult] at he hunknown hdocumented
        cases result with
        | ok i => exact conclude_ne_error hname i _ he
        | error failure =>
          have hdocumented := hdocumented failure rfl
          cases failure with
          | parse failure => cases he
          | unparsable line => cases he
          | unsupported name => exact hunknown name rfl
          | weight e => exact hdocumented
          | draft e => exact hdocumented

variable [DecidableEq μ]

/-- What makes processing a path stop the watcher: a NUL character in its name, or a weight that is
too large when a new content is found there that parses. -/
def Stops (w : Watcher μ τ) (path : String) (s : WatchState μ τ σ) : Prop :=
  '\x00' ∈ path.toList ∨ ∃ content d, s.bench.disk.readText w.here path = .ok content ∧
    w.isNew path content s = true ∧
    Draft.parse w.parser (.detect path) (some path) content = .ok d ∧
    ∃ entry ∈ catalog (w.settings.get "mutation.weights"), entry.weight.IsHuge

/-- Processing a path stops the watcher for no other reason. -/
theorem process_fails_iff (hp : w.parser.WellFormed) (hb : w.parser.BracesBlocks) :
    (∃ e, (w.process path s).1 = .error e) ↔ w.Stops path s := by
  by_cases hname : '\x00' ∈ path.toList
  · rw [process, Disk.readText_eq_badName.2 hname]
    exact iff_of_true ⟨_, rfl⟩ (.inl hname)
  · rw [process, Stops, or_iff_right hname]
    split
    · next hread => exact absurd (Disk.readText_eq_badName.1 hread) hname
    · next hread => simp [hread]
    · next content hread =>
      rw [react_eq]
      split
      · next hnew =>
        rw [sabotage_fails_iff hp hb hname]
        constructor
        · rintro ⟨⟨d, hparse⟩, hhuge⟩
          exact ⟨content, d, hread, hnew, hparse, hhuge⟩
        · rintro ⟨content', d, hread', -, hparse, hhuge⟩
          obtain rfl : content = content' := by
            rw [hread] at hread'
            exact Except.ok.inj hread'
          exact ⟨⟨d, hparse⟩, hhuge⟩
      · next hold =>
        refine iff_of_false (by simp) ?_
        rintro ⟨content', d, hread', hnew, -⟩
        obtain rfl : content = content' := by
          rw [hread] at hread'
          exact Except.ok.inj hread'
        exact hold hnew

/-! ## Where processing stops -/

/-- Processing paths in order stops the watcher at one of them, before the ones left. -/
inductive Leaves (w : Watcher μ τ) : List String → WatchState μ τ σ → List String → Prop
  | here {path : String} {left : List String} {s : WatchState μ τ σ} (h : w.Stops path s) :
    Leaves w (path :: left) s left
  | later {path : String} {rest left : List String} {s s' : WatchState μ τ σ}
    {result : Option Injection} (hprocess : w.process path s = (.ok result, s'))
    (h : Leaves w rest s' left) : Leaves w (path :: rest) s left

/-- Processing paths in order either goes through, or stops the watcher and leaves some. -/
theorem processAll_cases (hp : w.parser.WellFormed) (hb : w.parser.BracesBlocks)
    (paths : List String) (s : WatchState μ τ σ) :
    ((w.processAll paths s).1 = .ok () ∧ ∀ left, ¬w.Leaves paths s left) ∨
      (∃ e, (w.processAll paths s).1 = .error e) ∧
        ∃ left, ∀ other, w.Leaves paths s other ↔ other = left := by
  induction paths generalizing s with
  | nil =>
    refine .inl ⟨rfl, fun left h => ?_⟩
    cases h
  | cons path rest ih =>
    have hstops : (∃ e, (w.process path s).1 = .error e) ↔ w.Stops path s :=
      process_fails_iff hp hb
    cases hprocess : w.process path s with
    | mk result s' =>
      rw [hprocess] at hstops
      rw [processAll, hprocess]
      cases result with
      | error e =>
        have hhere : w.Stops path s := hstops.1 ⟨e, rfl⟩
        refine .inr ⟨⟨e, rfl⟩, rest, fun other => ⟨fun h => ?_, fun h => h ▸ .here hhere⟩⟩
        cases h with
        | here _ => rfl
        | later hother _ =>
          rw [hprocess] at hother
          cases hother
      | ok result =>
        have hgoes : ¬w.Stops path s := by simp [← hstops]
        have hleaves (left : List String) :
            w.Leaves (path :: rest) s left ↔ w.Leaves rest s' left := by
          refine ⟨fun h => ?_, .later hprocess⟩
          cases h with
          | here h => exact absurd h hgoes
          | later hother h =>
            rw [hprocess] at hother
            cases hother
            exact h
        simp only [hleaves]
        exact ih s'

/-- All paths up to the one at which the watcher stops are handed over. -/
theorem handedAll_append (hp : w.parser.WellFormed) (hb : w.parser.BracesBlocks)
    {paths left : List String} (h : w.Leaves paths s left) :
    w.handedAll paths s ++ left = paths := by
  induction h with
  | here h =>
    obtain ⟨e, he⟩ := (process_fails_iff hp hb).2 h
    rw [handedAll]
    split
    · rfl
    · next hprocess =>
      rw [hprocess] at he
      cases he
  | later hprocess _ ih => rw [handedAll, hprocess, List.cons_append, ih]

/-- Where some are left, the watcher is stopped by one of the paths. -/
theorem exists_stops_of_leaves {paths left : List String} (h : w.Leaves paths s left) :
    ∃ path ∈ paths, ∃ s' : WatchState μ τ σ, w.Stops path s' := by
  induction h with
  | here h => exact ⟨_, List.mem_cons_self, _, h⟩
  | later _ _ ih =>
    obtain ⟨path, hpath, hstops⟩ := ih
    exact ⟨path, List.mem_cons_of_mem _ hpath, hstops⟩

/-- Processing paths does not touch what waits, wherever it stops. -/
theorem pending_processAll (w : Watcher μ τ) (paths : List String) (s : WatchState μ τ σ) :
    (w.processAll paths s).2.pending = s.pending := by
  induction paths generalizing s with
  | nil => rfl
  | cons path rest ih =>
    have hpending := w.pending_process path s
    rw [processAll]
    split
    · next hprocess =>
      rw [hprocess] at hpending
      exact hpending
    · next hprocess =>
      rw [hprocess] at hpending
      exact (ih _).trans hpending

/-! ## Flushes -/

section
variable [Sub τ] [LE τ] [DecidableLE τ]

/-- The paths that are due at a flush. -/
def due (w : Watcher μ τ) (force : Bool) (now : τ) (s : WatchState μ τ σ) : List String :=
  (s.pending.take fun time => force || Pending.quietFor w.delay now time).1

/-- The state in which a flush begins to process them. -/
def taken (w : Watcher μ τ) (force : Bool) (now : τ) (s : WatchState μ τ σ) : WatchState μ τ σ :=
  { s with pending :=
      (s.pending.take fun time => force || Pending.quietFor w.delay now time).2 }

/-- A flush drops a path that waits when it no longer does then, although it is not handed over. -/
def Drops (w : Watcher μ τ) (force : Bool) (now : τ) (s : WatchState μ τ σ) (path : String) :
    Prop :=
  path ∈ s.pending.paths ∧ path ∉ (w.flush force now s).2.pending.paths ∧
    path ∉ w.handedOver force now s

variable {force : Bool} {now : τ}

/-- A flush processes the paths that are due. -/
theorem flush_eq (w : Watcher μ τ) (force : Bool) (now : τ) (s : WatchState μ τ σ) :
    w.flush force now s =
      ((w.processAll (w.due force now s) (w.taken force now s)).1.map fun _ =>
        (w.due force now s).length,
        (w.processAll (w.due force now s) (w.taken force now s)).2) := by
  simp only [flush, flushWhere, due, taken]
  split <;> next hprocess => rw [hprocess]; rfl

/-- A path that waits stops waiting exactly when it is due. -/
theorem mem_pending_flush (hdistinct : s.pending.paths.Nodup) (hwaits : path ∈ s.pending.paths) :
    path ∉ (w.flush force now s).2.pending.paths ↔ path ∈ w.due force now s := by
  obtain ⟨time, htime⟩ := Pending.mem_paths.1 hwaits
  rw [flush_eq, pending_processAll, taken, due]
  generalize (fun time => force || Pending.quietFor w.delay now time) = isDue
  rw [Pending.mem_take hdistinct, Pending.mem_paths, Pending.since?_take hdistinct, htime]
  cases hdue : isDue time <;> simp [hdue, Option.filter]

/-- A path that is due is dropped unless it is handed over. -/
theorem drops_iff (hdistinct : s.pending.paths.Nodup) :
    w.Drops force now s path ↔ path ∈ w.due force now s ∧ path ∉ w.handedOver force now s := by
  rw [Drops, ← and_assoc]
  refine and_congr_left fun _ => ⟨fun h => (mem_pending_flush hdistinct h.1).1 h.2, fun hdue => ?_⟩
  obtain ⟨time, htime, -⟩ := (Pending.mem_take hdistinct).1 hdue
  have hwaits : path ∈ s.pending.paths := Pending.mem_paths.2 ⟨time, htime⟩
  exact ⟨hwaits, (mem_pending_flush hdistinct hwaits).2 hdue⟩

/-- A flush drops the paths that are left where processing those that are due stops the watcher, and
no others. It is stopped exactly when processing is; when no weight is too large and no path that is
due has a NUL character in its name, it goes through and drops nothing. -/
theorem flush_drops_iff (hp : w.parser.WellFormed) (hb : w.parser.BracesBlocks)
    (hdistinct : s.pending.paths.Nodup) (force : Bool) (now : τ) :
    ((∃ e, (w.flush force now s).1 = .error e) ↔
      ∃ left, w.Leaves (w.due force now s) (w.taken force now s) left) ∧
    (∀ path, w.Drops force now s path ↔
      ∃ left, w.Leaves (w.due force now s) (w.taken force now s) left ∧ path ∈ left) ∧
    ((∀ entry ∈ catalog (w.settings.get "mutation.weights"), ¬entry.weight.IsHuge) →
      (∀ path ∈ w.due force now s, '\x00' ∉ path.toList) →
      (w.flush force now s).1 = .ok (w.due force now s).length ∧
        ∀ path, ¬w.Drops force now s path) := by
  have hhanded : w.handedOver force now s =
      w.handedAll (w.due force now s) (w.taken force now s) := rfl
  simp only [flush_eq, drops_iff hdistinct, hhanded]
  obtain ⟨hok, hnone⟩ | ⟨⟨e, he⟩, left, hleft⟩ :=
    processAll_cases hp hb (w.due force now s) (w.taken force now s)
  · -- All that is due is handed over.
    have hall := (w.processAll_eq_ok (Prod.ext hok rfl)).1
    simp only [hok, hall, hnone]
    exact ⟨by simp [Except.map], fun path => iff_of_false (fun h => h.2 h.1) (by simp),
      fun _ _ => ⟨rfl, fun path h => h.2 h.1⟩⟩
  · have hleaves := (hleft left).2 rfl
    have happend := handedAll_append hp hb hleaves
    have hnodup : (w.due force now s).Nodup := (Pending.nodup_take hdistinct).1
    rw [← happend, List.nodup_append] at hnodup
    refine ⟨iff_of_true ⟨e, by rw [he]; rfl⟩ ⟨left, hleaves⟩, fun path => ?_,
      fun hsmall hnames => ?_⟩
    · have hdue : path ∈ w.due force now s ↔
          path ∈ w.handedAll (w.due force now s) (w.taken force now s) ∨ path ∈ left := by
        rw [← List.mem_append, happend]
      simp only [hleft, exists_eq_left, hdue]
      constructor
      · rintro ⟨hdue, hnot⟩
        exact hdue.resolve_left hnot
      · exact fun hmem => ⟨.inr hmem, fun hhands => hnodup.2.2 path hhands path hmem rfl⟩
    · obtain ⟨path, hdue, s', hname | ⟨-, -, -, -, -, entry, hentry, hhuge⟩⟩ :=
        exists_stops_of_leaves hleaves
      · exact absurd hname (hnames path hdue)
      · exact absurd hhuge (hsmall entry hentry)

end

end Watcher

/-! ## Two saves under a heavy weight -/

/-- Settings with these weights. -/
def weightSettings (weights : Json) : Settings :=
  ⟨⟨[], "", ""⟩, [("mutation", .obj [("weights", weights)])]⟩

/-- The weights are found. -/
theorem get_weightSettings (weights : Json) :
    (weightSettings weights).get "mutation.weights" = weights := by
  have hpath : Settings.keyPath "mutation.weights" = ["mutation", "weights"] := by cbv
  rw [Settings.get, Settings.get?, hpath]
  rfl

/-- A watcher under a weight that is too large. -/
def heavyWatcher : Watcher String Int :=
  ⟨literalParser, [], [], weightSettings heavyWeights, literalEditor, none, id, 2, none⟩

/-- The same watcher under the default weights. -/
def lightWatcher : Watcher String Int :=
  { heavyWatcher with settings := weightSettings .null }

/-- Two empty files. -/
def emptyFiles : Disk :=
  ⟨[(["a.js"], .file []), (["b.js"], .file [])]⟩

/-- The state in which both are saved. -/
def emptySaves : WatchState String Int MersenneTwister :=
  let fresh : WatchState String Int MersenneTwister :=
    .start ⟨emptyFiles, ⟨0, 1⟩, ⟨0, 1⟩, 0⟩ (MersenneTwister.ofSeed 7)
  { fresh with pending := ⟨[("/a.js", 0), ("/b.js", 0)]⟩ }

/-- No path waits twice. -/
theorem nodup_emptySaves : emptySaves.pending.paths.Nodup := by
  change ["/a.js", "/b.js"].Nodup
  decide

/-- Both are due. -/
theorem due_emptySaves : heavyWatcher.due true 0 emptySaves = ["/a.js", "/b.js"] := rfl

/-- The first of them stops the watcher. -/
theorem leaves_emptySaves : heavyWatcher.Leaves (heavyWatcher.due true 0 emptySaves)
    (heavyWatcher.taken true 0 emptySaves) ["/b.js"] := by
  have hread : emptyFiles.readText [] "/a.js" = .ok "" := by cbv
  have hparse : Draft.parse literalParser (.detect "/a.js") (some "/a.js") "" =
      .ok ⟨.detect "/a.js", some "/a.js", [], ⟨"program", true, false, 0, 0, none, []⟩, 0⟩ := by
    cbv
  have hhuge : ∃ entry ∈ catalog (heavyWatcher.settings.get "mutation.weights"),
      entry.weight.IsHuge := by
    rw [heavyWatcher, get_weightSettings]
    exact ⟨_, mem_catalog_heavyWeights, isHuge_heavy⟩
  exact .here (.inr ⟨"", _, hread, rfl, hparse, hhuge⟩)

/-- A flush is stopped then; under the default weights it goes through and drops neither. -/
theorem flush_drops_emptySaves :
    literalParser.WellFormed ∧ literalParser.BracesBlocks ∧ emptySaves.pending.paths.Nodup ∧
      (∃ e, (heavyWatcher.flush true 0 emptySaves).1 = .error e) ∧
      (lightWatcher.flush true 0 emptySaves).1 = .ok 2 ∧
      ∀ path, ¬lightWatcher.Drops true 0 emptySaves path := by
  obtain ⟨hstopped, -, -⟩ := Watcher.flush_drops_iff (w := heavyWatcher) wellFormed_literalParser
    bracesBlocks_literalParser nodup_emptySaves true 0
  obtain ⟨-, -, hgoes⟩ := Watcher.flush_drops_iff (w := lightWatcher) wellFormed_literalParser
    bracesBlocks_literalParser nodup_emptySaves true 0
  have hlight : ∀ entry ∈ catalog (lightWatcher.settings.get "mutation.weights"),
      ¬entry.weight.IsHuge := by
    rw [lightWatcher, get_weightSettings]
    decide +kernel
  obtain ⟨hcount, hnone⟩ := hgoes hlight (by
    rw [show lightWatcher.due true 0 emptySaves = ["/a.js", "/b.js"] from rfl]
    decide)
  exact ⟨wellFormed_literalParser, bracesBlocks_literalParser, nodup_emptySaves,
    hstopped.2 ⟨_, leaves_emptySaves⟩, hcount, hnone⟩

/-- Under the heavy weight the second file is dropped. -/
theorem drops_emptySaves : heavyWatcher.Drops true 0 emptySaves "/b.js" := by
  have happend := Watcher.handedAll_append wellFormed_literalParser bracesBlocks_literalParser
    leaves_emptySaves
  have hhanded : heavyWatcher.handedOver true 0 emptySaves = ["/a.js"] :=
    (List.append_left_inj ["/b.js"]).1 happend
  rw [Watcher.drops_iff nodup_emptySaves, due_emptySaves, hhanded]
  decide

end Watch

end Sabotage
