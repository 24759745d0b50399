import Sabotage.Proofs.Replacing
import Sabotage.Watch.Watcher

/-!
# What a watcher reacts to

A watcher reacts to a content exactly when it is not the latest it came in contact with at its path,
by reading it there or by handing it to the editor (`process_of_reached`). Two memories decide this,
the guard and the marks last seen; in every state that a watcher reaches they agree with the
contents it came in contact with (`Agrees`), whatever becomes of the disk in between and of the
writes of the watcher itself.
-/

namespace Sabotage.Watch

variable {μ τ σ : Type}

namespace Watcher

/-- A content read at a path: it is the one last seen, and an edit under way is over. -/
def saw (w : Watcher μ τ) (path content : String) (s : WatchState μ τ σ) : WatchState μ τ σ :=
  w.see path content { s with guard := s.guard.abort path }

/-- The content that an injection hands to the editor, once it is written. -/
def delivered (w : Watcher μ τ) (path : String) (i : Injection) (s : WatchState μ τ σ) :
    Table String String :=
  if i.nothingToBreak then []
  else
    match s.bench.replace s.trouble w.editor path i.code with
    | .ok (written, _) => if written.success then [(path, i.code)] else []
    | .error _ => []

section
variable [WordSource σ]

/-- The content handed to the editor, once it is written, when bugs are put into a content. -/
def handed (w : Watcher μ τ) (path content : String) (s : WatchState μ τ σ) :
    Table String String :=
  let (budget, random) := w.drawBudget s.random
  match (inject w.parser (w.request path content budget) random).1 with
  | .ok i => w.delivered path i s
  | .error _ => []

variable [DecidableEq μ]

/-- Whether a content found at a path is put bugs into: it is not our own, and not the one last seen
there. -/
def isNew (w : Watcher μ τ) (path content : String) (s : WatchState μ τ σ) : Bool :=
  s.guard.isForeign path (w.mark content) && Table.lookup path s.lastSeen != some (w.mark content)

/-- The contents that processing a path comes in contact with, the latest first: the one read there
and, after it, the one handed to the editor. -/
def contacts (w : Watcher μ τ) (path : String) (s : WatchState μ τ σ) : Table String String :=
  match s.bench.disk.readText w.here path with
  | .error _ => []
  | .ok content =>
    (if w.isNew path content s then w.handed path content s else []) ++ [(path, content)]

/-- The contents that processing paths in order comes in contact with, the latest first. -/
def contactsAll (w : Watcher μ τ) : List String → WatchState μ τ σ → Table String String
  | [], _ => []
  | path :: rest, s =>
    match w.process path s with
    | (.error _, _) => w.contacts path s
    | (.ok _, s') => w.contactsAll rest s' ++ w.contacts path s

end

end Watcher

/-- The states that a watcher reaches, with the contents it came in contact with, the latest first.
The disk and the clocks change in any way from outside, and so does what becomes of the writes;
events come in at any time, and a flush processes any of the paths that wait. -/
inductive Reached [WordSource σ] [DecidableEq μ] (w : Watcher μ τ) :
    WatchState μ τ σ → Table String String → Prop
  | start (bench : Workbench) (random : σ) : Reached w (.start bench random) []
  | outside {s : WatchState μ τ σ} {log : Table String String} (bench : Workbench)
      (trouble : Trouble) : Reached w s log → Reached w { s with bench, trouble } log
  | track {s : WatchState μ τ σ} {log : Table String String} (event : FileEvent) (now : τ) :
      Reached w s log → Reached w (w.track event now s) log
  | process {s : WatchState μ τ σ} {log : Table String String} (path : String) :
      Reached w s log → Reached w (w.process path s).2 (w.contacts path s ++ log)
  | flush {s : WatchState μ τ σ} {log : Table String String} (isDue : τ → Bool) :
      Reached w s log → Reached w (w.flushWhere isDue s).2
        (w.contactsAll (s.pending.take isDue).1 { s with pending := (s.pending.take isDue).2 } ++
          log)

/-- The memories of a watcher agree with the contents it came in contact with: last seen at a path
is the mark of the latest content, and the guard expects nothing else there. -/
structure Agrees (w : Watcher μ τ) (s : WatchState μ τ σ) (log : Table String String) : Prop where
  seen : ∀ path, Table.lookup path s.lastSeen = (Table.lookup path log).map w.mark
  expected : ∀ path mark, s.guard.expected? path = some mark →
    Table.lookup path s.lastSeen = some mark

namespace Watcher
variable {w : Watcher μ τ} {s : WatchState μ τ σ} {path : String} {i : Injection}

/-! ## Writing back -/

/-- Remembering an injection leaves both memories alone. -/
theorem remember_memories (w : Watcher μ τ) (path : String) (i : Injection)
    (s : WatchState μ τ σ) :
    (w.remember path i s).guard = s.guard ∧ (w.remember path i s).lastSeen = s.lastSeen := by
  rw [remember]
  split <;> exact ⟨rfl, rfl⟩

/-- Asking the commentary service leaves both memories alone. -/
theorem taunt_memories (w : Watcher μ τ) (bugs : List BugKind) (s : WatchState μ τ σ) :
    (w.taunt bugs s).guard = s.guard ∧ (w.taunt bugs s).lastSeen = s.lastSeen := by
  rw [taunt]
  split <;> exact ⟨rfl, rfl⟩

/-- Concluding an injection with bugs at a path without a NUL character hands its content to the
editor. When it is written, it is the one last seen and the guard expects it; when it is not, the
guard expects nothing at the path. -/
theorem conclude_eq (hname : '\x00' ∉ path.toList) (hbugs : i.nothingToBreak = false) :
    ∃ success : Bool, w.delivered path i s = (if success then [(path, i.code)] else []) ∧
      (w.conclude path i s).2.guard = (if success then s.guard.begin path (w.mark i.code)
        else (s.guard.begin path (w.mark i.code)).abort path) ∧
      (w.conclude path i s).2.lastSeen = (if success then
        Table.assign path (w.mark i.code) s.lastSeen else s.lastSeen) := by
  have hreplace : ∃ result, s.bench.replace s.trouble w.editor path i.code = .ok result := by
    rw [Workbench.replace]
    split
    · next e herror => exact absurd herror (Editor.write_ne_error hname e)
    · exact ⟨_, rfl⟩
  obtain ⟨⟨⟨success, backup?⟩, bench⟩, hreplace⟩ := hreplace
  refine ⟨success, by simp [delivered, hbugs, hreplace], ?_⟩
  cases success with
  | false => simp [conclude, writeBack, hreplace, hbugs]
  | true => simp [conclude, writeBack, hreplace, hbugs, taunt_memories, remember_memories, see]

/-- A watcher reacts to a content by putting bugs into it when it is new, and leaves it alone
otherwise. -/
theorem react_eq [WordSource σ] [DecidableEq μ] (w : Watcher μ τ) (path content : String)
    (s : WatchState μ τ σ) :
    w.react path content s =
      if w.isNew path content s then w.sabotage path content (w.saw path content s)
      else (.ok none, w.saw path content s) := by
  by_cases hforeign : s.guard.isForeign path (w.mark content) = true <;>
    by_cases hseen : Table.lookup path s.lastSeen = some (w.mark content) <;>
      simp [react, Guard.observe, isNew, saw, hforeign, hseen]

/-- Nothing is handed over while the editor cannot read. -/
theorem handed_eq_nil [WordSource σ] (htrouble : s.trouble .read ≠ .done) (content : String) :
    w.handed path content s = [] := by
  have hdelivered (i : Injection) : w.delivered path i s = [] := by
    simp [delivered, Workbench.replace, Editor.write, htrouble]
  simp only [handed]
  split
  · exact hdelivered _
  · rfl

end Watcher

namespace Agrees
variable {w : Watcher μ τ} {s s' : WatchState μ τ σ} {log : Table String String}
  {path content : String}

/-- A watcher that begins has not come in contact with anything. -/
theorem start (w : Watcher μ τ) (bench : Workbench) (random : σ) :
    Agrees w (.start bench random) [] :=
  ⟨fun _ => rfl, nofun⟩

/-- Only the guard and the marks last seen matter. -/
theorem congr (h : Agrees w s log) (hguard : s'.guard = s.guard)
    (hseen : s'.lastSeen = s.lastSeen) : Agrees w s' log :=
  ⟨by rw [hseen]; exact h.seen, by rw [hseen, hguard]; exact h.expected⟩

/-- Memories that agree still do when a content becomes the latest at a path, if it is the one seen
there and the guard, which is left alone elsewhere, expects nothing else. -/
theorem cons (h : Agrees w s log)
    (hlast : s'.lastSeen = Table.assign path (w.mark content) s.lastSeen)
    (hhere : ∀ mark, s'.guard.expected? path = some mark → mark = w.mark content)
    (helse : ∀ other, other ≠ path → s'.guard.expected? other = s.guard.expected? other) :
    Agrees w s' ((path, content) :: log) := by
  refine ⟨fun other => ?_, fun other mark hmark => ?_⟩ <;> rw [hlast]
  · by_cases hother : path = other
    · subst hother
      simp [Table.lookup]
    · simp [Table.lookup, hother, Table.lookup_assign_of_ne (Ne.symm hother), h.seen]
  · by_cases hother : other = path
    · subst hother
      rw [Table.lookup_assign, hhere mark hmark]
    · rw [Table.lookup_assign_of_ne hother]
      exact h.expected other mark (helse other hother ▸ hmark)

/-- Reading a content. -/
theorem saw (h : Agrees w s log) (path content : String) :
    Agrees w (w.saw path content s) ((path, content) :: log) := by
  refine h.cons rfl (fun mark hmark => ?_) fun other hother => ?_
  · simp [Watcher.saw, Watcher.see] at hmark
  · exact Guard.expected?_abort_of_ne hother s.guard

/-- Concluding an injection. -/
theorem conclude (h : Agrees w s log) (hname : '\x00' ∉ path.toList) (i : Injection) :
    Agrees w (w.conclude path i s).2 (w.delivered path i s ++ log) := by
  by_cases hbugs : i.nothingToBreak = true
  · simpa [Watcher.conclude, Watcher.delivered, hbugs] using h
  obtain ⟨success, hdelivered, hguard, hseen⟩ :=
    Watcher.conclude_eq (w := w) (s := s) hname (Bool.eq_false_iff.2 hbugs)
  rw [hdelivered]
  cases success with
  | true =>
    refine h.cons hseen (fun mark hmark => ?_) fun other hother => ?_
    · rw [hguard, if_pos rfl, Guard.expected?_begin] at hmark
      exact (Option.some.inj hmark).symm
    · rw [hguard, if_pos rfl, Guard.expected?_begin_of_ne hother]
  | false =>
    -- What was begun is aborted, so that nothing is expected at the path.
    refine ⟨by rw [hseen]; exact h.seen, fun other mark hmark => ?_⟩
    rw [hguard, if_neg Bool.false_ne_true] at hmark
    rw [hseen, if_neg Bool.false_ne_true]
    by_cases hother : other = path
    · rw [hother, Guard.expected?_abort] at hmark
      cases hmark
    · rw [Guard.expected?_abort_of_ne hother, Guard.expected?_begin_of_ne hother] at hmark
      exact h.expected other mark hmark

/-- Putting bugs into a content, whether it succeeds or not. -/
theorem sabotage [WordSource σ] (h : Agrees w s log) (hname : '\x00' ∉ path.toList)
    (content : String) :
    Agrees w (w.sabotage path content s).2 (w.handed path content s ++ log) := by
  simp only [Watcher.sabotage, Watcher.handed]
  cases (inject w.parser (w.request path content (w.drawBudget s.random).1)
    (w.drawBudget s.random).2).1 with
  | error e => cases e <;> exact h.congr rfl rfl
  | ok i =>
    refine conclude (s := { s with random := _ }) ?_ hname i
    exact h.congr rfl rfl

/-- A content is new when it is not the latest at the path. -/
theorem isNew_iff [DecidableEq μ] (h : Agrees w s log) (hmark : Function.Injective w.mark)
    (path content : String) :
    w.isNew path content s = true ↔ Table.lookup path log ≠ some content := by
  have hseen : Table.lookup path s.lastSeen = some (w.mark content) ↔
      Table.lookup path log = some content := by
    rw [h.seen, Option.map_eq_some_iff]
    exact ⟨fun ⟨latest, hlatest, heq⟩ => hmark heq ▸ hlatest, fun hlatest => ⟨_, hlatest, rfl⟩⟩
  rw [Watcher.isNew, Bool.and_eq_true, bne_iff_ne, Ne, hseen, Guard.isForeign, bne_iff_ne]
  -- A content that the guard expects was last seen.
  exact ⟨And.right, fun hnew => ⟨fun hours => hnew (hseen.1 (h.expected _ _ hours)), hnew⟩⟩

section
variable [WordSource σ] [DecidableEq μ]

/-- Processing a path. -/
theorem process (h : Agrees w s log) (path : String) :
    Agrees w (w.process path s).2 (w.contacts path s ++ log) := by
  cases hread : s.bench.disk.readText w.here path with
  | error e =>
    simp only [Watcher.contacts, Watcher.process, hread]
    split
    · exact h
    · exact h
    · next hok => cases hok
  | ok content =>
    obtain ⟨bytes, hbytes, -⟩ := Disk.readText_eq_ok.1 hread
    obtain ⟨loc, -, hlocate, -⟩ := Disk.read_eq_ok.1 hbytes
    simp only [Watcher.contacts, Watcher.process, hread, Watcher.react_eq]
    rw [List.append_assoc]
    split
    · exact (h.saw path content).sabotage (Disk.not_mem_of_locate hlocate) content
    · exact h.saw path content

/-- Processing paths in order, as far as that goes. -/
theorem processAll (h : Agrees w s log) (paths : List String) :
    Agrees w (w.processAll paths s).2 (w.contactsAll paths s ++ log) := by
  induction paths generalizing s log with
  | nil => exact h
  | cons path rest ih =>
    have hstep := h.process path
    rw [Watcher.processAll, Watcher.contactsAll]
    split
    · next hprocess => simpa [hprocess] using hstep
    · next hprocess =>
      rw [hprocess] at hstep
      simpa [hprocess] using ih hstep

end

end Agrees

section
variable [WordSource σ] [DecidableEq μ] {w : Watcher μ τ} {s : WatchState μ τ σ}
  {log : Table String String}

/-- In every state that a watcher reaches its memories agree. -/
theorem Reached.agrees (h : Reached w s log) : Agrees w s log := by
  induction h with
  | start bench random => exact .start w bench random
  | outside bench trouble _ ih => exact ih.congr rfl rfl
  | track event now _ ih =>
    simp only [Watcher.track]
    split
    · exact ih
    · exact ih.congr rfl rfl
  | process path _ ih => exact ih.process path
  | @flush s log isDue _ ih =>
    have hpending : Agrees w { s with pending := (s.pending.take isDue).2 } log := ih.congr rfl rfl
    have hall := hpending.processAll (s.pending.take isDue).1
    simp only [Watcher.flushWhere]
    split <;> next hprocess => rwa [hprocess] at hall

/-- In every state that a watcher reaches, processing a path puts bugs into the content read there
exactly when it is another than the latest that the watcher read there or handed to the editor, and
the guard expects nothing at a path but what was last seen there. -/
theorem process_of_reached (h : Reached w s log) (hmark : Function.Injective w.mark) :
    (∀ path content, s.bench.disk.readText w.here path = .ok content →
      w.process path s =
        if Table.lookup path log = some content then (.ok none, w.saw path content s)
        else w.sabotage path content (w.saw path content s)) ∧
      ∀ path mark, s.guard.expected? path = some mark →
        Table.lookup path s.lastSeen = some mark := by
  refine ⟨fun path content hread => ?_, h.agrees.expected⟩
  have hnew := h.agrees.isNew_iff hmark path content
  rw [Watcher.process, hread]
  simp only [Watcher.react_eq]
  by_cases hlatest : Table.lookup path log = some content
  · rw [if_pos hlatest, if_neg (mt hnew.1 (not_not_intro hlatest))]
  · rw [if_neg hlatest, if_pos (hnew.2 hlatest)]

end

/-! ## A save that could not be written back -/

/-- The two lines on a disk, and clocks. -/
def literalBench : Workbench :=
  ⟨literalDisk, ⟨0, 1⟩, ⟨0, 1⟩, 0⟩

/-- A watcher whose marks are the contents themselves. -/
def literalWatcher : Watcher String Nat :=
  ⟨literalParser, [], [], ⟨⟨[], "", ""⟩, []⟩, literalEditor, none, id, 0, none⟩

/-- A state in which the editor cannot read. -/
def troubledState : WatchState String Nat MersenneTwister :=
  { WatchState.start literalBench (MersenneTwister.ofSeed 7) with trouble := .at .read }

/-- The state after the two lines are processed then, with the trouble over. -/
def relievedState : WatchState String Nat MersenneTwister :=
  { (literalWatcher.process "two.ts" troubledState).2 with
    bench := literalBench, trouble := .none }

/-- The state in which the editor cannot read is reached at once. -/
theorem reached_troubledState : Reached literalWatcher troubledState [] :=
  (Reached.start literalBench (MersenneTwister.ofSeed 7)).outside literalBench (.at .read)

/-- The two lines are read in both states. -/
theorem readText_literalBench : literalBench.disk.readText [] "two.ts" = .ok literalCode :=
  Disk.readText_eq_ok.2 ⟨_, read_literalDisk, Bytes.toString?_ofString _⟩

/-- All that the watcher comes in contact with then are the two lines. -/
theorem contacts_troubledState :
    literalWatcher.contacts "two.ts" troubledState = [("two.ts", literalCode)] := by
  have hread : troubledState.bench.disk.readText literalWatcher.here "two.ts" = .ok literalCode :=
    readText_literalBench
  have htrouble : troubledState.trouble .read ≠ .done := by
    simp [troubledState, Trouble.at]
  rw [Watcher.contacts, hread]
  simp [Watcher.handed_eq_nil htrouble]

/-- The two lines are not reacted to again, although the bugs put into them were not written. -/
theorem process_relievedState :
    Function.Injective literalWatcher.mark ∧
      Reached literalWatcher relievedState [("two.ts", literalCode)] ∧
      relievedState.bench.disk.readText literalWatcher.here "two.ts" = .ok literalCode ∧
      literalWatcher.process "two.ts" relievedState =
        (.ok none, literalWatcher.saw "two.ts" literalCode relievedState) := by
  have hmark : Function.Injective literalWatcher.mark := Function.injective_id
  have hreached : Reached literalWatcher relievedState [("two.ts", literalCode)] := by
    have hprocess := reached_troubledState.process "two.ts"
    rw [contacts_troubledState] at hprocess
    exact hprocess.outside literalBench .none
  have hprocess := (process_of_reached hreached hmark).1 "two.ts" literalCode readText_literalBench
  refine ⟨hmark, hreached, readText_literalBench, hprocess.trans ?_⟩
  simp [Table.lookup]

end Sabotage.Watch
