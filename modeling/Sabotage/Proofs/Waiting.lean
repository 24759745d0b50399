import Mathlib.Algebra.Order.Group.Defs
import Sabotage.Proofs.SoundValues
import Sabotage.Proofs.Watching

/-!
# How long saves wait

A path waits from its first save on until a flush hands it over to be processed, and each further
save makes it wait anew. Time is exact here: it adds up, and it never goes back. In every state that
a watcher comes to, the table of what waits agrees with all that was saved and handed over before
(`Waits`), so that a flush hands over each path once, and without force exactly those that wait and
had no save within the delay (`waits_and_handed_of_elapsed`).
-/

namespace Sabotage.Table
variable {κ ν : Type} [DecidableEq κ] {t : Table κ ν}

/-- Of a table of different keys, what is kept is found as before. -/
theorem lookup_filter (h : (keys t).Nodup) (keeps : ν → Bool) (key : κ) :
    lookup key (t.filter fun e => keeps e.2) = (lookup key t).filter keeps := by
  induction t with
  | nil => rfl
  | cons e t ih =>
    obtain ⟨k, v⟩ := e
    obtain ⟨hk, ht⟩ := List.nodup_cons.1 h
    rw [List.filter_cons]
    by_cases hkey : k = key
    · subst hkey
      have hnone : lookup k t = none := by
        rw [← Option.not_isSome_iff_eq_none, isSome_lookup_iff]
        exact hk
      by_cases hv : keeps v = true
      · simp [lookup, hv, Option.filter]
      · simp [lookup, hv, ih ht, hnone, Option.filter]
    · by_cases hv : keeps v = true <;> simp [lookup, hkey, hv, ih ht]

end Sabotage.Table

namespace Sabotage.Watch

variable {μ τ σ : Type}

/-- What befalls a path: it is saved, or handed over to be processed. -/
inductive Turn (τ : Type) where
  | saved (path : String) (time : τ)
  | handed (path : String)
  deriving DecidableEq

/-- The time of a turn that is a save of a path. -/
def Turn.saveOf? (path : String) : Turn τ → Option τ
  | .saved other time => if other = path then some time else none
  | .handed _ => none

/-- Whether a path is handed over by a turn. -/
def Turn.hands (path : String) : Turn τ → Bool
  | .saved _ _ => false
  | .handed other => other == path

/-- The times of the saves of a path among turns. -/
def savesOf (path : String) (turns : List (Turn τ)) : List τ :=
  turns.filterMap (Turn.saveOf? path)

/-- The turns since a path was last handed over, when the latest turn comes first. -/
def sinceHanded (path : String) (turns : List (Turn τ)) : List (Turn τ) :=
  turns.takeWhile fun turn => !turn.hands path

/-- The turn that an event is: the save of its path, unless it is about a directory. -/
def FileEvent.turns (event : FileEvent) (now : τ) : List (Turn τ) :=
  if event.isDirectory then [] else [.saved event.change.path now]

section
variable [WordSource σ] [DecidableEq μ]

namespace Watcher

/-- The paths that are handed over when files are processed in order, down to the first that stops
the watcher. -/
def handedAll (w : Watcher μ τ) : List String → WatchState μ τ σ → List String
  | [], _ => []
  | path :: rest, s =>
    path :: match w.process path s with
      | (.error _, _) => []
      | (.ok _, s) => w.handedAll rest s

/-- The paths that a flush hands over. -/
def handedOver [Sub τ] [LE τ] [DecidableLE τ] (w : Watcher μ τ) (force : Bool) (now : τ)
    (s : WatchState μ τ σ) : List String :=
  let (due, pending) := s.pending.take fun time => force || Pending.quietFor w.delay now time
  w.handedAll due { s with pending }

end Watcher

/-- The states that a watcher comes to, with the time and all turns before, the latest first. Time
goes by, the disk and the clocks change in any way from outside, events come in at any time, and so
do flushes that are not stopped by what they process. -/
inductive Elapsed [Sub τ] [LE τ] [DecidableLE τ] (w : Watcher μ τ) :
    τ → List (Turn τ) → WatchState μ τ σ → Prop
  | start (bench : Workbench) (random : σ) (now : τ) : Elapsed w now [] (.start bench random)
  | pass {now later : τ} {turns : List (Turn τ)} {s : WatchState μ τ σ} (hlater : now ≤ later) :
      Elapsed w now turns s → Elapsed w later turns s
  | outside {now : τ} {turns : List (Turn τ)} {s : WatchState μ τ σ} (bench : Workbench)
      (trouble : Trouble) : Elapsed w now turns s → Elapsed w now turns { s with bench, trouble }
  | track {now : τ} {turns : List (Turn τ)} {s : WatchState μ τ σ} (event : FileEvent) :
      Elapsed w now turns s → Elapsed w now (event.turns now ++ turns) (w.track event now s)
  | flush {now : τ} {turns : List (Turn τ)} {s s' : WatchState μ τ σ} {force : Bool} {n : Nat}
      (hflush : w.flush force now s = (.ok n, s')) : Elapsed w now turns s →
      Elapsed w now (((w.handedOver force now s).map .handed).reverse ++ turns) s'

/-! ## Processing does not touch what waits -/

namespace Watcher
variable (w : Watcher μ τ) (path content : String) (s : WatchState μ τ σ)

omit [WordSource σ] [DecidableEq μ] in
/-- Nothing that follows an injection touches what waits. -/
theorem pending_conclude (i : Injection) : (w.conclude path i s).2.pending = s.pending := by
  have htaunt (bugs : List BugKind) (s : WatchState μ τ σ) :
      (w.taunt bugs s).pending = s.pending := by
    rw [taunt]
    split <;> rfl
  have hremember (s : WatchState μ τ σ) : (w.remember path i s).pending = s.pending := by
    rw [remember]
    split <;> rfl
  have hwrite : (w.writeBack path i s).2.pending = s.pending := by
    rw [writeBack]
    split <;> rfl
  rw [conclude]
  split
  · rfl
  · split <;> next hwritten =>
      simp only [hwritten] at hwrite
      simp [htaunt, hremember, see, hwrite]

omit [DecidableEq μ] in
/-- Putting bugs into a content does not touch what waits. -/
theorem pending_sabotage : (w.sabotage path content s).2.pending = s.pending := by
  simp only [sabotage]
  split
  · rfl
  · rfl
  · rfl
  · exact w.pending_conclude path _ _

/-- Processing a path does not touch what waits. -/
theorem pending_process : (w.process path s).2.pending = s.pending := by
  rw [process]
  split
  · rfl
  · rfl
  · rw [react_eq]
    split
    · rw [pending_sabotage]
      rfl
    · rfl

/-- A path at which nothing is found is passed over. -/
theorem process_of_notFound (h : s.bench.disk.readText w.here path = .error (.disk .notFound)) :
    w.process path s = (.ok none, s) := by
  rw [process, h]

/-- Processing paths that do not stop the watcher hands each of them over and does not touch what
waits. -/
theorem processAll_eq_ok {paths : List String} {s s' : WatchState μ τ σ}
    (h : w.processAll paths s = (.ok (), s')) :
    w.handedAll paths s = paths ∧ s'.pending = s.pending := by
  induction paths generalizing s with
  | nil =>
    cases h
    exact ⟨rfl, rfl⟩
  | cons path rest ih =>
    have hpending := w.pending_process path s
    rw [processAll] at h
    split at h
    · cases h
    · next hprocess =>
      rw [hprocess] at hpending
      obtain ⟨hhanded, hrest⟩ := ih h
      refine ⟨?_, hrest.trans hpending⟩
      simp only [handedAll, hprocess, hhanded]

/-- A flush that is not stopped hands over the paths that are due, and the others go on waiting. -/
theorem flush_eq_ok [Sub τ] [LE τ] [DecidableLE τ] {force : Bool} {now : τ} {n : Nat}
    {s s' : WatchState μ τ σ} (h : w.flush force now s = (.ok n, s')) :
    let taken := s.pending.take fun time => force || Pending.quietFor w.delay now time
    w.handedOver force now s = taken.1 ∧ n = taken.1.length ∧ s'.pending = taken.2 := by
  simp only [flush, flushWhere] at h
  split at h
  · cases h
  · next hprocess =>
    cases h
    obtain ⟨hhanded, hpending⟩ := w.processAll_eq_ok hprocess
    exact ⟨hhanded, rfl, hpending⟩

end Watcher
end

/-! ## What is due and what goes on waiting -/

namespace Pending
variable {p : Pending τ} {isDue : τ → Bool} {path : String}

/-- A path waits when the time of its save is known. -/
theorem mem_paths : path ∈ p.paths ↔ ∃ time, p.since? path = some time := by
  rw [paths, ← Table.isSome_lookup_iff, Option.isSome_iff_exists]
  rfl

/-- The paths taken are those that are due. -/
theorem mem_take (h : p.paths.Nodup) :
    path ∈ (p.take isDue).1 ↔ ∃ time, p.since? path = some time ∧ isDue time := by
  have hkeys : path ∈ Table.keys (p.since.filter fun e => isDue e.2) ↔
      ∃ time, (Table.lookup path p.since).filter isDue = some time := by
    rw [← Table.lookup_filter h, ← Table.isSome_lookup_iff, Option.isSome_iff_exists]
  rw [take, List.partition_eq_filter_filter]
  simp only [hkeys, Option.filter_eq_some_iff]
  rfl

/-- The paths that are not due go on waiting, since the same time. -/
theorem since?_take (h : p.paths.Nodup) :
    (p.take isDue).2.since? path = (p.since? path).filter fun time => !isDue time := by
  rw [take, List.partition_eq_filter_filter]
  exact Table.lookup_filter h (fun time => !isDue time) path

/-- No path is taken twice. -/
theorem nodup_take (h : p.paths.Nodup) :
    (p.take isDue).1.Nodup ∧ (p.take isDue).2.paths.Nodup := by
  rw [take, List.partition_eq_filter_filter]
  exact ⟨(List.filter_sublist.map _).nodup h, (List.filter_sublist.map _).nodup h⟩

end Pending

/-! ## Turns -/

section
variable {path other : String} {time : τ} {turns : List (Turn τ)}

/-- Where nothing happens nothing is saved. -/
@[simp] theorem savesOf_nil : savesOf path ([] : List (Turn τ)) = [] :=
  rfl

/-- A save is the latest one of its path. -/
@[simp] theorem savesOf_saved :
    savesOf path (.saved other time :: turns)
      = if other = path then time :: savesOf path turns else savesOf path turns := by
  by_cases h : other = path <;> simp [savesOf, Turn.saveOf?, h]

/-- A path that is handed over is not saved. -/
@[simp] theorem savesOf_handed : savesOf path (.handed other :: turns) = savesOf path turns :=
  rfl

/-- A save is no handing over. -/
@[simp] theorem sinceHanded_saved :
    sinceHanded path (.saved other time :: turns) = .saved other time :: sinceHanded path turns :=
  rfl

/-- Nothing has befallen a path since it was handed over just now. -/
@[simp] theorem sinceHanded_handed :
    sinceHanded path (.handed other :: turns)
      = if other = path then [] else .handed other :: sinceHanded path turns := by
  by_cases h : other = path <;> simp [sinceHanded, Turn.hands, h]

/-- Handing paths over saves none. -/
theorem savesOf_handed_append (paths : List String) :
    savesOf path (paths.map .handed ++ turns) = savesOf path turns := by
  induction paths with
  | nil => rfl
  | cons other paths ih => rw [List.map_cons, List.cons_append, savesOf_handed, ih]

/-- The saves since a path was last handed over, after some paths are. -/
theorem savesOf_sinceHanded_append (paths : List String) :
    savesOf path (sinceHanded path (paths.map .handed ++ turns))
      = if path ∈ paths then [] else savesOf path (sinceHanded path turns) := by
  induction paths with
  | nil => rfl
  | cons other paths ih =>
    by_cases h : other = path
    · simp [h, savesOf]
    · simp [h, Ne.symm h, ih]

/-- The latest save since a path was handed over is its latest save. -/
theorem head?_savesOf_of_sinceHanded
    (h : (savesOf path (sinceHanded path turns)).head? = some time) :
    (savesOf path turns).head? = some time := by
  have hprefix : savesOf path (sinceHanded path turns) <+: savesOf path turns :=
    (List.takeWhile_prefix _).filterMap _
  obtain ⟨earlier, hearlier⟩ := hprefix
  rw [← hearlier, List.head?_append, h, Option.some_or]

end

/-! ## What waits agrees with the turns -/

/-- What waits agrees with the turns before: a path that is not ignored waits since its latest save,
if it was saved since it was last handed over. No save lies in the future, and none before an
earlier one. -/
structure Waits [LE τ] (w : Watcher μ τ) (now : τ) (turns : List (Turn τ))
    (s : WatchState μ τ σ) : Prop where
  distinct : s.pending.paths.Nodup
  since : ∀ path, s.pending.since? path =
    if isIgnored w.here w.project path then none
    else (savesOf path (sinceHanded path turns)).head?
  falling : ∀ path, (savesOf path turns).Pairwise fun later earlier => earlier ≤ later
  past : ∀ path, ∀ time ∈ savesOf path turns, time ≤ now

namespace Waits
variable {w : Watcher μ τ} {now : τ} {turns : List (Turn τ)} {s s' : WatchState μ τ σ}

/-- Only what waits matters. -/
theorem congr [LE τ] (h : Waits w now turns s) (hpending : s'.pending = s.pending) :
    Waits w now turns s' :=
  ⟨by rw [hpending]; exact h.distinct, by rw [hpending]; exact h.since, h.falling, h.past⟩

/-- A path that waits was last saved when it is said to wait since. -/
theorem head?_savesOf [LE τ] {path : String} {time : τ} (h : Waits w now turns s)
    (htime : s.pending.since? path = some time) : (savesOf path turns).head? = some time := by
  rw [h.since] at htime
  split at htime
  · cases htime
  · exact head?_savesOf_of_sinceHanded htime

/-- Time goes by. -/
theorem pass [Preorder τ] (h : Waits w now turns s) {later : τ} (hlater : now ≤ later) :
    Waits w later turns s :=
  { h with past := fun path time htime => (h.past path time htime).trans hlater }

/-- A path is saved. -/
theorem track [Preorder τ] (h : Waits w now turns s) (event : FileEvent) :
    Waits w now (event.turns now ++ turns) (w.track event now s) := by
  rw [FileEvent.turns]
  by_cases hdir : event.isDirectory = true
  · simpa [hdir, Watcher.track] using h
  generalize hsaved : event.change.path = saved
  have hpending : (w.track event now s).pending =
      if isIgnored w.here w.project saved then s.pending else s.pending.touch saved now := by
    by_cases hignored : isIgnored w.here w.project saved = true <;>
      simp [Watcher.track, hdir, hsaved, hignored]
  rw [if_neg hdir, List.singleton_append]
  refine ⟨?_, fun path => ?_, fun path => ?_, fun path => ?_⟩
  · rw [hpending]
    split
    · exact h.distinct
    · exact Table.nodup_keys_assign h.distinct
  · rw [hpending, sinceHanded_saved, savesOf_saved]
    by_cases hpath : saved = path
    · subst hpath
      by_cases hignored : isIgnored w.here w.project saved = true
      · simp [hignored, h.since]
      · simp [hignored]
    · have hsince : (s.pending.touch saved now).since? path = s.pending.since? path :=
        Pending.since?_touch_of_ne (Ne.symm hpath) s.pending now
      rw [if_neg hpath, ← h.since path]
      split
      · rfl
      · exact hsince
  · rw [savesOf_saved]
    split
    · exact List.pairwise_cons.2 ⟨h.past path, h.falling path⟩
    · exact h.falling path
  · rw [savesOf_saved]
    split
    · exact List.forall_mem_cons.2 ⟨le_rfl, h.past path⟩
    · exact h.past path

/-- Paths that are due are handed over. -/
theorem take [LE τ] (h : Waits w now turns s) {isDue : τ → Bool}
    (hpending : s'.pending = (s.pending.take isDue).2) :
    Waits w now (((s.pending.take isDue).1.map .handed).reverse ++ turns) s' := by
  rw [← List.map_reverse]
  refine ⟨?_, fun path => ?_, fun path => ?_, fun path => ?_⟩
  · rw [hpending]
    exact (Pending.nodup_take h.distinct).2
  · rw [hpending, Pending.since?_take h.distinct, savesOf_sinceHanded_append]
    simp only [List.mem_reverse]
    have hsince := h.since path
    by_cases hdue : path ∈ (s.pending.take isDue).1
    · obtain ⟨time, htime, htimeDue⟩ := (Pending.mem_take h.distinct).1 hdue
      simp [hdue, htime, htimeDue, Option.filter]
    · rw [if_neg hdue, ← hsince]
      cases htime : s.pending.since? path with
      | none => rfl
      | some time =>
        have htimeDue : isDue time = false :=
          Bool.eq_false_iff.2 fun hd => hdue ((Pending.mem_take h.distinct).2 ⟨time, htime, hd⟩)
        simp [htimeDue, Option.filter]
  · rw [savesOf_handed_append]
    exact h.falling path
  · rw [savesOf_handed_append]
    exact h.past path

end Waits

/-! ## The saves handed over -/

section
variable [WordSource σ] [DecidableEq μ] [AddCommGroup τ] [LinearOrder τ] [IsOrderedAddMonoid τ]
  {w : Watcher μ τ} {now : τ} {turns : List (Turn τ)} {s s' : WatchState μ τ σ}

omit [IsOrderedAddMonoid τ] in
/-- In every state that a watcher comes to, what waits agrees with the turns before. -/
theorem Elapsed.waits (h : Elapsed w now turns s) : Waits w now turns s := by
  induction h with
  | start bench random now =>
    exact ⟨.nil, fun path => (ite_self _).symm, fun _ => .nil, fun _ _ => nofun⟩
  | pass hlater _ ih => exact ih.pass hlater
  | outside bench trouble _ ih => exact ih.congr rfl
  | track event _ ih => exact ih.track event
  | flush hflush _ ih =>
    obtain ⟨hhanded, -, hpending⟩ := w.flush_eq_ok hflush
    rw [hhanded]
    exact ih.take hpending

omit [WordSource σ] [DecidableEq μ] in
/-- A path that waits is due without force when it had no save within the delay. -/
theorem Waits.quietFor_iff (h : Waits w now turns s) {path : String} {time : τ}
    (htime : s.pending.since? path = some time) :
    Pending.quietFor w.delay now time = true ↔
      ∀ save ∈ savesOf path turns, ¬(now - w.delay < save ∧ save ≤ now) := by
  obtain ⟨older, hsaves⟩ := List.head?_eq_some_iff.1 (h.head?_savesOf htime)
  have hfalling := h.falling path
  rw [hsaves, List.pairwise_cons] at hfalling
  have hpast : time ≤ now := h.past path time (by simp [hsaves])
  rw [Pending.quietFor, decide_eq_true_iff, le_sub_comm, hsaves]
  constructor
  · intro hquiet save hsave hwithin
    have hlatest : save ≤ time := by
      rcases List.mem_cons.1 hsave with rfl | hsave
      · exact le_rfl
      · exact hfalling.1 save hsave
    exact absurd (hlatest.trans hquiet) (not_le_of_gt hwithin.1)
  · intro hnone
    by_contra hlate
    exact hnone time List.mem_cons_self ⟨not_le.1 hlate, hpast⟩

/-- What a watcher keeps waiting, and what it hands over: a path that is not ignored waits exactly
if it was saved since it was last handed over, and it waits since its latest save. A flush that is
not stopped hands over no path twice; with force it hands over all that wait, and without force
those of them that had no save within the delay. After a flush with force nothing waits. -/
theorem waits_and_handed_of_elapsed (h : Elapsed w now turns s) :
    (∀ path, isIgnored w.here w.project path = false →
      (path ∈ s.pending.paths ↔ savesOf path (sinceHanded path turns) ≠ []) ∧
        ∀ time, s.pending.since? path = some time → (savesOf path turns).head? = some time) ∧
    ∀ force n s', w.flush force now s = (.ok n, s') →
      (w.handedOver force now s).Nodup ∧ (w.handedOver force now s).length = n ∧
      (∀ path, path ∈ w.handedOver force now s ↔ path ∈ s.pending.paths ∧
        (force ∨ ∀ save ∈ savesOf path turns, ¬(now - w.delay < save ∧ save ≤ now))) ∧
      (force → s'.pending.paths = []) := by
  have hwaits := h.waits
  refine ⟨fun path hnoticed => ⟨?_, fun time htime => hwaits.head?_savesOf htime⟩, ?_⟩
  · rw [Pending.mem_paths, hwaits.since, hnoticed]
    cases savesOf path (sinceHanded path turns) <;> simp
  · intro force n s' hflush
    obtain ⟨hhanded, hcount, hpending⟩ := w.flush_eq_ok hflush
    rw [hhanded]
    refine ⟨(Pending.nodup_take hwaits.distinct).1, hcount.symm, fun path => ?_, fun hforce => ?_⟩
    · rw [Pending.mem_take hwaits.distinct, Pending.mem_paths]
      constructor
      · rintro ⟨time, htime, hdue⟩
        rw [Bool.or_eq_true, hwaits.quietFor_iff htime] at hdue
        exact ⟨⟨time, htime⟩, hdue⟩
      · rintro ⟨⟨time, htime⟩, hdue⟩
        rw [← hwaits.quietFor_iff htime, ← Bool.or_eq_true] at hdue
        exact ⟨time, htime, hdue⟩
    · rw [hpending, List.eq_nil_iff_forall_not_mem]
      intro path hwaiting
      obtain ⟨time, htime⟩ := Pending.mem_paths.1 hwaiting
      rw [Pending.since?_take hwaits.distinct] at htime
      simp [hforce] at htime

end

/-! ## Two saves -/

/-- A watcher that waits for two units of time, on a disk with nothing on it. -/
def patientWatcher : Watcher String Int :=
  ⟨literalParser, [], [], ⟨⟨[], "", ""⟩, []⟩, literalEditor, none, id, 2, none⟩

/-- A workbench with nothing on its disk. -/
def bareBench : Workbench :=
  ⟨.empty, ⟨0, 1⟩, ⟨0, 1⟩, 0⟩

/-- The state after one file is saved at the start, and another five units of time later. -/
def twoSaves : WatchState String Int MersenneTwister :=
  let fresh : WatchState String Int MersenneTwister := .start bareBench (MersenneTwister.ofSeed 7)
  { fresh with pending := ⟨[("/a.js", 0), ("/b.js", 5)]⟩, events := 2 }

/-- Neither file is ignored. -/
theorem isIgnored_twoSaves :
    isIgnored [] [] "/a.js" = false ∧ isIgnored [] [] "/b.js" = false :=
  ⟨by cbv, by cbv⟩

/-- A watcher comes to this state. -/
theorem elapsed_twoSaves :
    Elapsed patientWatcher 6 [.saved "/b.js" 5, .saved "/a.js" 0] twoSaves := by
  have htrack : patientWatcher.track ⟨.modified "/b.js", false⟩ 5
      (patientWatcher.track ⟨.created "/a.js", false⟩ 0
        (.start bareBench (MersenneTwister.ofSeed 7))) = twoSaves := by
    obtain ⟨hfirst, hsecond⟩ := isIgnored_twoSaves
    simp only [patientWatcher, Watcher.track, Change.path, hfirst, hsecond, Bool.or_self,
      Bool.false_eq_true, if_false]
    rfl
  rw [← htrack]
  exact .pass (by decide : (5 : Int) ≤ 6) (.track ⟨.modified "/b.js", false⟩
    (.pass (by decide : (0 : Int) ≤ 5) (.track ⟨.created "/a.js", false⟩ (.start _ _ 0))))

/-- Six units of time after the start, a flush hands over one file. Nothing is found there. -/
theorem flush_twoSaves : patientWatcher.flush false 6 twoSaves =
    (.ok 1, { twoSaves with pending := ⟨[("/b.js", 5)]⟩ }) := by
  have htaken : twoSaves.pending.take
      (fun time => false || Pending.quietFor patientWatcher.delay 6 time) =
        (["/a.js"], ⟨[("/b.js", 5)]⟩) := rfl
  have hmissing : bareBench.disk.readText [] "/a.js" = .error (.disk .notFound) := by cbv
  have hprocess := patientWatcher.process_of_notFound "/a.js"
    { twoSaves with pending := ⟨[("/b.js", 5)]⟩ } hmissing
  simp only [Watcher.flush, Watcher.flushWhere, htaken, Watcher.processAll, hprocess]
  rfl

/-- Six units of time after the start, of the two files the one is handed over that was not saved
within the last two, and not the other. -/
theorem waits_and_handed_twoSaves :
    Elapsed patientWatcher 6 [.saved "/b.js" 5, .saved "/a.js" 0] twoSaves
      ∧ isIgnored [] [] "/a.js" = false ∧ "/a.js" ∈ twoSaves.pending.paths
      ∧ "/a.js" ∈ patientWatcher.handedOver false 6 twoSaves
      ∧ "/b.js" ∉ patientWatcher.handedOver false 6 twoSaves := by
  obtain ⟨hwaits, hhands⟩ := waits_and_handed_of_elapsed elapsed_twoSaves
  have hwaiting := (hwaits "/a.js" isIgnored_twoSaves.1).1.2 (by simp)
  obtain ⟨-, -, hhanded, -⟩ := hhands false 1 _ flush_twoSaves
  refine ⟨elapsed_twoSaves, isIgnored_twoSaves.1, hwaiting, (hhanded _).2 ⟨hwaiting, .inr ?_⟩,
    fun hb => ?_⟩
  · simp [patientWatcher]
  · simpa [patientWatcher] using ((hhanded _).1 hb).2

end Sabotage.Watch
