import Mathlib.Data.List.Induction
import Sabotage.Watch.Guard

/-!
# What a guard swallows

A guard is called in any order and for any paths. What it expects at a path is decided by the latest
call that acts on the path (`expected?_after`): only when an edit of the path has just begun does it
expect anything there, the mark of the content of that edit. So it takes a save for ours exactly
when it carries the content of an edit begun right before it, as far as its own path goes
(`after_answers`). Every save that it swallows uses up an edit begun: of a content at a path no more
saves are swallowed than edits were begun (`count_swallowed_le`).
-/

namespace Sabotage.Watch

/-- A call of a guard. -/
inductive GuardCall where
  | begin (path content : String)
  | abort (path : String)
  /-- Whether a save is someone else's. -/
  | observe (path content : String)
  /-- Whether an edit is under way. -/
  | ask (path : String)
  deriving DecidableEq

namespace GuardCall

/-- The path of a call. -/
def path : GuardCall → String
  | .begin path _ | .abort path | .observe path _ | .ask path => path

/-- Whether a call acts on a path: asking changes nothing. -/
def actsOn (path : String) : GuardCall → Bool
  | .ask _ => false
  | call => call.path == path

/-- What a guard expects at the path of a call after it. -/
def expected? {μ : Type} (mark : String → μ) : GuardCall → Option μ
  | .begin _ content => some (mark content)
  | _ => none

/-- The latest of some calls that acts on a path. -/
def latest? (path : String) (calls : List GuardCall) : Option GuardCall :=
  (calls.filter (actsOn path)).getLast?

end GuardCall

namespace Guard

variable {μ : Type} [DecidableEq μ] {mark : String → μ} {g : Guard μ} {path content : String}

/-- The guard after a call, when contents are told apart by their marks. -/
def act (mark : String → μ) (g : Guard μ) : GuardCall → Guard μ
  | .begin path content => g.begin path (mark content)
  | .abort path => g.abort path
  | .observe path content => (g.observe path (mark content)).2
  | .ask _ => g

/-- The guard after calls in order. -/
def after (mark : String → μ) (calls : List GuardCall) : Guard μ :=
  calls.foldl (act mark) idle

/-- Whether a guard takes a call for a save of ours. -/
def swallows (mark : String → μ) (g : Guard μ) : GuardCall → Bool
  | .observe path content => !(g.observe path (mark content)).1
  | _ => false

/-- The saves among calls in order that a guard takes for ours. -/
def swallowed (mark : String → μ) : Guard μ → List GuardCall → List GuardCall
  | _, [] => []
  | g, call :: calls =>
    if g.swallows mark call then call :: swallowed mark (g.act mark call) calls
    else swallowed mark (g.act mark call) calls

/-! ## One call -/

/-- A call that acts on a path decides what is expected there, and no other call changes it. -/
theorem expected?_act (g : Guard μ) (call : GuardCall) (path : String) :
    (g.act mark call).expected? path =
      if call.actsOn path then call.expected? mark else g.expected? path := by
  cases call with
  | begin other content =>
    by_cases h : other = path
    · simp [act, GuardCall.actsOn, GuardCall.path, GuardCall.expected?, h]
    · simp [act, GuardCall.actsOn, GuardCall.path, h, expected?_begin_of_ne (Ne.symm h)]
  | abort other | observe other content =>
    by_cases h : other = path
    · simp [act, observe, GuardCall.actsOn, GuardCall.path, GuardCall.expected?, h]
    · simp [act, observe, GuardCall.actsOn, GuardCall.path, h, expected?_abort_of_ne (Ne.symm h)]
  | ask other => rfl

/-- A save is swallowed when its mark is the one expected at its path. -/
theorem swallows_observe : g.swallows mark (.observe path content) = true ↔
    g.expected? path = some (mark content) := by
  simp [swallows, observe, isForeign]

/-! ## Calls in order -/

/-- What a guard expects at a path is decided by the latest call that acts on it. -/
theorem expected?_after (mark : String → μ) (calls : List GuardCall) (path : String) :
    (after mark calls).expected? path =
      (GuardCall.latest? path calls).bind (GuardCall.expected? mark) := by
  induction calls using List.reverseRecOn with
  | nil => rfl
  | append_singleton calls call ih =>
    rw [after, List.foldl_append, List.foldl_cons, List.foldl_nil, ← after, expected?_act, ih,
      GuardCall.latest?, GuardCall.latest?, List.filter_append]
    cases h : call.actsOn path <;> simp [h]

/-- A latest call is a call that acts on its path. -/
theorem path_of_latest? {calls : List GuardCall} {call : GuardCall}
    (h : GuardCall.latest? path calls = some call) : call.path = path := by
  have hacts := (List.mem_filter.1 (List.mem_of_getLast? h)).2
  cases call with
  | ask => cases hacts
  | _ => simpa [GuardCall.actsOn] using hacts

/-- An edit is expected at a path when the latest call that acts on it begins one there. -/
theorem expected?_after_eq_some {calls : List GuardCall} {m : μ} :
    (after mark calls).expected? path = some m ↔
      ∃ content, GuardCall.latest? path calls = some (.begin path content) ∧ mark content = m := by
  rw [expected?_after, Option.bind_eq_some_iff]
  constructor
  · rintro ⟨call, hcall, hm⟩
    have hpath := path_of_latest? hcall
    cases call with
    | begin other content =>
      cases hpath
      exact ⟨content, hcall, Option.some.inj hm⟩
    | abort | observe | ask => cases hm
  · rintro ⟨content, hcall, rfl⟩
    exact ⟨_, hcall, rfl⟩

/-- Only the beginning of an edit with a content makes a guard expect it. -/
theorem expected?_of_act (hmark : Function.Injective mark) {call : GuardCall}
    (hbegin : call ≠ .begin path content)
    (h : (g.act mark call).expected? path = some (mark content)) :
    g.expected? path = some (mark content) := by
  rw [expected?_act] at h
  split at h
  · next hacts =>
    cases call with
    | begin other content' =>
      cases hmark (Option.some.inj h)
      have hother : other = path := by simpa [GuardCall.actsOn, GuardCall.path] using hacts
      exact absurd (by rw [hother]) hbegin
    | abort | observe | ask => cases h
  · exact h

/-- Of a content at a path a guard swallows no more saves than edits are begun, and one more when
such an edit is under way already. -/
theorem count_swallowed_le (hmark : Function.Injective mark) (g : Guard μ)
    (calls : List GuardCall) (path content : String) :
    (swallowed mark g calls).count (.observe path content) ≤
      calls.count (.begin path content) +
        if g.expected? path = some (mark content) then 1 else 0 := by
  induction calls generalizing g with
  | nil => exact Nat.zero_le _
  | cons call calls ih =>
    have hrest := ih (g.act mark call)
    by_cases hbegin : call = .begin path content
    · -- The edit begun pays for the save that may be swallowed next.
      subst hbegin
      have hexpected : (g.act mark (.begin path content)).expected? path = some (mark content) :=
        expected?_begin g path (mark content)
      rw [if_pos hexpected] at hrest
      rw [swallowed, if_neg (by simp [swallows]), List.count_cons_self]
      omega
    rw [List.count_cons_of_ne hbegin]
    by_cases hsave : call = .observe path content ∧ g.swallows mark call = true
    · -- The save swallowed uses up the edit under way.
      obtain ⟨rfl, hswallows⟩ := hsave
      have hexpected : (g.act mark (.observe path content)).expected? path = none :=
        expected?_abort g path
      rw [hexpected] at hrest
      rw [swallowed, if_pos hswallows, List.count_cons_self, if_pos (swallows_observe.1 hswallows)]
      simpa using hrest
    · have hcount : (swallowed mark g (call :: calls)).count (.observe path content) =
          (swallowed mark (g.act mark call) calls).count (.observe path content) := by
        rw [swallowed]
        split
        · next hswallows => exact List.count_cons_of_ne fun h => hsave ⟨h, hswallows⟩
        · rfl
      rw [hcount]
      refine Nat.le_trans hrest (Nat.add_le_add_left ?_ _)
      split
      · next h => exact Nat.le_of_eq (if_pos (expected?_of_act hmark hbegin h)).symm
      · exact Nat.zero_le _

/-- After calls in any order and for any paths, a guard takes a save for ours exactly when the latest
call that acts on its path begins an edit of the path with its content, and an edit of a path is
under way exactly when that call begins one. Calls for other paths do not matter. And an edit begun
is good for one save: from then on, of a content at a path no more saves are swallowed than edits are
begun, and one more when the latest call begins one. -/
theorem after_answers (hmark : Function.Injective mark) (calls : List GuardCall) :
    (∀ path content, ((after mark calls).observe path (mark content)).1 = false ↔
      GuardCall.latest? path calls = some (.begin path content)) ∧
    (∀ path, (after mark calls).isApplying path = true ↔
      ∃ content, GuardCall.latest? path calls = some (.begin path content)) ∧
    (∀ path, (after mark calls).expected? path =
      (after mark (calls.filter (·.path == path))).expected? path) ∧
    ∀ path content later, (swallowed mark (after mark calls) later).count (.observe path content) ≤
      later.count (.begin path content) +
        if GuardCall.latest? path calls = some (.begin path content) then 1 else 0 := by
  have hexpects (path content : String) :
      (after mark calls).expected? path = some (mark content) ↔
        GuardCall.latest? path calls = some (.begin path content) := by
    rw [expected?_after_eq_some]
    exact ⟨fun ⟨_, hlatest, heq⟩ => hmark heq ▸ hlatest, fun hlatest => ⟨_, hlatest, rfl⟩⟩
  refine ⟨fun path content => ?_, fun path => ?_, fun path => ?_, fun path content later => ?_⟩
  · have hswallows : ((after mark calls).observe path (mark content)).1 = false ↔
        (after mark calls).expected? path = some (mark content) := by
      simp [observe, isForeign]
    rw [hswallows, hexpects]
  · rw [isApplying, Option.isSome_iff_exists]
    simp only [expected?_after_eq_some]
    exact ⟨fun ⟨_, content, hlatest, _⟩ => ⟨content, hlatest⟩,
      fun ⟨content, hlatest⟩ => ⟨_, content, hlatest, rfl⟩⟩
  · have hfilter : (calls.filter (·.path == path)).filter (GuardCall.actsOn path) =
        calls.filter (GuardCall.actsOn path) := by
      rw [List.filter_filter]
      refine List.filter_congr fun call _ => ?_
      cases call <;> simp [GuardCall.actsOn]
    rw [expected?_after, expected?_after, GuardCall.latest?, GuardCall.latest?, hfilter]
  · have h := count_swallowed_le hmark (after mark calls) later path content
    simpa only [hexpects] using h

/-- An edit of a file under way when another file is saved, and the file twice, with the content of
the edit: the first save is swallowed, the second is not. -/
theorem after_answers_twoSaves :
    Function.Injective (id : String → String) ∧
      ((after id [.begin "a.js" "1", .observe "b.js" "1"]).observe "a.js" "1").1 = false ∧
      ((after id [.begin "a.js" "1", .observe "b.js" "1", .observe "a.js" "1"]).observe
        "a.js" "1").1 ≠ false := by
  have hmark : Function.Injective (id : String → String) := Function.injective_id
  refine ⟨hmark, ((after_answers hmark _).1 "a.js" "1").2 (by decide), ?_⟩
  exact mt ((after_answers hmark _).1 "a.js" "1").1 (by decide)

end Guard

end Sabotage.Watch
