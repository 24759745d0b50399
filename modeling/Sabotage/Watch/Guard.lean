import Sabotage.Table

/-!
# The guard against our own edits

A watcher that writes a file is told of the write as of any other. The guard holds, for each path
with an edit of ours under way, a mark of the content written. The next save of the path ends that
state, and is taken for ours exactly when it carries the mark. What a mark is does not matter, as
long as marks can be compared: a digest, or the content itself.
-/

namespace Sabotage.Watch

/-- The paths with an edit of ours under way, with the mark of what is written to each. -/
structure Guard (μ : Type) where
  underWay : Table String μ

namespace Guard

variable {μ : Type}

/-- No edit is under way. -/
def idle : Guard μ := ⟨[]⟩

/-- The mark of the edit of a path that is under way. -/
def expected? (g : Guard μ) (path : String) : Option μ :=
  Table.lookup path g.underWay

/-- Whether an edit of a path is under way. -/
def isApplying (g : Guard μ) (path : String) : Bool :=
  (g.expected? path).isSome

/-- An edit of a path begins. -/
def begin (g : Guard μ) (path : String) (mark : μ) : Guard μ :=
  ⟨Table.assign path mark g.underWay⟩

/-- The edit of a path, if there is one, is over without a save. -/
def abort (g : Guard μ) (path : String) : Guard μ :=
  ⟨Table.drop path g.underWay⟩

/-- Whether the save of a path is someone else's: unless it carries the mark of the edit under
way. -/
def isForeign [DecidableEq μ] (g : Guard μ) (path : String) (mark : μ) : Bool :=
  g.expected? path != some mark

/-- A save of a path: whether it is someone else's, and the guard after it. -/
def observe [DecidableEq μ] (g : Guard μ) (path : String) (mark : μ) : Bool × Guard μ :=
  (g.isForeign path mark, g.abort path)

@[simp] theorem expected?_idle (path : String) : (idle : Guard μ).expected? path = none := rfl

/-- The edit that has begun is under way. -/
@[simp] theorem expected?_begin (g : Guard μ) (path : String) (mark : μ) :
    (g.begin path mark).expected? path = some mark :=
  Table.lookup_assign path mark g.underWay

/-- An edit that begins leaves the other paths alone. -/
theorem expected?_begin_of_ne {path other : String} (h : other ≠ path) (g : Guard μ) (mark : μ) :
    (g.begin path mark).expected? other = g.expected? other :=
  Table.lookup_assign_of_ne h mark g.underWay

/-- No edit of an aborted path is under way. -/
@[simp] theorem expected?_abort (g : Guard μ) (path : String) :
    (g.abort path).expected? path = none :=
  Table.lookup_drop path g.underWay

/-- Aborting leaves the other paths alone. -/
theorem expected?_abort_of_ne {path other : String} (h : other ≠ path) (g : Guard μ) :
    (g.abort path).expected? other = g.expected? other :=
  Table.lookup_drop_of_ne h g.underWay

end Guard

end Sabotage.Watch
