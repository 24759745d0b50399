import Sabotage.Table

/-!
# Pending saves

A save is not acted on at once: it waits until its path has been quiet for a while, and each
further save of the path makes it wait anew. `Pending.take` hands over the paths that have waited
long enough, in the order in which they began to wait. The kind of time is a parameter.
-/

namespace Sabotage.Watch

/-- The paths that wait, with the time of the latest save of each. -/
structure Pending (τ : Type) where
  since : Table String τ

namespace Pending

variable {τ : Type}

/-- Nothing waits. -/
def empty : Pending τ := ⟨[]⟩

/-- The paths that wait, in order. -/
def paths (p : Pending τ) : List String :=
  Table.keys p.since

/-- A path is saved. -/
def touch (p : Pending τ) (path : String) (now : τ) : Pending τ :=
  ⟨Table.assign path now p.since⟩

/-- When a path that waits was last saved. -/
def since? (p : Pending τ) (path : String) : Option τ :=
  Table.lookup path p.since

/-- Splits off the paths that are due. -/
def take (p : Pending τ) (isDue : τ → Bool) : List String × Pending τ :=
  let (due, rest) := p.since.partition fun e => isDue e.2
  (Table.keys due, ⟨rest⟩)

/-- Whether a time lies at least a delay back. -/
def quietFor [Sub τ] [LE τ] [DecidableLE τ] (delay now : τ) (time : τ) : Bool :=
  decide (delay ≤ now - time)

@[simp] theorem since?_touch (p : Pending τ) (path : String) (now : τ) :
    (p.touch path now).since? path = some now :=
  Table.lookup_assign path now p.since

/-- A save of one path does not change how long the others wait. -/
theorem since?_touch_of_ne {path other : String} (h : other ≠ path) (p : Pending τ) (now : τ) :
    (p.touch path now).since? other = p.since? other :=
  Table.lookup_assign_of_ne h now p.since

end Pending

end Sabotage.Watch
