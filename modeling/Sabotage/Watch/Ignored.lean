import Sabotage.Path
import Sabotage.Syntax.Language
import Sabotage.Text.Glob

/-!
# What a watcher ignores

A watcher of a project takes notice of source files in a known language that lie in the project and
in no directory of generated or administrative files.
-/

namespace Sabotage.Watch

/-- The patterns of what is ignored, for paths seen from the project with a slash in front. -/
def ignoredPatterns : List String :=
  ["**/node_modules/**", "**/.git/**", "**/.bugduck/**", "**/build/**", "**/dist/**",
    "**/.next/**", "**/coverage/**", "**/.idea/**", "**/.vscode/**"]

/-- The names that lead from one location to another below it. -/
def within? : (project location : List String) → Option (List String)
  | [], location => some location
  | p :: project, l :: location => if p = l then within? project location else none
  | _ :: _, [] => none

/-- A path seen from the project, with a slash in front. -/
def rooted (names : List String) : String :=
  "/" ++ (Path.mk 0 names).toString

/-- Whether saves of a path are ignored, for a project seen from a directory. -/
def isIgnored (here project : List String) (path : String) : Bool :=
  (Language.ofPath? path).isNone || path.contains '\x00' ||
    match within? project ((Path.ofString path).locate here) with
    | none => true
    | some names => ignoredPatterns.any fun pattern => Glob.accepts pattern (rooted names)

/-- The names that lead to a location below a project, put after those of the project, make the
location. -/
theorem within?_eq_some_iff {project location names : List String} :
    within? project location = some names ↔ location = project ++ names := by
  induction project generalizing location with
  | nil => simp [within?, eq_comm]
  | cons p project ih =>
    cases location with
    | nil => simp [within?]
    | cons l location =>
      by_cases h : p = l
      · subst h; simp [within?, ih]
      · simp [within?, h, Ne.symm h]

end Sabotage.Watch
