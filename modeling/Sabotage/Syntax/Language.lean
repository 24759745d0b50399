import Sabotage.Path

/-!
# Languages

The grammars a source text can be read with. A file's suffix names its language; `tsx`, which
takes the texts of the other two, stands in where nothing is known.
-/

namespace Sabotage

/-- A grammar. -/
inductive Language where
  | javascript
  | typescript
  | tsx
  deriving DecidableEq, Repr

namespace Language

/-- The name of a language. -/
def name : Language → String
  | .javascript => "javascript"
  | .typescript => "typescript"
  | .tsx => "tsx"

/-- All languages in the order of their names. -/
def all : List Language :=
  [.javascript, .tsx, .typescript]

/-- The language of a name. -/
def ofName? (s : String) : Option Language :=
  all.find? (·.name == s)

/-- A name leads back to its language. -/
@[simp] theorem ofName?_name (l : Language) : ofName? l.name = some l := by
  cases l <;> decide

/-- The language of a suffix in small letters. -/
def ofSuffix? : String → Option Language
  | ".js" | ".jsx" | ".mjs" | ".cjs" => some .javascript
  | ".ts" | ".mts" | ".cts" => some .typescript
  | ".tsx" => some .tsx
  | _ => none

/-- The language of a file by its suffix, capitals or not. -/
def ofPath? (path : String) : Option Language :=
  ofSuffix? (Path.ofString path).suffix.toLower

/-- The language of a file, `tsx` when its suffix names none. -/
def detect (path : String) : Language :=
  (ofPath? path).getD .tsx

/-- The message for a name that is no language. -/
def unsupportedMessage (s : String) : String :=
  "Language '" ++ s ++ "' is not supported. Supported: "
    ++ String.intercalate ", " (all.map Language.name)

end Language

end Sabotage
