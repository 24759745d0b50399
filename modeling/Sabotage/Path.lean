import Sabotage.Text.Split

/-!
# Paths

A path is its root, written as no, one or two slashes, and its components. Empty components and
single dots are dropped on reading; double dots are kept, and `resolve` takes them away against an
absolute directory, as there are no links to follow. The suffix of a path is the last dot of its
last component and what follows, if there is something on both sides of the dot.
-/

namespace Sabotage

/-- A path: the slashes of its root, and its components. -/
structure Path where
  slashes : Nat
  parts : List String
  deriving DecidableEq, Repr

namespace Path

/-- Reads a path. Exactly two leading slashes are a root of their own. -/
def ofString (s : String) : Path :=
  let leading := (s.toList.takeWhile (· == '/')).length
  ⟨if leading = 0 then 0 else if leading = 2 then 2 else 1,
    (Text.split '/' s).filter fun p => p != "" && p != "."⟩

/-- Writes a path; the path without root and components is a dot. -/
def toString (p : Path) : String :=
  if p.slashes = 0 ∧ p.parts = [] then "."
  else String.ofList (List.replicate p.slashes '/') ++ String.intercalate "/" p.parts

/-- Whether a path starts at a root. -/
def isAbsolute (p : Path) : Bool :=
  p.slashes != 0

/-- The last component; empty for a root or the empty path. -/
def name (p : Path) : String :=
  p.parts.getLast?.getD ""

/-- The path without its last component. -/
def parent (p : Path) : Path :=
  ⟨p.slashes, p.parts.dropLast⟩

/-- A path read from another one: an absolute path stands for itself. -/
def join (base p : Path) : Path :=
  if p.isAbsolute then p else ⟨base.slashes, base.parts ++ p.parts⟩

/-- One component further down. -/
def child (base : Path) (part : String) : Path :=
  ⟨base.slashes, base.parts ++ [part]⟩

/-- The suffix of a component: its last dot and what follows, unless the dot is the first or the
last character. -/
def suffixOf (name : List Char) : List Char :=
  let tail := (name.reverse.takeWhile (· != '.')).reverse
  let before := name.length - tail.length
  if tail.isEmpty || before ≤ 1 then [] else '.' :: tail

/-- The suffix of a path. -/
def suffix (p : Path) : String :=
  String.ofList (suffixOf p.name.toList)

/-- Takes a component into an absolute location: a double dot goes up, at the root it stays. -/
def step (location : List String) (part : String) : List String :=
  if part = ".." then location.dropLast else location ++ [part]

/-- The absolute location, without double dots, of a path seen from a directory. -/
def locate (directory : List String) (p : Path) : List String :=
  p.parts.foldl step (if p.isAbsolute then [] else directory)

/-- The path of an absolute location. -/
def ofLocation (location : List String) : Path :=
  ⟨1, location⟩

/-- The absolute path of a path seen from a directory. -/
def resolve (directory : List String) (p : Path) : Path :=
  ofLocation (p.locate directory)

/-- Whether a character stands for itself in an address. -/
def isUnreserved (c : Char) : Bool :=
  ('a' ≤ c && c ≤ 'z') || ('A' ≤ c && c ≤ 'Z') || ('0' ≤ c && c ≤ '9')
    || c == '-' || c == '.' || c == '_' || c == '~'

/-- A hexadecimal digit in capitals. -/
def hexDigit (n : Nat) : Char :=
  if n < 10 then Char.ofNat ('0'.toNat + n) else Char.ofNat ('A'.toNat + n - 10)

/-- A character in an address: the bytes of a reserved one are written as `%XX`. -/
def addressChar (c : Char) : List Char :=
  if isUnreserved c || c == '/' then [c]
  else (String.singleton c).toByteArray.data.toList.flatMap fun b =>
    ['%', hexDigit (b.toNat / 16), hexDigit (b.toNat % 16)]

/-- The `file` address of an absolute path. -/
def fileAddress (p : Path) : String :=
  "file://" ++ String.ofList (p.toString.toList.flatMap addressChar)

end Path

end Sabotage
