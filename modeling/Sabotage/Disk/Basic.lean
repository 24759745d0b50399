import Sabotage.Disk.Store
import Sabotage.Path
import Sabotage.Table
import Sabotage.Text.Bytes

/-!
# Disks

A disk is a table of what stands at each location: a directory, a file or a store. A location is
the list of names from the root, which is a directory always. A path text is followed name by name:
every name but the last has to be a directory, and double dots lead up.
-/

namespace Sabotage

/-- The names from the root down. -/
abbrev Location := List String

/-- What stands at a location. -/
inductive Entry where
  | directory
  | file (content : Bytes)
  | store (s : Store)

/-- Why a disk refuses. -/
inductive DiskError where
  | notFound
  | isDirectory
  | notDirectory
  | alreadyThere
  | nameTooLong
  /-- A path with a NUL character. -/
  | badName
  /-- A replacement that the system does not carry out. -/
  | refused
  deriving DecidableEq, Repr

/-- A refusal in words, with the path concerned. -/
def DiskError.message (path : String) : DiskError → String
  | .notFound => s!"[Errno 2] No such file or directory: '{path}'"
  | .isDirectory => s!"[Errno 21] Is a directory: '{path}'"
  | .notDirectory => s!"[Errno 20] Not a directory: '{path}'"
  | .alreadyThere => s!"[Errno 17] File exists: '{path}'"
  | .nameTooLong => s!"[Errno 36] File name too long: '{path}'"
  | .badName => "embedded null byte"
  | .refused => s!"[Errno 5] Input/output error: '{path}'"

/-- What stands where. -/
structure Disk where
  entries : Table Location Entry

namespace Disk

/-- A disk with nothing on it. -/
def empty : Disk := ⟨[]⟩

/-- What stands at a location; the root is a directory. -/
def occupant? (d : Disk) (loc : Location) : Option Entry :=
  if loc = [] then some .directory else Table.lookup loc d.entries

/-- Puts something at a location. -/
def set (d : Disk) (loc : Location) (e : Entry) : Disk :=
  ⟨Table.assign loc e d.entries⟩

/-- Takes away what stands at a location. -/
def erase (d : Disk) (loc : Location) : Disk :=
  ⟨Table.drop loc d.entries⟩

/-- What is put at a location stands there. -/
theorem occupant?_set {loc : Location} (h : loc ≠ []) (d : Disk) (e : Entry) :
    (d.set loc e).occupant? loc = some e := by
  simp [occupant?, set, h]

/-- Putting something at a location leaves the others alone. -/
theorem occupant?_set_of_ne {loc other : Location} (h : other ≠ loc) (d : Disk) (e : Entry) :
    (d.set loc e).occupant? other = d.occupant? other := by
  simp [occupant?, set, Table.lookup_assign_of_ne h]

/-! ## Following paths -/

/-- The longest name, in bytes. -/
def nameLimit : Nat := 255

/-- The shortest path text, in bytes, that is too long. -/
def pathLimit : Nat := 4096

/-- Whether a location is a directory, and if not, why. -/
def checkDirectory (d : Disk) (loc : Location) : Except DiskError Unit :=
  match d.occupant? loc with
  | some .directory => .ok ()
  | some _ => .error .notDirectory
  | none => .error .notFound

/-- Follows names from a location. An empty name or a dot asks for a directory. -/
def follow (d : Disk) : Location → List String → Except DiskError Location
  | loc, [] => .ok loc
  | loc, part :: rest =>
    match d.checkDirectory loc with
    | .error e => .error e
    | .ok () =>
      if part = "" ∨ part = "." then follow d loc rest
      else if part = ".." then follow d loc.dropLast rest
      else if part.utf8ByteSize > nameLimit then .error .nameTooLong
      else follow d (loc ++ [part]) rest

/-- The location that a path text names, seen from a directory. -/
def locate (d : Disk) (here : Location) (text : String) : Except DiskError Location :=
  if text.contains '\x00' then .error .badName
  else if text = "" then .error .notFound
  else if text.utf8ByteSize ≥ pathLimit then .error .nameTooLong
  else d.follow (if text.startsWith "/" then [] else here) (Text.split '/' text)

/-- What stands where a path text leads. -/
def find (d : Disk) (here : Location) (text : String) : Except DiskError Entry :=
  match d.locate here text with
  | .error e => .error e
  | .ok loc =>
    match d.occupant? loc with
    | some e => .ok e
    | none => .error .notFound

/-- Whether something stands where a path text leads. A name that is too long is an error. -/
def exists? (d : Disk) (here : Location) (text : String) : Except DiskError Bool :=
  match d.find here text with
  | .ok _ => .ok true
  | .error .nameTooLong => .error .nameTooLong
  | .error _ => .ok false

/-- Whether a path text leads to a directory. -/
def isDirectory (d : Disk) (here : Location) (text : String) : Bool :=
  match d.find here text with
  | .ok .directory => true
  | _ => false

/-! ## Reading and writing -/

/-- The bytes at the front of every store file. -/
def storeMark : Bytes := Bytes.ofString "store\x00"

/-- The bytes of a file. -/
def content (e : Entry) : Except DiskError Bytes :=
  match e with
  | .file bytes => .ok bytes
  | .store _ => .ok storeMark
  | .directory => .error .isDirectory

/-- The bytes of the file where a path text leads. -/
def read (d : Disk) (here : Location) (text : String) : Except DiskError Bytes :=
  match d.find here text with
  | .ok e => content e
  | .error e => .error e

/-- Writes a file at a location. -/
def writeAt (d : Disk) (loc : Location) (bytes : Bytes) : Except DiskError Disk :=
  match d.occupant? loc with
  | some .directory => .error .isDirectory
  | _ => .ok (d.set loc (.file bytes))

/-- Writes a file where a path text leads. -/
def write (d : Disk) (here : Location) (text : String) (bytes : Bytes) : Except DiskError Disk :=
  match d.locate here text with
  | .ok loc => d.writeAt loc bytes
  | .error e => .error e

/-- Adds bytes at the end of a file, made if it is missing. -/
def append (d : Disk) (here : Location) (text : String) (bytes : Bytes) : Except DiskError Disk :=
  match d.locate here text with
  | .error e => .error e
  | .ok loc =>
    match d.occupant? loc with
    | none => d.writeAt loc bytes
    | some e => (content e).bind fun old => d.writeAt loc (old ++ bytes)

/-- Takes a file away. -/
def remove (d : Disk) (here : Location) (text : String) : Except DiskError Disk :=
  match d.locate here text with
  | .error e => .error e
  | .ok loc =>
    match d.occupant? loc with
    | none => .error .notFound
    | some .directory => .error .isDirectory
    | some _ => .ok (d.erase loc)

/-- Makes directories one in the other, down from a location; double dots lead up. Where a file
stands in the way at the end it is already there; where it stands in the middle it is no
directory. -/
def makeFrom (d : Disk) : Location → List String → Except DiskError Disk
  | _, [] => .ok d
  | loc, part :: rest =>
    let loc := Path.step loc part
    if part.utf8ByteSize > nameLimit then .error .nameTooLong
    else
      match d.occupant? loc with
      | some .directory => makeFrom d loc rest
      | some _ => .error (if rest.isEmpty then .alreadyThere else .notDirectory)
      | none => makeFrom (d.set loc .directory) loc rest

/-- Makes a directory and those above it, as far as they are missing. -/
def makeDirectory (d : Disk) (loc : Location) : Except DiskError Disk :=
  d.makeFrom [] loc

/-- Makes the directory at a path, seen from a directory, and all that the path leads through. -/
def makePath (d : Disk) (here : Location) (p : Path) : Except DiskError Disk :=
  d.makeDirectory ((if p.isAbsolute then [] else here) ++ p.parts)

/-- Where a copy goes: where the target leads, or under the name of the source in the directory
there. -/
def destination (d : Disk) (here : Location) (source target : String) : String :=
  if d.isDirectory here target then target ++ "/" ++ (Path.ofString source).name else target

/-- Copies a file; a copy to a directory goes into it under the name of the source. A file is not
copied onto itself. -/
def copy (d : Disk) (here : Location) (source target : String) : Except DiskError Disk :=
  match d.read here source with
  | .error e => .error e
  | .ok bytes =>
    match d.locate here source, d.locate here (d.destination here source target) with
    | .ok s, .ok t => if s = t then .error .refused else d.writeAt t bytes
    | .error e, _ => .error e
    | _, .error e => .error e

/-- The names of what stands directly in a directory, in the order it was put there. -/
def names (d : Disk) (loc : Location) : List String :=
  d.entries.filterMap fun (l, _) =>
    if l ≠ [] ∧ l.dropLast = loc then l.getLast? else none

/-- The names below a location, in case it lies there. -/
def below? : Location → Location → Option Location
  | [], loc => some loc
  | a :: as, b :: bs => if a = b then below? as bs else none
  | _ :: _, [] => none

/-- Puts something in the place of all that stands at a location and below it. -/
def supplant (d : Disk) (loc : Location) (e : Entry) : Disk :=
  Disk.set ⟨d.entries.filter fun f => (below? loc f.1).isNone⟩ loc e

/-- What stands below a location, as paths from there. -/
def listing (d : Disk) (loc : Location) (wanted : Entry → Bool) : List String :=
  d.entries.filterMap fun (l, e) =>
    match below? loc l with
    | some (part :: rest) =>
      if wanted e then some (String.intercalate "/" (part :: rest)) else none
    | _ => none

/-- Whether something is a file of any sort. -/
def isFile : Entry → Bool
  | .directory => false
  | _ => true

end Disk

end Sabotage
