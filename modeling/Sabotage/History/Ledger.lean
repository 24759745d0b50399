import Sabotage.Arrange
import Sabotage.Disk.Basic
import Sabotage.Editor
import Sabotage.History.Entry

/-!
# The history ledger

Entries are kept twice: as rows of a store, under their identifiers, and as lines of a log that
only ever grows. Trouble with either is told by the answer and is no error, so that a broken
history blocks nothing.
-/

namespace Sabotage

/-- A ledger: the directory it works from, its store and its log. -/
structure Ledger where
  here : Location
  store : Path
  log : Path

/-- A number of rows that the store does not take. -/
inductive LimitError where
  | outOfRange
  deriving DecidableEq, Repr

/-- Why a log cannot be read. -/
inductive LogError where
  | read (e : ReadError)
  /-- A line holds an integer of too many digits. -/
  | tooManyDigits
  /-- A line is nested in too many levels. -/
  | tooDeep
  deriving DecidableEq, Repr

/-- Why a row cannot be put into the store by itself. -/
inductive RowError where
  /-- The file is no store. -/
  | notStore
  | noTable
  /-- A value is missing, or the time is not a number. -/
  | noValue
  /-- The time is an integer that the store does not take. -/
  | outOfRange
  deriving DecidableEq, Repr

/-- What a ledger counts. -/
structure LedgerStats where
  runs : Nat
  bugs : Nat
  /-- The kinds by falling number; equal numbers keep the order of first appearance. -/
  byKind : List (BugKind × Nat)
  files : Nat

namespace Ledger

/-- The store file as a store: a missing file and one of at most one byte are blank ones, and
anything else but a store is none. -/
def storeAt? (l : Ledger) (d : Disk) : Option Store :=
  match d.find l.here l.store.toString with
  | .ok (.store s) => some s
  | .ok (.file []) | .ok (.file [_]) => some .blank
  | .ok _ => none
  | .error .notFound => some .blank
  | .error _ => none

/-- Puts a store in its place. -/
def putStore (l : Ledger) (s : Store) (d : Disk) : Option Disk :=
  match d.locate l.here l.store.toString with
  | .ok loc => some (d.set loc (.store s))
  | .error _ => none

/-- Gets a ledger ready: its directory and its table are made if they are missing. -/
def prepare (l : Ledger) (d : Disk) : Except DiskError Disk :=
  match d.makePath l.here l.store.parent with
  | .error e => .error e
  | .ok d =>
    match l.storeAt? d with
    | none => .ok d
    | some s => .ok ((l.putStore s.prepare d).getD d)

/-- The rows of the table, in their order; none when they cannot be read. -/
def rows? (l : Ledger) (d : Disk) : Option (List Row) :=
  (l.storeAt? d).bind Store.table?

/-- Puts an entry into the store; the answer says whether it is there. -/
def enterRow (l : Ledger) (e : HistoryEntry) (d : Disk) : Bool × Disk :=
  match (l.storeAt? d).bind (Store.put? ⟨e.id, e.time, e.record⟩) with
  | none => (false, d)
  | some s =>
    match l.putStore s d with
    | some d => (true, d)
    | none => (false, d)

/-- The integers that the store takes are those of 64 bits, below this bound. -/
def integerBound : Int :=
  0x8000000000000000

/-- Whether the store takes an integer. -/
def takes (n : Int) : Bool :=
  -integerBound ≤ n && n < integerBound

/-- A value as the time of a row. -/
def timeOf : Json → Except RowError Float
  | .int n =>
    if takes n then .ok (Numeral.signedFloat (decide (n < 0)) ⟨n.natAbs, 0⟩)
    else .error .outOfRange
  | j =>
    match HistoryEntry.float? true j with
    | some x => .ok x
    | none => .error .noValue

/-- Puts a row into the store, whatever its payload is. -/
def putRow (l : Ledger) (id : String) (time : Json) (payload? : Option String) (d : Disk) :
    Except RowError Disk :=
  match l.storeAt? d with
  | none => .error (if d.isDirectory l.here l.store.toString then .noTable else .notStore)
  | some s =>
    if s.table?.isNone then .error .noTable
    else
      match timeOf time, payload? with
      | .error e, _ => .error e
      | .ok time, some payload =>
        match (s.put? ⟨id, time, payload⟩).bind fun s => l.putStore s d with
        | some d => .ok d
        | none => .error .noValue
      | _, none => .error .noValue

/-- Adds an entry to the log; the answer says whether it is there. -/
def enterLine (l : Ledger) (e : HistoryEntry) (d : Disk) : Bool × Disk :=
  match d.makePath l.here l.log.parent with
  | .error _ => (false, d)
  | .ok d =>
    match d.append l.here l.log.toString (Bytes.ofString (e.record ++ "\n")) with
    | .ok d => (true, d)
    | .error _ => (false, d)

/-- Records an entry; the answer says whether both the store and the log took it. -/
def record (l : Ledger) (e : HistoryEntry) (d : Disk) : Bool × Disk :=
  let (stored, d) := l.enterRow e d
  let (logged, d) := l.enterLine e d
  (stored && logged, d)

/-- The rows from the latest to the earliest; of rows of one time the later put comes first. -/
def newestFirst (rows : List Row) : List Row :=
  arrange (fun a b => b.time < a.time) rows.reverse

/-- The most recent entries, up to a number of rows; a negative number is no limit. -/
def recent (l : Ledger) (limit : Int) (d : Disk) : Except LimitError (List HistoryEntry) :=
  match l.rows? d with
  | none => .ok []
  | some rows =>
    if !takes limit then .error .outOfRange
    else
      let newest := newestFirst rows
      let shown := if limit < 0 then newest else newest.take limit.toNat
      .ok (shown.filterMap fun r => HistoryEntry.read? r.payload)

/-- The entry of an identifier. -/
def get? (l : Ledger) (id : String) (d : Disk) : Option HistoryEntry :=
  (l.rows? d).bind fun rows =>
    (rows.find? (·.id == id)).bind fun r => HistoryEntry.read? r.payload

/-- Adds one to the count of a kind. -/
def countKind (k : BugKind) : List (BugKind × Nat) → List (BugKind × Nat)
  | [] => [(k, 1)]
  | (j, n) :: rest => if j = k then (j, n + 1) :: rest else (j, n) :: countKind k rest

/-- How often each kind occurs, by first appearance. -/
def countKinds (kinds : List BugKind) : List (BugKind × Nat) :=
  kinds.foldl (fun counts k => countKind k counts) []

/-- What entries amount to. -/
def statsOf (entries : List HistoryEntry) : LedgerStats :=
  let kinds := entries.flatMap (·.bugs)
  ⟨entries.length, kinds.length,
    arrange (fun a b => decide (b.2 < a.2)) (countKinds kinds),
    (entries.map (·.path)).eraseDups.length⟩

/-- What the ledger amounts to. -/
def stats (l : Ledger) (d : Disk) : LedgerStats :=
  statsOf (((l.rows? d).getD []).filterMap fun r => HistoryEntry.read? r.payload)

/-- The values of the lines of a log; blank lines and lines that are no JSON are skipped. -/
def readLines : List String → Except LogError (List Json)
  | [] => .ok []
  | line :: rest =>
    let line := Text.strip line
    if line = "" then readLines rest
    else
      match Json.read line with
      | .ok j => (readLines rest).map (j :: ·)
      | .error .malformed => readLines rest
      | .error .tooManyDigits => .error .tooManyDigits
      | .error .tooDeep => .error .tooDeep

/-- The values in the log, the oldest first. -/
def readLog (l : Ledger) (d : Disk) : Except LogError (List Json) :=
  match d.find l.here l.log.toString with
  | .error _ => .ok []
  | .ok _ =>
    match d.readText l.here l.log.toString with
    | .error e => .error (.read e)
    | .ok text => readLines (Text.split '\n' (String.ofList (Text.unifyBreaks text.toList)))

end Ledger

end Sabotage
