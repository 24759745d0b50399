import Sabotage.Digest.Sha256
import Sabotage.Draft
import Sabotage.Json.Basic

/-!
# Tables of parses

Parses made beforehand stand in for a parser. A table holds them under the language and the digest
of the text. A parse is a listing of the nodes of its tree in source order, parents first, each with
its depth; `Node.ofListing` makes the tree again.
-/

namespace Sabotage

namespace Node

/-- Puts a node of a depth, without children yet, before the trees of the nodes after it: those at
the front that lie deeper become its children. -/
def adopt (depth : Nat) (n : Node) (trees : List (Nat × Node)) : List (Nat × Node) :=
  let isBelow : Nat × Node → Bool := fun t => depth < t.1
  (depth, { n with children := (trees.takeWhile isBelow).map Prod.snd }) :: trees.dropWhile isBelow

/-- The trees of a listing. -/
def ofListing (rows : List (Nat × Node)) : List Node :=
  (rows.foldr (fun row trees => adopt row.1 row.2 trees) []).map Prod.snd

/-- The root of a parse without faults of which nothing else is known. -/
def blankRoot : Node := ⟨"program", true, false, 0, 0, none, []⟩

end Node

namespace ParseTable

/-- A whole number. -/
def number (j : Json) : Nat :=
  match j with
  | .int n => n.toNat
  | _ => 0

/-- The row of a listing: depth, kind, flags, the offsets of the first byte and after the last one,
and perhaps the field. The first flag is that of a named node, the second that of a missing one. -/
def row (j : Json) : Nat × Node :=
  let entry (i : Nat) : Json := j.items.getD i .null
  let flags := number (entry 2)
  (number (entry 0), ⟨(entry 1).text?.getD "", flags % 2 == 1, flags / 2 % 2 == 1, number (entry 3),
    number (entry 4), (entry 5).text?.bind Field.ofText?, []⟩)

/-- The key of a text. -/
def key (l : Language) (source : Bytes) : String :=
  l.name ++ ":" ++ ((Sha256.hexDigest source).take 16).toString

/-- The parser that looks texts up in a table. A text that is not there has no faults. -/
def parser (table : Json.Fields) : Parser := fun l source =>
  match Table.lookup (key l source : Text.Spelling) table with
  | some listing => ((Node.ofListing (listing.items.map row)).head?).getD Node.blankRoot
  | none => Node.blankRoot

end ParseTable

end Sabotage
