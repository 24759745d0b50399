import Sabotage.Proofs.Scripts
import Sabotage.Proofs.Strata

/-!
# The language of expressions

Expressions are built from names and truth values by parentheses, prefix operators, accesses, calls
and constructions, binary operators and choices. The argument list of a call is a phrase of its own.
The grammar has a level for each nonterminal of the language standard, the strata of the binary
operators among them; the operand of a prefix operator and the left operand of `**` come from
different ones, so that a prefix operator needs parentheses there.

`derives_iff` says which lists of tokens derive a phrase: its own, and these exactly when every part
of the phrase is one that the place it stands in admits.
-/

namespace Sabotage

/-! ## Phrases -/

namespace Phrase

/-- A word of a script. -/
structure Word where
  text : String
  isWord : Script.IsWord text.toList

/-- The words that are no names because the expressions have a use for them. -/
def reservedWords : List String :=
  ["true", "false", "new", "in", "instanceof", "typeof", "void", "delete"]

/-- A word that is a name. -/
structure Name extends Word where
  not_reserved : text ∉ reservedWords

/-- A prefix operator. -/
inductive Sign where
  | not | complement | plus | minus | typeOf | void | delete
  deriving DecidableEq, Repr

/-- The spelling of a prefix operator. -/
def Sign.text : Sign → String
  | .not => "!"
  | .complement => "~"
  | .plus => "+"
  | .minus => "-"
  | .typeOf => "typeof"
  | .void => "void"
  | .delete => "delete"

/-- The spelling of a truth value. -/
def truthText : Bool → String
  | true => "true"
  | false => "false"

end Phrase

open Phrase in
/-- An expression, or the argument list of a call. -/
inductive Phrase where
  | name (n : Name)
  | truth (value : Bool)
  | group (e : Phrase)
  | signed (s : Sign) (e : Phrase)
  | member (object : Phrase) (property : Word)
  | item (object index : Phrase)
  | call (function arguments : Phrase)
  | construct (constructor arguments : Phrase)
  | bare (constructor : Phrase)
  | arguments (parts : List Phrase) (trailing : Bool)
  | binary (op : Operator) (left right : Phrase)
  | choice (condition consequence alternative : Phrase)

namespace Phrase

/-- What closes an argument list; a comma may stand before the parenthesis. -/
def closing : Bool → List String
  | true => [",", ")"]
  | false => [")"]

mutual
/-- The tokens in order. -/
def tokens : Phrase → List String
  | .name n => [n.text]
  | .truth b => [truthText b]
  | .group e => "(" :: tokens e ++ [")"]
  | .signed s e => s.text :: tokens e
  | .member o p => tokens o ++ [".", p.text]
  | .item o i => tokens o ++ "[" :: tokens i ++ ["]"]
  | .call f a => tokens f ++ tokens a
  | .construct c a => "new" :: tokens c ++ tokens a
  | .bare c => "new" :: tokens c
  | .arguments as trailing => "(" :: [","].intercalate (tokensAll as) ++ closing trailing
  | .binary op l r => tokens l ++ op.text :: tokens r
  | .choice c a b => tokens c ++ "?" :: tokens a ++ ":" :: tokens b

/-- The tokens of each phrase of a list. -/
def tokensAll : List Phrase → List (List String)
  | [] => []
  | a :: as => tokens a :: tokensAll as
end

/-- The phrases of a list have their tokens each. -/
@[simp] theorem tokensAll_eq_map (as : List Phrase) : tokensAll as = as.map tokens := by
  induction as with
  | nil => rfl
  | cons a as ih => rw [tokensAll, ih, List.map_cons]

/-- A phrase has tokens. -/
theorem tokens_ne_nil : ∀ e : Phrase, e.tokens ≠ []
  | .name _ | .truth _ | .group _ | .signed .. | .member .. | .item .. | .construct .. | .bare _
  | .arguments .. | .binary .. | .choice .. => by simp [tokens]
  | .call f a => by simp [tokens, tokens_ne_nil f]

/-! ## Roots and levels -/

/-- What a phrase is, as far as the places it may stand in are concerned. -/
inductive Root where
  | list | choice | binary (op : Operator) | signed | bare | call | member | primary
  deriving DecidableEq, Repr

/-- The root of an access: an access to a call is one to be called, but not to be constructed. -/
def Root.access : Root → Root
  | .call => .call
  | _ => .member

/-- The root of a phrase. -/
def root : Phrase → Root
  | .name _ | .truth _ | .group _ => .primary
  | .signed _ _ => .signed
  | .member o _ | .item o _ => o.root.access
  | .call _ _ => .call
  | .construct _ _ => .member
  | .bare _ => .bare
  | .arguments _ _ => .list
  | .binary op _ _ => .binary op
  | .choice _ _ _ => .choice

/-- The levels of the grammar; the tightest stratum is that of the prefix operators. -/
inductive Level where
  | arguments | conditional | stratum (s : Grammar.Stratum) | leftHand | construction | call
  | member | primary
  deriving DecidableEq, Repr

namespace Level

/-- The level of prefix operators and their operands. -/
abbrev unary : Level :=
  .stratum .primary

/-- The level of an operand: no prefix operator stands on the left of `**`. -/
def operand : Operator → Side → Level
  | .pow, .left => .leftHand
  | op, side => .stratum (.ofOperand op side)

/-- The levels that stand for a level by a unit production. -/
def units : Level → List Level
  | .arguments => []
  | .conditional => [.stratum .shortCircuit]
  | .stratum .primary => [.leftHand]
  | .stratum s => s.units.map .stratum
  | .leftHand => [.construction, .call]
  | .construction => [.member]
  | .call => []
  | .member => [.primary]
  | .primary => []

/-- Whether the phrases of a level include, without parentheses, those of a root. -/
def admits : Level → Root → Bool
  | .arguments, r => r == .list
  | _, .list => false
  | .conditional, _ => true
  | _, .choice => false
  | .stratum s, .binary op => s.admits (some op)
  | .stratum s, _ => s.admits none
  | _, .binary _ | _, .signed => false
  | .leftHand, _ => true
  | .construction, r => r != .call
  | .call, r => r == .call
  | .member, r => r == .member || r == .primary
  | .primary, r => r == .primary

end Level

/-- Whether something of a root can be accessed or called without parentheses. -/
def Root.isTarget (r : Root) : Bool :=
  Level.member.admits r || Level.call.admits r

/-- Every part of a phrase is one that the place it stands in admits. -/
inductive Settled : Phrase → Prop
  | name (n : Name) : Settled (.name n)
  | truth (b : Bool) : Settled (.truth b)
  | group {e : Phrase} : Level.conditional.admits e.root → Settled e → Settled (.group e)
  | signed {s : Sign} {e : Phrase} : Level.unary.admits e.root → Settled e → Settled (.signed s e)
  | member {o : Phrase} {p : Word} : o.root.isTarget → Settled o → Settled (.member o p)
  | item {o i : Phrase} : o.root.isTarget → Level.conditional.admits i.root →
      Settled o → Settled i → Settled (.item o i)
  | call {f a : Phrase} : f.root.isTarget → Level.arguments.admits a.root →
      Settled f → Settled a → Settled (.call f a)
  | construct {c a : Phrase} : Level.member.admits c.root → Level.arguments.admits a.root →
      Settled c → Settled a → Settled (.construct c a)
  | bare {c : Phrase} : Level.construction.admits c.root → Settled c → Settled (.bare c)
  | arguments {as : List Phrase} {trailing : Bool} : (trailing = true → as ≠ []) →
      (∀ a ∈ as, Level.conditional.admits a.root) → (∀ a ∈ as, Settled a) →
      Settled (.arguments as trailing)
  | binary {op : Operator} {l r : Phrase} : (Level.operand op .left).admits l.root →
      (Level.operand op .right).admits r.root → Settled l → Settled r → Settled (.binary op l r)
  | choice {c a b : Phrase} : (Level.stratum .shortCircuit).admits c.root →
      Level.conditional.admits a.root → Level.conditional.admits b.root →
      Settled c → Settled a → Settled b → Settled (.choice c a b)

/-! ## Derivations -/

/-- A list of tokens derives a phrase from a level. -/
inductive Derives : Level → List String → Phrase → Prop
  | name (n : Name) : Derives .primary [n.text] (.name n)
  | truth (b : Bool) : Derives .primary [truthText b] (.truth b)
  | group {ts : List String} {e : Phrase} :
      Derives .conditional ts e → Derives .primary ("(" :: ts ++ [")"]) (.group e)
  | signed {s : Sign} {ts : List String} {e : Phrase} :
      Derives .unary ts e → Derives .unary (s.text :: ts) (.signed s e)
  | member {s : Level} {ts : List String} {o : Phrase} {p : Word} : s = .member ∨ s = .call →
      Derives s ts o → Derives s (ts ++ [".", p.text]) (.member o p)
  | item {s : Level} {ts us : List String} {o i : Phrase} : s = .member ∨ s = .call →
      Derives s ts o → Derives .conditional us i → Derives s (ts ++ "[" :: us ++ ["]"]) (.item o i)
  | call {s : Level} {ts us : List String} {f a : Phrase} : s = .member ∨ s = .call →
      Derives s ts f → Derives .arguments us a → Derives .call (ts ++ us) (.call f a)
  | construct {ts us : List String} {c a : Phrase} :
      Derives .member ts c → Derives .arguments us a →
      Derives .member ("new" :: ts ++ us) (.construct c a)
  | bare {ts : List String} {c : Phrase} :
      Derives .construction ts c → Derives .construction ("new" :: ts) (.bare c)
  | arguments {items : List (List String × Phrase)} {trailing : Bool} :
      (trailing = true → items ≠ []) → (∀ x ∈ items, Derives .conditional x.1 x.2) →
      Derives .arguments ("(" :: [","].intercalate (items.map Prod.fst) ++ closing trailing)
        (.arguments (items.map Prod.snd) trailing)
  | binary {op : Operator} {us vs : List String} {l r : Phrase} :
      Derives (.operand op .left) us l → Derives (.operand op .right) vs r →
      Derives (.stratum (.ofOperator op)) (us ++ op.text :: vs) (.binary op l r)
  | choice {ts us vs : List String} {c a b : Phrase} :
      Derives (.stratum .shortCircuit) ts c → Derives .conditional us a →
      Derives .conditional vs b →
      Derives .conditional (ts ++ "?" :: us ++ ":" :: vs) (.choice c a b)
  | unit {s t : Level} {ts : List String} {e : Phrase} :
      t ∈ s.units → Derives t ts e → Derives s ts e

namespace Level

/-- The strata above that of the prefix operators are those of the binary operators. -/
theorem units_stratum {s : Grammar.Stratum} (h : s ≠ .primary) :
    (stratum s).units = s.units.map stratum := by
  cases s with
  | primary => exact absurd rfl h
  | _ => rfl

/-- A unit production admits nothing new. -/
theorem admits_of_units {s : Level} {r : Root} :
    ∀ t ∈ s.units, t.admits r = true → s.admits r = true := by
  cases s with
  | stratum s =>
    by_cases hs : s = .primary
    · subst hs
      cases r <;> simp [units, admits, Grammar.Stratum.admits]
    · rw [units_stratum hs, List.forall_mem_map]
      intro t ht
      have hop (op? : Option Operator) := @Grammar.Stratum.admits_of_units s op? t ht
      cases r <;> first | exact hop _ | exact id
  | _ => cases r <;> simp [units, admits, Grammar.Stratum.admits]

/-- The tightest level of the phrases of a root. -/
def ofRoot : Root → Level
  | .list => .arguments
  | .choice => .conditional
  | .binary op => .stratum (.ofOperator op)
  | .signed => .unary
  | .bare => .construction
  | .call => .call
  | .member => .member
  | .primary => .primary

/-- What a level admits is its own or admitted by a unit production. -/
theorem exists_units {s : Level} {r : Root} (h : s.admits r = true) :
    s = ofRoot r ∨ ∃ t ∈ s.units, t.admits r = true := by
  cases s with
  | stratum s =>
    by_cases hs : s = .primary
    · subst hs
      cases r <;> simp_all [units, admits, ofRoot, Grammar.Stratum.admits]
    · rw [units_stratum hs]
      have hop {op? : Option Operator} (h : s.admits op? = true) := Grammar.Stratum.exists_units h
      cases r with
      | list | choice => cases h
      | binary op =>
        refine (hop h).imp (congrArg stratum) ?_
        rintro ⟨t, ht, hadmits⟩
        exact ⟨_, List.mem_map_of_mem ht, hadmits⟩
      | signed | bare | call | member | primary =>
        obtain ⟨t, ht, hadmits⟩ := (hop h).resolve_left hs
        exact .inr ⟨_, List.mem_map_of_mem ht, hadmits⟩
  | _ => cases r <;> simp_all [units, admits, ofRoot, Grammar.Stratum.admits]

/-- How many unit productions can follow one another. -/
def height : Level → Nat
  | .arguments | .call | .primary => 0
  | .member => 1
  | .construction => 2
  | .leftHand => 3
  | .stratum s => s.height + 3
  | .conditional => 17

/-- A unit production leads down. -/
theorem height_lt_of_units {s : Level} : ∀ t ∈ s.units, t.height < s.height := by
  cases s with
  | stratum s =>
    by_cases hs : s = .primary
    · subst hs
      decide
    · rw [units_stratum hs, List.forall_mem_map]
      exact fun t ht => Nat.add_lt_add_right (Grammar.Stratum.height_lt_of_units t ht) 3
  | _ => decide

end Level

/-- What is admitted where something is accessed or called. -/
theorem Root.isTarget_iff {r : Root} :
    r.isTarget = true ↔ ∃ s : Level, (s = .member ∨ s = .call) ∧ s.admits r = true := by
  simp [isTarget, or_and_right, exists_or]

/-- An access comes from the level that its target comes from. -/
theorem Level.admits_access {s : Level} {r : Root} (hs : s = .member ∨ s = .call)
    (h : s.admits r = true) : s.admits r.access = true := by
  rcases hs with rfl | rfl <;> cases r <;> simp_all [admits, Root.access]

/-- What derives a phrase is its own tokens, and these only when it is settled. -/
theorem Derives.sound {s : Level} {ts : List String} {e : Phrase} (h : Derives s ts e) :
    ts = e.tokens ∧ e.Settled ∧ s.admits e.root = true := by
  induction h with
  | name n => exact ⟨rfl, .name n, rfl⟩
  | truth b => exact ⟨rfl, .truth b, rfl⟩
  | group _ ih =>
    obtain ⟨rfl, hs, hroot⟩ := ih
    exact ⟨rfl, .group hroot hs, rfl⟩
  | signed _ ih =>
    obtain ⟨rfl, hs, hroot⟩ := ih
    exact ⟨rfl, .signed hroot hs, rfl⟩
  | member hlevel _ ih =>
    obtain ⟨rfl, hs, hroot⟩ := ih
    exact ⟨rfl, .member (Root.isTarget_iff.2 ⟨_, hlevel, hroot⟩) hs,
      Level.admits_access hlevel hroot⟩
  | item hlevel _ _ iho ihi =>
    obtain ⟨rfl, ho, hroot⟩ := iho
    obtain ⟨rfl, hi, hindex⟩ := ihi
    exact ⟨rfl, .item (Root.isTarget_iff.2 ⟨_, hlevel, hroot⟩) hindex ho hi,
      Level.admits_access hlevel hroot⟩
  | call hlevel _ _ ihf iha =>
    obtain ⟨rfl, hf, hroot⟩ := ihf
    obtain ⟨rfl, ha, hlist⟩ := iha
    exact ⟨rfl, .call (Root.isTarget_iff.2 ⟨_, hlevel, hroot⟩) hlist hf ha, rfl⟩
  | construct _ _ ihc iha =>
    obtain ⟨rfl, hc, hroot⟩ := ihc
    obtain ⟨rfl, ha, hlist⟩ := iha
    exact ⟨rfl, .construct hroot hlist hc ha, rfl⟩
  | bare _ ih =>
    obtain ⟨rfl, hs, hroot⟩ := ih
    exact ⟨rfl, .bare hroot hs, rfl⟩
  | @arguments items trailing htrailing _ ih =>
    have htokens : items.map Prod.fst = (items.map Prod.snd).map tokens := by
      rw [List.map_map]
      exact List.map_congr_left fun x hx => (ih x hx).1
    refine ⟨by rw [tokens, tokensAll_eq_map, htokens], .arguments ?_ ?_ ?_, rfl⟩
    · simpa using htrailing
    · exact List.forall_mem_map.2 fun x hx => (ih x hx).2.2
    · exact List.forall_mem_map.2 fun x hx => (ih x hx).2.1
  | @binary op us vs l r _ _ ihl ihr =>
    obtain ⟨rfl, hl, hleft⟩ := ihl
    obtain ⟨rfl, hr, hright⟩ := ihr
    refine ⟨rfl, .binary hleft hright hl hr, ?_⟩
    cases op <;> rfl
  | choice _ _ _ ihc iha ihb =>
    obtain ⟨rfl, hc, hcondition⟩ := ihc
    obtain ⟨rfl, ha, hconsequence⟩ := iha
    obtain ⟨rfl, hb, halternative⟩ := ihb
    exact ⟨rfl, .choice hcondition hconsequence halternative hc ha hb, rfl⟩
  | unit ht _ ih =>
    obtain ⟨rfl, hs, hroot⟩ := ih
    exact ⟨rfl, hs, Level.admits_of_units _ ht hroot⟩

/-- A phrase is derived from every level that admits its root. -/
theorem Derives.of_admits {r : Root} {ts : List String} {e : Phrase}
    (h : Derives (.ofRoot r) ts e) {s : Level} (hs : s.admits r = true) : Derives s ts e := by
  -- The induction goes down the unit productions to the level of the root.
  induction hn : s.height using Nat.strongRecOn generalizing s with | _ n ih
  subst hn
  rcases Level.exists_units hs with rfl | ⟨t, ht, hadmits⟩
  · exact h
  · exact .unit ht (ih _ (Level.height_lt_of_units t ht) hadmits rfl)

/-- An access is derived from the level of its root. -/
theorem Derives.of_access {s : Level} {r : Root} {ts : List String} {e : Phrase}
    (h : Derives s ts e) (hlevel : s = .member ∨ s = .call) (hadmits : s.admits r = true) :
    Derives (.ofRoot r.access) ts e := by
  rcases hlevel with rfl | rfl <;> cases r <;> first | exact h | cases hadmits

/-- A settled phrase is derived from every level that admits it. -/
theorem Settled.derives {e : Phrase} (h : e.Settled) {s : Level} (hs : s.admits e.root = true) :
    Derives s e.tokens e := by
  suffices hroot : Derives (.ofRoot e.root) e.tokens e from hroot.of_admits hs
  clear hs
  induction h with
  | name n => exact .name n
  | truth b => exact .truth b
  | group hroot _ ih => exact .group (ih.of_admits hroot)
  | signed hroot _ ih => exact .signed (ih.of_admits hroot)
  | member hroot _ ih =>
    obtain ⟨s, hlevel, hadmits⟩ := Root.isTarget_iff.1 hroot
    exact (Derives.member hlevel (ih.of_admits hadmits)).of_access hlevel hadmits
  | item hroot hindex _ _ iho ihi =>
    obtain ⟨s, hlevel, hadmits⟩ := Root.isTarget_iff.1 hroot
    exact (Derives.item hlevel (iho.of_admits hadmits) (ihi.of_admits hindex)).of_access hlevel
      hadmits
  | call hroot hlist _ _ ihf iha =>
    obtain ⟨s, hlevel, hadmits⟩ := Root.isTarget_iff.1 hroot
    exact .call hlevel (ihf.of_admits hadmits) (iha.of_admits hlist)
  | construct hroot hlist _ _ ihc iha =>
    exact .construct (ihc.of_admits hroot) (iha.of_admits hlist)
  | bare hroot _ ih => exact .bare (ih.of_admits hroot)
  | @arguments as trailing htrailing hroot _ ih =>
    have hitems : ∀ x ∈ as.map fun a => (a.tokens, a), Derives .conditional x.1 x.2 :=
      List.forall_mem_map.2 fun a ha => (ih a ha).of_admits (hroot a ha)
    have hne : trailing = true → (as.map fun a => (a.tokens, a)) ≠ [] := by simpa using htrailing
    have h := Derives.arguments hne hitems
    simpa [tokens, root, Level.ofRoot, Function.comp_def] using h
  | binary hleft hright _ _ ihl ihr =>
    exact .binary (ihl.of_admits hleft) (ihr.of_admits hright)
  | choice hcondition hconsequence halternative _ _ _ ihc iha ihb =>
    exact .choice (ihc.of_admits hcondition) (iha.of_admits hconsequence)
      (ihb.of_admits halternative)

/-- The lists of tokens that derive a phrase from a level: its own, when it is settled and the level
admits it. -/
theorem derives_iff {s : Level} {ts : List String} {e : Phrase} :
    Derives s ts e ↔ ts = e.tokens ∧ e.Settled ∧ s.admits e.root = true := by
  refine ⟨Derives.sound, ?_⟩
  rintro ⟨rfl, h, hroot⟩
  exact h.derives hroot

end Phrase

end Sabotage
