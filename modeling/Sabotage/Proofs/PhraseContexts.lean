import Sabotage.Proofs.PhraseReading

/-!
# Phrases in a context

A context is the way from a place in a phrase to its root, one frame a step, the nearest first. A
settled phrase stays settled when a part of it is replaced by a settled one of the same standing
that the nearest frame accepts (`settled_plug`). So the negation of an expression of truth may stand
where the expression stood: in parentheses where the nearest frame would take the `!` with only the
first part of what follows it, and with its operand in parentheses when that is a binary expression
(`settled_negation`).
-/

namespace Sabotage.Phrase

/-! ## Frames -/

/-- One step from a part of a phrase to the whole. -/
inductive Frame where
  | group
  | signed (s : Sign)
  | object (property : Word)
  | itemObject (index : Phrase)
  | index (object : Phrase)
  | function (arguments : Phrase)
  | callArguments (function : Phrase)
  | constructor (arguments : Phrase)
  | constructArguments (constructor : Phrase)
  | bare
  | argument (before after : List Phrase) (trailing : Bool)
  | left (op : Operator) (right : Phrase)
  | right (left : Phrase) (op : Operator)
  | condition (consequence alternative : Phrase)
  | consequence (condition alternative : Phrase)
  | alternative (condition consequence : Phrase)

namespace Frame

/-- The phrase around a part. -/
def fill : Frame → Phrase → Phrase
  | .group, e => .group e
  | .signed s, e => .signed s e
  | .object p, e => .member e p
  | .itemObject i, e => .item e i
  | .index o, e => .item o e
  | .function a, e => .call e a
  | .callArguments f, e => .call f e
  | .constructor a, e => .construct e a
  | .constructArguments c, e => .construct c e
  | .bare, e => .bare e
  | .argument before after trailing, e => .arguments (before ++ e :: after) trailing
  | .left op r, e => .binary op e r
  | .right l op, e => .binary op l e
  | .condition a b, e => .choice e a b
  | .consequence c b, e => .choice c e b
  | .alternative c a, e => .choice c a e

/-- Whether a frame takes a phrase of a root without parentheses. -/
def accepts : Frame → Root → Bool
  | .group | .index _ | .argument .. | .consequence .. | .alternative .. => Level.conditional.admits
  | .signed _ => Level.unary.admits
  | .object _ | .itemObject _ | .function _ => Root.isTarget
  | .callArguments _ | .constructArguments _ => Level.arguments.admits
  | .constructor _ => Level.member.admits
  | .bare => Level.construction.admits
  | .left op _ => (Level.operand op .left).admits
  | .right _ op => (Level.operand op .right).admits
  | .condition .. => (Level.stratum .shortCircuit).admits

/-- The tokens before the part. -/
def before : Frame → List String
  | .group => ["("]
  | .signed s => [s.text]
  | .object _ | .itemObject _ | .function _ | .left .. | .condition .. => []
  | .index o => o.tokens ++ ["["]
  | .callArguments f => f.tokens
  | .constructor _ | .bare => ["new"]
  | .constructArguments c => "new" :: c.tokens
  | .argument before _ _ => "(" :: before.flatMap fun a => a.tokens ++ [","]
  | .right l op => l.tokens ++ [op.text]
  | .consequence c _ => c.tokens ++ ["?"]
  | .alternative c a => c.tokens ++ "?" :: a.tokens ++ [":"]

/-- The tokens after the part. -/
def after : Frame → List String
  | .group => [")"]
  | .signed _ | .callArguments _ | .constructArguments _ | .bare | .right .. | .alternative .. => []
  | .object p => [".", p.text]
  | .itemObject i => "[" :: i.tokens ++ ["]"]
  | .index _ => ["]"]
  | .function a | .constructor a => a.tokens
  | .argument _ after trailing => (after.flatMap fun a => "," :: a.tokens) ++ closing trailing
  | .left op r => op.text :: r.tokens
  | .condition a b => "?" :: a.tokens ++ ":" :: b.tokens
  | .consequence _ b => ":" :: b.tokens

variable {f : Frame} {e e' : Phrase}

/-- The tokens of an argument list around one of its parts. -/
theorem intercalate_around (us vs : List (List String)) (t : List String) :
    [","].intercalate (us ++ t :: vs) =
      (us.flatMap fun u => u ++ [","]) ++ t ++ vs.flatMap fun v => "," :: v := by
  induction us with
  | nil =>
    induction vs generalizing t with
    | nil => simp
    | cons v vs ih =>
      have hv := ih v
      rw [List.nil_append] at hv ⊢
      rw [List.intercalate_cons_cons, hv]
      simp
  | cons u us ih =>
    rw [List.cons_append, List.intercalate_cons_of_ne_nil (by simp), ih]
    simp

/-- The tokens around a part. -/
theorem tokens_fill : (f.fill e).tokens = f.before ++ e.tokens ++ f.after := by
  cases f with
  | argument before after trailing =>
    simp [fill, tokens, Frame.before, Frame.after, intercalate_around, List.flatMap_map]
  | _ => simp [fill, tokens, before, after]

/-- In a settled phrase a part is settled, and the frame takes it as it is. -/
theorem settled_of_fill (h : (f.fill e).Settled) : f.accepts e.root = true ∧ e.Settled := by
  cases f with
  | argument before after trailing =>
    cases h with
    | arguments _ hroot hs => exact ⟨hroot e (by simp), hs e (by simp)⟩
  | _ => cases h; exact ⟨‹_›, ‹_›⟩

/-- A part can be replaced by a settled one that the frame takes. -/
theorem settled_fill (h : (f.fill e).Settled) (haccepts : f.accepts e'.root = true)
    (he' : e'.Settled) : (f.fill e').Settled := by
  cases f with
  | argument before after trailing =>
    cases h with
    | arguments _ hroot hs =>
      simp only [List.forall_mem_append, List.forall_mem_cons] at hroot hs
      refine .arguments (fun _ => by simp) ?_ ?_
      · exact List.forall_mem_append.2 ⟨hroot.1, List.forall_mem_cons.2 ⟨haccepts, hroot.2.2⟩⟩
      · exact List.forall_mem_append.2 ⟨hs.1, List.forall_mem_cons.2 ⟨he', hs.2.2⟩⟩
  | _ => cases h; constructor <;> assumption

/-- The root of the whole depends on how the part is accessed at most. -/
theorem root_fill (h : e.root.access = e'.root.access) : (f.fill e).root = (f.fill e').root := by
  cases f <;> first | rfl | exact h

end Frame

/-! ## Contexts -/

/-- The phrase with a part in a context. -/
def plug : List Frame → Phrase → Phrase
  | [], e => e
  | f :: C, e => plug C (f.fill e)

/-- The tokens before a place. -/
def before : List Frame → List String
  | [] => []
  | f :: C => before C ++ f.before

/-- The tokens after a place. -/
def behind : List Frame → List String
  | [] => []
  | f :: C => f.after ++ behind C

variable {C : List Frame} {e e' N : Phrase} {f : Frame}

/-- The tokens of a phrase are those of a part between what stands around it. -/
theorem tokens_plug : (plug C e).tokens = before C ++ e.tokens ++ behind C := by
  induction C generalizing e with
  | nil => simp [plug, before, behind]
  | cons f C ih =>
    rw [plug, ih, Frame.tokens_fill]
    simp [before, behind, List.append_assoc]

/-- A part of a settled phrase is settled, and the nearest frame takes it as it is. -/
theorem settled_of_plug (h : (plug C e).Settled) :
    (∀ f ∈ C.head?, f.accepts e.root = true) ∧ e.Settled := by
  induction C generalizing e with
  | nil => exact ⟨nofun, h⟩
  | cons f C ih =>
    obtain ⟨haccepts, he⟩ := Frame.settled_of_fill (ih h).2
    refine ⟨fun g hg => ?_, he⟩
    cases hg
    exact haccepts

/-- A part of a settled phrase can be replaced by a settled one that is accessed alike and that the
nearest frame takes. -/
theorem settled_plug (h : (plug C e).Settled) (haccepts : ∀ f ∈ C.head?, f.accepts e'.root = true)
    (haccess : ∀ f ∈ C.head?, (f.fill e).root = (f.fill e').root) (he' : e'.Settled) :
    (plug C e').Settled := by
  induction C generalizing e e' with
  | nil => exact he'
  | cons f C ih =>
    obtain ⟨hout, hfill⟩ := settled_of_plug (C := C) h
    have hroot := haccess f rfl
    refine ih h (fun g hg => hroot ▸ hout g hg) (fun g hg => ?_)
      (Frame.settled_fill hfill (haccepts f rfl) he')
    exact Frame.root_fill (congrArg Root.access hroot)

/-- The root of the whole depends on the root of a part at most. -/
theorem root_plug (h : e.root = e'.root) : (plug C e).root = (plug C e').root := by
  induction C generalizing e e' with
  | nil => exact h
  | cons f C ih => exact ih (Frame.root_fill (congrArg Root.access h))

/-! ## Parentheses put in -/

/-- A phrase with parentheses put in around parts of it. -/
inductive Regrouped : Phrase → Phrase → Prop
  | refl (e : Phrase) : Regrouped e e
  | insert (e : Phrase) : Regrouped e (.group e)
  | fill (f : Frame) {e e' : Phrase} : Regrouped e e' → Regrouped (f.fill e) (f.fill e')
  | trans {e e' e'' : Phrase} : Regrouped e e' → Regrouped e' e'' → Regrouped e e''

/-- Parentheses put into a part are put into the whole. -/
theorem Regrouped.plug (h : Regrouped e e') : Regrouped (plug C e) (plug C e') := by
  induction C generalizing e e' with
  | nil => exact h
  | cons f C ih => exact ih (.fill f h)

/-- An expression in parentheses, if it has to be. -/
def guarded (e : Phrase) (needed : Bool) : Phrase :=
  if needed then .group e else e

/-- Parentheses may be put around a whole. -/
theorem Regrouped.guarded (e : Phrase) (needed : Bool) : Regrouped e (e.guarded needed) := by
  cases needed with
  | false => exact .refl e
  | true => exact .insert e

/-! ## Negations -/

/-- Whether a phrase is a truth value, a comparison or a logical expression. -/
def IsTruth : Phrase → Bool
  | .truth _ => true
  | .binary op _ _ => [.equality, .ordering, .relationalKeyword, .logical].contains op.kind
  | _ => false

/-- Whether a phrase is a binary expression. -/
def isBinary : Phrase → Bool
  | .binary .. => true
  | _ => false

/-- A place in a context is, through any parentheses, the operand of `!`. -/
def Negated (C : List Frame) : Prop :=
  ∃ n D, C = List.replicate n .group ++ .signed .not :: D

/-- Whether a frame would take a `!` with only the first part of what follows it. -/
def Frame.parts : Frame → Bool
  | .object _ | .itemObject _ | .function _ | .constructor _ | .bare | .left .pow _ => true
  | _ => false

/-- The negation of an expression, with the parentheses that it needs. -/
def negation (C : List Frame) (N : Phrase) : Phrase :=
  (signed .not (N.guarded N.isBinary)).guarded (C.head?.any Frame.parts)

/-- A frame that takes a truth value or a binary expression takes a negation, or what is in
parentheses where it would take the `!` with less. -/
theorem Frame.accepts_negation (f : Frame) {r : Root}
    (hr : r = .primary ∨ ∃ op, r = .binary op) (h : f.accepts r = true) :
    f.accepts (if f.parts then .primary else .signed) = true := by
  cases f with
  | left op right =>
    cases op <;> rfl
  | right left op =>
    cases op <;> rfl
  | callArguments | constructArguments => rcases hr with rfl | ⟨op, rfl⟩ <;> cases h
  | _ => rfl

/-- The root of a negation. -/
theorem root_negation :
    (negation C N).root = if C.head?.any Frame.parts then .primary else .signed := by
  rw [negation, guarded]
  split <;> rfl

/-- The negation of a settled expression of truth is settled. -/
theorem Settled.negation (h : N.Settled) (hN : N.IsTruth) (C : List Frame) :
    (negation C N).Settled := by
  have hinner : (Phrase.signed .not (N.guarded N.isBinary)).Settled := by
    cases h with
    | truth b => exact .signed rfl (.truth b)
    | binary hleft hright hl hr => exact .signed rfl (.group rfl (.binary hleft hright hl hr))
    | _ => cases hN
  rw [Phrase.negation, guarded]
  split
  · exact .group rfl hinner
  · exact hinner

/-- The root of an expression of truth. -/
theorem root_of_isTruth (hN : N.IsTruth) : N.root = .primary ∨ ∃ op, N.root = .binary op := by
  cases N with
  | truth b => exact .inl rfl
  | binary op l r => exact .inr ⟨op, rfl⟩
  | _ => cases hN

/-- A negation is accessed like the expression. -/
theorem access_negation (hN : N.IsTruth) : N.root.access = (negation C N).root.access := by
  rw [root_negation]
  rcases root_of_isTruth hN with hroot | ⟨op, hroot⟩ <;> rw [hroot] <;> split <;> rfl

/-- The negation of an expression of truth may stand where the expression stands. -/
theorem settled_negation (h : (plug C N).Settled) (hN : N.IsTruth) :
    (plug C (negation C N)).Settled := by
  obtain ⟨haccepts, hs⟩ := settled_of_plug h
  refine settled_plug h (fun f hf => ?_) (fun f _ => Frame.root_fill (access_negation hN))
    (hs.negation hN C)
  rw [root_negation, hf, Option.any_some]
  exact f.accepts_negation (root_of_isTruth hN) (haccepts f hf)

/-- With a negation in it, an expression is an expression. -/
theorem root_plug_negation (h : (plug C N).root ≠ .list) (hN : N.IsTruth) :
    (plug C (negation C N)).root ≠ .list := by
  cases C with
  | nil => nofun
  | cons f C =>
    have hroot : (f.fill N).root = (f.fill (negation (f :: C) N)).root :=
      Frame.root_fill (access_negation hN)
    have hplug : (plug C (f.fill N)).root = (plug C (f.fill (negation (f :: C) N))).root :=
      root_plug hroot
    exact hplug ▸ h

/-- The negation of an expression is its operand with a `!`, up to parentheses. -/
theorem regrouped_negation : Regrouped (plug C (.signed .not N)) (plug C (negation C N)) := by
  have hinner : Regrouped (.signed .not N) (.signed .not (N.guarded N.isBinary)) :=
    .fill (.signed .not) (.guarded N N.isBinary)
  exact (hinner.trans (.guarded _ _)).plug

end Sabotage.Phrase
