import Sabotage.Proofs.Lexing

/-!
# Expressions in a context

A context is the way from a place in an expression to its root, one frame a step, the nearest
first. What stands at the place counts for the whole by its root alone, and only for the nearest
frame: a settled expression stays settled when a part of it is replaced by a settled one that the
nearest frame takes without parentheses (`settled_plug`).

The text of an expression is the text at a place between what the context has before and after it
(`text_plug`), and another text at the place spells the tokens of the changed expression
(`spells_plug`).
-/

namespace Sabotage.Grammar

/-- One step from a part of an expression to the whole. -/
inductive Frame where
  | group
  | leftOf (op : Operator) (right : Expression)
  | rightOf (left : Expression) (op : Operator)

namespace Frame

/-- The expression around a part. -/
def fill : Frame → Expression → Expression
  | .group, e => .group e
  | .leftOf op r, e => .binary op e r
  | .rightOf l op, e => .binary op l e

/-- Whether a frame takes an expression without parentheses. -/
def Accepts : Frame → Expression → Prop
  | .group, _ => True
  | .leftOf op _, e => e.Fits op .left
  | .rightOf _ op, e => e.Fits op .right

/-- The text before the part. -/
def before : Frame → String
  | .group => "(" ++ " "
  | .leftOf _ _ => ""
  | .rightOf l op => l.text ++ " " ++ op.text ++ " "

/-- The text after the part. -/
def after : Frame → String
  | .group => " " ++ ")"
  | .leftOf op r => " " ++ op.text ++ " " ++ r.text
  | .rightOf _ _ => ""

variable {f : Frame} {e e' : Expression}

/-- In a settled expression a part is settled, and the frame takes it as it is. -/
theorem settled_of_fill (h : (f.fill e).Settled) : f.Accepts e ∧ e.Settled := by
  cases f with
  | group => exact ⟨trivial, h⟩
  | leftOf => exact ⟨h.1.1, h.2.1⟩
  | rightOf => exact ⟨h.1.2, h.2.2⟩

/-- A part can be replaced by a settled one that the frame takes. -/
theorem settled_fill (h : (f.fill e).Settled) (ha : f.Accepts e') (he' : e'.Settled) :
    (f.fill e').Settled := by
  cases f with
  | group => exact he'
  | leftOf => exact ⟨⟨ha, h.1.2⟩, he', h.2.2⟩
  | rightOf => exact ⟨⟨h.1.1, ha⟩, h.2.1, he'⟩

/-- The root of the whole does not depend on the part. -/
theorem root?_fill : (f.fill e).root? = (f.fill e').root? := by
  cases f <;> rfl

/-- What a frame takes depends on the root alone. -/
theorem accepts_congr (h : e.root? = e'.root?) : f.Accepts e ↔ f.Accepts e' := by
  cases f with
  | group => exact Iff.rfl
  | leftOf | rightOf => simp only [Accepts, Expression.Fits, h]

/-- The text around a part. -/
theorem text_fill : (f.fill e).text = f.before ++ e.text ++ f.after := by
  cases f with
  | group => simp [fill, before, after, Expression.text_group, String.append_assoc]
  | leftOf | rightOf => simp [fill, before, after, Expression.text_binary, String.append_assoc]

end Frame

/-- The expression with a part in a context. -/
def plug : List Frame → Expression → Expression
  | [], e => e
  | f :: C, e => plug C (f.fill e)

/-- The text before a place. -/
def before : List Frame → String
  | [] => ""
  | f :: C => before C ++ f.before

/-- The text after a place. -/
def after : List Frame → String
  | [] => ""
  | f :: C => f.after ++ after C

variable {C : List Frame} {e e' : Expression}

/-! ## Settled expressions -/

/-- A part of a settled expression is settled, and the nearest frame takes it as it is. -/
theorem settled_of_plug (h : (plug C e).Settled) : (∀ f ∈ C.head?, f.Accepts e) ∧ e.Settled := by
  induction C generalizing e with
  | nil => exact ⟨nofun, h⟩
  | cons f C ih =>
    obtain ⟨ha, he⟩ := Frame.settled_of_fill (ih h).2
    refine ⟨fun g hg => ?_, he⟩
    cases hg
    exact ha

/-- A part of a settled expression can be replaced by a settled one that the nearest frame takes. -/
theorem settled_plug (h : (plug C e).Settled) (ha : ∀ f ∈ C.head?, f.Accepts e')
    (he' : e'.Settled) : (plug C e').Settled := by
  induction C generalizing e e' with
  | nil => exact he'
  | cons f C ih =>
    obtain ⟨hout, hfill⟩ := settled_of_plug (C := C) h
    refine ih h (fun g hg => ?_) (Frame.settled_fill hfill (ha f rfl) he')
    exact (Frame.accepts_congr Frame.root?_fill).1 (hout g hg)

/-! ## Texts -/

/-- The text of an expression is that of a part between what stands around it. -/
theorem text_plug : (plug C e).text = before C ++ e.text ++ after C := by
  induction C generalizing e with
  | nil => simp [plug, before, after]
  | cons f C ih =>
    rw [plug, ih, Frame.text_fill]
    simp [before, after, String.append_assoc]

/-- A text for a part spells the tokens of the whole between the texts around it. -/
theorem Frame.spells_fill {f : Frame} {s : String} (h : Spells s e.tokens) :
    Spells (f.before ++ s ++ f.after) (f.fill e).tokens := by
  cases f with
  | group =>
    have := ((Spells.token .open).blank h).blank (.token .close)
    simpa [before, after, fill, Expression.tokens, Token.text, String.append_assoc] using this
  | leftOf op r =>
    have := (h.blank (.token (.operator op))).blank r.spells_text
    simpa [before, after, fill, Expression.tokens, Token.text, String.append_assoc] using this
  | rightOf l op =>
    have := (l.spells_text.blank (.token (.operator op))).blank h
    simpa [before, after, fill, Expression.tokens, Token.text, String.append_assoc] using this

/-- A text for a part spells the tokens of the whole in its context. -/
theorem spells_plug {s : String} (h : Spells s e.tokens) :
    Spells (before C ++ s ++ after C) (plug C e).tokens := by
  induction C generalizing e s with
  | nil => simpa [before, after, plug] using h
  | cons f C ih =>
    have := ih (Frame.spells_fill (f := f) h)
    simpa [before, after, plug, String.append_assoc] using this

/-! ## Parentheses put in -/

/-- An expression with parentheses put in around parts of it. -/
inductive Regrouped : Expression → Expression → Prop
  | atom (a : Atom) : Regrouped (.atom a) (.atom a)
  | group {e e' : Expression} : Regrouped e e' → Regrouped (.group e) (.group e')
  | binary {op : Operator} {l l' r r' : Expression} :
      Regrouped l l' → Regrouped r r' → Regrouped (.binary op l r) (.binary op l' r')
  | insert {e e' : Expression} : Regrouped e e' → Regrouped e (.group e')

/-- Parentheses may be put in nowhere. -/
theorem Regrouped.refl (e : Expression) : Regrouped e e := by
  induction e with
  | atom a => exact .atom a
  | group e ih => exact .group ih
  | binary op l r ihl ihr => exact .binary ihl ihr

/-- Parentheses put into a part are put into the whole. -/
theorem Regrouped.plug (h : Regrouped e e') : Regrouped (plug C e) (plug C e') := by
  induction C generalizing e e' with
  | nil => exact h
  | cons f C ih =>
    cases f with
    | group => exact ih (.group h)
    | leftOf op r => exact ih (.binary h (.refl r))
    | rightOf l op => exact ih (.binary (.refl l) h)

/-- An expression in parentheses, if it has to be. -/
def Expression.guarded (e : Expression) (needed : Bool) : Expression :=
  if needed then .group e else e

/-- Parentheses may be put around a whole. -/
theorem Regrouped.guarded (h : Regrouped e e') (needed : Bool) :
    Regrouped e (e'.guarded needed) := by
  cases needed with
  | false => exact h
  | true => exact .insert h

/-- Parentheses leave settled what they are put around. -/
theorem Expression.Settled.guarded (h : e.Settled) (needed : Bool) :
    (e.guarded needed).Settled := by
  cases needed with
  | false => exact h
  | true => exact h

/-- The text of an expression that is put into parentheses if it has to be. -/
def guardText (s : String) (needed : Bool) : String :=
  (if needed then "(" else "") ++ s ++ (if needed then ")" else "")

/-- The text with parentheses spells the expression in parentheses. -/
theorem Spells.guarded {s : String} (h : Spells s e.tokens) (needed : Bool) :
    Spells (guardText s needed) (e.guarded needed).tokens := by
  cases needed with
  | false => simpa [guardText, Expression.guarded] using h
  | true => exact h.parens

end Sabotage.Grammar
