import Sabotage.Proofs.PhraseTrees
import Sabotage.Proofs.Regrouping
import Sabotage.Rule.Catalog

/-!
# Negating keeps the grouping

What the rule of negation asks of a place is answered by the nearest frames of its context: whether
the place is negated already (`isNegated_siteAt`), and whether the negation has to be put into
parentheses (`needsOuterGroup_siteAt`). So for a program that is one expression it negates the first
expression of truth that is not negated, the new text parses to the expression with that part
negated, up to parentheses, and it finds no place only where all are negated already
(`apply_negation`).
-/

namespace Sabotage

open Grammar (width width_append width_pos)

namespace Script

/-! ## Offsets -/

section
variable {x : Script} {ts us vs : List String} (c : x.Cut ts us vs)

/-- What is cut out begins after what stands before it. -/
theorem Cut.startAt (hus : us ≠ []) : x.startAt ts.length = width c.before := by
  have hfirst : ts.length = c.first.length := by simp [← c.tokens_first]
  have hinner : c.inner ≠ [] := by
    intro h
    exact hus (by rw [← c.tokens_inner, h]; rfl)
  obtain ⟨p, ps, hps⟩ := List.exists_cons_of_ne_nil hinner
  rw [Script.startAt, stopAt, c.parts_eq, hfirst, hps]
  simp [before, lead, hps, List.append_assoc]

/-- What is cut out ends after its text. -/
theorem Cut.stopAt : x.stopAt (ts.length + us.length) = width c.before + width (body c.inner) := by
  have hlength : ts.length + us.length = (c.first ++ c.inner).length := by
    simp [← c.tokens_first, ← c.tokens_inner]
  rw [Script.stopAt, c.parts_eq, hlength, List.take_left' rfl]
  simp [before, spell_eq c.inner, Nat.add_assoc]

/-- The ends of the tokens come one after the other. -/
theorem stopAt_le {j k : Nat} (hjk : j ≤ k) : x.stopAt j ≤ x.stopAt k := by
  obtain ⟨ps, hps⟩ := (List.take_prefix_take_left hjk : x.parts.take j <+: x.parts.take k)
  rw [Script.stopAt, Script.stopAt, ← hps, spell_append, width_append]
  exact Nat.le_add_right _ _

/-- Tokens begin one after the other. -/
theorem startAt_lt {j k : Nat} (hjk : j < k) (hk : k < x.tokens.length) :
    x.startAt j < x.startAt k := by
  have hj : j < x.parts.length := by
    rw [tokens, List.length_map] at hk
    omega
  have hpos : 0 < width x.parts[j].token := width_pos (x.reads.token_ne _ (List.getElem_mem hj))
  have hstop : x.stopAt (j + 1) = x.startAt j + width x.parts[j].token := by
    rw [Script.stopAt, List.take_succ_eq_append_getElem hj, spell_append, width_append]
    simp [spell, Script.startAt, Script.stopAt, List.getElem?_eq_getElem hj, Nat.add_assoc]
  calc x.startAt j < x.stopAt (j + 1) := by omega
    _ ≤ x.stopAt k := stopAt_le hjk
    _ ≤ x.startAt k := Nat.le_add_right _ _

end

end Script

namespace Phrase

/-- A script has an expression for its parse when its tokens derive it and no other. The script of a
text is the only one (`Script.text_injective`), so this is the parse of the text. -/
def Parses (x : Script) (e : Phrase) : Prop :=
  ∀ e', Derives .conditional x.tokens e' ↔ e' = e

/-- A script parses to the settled expression of its tokens. -/
theorem parses_iff {x : Script} {e : Phrase} :
    Parses x e ↔ x.tokens = e.tokens ∧ e.Settled ∧ e.root ≠ .list := by
  rw [← Level.admits_conditional_iff, ← derives_iff]
  refine ⟨fun h => (h e).2 rfl, fun h e' => ⟨fun h' => h'.unique h, ?_⟩⟩
  rintro rfl
  exact h

/-! ## What the rule asks of a place -/

variable {x : Script} {kindOf : Name → String} {d : Draft} {C : List Frame} {e N : Phrase}

/-- The text of a node that stands over what is cut out of the script of a draft. -/
theorem textOf_cut {ts us vs : List String} (c : x.Cut ts us vs) (hus : us ≠ [])
    (hd : d.source = Bytes.ofString x.text) {n : Node} (hstart : n.start = x.startAt ts.length)
    (hstop : n.stop = x.stopAt (ts.length + us.length)) :
    d.textOf n = .ok (Script.body c.inner) := by
  rw [c.startAt hus] at hstart
  refine Grammar.textOf_eq c.before c.after (by rw [hd, c.text_eq]) hstart ?_
  rw [hstop, c.stopAt, hstart]

/-- The text of a leaf is its token. -/
theorem textOf_leaf {ts vs : List String} {t : String} (h : x.tokens = ts ++ [t] ++ vs)
    (hd : d.source = Bytes.ofString x.text) (field? : Option Field) :
    d.textOf (leaf x t ts.length field?) = .ok t := by
  obtain ⟨c⟩ := Script.exists_cut h
  have hbody : Script.body c.inner = t := by
    obtain ⟨p, hp, ht⟩ := List.map_eq_singleton_iff.1 c.tokens_inner
    simp [hp, Script.body, Script.spell, ht]
  rw [textOf_cut c (List.cons_ne_nil t []) hd rfl rfl, hbody]

/-- The operator of a phrase at a place. -/
def operator? : Phrase → Option String
  | .binary op _ _ => some op.text
  | _ => none

/-- Which phrases have a tree of a kind that counts for the truth. -/
theorem kind_mem_weighty (hkind : ∀ n, kindOf n ∉ weighty) (h : e.kind kindOf ∈ weighty) :
    (∃ b, e = .truth b) ∨ ∃ op l r, e = .binary op l r := by
  cases e with
  | name n => exact absurd h (hkind n)
  | truth b => exact .inl ⟨b, rfl⟩
  | binary op l r => exact .inr ⟨op, l, r, rfl⟩
  | _ => exact absurd h (by simp [kind, weighty])

/-- The operator of a phrase at a place is read off its tree. -/
theorem binaryOperator_nodeAt (hkind : ∀ n, kindOf n ∉ weighty)
    (hx : x.tokens = (plug C e).tokens) (hd : d.source = Bytes.ofString x.text) :
    d.binaryOperator (nodeAt x kindOf C e) = .ok e.operator? := by
  by_cases hbinary : e.kind kindOf = "binary_expression"
  · have hkind' : (nodeAt x kindOf C e).kind = "binary_expression" := by simp [nodeAt, hbinary]
    have hweighty : e.kind kindOf ∈ weighty := by simp [hbinary, weighty]
    rcases kind_mem_weighty hkind hweighty with ⟨b, rfl⟩ | ⟨op, l, r, rfl⟩
    · cases b <;> simp [kind, truthText] at hbinary
    · have hchild : (nodeAt x kindOf C (.binary op l r)).child? .operator =
          some (leaf x op.text (before C ++ l.tokens).length (some .operator)) := by
        simp [nodeAt, node, branch, Node.child?, leaf]
      have htokens : x.tokens = (before C ++ l.tokens) ++ [op.text] ++ (r.tokens ++ behind C) := by
        simp [hx, tokens_plug, tokens, List.append_assoc]
      rw [Draft.binaryOperator, if_pos hkind', hchild]
      simp only [textOf_leaf htokens hd]
      rfl
  · have hkind' : (nodeAt x kindOf C e).kind ≠ "binary_expression" := by
      simpa [nodeAt] using hbinary
    rw [Draft.binaryOperator, if_neg hkind']
    cases e <;> first | rfl | exact absurd rfl hbinary

/-- The kind of the node above a place. -/
theorem kind_parent? {p : Node} (hp : (siteAt x kindOf C N).parent? = some p) :
    p.kind ≠ "literal_type" := by
  cases C with
  | nil =>
    cases hp
    simp [statement, branch]
  | cons f C =>
    cases hp
    cases f <;> simp [nodeAt, Frame.fill, kind]

/-- Whether the phrase at a place is an expression of truth is read off its tree. -/
theorem isTruthExpression_siteAt (hkind : ∀ n, kindOf n ∉ weighty)
    (hx : x.tokens = (plug C N).tokens) (hd : d.source = Bytes.ofString x.text) :
    Rule.isTruthExpression d (siteAt x kindOf C N) = .ok N.IsTruth := by
  have hoperator := binaryOperator_nodeAt hkind hx hd
  have hnode : (siteAt x kindOf C N).node = nodeAt x kindOf C N := rfl
  have hkind' : (nodeAt x kindOf C N).kind = N.kind kindOf := by simp [nodeAt]
  rw [Rule.isTruthExpression, hnode, hkind', hoperator]
  by_cases htruth : N.kind kindOf = "true" ∨ N.kind kindOf = "false"
  · have hweighty : N.kind kindOf ∈ weighty := by
      rcases htruth with h | h <;> simp [h, weighty]
    have hparent : (siteAt x kindOf C N).parent?.any (·.kind == "literal_type") = false := by
      refine (Option.any_eq_false _ _).2 fun p hp => ?_
      simpa using kind_parent? hp
    rw [if_pos htruth, hparent]
    rcases kind_mem_weighty hkind hweighty with ⟨b, rfl⟩ | ⟨op, l, r, rfl⟩
    · rfl
    · simp [kind] at htruth
  · rw [if_neg htruth]
    cases N with
    | truth b => cases b <;> simp [kind, truthText] at htruth
    | binary op l r =>
      simp only [operator?, Except.map, Operator.classify, Operator.ofText?_text, IsTruth]
      cases op.kind <;> rfl
    | _ => rfl

/-- What negates a place is the nearest frame that is no parenthesis. -/
theorem negated_cons {f : Frame} :
    Negated (f :: C) ↔ f = .signed .not ∨ f = .group ∧ Negated C := by
  constructor
  · rintro ⟨n | n, D, h⟩
    · exact .inl (List.cons.inj h).1
    · exact .inr ⟨(List.cons.inj h).1, n, D, (List.cons.inj h).2⟩
  · rintro (rfl | ⟨rfl, n, D, rfl⟩)
    · exact ⟨0, C, rfl⟩
    · exact ⟨n + 1, D, rfl⟩

/-- A place is negated exactly when its context says so. -/
theorem isNegated_siteAt : Rule.isNegated (siteAt x kindOf C N) = true ↔ Negated C := by
  induction C generalizing N with
  | nil =>
    have hnot : Rule.isNegated (siteAt x kindOf [] N) = false := by
      simp [Rule.isNegated, siteAt, nodesAbove, statement, branch]
    rw [hnot]
    constructor
    · intro h
      cases h
    · rintro ⟨n, D, h⟩
      simp at h
  | cons f C ih =>
    rw [negated_cons]
    cases f with
    | group =>
      have hup : Rule.isNegated (siteAt x kindOf (.group :: C) N) =
          Rule.isNegated (siteAt x kindOf C (.group N)) := by
        simp [Rule.isNegated, siteAt, nodesAbove, nodeAt, kind, Frame.fill]
      rw [hup, ih]
      simp
    | signed s =>
      have hsign : Rule.isNegated (siteAt x kindOf (.signed s :: C) N) = (s.text == "!") := by
        simp [Rule.isNegated, siteAt, nodesAbove, nodeAt, Frame.fill, node, branch, Node.child?,
          leaf]
      rw [hsign]
      cases s <;> simp [Sign.text]
    | _ => simp [Rule.isNegated, siteAt, nodesAbove, nodeAt, kind, Frame.fill]

/-- What fills a field of the node above a place is at the place when it has its key. -/
theorem fills_siteAt {f : Frame} {field : Field} {c : Node}
    (hchild : (nodeAt x kindOf C (f.fill N)).child? field = some c) :
    (siteAt x kindOf (f :: C) N).fills field = (c.key == (nodeAt x kindOf (f :: C) N).key) := by
  have hparent : (siteAt x kindOf (f :: C) N).parent? = some (nodeAt x kindOf C (f.fill N)) := rfl
  have hnode : (siteAt x kindOf (f :: C) N).node = nodeAt x kindOf (f :: C) N := rfl
  simp [Site.fills, Node.fills, hparent, hchild, hnode]

/-- A place has the field of its frame. -/
theorem fills_field {f : Frame} {field : Field} (hfield : f.field? = some field) :
    (siteAt x kindOf (f :: C) N).fills field = true := by
  have hchild : (nodeAt x kindOf C (f.fill N)).child? field =
      some (nodeAt x kindOf (f :: C) N) := by
    cases f with
    | alternative c a =>
      cases hfield
      have hlength : (before C).length + (Frame.alternative c a).before.length =
          (before C).length + (c.tokens.length + 1 + a.tokens.length + 1) := by
        simp [Frame.before]
        omega
      simp [nodeAt, Frame.fill, node, branch, Node.child?, leaf, before, hlength, fieldAt,
        Frame.field?]
    | _ =>
      cases hfield <;> simp [nodeAt, Frame.fill, node, branch, Node.child?, leaf, before,
        Frame.before, fieldAt, Frame.field?]
  rw [fills_siteAt hchild]
  exact beq_self_eq_true _

/-- What begins with the whole is not at a place that begins later. -/
theorem fills_siteAt_of_before {f : Frame} {field : Field} {e : Phrase}
    (hchild : (nodeAt x kindOf C (f.fill N)).child? field =
      some (e.node x kindOf (before C).length (some field)))
    (hbefore : f.before ≠ []) (hx : x.tokens = (plug (f :: C) N).tokens) :
    (siteAt x kindOf (f :: C) N).fills field = false := by
  have hlt : x.startAt (before C).length < x.startAt (before (f :: C)).length := by
    refine Script.startAt_lt ?_ ?_
    · have := List.length_pos_iff.2 hbefore
      simp only [before, List.length_append]
      omega
    · have := List.length_pos_iff.2 N.tokens_ne_nil
      rw [hx, tokens_plug, List.length_append, List.length_append]
      omega
  rw [fills_siteAt hchild, beq_eq_false_iff_ne]
  intro hkey
  have hstart := congrArg NodeKey.start hkey
  simp only [Node.key, nodeAt, start_node] at hstart
  omega

/-- A negation has to be put into parentheses where the nearest frame would take the `!` with
less. -/
theorem needsOuterGroup_siteAt (hkind : ∀ n, kindOf n ∉ weighty)
    (hx : x.tokens = (plug C N).tokens) (hd : d.source = Bytes.ofString x.text) (hN : N.IsTruth)
    (hs : (plug C N).Settled) :
    Rule.needsOuterGroup d (siteAt x kindOf C N) = .ok (C.head?.any Frame.parts) := by
  cases C with
  | nil =>
    simp [Rule.needsOuterGroup, siteAt, nodesAbove, Site.parent?, statement, branch,
      Draft.binaryOperator, Except.map]
  | cons f C =>
    have hparent : (siteAt x kindOf (f :: C) N).parent? = some (nodeAt x kindOf C (f.fill N)) := rfl
    have hkind' : (nodeAt x kindOf C (f.fill N)).kind = (f.fill N).kind kindOf := by simp [nodeAt]
    have hoperator : d.binaryOperator (nodeAt x kindOf C (f.fill N)) = .ok (f.fill N).operator? :=
      binaryOperator_nodeAt hkind hx hd
    have hfield {field : Field} (h : f.field? = some field) :
        (siteAt x kindOf (f :: C) N).fills field = true := fills_field h
    simp only [Rule.needsOuterGroup, hparent, hkind', hoperator, List.head?_cons, Option.any_some]
    cases f with
    | object | itemObject => simp [Frame.fill, kind, hfield rfl, Frame.parts]
    | function => simp [Frame.fill, kind, hfield rfl, Frame.parts]
    | constructor | bare =>
      have hconstructor := hfield rfl
      simp [Frame.fill, kind, hconstructor, Frame.parts]
    | index o =>
      have hobject : (siteAt x kindOf (.index o :: C) N).fills .object = false := by
        have hchild : (nodeAt x kindOf C (.item o N)).child? .object =
            some (o.node x kindOf (before C).length (some .object)) := by
          simp [nodeAt, node, branch, Node.child?]
        exact fills_siteAt_of_before hchild (by simp [Frame.before]) hx
      simp [Frame.fill, kind, hobject, Frame.parts]
    | callArguments | constructArguments =>
      have hroot := (settled_of_plug hs).1 _ rfl
      cases N with
      | truth | binary => cases hroot
      | _ => cases hN
    | left op r =>
      have hleft := hfield rfl
      cases op <;> simp [Frame.fill, kind, hleft, Frame.parts, operator?, Except.map, Operator.text]
    | right l op =>
      have hleft : (siteAt x kindOf (.right l op :: C) N).fills .left = false := by
        have hchild : (nodeAt x kindOf C (.binary op l N)).child? .left =
            some (l.node x kindOf (before C).length (some .left)) := by
          simp [nodeAt, node, branch, Node.child?]
        exact fills_siteAt_of_before hchild (by simp [Frame.before]) hx
      simp [Frame.fill, kind, hleft, Frame.parts, operator?, Except.map]
    | _ => simp [Frame.fill, kind, Frame.parts, operator?, Except.map]

/-! ## The plan -/

/-- What is put in place of the text of an expression of truth. -/
def negationText (C : List Frame) (N : Phrase) (text : String) : String :=
  let negated := if N.isBinary then "!(" ++ text ++ ")" else "!" ++ text
  if C.head?.any Frame.parts then "(" ++ negated ++ ")" else negated

/-- Nothing is planned for a node that is no expression of truth. -/
theorem planNegation_of_not_mem {s : Site} (h : s.node.kind ∉ weighty) :
    Rule.planNegation d s = .ok none := by
  simp only [weighty, List.mem_cons, List.not_mem_nil, or_false, not_or] at h
  have htruth : Rule.isTruthExpression d s = .ok false := by
    simp [Rule.isTruthExpression, Draft.binaryOperator, h, Except.map]
  rw [Rule.planNegation, htruth]
  rfl

/-- Nothing is planned for a place that has no expression of truth or that is negated. -/
theorem planNegation_eq_none (hkind : ∀ n, kindOf n ∉ weighty)
    (hx : x.tokens = (plug C N).tokens) (hd : d.source = Bytes.ofString x.text)
    (h : N.IsTruth → Negated C) : Rule.planNegation d (siteAt x kindOf C N) = .ok none := by
  rw [Rule.planNegation, isTruthExpression_siteAt hkind hx hd]
  cases hN : N.IsTruth with
  | false => rfl
  | true =>
    have hneg : Rule.isNegated (siteAt x kindOf C N) = true := isNegated_siteAt.2 (h hN)
    simp only [bind, Except.bind, hneg]
    rfl

/-- The negation of an expression of truth is planned where it is not negated. -/
theorem planNegation_eq_some (hkind : ∀ n, kindOf n ∉ weighty)
    (c : x.Cut (before C) N.tokens (behind C)) (hx : x.tokens = (plug C N).tokens)
    (hd : d.source = Bytes.ofString x.text) (hs : (plug C N).Settled) (hN : N.IsTruth)
    (hC : ¬Negated C) : Rule.planNegation d (siteAt x kindOf C N) = .ok (some (.single
      (Draft.replacement (nodeAt x kindOf C N) (negationText C N (Script.body c.inner))))) := by
  have hneg : Rule.isNegated (siteAt x kindOf C N) = false :=
    Bool.eq_false_iff.2 fun h => hC (isNegated_siteAt.1 h)
  have htext : d.textOf (nodeAt x kindOf C N) = .ok (Script.body c.inner) :=
    textOf_cut c N.tokens_ne_nil hd (by simp [nodeAt]) (by simp [nodeAt])
  have hnode : (siteAt x kindOf C N).node = nodeAt x kindOf C N := rfl
  have hlooser : Rule.looserThanNot.contains (nodeAt x kindOf C N).kind = N.isBinary := by
    cases N with
    | truth b => cases b <;> simp [nodeAt, kind, truthText, Rule.looserThanNot, isBinary]
    | binary => simp [nodeAt, kind, Rule.looserThanNot, isBinary]
    | _ => cases hN
  simp only [Rule.planNegation, isTruthExpression_siteAt hkind hx hd, hN, hneg, hnode, htext,
    hlooser, needsOuterGroup_siteAt hkind hx hd hN hs, bind, Except.bind]
  rfl

/-! ## The new text -/

/-- What is put in place of an expression of truth. -/
def negationParts (C : List Frame) (N : Phrase) (ps : List Script.Part) : List Script.Part :=
  Script.guardParts (Script.prepend "!" (Script.guardParts ps N.isBinary))
    (C.head?.any Frame.parts)

/-- The text of what is put in. -/
theorem body_negationParts (ps : List Script.Part) :
    Script.body (negationParts C N ps) = negationText C N (Script.body ps) := by
  have hopen : "!(" = "!" ++ "(" := by decide
  simp only [negationParts, negationText, Script.body_guardParts, Script.body_prepend]
  cases N.isBinary with
  | false => rfl
  | true =>
    have hgroup : "!(" ++ Script.body ps ++ ")" = "!" ++ ("(" ++ Script.body ps ++ ")") := by
      rw [hopen, String.append_assoc, String.append_assoc, String.append_assoc]
    simp only [↓reduceIte, hgroup]

/-- The tokens of what is put in. -/
theorem tokens_negationParts {ps : List Script.Part} (h : ps.map Script.Part.token = N.tokens) :
    (negationParts C N ps).map Script.Part.token = (negation C N).tokens := by
  simp only [negationParts, negation, Script.tokens_guardParts, Script.tokens_prepend, guarded, h]
  split <;> split <;> simp [tokens, Sign.text]

/-- The text of an expression of truth that is no binary expression. -/
theorem exists_truthText (hN : N.IsTruth) (hbinary : N.isBinary = false) :
    ∃ b, N.tokens = [truthText b] := by
  cases N with
  | truth b => exact ⟨b, rfl⟩
  | binary => cases hbinary
  | _ => cases hN

/-- The operand of the `!` begins with a parenthesis or with a letter. -/
theorem inert_negation {ps : List Script.Part} (h : ps.map Script.Part.token = N.tokens)
    (hN : N.IsTruth) (s : String) :
    Script.Inert ("!" ++ Script.body (Script.guardParts ps N.isBinary) ++ s).toList := by
  cases hbinary : N.isBinary with
  | true =>
    have htext : ("!" ++ Script.body (Script.guardParts ps true) ++ s).toList =
        '!' :: '(' :: (Script.body ps ++ ")" ++ s).toList := by
      simp [Script.body_guardParts]
    rw [htext]
    exact .negation _ (by decide) (by decide)
  | false =>
    obtain ⟨b, hb⟩ := exists_truthText hN hbinary
    obtain ⟨p, rfl, hp⟩ := List.map_eq_singleton_iff.1 (h.trans hb)
    obtain ⟨c, cs, hcs, hdash, hequals⟩ :
        ∃ c cs, (truthText b).toList = c :: cs ∧ c ≠ '-' ∧ c ≠ '=' := by
      cases b <;> exact ⟨_, _, rfl, by decide, by decide⟩
    have htext : ("!" ++ Script.body (Script.guardParts [p] false) ++ s).toList =
        '!' :: c :: (cs ++ s.toList) := by
      simp [Script.guardParts, Script.body, Script.spell, hp, hcs]
    rw [htext]
    exact .negation _ hdash hequals

/-- The new text parses to the expression with the negation. -/
theorem exists_negated (c : x.Cut (before C) N.tokens (behind C)) (hs : (plug C N).Settled)
    (hroot : (plug C N).root ≠ .list) (hN : N.IsTruth) :
    ∃ y : Script, y.text = c.before ++ negationText C N (Script.body c.inner) ++ c.after ∧
      Parses y (plug C (negation C N)) := by
  have hinert := inert_negation c.tokens_inner hN c.after
  have hsigned : Script.Reads (Script.prepend "!" (Script.guardParts c.inner N.isBinary)) c.after :=
    (c.reads.guarded _).prepend rfl hinert
  have hreads : Script.Reads (negationParts C N c.inner) c.after := hsigned.guarded _
  have hbody : Script.Inert (Script.body (negationParts C N c.inner) ++ c.after).toList := by
    rw [negationParts, Script.body_guardParts]
    split
    · rw [String.append_assoc, String.append_assoc, String.toList_append]
      exact .opening _
    · rwa [Script.body_prepend]
  obtain ⟨y, htokens, htext⟩ := c.exists_replaced (by simp [negationParts]) hreads hbody
  refine ⟨y, by rw [htext, body_negationParts],
    parses_iff.2 ⟨?_, settled_negation hs hN, root_plug_negation hroot hN⟩⟩
  rw [htokens, tokens_negationParts c.tokens_inner, tokens_plug]

/-! ## The rule -/

/-- Carrying out the plan puts the new text in. -/
theorem carryOut_replacement (c : x.Cut (before C) N.tokens (behind C)) (kindOf : Name → String)
    (hd : d.source = Bytes.ofString x.text) (parser : Parser) (new : String) :
    ∃ d', (Plan.single (Draft.replacement (nodeAt x kindOf C N) new)).carryOut parser d =
        .ok (true, d') ∧ d'.source = Bytes.ofString (c.before ++ new ++ c.after) := by
  have hstart : (nodeAt x kindOf C N).start = (Bytes.ofString c.before).length := by
    rw [nodeAt, start_node]
    exact c.startAt N.tokens_ne_nil
  have hstop : (nodeAt x kindOf C N).stop =
      (nodeAt x kindOf C N).start + (Bytes.ofString (Script.body c.inner)).length := by
    rw [hstart, nodeAt, stop_node]
    exact c.stopAt
  have happly : (Draft.replacement (nodeAt x kindOf C N) new).apply d.source =
      Bytes.ofString (c.before ++ new ++ c.after) := by
    rw [hd, c.text_eq, Bytes.ofString_append, Bytes.ofString_append, Draft.replacement,
      Edit.apply_append hstart hstop]
    simp only [Bytes.ofString_append]
  have hall : Edit.applyAll [Draft.replacement (nodeAt x kindOf C N) new] d.source =
      .ok (Bytes.ofString (c.before ++ new ++ c.after)) := by
    rw [← happly]
    rfl
  simp [Plan.carryOut, Plan.single, Draft.splice, hall]

/-- A search that nothing stops finds the first answer, or there is none. -/
theorem findSomeM?_cases {ε α β : Type} {f : α → Except ε (Option β)} {as : List α}
    (h : ∀ a ∈ as, ∃ found, f a = .ok found) :
    (∃ a ∈ as, ∃ b, f a = .ok (some b) ∧ as.findSomeM? f = .ok (some b)) ∨
      (∀ a ∈ as, f a = .ok none) ∧ as.findSomeM? f = .ok none := by
  induction as with
  | nil => exact .inr ⟨nofun, rfl⟩
  | cons a as ih =>
    obtain ⟨⟨found, hfound⟩, has⟩ := List.forall_mem_cons.1 h
    rw [List.findSomeM?_cons, hfound]
    cases found with
    | some b => exact .inl ⟨a, List.mem_cons_self, b, hfound, rfl⟩
    | none =>
      refine (ih has).imp ?_ (And.imp_left fun hnone => List.forall_mem_cons.2 ⟨hfound, hnone⟩)
      rintro ⟨a', ha', hb⟩
      exact ⟨a', List.mem_cons_of_mem a ha', hb⟩

/-- In a program that is one expression, the rule negates an expression of truth that is not negated
already, and nothing else: the new text parses to the expression with the negation in the place of
what is negated, up to parentheses. It finds nothing to negate only where every expression of truth
is negated. -/
theorem apply_negation (hkind : ∀ n, kindOf n ∉ weighty) (hx : Parses x e)
    (hd : d.source = Bytes.ofString x.text) (hroot : d.root = program x kindOf e)
    (parser : Parser) :
    ∃ changed d', BugKind.booleanNegation.apply parser d = .ok (changed, d') ∧
      (changed = true → ∃ C N y e', e = plug C N ∧ N.IsTruth ∧ ¬Negated C ∧
        d'.source = Bytes.ofString y.text ∧ Parses y e' ∧
        Regrouped (plug C (.signed .not N)) e') ∧
      (changed = false → d' = d ∧ ∀ C N, e = plug C N → N.IsTruth → Negated C) := by
  obtain ⟨htokens, hs, hlist⟩ := parses_iff.1 hx
  have hsites : d.sites = (program x kindOf e).sites := by rw [Draft.sites, hroot]
  -- Each place has its plan, and the other sites have none.
  have hplan : ∀ s ∈ d.sites, Rule.planNegation d s = .ok none ∨
      ∃ C N, e = plug C N ∧ s = siteAt x kindOf C N ∧ N.IsTruth ∧ ¬Negated C := by
    intro s hmem
    rcases mem_sites s (hsites ▸ hmem) with ⟨C, N, rfl, rfl⟩ | hother
    · by_cases h : N.IsTruth ∧ ¬Negated C
      · exact .inr ⟨C, N, rfl, rfl, h.1, h.2⟩
      · exact .inl (planNegation_eq_none hkind htokens hd fun hN => by_contra fun hC => h ⟨hN, hC⟩)
    · exact .inl (planNegation_of_not_mem hother)
  have hcut {C : List Frame} {N : Phrase} (he : e = plug C N) :
      Nonempty (x.Cut (before C) N.tokens (behind C)) :=
    Script.exists_cut (by rw [htokens, he, tokens_plug])
  have hfinish : ∀ s ∈ d.sites, ∃ found, Rule.planNegation d s = .ok found := by
    intro s hmem
    rcases hplan s hmem with hnone | ⟨C, N, rfl, rfl, hN, hC⟩
    · exact ⟨none, hnone⟩
    · obtain ⟨c⟩ := hcut rfl
      exact ⟨_, planNegation_eq_some hkind c htokens hd hs hN hC⟩
  rcases findSomeM?_cases hfinish with ⟨s, hmem, plan, hfound, hfind⟩ | ⟨hnone, hfind⟩
  · rcases hplan s hmem with hnone | ⟨C, N, rfl, rfl, hN, hC⟩
    · rw [hnone] at hfound
      cases hfound
    · obtain ⟨c⟩ := hcut rfl
      rw [planNegation_eq_some hkind c htokens hd hs hN hC] at hfound
      cases hfound
      obtain ⟨d', hcarry, hsource⟩ :=
        carryOut_replacement c kindOf hd parser (negationText C N (Script.body c.inner))
      obtain ⟨y, hy, hparses⟩ := exists_negated c hs hlist hN
      have happly : BugKind.booleanNegation.apply parser d = .ok (true, d') := by
        simpa [BugKind.apply, BugKind.plan?, Rule.findNegation, hfind] using hcarry
      refine ⟨true, d', happly, fun _ => ?_, fun h => by cases h⟩
      exact ⟨C, N, y, _, rfl, hN, hC, by rw [hsource, hy], hparses, regrouped_negation⟩
  · have happly : BugKind.booleanNegation.apply parser d = .ok (false, d) := by
      simp [BugKind.apply, BugKind.plan?, Rule.findNegation, hfind]
    refine ⟨false, d, happly, fun h => (by cases h), fun _ => ⟨rfl, ?_⟩⟩
    rintro C N rfl hN
    by_contra hC
    obtain ⟨c⟩ := hcut rfl
    have hnone := hnone _ (hsites ▸ siteAt_mem C N)
    rw [planNegation_eq_some hkind c htokens hd hs hN hC] at hnone
    cases hnone

/-- The name in the sample. -/
def nameF : Name :=
  ⟨⟨"f", by decide⟩, by decide⟩

/-- A call that has a negated truth value and an access to one. -/
def calledTruth : Phrase :=
  .call (.name nameF)
    (.arguments [.signed .not (.truth true), .member (.truth true) nameF.toWord] false)

/-- The text `f(!true, true.f)` cut into tokens. -/
def calledTruthScript : Script where
  parts := [⟨"", "f"⟩, ⟨"", "("⟩, ⟨"", "!"⟩, ⟨"", "true"⟩, ⟨"", ","⟩, ⟨" ", "true"⟩, ⟨"", "."⟩,
    ⟨"", "f"⟩, ⟨"", ")"⟩]
  last := ""
  reads := by decide +kernel
  blank := by decide

/-- The text of the call parses to it. -/
theorem parses_calledTruth : Parses calledTruthScript calledTruth := by
  have hnegated : (Phrase.signed .not (.truth true)).Settled := .signed rfl (.truth true)
  have haccess : (Phrase.member (.truth true) nameF.toWord).Settled := .member rfl (.truth true)
  refine parses_iff.2 ⟨rfl, .call rfl rfl (.name nameF) (.arguments nofun ?_ ?_), nofun⟩
  · exact List.forall_mem_cons.2 ⟨rfl, List.forall_mem_singleton.2 rfl⟩
  · exact List.forall_mem_cons.2 ⟨hnegated, List.forall_mem_singleton.2 haccess⟩

/-- A parser of the text of the call. -/
def calledTruthParser : Parser := fun _ _ =>
  program calledTruthScript (fun _ => "identifier") calledTruth

/-- The draft of the text of the call. -/
def calledTruthDraft : Draft :=
  Draft.ofSource calledTruthParser .tsx none (Bytes.ofString calledTruthScript.text)

/-- In the call there is a truth value to negate. -/
theorem apply_negation_calledTruth :
    Parses calledTruthScript calledTruth ∧
    ∃ changed d', BugKind.booleanNegation.apply calledTruthParser calledTruthDraft =
        .ok (changed, d') ∧
      (changed = true → ∃ C N y e', calledTruth = plug C N ∧ N.IsTruth ∧ ¬Negated C ∧
        d'.source = Bytes.ofString y.text ∧ Parses y e' ∧
        Regrouped (plug C (.signed .not N)) e') ∧
      (changed = false → d' = calledTruthDraft ∧
        ∀ C N, calledTruth = plug C N → N.IsTruth → Negated C) := by
  have hkind : ∀ _ : Name, "identifier" ∉ weighty := fun _ => by decide
  exact ⟨parses_calledTruth, apply_negation hkind parses_calledTruth rfl rfl _⟩

end Phrase

end Sabotage
