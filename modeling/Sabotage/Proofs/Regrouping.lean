import Sabotage.Proofs.Layout
import Sabotage.Proofs.Splices

/-!
# Replacing an operator keeps the grouping

What a plan knows of an expression is the operators of the operands, of the whole and of its parent
(`operatorPlan_siteAt`). That is enough: parentheses around an operand that would be taken apart,
and around the whole where the nearest frame would take it apart, leave the expression settled at
every depth (`settled_rewritten`), so that its text parses to it again. The edits may insert two
parentheses at one offset, but then these are the same, so that their order does not count
(`Extent.edits_eq_of_bounds`).
-/

namespace Sabotage.Grammar

/-! ## The splice -/

/-- Where a binary expression, its operands and its operator begin and end. -/
structure Extent where
  start : Nat
  leftStop : Nat
  operatorStart : Nat
  operatorStop : Nat
  rightStart : Nat
  stop : Nat
  start_lt : start < leftStop
  leftStop_le : leftStop ≤ operatorStart
  operatorStart_lt : operatorStart < operatorStop
  operatorStop_le : operatorStop ≤ rightStart
  rightStart_lt : rightStart < stop

/-- Where parentheses have to be put in: around the operands and around the whole. -/
structure Guards where
  left : Bool
  right : Bool
  whole : Bool

/-- A parenthesis, if it has to be put in. -/
def insertIf (offset : Nat) (text : String) (needed : Bool) : List Edit :=
  if needed then [.insertion offset text] else []

namespace Extent
variable (x : Extent) (new : String) (g : Guards)

/-- The edits that replace the operator and put parentheses in. -/
def edits : List Edit :=
  ⟨x.operatorStart, x.operatorStop, new⟩ ::
    (insertIf x.start "(" g.left ++ insertIf x.leftStop ")" g.left) ++
    (insertIf x.rightStart "(" g.right ++ insertIf x.stop ")" g.right) ++
    (insertIf x.start "(" g.whole ++ insertIf x.stop ")" g.whole)

/-- The edits from the last to the first. -/
def falling : List Edit :=
  insertIf x.stop ")" g.whole ++ insertIf x.stop ")" g.right ++ insertIf x.rightStart "(" g.right ++
    [⟨x.operatorStart, x.operatorStop, new⟩] ++
    insertIf x.leftStop ")" g.left ++ insertIf x.start "(" g.left ++ insertIf x.start "(" g.whole

/-- Listed from the last to the first, the edits are the same. -/
theorem falling_perm : (x.falling new g).Perm (x.edits new g) := by
  refine List.perm_iff_count.2 fun e => ?_
  simp only [falling, edits, List.count_append, List.count_cons, List.count_nil, List.cons_append]
  omega

/-- Each edit ends before the one listed before it begins. -/
theorem falling_stop_le : (x.falling new g).Pairwise fun e f => f.stop ≤ e.start := by
  obtain ⟨start, leftStop, operatorStart, operatorStop, rightStart, stop, h₁, h₂, h₃, h₄, h₅⟩ := x
  obtain ⟨left, right, whole⟩ := g
  cases left <;> cases right <;> cases whole <;>
    simp [falling, insertIf, Edit.insertion] <;> omega

/-- The edits are the replacement and insertions at four places, with one text at each. -/
theorem mem_edits {e : Edit} (h : e ∈ x.edits new g) :
    e = ⟨x.operatorStart, x.operatorStop, new⟩ ∨ e = .insertion x.start "(" ∨
      e = .insertion x.leftStop ")" ∨ e = .insertion x.rightStart "(" ∨
      e = .insertion x.stop ")" := by
  have hinsert {offset : Nat} {text : String} {needed : Bool}
      (h : e ∈ insertIf offset text needed) : e = .insertion offset text :=
    List.mem_singleton.1 (List.mem_ite_nil_right.1 h).2
  simp only [edits, List.cons_append, List.mem_cons, List.mem_append] at h
  rcases h with h | ((h | h) | h | h) | h | h
  · exact .inl h
  · exact .inr (.inl (hinsert h))
  · exact .inr (.inr (.inl (hinsert h)))
  · exact .inr (.inr (.inr (.inl (hinsert h))))
  · exact .inr (.inr (.inr (.inr (hinsert h))))
  · exact .inr (.inl (hinsert h))
  · exact .inr (.inr (.inr (.inr (hinsert h))))

/-- The edits have their bounds in order. -/
theorem bounds_edits : ∀ e ∈ x.edits new g, e.start ≤ e.stop := by
  intro e he
  have := x.operatorStart_lt
  rcases x.mem_edits new g he with rfl | rfl | rfl | rfl | rfl <;> simp [Edit.insertion]
  omega

/-- Edits of equal bounds are equal. -/
theorem edits_eq_of_bounds : ∀ e ∈ x.edits new g, ∀ f ∈ x.edits new g,
    e.start = f.start → e.stop = f.stop → e = f := by
  intro e he f hf hstart hstop
  obtain ⟨h₁, h₂, h₃, h₄, h₅⟩ := And.intro x.start_lt (And.intro x.leftStop_le
    (And.intro x.operatorStart_lt (And.intro x.operatorStop_le x.rightStart_lt)))
  rcases x.mem_edits new g he with rfl | rfl | rfl | rfl | rfl <;>
    rcases x.mem_edits new g hf with rfl | rfl | rfl | rfl | rfl <;>
      first
        | rfl
        | (simp only [Edit.insertion] at hstart hstop; omega)

/-- Over the bytes of the parts, the edits give those parts with the new operator and the
parentheses. -/
theorem applyAll_edits {b l u o v r c : Bytes} (hstart : x.start = b.length)
    (hleft : x.leftStop = x.start + l.length) (hfrom : x.operatorStart = x.leftStop + u.length)
    (hto : x.operatorStop = x.operatorStart + o.length)
    (hright : x.rightStart = x.operatorStop + v.length) (hstop : x.stop = x.rightStart + r.length) :
    Edit.applyAll (x.edits new g) (b ++ l ++ u ++ o ++ v ++ r ++ c) =
      .ok (b ++ ((if g.whole then Bytes.ofString "(" else []) ++
        ((if g.left then Bytes.ofString "(" else []) ++ (l ++
        ((if g.left then Bytes.ofString ")" else []) ++ (u ++ (Bytes.ofString new ++ (v ++
        ((if g.right then Bytes.ofString "(" else []) ++ (r ++
        ((if g.right then Bytes.ofString ")" else []) ++
        ((if g.whole then Bytes.ofString ")" else []) ++ c)))))))))))) := by
  rw [Edit.applyAll_eq_foldl_of_perm (x.falling_perm new g) (x.falling_stop_le new g)
    (x.bounds_edits new g) (x.edits_eq_of_bounds new g)]
  simp only [falling, insertIf, List.foldl_append, List.foldl_cons, List.foldl_nil]
  -- Each edit leaves what is before it as it was, so that it is found by its length.
  have hr : x.stop = (b ++ l ++ u ++ o ++ v ++ r).length := by simp; omega
  have hv : x.rightStart = (b ++ l ++ u ++ o ++ v).length := by simp; omega
  have hu : x.operatorStart = (b ++ l ++ u).length := by simp; omega
  have hl : x.leftStop = (b ++ l).length := by simp; omega
  rw [Edit.foldl_insertion hr, Edit.foldl_insertion hr, List.append_assoc _ r,
    Edit.foldl_insertion hv, List.append_assoc _ v, Edit.apply_append hu hto,
    List.append_assoc (b ++ l ++ u), List.append_assoc (b ++ l), Edit.foldl_insertion hl,
    List.append_assoc b, Edit.foldl_insertion hstart, Edit.foldl_insertion hstart]

end Extent

/-! ## The plan -/

/-- Whether an expression needs parentheses on a side of an operator. -/
def Expression.asks (e : Expression) (outer : Operator) (side : Side) : Bool :=
  e.root?.any (Operator.groups · outer side)

/-- Whether a frame needs parentheses around a binary expression of an operator. -/
def Frame.asks : Frame → Operator → Bool
  | .group, _ => false
  | .leftOf outer _, op => Operator.groups op outer .left
  | .rightOf _ outer, op => Operator.groups op outer .right

/-- Where a new operator needs parentheses. -/
def guards (C : List Frame) (l r : Expression) (new : Operator) : Guards :=
  ⟨l.asks new .left, r.asks new .right, C.head?.any (·.asks new)⟩

/-- Where a binary expression in a context and its parts begin and end. -/
def extent (C : List Frame) (op : Operator) (l r : Expression) : Extent where
  start := offset C
  leftStop := offset C + width l.text
  operatorStart := offset C + width l.text + 1
  operatorStop := offset C + width l.text + 1 + width op.text
  rightStart := offset C + (width l.text + 1 + width op.text + 1)
  stop := offset C + (width l.text + 1 + width op.text + 1) + width r.text
  start_lt := Nat.lt_add_of_pos_right l.width_text_pos
  leftStop_le := Nat.le_succ _
  operatorStart_lt := Nat.lt_add_of_pos_right (width_pos op.text_ne_empty)
  operatorStop_le := by omega
  rightStart_lt := Nat.lt_add_of_pos_right r.width_text_pos

section
variable {d : Draft} {kindOf : Atom → String} {root : Option Field} {base : List Node}
variable {C : List Frame} {op : Operator} {l r e : Expression}

/-- A text is read at its range. -/
theorem textOf_eq (before after : String) {text : String} {n : Node}
    (hd : d.source = Bytes.ofString (before ++ text ++ after)) (hstart : n.start = width before)
    (hstop : n.stop = n.start + width text) : d.textOf n = .ok text := by
  have hcut : d.source.cut n.start n.stop = Bytes.ofString text := by
    rw [hd, Bytes.ofString_append, Bytes.ofString_append, Bytes.cut, List.append_assoc,
      List.drop_left' (hstart.symm : (Bytes.ofString before).length = n.start), hstop,
      Nat.add_sub_cancel_left]
    exact List.take_left' rfl
  simp only [Draft.textOf, hcut, Bytes.toString?_ofString]

/-- The operator of a part is read off its node. -/
theorem binaryOperator_node (hkind : ∀ a, kindOf a ≠ "binary_expression")
    (hd : d.source = Bytes.ofString (plug C e).text) (field? : Option Field) :
    d.binaryOperator (e.node kindOf (offset C) field?) = .ok (e.root?.map Operator.text) := by
  cases e with
  | atom a => exact if_neg (hkind a)
  | group e =>
    have hgroup : "parenthesized_expression" ≠ "binary_expression" := by decide
    exact if_neg hgroup
  | binary op l r =>
    have htext : d.textOf (tokenNode (.operator op) (offset C + width l.text + 1)
        (some .operator)) = .ok op.text := by
      refine textOf_eq (before C ++ l.text ++ " ") (" " ++ r.text ++ after C) ?_ ?_ rfl
      · rw [hd, text_plug, Expression.text_binary]
        simp [String.append_assoc]
      · simp [tokenNode, offset_eq]
    have hbinary : ((Expression.binary op l r).node kindOf (offset C) field?).kind =
        "binary_expression" := rfl
    rw [Draft.binaryOperator, if_pos hbinary, child?_operator]
    simp only [htext]
    rfl

/-- A new operator needs parentheses around an operand when the operand asks for them. -/
theorem wrapOperand_node (hkind : ∀ a, kindOf a ≠ "binary_expression")
    (hd : d.source = Bytes.ofString (plug C e).text) (field? : Option Field) (new : Operator)
    (side : Side) : d.wrapOperand (some (e.node kindOf (offset C) field?)) new.text side =
      .ok (if e.asks new side then Draft.wrap (e.node kindOf (offset C) field?) else []) := by
  simp only [Draft.wrapOperand, binaryOperator_node hkind hd, Expression.asks]
  obtain hroot | ⟨inner, hroot⟩ := Option.eq_none_or_eq_some e.root?
  · simp [hroot, Except.map]
  · simp [hroot, Except.map]

/-- The place on the left of an operator is not that of its right operand. -/
theorem fills_right_leftOf :
    (siteAt kindOf root base (.leftOf op r :: C) e).fills .right = false := by
  have hne : (r.node kindOf (offset C + (width e.text + 1 + width op.text + 1))
      (some .right)).key ≠ (e.node kindOf (offset C) (some .left)).key := by
    intro hkey
    have hstart := congrArg NodeKey.start hkey
    simp only [Node.key, Expression.start_node] at hstart
    omega
  simpa [Site.fills, Node.fills, Site.parent?, siteAt, nodesAbove, Frame.fill, offset, fieldAt,
    Frame.offset, Frame.field?] using hne

/-- The place on the right of an operator is that of its right operand. -/
theorem fills_right_rightOf :
    (siteAt kindOf root base (.rightOf l op :: C) e).fills .right = true := by
  simp [Site.fills, Node.fills, Site.parent?, siteAt, nodesAbove, Frame.fill, offset, fieldAt,
    Frame.offset, Frame.field?]

/-- A new operator needs parentheses around the whole when the nearest frame asks for them. -/
theorem wrapWhole_siteAt (hkind : ∀ a, kindOf a ≠ "binary_expression")
    (hbase : ∀ p ∈ base.head?, p.kind ≠ "binary_expression")
    (hd : d.source = Bytes.ofString (plug C e).text) (new : Operator) :
    d.wrapWhole (siteAt kindOf root base C e) new.text =
      .ok (if C.head?.any (·.asks new) then Draft.wrap (siteAt kindOf root base C e).node
        else []) := by
  cases C with
  | nil =>
    cases base with
    | nil => rfl
    | cons p base =>
      have hp : d.binaryOperator p = .ok none := if_neg (hbase p rfl)
      simp [Draft.wrapWhole, Site.parent?, siteAt, nodesAbove, hp, Except.map]
  | cons f C =>
    have hparent : (siteAt kindOf root base (f :: C) e).parent? =
        some ((f.fill e).node kindOf (offset C) (fieldAt root C)) := rfl
    have hfill : d.source = Bytes.ofString (plug C (f.fill e)).text := hd
    have hf := binaryOperator_node hkind hfill (fieldAt root C)
    simp only [Draft.wrapWhole, hparent, hf, List.head?_cons, Option.any_some]
    cases f with
    | group => rfl
    | leftOf op r =>
      simp only [Frame.fill, Expression.root?, Option.map_some, Except.map, fills_right_leftOf,
        Bool.false_eq_true, ↓reduceIte, Operator.groupingNeeded_text, Frame.asks]
      rfl
    | rightOf l op =>
      simp only [Frame.fill, Expression.root?, Option.map_some, Except.map, fills_right_rightOf,
        ↓reduceIte, Operator.groupingNeeded_text, Frame.asks]
      rfl

/-- Between blanks an operator needs no padding. -/
theorem padded_eq (before after : Bytes) {operator : Node} {t : String} {source : Bytes}
    (hsource : source = before ++ Bytes.ofString " " ++ Bytes.ofString t ++ Bytes.ofString " " ++
      after)
    (hstart : operator.start = before.length + 1) (hstop : operator.stop = operator.start + width t)
    (new : String) : Draft.padded source operator new = .ok new := by
  have hblank : Bytes.ofString " " = [32] := by decide
  have hbefore : source[operator.start - 1]? = some 32 := by
    rw [hsource, hstart, hblank]
    simp
  have hafter : source[operator.stop]? = some 32 := by
    have hlength : operator.stop =
        (before ++ Bytes.ofString " " ++ Bytes.ofString t).length := by
      simp only [hstop, hstart, hblank, width, List.length_append, List.length_singleton]
    rw [hsource, hlength, hblank, List.append_assoc _ [32],
      List.getElem?_append_right (Nat.le_refl _)]
    simp
  have hfusing : Draft.isFusing 32 = false := by decide
  simp [Draft.padded, hbefore, hafter, hfusing]

/-- Parentheses are put in at the two ends of a node, or not at all. -/
theorem wrap_eq (n : Node) (needed : Bool) : (if needed then Draft.wrap n else []) =
    insertIf n.start "(" needed ++ insertIf n.stop ")" needed := by
  cases needed <;> rfl

/-- The plan to replace an operator in a context. -/
theorem operatorPlan_siteAt (hkind : ∀ a, kindOf a ≠ "binary_expression")
    (hbase : ∀ p ∈ base.head?, p.kind ≠ "binary_expression")
    (hd : d.source = Bytes.ofString (plug C (.binary op l r)).text) (new : Operator) :
    d.operatorPlan (siteAt kindOf root base C (.binary op l r)) new.text =
      .ok ⟨(extent C op l r).edits new.text (guards C l r new), true⟩ := by
  have hpadded : Draft.padded d.source
      (tokenNode (.operator op) (offset C + width l.text + 1) (some .operator)) new.text =
        .ok new.text := by
    refine padded_eq (Bytes.ofString (before C ++ l.text)) (Bytes.ofString (r.text ++ after C))
      (t := op.text) ?_ ?_ rfl new.text
    · rw [hd, text_plug, Expression.text_binary]
      simp [Bytes.ofString_append, List.append_assoc]
    · simp [tokenNode, offset_eq, Bytes.ofString_append, width]
  have hleft : d.wrapOperand (some (l.node kindOf (offset C) (some .left))) new.text .left =
      .ok (if l.asks new .left then Draft.wrap (l.node kindOf (offset C) (some .left)) else []) :=
    wrapOperand_node (C := .leftOf op r :: C) hkind hd (some .left) new .left
  have hright : d.wrapOperand (some (r.node kindOf
      (offset C + (width l.text + 1 + width op.text + 1)) (some .right))) new.text .right =
      .ok (if r.asks new .right then Draft.wrap (r.node kindOf
        (offset C + (width l.text + 1 + width op.text + 1)) (some .right)) else []) :=
    wrapOperand_node (C := .rightOf l op :: C) hkind hd (some .right) new .right
  have hwhole : d.wrapWhole (siteAt kindOf root base C (.binary op l r)) new.text = _ :=
    wrapWhole_siteAt hkind hbase hd new
  have hnode : (siteAt kindOf root base C (.binary op l r)).node =
      (Expression.binary op l r).node kindOf (offset C) (fieldAt root C) := rfl
  have hstop : offset C + width (Expression.binary op l r).text = (extent C op l r).stop := by
    simp only [extent, Expression.text_binary, width_append, width_blank]
    omega
  simp only [Draft.operatorPlan, Draft.operatorEdits, hnode, child?_operator, child?_left,
    child?_right, hpadded, hleft, hright, hwhole, wrap_eq, Expression.start_node,
    Expression.stop_node, hstop]
  rfl

end

/-! ## The result -/

section
variable (C : List Frame) (op : Operator) (l r : Expression) (new : Operator)

/-- A binary expression with a new operator in its context, with the parentheses it needs. -/
def rewritten : Expression :=
  plug C ((Expression.binary new (l.guarded (guards C l r new).left)
    (r.guarded (guards C l r new).right)).guarded (guards C l r new).whole)

/-- Its text, with the parentheses close to what they are put around. -/
def rewrittenText : String :=
  before C ++ guardText (guardText l.text (guards C l r new).left ++ " " ++ new.text ++ " " ++
    guardText r.text (guards C l r new).right) (guards C l r new).whole ++ after C

/-- The edits of the plan give the text of the rewritten expression. -/
theorem applyAll_extent : Edit.applyAll ((extent C op l r).edits new.text (guards C l r new))
    (Bytes.ofString (plug C (.binary op l r)).text) =
      .ok (Bytes.ofString (rewrittenText C l r new)) := by
  have hblank : (Bytes.ofString " ").length = 1 := width_blank
  have happly := (extent C op l r).applyAll_edits new.text (guards C l r new)
    (b := Bytes.ofString (before C)) (l := Bytes.ofString l.text) (u := Bytes.ofString " ")
    (o := Bytes.ofString op.text) (v := Bytes.ofString " ") (r := Bytes.ofString r.text)
    (c := Bytes.ofString (after C)) (offset_eq C) rfl (by simp [extent, hblank]) rfl
    (by simp only [extent, hblank]; omega) rfl
  have hite (needed : Bool) (s : String) : Bytes.ofString (if needed then s else "") =
      if needed then Bytes.ofString s else [] := by
    cases needed <;> rfl
  rw [text_plug, Expression.text_binary]
  simp only [rewrittenText, guardText, Bytes.ofString_append, hite, List.append_assoc] at happly ⊢
  exact happly

/-- The text spells the tokens of the rewritten expression. -/
theorem spells_rewritten : Spells (rewrittenText C l r new) (rewritten C l r new).tokens := by
  have hl := l.spells_text.guarded (guards C l r new).left
  have hr := r.spells_text.guarded (guards C l r new).right
  have hbinary := (hl.blank (.token (.operator new))).blank hr
  rw [List.append_assoc] at hbinary
  exact spells_plug (Spells.guarded (e := .binary new _ _) hbinary _)

/-- Parentheses are put around an expression that asks for them, and it fits. -/
theorem Expression.fits_guarded (e : Expression) (outer : Operator) (side : Side) :
    (e.guarded (e.asks outer side)).Fits outer side := by
  intro inner hinner
  cases hasks : e.asks outer side with
  | true => rw [hasks] at hinner; cases hinner
  | false =>
    rw [hasks] at hinner
    exact (Option.any_eq_false _ _).1 hasks inner hinner

/-- Parentheses are put around an expression for the frame that asks for them, and it is taken. -/
theorem Frame.accepts_guarded (f : Frame) (l r : Expression) :
    f.Accepts ((Expression.binary new l r).guarded (f.asks new)) := by
  cases f with
  | group => trivial
  | leftOf op r' => exact (Expression.binary new l r).fits_guarded op .left
  | rightOf l' op => exact (Expression.binary new l r).fits_guarded op .right

variable {C op l r}

/-- The rewritten expression is settled. -/
theorem settled_rewritten (h : (plug C (.binary op l r)).Settled) :
    (rewritten C l r new).Settled := by
  obtain ⟨-, -, hl, hr⟩ := settled_of_plug h
  have hbinary : (Expression.binary new (l.guarded (guards C l r new).left)
      (r.guarded (guards C l r new).right)).Settled :=
    ⟨⟨l.fits_guarded new .left, r.fits_guarded new .right⟩, hl.guarded _, hr.guarded _⟩
  refine settled_plug h (fun f hf => ?_) (hbinary.guarded _)
  have hwhole : (guards C l r new).whole = f.asks new := by
    simp [guards, Option.mem_def.1 hf]
  rw [hwhole]
  exact f.accepts_guarded new _ _

/-- The rewritten expression has the new operator in its place, and else only parentheses more. -/
theorem regrouped_rewritten : Regrouped (plug C (.binary new l r)) (rewritten C l r new) :=
  (Regrouped.binary ((Regrouped.refl l).guarded _) ((Regrouped.refl r).guarded _)).guarded _ |>.plug

end

/-- Replacing the operator of a binary expression anywhere in an expression keeps the grouping: the
edits planned give a text that parses to the expression with the new operator in the place of the
old one, and with nothing else changed but parentheses put in. -/
theorem operatorPlan_regroups {kindOf : Atom → String}
    (hkind : ∀ a, kindOf a ≠ "binary_expression") {field? : Option Field} {above : List Node}
    (habove : ∀ p ∈ above.head?, p.kind ≠ "binary_expression") {e : Expression}
    (he : Parses e.text e) {d : Draft} (hd : d.source = Bytes.ofString e.text) {s : Site}
    (hs : s ∈ Site.walk [⟨e.node kindOf 0 field?, above⟩])
    (hbinary : s.node.kind = "binary_expression") (new : Operator) :
    ∃ C op l r plan text e', e = plug C (.binary op l r) ∧
      s = siteAt kindOf field? above C (.binary op l r) ∧
      d.operatorPlan s new.text = .ok plan ∧
      Edit.applyAll plan.edits d.source = .ok (Bytes.ofString text) ∧
      Parses text e' ∧ Regrouped (plug C (.binary new l r)) e' := by
  obtain ⟨C, op, l, r, rfl, rfl⟩ := exists_context_of_mem_walk hkind hs hbinary
  have hsettled := settled_rewritten new (parses_iff.1 he).2
  refine ⟨C, op, l, r, _, rewrittenText C l r new, rewritten C l r new, rfl, rfl,
    operatorPlan_siteAt hkind habove hd new, ?_, ?_, regrouped_rewritten new⟩
  · rw [hd]
    exact applyAll_extent C op l r new
  · exact parses_iff.2 ⟨lex_of_spells (spells_rewritten C l r new), hsettled⟩

/-! ## A product in a sum -/

/-- The atoms of the sample. -/
def sampleA : Expression := .atom ⟨"a", by decide, by decide, by decide⟩

@[inherit_doc sampleA]
def sampleB : Expression := .atom ⟨"b", by decide, by decide, by decide⟩

@[inherit_doc sampleA]
def sampleC : Expression := .atom ⟨"c", by decide, by decide, by decide⟩

/-- The expression `a * b + c`. -/
def sampleSum : Expression :=
  .binary .add (.binary .mul sampleA sampleB) sampleC

example : rewrittenText [.leftOf .add sampleC] sampleA sampleB .nullish = "(a ?? b) + c" := by
  decide

/-- The draft of the text of the sum, which is all of a program. -/
def sampleDraft : Draft :=
  Draft.ofSource (fun _ _ => sampleSum.node (fun _ => "identifier") 0 none) .tsx none
    (Bytes.ofString sampleSum.text)

/-- The text of the sum parses to it. -/
theorem parses_sampleSum : Parses sampleSum.text sampleSum := by
  refine parses_iff.2 ⟨lex_of_spells sampleSum.spells_text, ⟨?_, ?_⟩, ⟨⟨?_, ?_⟩, trivial, trivial⟩,
    trivial⟩
  · intro op hop
    cases hop
    decide
  · nofun
  · nofun
  · nofun

/-- The site of the product. -/
def sampleSite : Site :=
  siteAt (fun _ => "identifier") none [] [.leftOf .add sampleC] (.binary .mul sampleA sampleB)

/-- The site of the product is one of the draft. -/
theorem sampleSite_mem : sampleSite ∈ sampleDraft.sites := by
  have hchildren : (Site.mk sampleDraft.root []).children ++ [] =
      sampleSite :: (Site.mk sampleDraft.root []).children.tail := rfl
  rw [Draft.sites, Node.sites, Site.walk, hchildren, Site.walk]
  exact List.mem_cons_of_mem _ List.mem_cons_self

/-- The product in the sum becomes a coalescence of the same operands. -/
theorem operatorPlan_sampleSum :
    Parses sampleSum.text sampleSum ∧ sampleSite ∈ sampleDraft.sites ∧
      ∃ C op l r plan text e', sampleSum = plug C (.binary op l r) ∧
        sampleSite = siteAt (fun _ => "identifier") none [] C (.binary op l r) ∧
        sampleDraft.operatorPlan sampleSite "??" = .ok plan ∧
        Edit.applyAll plan.edits sampleDraft.source = .ok (Bytes.ofString text) ∧
        Parses text e' ∧ Regrouped (plug C (.binary .nullish l r)) e' := by
  have hkind : ∀ _ : Atom, "identifier" ≠ "binary_expression" := fun _ => by decide
  have habove : ∀ p ∈ ([] : List Node).head?, p.kind ≠ "binary_expression" := nofun
  exact ⟨parses_sampleSum, sampleSite_mem,
    operatorPlan_regroups hkind habove parses_sampleSum rfl sampleSite_mem rfl .nullish⟩

end Sabotage.Grammar
