import Sabotage.Proofs.RulePlans
import Sabotage.Proofs.Seams

/-!
# Smooth plans

Of a parse it is relied on that the nodes a rule edits lie within the text and neither begin nor end
with a line break, and that names and operators hold none (`Parser.Tidy`). All edits that the rules
plan are then smooth, and their texts quote the source (`BugKind.Plans.smooth`).
-/

namespace Sabotage

open Bytes

/-! ## Texts that blend in -/

/-- A byte string that can stand in a source without a line break at either end, and without line
breaks side by side that the source does not have so. -/
structure Bytes.Blends (bytes source : Bytes) : Prop where
  trimmed : isTrimmed bytes
  quotes : bytes.Quotes source

namespace Bytes.Blends
variable {bytes other source : Bytes}

/-- A byte string that is not empty and has no line break blends in everywhere. -/
theorem of_isUnbroken (h : isUnbroken bytes ∧ bytes ≠ []) : bytes.Blends source :=
  ⟨isTrimmed_of_isUnbroken h.1 h.2, quotes_of_isUnbroken h.1⟩

/-- Of two texts that blend in, one after the other blends in. -/
theorem append (h : bytes.Blends source) (h' : other.Blends source) :
    (bytes ++ other).Blends source :=
  ⟨isTrimmed_append h.trimmed h'.trimmed, h.quotes.append h'.quotes h.trimmed⟩

end Bytes.Blends

/-! ## Tidy parses -/

/-- Kinds of nodes that are replaced as a whole. -/
def replacedKinds : List String :=
  ["true", "false", "binary_expression", "number", "identifier"]

namespace Node

/-- What a rule edits where it finds a node: the node itself, the operator of a binary expression,
the branches of a conditional expression, or the body of a function and the directives at its
head. -/
def edited (n : Node) : List Node :=
  (if replacedKinds.contains n.kind then [n] else [])
    ++ (if n.kind = "binary_expression" then (n.child? .operator).toList else [])
    ++ (if n.kind = "ternary_expression" then n.branches else [])
    ++ (if Scope.functionKinds.contains n.kind then
        ((n.child? .body).toList.filter (·.kind == "statement_block")).flatMap fun body =>
          body :: Rule.directives body
      else [])

/-- The name that a node is, or the operator of a binary expression. -/
def words (n : Node) : List Node :=
  (if Scope.referenceKinds.contains n.kind then [n] else [])
    ++ (if n.kind = "binary_expression" then (n.child? .operator).toList else [])

section
variable {n m : Node}

/-- A node that is replaced as a whole is edited. -/
theorem mem_edited_self (h : replacedKinds.contains n.kind) : n ∈ n.edited := by
  simp only [edited, h, ↓reduceIte, List.mem_append, List.mem_singleton, true_or]

/-- The operator of a binary expression is edited. -/
theorem mem_edited_operator (hkind : n.kind = "binary_expression")
    (h : n.child? .operator = some m) : m ∈ n.edited := by
  simp only [edited, hkind, h, ↓reduceIte, List.mem_append, Option.toList_some,
    List.mem_singleton, or_true, true_or]

/-- The branches of a conditional expression are edited. -/
theorem mem_edited_branch (hkind : n.kind = "ternary_expression") (h : m ∈ n.branches) :
    m ∈ n.edited := by
  simp only [edited, hkind, ↓reduceIte, List.mem_append, h, or_true, true_or]

/-- The body of a function and the directives at its head are edited. -/
theorem mem_edited_body {body : Node} (hkind : Scope.functionKinds.contains n.kind)
    (h : n.child? .body = some body) (hbody : body.kind = "statement_block")
    (hm : m = body ∨ m ∈ Rule.directives body) : m ∈ n.edited := by
  refine List.mem_append_right _ ?_
  rw [if_pos hkind, h, List.mem_flatMap]
  exact ⟨body, by simp [hbody], List.mem_cons.2 hm⟩

/-- A name is a word. -/
theorem mem_words_self (h : Scope.referenceKinds.contains n.kind) : n ∈ n.words := by
  simp only [words, h, ↓reduceIte, List.mem_append, List.mem_singleton, true_or]

end

/-- A node within a source that is not empty and has no line break at either end. -/
structure Trimmed (source : Bytes) (n : Node) : Prop where
  stop_le : n.stop ≤ source.length
  trimmed : isTrimmed (n.bytes source)

/-- A tree whose edited nodes are trimmed and whose names and operators hold no line break. -/
structure Tidy (source : Bytes) (root : Node) : Prop where
  trimmed : ∀ n ∈ root.preorder, ∀ m ∈ n.edited, m.Trimmed source
  unbroken : ∀ n ∈ root.preorder, ∀ m ∈ n.words, isUnbroken (m.bytes source)

/-- Whether a node is trimmed can be told. -/
instance (source : Bytes) (n : Node) : Decidable (n.Trimmed source) :=
  decidable_of_iff (n.stop ≤ source.length ∧ isTrimmed (n.bytes source))
    ⟨fun h => ⟨h.1, h.2⟩, fun h => ⟨h.1, h.2⟩⟩

/-- Whether a tree is tidy can be told. -/
instance (source : Bytes) (root : Node) : Decidable (root.Tidy source) :=
  decidable_of_iff ((∀ n ∈ root.preorder, ∀ m ∈ n.edited, m.Trimmed source) ∧
    ∀ n ∈ root.preorder, ∀ m ∈ n.words, isUnbroken (m.bytes source))
    ⟨fun h => ⟨h.1, h.2⟩, fun h => ⟨h.1, h.2⟩⟩

/-- An empty program is tidy in every text. -/
theorem tidy_empty (source : Bytes) :
    (⟨"program", true, false, 0, 0, none, []⟩ : Node).Tidy source := by
  constructor
  · simp [preorder, preorderAll, edited, replacedKinds, Scope.functionKinds]
  · simp [preorder, preorderAll, words, Scope.referenceKinds]

end Node

/-- A parser whose trees are tidy. -/
def Parser.Tidy (parser : Parser) : Prop :=
  ∀ language source, (parser language source).Tidy source

/-- The trees of coherent drafts of a tidy parser are tidy. -/
theorem Draft.Coherent.tidy {parser : Parser} {d : Draft} (hp : parser.Tidy)
    (hd : d.Coherent parser) : d.root.Tidy d.source := by
  rw [hd]
  exact hp d.language d.source

namespace Node.Trimmed
variable {source : Bytes} {n : Node} {text : String}

/-- A trimmed node ends after its start. -/
theorem start_lt_stop (h : n.Trimmed source) : n.start < n.stop := by
  by_contra hle
  refine ne_nil_of_isTrimmed h.trimmed ?_
  rw [Node.bytes, cut, Nat.sub_eq_zero_of_le (Nat.le_of_not_lt hle), List.take_zero]

/-- A replacement of a trimmed node is inside the source. -/
theorem inside_replacement (h : n.Trimmed source) (text : String) :
    (Draft.replacement n text).Inside source :=
  ⟨Int.natCast_nonneg _, Int.ofNat_le.2 (Nat.le_of_lt h.start_lt_stop), Int.ofNat_le.2 h.stop_le⟩

/-- The bytes of a trimmed node stand between those before and after it. -/
theorem split (h : n.Trimmed source) :
    source = source.take n.start ++ n.bytes source ++ source.drop n.stop :=
  (h.inside_replacement "").split

/-- The bytes of a trimmed node blend in. -/
theorem blends (h : n.Trimmed source) : (n.bytes source).Blends source := by
  have hpart : (n.bytes source).Quotes
      (source.take n.start ++ n.bytes source ++ source.drop n.stop) := quotes_of_part h.trimmed
  rw [← h.split] at hpart
  exact ⟨h.trimmed, hpart⟩

/-- A trimmed node is smoothly replaced. -/
theorem smooth_replacement (h : n.Trimmed source) (ht : isTrimmed (ofString text)) :
    (Draft.replacement n text).Smooth source :=
  ⟨h.inside_replacement text, ht, .inl h.trimmed⟩

/-- An insertion at an offset of a source is smooth beside a plain byte. -/
theorem smooth_insertion {i : Nat} (hi : i ≤ source.length) (ht : isTrimmed (ofString text))
    (hplain : (marks (source.take i)).getLast? = some .plain ∨
      (marks (source.drop i)).head? = some .plain) :
    (Edit.insertion i text).Smooth source := by
  refine ⟨⟨Int.natCast_nonneg _, Int.le_refl _, Int.ofNat_le.2 hi⟩, ht, .inr ⟨?_, hplain⟩⟩
  rw [Edit.removed, Edit.insertion, cut, Nat.sub_self, List.take_zero]

/-- An insertion right before a trimmed node is smooth. -/
theorem smooth_before (h : n.Trimmed source) (ht : isTrimmed (ofString text)) :
    (Edit.insertion n.start text).Smooth source := by
  have hlt := h.start_lt_stop
  refine smooth_insertion (Nat.le_trans (Nat.le_of_lt hlt) h.stop_le) ht (.inr ?_)
  have hhead := (isTrimmed_iff.1 h.trimmed).1
  rwa [Node.bytes, cut, marks, List.map_take, List.head?_take,
    if_neg (Nat.sub_ne_zero_of_lt hlt)] at hhead

/-- An insertion right after a trimmed node is smooth. -/
theorem smooth_after (h : n.Trimmed source) (ht : isTrimmed (ofString text)) :
    (Edit.insertion n.stop text).Smooth source := by
  refine smooth_insertion h.stop_le ht (.inl ?_)
  have hlast := (isTrimmed_iff.1 h.trimmed).2
  rw [Node.bytes, cut, ← List.drop_take, marks, List.map_drop, List.getLast?_drop] at hlast
  split at hlast
  · cases hlast
  · exact hlast

/-- An insertion after the first byte of a trimmed node is smooth. -/
theorem smooth_inside (h : n.Trimmed source) (ht : isTrimmed (ofString text)) :
    (Edit.insertion (n.start + 1) text).Smooth source := by
  have hlt := h.start_lt_stop
  have hle := h.stop_le
  refine smooth_insertion (i := n.start + 1) (by omega) ht (.inl ?_)
  have hhead := (isTrimmed_iff.1 h.trimmed).1
  rw [Node.bytes, cut, marks, List.map_take, List.head?_take, if_neg (by omega), List.map_drop,
    List.head?_drop] at hhead
  rw [marks, List.map_take, List.getLast?_take, if_neg (Nat.succ_ne_zero _), Nat.add_sub_cancel,
    hhead]
  rfl

end Node.Trimmed

/-! ## Smooth plans -/

/-- A plan whose edits are smooth and quote the source. -/
structure Plan.Smooth (source : Bytes) (plan : Plan) : Prop where
  smooth : ∀ e ∈ plan.edits, e.Smooth source
  quotes : ∀ e ∈ plan.edits, (ofString e.text).Quotes source

/-- A plan that replaces a trimmed node alone is smooth when its text blends in. -/
theorem Node.Trimmed.smooth_single {source : Bytes} {n : Node} {text : String}
    (h : n.Trimmed source) (htext : (ofString text).Blends source) :
    (Plan.single (Draft.replacement n text)).Smooth source :=
  ⟨List.forall_mem_singleton.2 (h.smooth_replacement htext.trimmed),
    List.forall_mem_singleton.2 htext.quotes⟩

/-- A text that blends in does so under negation. -/
theorem Rule.blends_negated {source : Bytes} {text : String} (h : (ofString text).Blends source)
    (inner outer : Bool) : (ofString (Rule.negated inner outer text)).Blends source := by
  have hsign (sign : String) (h : isUnbroken (ofString sign) ∧ ofString sign ≠ []) :
      (ofString sign).Blends source := .of_isUnbroken h
  have hnegated : (ofString (Rule.negated inner false text)).Blends source := by
    cases inner with
    | true =>
      rw [show Rule.negated true false text = "!(" ++ text ++ ")" from rfl, ofString_append,
        ofString_append]
      exact ((hsign "!(" (by decide)).append h).append (hsign ")" (by decide))
    | false =>
      rw [show Rule.negated false false text = "!" ++ text from rfl, ofString_append]
      exact (hsign "!" (by decide)).append h
  cases outer with
  | false => exact hnegated
  | true =>
    have houter : Rule.negated inner true text = "(" ++ Rule.negated inner false text ++ ")" := rfl
    rw [houter, ofString_append, ofString_append]
    exact ((hsign "(" (by decide)).append hnegated).append (hsign ")" (by decide))

/-- A text without line breaks has none with blanks around it. -/
theorem isUnbroken_padded {op front back : String}
    (hop : isUnbroken (ofString op) ∧ ofString op ≠ []) (hfront : front ∈ ["", " "])
    (hback : back ∈ ["", " "]) :
    isUnbroken (ofString (front ++ op ++ back)) ∧ ofString (front ++ op ++ back) ≠ [] := by
  have hblank : ∀ blank ∈ ["", " "], isUnbroken (ofString blank) := by decide
  simp only [ofString_append, isUnbroken_append]
  exact ⟨⟨⟨hblank _ hfront, hop.1⟩, hblank _ hback⟩,
    List.append_ne_nil_of_left_ne_nil (List.append_ne_nil_of_right_ne_nil _ hop.2) _⟩

/-- A parenthesis around a trimmed node is smooth and quotes every source. -/
theorem Draft.smooth_wrap {source : Bytes} {n : Node} (h : n.Trimmed source) {e : Edit}
    (he : e ∈ Draft.wrap n) : e.Smooth source ∧ (ofString e.text).Quotes source := by
  have hopen : isUnbroken (ofString "(") := by decide
  have hclose : isUnbroken (ofString ")") := by decide
  rcases List.mem_pair.1 he with rfl | rfl
  · exact ⟨h.smooth_before (by decide), quotes_of_isUnbroken hopen⟩
  · exact ⟨h.smooth_after (by decide), quotes_of_isUnbroken hclose⟩

/-- A declaration of a name without line breaks has none. -/
theorem Rule.isUnbroken_declaring {name : String} (h : isUnbroken (ofString name)) :
    isUnbroken (ofString ("let " ++ name ++ " = null;")) := by
  simp only [ofString_append, isUnbroken_append]
  exact ⟨⟨by decide, h⟩, by decide⟩

/-- What opens a body with a declaration holds no line break, and stands where it can. -/
theorem Rule.Opens.smooth {source : Bytes} {body : Node} {declaration : String} {e : Edit}
    (h : Rule.Opens body declaration e)
    (htrimmed : ∀ m, m = body ∨ m ∈ Rule.directives body → m.Trimmed source)
    (hdeclaration : isUnbroken (ofString declaration)) :
    e.Smooth source ∧ isUnbroken (ofString e.text) := by
  have hfront (front : String) (hfront : isUnbroken (ofString front) ∧ ofString front ≠ []) :
      isUnbroken (ofString (front ++ declaration)) ∧
        isTrimmed (ofString (front ++ declaration)) := by
    rw [ofString_append]
    have hboth := isUnbroken_append.2 ⟨hfront.1, hdeclaration⟩
    exact ⟨hboth, isTrimmed_of_isUnbroken hboth (List.append_ne_nil_of_left_ne_nil hfront.2 _)⟩
  obtain rfl | ⟨last, hlast, front, hmem, rfl⟩ := h
  · obtain ⟨hunbroken, ht⟩ := hfront " " (by decide)
    exact ⟨(htrimmed body (.inl rfl)).smooth_inside ht, hunbroken⟩
  · have hplain : ∀ front ∈ [" ", "; "],
        isUnbroken (ofString front) ∧ ofString front ≠ [] := by decide
    obtain ⟨hunbroken, ht⟩ := hfront front (hplain front hmem)
    exact ⟨(htrimmed last (.inr hlast)).smooth_after ht, hunbroken⟩

/-- Over a tidy tree every rule plans smoothly. -/
theorem BugKind.Plans.smooth {d : Draft} (hd : d.root.Tidy d.source) {kind : BugKind} {plan : Plan}
    (h : kind.Plans d plan) : plan.Smooth d.source := by
  have htrimmed {n : Node} (hn : n ∈ d.root.preorder) (hkind : replacedKinds.contains n.kind) :
      n.Trimmed d.source :=
    hd.trimmed n hn n (Node.mem_edited_self hkind)
  cases h with
  | negation inner outer hn hkind htext =>
    have hreplaced : ∀ kind ∈ Rule.truthKinds, replacedKinds.contains kind := by decide
    have hn := htrimmed hn (hreplaced _ hkind)
    exact hn.smooth_single (Rule.blends_negated (htext ▸ hn.blends) inner outer)
  | @operator _ _ n o _ b _ _ parens _ hn hkind ho _ _ hfront hback hparens =>
    have ho : o.Trimmed d.source := hd.trimmed n hn o (Node.mem_edited_operator hkind ho)
    have hblends : Blends _ d.source :=
      .of_isUnbroken (isUnbroken_padded b.isUnbroken_text hfront hback)
    have hparens : ∀ e ∈ parens, e.Smooth d.source ∧ (ofString e.text).Quotes d.source := by
      intro e he
      obtain ⟨m, hm, hkind, he⟩ := hparens e he
      exact Draft.smooth_wrap (htrimmed hm (by rw [hkind]; decide)) he
    have hreplacement := ho.smooth_replacement hblends.trimmed
    exact ⟨List.forall_mem_cons.2 ⟨hreplacement, fun e he => (hparens e he).1⟩,
      List.forall_mem_cons.2 ⟨hblends.quotes, fun e he => (hparens e he).2⟩⟩
  | @branches n c a _ _ hn hkind hbranches hfirst hsecond =>
    have hmem (m : Node) (hm : m ∈ [c, a]) : m.Trimmed d.source :=
      hd.trimmed n hn m (Node.mem_edited_branch hkind (hbranches ▸ hm))
    have hc := hmem c (by simp)
    have ha := hmem a (by simp)
    have hblends := hfirst ▸ hc.blends
    have hblends' := hsecond ▸ ha.blends
    exact ⟨List.forall_mem_cons.2 ⟨hc.smooth_replacement hblends'.trimmed,
      List.forall_mem_singleton.2 (ha.smooth_replacement hblends.trimmed)⟩,
      List.forall_mem_cons.2 ⟨hblends'.quotes, List.forall_mem_singleton.2 hblends.quotes⟩⟩
  | number hn hkind _ hbump =>
    exact (htrimmed hn (by rw [hkind]; decide)).smooth_single
      (.of_isUnbroken (Literal.isUnbroken_bump? hbump))
  | @name n _ _ hn hkind hname hspoof =>
    have hword := hd.unbroken n hn n (Node.mem_words_self (by rw [hkind]; decide))
    exact (htrimmed hn (by rw [hkind]; decide)).smooth_single
      (.of_isUnbroken (isUnbroken_spoof? hspoof (hname ▸ hword)))
  | @declaration n body m name e hn hkind hbody hblock hm hreference hname hopens =>
    have hword := hname ▸ hd.unbroken m hm m (Node.mem_words_self hreference)
    obtain ⟨hsmooth, hunbroken⟩ := hopens.smooth
      (fun m hm => hd.trimmed n hn m (Node.mem_edited_body hkind hbody hblock hm))
      (Rule.isUnbroken_declaring hword)
    exact ⟨List.forall_mem_singleton.2 hsmooth,
      List.forall_mem_singleton.2 (quotes_of_isUnbroken hunbroken)⟩

end Sabotage
