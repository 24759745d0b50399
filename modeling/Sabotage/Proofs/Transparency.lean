import Sabotage.Proofs.Captures
import Sabotage.Proofs.Comments
import Sabotage.Proofs.RulePlans
import Mathlib.Data.List.TakeWhile

/-!
# What the rules see of comments

Rules look at the test of a loop, at the head of a function's body, at the arguments of a call and
at the bindings of scopes. A comment added anywhere changes nothing of what they find there
(`Draft.Commented.transparent`), with one exception: a comment in the manner of markup counts as
content. It is taken for the test of a loop where it comes first in the parentheses
(`Rule.loopTest?_commented`), and it ends a prologue of directives (`Rule.directives_commented`).
Both happen (`not_transparent_markup`).
-/

namespace Sabotage

open Node

variable {kinds : List String} {back : Nat → Nat} {above above' : List Node}
  {body body' c n n' : Node} {ns ns' : List Node} {d d' : Draft} {s s' : Site}

/-! ## Sites and drafts with comments added -/

/-- A site and the same site after comments have been added to its tree. -/
structure Site.Commented (kinds : List String) (back : Nat → Nat) (s s' : Site) : Prop where
  node : s.node.Commented kinds back s'.node
  above : List.Forall₂ (Node.Commented kinds back) s.above s'.above

/-- A site further down. -/
theorem Site.Commented.down (h : s.Commented kinds back s') (hn : n.Commented kinds back n') :
    (s.down n).Commented kinds back (s'.down n') :=
  ⟨hn, .cons h.node h.above⟩

/-- The sites below a site are the same, with comments in between. -/
theorem Site.Commented.children (h : s.Commented kinds back s') :
    Strewn (fun c => c.node.IsComment kinds) (Site.Commented kinds back) s.children s'.children :=
  h.node.children.map (fun _ _ hc => h.down hc) fun _ hc => hc

/-- A walk visits the same sites, with comments in between. -/
theorem Site.walk_commented {ss ss' : List Site}
    (h : Strewn (fun c => c.node.IsComment kinds) (Site.Commented kinds back) ss ss') :
    Strewn (fun c => c.node.IsComment kinds) (Site.Commented kinds back) (Site.walk ss)
      (Site.walk ss') := by
  fun_induction Site.walk ss' generalizing ss with
  | case1 =>
    cases h
    rw [Site.walk]
    exact .nil
  | case2 s' rest' ih =>
    cases h with
    | keep hs hrest =>
      rw [Site.walk]
      exact .keep hs (ih (hs.children.append hrest))
    | add hc hrest =>
      refine .add hc (ih ?_)
      rw [Site.children, hc.children_eq]
      exact hrest

/-- A draft and the same draft after comments have been added to its text. The comments stand in no
number and no name, neither beginning nor end of a statement is one of them, and none splits the
brace that opens a block. -/
structure Draft.Commented (kinds : List String) (back : Nat → Nat) (d d' : Draft) : Prop where
  root : d.root.Commented kinds back d'.root
  token : ∀ n ∈ d.root.preorder, ∀ n' ∈ d'.root.preorder, n.Commented kinds back n' →
    n.kind = "number" ∨ n.kind = "property_identifier" → d'.textOf n' = d.textOf n
  ending : ∀ n ∈ d.root.preorder, ∀ n' ∈ d'.root.preorder, n.Commented kinds back n' →
    n.kind = "expression_statement" →
    (d'.textOf n').map (·.endsWith ";") = (d.textOf n).map (·.endsWith ";")
  brace : ∀ n ∈ d.root.preorder, ∀ n' ∈ d'.root.preorder, n.Commented kinds back n' →
    n.kind = "statement_block" → back (n'.start + 1) = n.start + 1

/-- Where no brace that opens a block is split, only the bytes of tokens and of statements need be
compared. -/
theorem Draft.Commented.of_cuts (hroot : d.root.Commented kinds back d'.root)
    (hcuts : ∀ n ∈ d.root.preorder, ∀ n' ∈ d'.root.preorder,
      n.kind ∈ ["number", "property_identifier", "expression_statement"] →
      back n'.start = n.start → back n'.stop = n.stop →
      d'.source.cut n'.start n'.stop = d.source.cut n.start n.stop)
    (hbraces : ∀ n ∈ d.root.preorder, ∀ n' ∈ d'.root.preorder, n.kind = "statement_block" →
      back n'.start = n.start → back (n'.start + 1) = n.start + 1) :
    d.Commented kinds back d' := by
  have htexts (n : Node) (hn : n ∈ d.root.preorder) (n' : Node) (hn' : n' ∈ d'.root.preorder)
      (h : n.Commented kinds back n')
      (hkind : n.kind ∈ ["number", "property_identifier", "expression_statement"]) :
      d'.textOf n' = d.textOf n := by
    rw [Draft.textOf, Draft.textOf, hcuts n hn n' hn' hkind h.start_eq h.stop_eq]
  refine ⟨hroot, fun n hn n' hn' h hkind => ?_, fun n hn n' hn' h hkind => ?_,
    fun n hn n' hn' h hkind => hbraces n hn n' hn' hkind h.start_eq⟩
  · refine htexts n hn n' hn' h ?_
    rcases hkind with hkind | hkind
    · simp [hkind]
    · simp [hkind]
  · rw [htexts n hn n' hn' h (by simp [hkind])]

/-- A site of a draft is at a node of its tree. -/
theorem Draft.node_of_mem_sites (h : s ∈ d.sites) : s.node ∈ d.root.preorder := by
  rw [← Node.map_node_sites]
  exact List.mem_map_of_mem h

/-- The sites of a draft are the same, with comments in between. -/
theorem Draft.Commented.sites (h : d.Commented kinds back d') :
    Strewn (fun c => c.node.IsComment kinds) (Site.Commented kinds back) d.sites d'.sites :=
  Site.walk_commented (.keep ⟨h.root, .nil⟩ .nil)

/-- An edit of the new text, taken back to the old. -/
def Edit.moved (back : Nat → Nat) (e : Edit) : Edit :=
  ⟨back e.start.toNat, back e.stop.toNat, e.text⟩

/-- An insertion is one at the offset taken back. -/
theorem Edit.moved_insertion (back : Nat → Nat) (offset : Nat) (text : String) :
    (Edit.insertion offset text).moved back = .insertion (back offset) text :=
  rfl

/-- A plan for the new text, taken back to the old. -/
def Plan.moved (back : Nat → Nat) (plan : Plan) : Plan :=
  ⟨plan.edits.map (Edit.moved back), plan.guarded⟩

/-- A search passes over what is in between. -/
theorem Strewn.findSomeM? {α β γ δ ε : Type} {extra : β → Prop} {R : α → β → Prop} {as : List α}
    {bs : List β} {f : α → Except ε (Option γ)} {g : β → Except ε (Option δ)} {move : δ → γ}
    (h : Strewn extra R as bs)
    (hR : ∀ a ∈ as, ∀ b ∈ bs, R a b → (g b).map (Option.map move) = f a)
    (hextra : ∀ b, extra b → g b = .ok none) :
    (bs.findSomeM? g).map (Option.map move) = as.findSomeM? f := by
  induction h with
  | nil => rfl
  | @keep a b as bs hab _ ih =>
    have hhead := hR a List.mem_cons_self b List.mem_cons_self hab
    have hrest := ih fun a ha b hb =>
      hR a (List.mem_cons_of_mem _ ha) b (List.mem_cons_of_mem _ hb)
    rw [List.findSomeM?_cons, List.findSomeM?_cons, ← hhead]
    cases g b with
    | error e => rfl
    | ok found =>
      cases found with
      | none => exact hrest
      | some d => rfl
  | @add b as bs hb _ ih =>
    have hrest := ih fun a ha b hb => hR a ha b (List.mem_cons_of_mem _ hb)
    rw [List.findSomeM?_cons, hextra b hb]
    exact hrest

namespace Rule

/-! ## The tests of loops -/

/-- The first piece of content counts. -/
theorem unwrapFirst_eq (above : List Node) (ns : List Node) :
    unwrapFirst above ns = (ns.filter isContent).head?.bind (unwrap above) := by
  induction ns with
  | nil => rfl
  | cons n ns ih =>
    rw [unwrapFirst, List.filter_cons]
    split
    · rfl
    · exact ih

/-- What is left of a node without the parentheses around it. -/
theorem unwrap_eq (above : List Node) (n : Node) : unwrap above n =
    if n.kind = "parenthesized_expression" then n.content.head?.bind (unwrap (n :: above))
    else some ⟨n, above⟩ := by
  cases n
  rw [unwrap, unwrapFirst_eq]
  rfl

/-- The test of a loop, by its parts. -/
theorem loopTest?_eq (s : Site) : loopTest? s = (s.node.child? .condition).bind fun c =>
    if c.kind = "expression_statement" then
      c.content.head?.bind (unwrap (c :: s.node :: s.above))
    else unwrap (s.node :: s.above) c := by
  rw [loopTest?, Site.child?]
  cases s.node.child? .condition with
  | none => rfl
  | some c =>
    simp only [Option.map_some, Option.bind_some, Site.down, Site.content]
    split
    · cases c.content with
      | nil => rfl
      | cons inner rest => rfl
    · rfl

/-- A lookup ends at a comment in the manner of markup. -/
def EndsAtComment (kinds : List String) (found : Option Site) : Prop :=
  ∃ c, found = some c ∧ c.node.IsMarkupComment kinds

/-- Only among comments of their kind are there such comments. -/
theorem mem_kinds_of_markup (h : c.IsMarkupComment kinds) : "html_comment" ∈ kinds :=
  h.kind_eq ▸ h.mem_kinds

/-- A lookup ends at such a comment only if there are any. -/
theorem EndsAtComment.mem_kinds {found : Option Site} (h : EndsAtComment kinds found) :
    "html_comment" ∈ kinds := by
  obtain ⟨c, -, hc⟩ := h
  exact mem_kinds_of_markup hc

/-- A lookup that ends at a comment does not find what was found without it. -/
theorem EndsAtComment.not_rel {found found' : Option Site} (h : EndsAtComment kinds found')
    (hs : found = some s) (hkind : s.node.kind ∉ commentKinds) :
    ¬Option.Rel (Site.Commented kinds back) found found' := by
  obtain ⟨c, hc, hcomment⟩ := h
  rw [hs, hc]
  intro hsame
  cases hsame with
  | some hcommented => exact hcomment.kind_ne hkind hcommented.node.kind_eq

/-- A lookup that goes on with the first piece of content goes on with the same one, or ends at a
comment. -/
theorem head_commented {look look' : Node → Option Site} (h : n.Commented kinds back n')
    (hlook : ∀ c ∈ n.content, ∀ c', c.Commented kinds back c' →
      EndsAtComment kinds (look' c') ∨ Option.Rel (Site.Commented kinds back) (look c) (look' c'))
    (hcomment : ∀ c, c.IsMarkupComment kinds → EndsAtComment kinds (look' c)) :
    EndsAtComment kinds (n'.content.head?.bind look') ∨
      Option.Rel (Site.Commented kinds back) (n.content.head?.bind look)
        (n'.content.head?.bind look') := by
  have hcontent := h.content
  revert hcontent hlook
  generalize n.content = cs, n'.content = cs'
  intro hlook hcontent
  cases hcontent with
  | nil => exact .inr .none
  | keep hc _ => exact hlook _ List.mem_cons_self _ hc
  | add hc _ => exact .inl (hcomment _ hc)

/-- A comment has no parentheses around it. -/
theorem unwrap_comment (h : c.IsMarkupComment kinds) :
    EndsAtComment kinds (unwrap above c) := by
  rw [unwrap_eq, if_neg (h.kind_ne (by decide))]
  exact ⟨_, rfl, h⟩

/-- Without the parentheses around it a node is the same, unless a comment comes first in them. -/
theorem unwrap_commented (h : n.Commented kinds back n')
    (habove : List.Forall₂ (Node.Commented kinds back) above above') :
    EndsAtComment kinds (unwrap above' n') ∨
      Option.Rel (Site.Commented kinds back) (unwrap above n) (unwrap above' n') := by
  induction n using induction_children generalizing n' above above' with | _ n ih
  rw [unwrap_eq above, unwrap_eq above', h.kind_eq]
  split
  · refine head_commented h (fun c hc c' hcc' => ?_) fun c hc => unwrap_comment hc
    exact ih c (mem_children_of_mem_content hc) hcc' (.cons h habove)
  · exact .inr (.some ⟨h, habove⟩)

/-- The test of a loop is the same, unless a comment in the manner of markup is found in its
place. -/
theorem loopTest?_commented (h : s.Commented kinds back s') :
    EndsAtComment kinds (loopTest? s') ∨
      Option.Rel (Site.Commented kinds back) (loopTest? s) (loopTest? s') := by
  rw [loopTest?_eq, loopTest?_eq]
  obtain ⟨hc, hc'⟩ | ⟨c, c', hc, hc', hcc'⟩ := h.node.child?_cases .condition
  · rw [hc, hc']
    exact .inr .none
  · have habove : List.Forall₂ (Node.Commented kinds back) (s.node :: s.above)
        (s'.node :: s'.above) := .cons h.node h.above
    rw [hc, hc', Option.bind_some, Option.bind_some, hcc'.kind_eq]
    split
    · refine head_commented hcc' (fun k _ k' hkk' => ?_) fun k hk => unwrap_comment hk
      exact unwrap_commented hkk' (.cons hcc' habove)
    · exact unwrap_commented hcc' habove

/-! ## Prologues -/

/-- A comment in the manner of markup stands among the pieces of content or in a statement. -/
def Interrupts (kinds : List String) (c : Node) : Prop :=
  c.IsMarkupComment kinds ∨
    c.kind = "expression_statement" ∧ ∃ k ∈ c.content, k.IsMarkupComment kinds

/-- What ends the prologue of a block is a comment in the manner of markup, or a statement with one
in it. -/
def Interrupted (kinds : List String) (body : Node) : Prop :=
  ∃ c, (body.content.dropWhile isDirective).head? = some c ∧ Interrupts kinds c

/-- Such a comment ends a prologue only if there are any. -/
theorem Interrupted.mem_kinds (h : Interrupted kinds body) : "html_comment" ∈ kinds := by
  obtain ⟨c, -, hc | ⟨-, k, -, hk⟩⟩ := h
  · exact mem_kinds_of_markup hc
  · exact mem_kinds_of_markup hk

/-- A comment is no directive, and a statement with one in it is none. -/
theorem isDirective_of_interrupts (h : Interrupts kinds c) : isDirective c = false := by
  rcases h with h | ⟨-, k, hk, hmarkup⟩
  · rw [isDirective, Bool.and_eq_false_iff, beq_eq_false_iff_ne]
    exact .inl (h.kind_ne (by decide))
  · rw [isDirective, Bool.and_eq_false_iff]
    right
    split
    · next inner hinner =>
      rw [hinner, List.mem_singleton] at hk
      rw [beq_eq_false_iff_ne, ← hk]
      exact hmarkup.kind_ne (by decide)
    · rfl

/-- A statement is a directive as before, unless a comment stands in it. -/
theorem isDirective_commented (h : n.Commented kinds back n') :
    Interrupts kinds n' ∨ isDirective n = isDirective n' := by
  by_cases hkind : n'.kind = "expression_statement"
  · by_cases hcomment : ∃ k ∈ n'.content, k.IsMarkupComment kinds
    · exact .inl (.inr ⟨hkind, hcomment⟩)
    · right
      have hcontent := h.content.forall₂ fun k hk hmarkup => hcomment ⟨k, hk, hmarkup⟩
      rw [isDirective, isDirective, h.kind_eq]
      congr 1
      revert hcontent
      generalize n.content = cs, n'.content = cs'
      intro hcontent
      cases hcontent with
      | nil => rfl
      | cons hc hrest =>
        cases hrest with
        | nil => exact congrArg (· == "string") hc.kind_eq.symm
        | cons _ _ => rfl
  · right
    rw [isDirective, isDirective, ← h.kind_eq, beq_eq_false_iff_ne.2 hkind]
    rfl

/-- A prologue ends where a comment interrupts it. -/
theorem takeWhile_of_interrupts (h : Interrupts kinds c) (ns : List Node) :
    (c :: ns).takeWhile isDirective = [] ∧ (c :: ns).dropWhile isDirective = c :: ns := by
  have hno : ¬isDirective c = true := by
    rw [isDirective_of_interrupts h]
    exact Bool.false_ne_true
  exact ⟨List.takeWhile_cons_of_neg hno, List.dropWhile_cons_of_neg hno⟩

/-- The directives at the head of a list of statements are the same, or they end early, at a
comment. -/
theorem takeWhile_commented
    (h : Strewn (IsMarkupComment kinds) (Node.Commented kinds back) ns ns') :
    List.Forall₂ (Node.Commented kinds back) (ns.takeWhile isDirective)
        (ns'.takeWhile isDirective) ∨
      (∃ c, (ns'.dropWhile isDirective).head? = some c ∧ Interrupts kinds c) ∧
        ∃ k, List.Forall₂ (Node.Commented kinds back) ((ns.takeWhile isDirective).take k)
          (ns'.takeWhile isDirective) := by
  induction h with
  | nil => exact .inl .nil
  | @keep n n' ns ns' hn _ ih =>
    rcases isDirective_commented hn with hinterrupts | hdirective
    · obtain ⟨htake, hdrop⟩ := takeWhile_of_interrupts hinterrupts ns'
      rw [htake, hdrop]
      exact .inr ⟨⟨n', rfl, hinterrupts⟩, 0, .nil⟩
    · rw [List.takeWhile_cons, List.takeWhile_cons, List.dropWhile_cons, hdirective]
      split
      · refine ih.imp (.cons hn) (And.imp_right ?_)
        rintro ⟨k, hk⟩
        exact ⟨k + 1, .cons hn hk⟩
      · exact .inl .nil
  | @add c ns ns' hc _ _ =>
    obtain ⟨htake, hdrop⟩ := takeWhile_of_interrupts (.inl hc) ns'
    rw [htake, hdrop]
    exact .inr ⟨⟨c, rfl, .inl hc⟩, 0, .nil⟩

/-- The directives at the head of a body are the same, or they end early, at a comment. -/
theorem directives_commented (h : body.Commented kinds back body') :
    List.Forall₂ (Node.Commented kinds back) (directives body) (directives body') ∨
      Interrupted kinds body' ∧
        ∃ k, List.Forall₂ (Node.Commented kinds back) ((directives body).take k)
          (directives body') :=
  takeWhile_commented h.content

/-- Lists that correspond item by item end with items that correspond. -/
theorem rel_getLast? {α β : Type} {R : α → β → Prop} {as : List α} {bs : List β}
    (h : List.Forall₂ R as bs) : Option.Rel R as.getLast? bs.getLast? := by
  rw [← List.forall₂_reverse_iff] at h
  rw [← List.head?_reverse, ← List.head?_reverse]
  revert h
  generalize as.reverse = xs, bs.reverse = ys
  intro h
  cases h with
  | nil => exact .none
  | cons hab _ => exact .some hab

/-- A directive is a statement. -/
theorem kind_of_isDirective (h : isDirective n) : n.kind = "expression_statement" := by
  rw [isDirective, Bool.and_eq_true, beq_iff_eq] at h
  exact h.1

/-- The last directive of a body is a statement in it. -/
theorem last_directive (h : (directives body).getLast? = some n) :
    n ∈ body.content ∧ n.kind = "expression_statement" := by
  have hmem : n ∈ directives body := List.mem_of_getLast? h
  exact ⟨(List.takeWhile_subset _) hmem, kind_of_isDirective (List.mem_takeWhile_imp hmem)⟩

/-- What opens a body depends on the text of its last directive only in whether that is closed. -/
theorem opening_eq (d : Draft) (body : Node) (declaration : String) :
    opening d body declaration =
      match (directives body).getLast? with
      | none => .ok (.insertion (body.start + 1 : Nat) (" " ++ declaration))
      | some last => ((d.textOf last).map (·.endsWith ";")).map fun closed =>
          .insertion last.stop ((if closed then " " else "; ") ++ declaration) := by
  rw [opening]
  cases (directives body).getLast? with
  | none => rfl
  | some last =>
    dsimp only
    cases d.textOf last with
    | error e => rfl
    | ok text => rfl

/-- With the same directives at its head, a body is opened at the same place by the same text. -/
theorem opening_commented (hd : d.Commented kinds back d') (hbody : body ∈ d.root.preorder)
    (hbody' : body' ∈ d'.root.preorder) (h : body.Commented kinds back body')
    (hkind : body.kind = "statement_block")
    (hdirectives : List.Forall₂ (Node.Commented kinds back) (directives body) (directives body'))
    (declaration : String) :
    (opening d' body' declaration).map (Edit.moved back) = opening d body declaration := by
  rw [opening_eq, opening_eq]
  obtain ⟨hlast, hlast'⟩ | ⟨last, last', hlast, hlast', hll'⟩ :=
    rel_cases (rel_getLast? hdirectives)
  · rw [hlast, hlast', ← hd.brace body hbody body' hbody' h hkind]
    rfl
  · obtain ⟨hmem, hstatement⟩ := last_directive hlast
    obtain ⟨hmem', -⟩ := last_directive hlast'
    have hin := preorder_trans hbody (Scope.mem_preorder_content hmem)
    have hin' := preorder_trans hbody' (Scope.mem_preorder_content hmem')
    simp only [hlast, hlast', hd.ending last hin last' hin' hll' hstatement]
    cases d.textOf last with
    | error e => rfl
    | ok text => simp only [Except.map, Edit.moved_insertion, hll'.stop_eq]

/-! ## Positions -/

/-- A call calls the same method. -/
theorem calledMethod?_commented (hd : d.Commented kinds back d') (hn : n ∈ d.root.preorder)
    (hn' : n' ∈ d'.root.preorder) (h : n.Commented kinds back n') :
    calledMethod? d' n' = calledMethod? d n := by
  rw [calledMethod?, calledMethod?]
  obtain ⟨hc, hc'⟩ | ⟨c, c', hc, hc', hcc'⟩ := h.child?_cases .function
  · rw [hc, hc']
  · simp only [hc, hc', hcc'.kind_eq]
    split
    · obtain ⟨hp, hp'⟩ | ⟨p, p', hp, hp', hpp'⟩ := hcc'.child?_cases .property
      · rw [hp, hp']
      · have hin := mem_preorder_child? (mem_preorder_child? hn hc) hp
        have hin' := mem_preorder_child? (mem_preorder_child? hn' hc') hp'
        simp only [hp, hp', hpp'.kind_eq]
        split
        · next hkind => rw [hd.token p hin p' hin' hpp' (.inr hkind)]
        · rfl
    · rfl

/-- The nodes of a place that stand for positions are the same, with comments in between. -/
theorem positions_commented (hd : d.Commented kinds back d') (hn : n ∈ d.root.preorder)
    (hn' : n' ∈ d'.root.preorder) (h : n.Commented kinds back n') :
    (∃ e, positions d n = .error e ∧ positions d' n' = .error e) ∨
      ∃ ns ns', positions d n = .ok ns ∧ positions d' n' = .ok ns' ∧
        Strewn (IsMarkupComment kinds) (Node.Commented kinds back) ns ns' := by
  rw [positions, positions, h.kind_eq, calledMethod?_commented hd hn hn' h]
  split
  · exact .inr ⟨_, _, rfl, rfl, .of_forall₂ (Scope.forall₂_toList (h.child? .index))⟩
  cases calledMethod? d n with
  | error e => exact .inl ⟨e, rfl, rfl⟩
  | ok method =>
    refine .inr ⟨_, _, rfl, rfl, ?_⟩
    by_cases hmethod : method.any indexMethods.contains
    · simp only [hmethod, if_true]
      obtain ⟨hc, hc'⟩ | ⟨c, c', hc, hc', hcc'⟩ := h.child?_cases .arguments
      · rw [hc, hc']
        exact .nil
      · rw [hc, hc']
        exact hcc'.content
    · simp only [hmethod]
      exact .nil

/-- A literal is bumped as before. -/
theorem planBump_commented (hd : d.Commented kinds back d') (hn : n ∈ d.root.preorder)
    (hn' : n' ∈ d'.root.preorder) (h : n.Commented kinds back n') :
    (planBump d' n').map (Option.map (Plan.moved back)) = planBump d n := by
  rw [planBump, planBump, h.kind_eq]
  split
  · next hkind =>
    rw [hd.token n hn n' hn' h (.inl hkind)]
    cases d.textOf n with
    | error e => rfl
    | ok text =>
      cases hbump : Literal.bump? text with
      | none => simp [Except.map, hbump]
      | some bumped =>
        have hmoved : (Plan.single (Draft.replacement n' bumped)).moved back =
            .single (Draft.replacement n bumped) := by
          rw [Draft.replacement, Draft.replacement, ← h.start_eq, ← h.stop_eq]
          rfl
        simp [Except.map, hbump, hmoved]
  · rfl

/-- The search for a literal to bump in a place finds the same one, and bumps it as before. -/
theorem findSomeM?_positions_commented (hd : d.Commented kinds back d')
    (hn : n ∈ d.root.preorder) (hn' : n' ∈ d'.root.preorder) (h : n.Commented kinds back n') :
    ((positions d' n').bind fun ns => ns.findSomeM? (planBump d')).map
        (Option.map (Plan.moved back)) =
      (positions d n).bind fun ns => ns.findSomeM? (planBump d) := by
  obtain ⟨e, herror, herror'⟩ | ⟨ns, ns', hns, hns', hstrewn⟩ := positions_commented hd hn hn' h
  · rw [herror, herror']
    rfl
  · rw [hns, hns']
    refine hstrewn.findSomeM? (fun m hm m' hm' hmm' => ?_) fun c hc => ?_
    · exact planBump_commented hd (Draft.positions_grants hn ns hns m hm)
        (Draft.positions_grants hn' ns' hns' m' hm') hmm'
    · exact if_neg (hc.kind_ne (by decide))

/-- The search of the whole draft finds the same literal, and bumps it as before. -/
theorem findIndex_commented (hd : d.Commented kinds back d') :
    (findIndex d').map (Option.map (Plan.moved back)) = findIndex d := by
  have hsites := hd.sites.filter
    (p := fun s => ["subscript_expression", "call_expression"].contains s.node.kind)
    (q := fun s => ["subscript_expression", "call_expression"].contains s.node.kind)
    fun s s' hs => by rw [hs.node.kind_eq]
  refine hsites.findSomeM? (fun s hs s' hs' hss' => ?_) fun c hc => ?_
  · exact findSomeM?_positions_commented hd (Draft.node_of_mem_sites (List.mem_filter.1 hs).1)
      (Draft.node_of_mem_sites (List.mem_filter.1 hs').1) hss'.node
  · obtain ⟨hcomment, hkind⟩ := hc
    rcases hcomment.kind_cases with h | h
    · simp [h] at hkind
    · simp [h] at hkind

end Rule

open Rule

/-- What the rules find at a site before comments have been added to a draft and after. -/
structure Site.Alike (kinds : List String) (back : Nat → Nat) (d d' : Draft) (s s' : Site) :
    Prop where
  /-- Scopes bind the same identifiers. -/
  binds : List.Forall₂ (Node.Commented kinds back) (Scope.bindings s.node)
    (Scope.bindings s'.node)
  /-- The nodes that stand for positions are the same, with comments in between. -/
  stands : (∃ e, positions d s.node = .error e ∧ positions d' s'.node = .error e) ∨
    ∃ ns ns', positions d s.node = .ok ns ∧ positions d' s'.node = .ok ns' ∧
      Strewn (IsMarkupComment kinds) (Node.Commented kinds back) ns ns'
  /-- The same literal among them is bumped to the same text. -/
  bumps : ((positions d' s'.node).bind fun ns => ns.findSomeM? (planBump d')).map
      (Option.map (Plan.moved back)) =
    (positions d s.node).bind fun ns => ns.findSomeM? (planBump d)
  /-- The test of a loop is the same, unless a comment in the manner of markup is found in its
  place. -/
  tests : Option.Rel (Site.Commented kinds back) (loopTest? s) (loopTest? s') ∨
    "html_comment" ∈ kinds ∧ EndsAtComment kinds (loopTest? s')
  /-- The directives at the head of a block are the same, unless such a comment makes them end
  early. -/
  directs : List.Forall₂ (Node.Commented kinds back) (directives s.node) (directives s'.node) ∨
    "html_comment" ∈ kinds ∧ Interrupted kinds s'.node ∧
      ∃ k, List.Forall₂ (Node.Commented kinds back) ((directives s.node).take k)
        (directives s'.node)
  /-- With the same directives a block is opened at the same place by the same text. -/
  opens : s.node.kind = "statement_block" →
    List.Forall₂ (Node.Commented kinds back) (directives s.node) (directives s'.node) →
    ∀ declaration,
      (opening d' s'.node declaration).map (Edit.moved back) = opening d s.node declaration

/-- What the rules see of comments. The sites of a draft are the same after comments have been added
to its text, with comments in between, and the same literal index is found and bumped to the same
text. At each site the rules find what they found before, unless a comment in the manner of markup
is taken for the test of a loop or ends a prologue. -/
theorem Draft.Commented.transparent (h : d.Commented kinds back d') :
    Strewn (fun c => c.node.IsComment kinds) (Site.Commented kinds back) d.sites d'.sites ∧
    (findIndex d').map (Option.map (Plan.moved back)) = findIndex d ∧
    ∀ s ∈ d.sites, ∀ s' ∈ d'.sites, s.Commented kinds back s' →
      Site.Alike kinds back d d' s s' := by
  refine ⟨h.sites, findIndex_commented h, fun s hs s' hs' hss' => ?_⟩
  have hin := Draft.node_of_mem_sites hs
  have hin' := Draft.node_of_mem_sites hs'
  refine ⟨Scope.bindings_commented hss'.node, positions_commented h hin hin' hss'.node,
    findSomeM?_positions_commented h hin hin' hss'.node, ?_, ?_, fun hkind hdirectives => ?_⟩
  · rcases loopTest?_commented hss' with hends | hsame
    · exact .inr ⟨hends.mem_kinds, hends⟩
    · exact .inl hsame
  · rcases directives_commented hss'.node with hsame | ⟨hinterrupted, hearly⟩
    · exact .inl hsame
    · exact .inr ⟨hinterrupted.mem_kinds, hinterrupted, hearly⟩
  · exact opening_commented h hin hin' hss'.node hkind hdirectives

/-! ## A loop and a function with comments in them -/

/-- The way back from a text into which seven bytes have been put at an offset. -/
def backTo (offset n : Nat) : Nat :=
  if n ≤ offset then n else n - 7

/-- A comment of six bytes. -/
def commentToken (kind : String) (start : Nat) : Node :=
  ⟨kind, true, false, start, start + 6, none, []⟩

/-- The comparison of two names of one letter. -/
def comparisonNode (start : Nat) : Node :=
  ⟨"binary_expression", true, false, start, start + 5, none,
    [Scope.letterNode start (some .left), Scope.tokenNode "<" (start + 2) (some .operator),
      Scope.letterNode (start + 4) (some .right)]⟩

/-- The parentheses around it, with something in front of it. -/
def testNode (width : Nat) (comments : List Node) : Node :=
  ⟨"parenthesized_expression", true, false, 6, width + 13, some .condition,
    Scope.tokenNode "(" 6 none :: comments ++
      [comparisonNode (width + 7), Scope.tokenNode ")" (width + 12) none]⟩

/-- A loop with this test. -/
def whileNode (width : Nat) (comments : List Node) : Node :=
  ⟨"while_statement", true, false, 0, width + 14, none,
    [Scope.tokenNode "while" 0 none, testNode width comments,
      ⟨"empty_statement", true, false, width + 13, width + 14, some .body,
        [Scope.tokenNode ";" (width + 13) none]⟩]⟩

/-- A program that is this loop. -/
def whileProgram (width : Nat) (comments : List Node) : Node :=
  ⟨"program", true, false, 0, width + 14, none, [whileNode width comments]⟩

/-- The draft of this loop. -/
def whileDraft (comment : String) (comments : List Node) : Draft :=
  Draft.ofSource (fun _ _ => whileProgram comment.length comments) .javascript none
    (Bytes.ofString ("while (" ++ comment ++ "i < n);"))

/-- The loop in it. -/
def whileSite (width : Nat) (comments : List Node) : Site :=
  ⟨whileNode width comments, [whileProgram width comments]⟩

/-- A directive. -/
def directiveNode (start : Nat) : Node :=
  ⟨"expression_statement", true, false, start, start + 13, none,
    [⟨"string", true, false, start, start + 12, none,
      [Scope.tokenNode "'" start none,
        ⟨"string_fragment", true, false, start + 1, start + 11, none, []⟩,
        Scope.tokenNode "'" (start + 11) none]⟩,
      Scope.tokenNode ";" (start + 12) none]⟩

/-- A body with this directive. -/
def strictBody (width : Nat) (comments : List Node) : Node :=
  Scope.blockNode 13 (width + 30) (comments ++ [directiveNode (width + 15)])

/-- A function with this body. -/
def strictNode (width : Nat) (comments : List Node) : Node :=
  Scope.functionNode 0 (width + 30) none (comments ++ [directiveNode (width + 15)])

/-- A program with this function. -/
def strictProgram (width : Nat) (comments : List Node) : Node :=
  ⟨"program", true, false, 0, width + 30, none, [strictNode width comments]⟩

/-- The draft of this function. -/
def strictDraft (comment : String) (comments : List Node) : Draft :=
  Draft.ofSource (fun _ _ => strictProgram comment.length comments) .javascript none
    (Bytes.ofString ("function f() \x7b " ++ comment ++ "'use strict'; \x7d"))

/-- The body in it. -/
def strictSite (width : Nat) (comments : List Node) : Site :=
  ⟨strictBody width comments, [strictNode width comments, strictProgram width comments]⟩

/-- A node with the same parts, below which comments have been added. -/
theorem node_commented {kind : String} {named missing : Bool} {start stop start' stop' : Nat}
    {field? : Option Field} (hstart : back start' = start) (hstop : back stop' = stop)
    (hchildren : Strewn (IsComment kinds) (Node.Commented kinds back) ns ns') :
    Node.Commented kinds back ⟨kind, named, missing, start, stop, field?, ns⟩
      ⟨kind, named, missing, start', stop', field?, ns'⟩ :=
  .intro rfl rfl rfl rfl hstart hstop hchildren

/-- A token, which has no comments below it. -/
theorem leaf_commented {kind : String} {named missing : Bool} {start stop start' stop' : Nat}
    {field? : Option Field} (hstart : back start' = start) (hstop : back stop' = stop) :
    Node.Commented kinds back ⟨kind, named, missing, start, stop, field?, []⟩
      ⟨kind, named, missing, start', stop', field?, []⟩ :=
  node_commented hstart hstop .nil

/-- A comment in front of a comparison. -/
theorem comparisonNode_commented :
    (comparisonNode 7).Commented kinds (backTo 7) (comparisonNode 14) := by
  refine node_commented rfl rfl (.of_forall₂ ?_)
  exact .cons (leaf_commented rfl rfl)
    (.cons (leaf_commented rfl rfl) (.cons (leaf_commented rfl rfl) .nil))

/-- A comment in the parentheses of a test. -/
theorem testNode_commented {kind : String} (hkinds : kind ∈ kinds) (hkind : kind ∈ commentKinds) :
    (testNode 0 []).Commented kinds (backTo 7) (testNode 7 [commentToken kind 7]) := by
  refine node_commented rfl rfl (.keep (leaf_commented rfl rfl) ?_)
  refine .add ⟨hkinds, hkind, rfl, rfl⟩ (.of_forall₂ ?_)
  exact .cons comparisonNode_commented (.cons (leaf_commented rfl rfl) .nil)

/-- A comment in a loop. -/
theorem whileNode_commented {kind : String} (hkinds : kind ∈ kinds) (hkind : kind ∈ commentKinds) :
    (whileNode 0 []).Commented kinds (backTo 7) (whileNode 7 [commentToken kind 7]) := by
  refine node_commented rfl rfl (.of_forall₂ (.cons (leaf_commented rfl rfl) ?_))
  refine .cons (testNode_commented hkinds hkind) (.cons ?_ .nil)
  exact node_commented rfl rfl (.keep (leaf_commented rfl rfl) .nil)

/-- A comment in a program that is a loop. -/
theorem whileProgram_commented {kind : String} (hkinds : kind ∈ kinds)
    (hkind : kind ∈ commentKinds) :
    (whileProgram 0 []).Commented kinds (backTo 7) (whileProgram 7 [commentToken kind 7]) :=
  node_commented rfl rfl (.keep (whileNode_commented hkinds hkind) .nil)

/-- A comment in the draft of a loop. -/
theorem whileDraft_commented {kind : String} (hkinds : kind ∈ kinds) (hkind : kind ∈ commentKinds)
    (comment : String) (hlength : comment.length = 7) :
    (whileDraft "" []).Commented kinds (backTo 7) (whileDraft comment [commentToken kind 7]) := by
  have htokens : ∀ n ∈ (whileProgram 0 []).preorder,
      n.kind ∉ ["number", "property_identifier", "expression_statement"] := by
    decide +kernel
  have hblocks : ∀ n ∈ (whileProgram 0 []).preorder, n.kind ≠ "statement_block" := by
    decide +kernel
  refine .of_cuts ?_ (fun n hn n' _ hkind _ _ => absurd hkind (htokens n hn))
    fun n hn n' _ hkind _ => absurd hkind (hblocks n hn)
  rw [whileDraft, whileDraft, hlength]
  exact whileProgram_commented hkinds hkind

/-- A comment in front of a directive. -/
theorem directiveNode_commented :
    (directiveNode 15).Commented kinds (backTo 15) (directiveNode 22) := by
  refine node_commented rfl rfl (.of_forall₂ (.cons ?_ (.cons (leaf_commented rfl rfl) .nil)))
  refine node_commented rfl rfl (.of_forall₂ (.cons (leaf_commented rfl rfl) ?_))
  exact .cons (leaf_commented rfl rfl) (.cons (leaf_commented rfl rfl) .nil)

/-- A comment at the head of a body. -/
theorem strictBody_commented {kind : String} (hkinds : kind ∈ kinds) (hkind : kind ∈ commentKinds) :
    (strictBody 0 []).Commented kinds (backTo 15) (strictBody 7 [commentToken kind 15]) := by
  refine node_commented rfl rfl (.keep (leaf_commented rfl rfl) ?_)
  refine .add ⟨hkinds, hkind, rfl, rfl⟩ (.of_forall₂ ?_)
  exact .cons directiveNode_commented (.cons (leaf_commented rfl rfl) .nil)

/-- A comment in a function. -/
theorem strictNode_commented {kind : String} (hkinds : kind ∈ kinds) (hkind : kind ∈ commentKinds) :
    (strictNode 0 []).Commented kinds (backTo 15) (strictNode 7 [commentToken kind 15]) := by
  refine node_commented rfl rfl (.of_forall₂ (.cons (leaf_commented rfl rfl)
    (.cons (leaf_commented rfl rfl) (.cons ?_ (.cons ?_ .nil)))))
  · refine node_commented rfl rfl (.of_forall₂ ?_)
    exact .cons (leaf_commented rfl rfl) (.cons (leaf_commented rfl rfl) .nil)
  · exact strictBody_commented hkinds hkind

/-- A comment in a program that is a function. -/
theorem strictProgram_commented {kind : String} (hkinds : kind ∈ kinds)
    (hkind : kind ∈ commentKinds) :
    (strictProgram 0 []).Commented kinds (backTo 15) (strictProgram 7 [commentToken kind 15]) :=
  node_commented rfl rfl (.keep (strictNode_commented hkinds hkind) .nil)

/-- The body and the same body with a comment. -/
theorem strictSite_commented {kind : String} (hkinds : kind ∈ kinds) (hkind : kind ∈ commentKinds) :
    (strictSite 0 []).Commented kinds (backTo 15) (strictSite 7 [commentToken kind 15]) :=
  ⟨strictBody_commented hkinds hkind, .cons (strictNode_commented hkinds hkind)
    (.cons (strictProgram_commented hkinds hkind) .nil)⟩

/-- The loop and the same loop with a comment. -/
theorem whileSite_commented {kind : String} (hkinds : kind ∈ kinds) (hkind : kind ∈ commentKinds) :
    (whileSite 0 []).Commented kinds (backTo 7) (whileSite 7 [commentToken kind 7]) :=
  ⟨whileNode_commented hkinds hkind, .cons (whileProgram_commented hkinds hkind) .nil⟩

/-- The loop is a site of its draft. -/
theorem whileSite_mem (comment : String) (comments : List Node) :
    whileSite comment.length comments ∈ (whileDraft comment comments).sites :=
  Site.mem_walk_down (Site.mem_walk_of_mem (List.mem_singleton_self _)) List.mem_cons_self

/-- The body is a site of its draft. -/
theorem strictSite_mem (comment : String) (comments : List Node) :
    strictSite comment.length comments ∈ (strictDraft comment comments).sites := by
  have hbody : strictBody comment.length comments ∈ (strictNode comment.length comments).children :=
    List.mem_cons_of_mem _ (List.mem_cons_of_mem _ (List.mem_cons_of_mem _ List.mem_cons_self))
  have hroot := Site.mem_walk_of_mem
    (List.mem_singleton_self (⟨strictProgram comment.length comments, []⟩ : Site))
  exact Site.mem_walk_down (Site.mem_walk_down hroot List.mem_cons_self) hbody

/-- With a comment of the other manner in front of it the test of a loop is found as before. -/
theorem transparent_whileDraft :
    (whileDraft "" []).Commented ["comment"] (backTo 7)
        (whileDraft "/* c */" [commentToken "comment" 7]) ∧
      Option.Rel (Site.Commented ["comment"] (backTo 7)) (loopTest? (whileSite 0 []))
        (loopTest? (whileSite 7 [commentToken "comment" 7])) := by
  have hkinds : "comment" ∈ ["comment"] := List.mem_singleton_self _
  have hkind : "comment" ∈ commentKinds := List.mem_cons_self
  have h := whileDraft_commented hkinds hkind "/* c */" rfl
  obtain ⟨-, -, hsites⟩ := h.transparent
  have halike := hsites _ (whileSite_mem _ _) _ (whileSite_mem _ _)
    (whileSite_commented hkinds hkind)
  exact ⟨h, halike.tests.resolve_right fun hends => absurd hends.1 (by decide)⟩

/-- The loop with a comment in the manner of markup in front of its test. -/
def markupLoop : Draft :=
  whileDraft "<!-- c\n" [commentToken "html_comment" 7]

/-- The function with such a comment in front of its directive. -/
def markupFunction : Draft :=
  strictDraft "<!-- c\n" [commentToken "html_comment" 15]

/-- The comment has been added to the function. -/
theorem markupFunction_commented :
    (strictDraft "" []).Commented commentKinds (backTo 15) markupFunction :=
  .of_cuts (strictProgram_commented (by decide) (by decide)) (by decide +kernel) (by decide +kernel)

/-- A comment in the manner of markup in front of it is taken for the test of a loop, so that no
loop with a bound is found any more. In front of a directive such a comment ends the prologue, so
that a declaration is put before the directive. -/
theorem not_transparent_markup :
    ((whileDraft "" []).Commented commentKinds (backTo 7) markupLoop ∧
      ∃ s ∈ (whileDraft "" []).sites, ∃ s' ∈ markupLoop.sites,
        s.Commented commentKinds (backTo 7) s' ∧ EndsAtComment commentKinds (loopTest? s') ∧
        ¬Option.Rel (Site.Commented commentKinds (backTo 7)) (loopTest? s) (loopTest? s') ∧
        (findLoopBound (whileDraft "" [])).map Option.isSome = .ok true ∧
        (findLoopBound markupLoop).map Option.isSome = .ok false) ∧
    ((strictDraft "" []).Commented commentKinds (backTo 15) markupFunction ∧
      ∃ s ∈ (strictDraft "" []).sites, ∃ s' ∈ markupFunction.sites,
        s.Commented commentKinds (backTo 15) s' ∧
        directives s.node = [directiveNode 15] ∧ directives s'.node = [] ∧
        opening (strictDraft "" []) s.node "let n;" = .ok (.insertion 28 " let n;") ∧
        opening markupFunction s'.node "let n;" = .ok (.insertion 14 " let n;")) := by
  have hkind : "html_comment" ∈ commentKinds := by decide
  have hends : EndsAtComment commentKinds
      (loopTest? (whileSite 7 [commentToken "html_comment" 7])) :=
    ⟨_, rfl, ⟨⟨hkind, hkind, rfl, rfl⟩, rfl⟩⟩
  constructor
  · refine ⟨whileDraft_commented hkind hkind _ rfl, _, whileSite_mem _ _, _, whileSite_mem _ _,
      whileSite_commented hkind hkind, hends, hends.not_rel rfl (by decide), ?_, ?_⟩
    · exact Scope.toOption_eq_some.1 (by decide +kernel)
    · exact Scope.toOption_eq_some.1 (by decide +kernel)
  · refine ⟨markupFunction_commented, _, strictSite_mem _ _, _, strictSite_mem _ _,
      strictSite_commented hkind hkind, rfl, rfl, ?_, rfl⟩
    exact Scope.toOption_eq_some.1 (by decide +kernel)

end Sabotage
