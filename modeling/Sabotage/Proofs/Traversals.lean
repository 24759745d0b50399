import Sabotage.Proofs.Positions
import Sabotage.Scope.Shadow
import Mathlib.Data.List.Forall2

/-!
# Walks with a stack

A walk keeps the nodes that wait on a stack. In each round it takes the node on top, visits it, and
puts on what is below the node, turned round so that the first of them lies on top (`Tour.advance`).
What has been visited, followed by what the nodes on the stack lead to, stays the same from round to
round (`Tour.visited_advance`), so that the walk comes to an end with the nodes that the recursion
names, in its order (`Tour.run_eq`).

Two nodes of a tree may be equal, and then only the ways down to them tell them apart. The nodes of
a walk are those at the ways of the tree, each way once and in the order of the text
(`Node.LaidAlong`).

Where only a set is asked for, the node to visit may be any of those that wait (`Tour.Round`): each
round leaves the nodes to be visited the same, but for their order (`Tour.Round.perm`).
-/

namespace Sabotage

/-! ## Ways down -/

namespace Node
variable {enter : Node → Bool} {c m n : Node} {ns : List Node} {way : List Nat}

/-- The node that a way down leads to. A way is told by the places of the children on it. -/
def at? (n : Node) : List Nat → Option Node
  | [] => some n
  | i :: way => n.children[i]?.bind fun c => c.at? way

mutual
/-- The ways down that go on below the nodes that may be entered, in the order of the text. -/
def ways (enter : Node → Bool) : Node → List (List Nat)
  | n@⟨_, _, _, _, _, _, children⟩ => [] :: if enter n then waysAll enter children else []

/-- The ways that begin with the place of a node in a list. -/
def waysAll (enter : Node → Bool) : List Node → List (List Nat)
  | [] => []
  | c :: cs =>
    (ways enter c).map (0 :: ·) ++ (waysAll enter cs).map (List.modifyHead (· + 1))
end

/-- The ways by children. -/
theorem ways_eq (enter : Node → Bool) (n : Node) :
    ways enter n = [] :: if enter n then waysAll enter n.children else [] := by
  cases n; simp only [ways]

/-- A way into a list begins with the place of a node and goes on below it. -/
theorem mem_waysAll : way ∈ waysAll enter ns ↔
    ∃ i rest c, way = i :: rest ∧ ns[i]? = some c ∧ rest ∈ ways enter c := by
  induction ns generalizing way with
  | nil => simp [waysAll]
  | cons d ds ih =>
    rw [waysAll, List.mem_append, List.mem_map, List.mem_map]
    constructor
    · rintro (⟨rest, hrest, rfl⟩ | ⟨way', hway', rfl⟩)
      · exact ⟨0, rest, d, rfl, rfl, hrest⟩
      · obtain ⟨i, rest, c, rfl, hc, hrest⟩ := ih.1 hway'
        exact ⟨i + 1, rest, c, rfl, hc, hrest⟩
    · rintro ⟨_ | i, rest, c, rfl, hc, hrest⟩
      · exact .inl ⟨rest, Option.some.inj hc ▸ hrest, rfl⟩
      · exact .inr ⟨i :: rest, ih.2 ⟨i, rest, c, rfl, hc, hrest⟩, rfl⟩

/-- A way goes on only below nodes that may be entered. -/
def Entered (enter : Node → Bool) (n : Node) (way : List Nat) : Prop :=
  ∀ before i after m, way = before ++ i :: after → n.at? before = some m → enter m

/-- A way goes on below a node if the node may be entered, and from the child as before. -/
theorem entered_cons {i : Nat} (hc : n.children[i]? = some c) :
    Entered enter n (i :: way) ↔ enter n ∧ Entered enter c way := by
  constructor
  · intro h
    refine ⟨h [] i way n rfl rfl, fun before j after m hway hm => ?_⟩
    refine h (i :: before) j after m (congrArg (i :: ·) hway) ?_
    rw [at?, hc]
    exact hm
  · rintro ⟨hn, h⟩ before j after m hway hm
    cases before with
    | nil =>
      cases hm
      exact hn
    | cons k before =>
      obtain ⟨rfl, hrest⟩ := List.cons.inj hway
      rw [at?, hc] at hm
      exact h before j after m hrest hm

/-- The listed ways are those that lead to a node and go on only where one may enter. -/
theorem mem_ways : way ∈ ways enter n ↔ Entered enter n way ∧ (n.at? way).isSome := by
  induction way generalizing n with
  | nil =>
    rw [ways_eq]
    simp [at?, Entered]
  | cons i way ih =>
    rw [ways_eq, List.mem_cons, at?]
    cases hc : n.children[i]? with
    | none =>
      suffices i :: way ∉ waysAll enter n.children by
        split
        · simpa
        · simp
      intro h
      obtain ⟨_, _, c, hway, hc', -⟩ := mem_waysAll.1 h
      obtain ⟨rfl, -⟩ := List.cons.inj hway
      rw [hc] at hc'
      cases hc'
    | some c =>
      have hall : i :: way ∈ waysAll enter n.children ↔ way ∈ ways enter c := by
        rw [mem_waysAll]
        constructor
        · rintro ⟨_, _, c', hway, hc', h⟩
          obtain ⟨rfl, rfl⟩ := List.cons.inj hway
          rw [hc] at hc'
          exact Option.some.inj hc' ▸ h
        · intro h
          exact ⟨i, way, c, rfl, hc, h⟩
      rw [entered_cons hc, Option.bind_some, and_assoc, ← ih, ← hall]
      cases enter n with
      | true => simp
      | false => simp

mutual
/-- The ways come in the order of the text: a node before what is below it, and that before what is
to the right of the node. -/
theorem pairwise_ways (enter : Node → Bool) : ∀ n : Node, (ways enter n).Pairwise (· < ·)
  | n@⟨_, _, _, _, _, _, children⟩ => by
    rw [ways, List.pairwise_cons]
    constructor
    · intro way hway
      split at hway
      · obtain ⟨i, rest, -, rfl, -⟩ := mem_waysAll.1 hway
        exact List.nil_lt_cons i rest
      · cases hway
    · split
      · exact pairwise_waysAll enter children
      · exact .nil

/-- The ways into a list come in the order of the text. -/
theorem pairwise_waysAll (enter : Node → Bool) :
    ∀ ns : List Node, (waysAll enter ns).Pairwise (· < ·)
  | [] => .nil
  | c :: cs => by
    rw [waysAll, List.pairwise_append, List.pairwise_map, List.pairwise_map]
    refine ⟨(pairwise_ways enter c).imp fun h => ?_, ?_, ?_⟩
    · exact List.cons_lt_cons_iff.2 (.inr ⟨rfl, h⟩)
    · refine (pairwise_waysAll enter cs).imp_of_mem fun {a b} ha hb h => ?_
      obtain ⟨i, rest, -, rfl, -⟩ := mem_waysAll.1 ha
      obtain ⟨j, rest', -, rfl, -⟩ := mem_waysAll.1 hb
      refine List.cons_lt_cons_iff.2 ((List.cons_lt_cons_iff.1 h).imp ?_ ?_)
      · exact Nat.succ_lt_succ
      · exact And.imp_left (congrArg Nat.succ)
    · intro a ha b hb
      obtain ⟨rest, -, rfl⟩ := List.mem_map.1 ha
      obtain ⟨way, hway, rfl⟩ := List.mem_map.1 hb
      obtain ⟨j, rest', -, rfl, -⟩ := mem_waysAll.1 hway
      exact List.cons_lt_cons_iff.2 (.inl (Nat.succ_pos j))
end

/-! ## Lists of nodes in the order of the text -/

/-- The nodes of a list are those that the chosen ways down a tree lead to, each way once and in the
order of the text. -/
def LaidAlong (root : Node) (chosen : List Nat → Prop) (ns : List Node) : Prop :=
  ∃ ways : List (List Nat), ways.Pairwise (· < ·) ∧
    (∀ way, way ∈ ways ↔ chosen way ∧ (root.at? way).isSome) ∧
    List.Forall₂ (fun way m => root.at? way = some m) ways ns

section
variable {visit : Node → List Node}

/-- The order of a list of trees, tree by tree. -/
theorem preorderAll_eq_flatMap (ns : List Node) : preorderAll ns = ns.flatMap preorder := by
  induction ns with
  | nil => rfl
  | cons n ns ih => rw [preorderAll, ih, List.flatMap_cons]

/-- What is visited below the nodes of a list is what the ways into the list lead to. -/
theorem forall₂_waysAll {parent : Node} :
    ∀ {before ns : List Node}, parent.children = before ++ ns →
      (∀ c ∈ ns, List.Forall₂ (fun way m => c.at? way = some m) (ways enter c) (visit c)) →
      List.Forall₂ (fun way m => (parent.at? (way.modifyHead (before.length + ·))) = some m)
        (waysAll enter ns) (ns.flatMap visit)
  | _, [], _, _ => .nil
  | before, c :: cs, hchildren, h => by
    obtain ⟨hc, hcs⟩ := List.forall_mem_cons.1 h
    have hplace : parent.children[before.length]? = some c := by
      rw [hchildren, List.getElem?_append_right (Nat.le_refl _), Nat.sub_self]
      rfl
    have hchildren' : parent.children = (before ++ [c]) ++ cs := by
      rw [hchildren, List.append_assoc, List.singleton_append]
    have hrest := forall₂_waysAll hchildren' hcs
    rw [waysAll, List.flatMap_cons]
    refine List.rel_append ?_ ?_
    · rw [List.forall₂_map_left_iff]
      refine hc.imp fun way m hm => ?_
      rw [List.modifyHead_cons, Nat.add_zero, at?, hplace]
      exact hm
    · rw [List.forall₂_map_left_iff]
      refine hrest.imp fun way m hm => ?_
      rw [List.modifyHead_modifyHead]
      rw [List.length_append, List.length_singleton] at hm
      convert hm using 3
      funext i
      simp only [Function.comp_apply]
      omega

/-- The ways into the children of a node lead to what is visited below it. -/
theorem forall₂_waysAll_children
    (h : ∀ c ∈ n.children, List.Forall₂ (fun way m => c.at? way = some m) (ways enter c) (visit c)) :
    List.Forall₂ (fun way m => n.at? way = some m) (waysAll enter n.children)
      (n.children.flatMap visit) := by
  refine (forall₂_waysAll (List.nil_append n.children).symm h).imp fun way m hm => ?_
  convert hm
  cases way <;> simp

variable (hvisit : ∀ n, visit n = n :: if enter n then n.children.flatMap visit else [])
include hvisit

/-- A recursion that goes on below the nodes that may be entered visits what the ways lead to. -/
theorem forall₂_ways (n : Node) :
    List.Forall₂ (fun way m => n.at? way = some m) (ways enter n) (visit n) := by
  induction n using induction_children with | _ n ih
  rw [ways_eq, hvisit]
  refine .cons rfl ?_
  split
  · exact forall₂_waysAll_children ih
  · exact .nil

end

end Node

/-! ## Rounds of a walk -/

/-- A walk under way: what waits, the top of the stack last, and what has been visited. -/
structure Tour (α : Type) where
  waiting : List α
  visited : List α

namespace Tour
variable {α : Type} {below : α → List α} {walk : List α → List α}

/-- One round of a walk. What is below an item is put on turned round, so that its first comes to
lie on top. -/
def advance (below : α → List α) (t : Tour α) : Tour α :=
  match t.waiting.getLast? with
  | none => t
  | some a => ⟨t.waiting.dropLast ++ (below a).reverse, t.visited ++ [a]⟩

/-- A number of rounds. -/
def run (below : α → List α) : Nat → Tour α → Tour α
  | 0, t => t
  | k + 1, t => run below k (advance below t)

/-- A round with an item on top. -/
theorem advance_concat (waiting visited : List α) (a : α) :
    advance below ⟨waiting ++ [a], visited⟩ =
      ⟨waiting ++ (below a).reverse, visited ++ [a]⟩ := by
  simp [advance]

/-- A walk from a stack ends with a list: after as many rounds as there are items in the list
nothing waits, and they have been visited. -/
def Ends (below : α → List α) (stack visited : List α) : Prop :=
  run below visited.length ⟨stack, []⟩ = ⟨[], visited⟩

section
variable (hcons : ∀ a rest, walk (a :: rest) = a :: walk (below a ++ rest))
include hcons

/-- What has been visited, followed by what the stack leads to, stays the same in a round. -/
theorem visited_advance (t : Tour α) :
    (advance below t).visited ++ walk (advance below t).waiting.reverse =
      t.visited ++ walk t.waiting.reverse := by
  obtain ⟨waiting, visited⟩ := t
  rcases List.eq_nil_or_concat' waiting with rfl | ⟨rest, a, rfl⟩
  · rfl
  · rw [advance_concat]
    simp [hcons]

/-- What has been visited, followed by what the stack leads to, stays the same. -/
theorem visited_run : ∀ (k : Nat) (t : Tour α),
    (run below k t).visited ++ walk (run below k t).waiting.reverse =
      t.visited ++ walk t.waiting.reverse
  | 0, _ => rfl
  | k + 1, t =>
    (visited_run k (advance below t)).trans (visited_advance hcons t)

/-- In a round with something on the stack, what it leads to becomes less by one. -/
theorem length_walk_advance {t : Tour α} (h : t.waiting ≠ []) :
    (walk (advance below t).waiting.reverse).length + 1 = (walk t.waiting.reverse).length := by
  have hkept := congrArg List.length (visited_advance hcons t)
  obtain ⟨waiting, visited⟩ := t
  rcases List.eq_nil_or_concat' waiting with rfl | ⟨rest, a, rfl⟩
  · exact absurd rfl h
  · rw [advance_concat] at hkept ⊢
    simp only [List.length_append, List.length_singleton] at hkept ⊢
    omega

variable (hnil : walk [] = [])
include hnil

/-- After as many rounds as there are items that the stack leads to, nothing waits. -/
theorem waiting_run : ∀ (k : Nat) (t : Tour α), (walk t.waiting.reverse).length = k →
    (run below k t).waiting = []
  | 0, t, h => by
    rcases List.eq_nil_or_concat' t.waiting with hwaiting | ⟨rest, a, hwaiting⟩
    · exact hwaiting
    · rw [hwaiting, List.reverse_concat, hcons] at h
      cases h
  | k + 1, t, h => by
    refine waiting_run k (advance below t) ?_
    have hne : t.waiting ≠ [] := by
      intro hwaiting
      rw [hwaiting, List.reverse_nil, hnil] at h
      cases h
    have hless := length_walk_advance hcons hne
    omega

/-- The walk from a stack visits what the recursion lists. -/
theorem ends_walk (stack : List α) : Ends below stack (walk stack.reverse) := by
  have hwaiting := waiting_run hcons hnil _ ⟨stack, []⟩ rfl
  have hvisited := visited_run hcons (walk stack.reverse).length ⟨stack, []⟩
  rw [hwaiting, List.reverse_nil, hnil, List.append_nil, List.nil_append] at hvisited
  rw [Ends]
  cases h : run below (walk stack.reverse).length ⟨stack, []⟩ with
  | mk waiting visited =>
    rw [h] at hwaiting hvisited
    exact congrArg₂ mk hwaiting hvisited

end

/-! ## Rounds in any order -/

open Node

variable {k : Nat} {t t' : Tour Node}

/-- One round of a walk over nodes that may go on with any of those that wait, and put on what is
below it in any order. -/
inductive Round (t t' : Tour Node) : Prop
  | visit {n : Node} {rest : List Node} : t.waiting.Perm (n :: rest) →
      t'.waiting.Perm (n.children ++ rest) → t'.visited = t.visited ++ [n] → Round t t'

/-- A number of such rounds. -/
inductive Rounds : Nat → Tour Node → Tour Node → Prop
  | none {t : Tour Node} : Rounds 0 t t
  | next {k : Nat} {t t' t'' : Tour Node} : Round t t' → Rounds k t' t'' → Rounds (k + 1) t t''

/-- Trees in another order have the same nodes. -/
theorem perm_preorderAll {ms ns : List Node} (h : ms.Perm ns) :
    (preorderAll ms).Perm (preorderAll ns) := by
  induction h with
  | nil => exact .nil
  | cons n _ ih => exact ih.append_left _
  | swap m n ns =>
    simp only [preorderAll, ← List.append_assoc]
    exact List.perm_append_comm.append_right _
  | trans _ _ ih ih' => exact ih.trans ih'

/-- The trees of a list have as many nodes as there are in their order. -/
theorem length_preorderAll (ns : List Node) : (preorderAll ns).length = countAll ns := by
  rw [← walk_eq_preorderAll]
  fun_induction Node.walk ns with
  | case1 => rfl
  | case2 n rest ih =>
    rw [List.length_cons, ih, countAll_append, countAll, count_eq]
    omega

/-- In a round the nodes that are visited or still to be visited stay the same, but for their
order. -/
theorem Round.perm (h : Round t t') :
    (t'.visited ++ preorderAll t'.waiting).Perm (t.visited ++ preorderAll t.waiting) := by
  obtain @⟨n, rest, hwaiting, hwaiting', hvisited⟩ := h
  have hbefore : (preorderAll t.waiting).Perm (n :: preorderAll (n.children ++ rest)) := by
    refine (perm_preorderAll hwaiting).trans ?_
    rw [preorderAll, preorder_eq, preorderAll_append]
    exact .refl _
  rw [hvisited, List.append_assoc, List.singleton_append]
  exact (((perm_preorderAll hwaiting').cons n).trans hbefore.symm).append_left _

/-- In any number of rounds the nodes that are visited or still to be visited stay the same, but for
their order. -/
theorem Rounds.perm (h : Rounds k t t') :
    (t'.visited ++ preorderAll t'.waiting).Perm (t.visited ++ preorderAll t.waiting) := by
  induction h with
  | none => exact .refl _
  | next hround _ ih => exact ih.trans hround.perm

/-- Each round visits one node. -/
theorem Rounds.length_visited (h : Rounds k t t') :
    t'.visited.length = t.visited.length + k := by
  induction h with
  | none => rfl
  | next hround _ ih =>
    obtain ⟨-, -, hvisited⟩ := hround
    rw [ih, hvisited, List.length_append, List.length_singleton]
    omega

/-- Each round takes one from the number of nodes still to be visited. -/
theorem Rounds.count (h : Rounds k t t') : k + countAll t'.waiting = countAll t.waiting := by
  have hlength := h.perm.length_eq
  have hvisited := h.length_visited
  simp only [List.length_append, length_preorderAll] at hlength
  omega

/-- While a node waits there is a next round. -/
theorem exists_round (h : t.waiting ≠ []) : ∃ t', Round t t' := by
  obtain ⟨n, rest, hwaiting⟩ := List.exists_cons_of_ne_nil h
  exact ⟨⟨n.children ++ rest, t.visited ++ [n]⟩, .visit (hwaiting ▸ .refl _) (.refl _) rfl⟩

/-- A round that takes the node on top, and puts on what is below it in either direction, is one of
these. -/
theorem round_advance {below : Node → List Node} (hbelow : ∀ n, (below n).Perm n.children)
    (h : t.waiting ≠ []) : Round t (advance below t) := by
  obtain ⟨waiting, visited⟩ := t
  obtain hwaiting | ⟨rest, n, rfl⟩ := List.eq_nil_or_concat' waiting
  · exact absurd hwaiting h
  · rw [advance_concat]
    refine .visit List.perm_append_comm ?_ rfl
    exact List.perm_append_comm.trans (((List.reverse_perm _).trans (hbelow n)).append_right rest)

/-- Such a walk may go on for as many rounds as there are nodes to be visited. -/
theorem rounds_run {below : Node → List Node} (hbelow : ∀ n, (below n).Perm n.children) :
    ∀ (k : Nat) (t : Tour Node), k ≤ countAll t.waiting → Rounds k t (run below k t)
  | 0, _, _ => .none
  | k + 1, t, h => by
    have hne : t.waiting ≠ [] := by
      intro hwaiting
      rw [hwaiting] at h
      cases h
    have hround := round_advance hbelow hne
    have hcount := (Rounds.next hround .none).count
    exact .next hround (rounds_run hbelow k (advance below t) (by omega))

end Tour

/-! ## The walks over a tree -/

namespace Scope

open Node

variable {key : NodeKey} {m n : Node} {way : List Nat}

/-- Whether a walk goes on below a node it meets: not below a function's scope. -/
def entersLocal (n : Node) : Bool :=
  !functionScopeKinds.contains n.kind

/-- A way down from a node passes through no function's scope on its way. Where it begins and where
it ends does not matter. -/
def StaysLocal (n : Node) (way : List Nat) : Prop :=
  ∀ before i after m, way = before ++ i :: after → before ≠ [] → n.at? before = some m →
    functionScopeKinds.contains m.kind = false

/-- A way stays within the function if it does from its first step on. -/
theorem staysLocal_cons {c : Node} {i : Nat} (hc : n.children[i]? = some c) :
    StaysLocal n (i :: way) ↔ Entered entersLocal c way := by
  constructor
  · intro h before j after m hway hm
    have hat : n.at? (i :: before) = some m := by
      rw [at?, hc]
      exact hm
    have hkind := h (i :: before) j after m (congrArg (i :: ·) hway) (List.cons_ne_nil _ _) hat
    rw [entersLocal, hkind]
    rfl
  · intro h before j after m hway hne hm
    obtain ⟨i', before, rfl⟩ := List.exists_cons_of_ne_nil hne
    obtain ⟨rfl, hrest⟩ := List.cons.inj hway
    rw [at?, hc] at hm
    have henter := h before j after m hrest hm
    rw [entersLocal, Bool.not_eq_true'] at henter
    exact henter

/-- The local order of a list of trees, tree by tree. -/
theorem localPreorderAll_eq_flatMap (ns : List Node) :
    localPreorderAll ns = ns.flatMap localPreorder := by
  induction ns with
  | nil => rfl
  | cons n ns ih => rw [localPreorderAll, ih, List.flatMap_cons]

/-- The local order goes on below the nodes that a walk goes on below. -/
theorem localPreorder_flatMap (n : Node) : localPreorder n =
    n :: if entersLocal n then n.children.flatMap localPreorder else [] := by
  rw [localPreorder_eq, localChildren, entersLocal]
  cases functionScopeKinds.contains n.kind with
  | true => rfl
  | false => exact congrArg (n :: ·) (localPreorderAll_eq_flatMap _)

/-- The order of the text lays the nodes of a tree along all its ways. -/
theorem laidAlong_preorder (n : Node) : n.LaidAlong (fun _ => True) n.preorder := by
  have hvisit (n : Node) : n.preorder =
      n :: if (fun _ => true) n then n.children.flatMap preorder else [] := by
    rw [preorder_eq, preorderAll_eq_flatMap]
    rfl
  refine ⟨ways (fun _ => true) n, pairwise_ways _ n, fun way => ?_, forall₂_ways hvisit n⟩
  rw [mem_ways]
  exact and_congr_left fun _ => iff_of_true (fun _ _ _ _ _ _ => rfl) trivial

/-- The local order lays the nodes below a node along the ways that stay within its function. -/
theorem laidAlong_localPreorderAll (n : Node) :
    n.LaidAlong (fun way => way ≠ [] ∧ StaysLocal n way) (localPreorderAll n.children) := by
  refine ⟨waysAll entersLocal n.children, pairwise_waysAll _ _, fun way => ?_, ?_⟩
  · rw [mem_waysAll]
    constructor
    · rintro ⟨i, rest, c, rfl, hc, hrest⟩
      obtain ⟨hentered, hsome⟩ := mem_ways.1 hrest
      refine ⟨⟨List.cons_ne_nil _ _, (staysLocal_cons hc).2 hentered⟩, ?_⟩
      rw [at?, hc]
      exact hsome
    · rintro ⟨⟨hne, hlocal⟩, hsome⟩
      obtain ⟨i, rest, rfl⟩ := List.exists_cons_of_ne_nil hne
      rw [at?] at hsome
      cases hc : n.children[i]? with
      | none =>
        rw [hc] at hsome
        cases hsome
      | some c =>
        rw [hc] at hsome
        exact ⟨i, rest, c, rfl, hc, mem_ways.2 ⟨(staysLocal_cons hc).1 hlocal, hsome⟩⟩
  · rw [localPreorderAll_eq_flatMap]
    exact forall₂_waysAll_children fun c _ => forall₂_ways localPreorder_flatMap c

/-- The keys that nodes put into declaring positions. -/
def keysDeclaredBy (ns : List Node) : List NodeKey :=
  ns.flatMap fun m => (declaredBy m).map Node.key

/-- The keys that the nodes of a list put into declaring positions are those of each. -/
theorem mem_keysDeclaredBy {ns : List Node} :
    key ∈ keysDeclaredBy ns ↔ ∃ m ∈ ns, ∃ i ∈ declaredBy m, i.key = key := by
  simp only [keysDeclaredBy, List.mem_flatMap, List.mem_map]

/-- After any number of rounds over a tree, in any order: as many nodes as the rounds are visited;
the walk goes on while a node waits; and when none does, each node has been visited once, so that
the keys are those of the declaring positions. -/
theorem rounds_declaringKeys {k : Nat} {t : Tour Node} (h : Tour.Rounds k ⟨[n], []⟩ t) :
    k + countAll t.waiting = n.count ∧
      (t.waiting ≠ [] → ∃ t', Tour.Round t t') ∧
      (t.waiting = [] → t.visited.Perm n.preorder ∧
        ∀ key, key ∈ keysDeclaredBy t.visited ↔ key ∈ declaringKeys n) := by
  refine ⟨h.count, Tour.exists_round, fun hwaiting => ?_⟩
  have hperm := h.perm
  rw [hwaiting, ← walk_eq_preorderAll [n], walk_singleton, preorderAll, List.append_nil] at hperm
  refine ⟨hperm, fun key => ?_⟩
  rw [declaringKeys, walk_singleton, ← keysDeclaredBy]
  exact (hperm.flatMap_right _).mem_iff

/-- The loop that puts the children on as they come, so that the last is visited first, is such a
walk. -/
theorem exists_ends_reverse (n : Node) :
    ∃ visited, Tour.Ends (fun n => n.children.reverse) [n] visited ∧
      Tour.Rounds n.count ⟨[n], []⟩ ⟨[], visited⟩ := by
  have hrounds : Tour.Rounds n.count ⟨[n], []⟩
      (Tour.run (fun n => n.children.reverse) n.count ⟨[n], []⟩) :=
    Tour.rounds_run (fun n => List.reverse_perm _) _ _ (Nat.le_add_right _ _)
  cases h : Tour.run (fun n => n.children.reverse) n.count ⟨[n], []⟩ with
  | mk waiting visited =>
    rw [h] at hrounds
    have hcount : n.count + countAll waiting = n.count := hrounds.count
    have hwaiting : waiting = [] := by
      cases waiting with
      | nil => rfl
      | cons m ms =>
        rw [countAll, count_eq m] at hcount
        omega
    have hlength : visited.length = 0 + n.count := hrounds.length_visited
    subst hwaiting
    refine ⟨visited, ?_, hrounds⟩
    rw [Tour.Ends, hlength, Nat.zero_add, h]

/-- The walks over a tree. With a stack, the walk over a node and what is below it, and the walk
over what is below it in the same function, end with the nodes that the recursion names; they are
the nodes at the ways down, each way once and in the order of the text. For the keys of declaring
positions the order does not matter: whichever node is visited next and however its children are
put on, the walk ends when each node has been visited once, and then its keys are those that the
nodes of the tree put into declaring positions. -/
theorem walks_in_order (s : Site) :
    (Tour.Ends Site.children [s] (Site.walk [s]) ∧
      (Site.walk [s]).map Site.node = s.node.preorder ∧
      Tour.Ends Node.children [s.node] (Node.walk [s.node]) ∧
      Node.walk [s.node] = s.node.preorder ∧
      s.node.LaidAlong (fun _ => True) (Node.walk [s.node])) ∧
    (Tour.Ends localChildren s.node.children.reverse (walkLocal s.node.children) ∧
      walkLocal s.node.children = localPreorderAll s.node.children ∧
      s.node.LaidAlong (fun way => way ≠ [] ∧ StaysLocal s.node way)
        (walkLocal s.node.children)) ∧
    (∀ key, key ∈ declaringKeys s.node ↔
      ∃ m ∈ s.node.preorder, ∃ i ∈ declaredBy m, i.key = key) ∧
    (∀ k t, Tour.Rounds k ⟨[s.node], []⟩ t →
      k + countAll t.waiting = s.node.count ∧
      (t.waiting ≠ [] → ∃ t', Tour.Round t t') ∧
      (t.waiting = [] → t.visited.Perm s.node.preorder ∧
        ∀ key, key ∈ keysDeclaredBy t.visited ↔ key ∈ declaringKeys s.node)) ∧
    ∃ visited, Tour.Ends (fun n => n.children.reverse) [s.node] visited ∧
      Tour.Rounds s.node.count ⟨[s.node], []⟩ ⟨[], visited⟩ := by
  refine ⟨⟨?_, ?_, ?_, ?_, ?_⟩, ⟨?_, ?_, ?_⟩, ?_, ?_, ?_⟩
  · exact Tour.ends_walk (fun s rest => by rw [Site.walk]) (by rw [Site.walk]) [s]
  · rw [Site.map_node_walk, List.map_singleton, walk_singleton]
  · exact Tour.ends_walk (fun n rest => by rw [Node.walk]) (by rw [Node.walk]) [s.node]
  · exact walk_singleton s.node
  · rw [walk_singleton]
    exact laidAlong_preorder s.node
  · have hends : Tour.Ends localChildren s.node.children.reverse
        (walkLocal s.node.children.reverse.reverse) :=
      Tour.ends_walk (fun n rest => by rw [walkLocal]) (by rw [walkLocal]) _
    rwa [List.reverse_reverse] at hends
  · exact walkLocal_eq_localPreorderAll _
  · rw [walkLocal_eq_localPreorderAll]
    exact laidAlong_localPreorderAll s.node
  · intro key
    rw [declaringKeys, walk_singleton, ← keysDeclaredBy]
    exact mem_keysDeclaredBy
  · intro k t h
    exact rounds_declaringKeys h
  · exact exists_ends_reverse s.node

/-- A name by itself. -/
def loneName (start : Nat) : Node :=
  ⟨"identifier", true, false, start, start + 1, none, []⟩

/-- A block with one name in it. -/
def loneBlock : Node :=
  ⟨"statement_block", true, false, 0, 5, none, [loneName 2]⟩

/-- This block and a name after it. -/
def blockProgram : Node :=
  ⟨"program", true, false, 0, 7, none, [loneBlock, loneName 6]⟩

/-- A walk level by level visits the name after the block before the one in it. It visits what the
walk with a stack visits, and comes to the same keys. -/
theorem walks_in_order_blockProgram :
    Tour.Rounds 4 ⟨[blockProgram], []⟩ ⟨[], [blockProgram, loneBlock, loneName 6, loneName 2]⟩ ∧
      Node.walk [blockProgram] = [blockProgram, loneBlock, loneName 2, loneName 6] ∧
      ∀ key, key ∈ keysDeclaredBy [blockProgram, loneBlock, loneName 6, loneName 2] ↔
        key ∈ declaringKeys blockProgram := by
  have hrounds : Tour.Rounds 4 ⟨[blockProgram], []⟩
      ⟨[], [blockProgram, loneBlock, loneName 6, loneName 2]⟩ := by
    have hprogram : Tour.Round ⟨[blockProgram], []⟩
        ⟨[loneBlock, loneName 6], [blockProgram]⟩ := .visit (.refl _) (.refl _) rfl
    have hblock : Tour.Round ⟨[loneBlock, loneName 6], [blockProgram]⟩
        ⟨[loneName 6, loneName 2], [blockProgram, loneBlock]⟩ :=
      .visit (.refl _) (.swap _ _ _) rfl
    have hafter : Tour.Round ⟨[loneName 6, loneName 2], [blockProgram, loneBlock]⟩
        ⟨[loneName 2], [blockProgram, loneBlock, loneName 6]⟩ := .visit (.refl _) (.refl _) rfl
    refine .next hprogram (.next hblock (.next hafter (.next ?_ .none)))
    exact .visit (.refl _) (.refl _) rfl
  obtain ⟨⟨-, -, -, hwalk, -⟩, -, -, hkeys, -⟩ := walks_in_order ⟨blockProgram, []⟩
  obtain ⟨-, -, hvisited⟩ := hkeys 4 _ hrounds
  refine ⟨hrounds, ?_, (hvisited rfl).2⟩
  rw [hwalk]
  rfl

end Scope

end Sabotage
