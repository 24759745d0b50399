import Sabotage.Proofs.Gains

/-!
# Equals signs beside other signs

Tallies do not see where a byte stands. Two measures that do are the exclamation marks without an
equals sign after them (`Bytes.openMarks`) and the comparison signs with one
(`Bytes.closedBounds`). Of a parse it is relied on that no equals sign stands at the head of an
expression of truth or of a branch, nor right after an operator or a branch (`Node.Legible`), as the
longest token is always taken. Then a negation raises the first measure, a bound that is taken out
lowers the second, and the flip of an equality cannot make up for both.
-/

namespace Sabotage

open Bytes

namespace Bytes
variable {p : UInt8 → Bool} {x y source given taken : Bytes} {i j : Nat}

/-! ## Equals signs after bytes of a class -/

/-- How many equals signs stand right after a byte of a class. -/
def equalsAfter (p : UInt8 → Bool) : Bytes → Int
  | [] => 0
  | b :: rest => (if p b ∧ rest.head? = some 61 then 1 else 0) + equalsAfter p rest

/-- Whether an equals sign comes to stand after a byte of a class where two byte strings meet. -/
def seam (p : UInt8 → Bool) (x y : Bytes) : Int :=
  if x.getLast?.any p ∧ y.head? = some 61 then 1 else 0

/-- The equals signs of two byte strings and of the seam add up. -/
theorem equalsAfter_append (p : UInt8 → Bool) (x y : Bytes) :
    equalsAfter p (x ++ y) = equalsAfter p x + seam p x y + equalsAfter p y := by
  induction x with
  | nil => simp [equalsAfter, seam]
  | cons b x ih =>
    rw [List.cons_append, equalsAfter, equalsAfter, ih]
    cases x with
    | nil =>
      by_cases hb : p b <;> by_cases hy : y.head? = some 61 <;>
        simp [equalsAfter, seam, hb, hy]
    | cons c x =>
      have hseam : seam p (b :: c :: x) y = seam p (c :: x) y := by
        rw [seam, List.getLast?_cons_cons, seam]
      rw [hseam, List.cons_append, List.head?_cons, List.head?_cons]
      omega

/-- There is no seam before something else than an equals sign. -/
theorem seam_of_head (hy : y.head? ≠ some 61) : seam p x y = 0 :=
  if_neg fun h => hy h.2

/-- There is no seam after a byte of another class. -/
theorem seam_of_last (hx : ∀ b ∈ x.getLast?, p b = false) : seam p x y = 0 := by
  refine if_neg fun ⟨hany, _⟩ => ?_
  cases hlast : x.getLast? with
  | none =>
    rw [hlast] at hany
    cases hany
  | some b =>
    rw [hlast, Option.any_some, hx b hlast] at hany
    cases hany

/-- Bytes that are no equals signs and of another class only come between. -/
theorem Interspersed.equalsAfter_le {extra : List UInt8}
    (hextra : ∀ b ∈ extra, p b = false ∧ b ≠ 61) (h : Interspersed extra x y) :
    equalsAfter p y ≤ equalsAfter p x := by
  have hhead {x y : Bytes} (h : Interspersed extra x y) (hy : y.head? = some 61) :
      x.head? = some 61 := by
    cases h with
    | nil => exact hy
    | keep => exact hy
    | add hb =>
      cases hy
      exact absurd rfl (hextra _ hb).2
  induction h with
  | nil => exact Int.le_refl _
  | @keep b x y h ih =>
    rw [equalsAfter, equalsAfter]
    have := hhead h
    split <;> split <;> simp_all
    omega
  | @add b x y hb h ih =>
    rw [equalsAfter, (hextra b hb).1]
    simpa using ih

/-! ## The two measures -/

/-- Exclamation marks and equals signs. -/
def isSign (b : UInt8) : Bool :=
  b == 33 || b == 61

/-- The exclamation marks without an equals sign after them. -/
def openMarks (bytes : Bytes) : Int :=
  tally (· == 33) bytes - equalsAfter (· == 33) bytes

/-- The comparison signs with an equals sign after them. -/
def closedBounds (bytes : Bytes) : Int :=
  equalsAfter (fun b => b == 60 || b == 62) bytes

/-- Blanks and parentheses open exclamation marks and bounds, and close none. -/
theorem Interspersed.signs (h : Interspersed separators x y) :
    openMarks x ≤ openMarks y ∧ closedBounds y ≤ closedBounds x := by
  have hmarks : ∀ b ∈ separators, (b == 33) = false := forall_separators rfl rfl rfl
  have hclass (p : UInt8 → Bool) (hp : ∀ b ∈ separators, p b = false ∧ b ≠ 61) :
      equalsAfter p y ≤ equalsAfter p x :=
    h.equalsAfter_le hp
  have hopen := hclass (· == 33) (forall_separators (by decide) (by decide) (by decide))
  have hclosed := hclass (fun b => b == 60 || b == 62)
    (forall_separators (by decide) (by decide) (by decide))
  rw [openMarks, openMarks, h.tally_eq hmarks]
  exact ⟨by omega, hclosed⟩

/-- The equals signs after a class in a patched byte string. -/
theorem equalsAfter_patched (p : UInt8 → Bool) (source : Bytes) (i j : Nat) (hgiven : given ≠ []) :
    equalsAfter p (source.patched i j given) = equalsAfter p (source.take i) +
      seam p (source.take i) given + equalsAfter p given + seam p given (source.drop j) +
      equalsAfter p (source.drop j) := by
  have hseam : seam p (source.take i) (given ++ source.drop j) = seam p (source.take i) given := by
    rw [seam, seam, List.head?_append_of_ne_nil _ hgiven]
  rw [patched, List.append_assoc, equalsAfter_append, equalsAfter_append, hseam]
  omega

/-- Patches that have the same marks and bounds inside and no seams patch to the same. -/
theorem signs_patched (source : Bytes) (i j : Nat) (htaken : taken ≠ []) (hgiven : given ≠ [])
    (p : UInt8 → Bool)
    (hbefore : seam p (source.take i) taken = 0 ∧ seam p (source.take i) given = 0)
    (hafter : seam p taken (source.drop j) = 0 ∧ seam p given (source.drop j) = 0) :
    equalsAfter p (source.patched i j given) - equalsAfter p (source.patched i j taken) =
      equalsAfter p given - equalsAfter p taken := by
  rw [equalsAfter_patched p source i j htaken, equalsAfter_patched p source i j hgiven, hbefore.1,
    hbefore.2, hafter.1, hafter.2]
  omega

/-- What two patches differ in tallies is what they put in. -/
theorem tally_patched_sub (p : UInt8 → Bool) (source : Bytes) (i j : Nat) (taken given : Bytes) :
    tally p (source.patched i j given) - tally p (source.patched i j taken) =
      tally p given - tally p taken := by
  simp only [patched, tally_append]
  omega

/-! ## Parts without an equals sign at their head -/

/-- A stretch begins as what follows its first place does. -/
theorem head?_cut_ne {b : UInt8} (h : (source.drop i).head? ≠ some b) :
    (source.cut i j).head? ≠ some b := by
  rw [cut, List.head?_take]
  split
  · simp
  · exact h

/-- Neither part begins with a byte, and so both together do not. -/
theorem head?_append_ne {b : UInt8} (hx : x.head? ≠ some b) (hy : y.head? ≠ some b) :
    (x ++ y).head? ≠ some b := by
  cases x with
  | nil => exact hy
  | cons c x => exact hx

/-- There is no seam before a part that does not begin with an equals sign. -/
theorem equalsAfter_append_of_head (hy : y.head? ≠ some 61) :
    equalsAfter p (x ++ y) = equalsAfter p x + equalsAfter p y := by
  rw [equalsAfter_append, seam_of_head hy, Int.add_zero]

/-- Two parts change places, and no seam is made or lost. -/
theorem equalsAfter_exchange (p : UInt8 → Bool) (front : Bytes) {mid back : Bytes}
    (hx : x.head? ≠ some 61) (hmid : mid.head? ≠ some 61) (hy : y.head? ≠ some 61)
    (hback : back.head? ≠ some 61) :
    equalsAfter p (front ++ (y ++ (mid ++ (x ++ back)))) =
      equalsAfter p (front ++ (x ++ (mid ++ (y ++ back)))) := by
  have hparts {x y : Bytes} (hx : x.head? ≠ some 61) (hy : y.head? ≠ some 61) :
      equalsAfter p (front ++ (x ++ (mid ++ (y ++ back)))) = equalsAfter p front +
        equalsAfter p x + equalsAfter p mid + equalsAfter p y + equalsAfter p back := by
    have hlast := head?_append_ne hy hback
    have hrest := head?_append_ne hmid hlast
    rw [equalsAfter_append_of_head (head?_append_ne hx hrest), equalsAfter_append_of_head hrest,
      equalsAfter_append_of_head hlast, equalsAfter_append_of_head hback]
    omega
  rw [hparts hx hy, hparts hy hx]
  omega

end Bytes

/-! ## Operators -/

namespace Operator
variable {a b : Operator}

/-- A spelling of an equality ends with an equals sign, and those that it holds after exclamation
marks are as many as these. -/
theorem signs_of_flipEquality (h : flipEquality a = some b) : ∀ op ∈ [a, b],
    (ofString op.text).getLast? = some 61 ∧ openMarks (ofString op.text) = 0 ∧
      closedBounds (ofString op.text) = 0 := by
  cases a <;> cases h <;> decide

/-- A spelling of a bound begins with a comparison sign and holds no exclamation mark. -/
theorem signs_of_flipBoundary (h : flipBoundary a = some b) : ∀ op ∈ [a, b],
    (ofString op.text).head? ≠ some 61 ∧ (ofString op.text).getLast? ≠ some 33 ∧
      openMarks (ofString op.text) = 0 := by
  cases a <;> cases h <;> decide

/-- A bound that is taken out loses its equals sign. -/
theorem closedBounds_of_flipBoundary (h : flipBoundary a = some b)
    (hout : tally isSign (ofString b.text) < tally isSign (ofString a.text)) :
    (ofString a.text).getLast? = some 61 ∧ closedBounds (ofString a.text) = 1 ∧
      closedBounds (ofString b.text) = 0 := by
  revert hout
  cases a <;> cases h <;> decide

end Operator

/-! ## Legible parses -/

/-- A tree in which no equals sign stands at the head of an expression of truth or of a branch, nor
right after an operator or a branch, and in which two different branches cannot be told to have
changed places by nothing. -/
structure Node.Legible (source : Bytes) (root : Node) : Prop where
  truth : ∀ n ∈ root.preorder, n.kind ∈ Rule.truthKinds → source[n.start]? ≠ some 61
  operator : ∀ n ∈ root.preorder, n.kind = "binary_expression" → ∀ o ∈ n.child? .operator,
    source[o.stop]? ≠ some 61
  branch : ∀ n ∈ root.preorder, n.kind = "ternary_expression" → ∀ m ∈ n.branches,
    source[m.start]? ≠ some 61 ∧ source[m.stop]? ≠ some 61
  exchange : ∀ n ∈ root.preorder, n.kind = "ternary_expression" → ∀ l r, [l, r].Perm n.branches →
    l.stop ≤ r.start → l.bytes source ≠ r.bytes source →
    r.bytes source ++ source.cut l.stop r.start ++ l.bytes source ≠
      l.bytes source ++ source.cut l.stop r.start ++ r.bytes source

/-- A parser whose trees are legible. -/
def Parser.Legible (parser : Parser) : Prop :=
  ∀ language source, (parser language source).Legible source

namespace BugKind.Replaces
variable {d : Draft} {kind : BugKind} {i j : Nat} {given : Bytes}

/-- A negation gives an open exclamation mark and closes no bound. -/
theorem signs_negation (hl : d.root.Legible d.source)
    (h : BugKind.Replaces d .booleanNegation i j given) (hij : i ≤ j) :
    openMarks d.source + 1 ≤ openMarks (d.source.patched i j given) ∧
      closedBounds (d.source.patched i j given) ≤ closedBounds d.source := by
  cases h with
  | operator hswap => cases hswap
  | @negation n hn hkind =>
    have hhead : (d.source.drop n.start).head? ≠ some 61 := by
      rw [List.head?_drop]
      exact hl.truth n hn hkind
    have hpatched : d.source.patched n.start n.stop (33 :: n.bytes d.source) =
        d.source.take n.start ++ 33 :: d.source.drop n.start := by
      rw [patched, Node.bytes, List.append_assoc, List.cons_append, cut_append_drop d.source hij]
    have hmark (p : UInt8 → Bool) :
        equalsAfter p (d.source.take n.start ++ 33 :: d.source.drop n.start) =
          equalsAfter p d.source := by
      conv_rhs => rw [← List.take_append_drop n.start d.source]
      rw [equalsAfter_append, equalsAfter_append, equalsAfter, seam_of_head hhead,
        seam_of_head (by simp), if_neg fun h => hhead h.2, Int.zero_add]
    rw [hpatched, openMarks, openMarks, closedBounds, closedBounds, hmark, hmark, tally_append,
      tally_cons]
    have htally : tally (· == 33) d.source = tally (· == 33) (d.source.take n.start) +
        tally (· == 33) (d.source.drop n.start) := by
      rw [← tally_append, List.take_append_drop]
    rw [htally]
    simp only [beq_self_eq_true, ↓reduceIte]
    omega

/-- The flip of an equality loses no open exclamation mark, or else closes no bound: which of the
two depends on whether an exclamation mark stands before it. -/
theorem signs_equality (h : BugKind.Replaces d .equalityInequalityFlip i j given) (hij : i ≤ j) :
    openMarks d.source ≤ openMarks (d.source.patched i j given) ∨
      closedBounds (d.source.patched i j given) ≤ closedBounds d.source := by
  cases h with
  | @operator _ swap n o a b hswap hn hkind ho ha hb =>
    cases hswap
    have hsource := patched_cut d.source hij
    rw [← Node.bytes, ha] at hsource
    have hsigns := Operator.signs_of_flipEquality hb
    obtain ⟨hlast, hopen, hclosed⟩ := hsigns a (by simp)
    obtain ⟨hlast', hopen', hclosed'⟩ := hsigns b (by simp)
    have hafter (p : UInt8 → Bool) (hp : p 61 = false) :
        seam p (ofString a.text) (d.source.drop o.stop) = 0 ∧
          seam p (ofString b.text) (d.source.drop o.stop) = 0 :=
      ⟨seam_of_last (by rw [hlast]; simpa using hp), seam_of_last (by rw [hlast']; simpa using hp)⟩
    have hbefore (p : UInt8 → Bool) (hp : ∀ b ∈ (d.source.take o.start).getLast?, p b = false) :
        seam p (d.source.take o.start) (ofString a.text) = 0 ∧
          seam p (d.source.take o.start) (ofString b.text) = 0 :=
      ⟨seam_of_last hp, seam_of_last hp⟩
    have hpatched := signs_patched d.source o.start o.stop a.isUnbroken_text.2 b.isUnbroken_text.2
    have htally := tally_patched_sub (· == 33) d.source o.start o.stop (ofString a.text)
      (ofString b.text)
    rw [hsource] at htally
    rw [openMarks] at hopen hopen'
    rw [closedBounds] at hclosed hclosed'
    by_cases hmark : (d.source.take o.start).getLast? = some 33
    · right
      have := hpatched (fun b => b == 60 || b == 62) (hbefore _ (by rw [hmark]; simp))
        (hafter _ rfl)
      rw [hsource] at this
      rw [closedBounds, closedBounds]
      omega
    · left
      have := hpatched (· == 33) (hbefore _ fun b hb => ?_) (hafter _ rfl)
      · rw [hsource] at this
        rw [openMarks, openMarks]
        omega
      · refine beq_eq_false_iff_ne.2 fun h => hmark ?_
        rw [← h]
        exact hb

/-- The flip of a bound loses no open exclamation mark, and one that takes the bound out opens it,
where no equals sign stands after the operator. -/
theorem signs_boundary (hl : d.root.Legible d.source)
    (hkind : kind.swap? = some Operator.flipBoundary) (h : kind.Replaces d i j given)
    (hij : i ≤ j) :
    openMarks d.source ≤ openMarks (d.source.patched i j given) ∧
      (tally isSign given < tally isSign (d.source.cut i j) →
        closedBounds (d.source.patched i j given) + 1 ≤ closedBounds d.source) := by
  cases h with
  | @operator _ swap n o a b hswap hn hbinary ho ha hb =>
    rw [hkind] at hswap
    cases hswap
    have hsource := patched_cut d.source hij
    rw [← Node.bytes, ha] at hsource ⊢
    have hsigns := Operator.signs_of_flipBoundary hb
    obtain ⟨hhead, hlast, hopen⟩ := hsigns a (by simp)
    obtain ⟨hhead', hlast', hopen'⟩ := hsigns b (by simp)
    have hbefore (p : UInt8 → Bool) : seam p (d.source.take o.start) (ofString a.text) = 0 ∧
        seam p (d.source.take o.start) (ofString b.text) = 0 :=
      ⟨seam_of_head hhead, seam_of_head hhead'⟩
    have hpatched := signs_patched d.source o.start o.stop a.isUnbroken_text.2 b.isUnbroken_text.2
    refine ⟨?_, fun hout => ?_⟩
    · have hplain (op : Operator) (hop : (ofString op.text).getLast? ≠ some 33) :
          seam (· == 33) (ofString op.text) (d.source.drop o.stop) = 0 := by
        refine seam_of_last fun b hb => beq_eq_false_iff_ne.2 fun h => hop ?_
        rw [← h]
        exact hb
      have htally := tally_patched_sub (· == 33) d.source o.start o.stop (ofString a.text)
        (ofString b.text)
      have := hpatched (· == 33) (hbefore _) ⟨hplain a hlast, hplain b hlast'⟩
      rw [hsource] at this htally
      rw [openMarks] at hopen hopen' ⊢
      rw [openMarks]
      omega
    · obtain ⟨hend, hclosed, hclosed'⟩ := Operator.closedBounds_of_flipBoundary hb hout
      have hnext : (d.source.drop o.stop).head? ≠ some 61 := by
        rw [List.head?_drop]
        exact hl.operator n hn hbinary o ho
      have := hpatched (fun b => b == 60 || b == 62) (hbefore _)
        ⟨seam_of_head hnext, seam_of_head hnext⟩
      rw [hsource] at this
      rw [closedBounds] at hclosed hclosed' ⊢
      rw [closedBounds]
      omega
  | negation | branches | number | name | declaration => cases hkind

/-- The exchange of branches opens and closes nothing. -/
theorem signs_branches (hl : d.root.Legible d.source)
    (h : BugKind.Replaces d .invertTernaryBranches i j given) :
    openMarks (d.source.patched i j given) = openMarks d.source ∧
      closedBounds (d.source.patched i j given) = closedBounds d.source := by
  cases h with
  | operator hswap => cases hswap
  | @branches n l r hn hkind hperm hleft hle hright hne =>
    have hbranch (m : Node) (hm : m ∈ [l, r]) :
        (d.source.drop m.start).head? ≠ some 61 ∧ (d.source.drop m.stop).head? ≠ some 61 := by
      rw [List.head?_drop, List.head?_drop]
      exact hl.branch n hn hkind m (hperm.mem_iff.1 hm)
    obtain ⟨hstart, hstop⟩ := hbranch l (by simp)
    obtain ⟨hstart', hstop'⟩ := hbranch r (by simp)
    have hsource : d.source.take l.start ++ (l.bytes d.source ++ (d.source.cut l.stop r.start ++
        (r.bytes d.source ++ d.source.drop r.stop))) = d.source := by
      rw [Node.bytes, Node.bytes, cut_append_drop d.source hright,
        cut_append_drop d.source hle, cut_append_drop d.source hleft, List.take_append_drop]
    have hpatched : d.source.patched l.start r.stop (r.bytes d.source ++
        d.source.cut l.stop r.start ++ l.bytes d.source) = d.source.take l.start ++
          (r.bytes d.source ++ (d.source.cut l.stop r.start ++
            (l.bytes d.source ++ d.source.drop r.stop))) := by
      rw [patched, List.append_assoc, List.append_assoc, List.append_assoc]
    -- No equals sign stands where the parts meet, in either order.
    have hleft' : (l.bytes d.source).head? ≠ some 61 := head?_cut_ne hstart
    have hright' : (r.bytes d.source).head? ≠ some 61 := head?_cut_ne hstart'
    have hmid : (d.source.cut l.stop r.start).head? ≠ some 61 := head?_cut_ne hstop
    have hequals (p : UInt8 → Bool) :=
      equalsAfter_exchange p (d.source.take l.start) hleft' hmid hright' hstop'
    have htally : tally (· == 33) (d.source.take l.start ++ (r.bytes d.source ++
        (d.source.cut l.stop r.start ++ (l.bytes d.source ++ d.source.drop r.stop)))) =
          tally (· == 33) d.source := by
      conv_rhs => rw [← hsource]
      simp only [tally_append]
      omega
    rw [hpatched, openMarks, openMarks, closedBounds, closedBounds, hequals, hequals, htally,
      hsource]
    exact ⟨rfl, rfl⟩

end BugKind.Replaces

end Sabotage
