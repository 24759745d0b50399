import Sabotage.Proofs.SmoothPlans

/-!
# The stretch that a bug replaces

Blanks and parentheses apart, a bug puts other bytes in the place of one stretch of the source, and
`BugKind.Replaces` lists what these can be, kind by kind. An attempt that finds a place does one of
these replacements, with blanks and parentheses put in between (`BugKind.apply_replaces`).
-/

namespace Sabotage

open Bytes

namespace Bytes

/-! ## Tallies -/

/-- How many bytes are of a class. -/
def tally (p : UInt8 → Bool) (bytes : Bytes) : Int :=
  bytes.countP p

/-- Nothing has no bytes of a class. -/
@[simp] theorem tally_nil (p : UInt8 → Bool) : tally p [] = 0 := rfl

/-- One more byte. -/
theorem tally_cons (p : UInt8 → Bool) (b : UInt8) (bytes : Bytes) :
    tally p (b :: bytes) = (if p b then 1 else 0) + tally p bytes := by
  rw [tally, tally, List.countP_cons]
  split <;> simp [Int.add_comm]

/-- The tallies of two byte strings add up. -/
@[simp] theorem tally_append (p : UInt8 → Bool) (a b : Bytes) :
    tally p (a ++ b) = tally p a + tally p b := by
  simp [tally]

/-- A class of a single byte is tallied by counting it. -/
theorem tally_beq (b : UInt8) (bytes : Bytes) : tally (· == b) bytes = bytes.count b := rfl

end Bytes

/-! ## Bytes put in between -/

/-- Some extra bytes put in between the bytes of a byte string. -/
inductive Bytes.Interspersed (extra : List UInt8) : Bytes → Bytes → Prop
  | nil : Interspersed extra [] []
  | keep {b x y} : Interspersed extra x y → Interspersed extra (b :: x) (b :: y)
  | add {b x y} : b ∈ extra → Interspersed extra x y → Interspersed extra x (b :: y)

namespace Bytes.Interspersed
variable {extra : List UInt8} {x y z x' y' : Bytes}

/-- Nothing put in between. -/
@[simp] theorem refl (x : Bytes) : Interspersed extra x x := by
  induction x with
  | nil => exact .nil
  | cons b x ih => exact .keep ih

/-- Extra bytes alone. -/
theorem of_extra (h : ∀ b ∈ x, b ∈ extra) : Interspersed extra [] x := by
  induction x with
  | nil => exact .nil
  | cons b x ih =>
    rw [List.forall_mem_cons] at h
    exact .add h.1 (ih h.2)

/-- Bytes are put in between one part and between the next. -/
theorem append (h : Interspersed extra x y) (h' : Interspersed extra x' y') :
    Interspersed extra (x ++ x') (y ++ y') := by
  induction h with
  | nil => exact h'
  | keep _ ih => exact .keep ih
  | add hb _ ih => exact .add hb ih

/-- Bytes are put in between twice. -/
theorem trans (h : Interspersed extra x y) (h' : Interspersed extra y z) :
    Interspersed extra x z := by
  induction h' generalizing x with
  | nil => exact h
  | keep _ ih =>
    cases h with
    | keep h => exact .keep (ih h)
    | add hb h => exact .add hb (ih h)
  | add hb _ ih => exact .add hb (ih h)

/-- Extra bytes that are not of a class leave its tally as it is. -/
theorem tally_eq {p : UInt8 → Bool} (hp : ∀ b ∈ extra, p b = false)
    (h : Interspersed extra x y) : tally p y = tally p x := by
  induction h with
  | nil => rfl
  | keep _ ih => rw [tally_cons, tally_cons, ih]
  | add hb _ ih => rw [tally_cons, ih, hp _ hb, if_neg Bool.false_ne_true, Int.zero_add]

/-- Nothing was put in between when the length is the same. -/
theorem eq_of_length (h : Interspersed extra x y) (hlength : x.length = y.length) : x = y := by
  have hsublist : x.Sublist y := by
    clear hlength
    induction h with
    | nil => exact .slnil
    | keep _ ih => exact ih.cons_cons _
    | add _ _ ih => exact ih.cons _
  exact hsublist.eq_of_length hlength

end Bytes.Interspersed

/-! ## Stretches -/

namespace Bytes
variable {source : Bytes} {i j k : Nat}

/-- The byte string with other bytes in the place of those from `i` up to, and without, `j`. -/
def patched (source : Bytes) (i j : Nat) (given : Bytes) : Bytes :=
  source.take i ++ given ++ source.drop j

/-- A stretch and what stands after it. -/
theorem cut_append_drop (source : Bytes) (h : i ≤ j) :
    source.cut i j ++ source.drop j = source.drop i := by
  conv_rhs => rw [← List.take_append_drop (j - i) (source.drop i)]
  rw [cut, List.drop_drop, Nat.add_sub_cancel' h]

/-- A stretch put in its own place. -/
@[simp] theorem patched_cut (source : Bytes) (h : i ≤ j) :
    source.patched i j (source.cut i j) = source := by
  rw [patched, List.append_assoc, cut_append_drop source h, List.take_append_drop]

/-- Two stretches side by side. -/
theorem cut_append_cut (hij : i ≤ j) (hjk : j ≤ k) :
    source.cut i j ++ source.cut j k = source.cut i k := by
  rw [cut, cut, cut, show k - i = (j - i) + (k - j) by omega, List.take_add, List.drop_drop,
    Nat.add_sub_cancel' hij]

/-- The tally of a byte string with other bytes in the place of a stretch. -/
theorem tally_patched (p : UInt8 → Bool) (source : Bytes) (h : i ≤ j) (given : Bytes) :
    tally p (source.patched i j given) + tally p (source.cut i j) =
      tally p source + tally p given := by
  have hsource := congrArg (tally p) (patched_cut source h)
  simp only [patched, tally_append] at hsource ⊢
  omega

/-- Bytes put in between the bytes of a patch. -/
theorem Interspersed.patched {extra : List UInt8} {x y : Bytes} (h : Interspersed extra x y)
    (source : Bytes) (i j : Nat) :
    Interspersed extra (source.patched i j x) (source.patched i j y) :=
  ((Interspersed.refl _).append h).append (.refl _)

end Bytes

namespace Edit
variable {source result : Bytes} {e f : Edit} {extra : List UInt8} {rest falling : List Edit}

/-- An edit patches a source. -/
theorem Inside.apply_eq_patched (h : e.Inside source) :
    e.apply source = source.patched e.start.toNat e.stop.toNat (ofString e.text) :=
  h.apply_eq

/-- Two edits one after the other patch the stretch from the first to the last. -/
theorem Inside.apply_apply (h : e.Inside source) (hf : f.Inside source) (hle : f.stop ≤ e.start) :
    f.apply (e.apply source) = source.patched f.start.toNat e.stop.toNat
      (ofString f.text ++ source.cut f.stop.toNat e.start.toNat ++ ofString e.text) := by
  have hnonneg := hf.nonneg
  have hordered := hf.ordered
  have hwithin : f.stop.toNat ≤ (source.take e.start.toNat).length := by
    have := h.ordered
    have := h.within
    rw [List.length_take]
    omega
  rw [(h.apply hf hle).1.apply_eq, h.take_apply (by omega), h.apply_eq, List.append_assoc _ _
    (source.drop _), List.drop_append_of_le_length hwithin, List.drop_take]
  simp only [Bytes.patched, cut, List.append_assoc]

/-- An insertion of extra bytes. -/
structure Extra (extra : List UInt8) (source : Bytes) (e : Edit) : Prop
    extends Inside source e where
  insertion : e.start = e.stop
  extra : ∀ b ∈ ofString e.text, b ∈ extra

/-- An insertion of extra bytes puts them in between. -/
theorem Extra.interspersed (h : e.Extra extra source) :
    Interspersed extra source (e.apply source) := by
  conv => arg 2; rw [← patched_cut source (Nat.le_refl e.start.toNat)]
  rw [h.toInside.apply_eq_patched, ← h.insertion, cut, Nat.sub_self, List.take_zero]
  exact (Interspersed.of_extra h.extra).patched ..

/-- An insertion of extra bytes stays one when an edit after it is done. -/
theorem Extra.apply (h : f.Extra extra source) (he : e.Inside source) (hle : f.stop ≤ e.start) :
    f.Extra extra (e.apply source) :=
  ⟨(he.apply h.toInside hle).1, h.insertion, h.extra⟩

/-- An insertion of extra bytes after an edit puts them in between what the edit makes. -/
theorem Extra.interspersed_apply (h : f.Extra extra source) (he : e.Inside source)
    (hle : e.stop ≤ f.start) : Interspersed extra (e.apply source) (e.apply (f.apply source)) := by
  have hordered := h.ordered
  have hwithin := h.within
  have hordered' := he.ordered
  have hnonneg := he.nonneg
  have hlen : e.stop.toNat ≤ (source.take f.start.toNat).length := by
    rw [List.length_take]
    omega
  have hafter : Interspersed extra (source.drop e.stop.toNat)
      ((f.apply source).drop e.stop.toNat) := by
    conv => arg 2; rw [← List.take_append_drop f.start.toNat source]
    rw [h.toInside.apply_eq, ← h.insertion, List.append_assoc,
      List.drop_append_of_le_length hlen, List.drop_append_of_le_length hlen]
    exact (Interspersed.refl _).append ((Interspersed.of_extra h.extra).append (.refl _))
  rw [he.apply_eq, (h.toInside.apply he hle).1.apply_eq, h.toInside.take_apply (by omega)]
  exact (Interspersed.refl _).append hafter

/-- Insertions of extra bytes, one before the other, put them in between. -/
theorem interspersed_foldl (h : ∀ f ∈ falling, f.Extra extra source)
    (hpairwise : falling.Pairwise fun e f => f.stop ≤ e.start) :
    Interspersed extra source (falling.foldl (fun bytes e => e.apply bytes) source) := by
  induction falling generalizing source with
  | nil => exact .refl _
  | cons e es ih =>
    obtain ⟨he, hes⟩ := List.forall_mem_cons.1 h
    obtain ⟨hfirst, hpairwise⟩ := List.pairwise_cons.1 hpairwise
    refine he.interspersed.trans (ih (fun f hf => ?_) hpairwise)
    exact (hes f hf).apply he.toInside (hfirst f hf)

/-- An edit done with insertions of extra bytes around it does what it does alone, and they put
these bytes in between. -/
theorem interspersed_applyAll (he : e.Inside source) (hrest : ∀ f ∈ rest, f.Extra extra source)
    (h : applyAll (e :: rest) source = .ok result) :
    Interspersed extra (source.patched e.start.toNat e.stop.toNat (ofString e.text)) result := by
  rw [← he.apply_eq_patched]
  obtain ⟨falling, hperm, hpairwise, rfl⟩ := applyAll_ok (List.forall_mem_cons.2
    ⟨he.ordered, fun f hf => (hrest f hf).ordered⟩) h
  clear h
  induction falling generalizing source rest with
  | nil => exact absurd hperm.symm (List.not_perm_cons_nil)
  | cons f fs ih =>
    obtain ⟨hfirst, hpairwise⟩ := List.pairwise_cons.1 hpairwise
    rw [List.foldl_cons]
    by_cases hf : f = e
    · -- The others stand before it, in what it makes.
      subst hf
      have hperm := hperm.cons_inv
      exact interspersed_foldl
        (fun g hg => (hrest g (hperm.mem_iff.1 hg)).apply he (hfirst g hg)) hpairwise
    · -- An insertion after it is done first.
      have hmem : f ∈ rest := by
        simpa [hf] using hperm.mem_iff.1 List.mem_cons_self
      have hextra := hrest f hmem
      have hperm : fs.Perm (e :: rest.erase f) := by
        refine List.Perm.cons_inv (hperm.trans ?_)
        exact ((List.perm_cons_erase hmem).cons e).trans (.swap ..)
      have hstop : e.stop ≤ f.start := hfirst e (hperm.mem_iff.2 List.mem_cons_self)
      have hinside := hextra.toInside.apply he hstop
      refine (hextra.interspersed_apply he hstop).trans
        (ih hinside.1 (fun g hg => ?_) hperm hpairwise)
      have hle := hfirst g (hperm.mem_iff.2 (List.mem_cons_of_mem _ hg))
      exact (hrest g (List.mem_of_mem_erase hg)).apply hextra.toInside hle

end Edit

/-! ## What a bug replaces -/

/-- What a bug of a kind puts in the place of the bytes of a draft from one offset up to, and
without, another one, blanks and parentheses apart. -/
inductive BugKind.Replaces (d : Draft) : BugKind → Nat → Nat → Bytes → Prop
  /-- An exclamation mark comes to stand before an expression of truth. -/
  | negation {n} : n ∈ d.root.preorder → n.kind ∈ Rule.truthKinds →
      Replaces d .booleanNegation n.start n.stop (33 :: n.bytes d.source)
  /-- An operator becomes the one a swap leads to. -/
  | operator {kind : BugKind} {swap n o a b} : kind.swap? = some swap → n ∈ d.root.preorder →
      n.kind = "binary_expression" → n.child? .operator = some o →
      o.bytes d.source = ofString a.text → swap a = some b →
      Replaces d kind o.start o.stop (ofString b.text)
  /-- Two branches change places around what stands between them. -/
  | branches {n l r} : n ∈ d.root.preorder → n.kind = "ternary_expression" →
      [l, r].Perm n.branches → l.start ≤ l.stop → l.stop ≤ r.start → r.start ≤ r.stop →
      l.bytes d.source ≠ r.bytes d.source →
      Replaces d .invertTernaryBranches l.start r.stop
        (r.bytes d.source ++ d.source.cut l.stop r.start ++ l.bytes d.source)
  /-- A number is bumped. -/
  | number {n text bumped} : n ∈ d.root.preorder → n.kind = "number" →
      ofString text = n.bytes d.source → Literal.bump? text = some bumped →
      Replaces d .indexOffByOne n.start n.stop (ofString bumped)
  /-- A letter of a name becomes its look-alike. -/
  | name {n name spoofed} : n ∈ d.root.preorder → n.kind = "identifier" →
      ofString name = n.bytes d.source → spoof? name.toList = some spoofed →
      Replaces d .homoglyphSabotage n.start n.stop (ofString (String.ofList spoofed))
  /-- A declaration is put in. -/
  | declaration {i given} : isUnbroken given → 59 ∈ given → Replaces d .scopeGaslighting i i given

/-- What a bug of a kind takes from the bytes of a draft and gives to them, blanks and parentheses
apart, and apart from bytes that only change places. -/
inductive BugKind.Trades (d : Draft) : BugKind → Bytes → Bytes → Prop
  /-- A negation gives an exclamation mark. -/
  | negation : Trades d .booleanNegation [] [33]
  /-- Branches only change places. -/
  | branches : Trades d .invertTernaryBranches [] []
  /-- An operator is traded for the one a swap leads to. -/
  | operator {kind : BugKind} {swap a b} : kind.swap? = some swap → swap a = some b →
      Trades d kind (ofString a.text) (ofString b.text)
  /-- A number is traded for what it is bumped to. -/
  | number {n text bumped} : n ∈ d.root.preorder → n.kind = "number" →
      ofString text = n.bytes d.source → Literal.bump? text = some bumped →
      Trades d .indexOffByOne (ofString text) (ofString bumped)
  /-- A letter is traded for its look-alike. -/
  | lookAlike {c c'} : homoglyph? c = some c' →
      Trades d .homoglyphSabotage (String.utf8EncodeChar c) (String.utf8EncodeChar c')
  /-- A declaration is given. -/
  | declaration {given} : isUnbroken given → 59 ∈ given → Trades d .scopeGaslighting [] given

/-- The blank and the parentheses. -/
def separators : List UInt8 :=
  [32, 40, 41]

/-- What holds of the blank and of the parentheses. -/
theorem forall_separators {p : UInt8 → Prop} (hblank : p 32) (hopen : p 40) (hclose : p 41) :
    ∀ b ∈ separators, p b := by
  simp [separators, hblank, hopen, hclose]

/-- The texts of parentheses hold separators only. -/
theorem separators_of_parenthesis {sign : String} (h : sign = "(" ∨ sign = ")") :
    ∀ b ∈ ofString sign, b ∈ separators := by
  obtain rfl | rfl := h
  · exact List.forall_mem_singleton.2 (List.mem_cons_of_mem _ List.mem_cons_self)
  · exact List.forall_mem_singleton.2
      (List.mem_cons_of_mem _ (List.mem_cons_of_mem _ List.mem_cons_self))

/-- A negated text is the text with an exclamation mark before it, parentheses apart. -/
theorem Rule.interspersed_negated (inner outer : Bool) (text : String) :
    Interspersed separators (33 :: ofString text) (ofString (Rule.negated inner outer text)) := by
  have hopen (x : Bytes) : Interspersed separators x (ofString "(" ++ x) :=
    (Interspersed.of_extra (separators_of_parenthesis (.inl rfl))).append (.refl x)
  have hclose (x : Bytes) : Interspersed separators x (x ++ ofString ")") := by
    conv => arg 2; rw [← List.append_nil x]
    exact (Interspersed.refl x).append (.of_extra (separators_of_parenthesis (.inr rfl)))
  have hnegated : Interspersed separators (33 :: ofString text)
      (ofString (Rule.negated inner false text)) := by
    cases inner with
    | false => exact ofString_append "!" text ▸ .refl _
    | true =>
      have hsplit : Rule.negated true false text = "!" ++ ("(" ++ text ++ ")") := by
        simp [Rule.negated, ← String.append_assoc]
      rw [hsplit, ofString_append, ofString_append, ofString_append]
      exact .keep ((hopen _).trans (hclose _))
  cases outer with
  | false => exact hnegated
  | true =>
    rw [show Rule.negated inner true text = "(" ++ Rule.negated inner false text ++ ")" from rfl,
      ofString_append, ofString_append]
    exact hnegated.trans ((hopen _).trans (hclose _))

/-- A text with blanks around it. -/
theorem interspersed_padded {front back : String} (op : String) (hfront : front ∈ ["", " "])
    (hback : back ∈ ["", " "]) :
    Interspersed separators (ofString op) (ofString (front ++ op ++ back)) := by
  have hblank : ∀ blank ∈ ["", " "], ∀ b ∈ ofString blank, b ∈ separators := by
    decide +kernel
  rw [ofString_append, ofString_append]
  conv => arg 2; rw [← List.nil_append (ofString op), ← List.append_nil ([] ++ ofString op)]
  exact ((Interspersed.of_extra (hblank _ hfront)).append (.refl _)).append
    (.of_extra (hblank _ hback))

/-- Nodes of different texts have different bytes, in whichever order they stand. -/
theorem bytes_ne_of_perm {source : Bytes} {l r c a : Node} {first second : String}
    (hperm : [l, r].Perm [c, a]) (hfirst : ofString first = c.bytes source)
    (hsecond : ofString second = a.bytes source) (hne : first ≠ second) :
    l.bytes source ≠ r.bytes source := by
  have hdiffer : c.bytes source ≠ a.bytes source := by
    rw [← hfirst, ← hsecond]
    exact fun h => hne (ofString_injective h)
  rcases List.perm_pair.1 hperm with h | h <;> cases h
  · exact hdiffer
  · exact hdiffer.symm

/-- Two stretches that change places and leave the source as it is are the same in either order. -/
theorem exchange_of_patched (source : Bytes) {l r : Node} (hl : l.start ≤ l.stop)
    (hle : l.stop ≤ r.start) (hr : r.start ≤ r.stop)
    (h : source.patched l.start r.stop
      (r.bytes source ++ source.cut l.stop r.start ++ l.bytes source) = source) :
    r.bytes source ++ source.cut l.stop r.start ++ l.bytes source =
      l.bytes source ++ source.cut l.stop r.start ++ r.bytes source := by
  have hcut : l.bytes source ++ source.cut l.stop r.start ++ r.bytes source =
      source.cut l.start r.stop := by
    rw [Node.bytes, Node.bytes, cut_append_cut hl hle, cut_append_cut (Nat.le_trans hl hle) hr]
  have hsource := patched_cut source (Nat.le_trans hl (Nat.le_trans hle hr))
  rw [← hcut] at hsource
  exact List.append_cancel_left (List.append_cancel_right (h.trans hsource.symm))

section
variable {parser : Parser} {d d' : Draft} {kind : BugKind} {plan : Plan} {result : Bytes}

/-- Two replacements done at once exchange nothing but the bytes of their nodes. -/
theorem Edit.applyAll_replacements {c a : Node} {first second : String}
    (hinside : (Draft.replacement c second).Inside d.source)
    (hinside' : (Draft.replacement a first).Inside d.source)
    (h : Edit.applyAll [Draft.replacement c second, Draft.replacement a first] d.source =
      .ok result) (hfirst : ofString first = c.bytes d.source)
    (hsecond : ofString second = a.bytes d.source) :
    ∃ l r, [l, r].Perm [c, a] ∧ l.stop ≤ r.start ∧
      result = d.source.patched l.start r.stop
        (r.bytes d.source ++ d.source.cut l.stop r.start ++ l.bytes d.source) := by
  obtain ⟨falling, hperm, hpairwise, rfl⟩ := Edit.applyAll_ok
    (List.forall_mem_cons.2 ⟨hinside.ordered, List.forall_mem_singleton.2 hinside'.ordered⟩) h
  rcases List.perm_pair.1 hperm with rfl | rfl
  · have hle := (List.pairwise_cons.1 hpairwise).1 _ (List.mem_singleton_self _)
    refine ⟨a, c, .swap .., Int.ofNat_le.1 hle, ?_⟩
    rw [← hfirst, ← hsecond]
    exact hinside.apply_apply hinside' hle
  · have hle := (List.pairwise_cons.1 hpairwise).1 _ (List.mem_singleton_self _)
    refine ⟨c, a, .refl _, Int.ofNat_le.1 hle, ?_⟩
    rw [← hfirst, ← hsecond]
    exact hinside'.apply_apply hinside hle

/-- Over a tidy tree, a plan that a rule can make does a replacement of its kind. -/
theorem BugKind.Plans.replaces (hd : d.root.Tidy d.source) (h : kind.Plans d plan)
    (happly : Edit.applyAll plan.edits d.source = .ok result) :
    ∃ i j given, kind.Replaces d i j given ∧ i ≤ j ∧
      Interspersed separators (d.source.patched i j given) result := by
  have htrimmed {n : Node} (hn : n ∈ d.root.preorder) (hkind : replacedKinds.contains n.kind) :
      n.Trimmed d.source :=
    hd.trimmed n hn n (Node.mem_edited_self hkind)
  have hsingle {n : Node} {given : Bytes} {text : String} (hn : n.Trimmed d.source)
      (hgiven : Interspersed separators given (ofString text))
      (h : Edit.applyAll [Draft.replacement n text] d.source = .ok result) :
      Interspersed separators (d.source.patched n.start n.stop given) result :=
    (hgiven.patched ..).trans
      (Edit.interspersed_applyAll (hn.inside_replacement text) (List.forall_mem_nil _) h)
  have hordered {n : Node} (h : n.Trimmed d.source) : n.start ≤ n.stop :=
    Nat.le_of_lt h.start_lt_stop
  cases h with
  | negation inner outer hn hkind htext =>
    have hreplaced : ∀ kind ∈ Rule.truthKinds, replacedKinds.contains kind := by decide
    have htrim := htrimmed hn (hreplaced _ hkind)
    exact ⟨_, _, _, .negation hn hkind, hordered htrim,
      hsingle htrim (htext ▸ Rule.interspersed_negated inner outer _) happly⟩
  | @operator _ _ n o a b front back parens hswap hn hkind ho ha hb hfront hback hparens =>
    have htrim : o.Trimmed d.source := hd.trimmed n hn o (Node.mem_edited_operator hkind ho)
    refine ⟨_, _, _, .operator hswap hn hkind ho ha hb, hordered htrim,
      ((interspersed_padded b.text hfront hback).patched ..).trans
        (Edit.interspersed_applyAll (htrim.inside_replacement _) (fun e he => ?_) happly)⟩
    obtain ⟨m, hm, hbinary, he⟩ := hparens e he
    have hinside := (Draft.smooth_wrap (htrimmed hm (by rw [hbinary]; decide)) he).1.toInside
    rcases List.mem_pair.1 he with rfl | rfl
    · exact ⟨hinside, rfl, separators_of_parenthesis (.inl rfl)⟩
    · exact ⟨hinside, rfl, separators_of_parenthesis (.inr rfl)⟩
  | @branches n c a first second hn hkind hbranches hfirst hsecond hne =>
    have hmem (m : Node) (hm : m ∈ [c, a]) : m.Trimmed d.source :=
      hd.trimmed n hn m (Node.mem_edited_branch hkind (hbranches ▸ hm))
    obtain ⟨l, r, hperm, hle, rfl⟩ := Edit.applyAll_replacements
      ((hmem c (by simp)).inside_replacement second) ((hmem a (by simp)).inside_replacement first)
      happly hfirst hsecond
    have hdiffer := bytes_ne_of_perm hperm hfirst hsecond hne
    have hl := hordered (hmem l (hperm.mem_iff.1 (by simp)))
    have hr := hordered (hmem r (hperm.mem_iff.1 (by simp)))
    exact ⟨_, _, _, .branches hn hkind (hbranches ▸ hperm) hl hle hr hdiffer, by omega, .refl _⟩
  | number hn hkind htext hbump =>
    have htrim := htrimmed hn (by rw [hkind]; decide)
    exact ⟨_, _, _, .number hn hkind htext hbump, hordered htrim, hsingle htrim (.refl _) happly⟩
  | name hn hkind hname hspoof =>
    have htrim := htrimmed hn (by rw [hkind]; decide)
    exact ⟨_, _, _, .name hn hkind hname hspoof, hordered htrim, hsingle htrim (.refl _) happly⟩
  | @declaration n body m name e hn hkind hbody hblock hm hreference hname hopens =>
    have htrim (m : Node) (hm : m = body ∨ m ∈ Rule.directives body) : m.Trimmed d.source :=
      hd.trimmed n hn m (Node.mem_edited_body hkind hbody hblock hm)
    have hword := hname ▸ hd.unbroken m hm m (Node.mem_words_self hreference)
    obtain ⟨hsmooth, hunbroken⟩ := hopens.smooth htrim (Rule.isUnbroken_declaring hword)
    obtain ⟨i, front, he⟩ : ∃ (i : Nat) (front : String),
        e = .insertion i (front ++ ("let " ++ name ++ " = null;")) := by
      obtain rfl | ⟨last, -, front, -, rfl⟩ := hopens
      · exact ⟨body.start + 1, " ", rfl⟩
      · exact ⟨last.stop, front, rfl⟩
    have hend : ofString " = null;" = [32, 61, 32, 110, 117, 108, 108, 59] := by decide
    subst he
    refine ⟨i, i, _, .declaration hunbroken ?_, Nat.le_refl i,
      Edit.interspersed_applyAll hsmooth.toInside (List.forall_mem_nil _) happly⟩
    simp only [Edit.insertion, ofString_append, hend]
    simp

/-- An attempt at a bug that finds a place does a replacement of its kind. -/
theorem BugKind.apply_replaces (hp : parser.Tidy) (hd : d.Coherent parser)
    (h : kind.apply parser d = .ok (true, d')) :
    ∃ i j given, kind.Replaces d i j given ∧ i ≤ j ∧
      Interspersed separators (d.source.patched i j given) d'.source := by
  obtain ⟨-, plan, hplan, happly⟩ := BugKind.apply_plans h
  exact hplan.replaces (hd.tidy hp) happly

/-- A replacement trades bytes as its kind does. -/
theorem BugKind.Replaces.trades {i j : Nat} {given : Bytes} (h : kind.Replaces d i j given) :
    ∃ taken put, kind.Trades d taken put ∧ ∀ p : UInt8 → Bool,
      tally p given + tally p taken = tally p (d.source.cut i j) + tally p put := by
  cases h with
  | @negation n =>
    refine ⟨_, _, .negation, fun p => ?_⟩
    rw [← List.singleton_append, tally_append, Node.bytes, tally_nil]
    omega
  | @operator _ _ _ o a b hswap _ _ _ ha hb =>
    refine ⟨_, _, .operator hswap hb, fun p => ?_⟩
    rw [← ha, Node.bytes, Int.add_comm]
  | @branches n l r _ _ _ hl hle hr _ =>
    refine ⟨_, _, .branches, fun p => ?_⟩
    rw [← cut_append_cut (Nat.le_trans hl hle) hr, ← cut_append_cut hl hle]
    simp only [tally_append, Node.bytes]
    omega
  | number hn hkind htext hbump =>
    refine ⟨_, _, .number hn hkind htext hbump, fun p => ?_⟩
    rw [htext, Node.bytes, Int.add_comm]
  | @name n name _ _ _ hname hspoof =>
    obtain ⟨front, c, c', back, hsplit, rfl, hc⟩ := spoof?_eq_some hspoof
    refine ⟨_, _, .lookAlike hc, fun p => ?_⟩
    have hbytes : d.source.cut n.start n.stop =
        (front ++ c :: back).flatMap String.utf8EncodeChar := by
      rw [← Node.bytes, ← hname, ← hsplit, ← ofString_ofList, String.ofList_toList]
    rw [hbytes, ofString_ofList]
    simp only [List.flatMap_append, List.flatMap_cons, tally_append]
    omega
  | @declaration i given hgiven hmem =>
    refine ⟨_, _, .declaration hgiven hmem, fun p => ?_⟩
    rw [cut, Nat.sub_self, List.take_zero, Int.add_comm]

/-- An attempt at a bug that finds a place trades bytes as its kind does. -/
theorem BugKind.apply_trades (hp : parser.Tidy) (hd : d.Coherent parser)
    (h : kind.apply parser d = .ok (true, d')) :
    ∃ taken given, kind.Trades d taken given ∧
      ∀ p : UInt8 → Bool, (∀ b ∈ separators, p b = false) →
        tally p d'.source + tally p taken = tally p d.source + tally p given := by
  obtain ⟨i, j, given, hreplaces, hij, hinter⟩ := BugKind.apply_replaces hp hd h
  obtain ⟨taken, put, htrade, hweigh⟩ := hreplaces.trades
  refine ⟨taken, put, htrade, fun p hp => ?_⟩
  have hpatch := tally_patched p d.source hij given
  have := hweigh p
  rw [hinter.tally_eq hp]
  omega

end

end Sabotage
