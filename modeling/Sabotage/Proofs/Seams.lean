import Sabotage.Proofs.Breaks
import Sabotage.Proofs.Splices

/-!
# The seams of an edit

An edit leaves two seams, where its text meets what stands before and after it. It is smooth when no
line break comes to stand beside another one there: its text begins and ends with a plain byte, and
so does what it replaces, or it is an insertion beside a plain byte (`Edit.Smooth`). Smooth edits
whose texts quote the source, carried out at once, give a byte string that quotes the source
(`Edit.quotes_applyAll`) and that ends with a line feed when the source does
(`Edit.getLast?_applyAll`).
-/

namespace Sabotage

namespace Bytes
variable {before old new after : Bytes}

/-! ## Replacing a part -/

/-- What may be replaced by a trimmed text: a trimmed part, or nothing beside a plain byte. -/
def Replaceable (before old after : Bytes) : Prop :=
  isTrimmed old ∨
    old = [] ∧ ((marks before).getLast? = some .plain ∨ (marks after).head? = some .plain)

/-- A replacement by a trimmed text that is chained leaves a byte string chained. -/
theorem chained_replace {R : Mark → Mark → Prop} (hR : R .plain .plain)
    (hold : Replaceable before old after) (ht : isTrimmed new) (hnew : Chained R new)
    (h : Chained R (before ++ old ++ after)) : Chained R (before ++ new ++ after) := by
  obtain ⟨hhead, hlast⟩ := isTrimmed_iff.1 ht
  have hnew := (List.isChain_cons.1 hnew).2
  have hsplit (mid : Bytes) : Mark.plain :: marks (before ++ mid ++ after) =
      (Mark.plain :: marks before) ++ (marks mid ++ marks after) := by
    simp
  rw [Chained, hsplit, List.isChain_append] at h ⊢
  obtain ⟨hbefore, hrest, hseam⟩ := h
  rw [List.isChain_append] at hrest
  obtain ⟨-, hafter, hseam'⟩ := hrest
  rw [List.isChain_append, hlast, List.head?_append, hhead]
  -- Which plain byte stands at a seam that the source had.
  rcases hold with hold | ⟨rfl, hplain | hplain⟩
  · obtain ⟨hhead', hlast'⟩ := isTrimmed_iff.1 hold
    rw [List.head?_append, hhead'] at hseam
    rw [hlast'] at hseam'
    exact ⟨hbefore, ⟨hnew, hafter, hseam'⟩, hseam⟩
  · have hcons : (Mark.plain :: marks before).getLast? = some .plain := by
      rw [List.getLast?_cons, hplain]
      rfl
    rw [hcons] at hseam ⊢
    refine ⟨hbefore, ⟨hnew, hafter, hseam⟩, ?_⟩
    simpa using hR
  · rw [marks_nil, List.nil_append, hplain] at hseam
    refine ⟨hbefore, ⟨hnew, hafter, ?_⟩, hseam⟩
    rw [hplain]
    simpa using hR

/-- A replacement by a trimmed text leaves a line feed at the end, or none. -/
theorem getLast?_replace (hold : Replaceable before old after) (ht : isTrimmed new) :
    (marks (before ++ new ++ after)).getLast? = some .lineFeed ↔
      (marks (before ++ old ++ after)).getLast? = some .lineFeed := by
  simp only [marks_append, List.getLast?_append, (isTrimmed_iff.1 ht).2]
  cases hlast : (marks after).getLast? with
  | some m => rfl
  | none =>
    rcases hold with hold | ⟨rfl, hplain | hplain⟩
    · rw [(isTrimmed_iff.1 hold).2]
    · simp [hplain]
    · rw [List.getLast?_eq_none_iff.1 hlast] at hplain
      cases hplain

end Bytes

namespace Edit
variable {source result : Bytes} {e f : Edit} {edits : List Edit}

/-! ## One edit inside a source -/

/-- The bytes an edit takes out of a source. -/
def removed (source : Bytes) (e : Edit) : Bytes :=
  source.cut e.start.toNat e.stop.toNat

/-- An edit whose bounds are offsets of a source, in order. -/
structure Inside (source : Bytes) (e : Edit) : Prop where
  nonneg : 0 ≤ e.start
  ordered : e.start ≤ e.stop
  within : e.stop ≤ source.length

/-- A source is what stands before an edit, what it takes out, and what stands after it. -/
theorem Inside.split (h : e.Inside source) :
    source = source.take e.start.toNat ++ e.removed source ++ source.drop e.stop.toNat := by
  obtain ⟨_, _, _⟩ := h
  have hle : e.start.toNat ≤ e.stop.toNat := by omega
  rw [removed, Bytes.cut, ← List.drop_take, List.append_assoc]
  conv_lhs => rw [← List.take_append_drop e.start.toNat source]
  rw [← List.take_append_drop (e.stop.toNat - e.start.toNat) (source.drop e.start.toNat),
    List.drop_drop, List.drop_take, Nat.add_sub_cancel' hle]

/-- What an edit makes of a source. -/
theorem Inside.apply_eq (h : e.Inside source) :
    e.apply source =
      source.take e.start.toNat ++ Bytes.ofString e.text ++ source.drop e.stop.toNat := by
  obtain ⟨_, _, _⟩ := h
  have hclamp (i : Int) (hi : 0 ≤ i) (hle : i ≤ source.length) :
      clampBound source.length i = i.toNat := by
    rw [clampBound]
    split <;> omega
  rw [apply, hclamp e.start (by omega) (by omega), hclamp e.stop (by omega) (by omega)]

/-- What stands before an edit stays. -/
theorem Inside.take_apply (h : e.Inside source) {i : Nat} (hi : i ≤ e.start) :
    (e.apply source).take i = source.take i := by
  obtain ⟨_, _, _⟩ := h
  have hle : i ≤ (source.take e.start.toNat).length := by
    rw [List.length_take]
    omega
  rw [apply_eq ⟨‹_›, ‹_›, ‹_›⟩, List.append_assoc, List.take_append_of_le_length hle,
    List.take_take, Nat.min_eq_left (by omega)]

/-- An edit before another one is inside what that one makes. -/
theorem Inside.apply (h : e.Inside source) (hf : f.Inside source) (hle : f.stop ≤ e.start) :
    f.Inside (e.apply source) ∧ f.removed (e.apply source) = f.removed source := by
  have htake := h.take_apply (i := f.stop.toNat) (by have := hf.nonneg; have := hf.ordered; omega)
  obtain ⟨_, _, _⟩ := h
  obtain ⟨_, _, _⟩ := hf
  refine ⟨⟨‹_›, ‹_›, ?_⟩, ?_⟩
  · have := congrArg List.length htake
    simp only [List.length_take] at this
    omega
  · rw [removed, removed, Bytes.cut, Bytes.cut, ← List.drop_take, ← List.drop_take, htake]

/-- An edit whose text begins and ends with a plain byte and stands where no line break comes to
stand beside another one. -/
structure Smooth (source : Bytes) (e : Edit) : Prop extends Inside source e where
  trimmed : Bytes.isTrimmed (Bytes.ofString e.text)
  replaceable : Bytes.Replaceable (source.take e.start.toNat) (e.removed source)
    (source.drop e.stop.toNat)

/-- An edit before another one stays smooth when that one is carried out. -/
theorem Smooth.apply (hf : f.Smooth source) (h : e.Smooth source) (hle : f.stop ≤ e.start) :
    f.Smooth (e.apply source) := by
  obtain ⟨hinside, hremoved⟩ := h.toInside.apply hf.toInside hle
  refine ⟨hinside, hf.trimmed, ?_⟩
  have := hf.nonneg
  have := hf.ordered
  rw [hremoved, h.toInside.take_apply (by omega)]
  refine hf.replaceable.imp_right fun ⟨hempty, hplain⟩ =>
    ⟨hempty, hplain.imp_right fun hplain => ?_⟩
  -- Up to the other edit nothing changes, and the text of that one begins with a plain byte.
  have hlen : f.stop.toNat ≤ (source.take e.start.toNat).length := by
    have := h.within
    have := h.ordered
    rw [List.length_take]
    omega
  have hsource : source.drop f.stop.toNat =
      (source.take e.start.toNat).drop f.stop.toNat ++ source.drop e.start.toNat := by
    rw [← List.drop_append_of_le_length hlen, List.take_append_drop]
  rw [hsource, Bytes.marks_append, List.head?_append] at hplain
  rw [h.toInside.apply_eq, List.append_assoc, List.drop_append_of_le_length hlen,
    Bytes.marks_append, Bytes.marks_append, List.head?_append, List.head?_append,
    (Bytes.isTrimmed_iff.1 h.trimmed).1]
  cases hhead : (Bytes.marks ((source.take e.start.toNat).drop f.stop.toNat)).head? with
  | none => rfl
  | some m => rwa [hhead] at hplain

/-! ## All edits at once -/

/-- Edits that were not refused end one before the other, and are carried out in order. -/
theorem applyOrdered_ok {limit : Option Int} (hbounds : ∀ e ∈ edits, e.start ≤ e.stop)
    (h : applyOrdered limit edits source = .ok result) :
    edits.Pairwise (fun e f => f.stop ≤ e.start) ∧ (∀ l ∈ limit, ∀ e ∈ edits, e.stop ≤ l) ∧
      result = edits.foldl (fun bytes e => e.apply bytes) source := by
  induction edits generalizing limit source with
  | nil => cases h; exact ⟨.nil, nofun, rfl⟩
  | cons e es ih =>
    simp only [applyOrdered] at h
    split at h
    · cases h
    next hlimit =>
    obtain ⟨hpairwise, hrest, rfl⟩ := ih (fun f hf => hbounds f (List.mem_cons_of_mem _ hf)) h
    have hfirst := hrest e.start rfl
    refine ⟨List.pairwise_cons.2 ⟨hfirst, hpairwise⟩, fun l hl => ?_, rfl⟩
    cases hl
    have hle : e.stop ≤ l := by simpa using hlimit
    have := hbounds e List.mem_cons_self
    refine List.forall_mem_cons.2 ⟨hle, fun f hf => ?_⟩
    have := hfirst f hf
    omega

/-- Edits that were not refused have a listing, of which each ends before the one listed before it
begins, that is carried out in order. -/
theorem applyAll_ok (hbounds : ∀ e ∈ edits, e.start ≤ e.stop)
    (h : applyAll edits source = .ok result) :
    ∃ falling : List Edit, falling.Perm edits ∧ falling.Pairwise (fun e f => f.stop ≤ e.start) ∧
      result = falling.foldl (fun bytes e => e.apply bytes) source := by
  have hp : (lastFirst edits).Perm edits := arrange_perm _ edits
  obtain ⟨hpairwise, -, hresult⟩ := applyOrdered_ok (fun e he => hbounds e (hp.mem_iff.1 he)) h
  exact ⟨_, hp, hpairwise, hresult⟩

/-- What holds of a source and is kept by each edit that is smooth holds of what smooth edits make
of it. -/
theorem applyAll_induction {p : Bytes → Prop} (hsmooth : ∀ e ∈ edits, e.Smooth source)
    (hstep : ∀ e ∈ edits, ∀ bytes, e.Smooth bytes → p bytes → p (e.apply bytes))
    (h : applyAll edits source = .ok result) (hsource : p source) : p result := by
  obtain ⟨falling, hperm, hpairwise, rfl⟩ := applyAll_ok (fun e he => (hsmooth e he).ordered) h
  replace hsmooth : ∀ e ∈ falling, e.Smooth source := fun e he => hsmooth e (hperm.mem_iff.1 he)
  replace hstep : ∀ e ∈ falling, ∀ bytes, e.Smooth bytes → p bytes → p (e.apply bytes) :=
    fun e he => hstep e (hperm.mem_iff.1 he)
  clear h hperm
  induction falling generalizing source with
  | nil => exact hsource
  | cons e es ih =>
    obtain ⟨hfirst, hpairwise⟩ := List.pairwise_cons.1 hpairwise
    obtain ⟨he, hes⟩ := List.forall_mem_cons.1 hsmooth
    obtain ⟨hstep, hsteps⟩ := List.forall_mem_cons.1 hstep
    exact ih (hstep source he hsource) hpairwise (fun f hf => (hes f hf).apply he (hfirst f hf))
      hsteps

/-- Smooth edits whose texts quote a source give a byte string that quotes it. -/
theorem quotes_applyAll (hsmooth : ∀ e ∈ edits, e.Smooth source)
    (hquotes : ∀ e ∈ edits, (Bytes.ofString e.text).Quotes source)
    (h : applyAll edits source = .ok result) : result.Quotes source := by
  intro R hR hs
  refine applyAll_induction hsmooth (fun e he bytes hb hbytes => ?_) h hs
  rw [hb.toInside.apply_eq]
  refine Bytes.chained_replace hR hb.replaceable hb.trimmed (hquotes e he R hR hs) ?_
  rwa [← hb.toInside.split]

/-- Smooth edits leave a line feed at the end, or none. -/
theorem getLast?_applyAll (hsmooth : ∀ e ∈ edits, e.Smooth source)
    (h : applyAll edits source = .ok result) :
    (Bytes.marks result).getLast? = some .lineFeed ↔
      (Bytes.marks source).getLast? = some .lineFeed := by
  refine applyAll_induction (p := fun bytes => (Bytes.marks bytes).getLast? = some .lineFeed ↔
    (Bytes.marks source).getLast? = some .lineFeed) hsmooth (fun e he bytes hb hbytes => ?_) h .rfl
  refine Iff.trans ?_ hbytes
  rw [hb.toInside.apply_eq, Bytes.getLast?_replace hb.replaceable hb.trimmed, ← hb.toInside.split]

end Edit

end Sabotage
