import Sabotage.Proofs.Contract
import Sabotage.Proofs.RulePlans
import Sabotage.Proofs.SmoothRuns

/-!
# Edits between characters

An edit fits a text when both its bounds stand between characters (`Edit.Fits`). Edits that fit a
text make a text of it, since the last of them leaves what stands before it alone, and with it the
places of the others (`Edit.exists_text_applyAll`). Over a sound draft all edits that the rules plan
fit (`BugKind.Plans.fits`). The one edit that does not stand at an end of a node is the declaration
behind the brace of a block, so that of a parse it is relied on that blocks begin with a character
of one byte (`Parser.BracesBlocks`). A run over a text therefore ends in a text
(`exists_text_of_played`), and no rule fails on the way (`BugKind.finishes`).
-/

namespace Sabotage

open Bytes

/-! ## Parts of texts -/

namespace Bytes

/-- A text has as many bytes as its size says. -/
theorem length_ofString (s : String) : (ofString s).length = s.utf8ByteSize := by
  rw [ofString, Array.length_toList, ← String.size_toByteArray]
  rfl

/-- The bytes of a part of a text. -/
theorem cut_ofString (before replaced after : String) :
    (ofString (before ++ replaced ++ after)).cut before.utf8ByteSize
      (before ++ replaced).utf8ByteSize = ofString replaced := by
  rw [ofString_append, ofString_append, ← length_ofString, ← length_ofString, ofString_append, cut,
    List.append_assoc, List.drop_left, List.length_append, Nat.add_sub_cancel_left, List.take_left]

end Bytes

/-- Of two beginnings of a text the longer one begins with the shorter one. -/
theorem exists_append_of_utf8ByteSize_le {a b c d : String} (h : a ++ b = c ++ d)
    (hle : a.utf8ByteSize ≤ c.utf8ByteSize) : ∃ m, c = a ++ m := by
  have hchars : a.toList ++ b.toList = c.toList ++ d.toList := by
    rw [← String.toList_append, ← String.toList_append, h]
  obtain ⟨m, hm, -⟩ | ⟨m, hm, -⟩ := List.append_eq_append_iff.1 hchars
  · exact ⟨String.ofList m, String.toList_injective (by simp [hm])⟩
  · -- The shorter one is not the longer one with something behind it.
    have ha : a = c ++ String.ofList m := String.toList_injective (by simp [hm])
    have hsize := congrArg String.utf8ByteSize ha
    rw [String.utf8ByteSize_append] at hsize
    have hempty : String.ofList m = "" := String.utf8ByteSize_eq_zero_iff.1 (by omega)
    exact ⟨"", by rw [ha, hempty, String.append_empty, String.append_empty]⟩

/-! ## Edits that fit -/

namespace Edit
variable {text : String} {e f : Edit}

/-- An edit whose bounds stand between characters of a text. -/
def Fits (text : String) (e : Edit) : Prop :=
  ∃ before replaced after : String, text = before ++ replaced ++ after ∧
    e.start = before.utf8ByteSize ∧ e.stop = (before ++ replaced).utf8ByteSize

/-- An edit from one boundary of characters to a later one fits. -/
theorem fits_of_isValid {i j : Nat} (hij : i ≤ j) (hi : (⟨i⟩ : String.Pos.Raw).IsValid text)
    (hj : (⟨j⟩ : String.Pos.Raw).IsValid text) (new : String) : Fits text ⟨i, j, new⟩ := by
  obtain ⟨before, rest, htext, hbefore⟩ := String.Pos.Raw.isValid_iff_exists_append.1 hi
  obtain ⟨front, after, htext', hfront⟩ := String.Pos.Raw.isValid_iff_exists_append.1 hj
  have hbefore : i = before.utf8ByteSize := congrArg String.Pos.Raw.byteIdx hbefore
  have hfront : j = front.utf8ByteSize := congrArg String.Pos.Raw.byteIdx hfront
  obtain ⟨replaced, rfl⟩ := exists_append_of_utf8ByteSize_le (htext.symm.trans htext') (by omega)
  exact ⟨before, replaced, after, htext', congrArg Nat.cast hbefore, congrArg Nat.cast hfront⟩

/-- An insertion at a boundary of characters fits. -/
theorem fits_insertion {i : Nat} (hi : (⟨i⟩ : String.Pos.Raw).IsValid text) (new : String) :
    Fits text (insertion i new) :=
  fits_of_isValid (Nat.le_refl i) hi hi new

/-- The bounds of an edit that fits are in order. -/
theorem Fits.bounds (h : e.Fits text) : e.start ≤ e.stop := by
  obtain ⟨before, replaced, after, -, hstart, hstop⟩ := h
  rw [String.utf8ByteSize_append] at hstop
  omega

/-- What an edit makes of a text whose characters it keeps whole. -/
theorem apply_ofString {before replaced after : String} (hstart : e.start = before.utf8ByteSize)
    (hstop : e.stop = (before ++ replaced).utf8ByteSize) :
    e.apply (ofString (before ++ replaced ++ after)) = ofString (before ++ e.text ++ after) := by
  have happly : Edit.apply ⟨_, _, e.text⟩
      (ofString before ++ ofString replaced ++ ofString after) =
      ofString before ++ ofString e.text ++ ofString after :=
    apply_append (length_ofString before).symm
      (congrArg (_ + ·) (length_ofString replaced).symm) e.text
  rw [ofString_append, ofString_append, ofString_append, ofString_append, ← happly]
  congr 1
  rw [String.utf8ByteSize_append] at hstop
  cases e
  simp_all

/-- An edit that fits makes a text, which edits before it fit when they fitted the one it was made
of. -/
theorem Fits.apply (h : e.Fits text) :
    ∃ text', e.apply (ofString text) = ofString text' ∧
      ∀ f : Edit, f.Fits text → f.stop ≤ e.start → f.Fits text' := by
  obtain ⟨before, replaced, after, rfl, hstart, hstop⟩ := h
  refine ⟨before ++ e.text ++ after, apply_ofString hstart hstop, fun f hf hle => ?_⟩
  obtain ⟨front, taken, rest, htext, hfront, htaken⟩ := hf
  rw [String.append_assoc] at htext
  obtain ⟨m, rfl⟩ := exists_append_of_utf8ByteSize_le htext.symm (by omega)
  exact ⟨front, taken, m ++ e.text ++ after, by simp [String.append_assoc], hfront, htaken⟩

/-- Edits that fit a text, one before the other, make a text of it. -/
theorem exists_text_foldl {falling : List Edit} (h : ∀ f ∈ falling, f.Fits text)
    (hpairwise : falling.Pairwise fun e f => f.stop ≤ e.start) :
    ∃ text', falling.foldl (fun bytes e => e.apply bytes) (ofString text) = ofString text' := by
  induction falling generalizing text with
  | nil => exact ⟨text, rfl⟩
  | cons e es ih =>
    obtain ⟨he, hes⟩ := List.forall_mem_cons.1 h
    obtain ⟨hfirst, hpairwise⟩ := List.pairwise_cons.1 hpairwise
    obtain ⟨text', happly, hkept⟩ := he.apply
    rw [List.foldl_cons, happly]
    exact ih (fun f hf => hkept f (hes f hf) (hfirst f hf)) hpairwise

/-- Edits that fit a text make a text of it. -/
theorem exists_text_applyAll {edits : List Edit} {result : Bytes} (h : ∀ e ∈ edits, e.Fits text)
    (happly : applyAll edits (ofString text) = .ok result) : ∃ text', result = ofString text' := by
  obtain ⟨falling, hperm, hpairwise, rfl⟩ := applyAll_ok (fun e he => (h e he).bounds) happly
  exact exists_text_foldl (fun f hf => h f (hperm.mem_iff.1 hf)) hpairwise

end Edit

/-! ## Edits of nodes -/

namespace Node
variable {text : String} {n : Node}

/-- The replacement of a node that is laid out fits. -/
theorem LaidOut.fits_replacement (h : n.LaidOut text) (new : String) :
    (Draft.replacement n new).Fits text :=
  Edit.fits_of_isValid h.start_le_stop h.start_isValid h.stop_isValid new

/-- Parentheses around a node that is laid out fit. -/
theorem LaidOut.fits_wrap (h : n.LaidOut text) {e : Edit} (he : e ∈ Draft.wrap n) :
    e.Fits text := by
  rcases List.mem_pair.1 he with rfl | rfl
  · exact Edit.fits_insertion h.start_isValid "("
  · exact Edit.fits_insertion h.stop_isValid ")"

/-- A tree in which every block begins with a character of one byte. -/
def BracesBlocks (text : String) (root : Node) : Prop :=
  ∀ n ∈ root.preorder, n.kind = "statement_block" →
    (⟨n.start + 1⟩ : String.Pos.Raw).IsValid text

end Node

/-- A parser in whose trees blocks begin with a character of one byte, as a brace is. -/
def Parser.BracesBlocks (parser : Parser) : Prop :=
  ∀ language text, (parser language (ofString text)).BracesBlocks text

/-- Over a sound draft every rule plans edits that fit. -/
theorem BugKind.Plans.fits {text : String} {d : Draft} (hd : d.Sound text)
    (hblocks : d.root.BracesBlocks text) {kind : BugKind} {plan : Plan}
    (h : kind.Plans d plan) : ∀ e ∈ plan.edits, e.Fits text := by
  have hlaid {n : Node} (hn : n ∈ d.root.preorder) : n.LaidOut text := hd.wellFormed n hn
  cases h with
  | negation _ _ hn | number hn | name hn =>
    exact List.forall_mem_singleton.2 ((hlaid hn).fits_replacement _)
  | operator _ hn _ ho _ _ _ _ hparens =>
    refine List.forall_mem_cons.2 ⟨?_, fun e he => ?_⟩
    · exact (hlaid (Node.mem_preorder_child? hn ho)).fits_replacement _
    · obtain ⟨m, hm, -, he⟩ := hparens e he
      exact (hlaid hm).fits_wrap he
  | @branches n c a _ _ hn _ hbranches =>
    have hmem (m : Node) (hm : m ∈ [c, a]) : m ∈ d.root.preorder := by
      rw [← hbranches, Node.branches, List.mem_append, Option.mem_toList, Option.mem_toList] at hm
      rcases hm with hm | hm
      · exact Node.mem_preorder_child? hn hm
      · exact Node.mem_preorder_child? hn hm
    exact List.forall_mem_cons.2 ⟨(hlaid (hmem c (by simp))).fits_replacement _,
      List.forall_mem_singleton.2 ((hlaid (hmem a (by simp))).fits_replacement _)⟩
  | declaration hn _ hbody hblock _ _ _ hopens =>
    have hbody := Node.mem_preorder_child? hn hbody
    refine List.forall_mem_singleton.2 ?_
    obtain rfl | ⟨last, hlast, front, -, rfl⟩ := hopens
    · exact Edit.fits_insertion (hblocks _ hbody hblock) _
    · have hcontent : last ∈ Node.content _ := List.takeWhile_subset _ hlast
      have hlast := Node.mem_preorder_child hbody (Node.mem_children_of_mem_content hcontent)
      exact Edit.fits_insertion (hlaid hlast).stop_isValid _

/-! ## Runs -/

section
variable {parser : Parser} {d d' : Draft}

/-- A draft with the parse of its source, which is a text. -/
structure Draft.Spelled (parser : Parser) (d : Draft) : Prop where
  coherent : d.Coherent parser
  exists_text : ∃ text, d.source = ofString text

/-- A coherent draft of a text is sound. -/
theorem Draft.Coherent.sound (hp : parser.WellFormed) (hd : d.Coherent parser) {text : String}
    (htext : d.source = ofString text) : d.Sound text := by
  refine ⟨htext, ?_⟩
  rw [hd, htext]
  exact hp d.language text

/-- An attempt at a bug that finds a place makes a text of a text. -/
theorem BugKind.exists_text_apply (hp : parser.WellFormed) (hb : parser.BracesBlocks)
    (hd : d.Spelled parser) {kind : BugKind} (h : kind.apply parser d = .ok (true, d')) :
    d'.Spelled parser := by
  obtain ⟨hcoherent, text, htext⟩ := hd
  obtain ⟨hcoherent', plan, hplan, happly⟩ := BugKind.apply_plans h
  have hblocks : d.root.BracesBlocks text := by
    rw [hcoherent, htext]
    exact hb d.language text
  rw [htext] at happly
  exact ⟨hcoherent', Edit.exists_text_applyAll (hplan.fits (hcoherent.sound hp htext) hblocks)
    happly⟩

/-- On drafts of texts no rule fails, and each leaves a draft of a text. -/
theorem BugKind.finishes (hp : parser.WellFormed) (hb : parser.BracesBlocks)
    {entries : List CatalogEntry} :
    ∀ c ∈ candidates parser entries, c.Finishes (Draft.Spelled parser) := by
  intro c hc d hd
  rw [attempt_candidates c hc]
  obtain ⟨text, htext⟩ := hd.exists_text
  obtain ⟨changed, d', happly⟩ := c.kind.apply_finishes parser (hd.coherent.sound hp htext)
  refine ⟨changed, d', happly, ?_⟩
  cases changed with
  | true => exact BugKind.exists_text_apply hp hb hd happly
  | false =>
    obtain ⟨hfalse, -⟩ | ⟨-, rfl⟩ := BugKind.apply_cases hd.coherent happly
    · cases hfalse
    · exact hd

/-- A run over a text ends in a text. -/
theorem exists_text_of_played {pool : List (Candidate DraftError Draft)} {budget : Nat}
    {kinds : List BugKind} (hp : parser.WellFormed) (hb : parser.BracesBlocks)
    (hpool : ∀ c ∈ pool, c.attempt = c.kind.apply parser) (hd : d.Spelled parser)
    (h : Played pool budget d kinds d') : ∃ text, d'.source = ofString text :=
  forall_of_played (p := fun t => ∃ text, t.source = ofString text) hpool
    (fun _ _ _ ht ha htext => (BugKind.exists_text_apply hp hb ⟨ht, htext⟩ ha).exists_text)
    hd.coherent h hd.exists_text

end

end Sabotage
