import Mathlib.Data.List.Basic
import Sabotage.Path

/-!
# Paths as texts

A path that was read from a text is in normal form: its components are neither empty nor a dot and
hold no slash, and there are at most two slashes in front (`Path.normal_ofString`). Written and read
again, such a path is itself (`Path.ofString_toString`), so that reading what was read and written
changes nothing more.
-/

namespace Sabotage

namespace Text

/-- Joining pieces of texts is joining the texts. -/
theorem toList_intercalate_singleton (sep : Char) (ps : List String) :
    (String.intercalate (String.singleton sep) ps).toList =
      joinPieces sep (ps.map String.toList) := by
  rw [String.toList_intercalate]
  induction ps with
  | nil => rfl
  | cons p ps ih =>
    cases ps with
    | nil => simp [joinPieces]
    | cons q ps =>
      simp only [List.map_cons, List.intercalate_cons_cons] at ih ⊢
      rw [ih, joinPieces_cons_cons]
      simp

end Text

namespace Path

/-- Whether a component is kept when a path is read. -/
def isProper (part : String) : Bool :=
  part != "" && part != "."

/-- A path as it is read from a text. -/
structure Normal (p : Path) : Prop where
  slashes : p.slashes ≤ 2
  proper : ∀ part ∈ p.parts, isProper part = true
  noSlash : ∀ part ∈ p.parts, '/' ∉ part.toList

/-- A path read from a text is in normal form. -/
theorem normal_ofString (s : String) : (ofString s).Normal where
  slashes := by
    simp only [ofString]
    split
    · omega
    · split <;> omega
  proper _ hpart := (List.mem_filter.1 hpart).2
  noSlash part hpart := by
    obtain ⟨piece, hpiece, rfl⟩ := List.mem_map.1 (List.mem_filter.1 hpart).1
    rw [String.toList_ofList]
    exact Text.not_mem_of_mem_pieces hpiece

section
variable {p : Path}

/-- The characters of a path other than the dot: its slashes, and its components with slashes
between them. -/
theorem toList_toString (h : ¬(p.slashes = 0 ∧ p.parts = [])) :
    p.toString.toList =
      List.replicate p.slashes '/' ++ Text.joinPieces '/' (p.parts.map String.toList) := by
  rw [toString, if_neg h, String.toList_append, String.toList_ofList]
  exact congrArg _ (Text.toList_intercalate_singleton '/' p.parts)

/-- The pieces of a path written as a text: an empty one for each slash of its root, and its
components. -/
theorem split_toString (h : p.Normal) (hparts : p.parts ≠ []) :
    Text.split '/' p.toString = List.replicate p.slashes "" ++ p.parts := by
  have hpieces : Text.pieces '/' (Text.joinPieces '/' (p.parts.map String.toList)) =
      p.parts.map String.toList :=
    Text.pieces_joinPieces (by simpa using hparts) (List.forall_mem_map.2 h.noSlash)
  rw [Text.split, toList_toString (fun hdot => hparts hdot.2), Text.pieces_replicate_append,
    List.map_append, List.map_replicate, hpieces, List.map_map]
  simp [Function.comp_def]

/-- The proper components of a path written as a text are its own. -/
theorem filter_split_toString (h : p.Normal) :
    (Text.split '/' p.toString).filter isProper = p.parts := by
  by_cases hparts : p.parts = []
  · by_cases hslashes : p.slashes = 0
    · rw [hparts, toString, if_pos ⟨hslashes, hparts⟩]
      decide
    · rw [Text.split, toList_toString (fun hdot => hslashes hdot.1), hparts,
        Text.pieces_replicate_append, List.map_append, List.filter_append, List.map_replicate]
      have hempty : (List.replicate p.slashes (String.ofList [])).filter isProper = [] :=
        List.filter_eq_nil_iff.2 fun part hpart => by
          rw [List.eq_of_mem_replicate hpart]
          decide
      rw [hempty, List.nil_append]
      decide
  · have hempty : (List.replicate p.slashes "").filter isProper = [] :=
      List.filter_eq_nil_iff.2 fun part hpart => by
        rw [List.eq_of_mem_replicate hpart]
        decide
    rw [split_toString h hparts, List.filter_append, hempty, List.nil_append]
    exact List.filter_eq_self.2 h.proper

/-- The text of the components of a path in normal form does not begin with a slash. -/
theorem takeWhile_joinPieces (h : p.Normal) :
    (Text.joinPieces '/' (p.parts.map String.toList)).takeWhile (· == '/') = [] := by
  cases hparts : p.parts with
  | nil => rfl
  | cons part rest =>
    have hmem : part ∈ p.parts := hparts ▸ List.mem_cons_self
    obtain ⟨c, cs, hcs⟩ : ∃ c cs, part.toList = c :: cs := by
      refine List.exists_cons_of_ne_nil fun hnil => ?_
      have hproper := h.proper part hmem
      rw [String.toList_eq_nil_iff.1 hnil] at hproper
      revert hproper
      decide
    have hc : (c == '/') = false := beq_eq_false_iff_ne.2 fun hslash =>
      h.noSlash part hmem (by rw [hcs, hslash]; exact List.mem_cons_self)
    cases rest with
    | nil => simp [Text.joinPieces, hcs, hc]
    | cons q rest => simp [Text.joinPieces, hcs, hc]

/-- A path in normal form, written and read again, is itself. -/
theorem ofString_toString (h : p.Normal) : ofString p.toString = p := by
  have hparts : (ofString p.toString).parts = p.parts := filter_split_toString h
  have hslashes : (ofString p.toString).slashes = p.slashes := by
    by_cases hdot : p.slashes = 0 ∧ p.parts = []
    · rw [hdot.1, toString, if_pos hdot]
      decide
    · have hleading : (p.toString.toList.takeWhile (· == '/')).length = p.slashes := by
        rw [toList_toString hdot, List.takeWhile_append_of_pos (by simp), takeWhile_joinPieces h]
        simp
      have := h.slashes
      simp only [ofString, hleading]
      split
      · omega
      · split <;> omega
  obtain ⟨slashes, parts⟩ := p
  exact congrArg₂ mk hslashes hparts

/-- One component further down stays in normal form. -/
theorem Normal.child (h : p.Normal) {part : String} (hproper : isProper part = true)
    (hslash : '/' ∉ part.toList) : (p.child part).Normal where
  slashes := h.slashes
  proper := List.forall_mem_append.2 ⟨h.proper, List.forall_mem_singleton.2 hproper⟩
  noSlash := List.forall_mem_append.2 ⟨h.noSlash, List.forall_mem_singleton.2 hslash⟩

/-- One component further down leads a step further. -/
theorem locate_child (here : List String) (p : Path) (part : String) :
    (p.child part).locate here = step (p.locate here) part := by
  rw [locate, child, List.foldl_append]
  rfl

/-- The name of a path in normal form holds no slash. -/
theorem Normal.slash_not_mem_name (h : p.Normal) : '/' ∉ p.name.toList := by
  rw [name]
  cases hlast : p.parts.getLast? with
  | none => decide
  | some part => exact h.noSlash part (List.mem_of_getLast? hlast)

/-- The components of a path are those of its parent and its name. -/
theorem parent_append_name (hparts : p.parts ≠ []) : p.parent.parts ++ [p.name] = p.parts := by
  rw [parent, name, List.getLast?_eq_some_getLast hparts, Option.getD_some,
    List.dropLast_append_getLast hparts]

/-- A path leads to its name, if that does not lead up. -/
theorem getLast?_locate (here : List String) (hparts : p.parts ≠ []) (hname : p.name ≠ "..") :
    (p.locate here).getLast? = some p.name := by
  rw [locate, ← parent_append_name hparts, List.foldl_append, List.foldl_cons, List.foldl_nil, step,
    if_neg hname, List.getLast?_concat]

/-- A text begins with a slash when the path read from it has a root. -/
theorem startsWith_eq_isAbsolute (s : String) : s.startsWith "/" = (ofString s).isAbsolute := by
  rw [Bool.eq_iff_iff, String.startsWith_string_iff, isAbsolute, bne_iff_ne]
  simp only [ofString]
  cases hs : s.toList with
  | nil => simp
  | cons c cs =>
    by_cases hc : c = '/'
    · subst hc
      simp
      split <;> simp
    · simp [hc, Ne.symm hc]

/-- Writing a path that was read adds no characters but slashes and dots. -/
theorem mem_toString {s : String} {c : Char} (hc : c ∈ (ofString s).toString.toList)
    (hslash : c ≠ '/') (hdot : c ≠ '.') : c ∈ s.toList := by
  by_cases hparts : (ofString s).slashes = 0 ∧ (ofString s).parts = []
  · rw [toString, if_pos hparts] at hc
    exact absurd (List.mem_singleton.1 hc) hdot
  rw [toList_toString hparts, List.mem_append, Text.mem_joinPieces hslash] at hc
  rcases hc with hc | ⟨piece, hpiece, hc⟩
  · exact absurd (List.eq_of_mem_replicate hc) hslash
  · obtain ⟨part, hpart, rfl⟩ := List.mem_map.1 hpiece
    obtain ⟨cs, hcs, rfl⟩ := List.mem_map.1 (List.mem_filter.1 hpart).1
    rw [← Text.joinPieces_pieces '/' s.toList, Text.mem_joinPieces hslash]
    exact ⟨cs, hcs, by rwa [String.toList_ofList] at hc⟩

end

end Path

end Sabotage
