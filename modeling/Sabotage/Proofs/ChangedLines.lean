import Mathlib.Data.List.Basic
import Mathlib.Data.List.TakeWhile
import Mathlib.Order.Bounds.Basic
import Sabotage.Text.ChangeRange

/-!
# Exactly the changed lines

Two texts are parted into a common front, what differs, and a common back (`parting`). Of texts
with equally many line feeds `ChangeRange.between?` names exactly the first and the last line on
which they differ, and its lines put in the place of those of the first text give the second
(`ChangeRange.between?_exact`). The front ends within the first of these lines and the back begins
within the last, so both are seen from lines cut at either end (`lines_front`, `lines_back`); that
the last lines differ is that the first ones of the texts read backwards do (`lines_reverse`).
-/

namespace Sabotage.Text
variable {before after : List Char}

/-! ## Lines of texts put together -/

/-- A line feed ends a line. -/
theorem lines_cons_feed (cs : List Char) : lines ('\n' :: cs) = [] :: lines cs := by
  simp [lines, pieces, piecesFrom]

/-- Any other character belongs to the first line. -/
theorem lines_cons {c : Char} {cs line : List Char} {rest : List (List Char)} (hc : c ≠ '\n')
    (h : lines cs = line :: rest) : lines (c :: cs) = (c :: line) :: rest := by
  obtain ⟨rfl, rfl⟩ := List.cons_eq_cons.1 h
  simp [lines, pieces, piecesFrom, hc]

/-- There is a first line. -/
theorem lines_eq_cons (cs : List Char) : ∃ line rest, lines cs = line :: rest :=
  ⟨_, _, rfl⟩

/-- There is a last line. -/
theorem lines_eq_concat (cs : List Char) : ∃ rest line, lines cs = rest ++ [line] :=
  ⟨_, _, (List.dropLast_concat_getLast (List.cons_ne_nil _ _)).symm⟩

/-- A text without a line feed is a single line. -/
theorem lines_eq_singleton {cs : List Char} (h : '\n' ∉ cs) : lines cs = [cs] :=
  pieces_eq_singleton h

/-- The last line of a text and the first line of one after it are one line. -/
theorem lines_append {cs ds line line' : List Char} {rest rest' : List (List Char)}
    (h : lines cs = rest ++ [line]) (h' : lines ds = line' :: rest') :
    lines (cs ++ ds) = rest ++ (line ++ line') :: rest' := by
  induction cs generalizing rest line with
  | nil =>
    have h : [] ++ [[]] = rest ++ [line] := h
    obtain ⟨rfl, hline⟩ := List.append_inj' h rfl
    cases hline
    exact h'
  | cons c cs ih =>
    obtain ⟨rest₁, line₁, hcs⟩ := lines_eq_concat cs
    by_cases hc : c = '\n'
    · subst hc
      rw [lines_cons_feed, hcs, ← List.cons_append] at h
      obtain ⟨rfl, hline⟩ := List.append_inj' h rfl
      cases hline
      rw [List.cons_append, lines_cons_feed, ih hcs, List.cons_append]
    · cases rest₁ with
      | nil =>
        have h : [] ++ [c :: line₁] = rest ++ [line] := (lines_cons hc hcs).symm.trans h
        obtain ⟨rfl, hline⟩ := List.append_inj' h rfl
        cases hline
        exact lines_cons hc (ih hcs)
      | cons first rest₁ =>
        have h : (c :: first) :: rest₁ ++ [line₁] = rest ++ [line] :=
          (lines_cons hc hcs).symm.trans h
        obtain ⟨rfl, hline⟩ := List.append_inj' h rfl
        cases hline
        exact lines_cons hc (ih hcs)

/-- Of the lines of a front all but the last are lines of the whole. -/
theorem lines_front {front line : List Char} {rest : List (List Char)}
    (h : lines front = rest ++ [line]) (hline : '\n' ∉ line) (cs : List Char) :
    lines (front ++ cs) = rest ++ lines (line ++ cs) := by
  obtain ⟨first, rest', hcs⟩ := lines_eq_cons cs
  rw [lines_append h hcs,
    lines_append (List.nil_append [line] ▸ lines_eq_singleton hline) hcs, List.nil_append]

/-- Of the lines of a back all but the first are lines of the whole. -/
theorem lines_back {back line : List Char} {rest : List (List Char)}
    (h : lines back = line :: rest) (hline : '\n' ∉ line) (cs : List Char) :
    lines (cs ++ back) = lines (cs ++ line) ++ rest := by
  obtain ⟨rest', last, hcs⟩ := lines_eq_concat cs
  rw [lines_append hcs h, lines_append hcs (lines_eq_singleton hline), List.append_assoc]
  rfl

/-- Of the lines of a back, behind a text in a line in progress, all but the first are lines of the
whole. -/
theorem lines_between_back {back line line' : List Char} {rest : List (List Char)}
    (h : lines back = line' :: rest) (hline : '\n' ∉ line') (cs : List Char) :
    lines (line ++ (cs ++ back)) = lines (line ++ (cs ++ line')) ++ rest := by
  rw [← List.append_assoc, lines_back h hline, List.append_assoc]

/-- A line holds no line feed. -/
theorem not_mem_of_mem_lines {cs line : List Char} (h : line ∈ lines cs) : '\n' ∉ line :=
  not_mem_of_mem_pieces h

/-- The lines of a text read backwards. -/
theorem lines_reverse (cs : List Char) :
    lines cs.reverse = ((lines cs).map List.reverse).reverse := by
  induction cs with
  | nil => rfl
  | cons c cs ih =>
    obtain ⟨line, rest, hcs⟩ := lines_eq_cons cs
    rw [hcs, List.map_cons, List.reverse_cons] at ih
    rw [List.reverse_cons]
    by_cases hc : c = '\n'
    · subst hc
      rw [lines_append ih (lines_cons_feed []), lines_cons_feed, hcs,
        lines_eq_singleton List.not_mem_nil]
      simp
    · rw [lines_append ih (lines_cons hc (lines_eq_singleton List.not_mem_nil)),
        lines_cons hc hcs]
      simp

/-- The first line of a text that begins with a line in progress. -/
theorem head?_lines {line : List Char} (hline : '\n' ∉ line) (cs : List Char) :
    (lines (line ++ cs)).head? = some (line ++ cs.takeWhile (· ≠ '\n')) := by
  suffices hgen : ∀ cs, (lines cs).head? = some (cs.takeWhile (· ≠ '\n')) by
    rw [hgen, List.takeWhile_append_of_pos]
    intro c hc
    exact decide_eq_true fun h => hline (h ▸ hc)
  intro cs
  induction cs with
  | nil => rfl
  | cons c cs ih =>
    by_cases hc : c = '\n'
    · simp [hc, lines_cons_feed]
    · obtain ⟨first, rest, hcs⟩ := lines_eq_cons cs
      rw [hcs] at ih
      simp [lines_cons hc hcs, hc, Option.some.inj ih]

/-! ## Parting two texts -/

/-- Two texts that do not begin alike. -/
def Parted (cs ds : List Char) : Prop :=
  ∀ c ∈ cs.head?, c ∉ ds.head?

/-- Texts that begin alike still do with texts behind them. -/
theorem Parted.of_append {cs ds rest rest' : List Char} (h : Parted (cs ++ rest) (ds ++ rest')) :
    Parted cs ds := by
  intro c hc hd
  refine h c ?_ ?_
  · rw [List.head?_append, hc]
    rfl
  · rw [List.head?_append, hd]
    rfl

/-- A longest common front, and what follows it in either text. -/
theorem commonFront_spec (cs ds : List Char) :
    ∃ front rest rest', cs = front ++ rest ∧ ds = front ++ rest' ∧
      front.length = commonFront cs ds ∧ Parted rest rest' := by
  fun_induction commonFront cs ds with
  | case1 as b bs ih =>
    obtain ⟨front, rest, rest', rfl, rfl, hlen, hparted⟩ := ih
    exact ⟨b :: front, rest, rest', rfl, rfl, congrArg (· + 1) hlen, hparted⟩
  | case2 a as b bs hne =>
    refine ⟨[], _, _, rfl, rfl, rfl, fun c hc hd => hne ?_⟩
    exact (Option.some.inj hc).trans (Option.some.inj hd).symm
  | case3 cs ds hno =>
    refine ⟨[], cs, ds, rfl, rfl, rfl, fun c hc hd => ?_⟩
    cases cs with
    | nil => cases hc
    | cons a as =>
      cases ds with
      | nil => cases hd
      | cons b bs => exact hno a as b bs rfl rfl

/-- The back of a text, as much of it as what follows a front holds, is cut off from both. -/
theorem cut_back {front rest shared tail : List Char} {k : Nat} (hk : k ≤ shared.length)
    (hle : k ≤ rest.length) (h : (front ++ rest).reverse = shared ++ tail) :
    ∃ mid, rest = mid ++ (shared.take k).reverse ∧
      mid.reverse ++ front.reverse = shared.drop k ++ tail := by
  rw [List.reverse_append] at h
  have htake : rest.reverse.take k = shared.take k := by
    have := congrArg (List.take k) h
    rwa [List.take_append_of_le_length (by simpa using hle),
      List.take_append_of_le_length hk] at this
  refine ⟨(rest.reverse.drop k).reverse, ?_, ?_⟩
  · rw [← List.reverse_append, ← htake, List.take_append_drop, List.reverse_reverse]
  · have := congrArg (List.drop k) h
    rwa [List.drop_append_of_le_length (by simpa using hle), List.drop_append_of_le_length hk,
      ← List.reverse_reverse (List.drop k rest.reverse)] at this

/-- Texts that go on differently after what they share do not end alike once all of that is cut
off. -/
theorem parted_of_cut {front front' mid mid' shared tail tail' : List Char} {k : Nat}
    (hparted : Parted tail tail')
    (hall : mid ≠ [] → mid' ≠ [] → shared.length ≤ k)
    (h : mid.reverse ++ front.reverse = shared.drop k ++ tail)
    (h' : mid'.reverse ++ front'.reverse = shared.drop k ++ tail') :
    Parted mid.reverse mid'.reverse := by
  intro c hc hd
  have hne : mid ≠ [] := by rintro rfl; cases hc
  have hne' : mid' ≠ [] := by rintro rfl; cases hd
  rw [List.drop_eq_nil_of_le (hall hne hne'), List.nil_append] at h h'
  refine hparted c ?_ ?_
  · rw [← h, List.head?_append, hc]
    rfl
  · rw [← h', List.head?_append, hd]
    rfl

/-- Two texts are a common front, texts that do not end alike, and a common back, and do not go on
alike after the front; the front and the back are those that are measured. -/
theorem parting (cs ds : List Char) :
    ∃ front mid mid' back, cs = front ++ mid ++ back ∧ ds = front ++ mid' ++ back ∧
      front.length = commonFront cs ds ∧ back.length = commonBack cs ds (commonFront cs ds) ∧
      Parted (mid ++ back) (mid' ++ back) ∧ Parted mid.reverse mid'.reverse := by
  obtain ⟨front, rest, rest', hcs, hds, hfront, hparted⟩ := commonFront_spec cs ds
  obtain ⟨shared, tail, tail', hcs', hds', hshared, hparted'⟩ :=
    commonFront_spec cs.reverse ds.reverse
  have hback : commonBack cs ds (commonFront cs ds) =
      min shared.length (min rest.length rest'.length) := by
    rw [commonBack, ← hfront, ← hshared, hcs, hds, List.length_append, List.length_append]
    omega
  -- As much of the common back as the rests hold, read backwards.
  obtain ⟨k, hk⟩ : ∃ k, k = commonBack cs ds (commonFront cs ds) := ⟨_, rfl⟩
  obtain ⟨mid, rfl, htail⟩ := cut_back (k := k) (by omega) (by omega) (hcs ▸ hcs')
  obtain ⟨mid', rfl, htail'⟩ := cut_back (k := k) (by omega) (by omega) (hds ▸ hds')
  refine ⟨front, mid, mid', (shared.take k).reverse, ?_, ?_, hfront, ?_, hparted, ?_⟩
  · rw [hcs, List.append_assoc]
  · rw [hds, List.append_assoc]
  · rw [List.length_reverse, List.length_take]
    omega
  · refine parted_of_cut hparted' (fun hne hne' => ?_) htail htail'
    have hpos := List.length_pos_iff.2 hne
    have hpos' := List.length_pos_iff.2 hne'
    simp only [List.length_append, List.length_reverse, List.length_take] at hback
    omega

/-! ## Where lines differ -/

/-- The lines, counted from one, on which two texts differ. -/
def differingLines (before after : String) : Set Nat :=
  {k | 1 ≤ k ∧ (lines before.toList)[k - 1]? ≠ (lines after.toList)[k - 1]?}

/-- A text with a text in the place of its lines from number `first` to number `last`. -/
def replaceLines (text : String) (first last : Nat) (new : String) : String :=
  String.ofList (joinLines ((lines text.toList).take (first - 1) ++ lines new.toList
    ++ (lines text.toList).drop last))

/-- Texts with equally many line feeds that do not begin alike differ on their first lines, whatever
stands around them on these lines. -/
theorem head?_lines_ne {line line' cs ds : List Char} (hline : '\n' ∉ line) (hline' : '\n' ∉ line')
    (hfeeds : lineFeeds cs = lineFeeds ds) (hparted : Parted cs ds) (hne : cs ≠ ds) :
    (lines (line ++ (cs ++ line'))).head? ≠ (lines (line ++ (ds ++ line'))).head? := by
  have hall {cs : List Char} (h : lineFeeds cs = 0) :
      (cs ++ line').takeWhile (· ≠ '\n') = cs ++ line' := by
    refine List.takeWhile_eq_self_iff.2 fun c hc => decide_eq_true ?_
    rintro rfl
    exact (List.mem_append.1 hc).elim (List.count_eq_zero.1 h) hline'
  rw [head?_lines hline, head?_lines hline]
  intro h
  have h := List.append_cancel_left (Option.some.inj h)
  cases cs with
  | nil =>
    rw [hall rfl, hall hfeeds.symm] at h
    exact hne (List.append_cancel_right h)
  | cons c cs =>
    cases ds with
    | nil =>
      rw [hall hfeeds, hall rfl] at h
      exact hne (List.append_cancel_right h)
    | cons d ds =>
      have hcd : c ≠ d := fun hcd => hparted c rfl (congrArg some hcd.symm)
      simp only [List.cons_append, List.takeWhile_cons] at h
      grind

section
variable {α : Type} {mid mid' : List α}

/-- Two lists of one length with a common front and a common back, of which what lies between
differs at both ends, differ nowhere before the first and nowhere after the last of these items. -/
theorem differ_at_ends (front back : List α) (hlen : mid.length = mid'.length)
    (hhead : mid.head? ≠ mid'.head?) (hlast : mid.getLast? ≠ mid'.getLast?) :
    IsLeast {k | 1 ≤ k ∧ (front ++ mid ++ back)[k - 1]? ≠ (front ++ mid' ++ back)[k - 1]?}
        (front.length + 1) ∧
      IsGreatest {k | 1 ≤ k ∧ (front ++ mid ++ back)[k - 1]? ≠ (front ++ mid' ++ back)[k - 1]?}
        (front.length + mid.length) := by
  have hpos : mid ≠ [] := by
    rintro rfl
    rw [List.eq_nil_of_length_eq_zero hlen.symm] at hhead
    exact hhead rfl
  have hpos := List.length_pos_iff.2 hpos
  rw [List.head?_eq_getElem?, List.head?_eq_getElem?] at hhead
  rw [List.getLast?_eq_getElem?, List.getLast?_eq_getElem?] at hlast
  have hget (k : Nat) : (front ++ mid ++ back)[k]? ≠ (front ++ mid' ++ back)[k]? ↔
      front.length ≤ k ∧ k < front.length + mid.length ∧
        mid[k - front.length]? ≠ mid'[k - front.length]? := by
    simp only [List.append_assoc, List.getElem?_append]
    grind
  simp only [hget]
  refine ⟨⟨⟨by omega, by omega, by omega, ?_⟩, fun k hk => ?_⟩,
    ⟨⟨by omega, by omega, by omega, ?_⟩, fun k hk => ?_⟩⟩
  · simpa using hhead
  · obtain ⟨h1, h2, -⟩ := hk
    omega
  · rwa [← hlen, show mid.length - 1 = front.length + mid.length - 1 - front.length by omega]
      at hlast
  · obtain ⟨h1, -, h2, -⟩ := hk
    omega

end

/-- The lines between two others of a text, by their numbers. -/
theorem linesBetween_of_append {text : String} {front mid back : List (List Char)}
    {first last : Nat} (h : lines text.toList = front ++ mid ++ back)
    (hfirst : first = front.length + 1) (hlast : last = front.length + mid.length) :
    linesBetween text first last = String.ofList (joinLines mid) := by
  have hstart : ((first : Int) - 1) = (front.length : Nat) := by omega
  rw [linesBetween, slice, h, hstart, hlast, clampBound_natCast (by simp),
    clampBound_natCast (by simp), Nat.add_sub_cancel_left, List.append_assoc, List.drop_left,
    List.take_left]

/-- The range of changed lines goes from the line on which the common front ends to the line on
which the common back begins, in the text where that is later. -/
theorem ChangeRange.between?_parting {before after : String} {r : ChangeRange}
    (h : ChangeRange.between? before after = some r) :
    ∃ front mid mid' back, before.toList = front ++ mid ++ back ∧
      after.toList = front ++ mid' ++ back ∧ Parted (mid ++ back) (mid' ++ back) ∧
      Parted mid.reverse mid'.reverse ∧ mid ≠ mid' ∧ r.firstLine = lineFeeds front + 1 ∧
      r.lastLine = max (lineFeeds (front ++ mid) + 1) (lineFeeds (front ++ mid') + 1) ∧
      r.before = linesBetween before r.firstLine r.lastLine ∧
      r.after = linesBetween after r.firstLine r.lastLine := by
  simp only [between?] at h
  split at h
  · cases h
  next hne =>
  obtain ⟨front, mid, mid', back, hbefore, hafter, hfront, hback, hparted, hparted'⟩ :=
    parting before.toList after.toList
  have hfirst : lineAt before.toList (commonFront before.toList after.toList) =
      lineFeeds front + 1 := by
    rw [lineAt, ← hfront, hbefore, List.append_assoc, List.take_left]
  have hlast {cs mid : List Char} (hcs : cs = front ++ mid ++ back) :
      lineAt cs (max (cs.length - commonBack before.toList after.toList
        (commonFront before.toList after.toList)) (commonFront before.toList after.toList)) =
        lineFeeds (front ++ mid) + 1 := by
    have hoffset : max (cs.length - back.length) front.length = (front ++ mid).length := by
      rw [hcs]
      simp only [List.length_append]
      omega
    rw [lineAt, ← hback, ← hfront, hoffset, hcs, List.take_left]
  rw [hfirst, hlast hbefore, hlast hafter] at h
  refine ⟨front, mid, mid', back, hbefore, hafter, hparted, hparted', ?_, ?_⟩
  · rintro rfl
    exact hne (String.toList_injective (hbefore.trans hafter.symm))
  · cases h
    exact ⟨rfl, rfl, rfl, rfl⟩

/-- Both texts begin with the lines above the range of changed lines, and go on with a line in
progress: what changes follows it, and then the common back. -/
theorem ChangeRange.between?_cut {before after : String} {r : ChangeRange}
    (h : ChangeRange.between? before after = some r) :
    ∃ above line mid mid' back, '\n' ∉ line ∧
      lines before.toList = above ++ lines (line ++ (mid ++ back)) ∧
      lines after.toList = above ++ lines (line ++ (mid' ++ back)) ∧
      Parted (mid ++ back) (mid' ++ back) ∧ Parted mid.reverse mid'.reverse ∧ mid ≠ mid' ∧
      r.firstLine = above.length + 1 ∧
      r.lastLine = above.length + max (lineFeeds mid + 1) (lineFeeds mid' + 1) ∧
      r.before = linesBetween before r.firstLine r.lastLine ∧
      r.after = linesBetween after r.firstLine r.lastLine := by
  obtain ⟨front, mid, mid', back, hbefore, hafter, hparted, hparted', hne, hfirst, hlast,
    hslices⟩ := between?_parting h
  obtain ⟨above, line, habove⟩ := lines_eq_concat front
  have hline : '\n' ∉ line := not_mem_of_mem_lines (habove ▸ List.mem_concat_self)
  have hfront : lineFeeds front = above.length := by
    have := length_lines front
    rw [habove, List.length_append] at this
    simpa using this.symm
  refine ⟨above, line, mid, mid', back, hline, ?_, ?_, hparted, hparted', hne, ?_, ?_, hslices⟩
  · rw [hbefore, List.append_assoc, lines_front habove hline]
  · rw [hafter, List.append_assoc, lines_front habove hline]
  · rw [hfirst, hfront]
  · rw [hlast]
    simp only [lineFeeds, List.count_append] at hfront ⊢
    omega

/-- Between two lines in progress a text has as many lines as it has line feeds, and one. -/
theorem length_lines_between {line line' : List Char} (hline : '\n' ∉ line)
    (hline' : '\n' ∉ line') (cs : List Char) :
    (lines (line ++ (cs ++ line'))).length = lineFeeds cs + 1 := by
  rw [length_lines]
  simp [lineFeeds, List.count_eq_zero_of_not_mem hline, List.count_eq_zero_of_not_mem hline']

/-- Of two texts with equally many line feeds the range of changed lines begins and ends with the
first and the last line on which they differ, and its text in the place of these lines of the first
text gives the second. -/
theorem ChangeRange.between?_exact {before after : String} {r : ChangeRange}
    (hfeeds : lineFeeds before.toList = lineFeeds after.toList)
    (h : ChangeRange.between? before after = some r) :
    IsLeast (differingLines before after) r.firstLine ∧
      IsGreatest (differingLines before after) r.lastLine ∧
      replaceLines before r.firstLine r.lastLine r.after = after := by
  obtain ⟨above, line, mid, mid', back, hline, hbefore, hafter, hparted, hparted', hne, hfirst,
    hlast, -, htext⟩ := between?_cut h
  obtain ⟨line', below, hback⟩ := lines_eq_cons back
  have hline' : '\n' ∉ line' := not_mem_of_mem_lines (hback ▸ List.mem_cons_self)
  rw [lines_between_back hback hline', ← List.append_assoc] at hbefore hafter
  have hmid : lineFeeds mid = lineFeeds mid' := by
    have hlength := length_lines before.toList
    have hlength' := length_lines after.toList
    rw [hbefore, List.length_append, List.length_append, length_lines_between hline hline']
      at hlength
    rw [hafter, List.length_append, List.length_append, length_lines_between hline hline']
      at hlength'
    omega
  -- The lines between, cut from the lines around them, differ at both ends.
  have hheads := head?_lines_ne hline hline' hmid hparted.of_append hne
  have hlasts : (lines (line ++ (mid ++ line'))).getLast? ≠
      (lines (line ++ (mid' ++ line'))).getLast? := by
    have hreverse (cs : List Char) : (lines (line ++ (cs ++ line'))).getLast? =
        (lines (line'.reverse ++ (cs.reverse ++ line.reverse))).head?.map List.reverse := by
      rw [← List.append_assoc, ← List.reverse_append, ← List.reverse_append, lines_reverse]
      simp
    rw [hreverse, hreverse]
    refine fun h => head?_lines_ne (by simpa using hline') (by simpa using hline) ?_ hparted' ?_
      (Option.map_injective List.reverse_injective h)
    · simpa [lineFeeds] using hmid
    · simpa using hne
  have hcount := length_lines_between hline hline'
  have hlast : r.lastLine = above.length + (lines (line ++ (mid ++ line'))).length := by
    rw [hlast, hcount, hmid, max_self]
  have hafter' : lines r.after.toList = lines (line ++ (mid' ++ line')) := by
    rw [htext, linesBetween_of_append hafter hfirst (by rw [hlast, hcount, hcount, hmid]),
      String.toList_ofList, joinLines_lines]
  rw [differingLines, replaceLines, hbefore, hafter, hafter', hfirst, hlast]
  obtain ⟨hleast, hgreatest⟩ :=
    differ_at_ends above below (by rw [hcount, hcount, hmid]) hheads hlasts
  refine ⟨hleast, hgreatest, ?_⟩
  rw [Nat.add_sub_cancel, List.append_assoc above, List.take_left, ← List.append_assoc above,
    ← List.length_append, List.drop_left, ← hafter, joinLines_lines, String.ofList_toList]

end Sabotage.Text
