import Mathlib.Data.List.DropRight
import Sabotage.Proofs.ChangedLines

/-!
# Above and below the changed lines

Whatever two different texts are, the range of changed lines lies within the longer of them, counted
in lines; the texts agree on the lines above it and, counted from their ends, on those below it; and
what the range holds of the one text is not what it holds of the other (`ChangeRange.Frames`). For
the last the common front has to be a longest one, so that whole lines that are put in do not begin
as the text behind them does (`take_lines_ne`).
-/

namespace Sabotage.Text
variable {before after : String}

/-! ## Ranges of lines -/

/-- A range of lines are the lines up to its last without those before its first. -/
theorem linesBetween_eq (text : String) {first last : Nat} (hfirst : 1 ≤ first) :
    linesBetween text first last =
      String.ofList (joinLines (((lines text.toList).take last).drop (first - 1))) := by
  have hstart : ((first : Int) - 1) = (first - 1 : Nat) := by omega
  rw [linesBetween, slice, hstart, clampBound_natCast_eq_min, clampBound_natCast_eq_min,
    List.drop_take]
  obtain hle | hlt := Nat.le_total (first - 1) (lines text.toList).length
  · rw [Nat.min_eq_left hle]
    congr 2
    rw [List.take_eq_take_iff, List.length_drop]
    omega
  · rw [List.drop_eq_nil_of_le (Nat.le_min.2 ⟨hlt, le_rfl⟩), List.drop_eq_nil_of_le hlt,
      List.take_nil, List.take_nil]

/-- Lines are told apart by the text they make. -/
theorem joinLines_inj {ls ls' : List (List Char)} (hne : ls ≠ []) (hne' : ls' ≠ [])
    (hls : ∀ l ∈ ls, '\n' ∉ l) (hls' : ∀ l ∈ ls', '\n' ∉ l) (h : joinLines ls = joinLines ls') :
    ls = ls' := by
  calc ls = lines (joinLines ls) := (pieces_joinPieces hne hls).symm
    _ = lines (joinLines ls') := congrArg lines h
    _ = ls' := pieces_joinPieces hne' hls'

/-! ## What follows a line in progress -/

/-- Different texts that do not begin alike do not have the same two first lines, whatever stands
before them on the first. -/
theorem take_lines_ne {line cs ds : List Char} {k : Nat} (hline : '\n' ∉ line)
    (hparted : Parted cs ds) (hne : cs ≠ ds) (hk : 2 ≤ k) :
    (lines (line ++ cs)).take k ≠ (lines (line ++ ds)).take k := by
  intro h
  have hheads : cs.takeWhile (· ≠ '\n') = ds.takeWhile (· ≠ '\n') := by
    have h := congrArg List.head? h
    rw [List.head?_take, List.head?_take, if_neg (by omega), if_neg (by omega),
      head?_lines hline, head?_lines hline] at h
    exact List.append_cancel_left (Option.some.inj h)
  have hcounts : min k (lineFeeds cs + 1) = min k (lineFeeds ds + 1) := by
    have h := congrArg List.length h
    simpa [length_lines, lineFeeds, List.count_eq_zero_of_not_mem hline] using h
  -- Where one of them is empty the other begins with a line feed, and so has a line more.
  have hfeed {c : Char} {cs : List Char} (h : [] = (c :: cs).takeWhile (· ≠ '\n')) :
      1 ≤ lineFeeds (c :: cs) := by
    by_cases hc : c = '\n'
    · simp [hc, lineFeeds]
    · simp [hc] at h
  cases cs with
  | nil =>
    cases ds with
    | nil => exact hne rfl
    | cons d ds =>
      have hd := hfeed hheads
      have hnil : lineFeeds [] = 0 := rfl
      omega
  | cons c cs =>
    cases ds with
    | nil =>
      have hc := hfeed hheads.symm
      have hnil : lineFeeds [] = 0 := rfl
      omega
    | cons d ds =>
      have hcd : c ≠ d := fun hcd => hparted c rfl (congrArg some hcd.symm)
      simp only [List.takeWhile_cons] at hheads
      grind

/-- A line in progress, then what changes, then the common back: of the two texts as many lines as
the longer change takes are not the same. -/
theorem take_lines_ne_of_parted {line mid mid' back : List Char} (hline : '\n' ∉ line)
    (hparted : Parted (mid ++ back) (mid' ++ back)) (hne : mid ≠ mid') {k : Nat}
    (hk : k = max (lineFeeds mid + 1) (lineFeeds mid' + 1)) :
    (lines (line ++ (mid ++ back))).take k ≠ (lines (line ++ (mid' ++ back))).take k := by
  intro h
  -- With equally many lines the first ones differ; otherwise there are at least two.
  by_cases hfeeds : lineFeeds mid = lineFeeds mid'
  · obtain ⟨line', below, hback⟩ := lines_eq_cons back
    have hline' : '\n' ∉ line' := not_mem_of_mem_lines (hback ▸ List.mem_cons_self)
    refine head?_lines_ne hline hline' hfeeds hparted.of_append hne ?_
    have h := congrArg List.head? h
    rwa [List.head?_take, List.head?_take, if_neg (by omega), if_neg (by omega),
      lines_between_back hback hline', lines_between_back hback hline',
      List.head?_append_of_ne_nil, List.head?_append_of_ne_nil] at h
    · exact List.cons_ne_nil _ _
    · exact List.cons_ne_nil _ _
  · refine take_lines_ne hline hparted ?_ (by omega) h
    exact fun h => hne (List.append_cancel_right h)

/-! ## The range and what is around it -/

/-- The number of lines of the text that has more of them. -/
def maxLineCount (before after : String) : Nat :=
  max (lines before.toList).length (lines after.toList).length

/-- A range of changed lines lies within two texts: they agree on the lines above it and, counted
from their ends, on those below it, and what it holds of them are their lines within it, which
differ. -/
structure ChangeRange.Frames (r : ChangeRange) (before after : String) : Prop where
  one_le : 1 ≤ r.firstLine
  ordered : r.firstLine ≤ r.lastLine
  within : r.lastLine ≤ maxLineCount before after
  above : (lines before.toList).take (r.firstLine - 1) = (lines after.toList).take (r.firstLine - 1)
  below : (lines before.toList).rtake (maxLineCount before after - r.lastLine) =
    (lines after.toList).rtake (maxLineCount before after - r.lastLine)
  before_eq : r.before =
    String.ofList (joinLines (((lines before.toList).take r.lastLine).drop (r.firstLine - 1)))
  after_eq : r.after =
    String.ofList (joinLines (((lines after.toList).take r.lastLine).drop (r.firstLine - 1)))
  differ : r.before ≠ r.after

/-- The range of changed lines of two different texts lies within them. -/
theorem ChangeRange.frames_of_between? {r : ChangeRange}
    (h : ChangeRange.between? before after = some r) : r.Frames before after := by
  obtain ⟨above, line, mid, mid', back, hline, hbefore, hafter, hparted, -, hne, hfirst, hlast,
    htext, htext'⟩ := between?_cut h
  obtain ⟨line', below, hback⟩ := lines_eq_cons back
  have hline' : '\n' ∉ line' := not_mem_of_mem_lines (hback ▸ List.mem_cons_self)
  obtain ⟨k, hk⟩ : ∃ k, k = max (lineFeeds mid + 1) (lineFeeds mid' + 1) := ⟨_, rfl⟩
  rw [← hk] at hlast
  have hcount (cs : List Char) : (above ++ lines (line ++ (cs ++ back))).length =
      above.length + (lineFeeds cs + 1) + below.length := by
    rw [lines_between_back hback hline', List.length_append, List.length_append,
      length_lines_between hline hline', ← Nat.add_assoc above.length]
  have hmax : maxLineCount before after = above.length + k + below.length := by
    rw [maxLineCount, hbefore, hafter, hcount, hcount]
    omega
  have hfirst_le : 1 ≤ r.firstLine := by omega
  have hslice (cs : List Char) :
      ((above ++ lines (line ++ (cs ++ back))).take r.lastLine).drop (r.firstLine - 1) =
        (lines (line ++ (cs ++ back))).take k := by
    rw [hlast, hfirst, Nat.add_sub_cancel, List.take_length_add_append, List.drop_left]
  rw [linesBetween_eq _ hfirst_le] at htext htext'
  refine ⟨hfirst_le, by omega, by omega, ?_, ?_, htext, htext', ?_⟩
  · rw [hbefore, hafter, hfirst, Nat.add_sub_cancel, List.take_left, List.take_left]
  · have hbelow : maxLineCount before after - r.lastLine = below.length := by omega
    have hrtake (cs : List Char) :
        (above ++ lines (line ++ (cs ++ back))).rtake below.length = below := by
      rw [List.rtake, hcount, Nat.add_sub_cancel, lines_between_back hback hline',
        ← List.append_assoc]
      exact List.drop_left' (by rw [List.length_append, length_lines_between hline hline'])
    rw [hbefore, hafter, hbelow, hrtake, hrtake]
  · rw [htext, htext', hbefore, hafter, hslice, hslice]
    have hmem (cs : List Char) : ∀ l ∈ (lines cs).take k, '\n' ∉ l := fun l hl =>
      not_mem_of_mem_lines (List.mem_of_mem_take hl)
    have hcons (cs : List Char) : (lines cs).take k ≠ [] := by
      rw [Ne, List.take_eq_nil_iff]
      rintro (h | h)
      · omega
      · cases h
    intro h
    exact take_lines_ne_of_parted hline hparted hne hk
      (joinLines_inj (hcons _) (hcons _) (hmem _) (hmem _) (String.ofList_injective h))

/-- Equal texts have no range of changed lines, and only they. The range of any others lies within
them; where they have equally many line feeds it begins and ends with the first and the last line on
which they differ. -/
theorem ChangeRange.between?_frames (before after : String) :
    (ChangeRange.between? before after = none ↔ before = after) ∧
      ∀ r ∈ ChangeRange.between? before after, r.Frames before after ∧
        (lineFeeds before.toList = lineFeeds after.toList →
          IsLeast (differingLines before after) r.firstLine ∧
            IsGreatest (differingLines before after) r.lastLine) := by
  refine ⟨between?_eq_none_iff, fun r hr => ⟨frames_of_between? hr, fun hfeeds => ?_⟩⟩
  obtain ⟨hleast, hgreatest, -⟩ := between?_exact hfeeds hr
  exact ⟨hleast, hgreatest⟩

/-- The range of a line that is put between two others ends on a line that the first text does not
have; that of two lines that are replaced has the line between them. -/
theorem ChangeRange.between?_inserted_replaced :
    (⟨2, 3, "c", "b\nc"⟩ : ChangeRange).Frames "a\nc" "a\nb\nc" ∧
      (⟨2, 4, "b\nc\nd", "B\nc\nD"⟩ : ChangeRange).Frames "a\nb\nc\nd" "a\nB\nc\nD" ∧
      IsLeast (differingLines "a\nb\nc\nd" "a\nB\nc\nD") 2 ∧
      IsGreatest (differingLines "a\nb\nc\nd" "a\nB\nc\nD") 4 := by
  have hinserted : ChangeRange.between? "a\nc" "a\nb\nc" = some ⟨2, 3, "c", "b\nc"⟩ := by
    decide +kernel
  have hreplaced : ChangeRange.between? "a\nb\nc\nd" "a\nB\nc\nD" =
      some ⟨2, 4, "b\nc\nd", "B\nc\nD"⟩ := by
    decide +kernel
  have hfeeds : lineFeeds "a\nb\nc\nd".toList = lineFeeds "a\nB\nc\nD".toList := by
    decide +kernel
  obtain ⟨-, hinside⟩ := between?_frames "a\nc" "a\nb\nc"
  obtain ⟨-, hinside'⟩ := between?_frames "a\nb\nc\nd" "a\nB\nc\nD"
  obtain ⟨hframes, -⟩ := hinside _ (Option.mem_def.2 hinserted)
  obtain ⟨hframes', hexact⟩ := hinside' _ (Option.mem_def.2 hreplaced)
  obtain ⟨hleast, hgreatest⟩ := hexact hfeeds
  exact ⟨hframes, hframes', hleast, hgreatest⟩

end Sabotage.Text
