import Sabotage.Proofs.Records
import Sabotage.Proofs.Tokens

/-!
# Records as lines

What the strict rules read, the lenient ones read as the same value (`Json.read_of_readBy`). A value
laid out as a record holds no character below the blank, so none that ends a line
(`Json.isInline_renderAt`). So the record of an entry is one line, which stripping does not change
and which is read as the value of the entry (`HistoryEntry.read_record`).
-/

namespace Sabotage

open Text

/-- Nothing is trimmed from a list whose ends stay. -/
theorem Text.trimBy_eq_self {α : Type} {p : α → Bool} {first last : α} {inner : List α}
    (hfirst : p first = false) (hlast : p last = false) :
    trimBy p (first :: (inner ++ [last])) = first :: (inner ++ [last]) := by
  rw [trimBy, List.dropWhile_cons_of_neg (ne_true_of_eq_false hfirst), ← List.cons_append,
    List.reverse_append, List.reverse_singleton, List.singleton_append,
    List.dropWhile_cons_of_neg (ne_true_of_eq_false hlast), List.reverse_cons, List.reverse_reverse]

namespace Json

/-! ## Lenient reading -/

namespace Reader
variable {strict : Bool}

/-- A code unit that the strict rules take is taken. -/
theorem unitSign?_lenient {unit : Nat} {rest : List Char} {r : Sign × List Char}
    (h : unitSign? strict unit rest = some r) : unitSign? false unit rest = some r := by
  rw [unitSign?] at h ⊢
  split
  · next hpair => simpa only [hpair] using h
  · next hpair =>
    simp only [hpair] at h
    split at h
    · next hhalf =>
      split at h
      · cases h
      · rw [if_pos hhalf]
        exact h
    · next hhalf =>
      rw [if_neg hhalf]
      exact h

/-- A quoted text that the strict rules read is read. -/
theorem string_lenient {fuel : Nat} {done : List Sign} {cs : List Char}
    {r : Spelling × List Char} (h : string strict fuel done cs = .ok r) :
    string false fuel done cs = .ok r := by
  induction fuel generalizing done cs with
  | zero => cases h
  | succ fuel ih =>
    cases cs with
    | nil => cases h
    | cons c rest =>
      rw [string.eq_def] at h ⊢
      simp only at h ⊢
      split at h
      · next hquote =>
        rw [if_pos hquote]
        exact h
      · next hquote =>
        rw [if_neg hquote]
        split at h
        · next hback =>
          rw [if_pos hback]
          split at h
          · split at h
            · split at h
              · next hsign =>
                simp only [unitSign?_lenient hsign]
                exact ih h
              · cases h
            · cases h
          · split at h
            · exact ih h
            · cases h
          · cases h
        · next hback =>
          rw [if_neg hback]
          split at h
          · cases h
          · next hvisible =>
            rw [if_neg hvisible]
            exact ih h

/-- A number that the strict rules read is read. -/
theorem numeral_lenient {negative : Bool} {cs : List Char} {r : Json × List Char}
    (h : numeral strict negative cs = .ok r) : numeral false negative cs = .ok r := by
  rw [numeral] at h ⊢
  split at h
  · cases h
  · next hwhole =>
    split at h
    · cases h
    · simp only [Bool.false_and, Bool.false_eq_true, if_false]
      exact h

/-- A value in no level that the strict rules read is read. -/
theorem scalar_lenient {cs : List Char} {r : Json × List Char}
    (h : scalar strict cs = .ok r) : scalar false cs = .ok r := by
  rw [scalar.eq_def] at h ⊢
  split at h
  · split at h
    · next hstring =>
      simp only [string_lenient hstring]
      exact h
    · cases h
  · split at h
    · exact h
    · exact numeral_lenient h
  all_goals first | exact h | exact numeral_lenient h

/-- A name that the strict rules read is read. -/
theorem name_lenient {cs : List Char} {r : Spelling × List Char}
    (h : name strict cs = .ok r) : name false cs = .ok r := by
  rw [name.eq_def] at h ⊢
  split at h
  · split at h
    · next hstring =>
      simp only [string_lenient hstring]
      exact h
    · cases h
  · cases h

/-- What is read from some place with so much fuel is read by the lenient rules, in as many levels
or more. -/
structure LenientFrom (strict : Bool) (fuel : Nat) : Prop where
  value : ∀ {levels more cs r}, levels ≤ more → value strict fuel levels cs = .ok r →
    Reader.value false fuel more cs = .ok r
  items : ∀ {levels more done cs r}, levels ≤ more → items strict fuel levels done cs = .ok r →
    Reader.items false fuel more done cs = .ok r
  members : ∀ {levels more done cs r}, levels ≤ more →
    members strict fuel levels done cs = .ok r → Reader.members false fuel more done cs = .ok r

section
variable {strict : Bool} {fuel levels more : Nat} {cs : List Char}
  (ih : LenientFrom strict fuel) (hle : levels ≤ more)
include ih hle

/-- A value whose parts are read is read. -/
theorem value_lenient {r : Json × List Char} (h : value strict (fuel + 1) levels cs = .ok r) :
    value false (fuel + 1) more cs = .ok r := by
  rw [value.eq_def] at h ⊢
  simp only at h ⊢
  split at h
  · split at h
    · next hskip =>
      simp only [hskip]
      exact h
    · cases h
    · next hopen =>
      -- Where a level is left to the strict reader, one is left to the lenient one.
      split
      · next hclose => exact absurd hclose (hopen _)
      · cases hle
      · exact ih.items (Nat.le_of_succ_le_succ hle) h
  · split at h
    · next hskip =>
      simp only [hskip]
      exact h
    · cases h
    · next hopen =>
      split
      · next hclose => exact absurd hclose (hopen _)
      · cases hle
      · exact ih.members (Nat.le_of_succ_le_succ hle) h
  · exact scalar_lenient h

/-- Items are read if the first of them is, and those after it. -/
theorem items_lenient {done : List Json} {r : Json × List Char}
    (h : items strict (fuel + 1) levels done cs = .ok r) :
    items false (fuel + 1) more done cs = .ok r := by
  rw [items.eq_def] at h ⊢
  simp only at h ⊢
  split at h
  · cases h
  · next hv =>
    simp only [ih.value hle hv]
    split at h
    · exact ih.items hle h
    · exact h
    · cases h

/-- Fields are read if the first of them is, and those after it. -/
theorem members_lenient {done : Fields} {r : Json × List Char}
    (h : members strict (fuel + 1) levels done cs = .ok r) :
    members false (fuel + 1) more done cs = .ok r := by
  rw [members.eq_def] at h ⊢
  simp only at h ⊢
  split at h
  · cases h
  · next hname =>
    simp only [name_lenient hname]
    split at h
    · cases h
    · next hv =>
      simp only [ih.value hle hv]
      split at h
      · exact ih.members hle h
      · exact h
      · cases h

end

/-- Whatever the strict rules read is read, by the recursion of the reader. -/
theorem lenientFrom (strict : Bool) (fuel : Nat) : LenientFrom strict fuel := by
  induction fuel with
  | zero => exact ⟨fun _ => nofun, fun _ => nofun, fun _ => nofun⟩
  | succ fuel ih =>
    exact ⟨fun hle => value_lenient ih hle, fun hle => items_lenient ih hle,
      fun hle => members_lenient ih hle⟩

end Reader

/-- What is read by any rules of few enough levels is read by the lenient ones. -/
theorem read_of_readBy {rules : Rules} (hlevels : rules.levels ≤ levelLimit) {s : String} {j : Json}
    (h : readBy rules s = .ok j) : read s = .ok j := by
  rw [readBy] at h
  rw [read, readBy]
  split at h
  · cases h
  · next hread =>
    simp only [Rules.lenient, (Reader.lenientFrom _ _).value hlevels hread]
    exact h

/-! ## No line ends in a record -/

/-- Whether a character goes on in a line: none below the blank does. -/
def isInline (c : Char) : Bool :=
  0x20 ≤ c.toNat

/-- Figures go on in a line. -/
theorem isInline_of_isFigure {c : Char} (h : Decimal.isFigure c) : isInline c := by
  rw [Decimal.isFigure, Bool.or_eq_true, Char.isDigit_iff_toNat] at h
  rcases h with hdigit | hsign
  · have hzero : '0'.toNat = 48 := rfl
    rw [isInline, decide_eq_true_iff]
    omega
  · simp only [List.contains_iff_mem, List.mem_cons, List.not_mem_nil, or_false] at hsign
    rcases hsign with rfl | rfl | rfl | rfl | rfl | rfl | rfl | rfl <;> rfl

/-- An escape goes on in a line. -/
theorem isInline_unitEscape (n : Nat) : ∀ c ∈ unitEscape n, isInline c := by
  have hdigit : ∀ d < 16, isInline (digitChar d) := by decide
  simp only [unitEscape, hex4, List.map_cons, List.map_nil, List.forall_mem_cons,
    List.not_mem_nil, false_imp_iff, implies_true, and_true]
  exact ⟨rfl, rfl, hdigit _ (Nat.mod_lt _ (by decide)), hdigit _ (Nat.mod_lt _ (by decide)),
    hdigit _ (Nat.mod_lt _ (by decide)), hdigit _ (Nat.mod_lt _ (by decide))⟩

/-- A character that ends a line is quoted as an escape. -/
theorem isInline_quotedChar (c : Char) : ∀ x ∈ quotedChar false c, isInline x := by
  rw [quotedChar.eq_def]
  split
  any_goals exact List.all_eq_true.1 rfl
  split
  · exact isInline_unitEscape _
  · next hvisible => simpa [isInline] using hvisible

/-- A quoted text goes on in a line. -/
theorem isInline_quote (s : Spelling) : ∀ c ∈ charsOf (quote false s), isInline c := by
  have hsign : ∀ t ∈ s.signs, ∀ c ∈ (quotedSign false t).map Sign.legible, isInline c := by
    intro t _
    cases t with
    | char c =>
      rw [quotedSign, map_legible_ofChars]
      exact isInline_quotedChar c
    | half u => exact List.forall_mem_singleton.2 rfl
  simp only [charsOf, quote, List.map_cons, List.map_append, List.map_flatMap, List.map_nil,
    List.cons_append, List.forall_mem_cons, List.forall_mem_append, List.mem_flatMap]
  refine ⟨rfl, ?_, rfl, List.forall_mem_nil _⟩
  rintro c ⟨t, ht, hc⟩
  exact hsign t ht c hc

/-- A float goes on in a line. -/
theorem isInline_floatText (x : Float) : ∀ c ∈ (floatText .record x).toList, isInline c := by
  rw [floatText]
  split
  · rw [Decimal.renderFinite, String.toList_ofList]
    refine List.forall_mem_append.2 ⟨?_, fun c hc => isInline_of_isFigure ?_⟩
    · split <;> exact List.all_eq_true.1 rfl
    · exact Decimal.isFigure_render _ _ c hc
  · have hnull : (!Style.record.spellsInfinities) = true := rfl
    rw [if_pos hnull]
    exact List.all_eq_true.1 rfl

/-- Texts with a comma between each two go on in a line if each of them does. -/
theorem isInline_intercalate {texts : List Spelling}
    (h : ∀ t ∈ texts, ∀ c ∈ charsOf t, isInline c) :
    ∀ c ∈ charsOf (Spelling.intercalate "," texts), isInline c := by
  induction texts with
  | nil => exact List.forall_mem_nil _
  | cons t ts ih =>
    obtain ⟨ht, hts⟩ := List.forall_mem_cons.1 h
    cases ts with
    | nil => rwa [Spelling.intercalate_singleton]
    | cons u us =>
      rw [charsOf_intercalate_cons_cons]
      exact List.forall_mem_append.2
        ⟨ht, List.forall_mem_append.2 ⟨List.forall_mem_singleton.2 rfl, ih hts⟩⟩

/-- Texts between brackets go on in a line if each of them does. -/
theorem isInline_bracketed {texts : List Spelling} (level : Nat) {opening closing : String}
    (hopening : opening.toList.all isInline) (hclosing : closing.toList.all isInline)
    (h : ∀ t ∈ texts, ∀ c ∈ charsOf t, isInline c) :
    ∀ c ∈ charsOf (bracketed .record level opening closing texts), isInline c := by
  cases texts with
  | nil =>
    rw [bracketed, charsOf_append, charsOf_ofString, charsOf_ofString]
    exact List.forall_mem_append.2 ⟨List.all_eq_true.1 hopening, List.all_eq_true.1 hclosing⟩
  | cons t ts =>
    rw [Reader.charsOf_bracketed_cons]
    simp only [List.forall_mem_append]
    exact ⟨List.all_eq_true.1 hopening, List.forall_mem_nil _, isInline_intercalate h,
      List.forall_mem_nil _, List.all_eq_true.1 hclosing⟩

/-- Items are laid out one by one. -/
theorem renderItems_eq_map (style : Style) (level : Nat) (xs : List Json) :
    renderItems style level xs = xs.map (renderAt style level) := by
  induction xs with
  | nil => rfl
  | cons x xs ih => rw [renderItems, ih, List.map_cons]

/-- Fields are laid out one by one. -/
theorem renderFields_eq_map (style : Style) (level : Nat) (fs : Fields) :
    renderFields style level fs = fs.map fun f =>
      quote style.asciiOnly f.1 ++ style.nameSeparator ++ renderAt style level f.2 := by
  induction fs with
  | nil => rfl
  | cons f fs ih => rw [renderFields, ih, List.map_cons]

/-- A record goes on in a line. -/
theorem isInline_renderAt {strict finite : Bool} {levels : Nat} {j : Json}
    (h : Sound strict finite levels j) (level : Nat) :
    ∀ c ∈ charsOf (renderAt .record level j), isInline c := by
  induction h generalizing level with
  | null => exact List.all_eq_true.1 rfl
  | bool b => cases b <;> exact List.all_eq_true.1 rfl
  | int h =>
    rw [renderAt, charsOf_ofString]
    exact fun c hc => isInline_of_isFigure ((Decimal.isFigure_toString _).1 c hc)
  | float h =>
    rw [renderAt, charsOf_ofString]
    exact isInline_floatText _
  | str h => exact isInline_quote _
  | noItems => exact List.all_eq_true.1 rfl
  | arr h ih =>
    rw [renderAt, renderItems_eq_map]
    exact isInline_bracketed level rfl rfl
      (List.forall_mem_map.2 fun x hx => ih x hx (level + 1))
  | noFields => exact List.all_eq_true.1 rfl
  | obj distinct names values ih =>
    rw [renderAt, renderFields_eq_map]
    refine isInline_bracketed level rfl rfl (List.forall_mem_map.2 fun f hf => ?_)
    rw [charsOf_append, charsOf_append, charsOf_ofString]
    simp only [List.forall_mem_append]
    exact ⟨⟨isInline_quote f.1, List.forall_mem_singleton.2 rfl⟩, ih f hf (level + 1)⟩

end Json

namespace HistoryEntry
variable {e : HistoryEntry}

/-! ## Records -/

/-- The characters of a record. -/
theorem toList_record (e : HistoryEntry) :
    e.record.toList = Json.charsOf (Json.renderAt .record 0 e.toJson) :=
  String.toList_ofList

/-- No line ends in the record of an entry. -/
theorem isInline_record (h : e.Lasting) : ∀ c ∈ e.record.toList, Json.isInline c := by
  rw [toList_record]
  exact Json.isInline_renderAt h.sound 0

/-- The record of an entry stands between braces. -/
theorem exists_braces (e : HistoryEntry) :
    ∃ inner, e.record.toList = '\x7b' :: (inner ++ ['\x7d']) := by
  rw [toList_record, toJson, Json.renderAt, Json.renderFields, Json.Reader.charsOf_bracketed_cons]
  exact ⟨_, by simp only [← List.append_assoc]; rfl⟩

/-- The record of an entry is read as the value of the entry. -/
theorem read_record (h : e.Lasting) : Json.read e.record = .ok e.toJson := by
  have hstrict : Json.readBy .record e.record = .ok e.toJson :=
    Json.readBy_renderText Json.Style.faithful_record h.sound
  exact Json.read_of_readBy (by decide) hstrict

/-- Stripping a record changes nothing. -/
theorem strip_record (e : HistoryEntry) : strip e.record = e.record := by
  obtain ⟨inner, htext⟩ := e.exists_braces
  rw [strip, stripChars, htext, trimBy_eq_self (by decide) (by decide), ← htext,
    String.ofList_toList]

end HistoryEntry

end Sabotage
