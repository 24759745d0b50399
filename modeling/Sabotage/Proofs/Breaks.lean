import Mathlib.Data.List.Chain
import Sabotage.Text.Bytes
import Sabotage.Text.LineEnding
import Sabotage.Text.Lines

/-!
# Line breaks, in bytes and in texts

A text is edited as bytes and brought to a convention of line breaks as characters. `Mark` is what
both views have in common: whether a byte or a character is a carriage return, a line feed, or
neither. How many line feeds there are, whether one stands at the end, and which marks stand side
by side is the same for a text and for its bytes (`count_marks_ofString`,
`getLast?_marks_ofString`, `isChain_marks_ofString`).

That no carriage return stands before a line feed (`Mark.Apart`), and that one stands before each
line feed (`Mark.Paired`), are both said of neighbouring marks. The first kind of text is left
alone by `toLf` (`toLf_eq_self`), the second by `toLf` with `toCrlf` after it
(`toCrlf_toLf_eq_self`).
-/

namespace Sabotage

/-- What a byte or a character is for the lines of a text. -/
inductive Mark where
  | carriageReturn
  | lineFeed
  /-- No line break. -/
  | plain
  deriving DecidableEq, Repr

namespace Mark

/-- The mark of a byte. -/
def ofByte (b : UInt8) : Mark :=
  if b = 13 then .carriageReturn else if b = 10 then .lineFeed else .plain

/-- The mark of a character. -/
def ofChar (c : Char) : Mark :=
  if c = '\r' then .carriageReturn else if c = '\n' then .lineFeed else .plain

/-- Neighbours that are not a carriage return before a line feed. -/
def Apart (a b : Mark) : Prop :=
  a = .carriageReturn → b ≠ .lineFeed

/-- Neighbours of which the second is a line feed only after a carriage return. -/
def Paired (a b : Mark) : Prop :=
  b = .lineFeed → a = .carriageReturn

/-- Only the line feed has its mark. -/
@[simp] theorem ofByte_eq_lineFeed {b : UInt8} : ofByte b = .lineFeed ↔ b = 10 := by
  rw [ofByte]
  grind

/-- Only the line feed has its mark. -/
@[simp] theorem ofChar_eq_lineFeed {c : Char} : ofChar c = .lineFeed ↔ c = '\n' := by
  rw [ofChar]
  grind

/-- Only the carriage return has its mark. -/
@[simp] theorem ofChar_eq_carriageReturn {c : Char} : ofChar c = .carriageReturn ↔ c = '\r' := by
  rw [ofChar]
  grind

/-- Two marks that are plain are apart. -/
theorem apart_plain : Apart .plain .plain := nofun

/-- Two marks that are plain are paired. -/
theorem paired_plain : Paired .plain .plain := nofun

end Mark

namespace Bytes
variable {bytes other : Bytes}

/-- The marks of a byte string. -/
def marks (bytes : Bytes) : List Mark :=
  bytes.map Mark.ofByte

/-- Whether a byte string has no line break. -/
def isUnbroken (bytes : Bytes) : Bool :=
  bytes.all (Mark.ofByte · == .plain)

/-- Whether a byte string is not empty and has no line break at either end. -/
def isTrimmed (bytes : Bytes) : Bool :=
  bytes.head?.any (Mark.ofByte · == .plain) && bytes.getLast?.any (Mark.ofByte · == .plain)

/-- Nothing has no marks. -/
@[simp] theorem marks_nil : marks [] = [] := rfl

/-- The marks of two byte strings follow one another. -/
@[simp] theorem marks_append (a b : Bytes) : marks (a ++ b) = marks a ++ marks b :=
  List.map_append

/-- A byte string without a line break has plain marks only. -/
theorem isUnbroken_iff : isUnbroken bytes ↔ ∀ m ∈ marks bytes, m = .plain := by
  simp [isUnbroken, marks]

/-- Two byte strings without a line break have none together. -/
@[simp] theorem isUnbroken_append : isUnbroken (bytes ++ other) ↔
    isUnbroken bytes ∧ isUnbroken other := by
  simp [isUnbroken]

/-- A byte string that is trimmed has plain marks at its ends. -/
theorem isTrimmed_iff :
    isTrimmed bytes ↔ (marks bytes).head? = some .plain ∧ (marks bytes).getLast? = some .plain := by
  simp only [isTrimmed, marks, List.head?_map, List.getLast?_map, Bool.and_eq_true]
  constructor
  · rintro ⟨hhead, hlast⟩
    obtain ⟨a, ha, hplain⟩ := (Option.any_eq_true _ _).1 hhead
    obtain ⟨b, hb, hplain'⟩ := (Option.any_eq_true _ _).1 hlast
    simp_all
  · rintro ⟨hhead, hlast⟩
    obtain ⟨a, ha, hplain⟩ := Option.map_eq_some_iff.1 hhead
    obtain ⟨b, hb, hplain'⟩ := Option.map_eq_some_iff.1 hlast
    simp [ha, hb, hplain, hplain']

/-- A trimmed byte string is not empty. -/
theorem ne_nil_of_isTrimmed (h : isTrimmed bytes) : bytes ≠ [] := by
  rintro rfl
  cases h

/-- A byte string that is not empty and has no line break is trimmed. -/
theorem isTrimmed_of_isUnbroken (h : isUnbroken bytes) (hne : bytes ≠ []) : isTrimmed bytes := by
  simp only [isUnbroken, List.all_eq_true] at h
  simp [isTrimmed, List.head?_eq_some_head hne, List.getLast?_eq_some_getLast hne,
    h _ (List.head_mem hne), h _ (List.getLast_mem hne)]

/-- Two trimmed byte strings make a trimmed one. -/
theorem isTrimmed_append (h : isTrimmed bytes) (h' : isTrimmed other) :
    isTrimmed (bytes ++ other) := by
  rw [isTrimmed_iff] at h h' ⊢
  simp [List.head?_append, List.getLast?_append, h, h']

/-- A byte string without a line break has no line feed. -/
theorem lineFeeds_eq_zero (h : isUnbroken bytes) : lineFeeds bytes = 0 := by
  refine List.count_eq_zero.2 fun hmem => ?_
  have := List.all_eq_true.1 h 10 hmem
  cases this

/-- Line feeds are counted by their marks. -/
theorem count_marks (bytes : Bytes) : (marks bytes).count .lineFeed = lineFeeds bytes := by
  rw [marks, lineFeeds, List.count, List.count, List.countP_map]
  exact List.countP_congr fun b _ => by simp

/-! ## Neighbouring marks -/

/-- The marks of a byte string, and a plain one before them, are related to their neighbours. -/
def Chained (R : Mark → Mark → Prop) (bytes : Bytes) : Prop :=
  (Mark.plain :: marks bytes).IsChain R

section
variable {R : Mark → Mark → Prop}

/-- A byte string without a line break is chained by each relation of plain marks. -/
theorem chained_of_isUnbroken (hR : R .plain .plain) (h : isUnbroken bytes) : Chained R bytes := by
  rw [Chained, List.eq_replicate_of_mem (isUnbroken_iff.1 h), ← List.replicate_succ]
  exact List.isChain_replicate_of_rel _ hR

/-- A trimmed byte string is chained when its marks are. -/
theorem chained_of_isChain (hR : R .plain .plain) (ht : isTrimmed bytes)
    (h : (marks bytes).IsChain R) : Chained R bytes := by
  refine List.isChain_cons.2 ⟨fun y hy => ?_, h⟩
  rw [(isTrimmed_iff.1 ht).1] at hy
  cases hy
  exact hR

/-- What follows a trimmed byte string may be chained apart from it. -/
theorem chained_append (ht : isTrimmed bytes) :
    Chained R (bytes ++ other) ↔ Chained R bytes ∧ Chained R other := by
  obtain ⟨-, hlast⟩ := isTrimmed_iff.1 ht
  have hcons : (Mark.plain :: marks bytes).getLast? = some .plain := by
    rw [List.getLast?_cons, hlast]
    rfl
  rw [Chained, marks_append, ← List.cons_append, List.isChain_append, hcons, Chained, Chained,
    List.isChain_cons (l := marks other)]
  simp only [Option.mem_some_iff, forall_eq']
  tauto

end

/-- A byte string quotes another when its breaks stand side by side only as those of the other
do. -/
def Quotes (bytes source : Bytes) : Prop :=
  ∀ R : Mark → Mark → Prop, R .plain .plain → Chained R source → Chained R bytes

/-- A byte string without a line break quotes every other one. -/
theorem quotes_of_isUnbroken {source : Bytes} (h : isUnbroken bytes) : bytes.Quotes source :=
  fun _ hR _ => chained_of_isUnbroken hR h

/-- A trimmed part of a byte string quotes it. -/
theorem quotes_of_part {before after : Bytes} (ht : isTrimmed bytes) :
    bytes.Quotes (before ++ bytes ++ after) := by
  intro R hR hs
  rw [Chained, marks_append, marks_append] at hs
  exact chained_of_isChain hR ht (List.isChain_cons.1 hs).2.left_of_append.right_of_append

/-- What follows a trimmed byte string that quotes a source quotes it with that byte string. -/
theorem Quotes.append {source : Bytes} (h : bytes.Quotes source) (h' : other.Quotes source)
    (ht : isTrimmed bytes) : (bytes ++ other).Quotes source :=
  fun R hR hs => (chained_append ht).2 ⟨h R hR hs, h' R hR hs⟩

end Bytes

/-! ## Texts and their bytes -/

namespace Mark

/-- The marks of the bytes of a character are its own mark; a plain one may be repeated. -/
theorem map_ofByte_utf8EncodeChar (c : Char) :
    ∃ n, (String.utf8EncodeChar c).map ofByte = List.replicate (n + 1) (ofChar c) ∧
      (n = 0 ∨ ofChar c = .plain) := by
  have hval : c.toNat = c.val.toNat := rfl
  have hbyte (n : Nat) (hlow : 128 ≤ n % 256) : ofByte (UInt8.ofNat n) = .plain := by
    have hne (k : UInt8) (hk : k.toNat < 128) : UInt8.ofNat n ≠ k := by
      rintro rfl
      rw [UInt8.toNat_ofNat'] at hk
      omega
    rw [ofByte, if_neg (hne 13 (by decide)), if_neg (hne 10 (by decide))]
  have hchar (h : 127 < c.toNat) : ofChar c = .plain := by
    have hne (k : Char) (hk : k.toNat < 128) : c ≠ k := by
      rintro rfl
      omega
    rw [ofChar, if_neg (hne '\r' (by decide)), if_neg (hne '\n' (by decide))]
  simp only [String.utf8EncodeChar]
  -- One to four bytes; of several all are above the line breaks.
  split
  · next h =>
    have hascii : ∀ n < 128, ofByte (UInt8.ofNat n) = ofChar (Char.ofNat n) := by decide
    have hc := hascii c.toNat (Nat.lt_succ_of_le h)
    rw [Char.ofNat_toNat] at hc
    exact ⟨0, congrArg (fun m => [m]) hc, .inl rfl⟩
  · split
    · rw [hchar (by omega)]
      refine ⟨1, ?_, .inr rfl⟩
      simp only [List.map_cons, List.map_nil]
      rw [hbyte _ (by omega), hbyte _ (by omega)]
      rfl
    · split
      · rw [hchar (by omega)]
        refine ⟨2, ?_, .inr rfl⟩
        simp only [List.map_cons, List.map_nil]
        rw [hbyte _ (by omega), hbyte _ (by omega), hbyte _ (by omega)]
        rfl
      · rw [hchar (by omega)]
        refine ⟨3, ?_, .inr rfl⟩
        simp only [List.map_cons, List.map_nil]
        rw [hbyte _ (by omega), hbyte _ (by omega), hbyte _ (by omega), hbyte _ (by omega)]
        rfl

end Mark

namespace Bytes

/-- The bytes of a character that is no line break are none. -/
theorem isUnbroken_utf8EncodeChar {c : Char} (h : Mark.ofChar c = .plain) :
    isUnbroken (String.utf8EncodeChar c) := by
  obtain ⟨n, hmarks, -⟩ := Mark.map_ofByte_utf8EncodeChar c
  rw [isUnbroken_iff, marks, hmarks, h]
  exact fun m hm => List.eq_of_mem_replicate hm

/-- The bytes of characters, one after the other. -/
theorem ofString_ofList (cs : List Char) :
    ofString (String.ofList cs) = cs.flatMap String.utf8EncodeChar := by
  rw [ofString, ← String.utf8Encode_toList, String.toList_ofList, List.utf8Encode]
  simp

/-- A byte below 128 among those of a character is the character. -/
theorem eq_ofNat_of_mem_utf8EncodeChar {c : Char} {b : UInt8} (hb : b.toNat < 128)
    (h : b ∈ String.utf8EncodeChar c) : c = Char.ofNat b.toNat := by
  have hval : c.toNat = c.val.toNat := rfl
  have hhigh (n : Nat) (hlow : 128 ≤ n % 256) : b ≠ UInt8.ofNat n := by
    rintro rfl
    rw [UInt8.toNat_ofNat'] at hb
    omega
  simp only [String.utf8EncodeChar] at h
  split at h
  · next hone =>
    rw [List.mem_singleton.1 h, UInt8.toNat_ofNat', Nat.mod_eq_of_lt (by omega), ← hval,
      Char.ofNat_toNat]
  · exfalso
    -- Of several bytes all are above.
    split at h
    · simp only [List.mem_cons, List.not_mem_nil, or_false] at h
      rcases h with h | h <;> exact hhigh _ (by omega) h
    · split at h
      · simp only [List.mem_cons, List.not_mem_nil, or_false] at h
        rcases h with h | h | h <;> exact hhigh _ (by omega) h
      · simp only [List.mem_cons, List.not_mem_nil, or_false] at h
        rcases h with h | h | h | h <;> exact hhigh _ (by omega) h

/-- A text without a semicolon has no byte of one. -/
theorem semicolon_not_mem_ofString {s : String} (h : ';' ∉ s.toList) : 59 ∉ ofString s := by
  obtain ⟨cs, rfl⟩ : ∃ cs, s = String.ofList cs := ⟨s.toList, (String.ofList_toList).symm⟩
  rw [ofString_ofList, List.mem_flatMap]
  rintro ⟨c, hc, hb⟩
  have hsemicolon : c = ';' := eq_ofNat_of_mem_utf8EncodeChar (by decide) hb
  exact h (by rwa [String.toList_ofList, ← hsemicolon])

/-- Two texts with the same bytes are the same. -/
theorem ofString_injective : Function.Injective ofString := by
  intro s t h
  have := congrArg toString? h
  rw [toString?_ofString, toString?_ofString] at this
  exact Option.some.inj this

/-- The marks of a text character by character. -/
theorem marks_flatMap (cs : List Char) :
    marks (cs.flatMap String.utf8EncodeChar) =
      cs.flatMap fun c => (String.utf8EncodeChar c).map Mark.ofByte := by
  rw [marks, List.map_flatMap]

/-- A text has as many line feeds as its bytes. -/
theorem lineFeeds_ofString (s : String) : lineFeeds (ofString s) = Text.lineFeeds s.toList := by
  obtain ⟨cs, rfl⟩ : ∃ cs, s = String.ofList cs := ⟨s.toList, (String.ofList_toList).symm⟩
  rw [ofString_ofList, String.toList_ofList, ← count_marks, marks_flatMap, Text.lineFeeds]
  induction cs with
  | nil => rfl
  | cons c cs ih =>
    obtain ⟨n, hmarks, hn⟩ := Mark.map_ofByte_utf8EncodeChar c
    rw [List.flatMap_cons, List.count_append, ih, hmarks, List.count_replicate, List.count_cons]
    by_cases hc : c = '\n'
    · subst hc
      obtain rfl : n = 0 := hn.resolve_right (by decide)
      simp [Nat.add_comm]
    · simp [hc]

/-- A text ends with the mark its bytes end with. -/
theorem getLast?_marks_ofString (s : String) :
    (marks (ofString s)).getLast? = (s.toList.map Mark.ofChar).getLast? := by
  obtain ⟨cs, rfl⟩ : ∃ cs, s = String.ofList cs := ⟨s.toList, (String.ofList_toList).symm⟩
  rw [ofString_ofList, String.toList_ofList, marks_flatMap]
  induction cs with
  | nil => rfl
  | cons c cs ih =>
    obtain ⟨n, hmarks, -⟩ := Mark.map_ofByte_utf8EncodeChar c
    rw [List.flatMap_cons, List.getLast?_append, ih, hmarks, List.map_cons, List.getLast?_cons,
      List.getLast?_replicate]
    cases (cs.map Mark.ofChar).getLast? <;> simp

/-- The bytes of a text have a line break when a character is one. -/
theorem isUnbroken_ofString (s : String) :
    isUnbroken (ofString s) ↔ ∀ c ∈ s.toList, Mark.ofChar c = .plain := by
  obtain ⟨cs, rfl⟩ : ∃ cs, s = String.ofList cs := ⟨s.toList, (String.ofList_toList).symm⟩
  rw [isUnbroken_iff, ofString_ofList, String.toList_ofList, marks_flatMap]
  simp only [List.mem_flatMap, forall_exists_index, and_imp]
  have hmarks (c : Char) (m : Mark) :
      m ∈ (String.utf8EncodeChar c).map Mark.ofByte ↔ m = Mark.ofChar c := by
    obtain ⟨n, hmarks, -⟩ := Mark.map_ofByte_utf8EncodeChar c
    rw [hmarks]
    simp [List.mem_replicate]
  simp only [hmarks]
  exact ⟨fun h c hc => h _ c hc rfl, fun h m c hc hm => hm ▸ h c hc⟩

/-- The neighbouring marks of a text are those of its bytes, but for plain ones. -/
theorem chained_ofString {R : Mark → Mark → Prop} (hR : R .plain .plain) (s : String) :
    Chained R (ofString s) ↔ (Mark.plain :: s.toList.map Mark.ofChar).IsChain R := by
  obtain ⟨cs, rfl⟩ : ∃ cs, s = String.ofList cs := ⟨s.toList, (String.ofList_toList).symm⟩
  rw [Chained, ofString_ofList, String.toList_ofList, marks_flatMap]
  generalize Mark.plain = a
  induction cs generalizing a with
  | nil => exact Iff.rfl
  | cons c cs ih =>
    obtain ⟨n, hmarks, hn⟩ := Mark.map_ofByte_utf8EncodeChar c
    rw [List.flatMap_cons, hmarks, List.map_cons]
    have hrepeat : ∀ n, (n = 0 ∨ Mark.ofChar c = .plain) → ∀ a rest,
        ((a :: List.replicate (n + 1) (Mark.ofChar c)) ++ rest).IsChain R ↔
          (a :: Mark.ofChar c :: rest).IsChain R := by
      intro n hn
      induction n with
      | zero => exact fun a rest => Iff.rfl
      | succ n ihn =>
        intro a rest
        have hplain : Mark.ofChar c = .plain := hn.resolve_left (Nat.succ_ne_zero n)
        rw [List.replicate_succ, List.cons_append, List.cons_append, List.isChain_cons_cons,
          ← List.cons_append, ihn (.inr hplain), List.isChain_cons_cons, List.isChain_cons_cons,
          hplain]
        exact ⟨fun h => ⟨h.1, h.2.2⟩, fun h => ⟨h.1, hR, h.2⟩⟩
    rw [← List.cons_append, hrepeat n hn, List.isChain_cons_cons, ih, ← List.isChain_cons_cons]

end Bytes

/-! ## Conventions of line breaks -/

namespace Text
variable {cs : List Char}

/-- Dropping carriage returns before line feeds keeps the line feeds. -/
theorem lineFeeds_toLf (cs : List Char) : lineFeeds (toLf cs) = lineFeeds cs := by
  fun_induction toLf cs with
  | case1 cs ih => simp_all [lineFeeds]
  | case2 c cs _ ih => simp_all [lineFeeds, List.count_cons]
  | case3 => rfl

/-- Putting carriage returns before line feeds keeps the line feeds. -/
theorem lineFeeds_toCrlf (cs : List Char) : lineFeeds (toCrlf cs) = lineFeeds cs := by
  fun_induction toCrlf cs with
  | case1 => rfl
  | case2 cs ih => simp_all [lineFeeds]
  | case3 c cs hc ih => simp_all [lineFeeds]

/-- A convention keeps the line feeds of a text. -/
theorem lineFeeds_normalizeChars (e : LineEnding) (cs : List Char) :
    lineFeeds (normalizeChars e cs) = lineFeeds cs := by
  cases e with
  | lf => exact lineFeeds_toLf cs
  | crlf => rw [normalizeChars, lineFeeds_toCrlf, lineFeeds_toLf]

/-- Dropping carriage returns before line feeds keeps the last character. -/
theorem getLast?_toLf (cs : List Char) : (toLf cs).getLast? = cs.getLast? := by
  fun_induction toLf cs with
  | case1 cs ih => simp [List.getLast?_cons, ih]
  | case2 c cs _ ih => simp [List.getLast?_cons, ih]
  | case3 => rfl

/-- Putting carriage returns before line feeds keeps the last character. -/
theorem getLast?_toCrlf (cs : List Char) : (toCrlf cs).getLast? = cs.getLast? := by
  fun_induction toCrlf cs with
  | case1 => rfl
  | case2 cs ih => simp [List.getLast?_cons, ih]
  | case3 c cs hc ih => simp [List.getLast?_cons, ih]

/-- A convention keeps the last character of a text. -/
theorem getLast?_normalizeChars (e : LineEnding) (cs : List Char) :
    (normalizeChars e cs).getLast? = cs.getLast? := by
  cases e with
  | lf => exact getLast?_toLf cs
  | crlf => rw [normalizeChars, getLast?_toCrlf, getLast?_toLf]

/-- A text ends with a break when its last mark is a line feed. -/
theorem endsWithBreak_iff :
    endsWithBreak cs ↔ (cs.map Mark.ofChar).getLast? = some .lineFeed := by
  simp [endsWithBreak, List.getLast?_map, Option.map_eq_some_iff]

/-- A text without a carriage return before a line feed is left alone. -/
theorem toLf_eq_self (h : (Mark.plain :: cs.map Mark.ofChar).IsChain Mark.Apart) :
    toLf cs = cs := by
  replace h := (List.isChain_cons.1 h).2
  fun_induction toLf cs with
  | case1 cs ih => exact absurd rfl ((List.isChain_cons_cons.1 h).1 rfl)
  | case2 c cs _ ih => rw [ih (List.isChain_cons.1 h).2]
  | case3 => rfl

/-- In a text of the shorter convention no carriage return stands before a line feed. -/
theorem isChain_apart_of_hasCrlf (h : hasCrlf cs = false) :
    (Mark.plain :: cs.map Mark.ofChar).IsChain Mark.Apart := by
  refine List.isChain_cons.2 ⟨fun _ _ => nofun, ?_⟩
  fun_induction hasCrlf cs with
  | case1 => cases h
  | case2 c cs hno ih =>
    refine List.isChain_cons.2 ⟨fun y hy hc => ?_, ih h⟩
    rintro rfl
    cases cs with
    | nil => cases hy
    | cons d rest =>
      have hd : d = '\n' := Mark.ofChar_eq_lineFeed.1 (Option.some.inj hy)
      exact hno rest (Mark.ofChar_eq_carriageReturn.1 hc) (by rw [hd])
  | case3 => exact .nil

/-- Where carriage returns were put before line feeds, one stands before each. -/
theorem isChain_paired_toCrlf (cs : List Char) :
    (Mark.plain :: (toCrlf cs).map Mark.ofChar).IsChain Mark.Paired := by
  generalize Mark.plain = a
  fun_induction toCrlf cs generalizing a with
  | case1 => exact .singleton a
  | case2 cs ih => exact .cons_cons nofun (.cons_cons (fun _ => rfl) (ih .lineFeed))
  | case3 c cs hc ih =>
    exact .cons_cons (fun hfeed => absurd (Mark.ofChar_eq_lineFeed.1 hfeed) hc) (ih _)

/-- Where carriage returns were put before line feeds, no text begins with a line feed. -/
theorem head?_toCrlf (cs : List Char) : (toCrlf cs).head? ≠ some '\n' := by
  fun_cases toCrlf cs <;> simp_all

/-- Carriage returns put before line feeds are dropped again. -/
theorem toLf_toCrlf (cs : List Char) : toLf (toCrlf cs) = cs := by
  fun_induction toCrlf cs with
  | case1 => rfl
  | case2 cs ih => rw [toLf, ih]
  | case3 c cs hc ih =>
    rw [toLf, ih]
    intro rest _ hrest
    exact head?_toCrlf cs (by rw [hrest]; rfl)

/-- A text with a carriage return before each line feed is given back when these are dropped and
put back. -/
theorem toCrlf_toLf_eq_self (h : (Mark.plain :: cs.map Mark.ofChar).IsChain Mark.Paired) :
    toCrlf (toLf cs) = cs := by
  suffices hgen : ∀ cs : List Char, cs.head? ≠ some '\n' →
      (cs.map Mark.ofChar).IsChain Mark.Paired → toCrlf (toLf cs) = cs by
    obtain ⟨hhead, hchain⟩ := List.isChain_cons.1 h
    refine hgen cs (fun hc => ?_) hchain
    exact absurd (hhead .lineFeed (by simp [hc]) rfl) (by decide)
  intro cs hhead h
  fun_induction toLf cs with
  | case1 cs ih =>
    obtain ⟨-, h⟩ := List.isChain_cons_cons.1 h
    obtain ⟨hnext, h⟩ := List.isChain_cons.1 h
    rw [toCrlf, if_pos rfl, ih (fun hc => ?_) h]
    exact absurd (hnext .lineFeed (by simp [hc]) rfl) (by decide)
  | case2 c cs hno ih =>
    obtain ⟨hnext, h⟩ := List.isChain_cons.1 h
    have hc : c ≠ '\n' := fun hc => hhead (by simp [hc])
    rw [toCrlf, if_neg hc, ih (fun hfeed => ?_) h]
    -- A line feed next would stand after a carriage return, which is the other case.
    have hreturn := Mark.ofChar_eq_carriageReturn.1 (hnext .lineFeed (by simp [hfeed]) rfl)
    cases cs with
    | nil => cases hfeed
    | cons d rest => cases hfeed; exact hno rest hreturn rfl
  | case3 => rfl

end Text

end Sabotage
