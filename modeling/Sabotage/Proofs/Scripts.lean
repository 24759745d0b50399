import Mathlib.Data.List.Infix
import Mathlib.Data.List.TakeWhile

/-!
# Scripts

A script is a text cut into tokens, with the blanks before each and after the last. A text is read
from its beginning on, and each time the longest lexeme that begins there is taken (`munch`): a
word, or a mark of the language, also one that no script has a use for. A text is read in one way
(`Reads.unique`), and what is read before a place stays as it is when a parenthesis or a `!` is put
there (`Reads.replace`). So other tokens can be put in place of some of a script
(`Cut.exists_replaced`).
-/

namespace Sabotage

namespace Script

/-! ## Lexemes -/

/-- The ranges of white space and of line terminators, both ends included. -/
def blankRanges : List (Nat × Nat) :=
  [(0x09, 0x0d), (0x20, 0x20), (0xa0, 0xa0), (0x1680, 0x1680), (0x2000, 0x200a), (0x2028, 0x2029),
    (0x202f, 0x202f), (0x205f, 0x205f), (0x3000, 0x3000), (0xfeff, 0xfeff)]

/-- White space and line terminators. -/
def isBlank (c : Char) : Bool :=
  blankRanges.any fun r => r.1 ≤ c.toNat && c.toNat ≤ r.2

/-- The characters, blanks apart, that no word holds. -/
def separators : List Char :=
  ['(', ')', '[', ']', '.', ',', ';', '?', ':', '~', '!', '+', '-', '*', '/', '%', '&', '|', '^',
    '<', '>', '=', '#', '@', '\x22', '\x27', '\x60']

/-- Whether a word can hold a character; escapes in words are written with a backslash and
braces. -/
def isPart (c : Char) : Bool :=
  !isBlank c && !separators.contains c

/-- Whether a word can begin with a character. -/
def isStart (c : Char) : Bool :=
  isPart c && !c.isDigit

/-- The punctuators and what comments begin with, the longest first. -/
def marks : List (List Char) :=
  ["<!--", ">>>=", "...", "===", "!==", "**=", "<<=", ">>=", ">>>", "&&=", "||=", "??=", "<=", ">=",
    "==", "!=", "**", "++", "--", "<<", ">>", "&&", "||", "??", "?.", "+=", "-=", "*=", "/=", "%=",
    "&=", "|=", "^=", "=>", "//", "/*", "(", ")", "[", "]", ".", ";", ",", "<", ">", "+", "-", "*",
    "/", "%", "&", "|", "^", "!", "~", "?", ":", "="].map String.toList

/-- The longest lexeme that a text begins with; nothing when it begins with none. -/
def munch (cs : List Char) : List Char :=
  if cs.head?.any isStart then cs.takeWhile isPart
  else (marks.find? (·.isPrefixOf cs)).getD []

/-- Of two marks that a text begins with, the longer one comes first. -/
theorem marks_longest_first : marks.Pairwise fun m n => n.length ≤ m.length := by
  decide +kernel

/-- Marks have no blanks. -/
theorem isBlank_of_mem_marks : ∀ m ∈ marks, m ≠ [] ∧ m.any isBlank = false := by
  decide +kernel

/-- After its first character no mark has a parenthesis, and one alone has a `!`. -/
theorem mem_tail_marks : ∀ m ∈ marks, '(' ∉ m.tail ∧ ')' ∉ m.tail ∧
    ('!' ∈ m.tail → m = ['<', '!', '-', '-']) := by
  decide +kernel

/-- The characters of a word: one that a word can begin with, and others that it can hold. -/
def IsWord (cs : List Char) : Prop :=
  cs.head?.any isStart = true ∧ cs.all isPart = true

instance (cs : List Char) : Decidable (IsWord cs) :=
  inferInstanceAs (Decidable (_ ∧ _))

variable {c : Char} {cs m t u v rest rest' : List Char}

/-- What a prefix is taken while a property holds is all of it and no more. -/
theorem takeWhile_append_eq_iff {p : Char → Bool} : (t ++ rest).takeWhile p = t ↔
    t.all p = true ∧ rest.head?.any p = false := by
  induction t with
  | nil => cases rest with
    | nil => simp
    | cons c rest => cases h : p c <;> simp [h]
  | cons d t ih => cases h : p d <;> simp [h, ih]

/-- A text begins with no lexeme, or with a character that is no blank. -/
theorem isBlank_of_munch (h : munch (c :: cs) ≠ []) : isBlank c = false := by
  rw [munch] at h
  split at h
  · next hstart =>
    have hpart : isStart c = true := hstart
    simp only [isStart, isPart, Bool.and_eq_true, Bool.not_eq_true'] at hpart
    exact hpart.1.1
  · cases hfind : marks.find? (·.isPrefixOf (c :: cs)) with
    | none => simp [hfind] at h
    | some m =>
      have hbegins : m <+: c :: cs := by simpa using List.find?_some hfind
      obtain ⟨hne, hblank⟩ := isBlank_of_mem_marks m (List.mem_of_find?_eq_some hfind)
      obtain ⟨d, m, rfl⟩ := List.exists_cons_of_ne_nil hne
      rw [← (List.cons_prefix_cons.1 hbegins).1]
      simp only [List.any_cons, Bool.or_eq_false_iff] at hblank
      exact hblank.1

/-- The longest lexeme that begins with a character that begins no word is a mark. -/
theorem munch_mark (hstart : isStart c = false) :
    munch (c :: cs) = (marks.find? (·.isPrefixOf (c :: cs))).getD [] := by
  simp [munch, hstart]

/-- No mark that a text begins with is longer than the lexeme that is taken. -/
theorem length_le_munch (hstart : isStart c = false) (hm : m ∈ marks) (hbegins : m <+: c :: cs) :
    m.length ≤ (munch (c :: cs)).length := by
  rw [munch_mark hstart]
  cases hfind : marks.find? (·.isPrefixOf (c :: cs)) with
  | none => exact absurd (List.isPrefixOf_iff_prefix.2 hbegins) (List.find?_eq_none.1 hfind m hm)
  | some n =>
    obtain ⟨-, before, after, hmarks, hbefore⟩ := List.find?_eq_some_iff_append.1 hfind
    have hlonger := marks_longest_first
    rw [hmarks] at hm hlonger
    rcases List.mem_append.1 hm with hm | hm
    · have hnot := hbefore m hm
      rw [List.isPrefixOf_iff_prefix.2 hbegins] at hnot
      cases hnot
    · rcases List.mem_cons.1 hm with rfl | hm
      · exact Nat.le_refl _
      · exact (List.pairwise_cons.1 (List.pairwise_append.1 hlonger).2.1).1 m hm

/-! ## Places where nothing runs together -/

/-- What can be put behind any text without changing what is read of it: something that begins with
a parenthesis, or with a `!` that is a token by itself and begins no comment. -/
inductive Inert : List Char → Prop
  | opening (cs : List Char) : Inert ('(' :: cs)
  | closing (cs : List Char) : Inert (')' :: cs)
  | negation {c : Char} (cs : List Char) : c ≠ '-' → c ≠ '=' → Inert ('!' :: c :: cs)

/-- What is inert begins with no character of a word. -/
theorem Inert.isPart_head (h : Inert rest) : rest.head?.any isPart = false := by
  cases h <;> rfl

/-- A mark that begins before what is inert ends before it. -/
theorem Inert.length_le (h : Inert rest) (hm : m ∈ marks) (hbegins : m <+: u ++ rest)
    (hu : u ≠ []) : m.length ≤ u.length := by
  by_contra hlong
  obtain ⟨c, u, rfl⟩ := List.exists_cons_of_ne_nil hu
  obtain ⟨hopen, hclose, hneg⟩ := mem_tail_marks m hm
  obtain ⟨v, rfl⟩ : c :: u <+: m :=
    List.prefix_of_prefix_length_le (List.prefix_append _ rest) hbegins (by omega)
  have hv : v <+: rest := by simpa using hbegins
  have hne : v ≠ [] := by
    rintro rfl
    simp at hlong
  obtain ⟨d, v, rfl⟩ := List.exists_cons_of_ne_nil hne
  cases h with
  | opening => simp [(List.cons_prefix_cons.1 hv).1] at hopen
  | closing => simp [(List.cons_prefix_cons.1 hv).1] at hclose
  | negation cs hc _ =>
    -- The character behind the `!` would be the first of the two dashes of the mark.
    obtain ⟨rfl, hv⟩ := List.cons_prefix_cons.1 hv
    have hmark := hneg (by simp)
    rcases u with _ | ⟨e, u⟩
    · obtain ⟨rfl, rfl⟩ : c = '<' ∧ v = ['-', '-'] := by simpa using hmark
      exact hc (List.cons_prefix_cons.1 (List.cons_prefix_cons.1 hv).2).1.symm
    · rcases u with _ | ⟨e', u⟩
      · simp at hmark
      · rcases u with _ | ⟨e'', u⟩ <;> simp at hmark

/-- The longest lexeme that a text begins with is the same when something inert stands behind a
longer part of the text. -/
theorem Inert.munch_eq (h : Inert rest') (ht : t ≠ []) (hmunch : munch (t ++ u ++ rest) = t) :
    munch (t ++ u ++ rest') = t := by
  obtain ⟨c, t, rfl⟩ := List.exists_cons_of_ne_nil ht
  by_cases hstart : isStart c = true
  · have hhead (rest : List Char) : (c :: t ++ u ++ rest).head?.any isStart = true := hstart
    rw [munch, if_pos (hhead _), List.append_assoc] at hmunch ⊢
    obtain ⟨hall, hrest⟩ := takeWhile_append_eq_iff.1 hmunch
    refine takeWhile_append_eq_iff.2 ⟨hall, ?_⟩
    cases u with
    | nil => exact h.isPart_head
    | cons => exact hrest
  · have hstart : isStart c = false := Bool.eq_false_iff.2 hstart
    have hmark (rest : List Char) : munch (c :: t ++ u ++ rest) =
        (marks.find? (·.isPrefixOf (c :: t ++ u ++ rest))).getD [] := munch_mark hstart
    rw [hmark] at hmunch ⊢
    cases hfind : marks.find? (·.isPrefixOf (c :: t ++ u ++ rest)) with
    | none =>
      rw [hfind] at hmunch
      cases hmunch
    | some m =>
      rw [hfind] at hmunch
      obtain rfl : m = c :: t := hmunch
      obtain ⟨-, before, after, hmarks, hbefore⟩ := List.find?_eq_some_iff_append.1 hfind
      have hfind' : marks.find? (·.isPrefixOf (c :: t ++ u ++ rest')) = some (c :: t) := by
        refine List.find?_eq_some_iff_append.2 ⟨?_, before, after, hmarks, fun m hm => ?_⟩
        · rw [List.isPrefixOf_iff_prefix, List.append_assoc]
          exact List.prefix_append _ _
        · -- A longer mark would have to reach into what is inert.
          have hold := hbefore m hm
          rw [Bool.not_eq_true', Bool.eq_false_iff, ne_eq, List.isPrefixOf_iff_prefix] at hold ⊢
          intro hm'
          have hmem : m ∈ marks := hmarks ▸ List.mem_append_left _ hm
          have hle := h.length_le hmem hm' (List.cons_ne_nil _ _)
          have hpre := List.prefix_of_prefix_length_le hm' (List.prefix_append _ _) hle
          exact hold (hpre.trans (List.prefix_append _ _))
      rw [hfind']
      rfl

/-- A mark is taken where no other mark begins. -/
theorem munch_eq_mark (hstart : isStart c = false) (hm : m ∈ marks) (hbegins : m <+: c :: cs)
    (honly : ∀ n ∈ marks, n <+: c :: cs → n = m) : munch (c :: cs) = m := by
  rw [munch_mark hstart]
  cases hfind : marks.find? (·.isPrefixOf (c :: cs)) with
  | none => exact absurd (List.isPrefixOf_iff_prefix.2 hbegins) (List.find?_eq_none.1 hfind m hm)
  | some n =>
    have hn : n <+: c :: cs := by simpa using List.find?_some hfind
    exact honly n (List.mem_of_find?_eq_some hfind) hn

/-- The marks that begin with a parenthesis or a `!`. -/
theorem marks_of_head : ∀ m ∈ marks, (m.head? = some '(' → m = ['(']) ∧
    (m.head? = some ')' → m = [')']) ∧ (m.head? = some '!' → m = ['!'] ∨ m[1]? = some '=') := by
  decide +kernel

/-- What a mark begins with is what a text begins with that begins with the mark. -/
theorem head?_of_mem_marks (hm : m ∈ marks) (hbegins : m <+: c :: cs) : m.head? = some c := by
  obtain ⟨d, m, rfl⟩ := List.exists_cons_of_ne_nil (isBlank_of_mem_marks m hm).1
  rw [List.head?_cons, (List.cons_prefix_cons.1 hbegins).1]

/-- What is inert begins with a token of one character. -/
theorem Inert.munch_cons (h : Inert (c :: cs)) : munch (c :: cs) = [c] := by
  have hbegins : [c] <+: c :: cs := List.cons_prefix_cons.2 ⟨rfl, List.nil_prefix⟩
  have hstart : isStart c = false := by cases h <;> decide
  have hmem : [c] ∈ marks := by cases h <;> decide +kernel
  refine munch_eq_mark hstart hmem hbegins fun m hm hmark => ?_
  have hhead := head?_of_mem_marks hm hmark
  obtain ⟨hopen, hclose, hnot⟩ := marks_of_head m hm
  cases h with
  | opening => exact hopen hhead
  | closing => exact hclose hhead
  | negation cs _ hc =>
    refine (hnot hhead).resolve_right fun hequals => hc ?_
    obtain ⟨v, hv⟩ := hmark
    have hget : (m ++ v)[1]? = some '=' :=
      List.getElem?_append_left (List.getElem?_eq_some_iff.1 hequals).1 ▸ hequals
    simpa [hv] using hget

/-! ## Parts of a text -/

/-- A token with the blanks before it. -/
structure Part where
  blanks : String
  token : String

/-- The text of a list of parts. -/
def spell : List Part → String
  | [] => ""
  | p :: ps => p.blanks ++ p.token ++ spell ps

/-- A text of blanks alone. -/
def Blank (s : String) : Prop :=
  s.toList.all isBlank = true

/-- A text that begins with some parts, and goes on with `rest`, is read as these parts. -/
def Reads : List Part → String → Prop
  | [], _ => True
  | p :: ps, rest =>
    Blank p.blanks ∧ p.token ≠ "" ∧
      munch (p.token ++ spell ps ++ rest).toList = p.token.toList ∧ Reads ps rest

instance (s : String) : Decidable (Blank s) :=
  inferInstanceAs (Decidable (_ = _))

/-- Whether a text is read as some parts can be checked. -/
instance decidableReads : ∀ (ps : List Part) (rest : String), Decidable (Reads ps rest)
  | [], _ => isTrue trivial
  | _ :: ps, rest =>
    have := decidableReads ps rest
    inferInstanceAs (Decidable (_ ∧ _ ∧ _ ∧ _))

/-- The text of parts that follow one another. -/
@[simp] theorem spell_append (ps qs : List Part) : spell (ps ++ qs) = spell ps ++ spell qs := by
  induction ps with
  | nil => simp [spell]
  | cons p ps ih => simp [spell, ih, String.append_assoc]

section
variable {ps qs : List Part} {s s' blanks : String}

/-- Parts that follow one another are read one after the other. -/
theorem reads_append : Reads (ps ++ qs) s ↔ Reads ps (spell qs ++ s) ∧ Reads qs s := by
  induction ps with
  | nil => simp [Reads]
  | cons p ps ih => simp [Reads, ih, String.append_assoc, and_assoc]

/-- No token that is read is empty. -/
theorem Reads.token_ne (h : Reads ps s) : ∀ p ∈ ps, p.token ≠ "" := by
  induction ps with
  | nil => exact List.forall_mem_nil _
  | cons p ps ih => exact List.forall_mem_cons.2 ⟨h.2.1, ih h.2.2.2⟩

/-- Something inert may be put behind what is read, and behind blanks or more. -/
theorem Reads.replace (h : Reads ps (blanks ++ s)) (hs : Inert s'.toList) :
    Reads ps (blanks ++ s') := by
  induction ps with
  | nil => trivial
  | cons p ps ih =>
    obtain ⟨hblank, hne, hmunch, hps⟩ := h
    refine ⟨hblank, hne, ?_, ih hps⟩
    simp only [String.toList_append, ← List.append_assoc] at hmunch ⊢
    rw [List.append_assoc _ (spell ps).toList] at hmunch ⊢
    exact hs.munch_eq (by simpa using hne) hmunch

/-- Blanks end where something else begins. -/
theorem blanks_unique {us vs : List Char} (hu : u.all isBlank = true)
    (hv : v.all isBlank = true) (hus : us.head?.any isBlank = false)
    (hvs : vs.head?.any isBlank = false) (h : u ++ us = v ++ vs) : u = v ∧ us = vs := by
  have hu' : (u ++ us).takeWhile isBlank = u :=
    takeWhile_append_eq_iff.2 ⟨hu, hus⟩
  have hv' : (v ++ vs).takeWhile isBlank = v :=
    takeWhile_append_eq_iff.2 ⟨hv, hvs⟩
  obtain rfl : u = v := by rw [← hu', ← hv', h]
  exact ⟨rfl, List.append_cancel_left h⟩

/-- A token that is read begins with a character that is no blank. -/
theorem Reads.exists_cons {p : Part} (h : Reads (p :: ps) s) :
    ∃ c cs, p.token.toList = c :: cs ∧ isBlank c = false := by
  obtain ⟨-, hne, hmunch, -⟩ := h
  obtain ⟨c, cs, hcs⟩ := List.exists_cons_of_ne_nil (by simpa using hne : p.token.toList ≠ [])
  have hne' : munch (c :: (cs ++ ((spell ps).toList ++ s.toList))) ≠ [] := by
    simp only [String.toList_append, hcs, List.cons_append, List.append_assoc] at hmunch
    rw [hmunch]
    exact List.cons_ne_nil c cs
  exact ⟨c, cs, hcs, isBlank_of_munch hne'⟩

/-- A text that is read as a part is not blank. -/
theorem Reads.not_blank {p : Part} (h : Reads (p :: ps) s) : ¬Blank (spell (p :: ps) ++ s) := by
  obtain ⟨c, cs, hcs, hblank⟩ := h.exists_cons
  intro hall
  have := List.all_eq_true.1 hall c (by simp [spell, hcs])
  rw [hblank] at this
  cases this

/-- A text is read in one way. -/
theorem Reads.unique (hps : Reads ps s) (hqs : Reads qs s') (hs : Blank s) (hs' : Blank s')
    (h : spell ps ++ s = spell qs ++ s') : ps = qs ∧ s = s' := by
  induction ps generalizing qs with
  | nil =>
    cases qs with
    | nil => exact ⟨rfl, by simpa [spell] using h⟩
    | cons q qs => exact absurd (h ▸ by simpa [spell] using hs) hqs.not_blank
  | cons p ps ih =>
    cases qs with
    | nil => exact absurd (h ▸ by simpa [spell] using hs') hps.not_blank
    | cons q qs =>
      obtain ⟨c, cs, hcs, hc⟩ := hps.exists_cons
      obtain ⟨d, ds, hds, hd⟩ := hqs.exists_cons
      obtain ⟨hp, -, hpmunch, hps⟩ := hps
      obtain ⟨hq, -, hqmunch, hqs⟩ := hqs
      have hlist := congrArg String.toList h
      simp only [spell, String.append_assoc, String.toList_append (s := p.blanks),
        String.toList_append (s := q.blanks)] at hlist
      obtain ⟨hblanks, hrest⟩ := blanks_unique hp hq (by simp [hcs, hc]) (by simp [hds, hd]) hlist
      rw [String.append_assoc, hrest] at hpmunch
      rw [String.append_assoc, hpmunch] at hqmunch
      have htoken : p.token = q.token := String.toList_inj.1 hqmunch
      have htext : spell ps ++ s = spell qs ++ s' := by
        have hlist : p.token.toList ++ (spell ps ++ s).toList =
            p.token.toList ++ (spell qs ++ s').toList := by
          simpa [htoken] using hrest
        exact String.toList_inj.1 (List.append_cancel_left hlist)
      obtain ⟨rfl, rfl⟩ := ih hps hqs htext
      obtain ⟨pb, pt⟩ := p
      obtain ⟨qb, qt⟩ := q
      obtain rfl : pb = qb := String.toList_inj.1 hblanks
      obtain rfl : pt = qt := htoken
      exact ⟨rfl, rfl⟩

/-! ## Tokens put in -/

/-- The blanks before some parts. -/
def lead : List Part → String
  | [] => ""
  | p :: _ => p.blanks

/-- The text of some parts without the blanks before them. -/
def body : List Part → String
  | [] => ""
  | p :: ps => p.token ++ spell ps

/-- Parts with a token put right before the first one. -/
def prepend (token : String) : List Part → List Part
  | [] => [⟨"", token⟩]
  | p :: ps => ⟨p.blanks, token⟩ :: ⟨"", p.token⟩ :: ps

/-- Parts put into parentheses, if they have to be. -/
def guardParts (ps : List Part) (needed : Bool) : List Part :=
  if needed then prepend "(" ps ++ [⟨"", ")"⟩] else ps

/-- The text of some parts begins with the blanks before them. -/
theorem spell_eq (ps : List Part) : spell ps = lead ps ++ body ps := by
  cases ps <;> simp [spell, lead, body, String.append_assoc]

/-- What is put in comes after the blanks. -/
@[simp] theorem lead_prepend (token : String) (ps : List Part) :
    lead (prepend token ps) = lead ps := by
  cases ps <;> rfl

/-- What is put in comes before the text. -/
@[simp] theorem body_prepend (token : String) (ps : List Part) :
    body (prepend token ps) = token ++ body ps := by
  cases ps <;> simp [prepend, body, spell]

/-- What is put in comes before the other tokens. -/
@[simp] theorem tokens_prepend (token : String) (ps : List Part) :
    (prepend token ps).map Part.token = token :: ps.map Part.token := by
  cases ps <;> rfl

/-- Parentheses leave the blanks before them. -/
@[simp] theorem lead_guardParts (ps : List Part) (needed : Bool) :
    lead (guardParts ps needed) = lead ps := by
  cases needed <;> cases ps <;> rfl

/-- Parentheses around a text. -/
theorem body_guardParts (ps : List Part) (needed : Bool) :
    body (guardParts ps needed) = if needed then "(" ++ body ps ++ ")" else body ps := by
  cases needed with
  | false => rfl
  | true => cases ps <;> simp [guardParts, prepend, body, spell, String.append_assoc]

/-- Parentheses around tokens. -/
theorem tokens_guardParts (ps : List Part) (needed : Bool) :
    (guardParts ps needed).map Part.token =
      if needed then "(" :: ps.map Part.token ++ [")"] else ps.map Part.token := by
  cases needed <;> simp [guardParts]

/-- A token is put in where it and what follows it are inert. -/
theorem Reads.prepend {c : Char} {token : String} (h : Reads ps s) (htoken : token.toList = [c])
    (hinert : Inert (token ++ body ps ++ s).toList) : Reads (prepend token ps) s := by
  have hne : token ≠ "" := by
    rintro rfl
    cases htoken
  have htext : (token ++ body ps ++ s).toList = c :: (body ps ++ s).toList := by
    simp [htoken]
  rw [htext] at hinert
  have hmunch := hinert.munch_cons
  cases ps with
  | nil => exact ⟨by simp [Blank], hne, by simpa [body, spell, htoken] using hmunch, trivial⟩
  | cons p ps =>
    obtain ⟨hblank, hpne, hpmunch, hps⟩ := h
    refine ⟨hblank, hne, ?_, by simp [Blank], hpne, hpmunch, hps⟩
    simpa [body, spell, htoken, String.append_assoc] using hmunch

/-- A parenthesis may be put behind what is read. -/
theorem Reads.closed (h : Reads ps s) : Reads (ps ++ [⟨"", ")"⟩]) s := by
  have hinert : Inert (")" ++ s).toList := by
    rw [String.toList_append]
    exact .closing s.toList
  refine reads_append.2 ⟨?_, by simp [Blank], by decide, ?_, trivial⟩
  · have hreads : Reads ps ("" ++ s) := by simpa using h
    simpa [spell] using hreads.replace hinert
  · simpa [spell] using (Inert.closing s.toList).munch_cons

/-- What is read may be put into parentheses. -/
theorem Reads.guarded (h : Reads ps s) (needed : Bool) : Reads (guardParts ps needed) s := by
  cases needed with
  | false => exact h
  | true =>
    have hinert : Inert ("(" ++ body ps ++ s).toList := by
      rw [String.append_assoc, String.toList_append]
      exact .opening (body ps ++ s).toList
    exact (h.prepend rfl hinert).closed

end

end Script

/-- A text cut into tokens, with the blanks before each and after the last. -/
structure Script where
  parts : List Script.Part
  last : String
  reads : Script.Reads parts last
  blank : Script.Blank last

namespace Script

/-- The text of a script. -/
def text (x : Script) : String :=
  spell x.parts ++ x.last

/-- The tokens of a script. -/
def tokens (x : Script) : List String :=
  x.parts.map Part.token

/-- A text is cut in one way. -/
theorem text_injective {x y : Script} (h : x.text = y.text) : x = y := by
  obtain ⟨ps, s, hps, hs⟩ := x
  obtain ⟨qs, s', hqs, hs'⟩ := y
  obtain ⟨rfl, rfl⟩ := hps.unique hqs hs hs' h
  rfl

/-- A script between two places. -/
structure Cut (x : Script) (ts us vs : List String) where
  first : List Part
  inner : List Part
  rest : List Part
  parts_eq : x.parts = first ++ inner ++ rest
  tokens_first : first.map Part.token = ts
  tokens_inner : inner.map Part.token = us
  tokens_rest : rest.map Part.token = vs

/-- A script is cut where its tokens are. -/
theorem exists_cut {x : Script} {ts us vs : List String} (h : x.tokens = ts ++ us ++ vs) :
    Nonempty (x.Cut ts us vs) := by
  obtain ⟨ps, rest, hparts, hps, hrest⟩ := List.map_eq_append_iff.1 h
  obtain ⟨first, inner, rfl, hfirst, hinner⟩ := List.map_eq_append_iff.1 hps
  exact ⟨⟨first, inner, rest, hparts, hfirst, hinner, hrest⟩⟩

namespace Cut
variable {x : Script} {ts us vs : List String} (c : x.Cut ts us vs)

/-- What stands before the tokens cut out. -/
def before : String :=
  spell c.first ++ lead c.inner

/-- What stands after the tokens cut out. -/
def after : String :=
  spell c.rest ++ x.last

/-- The text of a script around the tokens cut out. -/
theorem text_eq : x.text = c.before ++ body c.inner ++ c.after := by
  rw [text, c.parts_eq]
  simp [before, after, spell_eq c.inner, String.append_assoc]

/-- The tokens cut out are read where they stand. -/
theorem reads : Reads c.inner c.after := by
  have h := x.reads
  rw [c.parts_eq, reads_append, reads_append] at h
  exact h.1.2

/-- Other parts may be put in place of what is cut out when they are read there and nothing before
them runs together with them. -/
theorem exists_replaced {parts : List Part} (hlead : lead parts = lead c.inner)
    (hreads : Reads parts c.after) (hinert : Inert (body parts ++ c.after).toList) :
    ∃ y : Script, y.tokens = ts ++ parts.map Part.token ++ vs ∧
      y.text = c.before ++ body parts ++ c.after := by
  have h := x.reads
  rw [c.parts_eq, List.append_assoc, reads_append, reads_append] at h
  obtain ⟨hfirst, -, hrest⟩ := h
  have hfirst' : Reads c.first (spell (parts ++ c.rest) ++ x.last) := by
    rw [spell_append, spell_eq c.inner, String.append_assoc, String.append_assoc] at hfirst
    rw [spell_append, spell_eq parts, hlead, String.append_assoc, String.append_assoc]
    exact hfirst.replace hinert
  have hparts : Reads (c.first ++ (parts ++ c.rest)) x.last :=
    reads_append.2 ⟨hfirst', reads_append.2 ⟨hreads, hrest⟩⟩
  refine ⟨⟨c.first ++ (parts ++ c.rest), x.last, hparts, x.blank⟩, ?_, ?_⟩
  · simp [tokens, c.tokens_first, c.tokens_rest, List.append_assoc]
  · simp [text, before, after, spell_eq parts, hlead, String.append_assoc]

end Cut

end Script

end Sabotage
