import Sabotage.Proofs.Alterations
import Sabotage.Proofs.Fitting

/-!
# Spoofed names

The names of the language, by their grammar (`Lexicon.Denotes`): a character of a name is spelled as
itself or by an escape, and what a name denotes is the word of the characters so spelled. Spellings
are told apart from their first character on, as the words of a prefix code
(`Lexicon.Spells.unique`), so that a name denotes one word.

A declared name is spoofed in its first character that has a look-alike, whatever that character is
to the name. It stays a name where the character stands for itself and the new word is not reserved,
and then denotes another word (`Lexicon.exists_respelling`). A digit of an escape is no letter of
the name (`not_denotes_escapedDraft`), and a Cyrillic letter may be all that keeps a word from being
reserved (`not_denotes_reservedDraft`).
-/

namespace Sabotage

open Bytes

/-! ## Names -/

/-- The characters that a name can begin with, those that it can hold, and the words that are no
names. Letters with a look-alike are letters of names. -/
structure Lexicon where
  start : Char → Prop
  part : Char → Prop
  reserved : List Char → Prop
  part_of_start {c : Char} : start c → part c
  not_part_escape : ¬ part '\\'
  start_of_pair : ∀ pair ∈ homoglyphPairs, start pair.1 ∧ start pair.2

/-- Hexadecimal digits, with nothing between them, that spell a number. -/
structure HexNumeral (cs : List Char) (n : Nat) : Prop where
  unparted : '_' ∉ cs
  exists_row : ∃ ds, Literal.Row 16 cs ds ∧ Literal.spelled 16 ds = n

namespace HexNumeral
variable {cs : List Char} {m n : Nat}

/-- Digits spell one number. -/
theorem unique (h : HexNumeral cs m) (h' : HexNumeral cs n) : m = n := by
  obtain ⟨ds, hds, rfl⟩ := h.exists_row
  obtain ⟨ds', hds', rfl⟩ := h'.exists_row
  rw [Option.some.inj ((hds.digits?_eq false).symm.trans (hds'.digits?_eq false))]

/-- What the characters of a numeral are: no braces, and written in one byte. -/
theorem of_mem (h : HexNumeral cs n) {c : Char} (hc : c ∈ cs) :
    c ≠ '\x7b' ∧ c ≠ '\x7d' ∧ c.toNat < 128 := by
  obtain ⟨ds, hds, -⟩ := h.exists_row
  obtain ⟨d, -, hd⟩ := hds.isDigit_of_mem h.unparted hc
  exact hd.of_table (p := fun e => e.1 ≠ '\x7b' ∧ e.1 ≠ '\x7d' ∧ e.1.toNat < 128) (by decide)

end HexNumeral

namespace Lexicon

/-- The spellings of a character of a name: itself, an escape of four digits, and an escape of any
number of digits in braces. -/
inductive Spells (L : Lexicon) : List Char → Char → Prop
  | plain {c : Char} : L.part c → Spells L [c] c
  | short {cs : List Char} {c : Char} : HexNumeral cs c.toNat → cs.length = 4 → L.part c →
      Spells L ('\\' :: 'u' :: cs) c
  | long {cs : List Char} {c : Char} : HexNumeral cs c.toNat → L.part c →
      Spells L ('\\' :: 'u' :: '\x7b' :: (cs ++ ['\x7d'])) c

/-- What a row of spellings spells. -/
inductive Reads (L : Lexicon) : List Char → List Char → Prop
  | nil : Reads L [] []
  | cons {u name word : List Char} {c : Char} : L.Spells u c → Reads L name word →
      Reads L (u ++ name) (c :: word)

/-- A name and the word that it denotes. -/
structure Denotes (L : Lexicon) (name word : List Char) : Prop where
  reads : L.Reads name word
  head : ∃ c ∈ word.head?, L.start c
  free : ¬ L.reserved word

variable {L : Lexicon} {u v name rest front back word old new : List Char} {a b c c' : Char}

/-! ## Reading a name -/

namespace Spells

theorem ne_nil (h : L.Spells u a) : u ≠ [] := by
  cases h <;> exact List.cons_ne_nil _ _

/-- A spelling that another one begins with is that one, and spells the same character. -/
theorem unique (hu : L.Spells u a) (hv : L.Spells v b) (h : v <+: u) : v = u ∧ b = a := by
  have hescape {c : Char} (hc : L.part c) : c ≠ '\\' := fun heq => L.not_part_escape (heq ▸ hc)
  cases hv with
  | plain hb =>
    cases hu with
    | plain =>
      obtain ⟨rfl, -⟩ := List.cons_prefix_cons.1 h
      exact ⟨rfl, rfl⟩
    | short | long => exact absurd (List.cons_prefix_cons.1 h).1 (hescape hb)
  | short hdigits hlength =>
    cases hu with
    | plain ha => exact absurd (List.cons_prefix_cons.1 h).1.symm (hescape ha)
    | short hdigits' hlength' =>
      simp only [List.cons_prefix_cons, true_and] at h
      obtain rfl := h.eq_of_length (hlength.trans hlength'.symm)
      exact ⟨rfl, Char.toNat_inj.1 (hdigits.unique hdigits')⟩
    | long =>
      -- The brace is no digit.
      obtain ⟨x, xs, rfl⟩ := List.exists_cons_of_length_eq_add_one hlength
      simp only [List.cons_prefix_cons, true_and] at h
      exact absurd h.1 (hdigits.of_mem List.mem_cons_self).1
  | long hdigits =>
    cases hu with
    | plain ha => exact absurd (List.cons_prefix_cons.1 h).1.symm (hescape ha)
    | short hdigits' =>
      simp only [List.cons_prefix_cons, true_and] at h
      exact absurd rfl (hdigits'.of_mem (h.subset List.mem_cons_self)).1
    | long hdigits' =>
      simp only [List.cons_prefix_cons, true_and] at h
      rcases List.prefix_concat_iff.1 h with heq | hshorter
      · obtain rfl := List.append_cancel_right heq
        exact ⟨rfl, Char.toNat_inj.1 (hdigits.unique hdigits')⟩
      · -- The digits end before the brace.
        have hbrace := hshorter.subset (List.mem_append_right _ List.mem_cons_self)
        exact absurd rfl (hdigits'.of_mem hbrace).2.1

/-- An escape is written in characters of one byte. -/
theorem lt_of_mem (h : L.Spells u a) (hescape : u ≠ [a]) : ∀ c ∈ u, c.toNat < 128 := by
  cases h with
  | plain => exact absurd rfl hescape
  | short h =>
    simp only [List.forall_mem_cons]
    exact ⟨by decide, by decide, fun c hc => (h.of_mem hc).2.2⟩
  | long h =>
    simp only [List.forall_mem_cons, List.forall_mem_append]
    exact ⟨by decide, by decide, by decide, fun c hc => (h.of_mem hc).2.2, by decide, nofun⟩

/-- What begins with a spelling is read from there on. -/
theorem reads_append (hu : L.Spells u c) (h : L.Reads (u ++ rest) word) :
    ∃ word', word = c :: word' ∧ L.Reads rest word' := by
  generalize hname : u ++ rest = name at h
  cases h with
  | nil => exact absurd (List.append_eq_nil_iff.1 hname).1 hu.ne_nil
  | @cons v rest' word' b hv hrest =>
    have hbegins : u <+: v ++ rest' := hname ▸ List.prefix_append u rest
    obtain ⟨rfl, rfl⟩ : v = u ∧ b = c := by
      rcases List.prefix_or_prefix_of_prefix hbegins (List.prefix_append v rest') with h | h
      · exact (hv.unique hu h).imp Eq.symm Eq.symm
      · exact hu.unique hv h
    obtain rfl := List.append_cancel_left hname
    exact ⟨word', rfl, hrest⟩

end Spells

namespace Reads

/-- What is read of two names side by side. -/
theorem append {w : List Char} (h : L.Reads name word) (h' : L.Reads rest w) :
    L.Reads (name ++ rest) (word ++ w) := by
  induction h with
  | nil => exact h'
  | cons hu _ ih =>
    rw [List.append_assoc]
    exact .cons hu ih

/-- Characters of names spell themselves. -/
theorem of_plain (h : ∀ c ∈ name, L.part c) : L.Reads name name := by
  induction name with
  | nil => exact .nil
  | cons c cs ih =>
    obtain ⟨hc, hcs⟩ := List.forall_mem_cons.1 h
    exact .cons (.plain hc) (ih hcs)

/-- What begins with a name is read from there on. -/
theorem of_append {w : List Char} (h : L.Reads name word) (h' : L.Reads (name ++ rest) w) :
    ∃ w', w = word ++ w' ∧ L.Reads rest w' := by
  induction h generalizing w with
  | nil => exact ⟨w, rfl, h'⟩
  | cons hu _ ih =>
    rw [List.append_assoc] at h'
    obtain ⟨w', rfl, hrest⟩ := hu.reads_append h'
    obtain ⟨w'', rfl, hback⟩ := ih hrest
    exact ⟨w'', rfl, hback⟩

/-- A name is read in one way. -/
theorem unique {w : List Char} (h : L.Reads name word) (h' : L.Reads name w) : w = word := by
  rw [← List.append_nil name] at h'
  obtain ⟨w', rfl, hnil⟩ := h.of_append h'
  generalize hempty : ([] : List Char) = rest at hnil
  cases hnil with
  | nil => exact List.append_nil word
  | cons hu => exact absurd (List.append_eq_nil_iff.1 hempty.symm).1 hu.ne_nil

/-- What is read where a character stands for itself. -/
theorem of_part {w : List Char} (hc : L.part c) (h : L.Reads front w)
    (h' : L.Reads (front ++ c :: back) word) : ∃ w', word = w ++ c :: w' ∧ L.Reads back w' := by
  obtain ⟨w', rfl, hrest⟩ := h.of_append h'
  obtain ⟨w'', rfl, hback⟩ := (Spells.plain hc).reads_append hrest
  exact ⟨w'', rfl, hback⟩

end Reads

/-! ## Look-alikes -/

/-- Of a letter and its look-alike one is written in more bytes than one. -/
theorem le_or_le_of_homoglyph? (h : homoglyph? c = some c') :
    128 ≤ c.toNat ∨ 128 ≤ c'.toNat := by
  have hpairs : ∀ pair ∈ homoglyphPairs, 128 ≤ pair.2.toNat := by decide
  exact (mem_homoglyphPairs h).elim (fun hmem => .inr (hpairs _ hmem)) (fun hmem =>
    .inl (hpairs _ hmem))

/-- Letters with a look-alike are letters of names. -/
theorem start_of_homoglyph? (L : Lexicon) (h : homoglyph? c = some c') :
    L.start c ∧ L.start c' :=
  (mem_homoglyphPairs h).elim (L.start_of_pair _) fun hmem => (L.start_of_pair _ hmem).symm

/-- What is left of an escape that has lost a character to its look-alike is not read. -/
theorem Spells.not_reads {m : List Char} (hu : L.Spells (front ++ c :: m) a) (hfront : front ≠ [])
    (hc : homoglyph? c = some c') : ¬ L.Reads (front ++ c' :: back) word := by
  intro h
  have hone {x y : Char} {cs : List Char} : front ++ y :: cs ≠ [x] := by
    cases front with
    | nil => exact absurd rfl hfront
    | cons => simp
  generalize hname : front ++ c' :: back = name at h
  cases h with
  | nil => exact absurd hname (by simp)
  | @cons v rest word b hv =>
    have hshort : ¬ v <+: front := by
      intro hbegins
      have hle := hbegins.length_le
      rw [(hu.unique hv (hbegins.trans (List.prefix_append _ _))).1] at hle
      simp at hle
    rcases List.append_eq_append_iff.1 hname with ⟨m', rfl, hm'⟩ | ⟨m', hsplit, -⟩
    · cases m' with
      | nil =>
        rw [List.append_nil] at hshort
        exact hshort (List.prefix_refl front)
      | cons x m' =>
        obtain ⟨rfl, -⟩ := List.cons_eq_cons.1 hm'
        have hlow : c.toNat < 128 := hu.lt_of_mem hone c (by simp)
        have hlow' : c'.toNat < 128 := hv.lt_of_mem hone c' (by simp)
        have := le_or_le_of_homoglyph? hc
        omega
    · exact hshort ⟨m', hsplit.symm⟩

/-- Where a text is read with a letter and with its look-alike, the letter stands for itself. -/
theorem Reads.of_homoglyph? {w : List Char} (hc : homoglyph? c = some c')
    (h : L.Reads (front ++ c :: back) word) (h' : L.Reads (front ++ c' :: back) w) :
    ∃ w', L.Reads front w' := by
  generalize hname : front ++ c :: back = name at h
  induction h generalizing front w with
  | nil => exact absurd hname (by simp)
  | @cons u rest word a hu hrest ih =>
    rcases List.append_eq_append_iff.1 hname with ⟨m, rfl, hm⟩ | ⟨m, rfl, rfl⟩
    · cases m with
      | nil =>
        -- The letter comes right after the spelling.
        rw [List.append_nil] at hu
        exact ⟨[a], by simpa using Reads.cons hu .nil⟩
      | cons x m =>
        obtain ⟨rfl, -⟩ := List.cons_eq_cons.1 hm
        by_cases hfront : front = []
        · exact ⟨[], by rw [hfront]; exact .nil⟩
        · exact absurd h' (hu.not_reads hfront hc)
    · rw [List.append_assoc] at h'
      obtain ⟨w', rfl, hm⟩ := hu.reads_append h'
      obtain ⟨w'', hm⟩ := ih hm rfl
      exact ⟨a :: w'', .cons hu hm⟩

/-- A name with a letter exchanged for its look-alike is a name if and only if the letter stood for
itself and the word with the look-alike is not reserved. -/
theorem Denotes.exists_iff (hc : homoglyph? c = some c')
    (h : L.Denotes (front ++ c :: back) old) :
    (∃ new, L.Denotes (front ++ c' :: back) new) ↔
      ∃ v w, L.Reads front v ∧ L.Reads back w ∧ ¬ L.reserved (v ++ c' :: w) := by
  obtain ⟨hstart, hstart'⟩ := L.start_of_homoglyph? hc
  constructor
  · rintro ⟨new, hnew⟩
    obtain ⟨v, hfront⟩ := h.reads.of_homoglyph? hc hnew.reads
    obtain ⟨w, rfl, hback⟩ := hfront.of_part (L.part_of_start hstart') hnew.reads
    exact ⟨v, w, hfront, hback, hnew.free⟩
  · rintro ⟨v, w, hfront, hback, hfree⟩
    have hreads : L.Reads ([c'] ++ back) (c' :: w) := .cons (.plain (L.part_of_start hstart')) hback
    refine ⟨v ++ c' :: w, hfront.append hreads, ?_, hfree⟩
    cases v with
    | nil => exact ⟨c', rfl, hstart'⟩
    | cons x v =>
      -- The word begins as it did.
      obtain ⟨w', rfl, -⟩ := hfront.of_part (L.part_of_start hstart) h.reads
      exact h.head

/-- A name with a letter exchanged for its look-alike denotes another word. -/
theorem Denotes.ne (hc : homoglyph? c = some c') (h : L.Denotes (front ++ c :: back) old)
    (h' : L.Denotes (front ++ c' :: back) new) : new ≠ old := by
  obtain ⟨hstart, hstart'⟩ := L.start_of_homoglyph? hc
  obtain ⟨v, hfront⟩ := h.reads.of_homoglyph? hc h'.reads
  obtain ⟨w, rfl, -⟩ := hfront.of_part (L.part_of_start hstart) h.reads
  obtain ⟨w', rfl, -⟩ := hfront.of_part (L.part_of_start hstart') h'.reads
  intro heq
  exact homoglyph?_ne hc (List.cons_eq_cons.1 (List.append_cancel_left heq)).1.symm

/-- Every declared name of a draft is a name. -/
def Names (L : Lexicon) (d : Draft) : Prop :=
  ∀ s ∈ d.sitesOf ["identifier"], Rule.isDeclaredName s →
    ∃ name word, ofString name = s.node.bytes d.source ∧ L.Denotes name.toList word

end Lexicon

/-! ## The rule -/

/-- Two texts that differ in one character of a declared name, which in the second text is the
look-alike of the one in the first text. -/
structure Respelling (d : Draft) (text text' : String) where
  site : Site
  before : String
  front : List Char
  letter : Char
  likeness : Char
  back : List Char
  after : String
  site_mem : site ∈ d.sitesOf ["identifier"]
  declared : Rule.isDeclaredName site
  homoglyph : homoglyph? letter = some likeness
  start_eq : site.node.start = before.utf8ByteSize
  bytes_eq : site.node.bytes d.source = ofString (String.ofList (front ++ letter :: back))
  text_eq : text = before ++ String.ofList (front ++ letter :: back) ++ after
  text'_eq : text' = before ++ String.ofList (front ++ likeness :: back) ++ after

namespace Respelling
variable {d : Draft} {text text' : String}

/-- The name as it was. -/
def name (r : Respelling d text text') : List Char :=
  r.front ++ r.letter :: r.back

/-- The name as it is now. -/
def spoofed (r : Respelling d text text') : List Char :=
  r.front ++ r.likeness :: r.back

/-- The letter stands for itself, and the word with the look-alike is not reserved. -/
def Lawful (L : Lexicon) (r : Respelling d text text') : Prop :=
  ∃ v w, L.Reads r.front v ∧ L.Reads r.back w ∧ ¬ L.reserved (v ++ r.likeness :: w)

/-- In a name without escapes every letter stands for itself. -/
theorem lawful_iff_of_plain {L : Lexicon} {r : Respelling d text text'}
    (h : ∀ c ∈ r.name, L.part c) : r.Lawful L ↔ ¬ L.reserved r.spoofed := by
  obtain ⟨hfront, hrest⟩ := List.forall_mem_append.1 h
  have hfront := Lexicon.Reads.of_plain hfront
  have hback := Lexicon.Reads.of_plain (List.forall_mem_cons.1 hrest).2
  constructor
  · rintro ⟨v, w, hv, hw, hfree⟩
    rwa [hfront.unique hv, hback.unique hw] at hfree
  · exact fun hfree => ⟨_, _, hfront, hback, hfree⟩

end Respelling

/-- A name that is spoofed is respelled. -/
theorem Draft.Sound.respells_of_spoof? {text : String} {d : Draft} (hd : d.Sound text) {s : Site}
    {name : String} {spoofed : List Char} (hs : s ∈ d.sitesOf ["identifier"])
    (hdeclared : Rule.isDeclaredName s) (hname : ofString name = s.node.bytes d.source)
    (hspoof : spoof? name.toList = some spoofed) :
    ∃ (text' : String) (r : Respelling d text text'), r.name = name.toList ∧
      (Draft.replacement s.node (String.ofList spoofed)).apply d.source = ofString text' := by
  have hlaid := hd.wellFormed s.node (Sound.within_sitesOf s hs).mem_preorder.1
  obtain ⟨before, replaced, after, htext, hstart, hstop⟩ :=
    hlaid.fits_replacement (String.ofList spoofed)
  obtain ⟨front, c, c', back, hsplit, rfl, hc⟩ := spoof?_eq_some hspoof
  have hstart' : s.node.start = before.utf8ByteSize := Int.ofNat_inj.1 hstart
  have hstop' : s.node.stop = (before ++ replaced).utf8ByteSize := Int.ofNat_inj.1 hstop
  have hbytes : s.node.bytes d.source = ofString replaced := by
    rw [Node.bytes, hd.source_eq, htext, hstart', hstop', cut_ofString]
  have hreplaced : replaced = String.ofList (front ++ c :: back) := by
    rw [← hsplit, String.ofList_toList]
    exact ofString_injective (hbytes.symm.trans hname.symm)
  refine ⟨before ++ String.ofList (front ++ c' :: back) ++ after,
    ⟨s, before, front, c, c', back, after, hs, hdeclared, hc, hstart', hreplaced ▸ hbytes,
      hreplaced ▸ htext, rfl⟩, hsplit.symm, ?_⟩
  rw [hd.source_eq, htext]
  exact Edit.apply_ofString hstart hstop

/-- The rule that spoofs a name exchanges one letter of one declared name for its look-alike. Where
the declared names are names, the new name is one if and only if the letter stood for itself and
the word with the look-alike is not reserved, and it then denotes another word. -/
theorem Lexicon.exists_respelling {L : Lexicon} {parser : Parser} {text : String} {d d' : Draft}
    (hd : d.Sound text) (hnames : L.Names d)
    (h : BugKind.homoglyphSabotage.apply parser d = .ok (true, d')) :
    ∃ (text' : String) (r : Respelling d text text'), d'.source = ofString text' ∧
      ((∃ new, L.Denotes r.spoofed new) ↔ r.Lawful L) ∧
      ∃ old, L.Denotes r.name old ∧ ∀ new, L.Denotes r.spoofed new → new ≠ old := by
  obtain ⟨plan, hplan, hsplice⟩ := BugKind.exists_plan h
  obtain ⟨s, name, spoofed, hs, hdeclared, hname, hspoof, rfl⟩ :=
    Draft.findSpoof_respells _ hplan plan rfl
  obtain ⟨text', r, hrname, happly⟩ := hd.respells_of_spoof? hs hdeclared hname hspoof
  obtain ⟨name', old, hname', hdenotes⟩ := hnames s hs hdeclared
  obtain rfl := ofString_injective (hname'.trans hname.symm)
  rw [← hrname] at hdenotes
  have hsource : (Draft.replacement s.node (String.ofList spoofed)).apply d.source = d'.source :=
    Except.ok.inj (Draft.applyAll_of_splice hsplice)
  exact ⟨text', r, hsource.symm.trans happly, hdenotes.exists_iff r.homoglyph, old, hdenotes,
    fun new hnew => hdenotes.ne r.homoglyph hnew⟩

/-! ## Spoofed declarations -/

/-- Words that are reserved wherever they stand. -/
def reservedWords : List String :=
  ["break", "case", "catch", "class", "const", "continue", "debugger", "default", "delete", "do",
    "else", "enum", "export", "extends", "false", "finally", "for", "function", "if", "import",
    "in", "instanceof", "new", "null", "return", "super", "switch", "this", "throw", "true", "try",
    "typeof", "var", "void", "while", "with"]

/-- Latin and Cyrillic letters, and the two signs that names can begin with. -/
def isNameLetter (c : Char) : Bool :=
  c.isAlpha || c == '$' || c == '_' || '\u0400' ≤ c && c ≤ '\u0481'

/-- Names in Latin and Cyrillic letters, the two signs and digits. -/
def Lexicon.letters : Lexicon where
  start c := isNameLetter c
  part c := isNameLetter c || c.isDigit
  reserved word := String.ofList word ∈ reservedWords
  part_of_start h := by simp [h]
  not_part_escape := by decide
  start_of_pair := by decide

instance : DecidablePred Lexicon.letters.start :=
  fun c => inferInstanceAs (Decidable (isNameLetter c))

instance : DecidablePred Lexicon.letters.part :=
  fun c => inferInstanceAs (Decidable (isNameLetter c || c.isDigit))

instance : DecidablePred Lexicon.letters.reserved :=
  fun word => inferInstanceAs (Decidable (String.ofList word ∈ reservedWords))

/-- A declaration of a name. -/
def namingCode (name : String) : String :=
  "let " ++ name ++ " = 1;"

section
variable {name : String} {edits : Nat}

/-- The node of the name. -/
def namingNode (name : String) : Node :=
  ⟨"identifier", true, false, 4, 4 + name.utf8ByteSize, some .name, []⟩

/-- The tree of a declaration of a name. -/
def namingTree (name : String) : Node :=
  let stop := 4 + name.utf8ByteSize
  ⟨"program", true, false, 0, stop + 5, none,
    [⟨"lexical_declaration", true, false, 0, stop + 5, none,
      [⟨"let", false, false, 0, 3, some .kind, []⟩,
        ⟨"variable_declarator", true, false, 4, stop + 4, none,
          [namingNode name, ⟨"=", false, false, stop + 1, stop + 2, none, []⟩,
            ⟨"number", true, false, stop + 3, stop + 4, some .value, []⟩]⟩,
        ⟨";", false, false, stop + 4, stop + 5, none, []⟩]⟩]⟩

/-- A parser that takes every text for a declaration of a name. -/
def namingParser (name : String) : Parser := fun _ _ => namingTree name

/-- The draft of a declaration after some changes. -/
def namingDraft (name : String) (edits : Nat) : Draft :=
  ⟨.javascript, none, ofString (namingCode name), namingTree name, edits⟩

/-- The one identifier of a declaration is its name. -/
theorem sitesOf_namingDraft (name : String) (edits : Nat) :
    ∃ above, (namingDraft name edits).sitesOf ["identifier"] = [⟨namingNode name, above⟩] ∧
      Rule.isDeclaredName ⟨namingNode name, above⟩ :=
  ⟨_, by cbv, by cbv⟩

/-- The bytes of the name. -/
theorem bytes_namingDraft :
    (namingNode name).bytes (namingDraft name edits).source = ofString name := by
  have h := cut_ofString "let " name " = 1;"
  rw [String.utf8ByteSize_append] at h
  exact h

/-- The declared names of a declaration are names if the one of it is. -/
theorem Lexicon.names_namingDraft {L : Lexicon} {word : List Char}
    (h : L.Denotes name.toList word) (edits : Nat) : L.Names (namingDraft name edits) := by
  obtain ⟨above, hsites, -⟩ := sitesOf_namingDraft name edits
  intro s hs _
  rw [hsites] at hs
  obtain rfl := List.mem_singleton.1 hs
  exact ⟨name, word, bytes_namingDraft.symm, h⟩

/-- The name of a declaration is spoofed, if it can be. -/
theorem apply_namingDraft (name : String) (spoofed : List Char)
    (h : spoof? name.toList = some spoofed) :
    BugKind.apply (namingParser (String.ofList spoofed)) .homoglyphSabotage (namingDraft name 0) =
      .ok (true, namingDraft (String.ofList spoofed) 1) := by
  obtain ⟨above, hsites, hdeclared⟩ := sitesOf_namingDraft name 0
  have htext : (namingDraft name 0).textOf (namingNode name) = .ok name := by
    have hbytes : (namingDraft name 0).source.cut (namingNode name).start (namingNode name).stop =
        ofString name :=
      bytes_namingDraft
    simp only [Draft.textOf, hbytes, toString?_ofString]
  have hplan : BugKind.plan? .homoglyphSabotage (namingDraft name 0) =
      .ok (some (.single (Draft.replacement (namingNode name) (String.ofList spoofed)))) := by
    simp [BugKind.plan?, Rule.findSpoof, hsites, List.findSomeM?, Rule.planSpoof, hdeclared, htext,
      h, bind, Except.bind, Except.map]
    rfl
  have happly : Edit.applyAll [Draft.replacement (namingNode name) (String.ofList spoofed)]
      (ofString (namingCode name)) = .ok (ofString (namingCode (String.ofList spoofed))) :=
    congrArg Except.ok (Edit.apply_ofString rfl (by rw [String.utf8ByteSize_append]; rfl))
  simp only [BugKind.apply, hplan]
  simp [Plan.carryOut, Plan.single, Draft.splice, namingDraft, happly, namingParser]

end

/-- The name of a declaration is spoofed in its first letter, and stays a name. -/
theorem exists_respelling_namingDraft :
    (namingDraft "cat" 0).Sound (namingCode "cat") ∧
      Lexicon.letters.Names (namingDraft "cat" 0) ∧
      BugKind.apply (namingParser "\u0441at") .homoglyphSabotage (namingDraft "cat" 0) =
        .ok (true, namingDraft "\u0441at" 1) ∧
      ∃ (text' : String) (r : Respelling (namingDraft "cat" 0) (namingCode "cat") text'),
        (namingDraft "\u0441at" 1).source = ofString text' ∧
          ∃ new, Lexicon.letters.Denotes r.spoofed new := by
  have hplain : ∀ c ∈ "cat".toList, Lexicon.letters.part c :=
    List.forall_iff_forall_mem.1 (by decide)
  have hdenotes : Lexicon.letters.Denotes "cat".toList "cat".toList :=
    ⟨.of_plain hplain, ⟨'c', rfl, by decide⟩, by decide⟩
  have hsound : (namingDraft "cat" 0).Sound (namingCode "cat") := ⟨rfl, by decide⟩
  have hnames := Lexicon.names_namingDraft hdenotes 0
  have happly := apply_namingDraft "cat" "\u0441at".toList (by decide)
  refine ⟨hsound, hnames, happly, ?_⟩
  obtain ⟨text', r, hsource, hname, -⟩ := Lexicon.exists_respelling hsound hnames happly
  refine ⟨text', r, hsource, hname.2 ?_⟩
  have hrname : r.name = "cat".toList := by
    obtain ⟨above, hsites, -⟩ := sitesOf_namingDraft "cat" 0
    have hsite := r.site_mem
    rw [hsites] at hsite
    have hbytes := r.bytes_eq
    rw [List.mem_singleton.1 hsite, bytes_namingDraft] at hbytes
    exact String.ofList_injective ((ofString_injective hbytes).symm.trans String.ofList_toList.symm)
  rw [Respelling.lawful_iff_of_plain (hrname ▸ hplain)]
  intro hreserved
  -- The look-alike is Cyrillic, and reserved words are not.
  have hascii : ∀ word ∈ reservedWords, word.toList.Forall (·.toNat < 128) := by decide
  have hlow := List.forall_iff_forall_mem.1 (hascii _ hreserved) r.likeness
    (by simp [Respelling.spoofed])
  have hcat : "cat".toList.Forall (·.toNat < 128) := by decide
  have hletter := List.forall_iff_forall_mem.1 hcat r.letter
    (hrname ▸ by simp [Respelling.name])
  have := Lexicon.le_or_le_of_homoglyph? r.homoglyph
  omega

/-- A name with an escape is spoofed in a digit of the escape, and is no name any more. -/
theorem not_denotes_escapedDraft :
    (namingDraft "\\u006e" 0).Sound (namingCode "\\u006e") ∧
      Lexicon.letters.Names (namingDraft "\\u006e" 0) ∧
      BugKind.apply (namingParser "\\u006\u0435") .homoglyphSabotage (namingDraft "\\u006e" 0) =
        .ok (true, namingDraft "\\u006\u0435" 1) ∧
      ∀ word, ¬ Lexicon.letters.Denotes "\\u006\u0435".toList word := by
  have hdigits : HexNumeral ['0', '0', '6', 'e'] 110 :=
    ⟨by decide, [0, 0, 6, 14], .next ⟨by decide, by decide⟩ (.next ⟨by decide, by decide⟩
      (.next ⟨by decide, by decide⟩ (.one ⟨by decide, by decide⟩))), by decide⟩
  have hspells : Lexicon.letters.Spells ("\\u006".toList ++ 'e' :: []) 'n' :=
    .short hdigits rfl (by decide)
  have hdenotes : Lexicon.letters.Denotes "\\u006e".toList ['n'] :=
    ⟨.cons hspells .nil, ⟨'n', rfl, by decide⟩, by decide⟩
  refine ⟨⟨rfl, by decide⟩, Lexicon.names_namingDraft hdenotes 0,
    apply_namingDraft "\\u006e" "\\u006\u0435".toList (by decide),
    fun word h => ?_⟩
  exact hspells.not_reads (by decide) rfl h.reads

/-- A name that differs from a reserved word in one Cyrillic letter is spoofed to that word. -/
theorem not_denotes_reservedDraft :
    (namingDraft "v\u0430r" 0).Sound (namingCode "v\u0430r") ∧
      Lexicon.letters.Names (namingDraft "v\u0430r" 0) ∧
      BugKind.apply (namingParser "var") .homoglyphSabotage (namingDraft "v\u0430r" 0) =
        .ok (true, namingDraft "var" 1) ∧
      ∀ word, ¬ Lexicon.letters.Denotes "var".toList word := by
  have hdenotes : Lexicon.letters.Denotes "v\u0430r".toList "v\u0430r".toList :=
    ⟨.of_plain (List.forall_iff_forall_mem.1 (by decide)), ⟨'v', rfl, by decide⟩, by decide⟩
  refine ⟨⟨rfl, by decide⟩, Lexicon.names_namingDraft hdenotes 0,
    apply_namingDraft "v\u0430r" "var".toList (by decide),
    fun word h => ?_⟩
  have hreads : Lexicon.letters.Reads "var".toList "var".toList :=
    .of_plain (List.forall_iff_forall_mem.1 (by decide))
  obtain rfl := hreads.unique h.reads
  exact h.free (by decide)

end Sabotage
