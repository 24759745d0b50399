import Mathlib.Data.List.Chain
import Sabotage.Json.Printer
import Sabotage.Json.Reader

/-!
# Quoted texts are read back

A quoted text in which halves stand alone is read back when no high half is followed at once by a
low one, as the two would be read as the character they spell (`string_quoted`). These are the texts
that are read at all (`string_readable`); the strict rules read no halves, and halves are written as
escapes.
-/

namespace Sabotage

open Text

namespace Text

/-- Whether a sign is the first half of a character. -/
def Sign.isHigh : Sign → Bool
  | .char _ => false
  | .half u => isHighHalf u

/-- Whether a sign is the second half of a character. -/
def Sign.isLow : Sign → Bool
  | .char _ => false
  | .half u => isLowHalf u

/-- What a sign that is read can be: any character, and a half where the rules are not strict. -/
def Sign.Proper (strict : Bool) : Sign → Prop
  | .char _ => True
  | .half u => isHalf u ∧ strict = false

/-- The signs of a text that is read: no two halves that stand next to each other spell a
character. -/
structure Readable (strict : Bool) (signs : List Sign) : Prop where
  proper : ∀ s ∈ signs, s.Proper strict
  apart : signs.IsChain fun a b => a.isHigh → b.isLow = false

/-- Characters are readable. -/
theorem readable_ofChars (strict : Bool) (cs : List Char) :
    Readable strict (Spelling.ofChars cs) where
  proper s h := by
    obtain ⟨c, -, rfl⟩ := List.mem_map.1 h
    trivial
  apart := by
    rw [Spelling.ofChars, List.isChain_map]
    refine (List.pairwise_of_forall ?_).isChain
    intro c c' h
    cases h

/-- A text is readable. -/
@[simp] theorem readable_ofString (strict : Bool) (s : String) :
    Readable strict (Spelling.ofString s).signs :=
  readable_ofChars strict s.toList

/-- The characters of signs are legible as they are. -/
@[simp] theorem map_legible_ofChars (cs : List Char) :
    (Spelling.ofChars cs).map Sign.legible = cs := by
  rw [Spelling.ofChars, List.map_map]
  exact List.map_id cs

end Text

namespace Json

namespace Reader
variable {strict asciiOnly : Bool} {rest more : List Char} {done : List Sign} {fuel : Nat}

/-! ## Code units -/

/-- A hexadecimal digit is read. -/
theorem digitIn?_digitChar : ∀ d < 16,
    digitIn? 16 (digitChar d) = some d ∧ (digitChar d).toNat < 0x80 := by
  decide

/-- Four hexadecimal digits are read. -/
theorem hexUnit?_hex4 {n : Nat} (h : n < 0x10000) (rest : List Char) :
    hexUnit? (hex4 n ++ rest) = some (n, rest) := by
  have ha := digitIn?_digitChar (n / 4096 % 16) (Nat.mod_lt _ (by decide))
  have hb := digitIn?_digitChar (n / 256 % 16) (Nat.mod_lt _ (by decide))
  have hc := digitIn?_digitChar (n / 16 % 16) (Nat.mod_lt _ (by decide))
  have hd := digitIn?_digitChar (n % 16) (Nat.mod_lt _ (by decide))
  have hn : ofDigits 16 [n / 4096 % 16, n / 256 % 16, n / 16 % 16, n % 16] = n := by
    simp only [ofDigits, List.foldl_cons, List.foldl_nil]
    omega
  simp [hex4, hexUnit?, ha, hb, hc, hd, hn]

/-- A character is not a half. -/
theorem isHalf_toNat (c : Char) : Sign.isHalf c.toNat = false := by
  have hvalid : c.toNat < 0xd800 ∨ 0xdfff < c.toNat ∧ c.toNat < 0x110000 := c.valid
  simp [Sign.isHalf, Sign.isHighHalf, Sign.isLowHalf]
  omega

/-- A half is a code unit of sixteen bits. -/
theorem lt_of_isHalf {u : Nat} (h : Sign.isHalf u) : u < 0x10000 := by
  simp [Sign.isHalf, Sign.isHighHalf, Sign.isLowHalf] at h
  omega

/-- A code unit that is no half is a character. -/
theorem unitSign?_toNat (c : Char) (rest : List Char) :
    unitSign? strict c.toNat rest = some (.char c, rest) := by
  have hhalf := isHalf_toNat c
  have hhigh : Sign.isHighHalf c.toNat = false := (Bool.or_eq_false_iff.1 hhalf).1
  simp [unitSign?, hhigh, hhalf]

/-- A half that is not followed by the other one is read as it is. -/
theorem unitSign?_half {u : Nat} (hhalf : Sign.isHalf u) (hstrict : strict = false)
    (hrest : Sign.isHighHalf u → lowHalf? rest = none) :
    unitSign? strict u rest = some (.half u, rest) := by
  by_cases hhigh : Sign.isHighHalf u
  · simp [unitSign?, hhigh, hrest hhigh, hhalf, hstrict]
  · simp [unitSign?, hhigh, hhalf, hstrict]

/-- Two halves are read as the character they spell. -/
theorem unitSign?_pair {high low : Nat} (hhigh : Sign.isHighHalf high) (hlow : Sign.isLowHalf low)
    (rest : List Char) :
    unitSign? strict high (unitEscape low ++ rest)
      = some (.char (Sign.ofHalves high low), rest) := by
  have hbound : low < 0x10000 := by
    simp [Sign.isLowHalf] at hlow
    omega
  have hfound : lowHalf? (unitEscape low ++ rest) = some (low, rest) := by
    simp [unitEscape, lowHalf?, hexUnit?_hex4 hbound, hlow]
  simp [unitSign?, hhigh, hfound]

/-- An escaped code unit is the sign it spells. -/
theorem string_unitEscape {u : Nat} {sign : Sign} (hu : u < 0x10000)
    (hsign : unitSign? strict u rest = some (sign, more)) :
    string strict (fuel + 1) done (unitEscape u ++ rest)
      = string strict fuel (sign :: done) more := by
  simp [unitEscape, string, hexUnit?_hex4 hu, hsign]

/-- A character of two code units is read from their escapes. -/
theorem string_charEscape (c : Char) :
    string strict (fuel + 1) done (charEscape c ++ rest)
      = string strict fuel (.char c :: done) rest := by
  have hvalid : c.toNat < 0xd800 ∨ 0xdfff < c.toNat ∧ c.toNat < 0x110000 := c.valid
  rw [charEscape]
  simp only
  split
  · next h => exact string_unitEscape h (unitSign?_toNat c rest)
  · next h =>
    have hhigh : Sign.isHighHalf (0xd800 + (c.toNat - 0x10000) / 1024) := by
      simp [Sign.isHighHalf]
      omega
    have hlow : Sign.isLowHalf (0xdc00 + (c.toNat - 0x10000) % 1024) := by
      simp [Sign.isLowHalf]
      omega
    have hchar : Sign.ofHalves (0xd800 + (c.toNat - 0x10000) / 1024)
        (0xdc00 + (c.toNat - 0x10000) % 1024) = c := by
      have hcode : 0x10000 + (0xd800 + (c.toNat - 0x10000) / 1024 - 0xd800) * 1024
          + (0xdc00 + (c.toNat - 0x10000) % 1024 - 0xdc00) = c.toNat := by
        omega
      rw [Sign.ofHalves, hcode, Char.ofNat_toNat]
    rw [List.append_assoc, string_unitEscape (by omega) (unitSign?_pair hhigh hlow rest), hchar]

/-- A character is read from how it is quoted. -/
theorem string_quotedChar (c : Char) :
    string strict (fuel + 1) done (quotedChar asciiOnly c ++ rest)
      = string strict fuel (.char c :: done) rest := by
  rw [quotedChar.eq_def]
  split
  any_goals rfl
  next hquote hback _ _ _ _ _ =>
    split
    · next hcontrol => exact string_unitEscape (by omega) (unitSign?_toNat c rest)
    · next hcontrol =>
      split
      · exact string_charEscape c
      · rw [List.singleton_append, string.eq_def]
        simp only [if_neg hquote, if_neg hback, if_neg hcontrol]

/-! ## Quoted texts -/

/-- The escape of a code unit that is no low half is none. -/
theorem lowHalf?_unitEscape {u : Nat} (hu : u < 0x10000) (hlow : Sign.isLowHalf u = false) :
    lowHalf? (unitEscape u ++ rest) = none := by
  simp [unitEscape, lowHalf?, hexUnit?_hex4 hu, hlow]

/-- What a character is quoted as does not begin with a low half. -/
theorem lowHalf?_quotedChar (c : Char) : lowHalf? (quotedChar asciiOnly c ++ rest) = none := by
  have hlow : Sign.isLowHalf c.toNat = false := (Bool.or_eq_false_iff.1 (isHalf_toNat c)).2
  rw [quotedChar.eq_def]
  split
  any_goals rfl
  next hquote hback _ _ _ _ _ =>
    split
    · next hcontrol => exact lowHalf?_unitEscape (by omega) hlow
    · split
      · rw [charEscape]
        simp only
        split
        · next h => exact lowHalf?_unitEscape h hlow
        · have hvalid : c.toNat < 0xd800 ∨ 0xdfff < c.toNat ∧ c.toNat < 0x110000 := c.valid
          rw [List.append_assoc]
          refine lowHalf?_unitEscape (by omega) ?_
          simp [Sign.isLowHalf]
          omega
      · rw [lowHalf?.eq_def]
        split
        · next heq => exact absurd (List.cons.inj heq).1 hback
        · rfl

section
variable {s : Sign} (hstyle : asciiOnly ∨ strict) (hs : s.Proper strict)
include hstyle hs

/-- What a sign that is no low half is quoted as does not begin with a low half. -/
theorem lowHalf?_quotedSign (hlow : s.isLow = false) :
    lowHalf? ((quotedSign asciiOnly s).map Sign.legible ++ rest) = none := by
  cases s with
  | char c =>
    rw [quotedSign, map_legible_ofChars]
    exact lowHalf?_quotedChar c
  | half u =>
    obtain ⟨hhalf, hstrict⟩ := hs
    have hascii : asciiOnly = true := hstyle.resolve_right (by simp [hstrict])
    rw [quotedSign, if_pos hascii, map_legible_ofChars]
    exact lowHalf?_unitEscape (lt_of_isHalf hhalf) hlow

/-- A sign is read from how it is quoted, if what follows is no second half to it. -/
theorem string_quotedSign (hrest : s.isHigh → lowHalf? rest = none) :
    string strict (fuel + 1) done ((quotedSign asciiOnly s).map Sign.legible ++ rest)
      = string strict fuel (s :: done) rest := by
  cases s with
  | char c =>
    rw [quotedSign, map_legible_ofChars]
    exact string_quotedChar c
  | half u =>
    obtain ⟨hhalf, hstrict⟩ := hs
    have hascii : asciiOnly = true := hstyle.resolve_right (by simp [hstrict])
    rw [quotedSign, if_pos hascii, map_legible_ofChars]
    exact string_unitEscape (lt_of_isHalf hhalf) (unitSign?_half hhalf hstrict hrest)

end

/-- Signs are read from how they are quoted. -/
theorem string_quotedSigns (hstyle : asciiOnly ∨ strict) {signs : List Sign}
    (h : Readable strict signs) (hfuel : signs.length < fuel) (rest : List Char) :
    string strict fuel done
        ((signs.flatMap (quotedSign asciiOnly)).map Sign.legible ++ '"' :: rest)
      = .ok (⟨done.reverse ++ signs⟩, rest) := by
  induction signs generalizing fuel done with
  | nil =>
    obtain ⟨fuel, rfl⟩ : ∃ n, fuel = n + 1 := ⟨fuel - 1, by simp at hfuel; omega⟩
    simp [string]
  | cons s signs ih =>
    obtain ⟨fuel, rfl⟩ : ∃ n, fuel = n + 1 := ⟨fuel - 1, by simp at hfuel; omega⟩
    obtain ⟨hproper, hapart⟩ := h
    rw [List.isChain_cons] at hapart
    have hnext : s.isHigh →
        lowHalf? ((signs.flatMap (quotedSign asciiOnly)).map Sign.legible ++ '"' :: rest)
          = none := by
      intro hhigh
      cases signs with
      | nil => rfl
      | cons b signs =>
        rw [List.flatMap_cons, List.map_append, List.append_assoc]
        exact lowHalf?_quotedSign hstyle (hproper b (by simp)) (hapart.1 b rfl hhigh)
    rw [List.flatMap_cons, List.map_append, List.append_assoc,
      string_quotedSign hstyle (hproper s (by simp)) hnext,
      ih ⟨fun b hb => hproper b (List.mem_cons_of_mem _ hb), hapart.2⟩ (by simp at hfuel; omega)]
    simp

/-- Every sign is quoted as something. -/
theorem quotedSign_ne_nil (asciiOnly : Bool) (s : Sign) : quotedSign asciiOnly s ≠ [] := by
  cases s with
  | char c =>
    rw [quotedSign, Spelling.ofChars, Ne, List.map_eq_nil_iff, quotedChar.eq_def]
    split
    any_goals simp
    split
    · simp [unitEscape]
    · split
      · rw [charEscape]
        simp only
        split <;> simp [unitEscape]
      · simp
  | half u =>
    rw [quotedSign]
    split <;> simp [Spelling.ofChars, unitEscape]

/-- Signs that are quoted are no fewer. -/
theorem length_le_quotedSigns (asciiOnly : Bool) (signs : List Sign) :
    signs.length ≤ ((signs.flatMap (quotedSign asciiOnly)).map Sign.legible).length := by
  induction signs with
  | nil => simp
  | cons s signs ih =>
    have hpos := List.length_pos_iff.2 (quotedSign_ne_nil asciiOnly s)
    simp only [List.flatMap_cons, List.map_append, List.length_append, List.length_map,
      List.length_cons] at ih ⊢
    omega

/-- A quoted text is read, from after the first quote on. -/
theorem string_quoted (hstyle : asciiOnly ∨ strict) {t : Spelling}
    (h : Readable strict t.signs) (rest : List Char) :
    ∃ cs, (quote asciiOnly t).signs.map Sign.legible ++ rest = '"' :: cs
      ∧ string strict (cs.length + 1) [] cs = .ok (t, rest) := by
  refine ⟨(t.signs.flatMap (quotedSign asciiOnly)).map Sign.legible ++ '"' :: rest, ?_, ?_⟩
  · simp [quote, Sign.legible]
  · have hlength := length_le_quotedSigns asciiOnly t.signs
    rw [string_quotedSigns hstyle h _ rest]
    · rfl
    · rw [List.length_append]
      omega

/-! ## What is read -/

/-- What is read before a place in a text: it is readable, and no high half is joined with what
comes next. -/
structure Before (strict : Bool) (done : List Sign) (rest : List Char) : Prop where
  readable : Readable strict done.reverse
  parted : ∀ s ∈ done.head?, s.isHigh → lowHalf? rest = none

/-- Nothing is read yet. -/
theorem Before.nil (strict : Bool) (rest : List Char) : Before strict [] rest :=
  ⟨⟨by simp, by simp⟩, by simp⟩

/-- Another sign is read. -/
theorem Before.cons {s : Sign} (h : Before strict done rest) (hproper : s.Proper strict)
    (hlow : ∀ b ∈ done.head?, b.isHigh → s.isLow = false)
    (hparted : s.isHigh → lowHalf? more = none) : Before strict (s :: done) more := by
  refine ⟨⟨fun b hb => ?_, ?_⟩, fun b hb => ?_⟩
  · rw [List.reverse_cons, List.mem_append, List.mem_singleton] at hb
    rcases hb with hb | rfl
    · exact h.readable.proper b hb
    · exact hproper
  · rw [List.reverse_cons, List.isChain_append]
    refine ⟨h.readable.apart, by simp, fun a ha b hb => ?_⟩
    rw [List.getLast?_reverse] at ha
    obtain rfl : s = b := by simpa using hb
    exact hlow a ha
  · obtain rfl : s = b := by simpa using hb
    exact hparted

/-- Another character is read. -/
theorem Before.char (h : Before strict done rest) (c : Char) (more : List Char) :
    Before strict (.char c :: done) more :=
  h.cons trivial (fun _ _ _ => rfl) nofun

/-- Another code unit is read. -/
theorem Before.unit {u : Nat} {s : Sign} {after : List Char}
    (h : Before strict done ('\\' :: 'u' :: rest)) (hunit : hexUnit? rest = some (u, more))
    (hsign : unitSign? strict u more = some (s, after)) : Before strict (s :: done) after := by
  rw [unitSign?] at hsign
  split at hsign
  · cases hsign
    exact h.char _ _
  · next hpair =>
    split at hsign
    · next hhalf =>
      split at hsign
      · cases hsign
      · next hstrict =>
        cases hsign
        refine h.cons ⟨hhalf, by simpa using hstrict⟩ (fun b hb hhigh => ?_) fun hhigh => ?_
        · have hlow : Sign.isLowHalf u = false := by
            simpa [lowHalf?, hunit] using h.parted b hb hhigh
          exact hlow
        · have hhigh : Sign.isHighHalf u = true := hhigh
          rwa [if_pos hhigh] at hpair
    · cases hsign
      exact h.char _ _

/-- What is read is readable. -/
theorem string_readable {t : Spelling} (h : Before strict done rest)
    (hread : string strict fuel done rest = .ok (t, more)) : Readable strict t.signs := by
  induction fuel generalizing done rest with
  | zero => cases hread
  | succ fuel ih =>
    cases rest with
    | nil => cases hread
    | cons c rest =>
      rw [string.eq_def] at hread
      simp only at hread
      split at hread
      · cases hread
        exact h.readable
      · split at hread
        · next hback =>
          subst hback
          split at hread
          · split at hread
            · next hunit =>
              split at hread
              · next hsign => exact ih (h.unit hunit hsign) hread
              · cases hread
            · cases hread
          · split at hread
            · exact ih (h.char _ _) hread
            · cases hread
          · cases hread
        · split at hread
          · cases hread
          · exact ih (h.char _ _) hread

end Reader

end Json

end Sabotage
