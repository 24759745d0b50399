import Sabotage.Decimal.Layout
import Sabotage.Json.Reader
import Sabotage.Proofs.Decimals

/-!
# Numbers are read back from their texts

The digits of a natural number spell it, in a row or around a point. So a decimal that is laid out
as text is read as the float of the same number, whatever the layout (`numeral_render`), and an
integer of no more digits than are allowed is read as itself (`numeral_toDigits`). What comes after
must not look like more of the number (`Reader.Parted`).
-/

namespace Sabotage

open Text

namespace Json.Reader
variable {cs ds front part rest : List Char} {strict negative : Bool} {c : Char}

/-! ## The number that digits spell -/

/-- The number that digits spell, as the library has it. -/
theorem number_eq (ds : List Char) : number ds = Nat.ofDigitChars 10 ds 0 := by
  simp [number, ofDigits, Nat.ofDigitChars, List.foldl_map, Nat.mul_comm]

/-- The digits of a number spell it. -/
@[simp] theorem number_toDigits (n : Nat) : number (Nat.toDigits 10 n) = n := by
  rw [number_eq, Nat.ofDigitChars_ten_toDigits]

/-- Digits after digits. -/
theorem number_append (cs ds : List Char) :
    number (cs ++ ds) = number cs * 10 ^ ds.length + number ds := by
  rw [number_eq, number_eq, number_eq, Nat.ofDigitChars_append,
    Nat.ofDigitChars_eq_ofDigitChars_zero, Nat.mul_comm]

/-- Zeros spell zero. -/
@[simp] theorem number_replicate (k : Nat) : number (List.replicate k '0') = 0 := by
  rw [number_eq, Nat.ofDigitChars_replicate_zero, Nat.mul_zero]

/-- A zero in front does not count. -/
theorem number_zero_cons (ds : List Char) : number ('0' :: ds) = number ds := by
  have hzero : number ['0'] = 0 := rfl
  rw [← List.singleton_append, number_append, hzero, Nat.zero_mul, Nat.zero_add]

/-- A digit in terms of the library. -/
theorem isAsciiDigit_eq (c : Char) : isAsciiDigit c = c.isDigit := rfl

/-- The digits of a number are digits. -/
theorem isAsciiDigit_of_mem_toDigits {n : Nat} (h : c ∈ Nat.toDigits 10 n) : isAsciiDigit c :=
  Nat.isDigit_of_mem_toDigits (by decide) (by decide) h

/-- Zeros are digits. -/
theorem isAsciiDigit_of_mem_replicate {k : Nat} (h : c ∈ List.replicate k '0') :
    isAsciiDigit c := by
  rw [List.eq_of_mem_replicate h]
  rfl

/-- The digits of a number begin with a zero for zero only. -/
theorem head?_toDigits {n : Nat} (h : 0 < n) : (Nat.toDigits 10 n).head? ≠ some '0' := by
  induction n using Nat.strongRecOn with
  | ind n ih =>
    by_cases hn : n < 10
    · rw [Nat.toDigits_of_lt_base hn]
      simpa using h.ne'
    · rw [Nat.toDigits_of_base_le (by decide) (by omega),
        List.head?_append_of_ne_nil _ Nat.toDigits_ne_nil]
      exact ih (n / 10) (by omega) (by omega)

/-! ## Parts of a number -/

/-- The characters that a number can go on with. -/
def continues (c : Char) : Bool :=
  isAsciiDigit c || c == '.' || c == 'e' || c == 'E'

/-- What does not go on with a number. -/
def Parted (rest : List Char) : Prop :=
  ∀ c ∈ rest.head?, continues c = false

namespace Parted

theorem not_digit (h : Parted rest) : ∀ c ∈ rest.head?, isAsciiDigit c = false := by
  intro c hc
  have := h c hc
  simp_all [continues]

theorem not_point (h : Parted rest) : ∀ c ∈ rest.head?, c ≠ '.' := by
  intro c hc
  have := h c hc
  simp_all [continues]

theorem not_exponent (h : Parted rest) : ∀ c ∈ rest.head?, c ≠ 'e' ∧ c ≠ 'E' := by
  intro c hc
  have := h c hc
  simp_all [continues]

end Parted

/-- Digits end where there is no digit. -/
theorem digits_append (hds : ∀ c ∈ ds, isAsciiDigit c)
    (hrest : ∀ c ∈ rest.head?, isAsciiDigit c = false) : digits (ds ++ rest) = (ds, rest) := by
  rw [digits, List.span_eq_takeWhile_dropWhile, List.takeWhile_append_of_pos hds,
    List.dropWhile_append_of_pos hds]
  cases rest with
  | nil => simp
  | cons c rest =>
    have hc := hrest c rfl
    simp [hc]

/-- Digits that are a whole part: one zero, or digits that do not begin with one. -/
structure Whole (ds : List Char) : Prop where
  digits : ∀ c ∈ ds, isAsciiDigit c
  ne_nil : ds ≠ []
  head : ds.head? = some '0' → ds = ['0']

/-- The digits of a number are a whole part. -/
theorem whole_toDigits (n : Nat) : Whole (Nat.toDigits 10 n) where
  digits _ := isAsciiDigit_of_mem_toDigits
  ne_nil := Nat.toDigits_ne_nil
  head h := by
    rcases Nat.eq_zero_or_pos n with rfl | hpos
    · exact Nat.toDigits_zero 10
    · exact absurd h (head?_toDigits hpos)

/-- Zeros behind a whole part make another one, unless they stand behind a zero. -/
theorem Whole.append_zeros (h : Whole ds) {k : Nat} (hzero : ds.head? = some '0' → k = 0) :
    Whole (ds ++ List.replicate k '0') where
  digits c hc := by
    rcases List.mem_append.1 hc with hc | hc
    · exact h.digits c hc
    · exact isAsciiDigit_of_mem_replicate hc
  ne_nil := List.append_ne_nil_of_left_ne_nil h.ne_nil _
  head hhead := by
    rw [List.head?_append_of_ne_nil _ h.ne_nil] at hhead
    rw [hzero hhead, List.replicate_zero, List.append_nil, h.head hhead]

/-- The first digits of a whole part that goes on are a whole part. -/
theorem Whole.take (h : Whole ds) {w : Nat} (hpos : 0 < w) (hlt : w < ds.length) :
    Whole (ds.take w) where
  digits c hc := h.digits c (List.mem_of_mem_take hc)
  ne_nil := by
    rw [Ne, List.take_eq_nil_iff]
    exact not_or.2 ⟨hpos.ne', h.ne_nil⟩
  head hhead := by
    rw [List.head?_take, if_neg hpos.ne'] at hhead
    rw [h.head hhead, List.length_singleton] at hlt
    omega

/-- The whole part is found. -/
theorem wholePart_append (h : Whole ds) (hrest : ∀ c ∈ rest.head?, isAsciiDigit c = false) :
    wholePart (ds ++ rest) = some (ds, rest) := by
  obtain ⟨c, cs, rfl⟩ := List.exists_cons_of_ne_nil h.ne_nil
  by_cases hc : c = '0'
  · obtain rfl : cs = [] := by simpa [hc] using h.head
    rw [hc]
    rfl
  · rw [wholePart.eq_def]
    split
    · next heq => exact absurd (List.cons.inj heq).1 hc
    · rw [digits_append h.digits hrest]

/-- A fraction is found. -/
theorem fractionPart_append (hds : ∀ c ∈ ds, isAsciiDigit c) (hne : ds ≠ [])
    (hrest : ∀ c ∈ rest.head?, isAsciiDigit c = false) :
    fractionPart ('.' :: (ds ++ rest)) = some (ds, rest) := by
  obtain ⟨c, cs, rfl⟩ := List.exists_cons_of_ne_nil hne
  rw [fractionPart, digits_append hds hrest]

/-- Without a point there is no fraction. -/
theorem fractionPart_eq_none (h : ∀ c ∈ rest.head?, c ≠ '.') : fractionPart rest = none := by
  rw [fractionPart.eq_def]
  split
  · exact absurd rfl (h '.' rfl)
  · rfl

/-- Without a letter for it there is no exponent. -/
theorem exponentPart_eq_none (h : ∀ c ∈ rest.head?, c ≠ 'e' ∧ c ≠ 'E') :
    exponentPart rest = none := by
  cases rest with
  | nil => rfl
  | cons c rest =>
    rw [exponentPart, if_neg (not_or.2 (h c rfl))]

/-- An exponent is written with its sign and digits that spell it, whatever zeros are in front. -/
theorem exponent_eq (l : Decimal.Layout) (e : Int) :
    ∃ ds, l.exponent e = 'e' :: (if e < 0 then '-' else '+') :: ds ∧ (∀ c ∈ ds, isAsciiDigit c) ∧
      ds ≠ [] ∧ number ds = e.natAbs := by
  refine ⟨_, rfl, fun c hc => ?_, by simp [Nat.toDigits_ne_nil], by simp [number_append]⟩
  rcases List.mem_append.1 hc with hc | hc
  · exact isAsciiDigit_of_mem_replicate hc
  · exact isAsciiDigit_of_mem_toDigits hc

/-- An integer is put together from its sign and the rest. -/
theorem signed_natAbs (e : Int) : Numeral.signed (decide (e < 0)) e.natAbs = e := by
  by_cases he : e < 0 <;> simp only [Numeral.signed, he, decide_true, decide_false, if_true,
    Bool.false_eq_true, if_false] <;> omega

/-- An exponent is found, whatever zeros are in front of it. -/
theorem exponentPart_append (l : Decimal.Layout) (e : Int)
    (hrest : ∀ c ∈ rest.head?, isAsciiDigit c = false) :
    exponentPart (l.exponent e ++ rest) = some (e, rest) := by
  obtain ⟨ds, heq, hdigits, hne, hnumber⟩ := exponent_eq l e
  obtain ⟨b, bs, rfl⟩ := List.exists_cons_of_ne_nil hne
  have hsplit := digits_append hdigits hrest
  have hsign : Numeral.sign ((if e < 0 then '-' else '+') :: (b :: bs ++ rest))
      = (decide (e < 0), b :: bs ++ rest) := by
    split <;> simp [Numeral.sign, *]
  rw [heq, List.cons_append, List.cons_append, exponentPart, if_pos (.inl rfl), hsign]
  simp only [hsplit, hnumber, signed_natAbs]

/-! ## Whole numbers -/

/-- An integer is read from its digits, if these are not too many. -/
theorem numeral_toDigits {n : Nat} (hn : Decimal.digitCount n ≤ Numeral.digitLimit)
    (hrest : Parted rest) :
    numeral strict negative (Nat.toDigits 10 n ++ rest)
      = .ok (.int (Numeral.signed negative n), rest) := by
  have hlimit : ¬ (Nat.toDigits 10 n).length > Numeral.digitLimit := Nat.not_lt.2 hn
  rw [numeral, wholePart_append (whole_toDigits n) hrest.not_digit]
  simp only [hlimit, decide_false, Bool.and_false, Bool.false_eq_true, if_false,
    fractionPart_eq_none hrest.not_point, exponentPart_eq_none hrest.not_exponent, number_toDigits]

/-! ## Decimals -/

section
variable (hwhole : Whole front) (hlimit : front.length ≤ Numeral.digitLimit)
include hwhole hlimit

/-- A number with an exponent. -/
theorem numeral_exponent (l : Decimal.Layout) (e : Int) (hrest : Parted rest) :
    numeral strict negative (front ++ (l.exponent e ++ rest))
      = .ok (.float (Numeral.signedFloat negative ⟨number front, e⟩), rest) := by
  have hlimit : ¬ front.length > Numeral.digitLimit := Nat.not_lt.2 hlimit
  rw [numeral, wholePart_append hwhole (by rintro c ⟨⟩; rfl)]
  simp only [hlimit, decide_false, Bool.and_false, Bool.false_eq_true, if_false,
    exponentPart_append l e hrest.not_digit]
  rw [fractionPart_eq_none (by rintro c ⟨⟩; decide)]

variable (hpart : ∀ c ∈ part, isAsciiDigit c) (hne : part ≠ [])
include hpart hne

/-- A number with a point. -/
theorem numeral_point (hrest : Parted rest) :
    numeral strict negative (front ++ '.' :: (part ++ rest))
      = .ok (.float (Numeral.signedFloat negative ⟨number (front ++ part), -part.length⟩),
        rest) := by
  have hlimit : ¬ front.length > Numeral.digitLimit := Nat.not_lt.2 hlimit
  rw [numeral, wholePart_append hwhole (by rintro c ⟨⟩; rfl)]
  simp only [hlimit, decide_false, Bool.and_false, Bool.false_eq_true, if_false,
    fractionPart_append hpart hne hrest.not_digit, exponentPart_eq_none hrest.not_exponent,
    Option.getD_none, zero_sub]

/-- A number with a point and an exponent. -/
theorem numeral_point_exponent (l : Decimal.Layout) (e : Int) (hrest : Parted rest) :
    numeral strict negative (front ++ '.' :: (part ++ (l.exponent e ++ rest)))
      = .ok (.float (Numeral.signedFloat negative ⟨number (front ++ part), e - part.length⟩),
        rest) := by
  have hlimit : ¬ front.length > Numeral.digitLimit := Nat.not_lt.2 hlimit
  rw [numeral, wholePart_append hwhole (by rintro c ⟨⟩; rfl)]
  simp only [hlimit, decide_false, Bool.and_false, Bool.false_eq_true, if_false]
  rw [fractionPart_append hpart hne (by rintro c ⟨⟩; rfl)]
  simp only [exponentPart_append l e hrest.not_digit, Option.getD_some]

end

end Json.Reader

namespace Decimal
open Json.Reader
variable {rest : List Char} {strict negative : Bool}

/-- The significant digits of a number are its digits up to zeros at the end. -/
theorem toDigits_eq_significant {n : Nat} (h : 0 < n) :
    ∃ k, Nat.toDigits 10 n = significantDigits n ++ List.replicate k '0' := by
  obtain ⟨zeros, hzeros⟩ : ∃ zs, zs = (Nat.toDigits 10 n).reverse.takeWhile (· == '0') := ⟨_, rfl⟩
  obtain ⟨front, hfront⟩ : ∃ ds, ds = (Nat.toDigits 10 n).reverse.dropWhile (· == '0') := ⟨_, rfl⟩
  have hreplicate : zeros = List.replicate zeros.length '0' := by
    refine List.eq_replicate_of_mem fun c hc => ?_
    rw [hzeros] at hc
    simpa using List.all_eq_true.1 List.all_takeWhile c hc
  have hsplit : Nat.toDigits 10 n = front.reverse ++ List.replicate zeros.length '0' := by
    rw [← List.reverse_inj, List.reverse_append, List.reverse_reverse, List.reverse_replicate,
      ← hreplicate, hzeros, hfront, List.takeWhile_append_dropWhile]
  refine ⟨zeros.length, ?_⟩
  rw [significantDigits, ← hfront]
  split
  · next hnil =>
    have hnumber := number_toDigits n
    rw [hsplit, hnil, List.nil_append, number_replicate] at hnumber
    omega
  · exact hsplit

/-- The number of a decimal in terms of its significant digits. -/
theorem value_eq_significant {d : Decimal} (h : 0 < d.coefficient) :
    ∃ ds, significantDigits d.coefficient = ds ∧ Whole ds ∧ ds.head? ≠ some '0'
      ∧ d.value = value ⟨number ds, (digitCount d.coefficient : Int) + d.exponent - ds.length⟩ := by
  obtain ⟨k, hk⟩ := toDigits_eq_significant h
  refine ⟨_, rfl, ?_⟩
  have hwhole := whole_toDigits d.coefficient
  have hhead := head?_toDigits h
  have hnumber := number_toDigits d.coefficient
  generalize significantDigits d.coefficient = ds at hk
  rw [hk] at hwhole hhead
  have hne : ds ≠ [] := by
    rintro rfl
    rw [hk, List.nil_append, number_replicate] at hnumber
    omega
  rw [List.head?_append_of_ne_nil _ hne] at hhead
  refine ⟨⟨fun c hc => hwhole.digits c (List.mem_append_left _ hc), hne, fun h => absurd h hhead⟩,
    hhead, ?_⟩
  have hcoefficient : d.coefficient = number ds * 10 ^ k := by
    rw [← hnumber, hk, number_append, number_replicate, List.length_replicate, Nat.add_zero]
  have hcount : digitCount d.coefficient = ds.length + k := by
    rw [digitCount, hk, List.length_append, List.length_replicate]
  calc d.value = value ⟨number ds * 10 ^ k, d.exponent⟩ := by rw [← hcoefficient]
    _ = value ⟨number ds, d.exponent + k⟩ := value_scale _ _ _
    _ = value ⟨number ds, (digitCount d.coefficient : Int) + d.exponent - ds.length⟩ := by
      rw [hcount]
      congr 2
      omega

/-- The shapes that a decimal is laid out in, with a point, an exponent or both, and the number that
its digits spell there. -/
inductive Layout.Shape (l : Layout) : List Char → Decimal → Prop
  | point {front part : List Char} (hfront : Whole front)
    (hlimit : front.length ≤ Numeral.digitLimit) (hpart : ∀ c ∈ part, isAsciiDigit c)
    (hne : part ≠ []) : Shape l (front ++ '.' :: part) ⟨number (front ++ part), -part.length⟩
  | exponent {front : List Char} (hfront : Whole front)
    (hlimit : front.length ≤ Numeral.digitLimit) (e : Int) :
    Shape l (front ++ l.exponent e) ⟨number front, e⟩
  | pointExponent {front part : List Char} (hfront : Whole front)
    (hlimit : front.length ≤ Numeral.digitLimit) (hpart : ∀ c ∈ part, isAsciiDigit c)
    (hne : part ≠ []) (e : Int) :
    Shape l (front ++ '.' :: (part ++ l.exponent e)) ⟨number (front ++ part), e - part.length⟩

namespace Layout
variable {l : Layout} {ds : List Char}

/-- Digits behind the point, zeros filled in before them. -/
theorem shape_below_one (hds : Whole ds) (k : Nat) :
    ∃ d : Decimal, d.value = value ⟨number ds, -k - ds.length⟩
      ∧ l.Shape ('0' :: '.' :: (List.replicate k '0' ++ ds)) d := by
  have hzero : Whole ['0'] := whole_toDigits 0
  have hpart : ∀ c ∈ List.replicate k '0' ++ ds, isAsciiDigit c := by
    intro c hc
    rcases List.mem_append.1 hc with hc | hc
    · exact isAsciiDigit_of_mem_replicate hc
    · exact hds.digits c hc
  refine ⟨_, ?_, .point hzero (by decide) hpart (by simp [hds.ne_nil])⟩
  congr 2
  · rw [List.singleton_append, number_zero_cons, number_append, number_replicate, Nat.zero_mul,
      Nat.zero_add]
  · rw [List.length_append, List.length_replicate]
    omega

/-- Digits before the point, zeros filled in behind them. -/
theorem shape_whole {w : Nat} (hds : Whole ds) (hhead : ds.head? = some '0' → w = 1)
    (hlimit : w ≤ Numeral.digitLimit) (hle : ds.length ≤ w) :
    ∃ d : Decimal, d.value = value ⟨number ds, w - ds.length⟩
      ∧ l.Shape (ds ++ List.replicate (w - ds.length) '0' ++ ['.', '0']) d := by
  have hpart : ∀ c ∈ ['0'], isAsciiDigit c := (whole_toDigits 0).digits
  have hlength : (ds ++ List.replicate (w - ds.length) '0').length ≤ Numeral.digitLimit := by
    rw [List.length_append, List.length_replicate]
    omega
  have hfront : Whole (ds ++ List.replicate (w - ds.length) '0') :=
    hds.append_zeros fun hzero => by
      rw [hhead hzero, hds.head hzero]
      rfl
  refine ⟨_, ?_, .point hfront hlength hpart (by simp)⟩
  have hnumber : number (ds ++ List.replicate (w - ds.length) '0' ++ ['0'])
      = number ds * 10 ^ (w - ds.length + 1) := by
    rw [List.append_assoc, number_append, ← List.replicate_succ', number_replicate,
      Nat.add_zero, List.length_replicate]
  rw [hnumber, value_scale]
  congr 2
  simp only [List.length_singleton]
  omega

/-- Digits on both sides of the point. -/
theorem shape_among {w : Nat} (hds : Whole ds) (hlimit : w ≤ Numeral.digitLimit) (hpos : 0 < w)
    (hlt : w < ds.length) :
    ∃ d : Decimal, d.value = value ⟨number ds, w - ds.length⟩
      ∧ l.Shape (ds.take w ++ '.' :: ds.drop w) d := by
  have hlength : (ds.take w).length ≤ Numeral.digitLimit :=
    (List.length_take_le w ds).trans hlimit
  have hpart : ∀ c ∈ ds.drop w, isAsciiDigit c := fun c hc => hds.digits c (List.mem_of_mem_drop hc)
  have hne : ds.drop w ≠ [] := fun h => absurd (List.drop_eq_nil_iff.1 h) (by omega)
  refine ⟨_, ?_, .point (hds.take hpos hlt) hlength hpart hne⟩
  rw [List.take_append_drop, List.length_drop]
  congr 2
  omega

/-- Digits in positional notation have a point, zeros filled in on either side of it. -/
theorem shape_positional (hpoint : l.pointZero = true) {whole : Int} (hds : Whole ds)
    (hhead : ds.head? = some '0' → whole = 1) (hlimit : whole ≤ Numeral.digitLimit) :
    ∃ d : Decimal, d.value = value ⟨number ds, whole - ds.length⟩
      ∧ l.Shape (l.positional ds whole) d := by
  rw [positional, if_pos hpoint]
  split
  · next hwhole =>
    obtain ⟨k, rfl⟩ : ∃ k : Nat, whole = -k := ⟨(-whole).toNat, by omega⟩
    rw [neg_neg, Int.toNat_natCast]
    exact shape_below_one hds k
  · next hwhole =>
    obtain ⟨w, rfl⟩ : ∃ w : Nat, whole = w := ⟨whole.toNat, by omega⟩
    simp only [Int.toNat_natCast]
    split
    · next hdrop =>
      have hle : ds.length ≤ w := List.drop_eq_nil_iff.1 hdrop
      rw [List.take_of_length_le hle]
      exact shape_whole hds (fun h => by have := hhead h; omega) (by omega) hle
    · next hdrop =>
      have hlt : w < ds.length := by
        by_contra hle
        exact hdrop (List.drop_eq_nil_of_le (by omega))
      have hzeros : w - ds.length = 0 := by omega
      rw [hzeros, List.replicate_zero, List.append_nil]
      exact shape_among hds (by omega) (by omega) hlt

/-- Digits in scientific notation have a point behind the first of them, if there are others. -/
theorem shape_scientific {c : Char} {part : List Char} (hds : Whole (c :: part)) (hhead : c ≠ '0')
    (lead : Int) :
    ∃ d : Decimal, d.value = value ⟨number (c :: part), lead - part.length⟩ ∧
      l.Shape (match c :: part with
        | [] => l.exponent lead
        | [c] => c :: l.exponent lead
        | c :: rest => c :: '.' :: rest ++ l.exponent lead) d := by
  cases part with
  | nil =>
    refine ⟨_, ?_, .exponent hds (by simp [Numeral.digitLimit]) lead⟩
    simp
  | cons b part =>
    have hfront : Whole [c] :=
      ⟨fun x hx => hds.digits x (List.mem_singleton.1 hx ▸ List.mem_cons_self), by simp,
        fun hzero => absurd (Option.some.inj hzero) hhead⟩
    exact ⟨_, rfl, .pointExponent hfront (by simp [Numeral.digitLimit])
      (fun x hx => hds.digits x (List.mem_cons_of_mem _ hx)) (by simp) lead⟩

/-- A decimal is laid out in one of the shapes, and its number stays. -/
theorem shape_render (hpoint : l.pointZero = true)
    (hlimit : l.positionalBelow ≤ Numeral.digitLimit) (d : Decimal) :
    ∃ d' : Decimal, d'.value = d.value ∧ l.Shape (l.render d) d' := by
  rw [render]
  split
  · next hzero =>
    obtain ⟨d', hvalue, hshape⟩ := shape_positional hpoint (whole_toDigits 0) (fun _ => rfl)
      (by decide)
    refine ⟨d', ?_, hshape⟩
    rw [hvalue, value_eq_zero_iff.2 hzero, value_eq_zero_iff]
    rfl
  · next hpos =>
    obtain ⟨ds, hds, hwhole, hhead, hvalue⟩ := value_eq_significant (Nat.pos_of_ne_zero hpos)
    obtain ⟨lead, hlead⟩ : ∃ lead, lead = (digitCount d.coefficient : Int) - 1 + d.exponent :=
      ⟨_, rfl⟩
    have hexponent : (digitCount d.coefficient : Int) + d.exponent - ds.length
        = lead + 1 - ds.length := by
      omega
    rw [hexponent] at hvalue
    simp only [hds, ← hlead]
    rw [hvalue]
    split
    · next hrange =>
      have hshort : lead + 1 ≤ Numeral.digitLimit := by omega
      exact shape_positional hpoint hwhole (fun h => absurd h hhead) hshort
    · obtain ⟨c, part, rfl⟩ := List.exists_cons_of_ne_nil hwhole.ne_nil
      have hlength : lead + 1 - ((c :: part).length : Int) = lead - part.length := by
        rw [List.length_cons]
        omega
      rw [hlength]
      exact shape_scientific hwhole (fun h => hhead (congrArg some h)) lead

end Layout

/-- Decimals of one number are one float with a sign. -/
theorem signedFloat_congr {d d' : Decimal} (h : d.value = d'.value) (negative : Bool) :
    Numeral.signedFloat negative d = Numeral.signedFloat negative d' := by
  rw [Numeral.signedFloat, Numeral.signedFloat, toFloat_congr h]

/-- The shortest decimal of a finite float is that float, with its sign. -/
theorem signedFloat_shortest {x : Float} (h : x.isFinite) :
    Numeral.signedFloat (isNegative x) (shortest x) = x := by
  rw [Numeral.signedFloat, toFloat_shortest h]
  exact Binary64.signed_abs x

/-- A decimal in one of the shapes reads as the float of the number that its digits spell. -/
theorem Layout.Shape.numeral_eq {l : Layout} {cs : List Char} {d : Decimal} (h : l.Shape cs d)
    (hrest : Parted rest) :
    numeral strict negative (cs ++ rest)
      = .ok (.float (Numeral.signedFloat negative d), rest) := by
  cases h with
  | point hfront hlimit hpart hne =>
    rw [List.append_assoc]
    exact numeral_point hfront hlimit hpart hne hrest
  | exponent hfront hlimit e =>
    rw [List.append_assoc]
    exact numeral_exponent hfront hlimit l e hrest
  | pointExponent hfront hlimit hpart hne e =>
    simp only [List.append_assoc, List.cons_append]
    exact numeral_point_exponent hfront hlimit hpart hne l e hrest

variable (strict negative) in
/-- A decimal reads as the float of its number, whatever its layout. -/
theorem numeral_render {l : Layout} (hpoint : l.pointZero = true)
    (hlimit : l.positionalBelow ≤ Numeral.digitLimit) (d : Decimal) (hrest : Parted rest) :
    numeral strict negative (l.render d ++ rest)
      = .ok (.float (Numeral.signedFloat negative d), rest) := by
  obtain ⟨d', hvalue, hshape⟩ := Layout.shape_render hpoint hlimit d
  rw [← signedFloat_congr hvalue]
  exact hshape.numeral_eq hrest

end Decimal

end Sabotage
