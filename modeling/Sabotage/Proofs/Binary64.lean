import Mathlib
import Sabotage.Decimal.Shortest

/-!
# Binary floats of 64 bits

A float is a word of 64 bits, which `unpack` takes apart into a sign, a mantissa and an exponent.
`Canonical` says which mantissas and exponents fit: on these, packing and unpacking are inverse
(`unpack_pack`, `pack_unpack`), and a number that has such a form is rounded to itself
(`roundWithAccuracy_exact`), so that quotients and products come out exactly where they can
(`ofScientific_exact`).
-/

namespace Sabotage.Binary64

open Float.Model Float.Model.UnpackedFloat

/-! ## Canonical forms -/

/-- A mantissa and an exponent in the form that a float holds: the mantissa has 53 bits, or fewer
at the least exponent. -/
structure Canonical (m : Nat) (e : Int) : Prop where
  pos : 0 < m
  lt : m < 2 ^ 53
  least_le : -1074 ≤ e
  le_greatest : e ≤ 971
  full : 2 ^ 52 ≤ m ∨ e = -1074

/-- What a word of 64 bits stands for. -/
inductive Fits : UnpackedFloat → Prop
  | notANumber : Fits .notANumber
  | infinity (s : Sign) : Fits (.infinity s)
  | zero (s : Sign) : Fits (.zero s)
  | finite (s : Sign) {m : Nat} {e : Int} (h : Canonical m e) : Fits (.finite s m e h.pos)

theorem mantissaBits_eq : Format.binary64.mantissaBits = 53 := by decide

theorem minExponent_eq : Format.binary64.minExponent = -1074 := by decide

theorem exponentBias_eq : Format.binary64.exponentBias = 1023 := by decide

namespace Canonical
variable {m : Nat} {e : Int}

/-- A mantissa of 53 bits. -/
theorem log2_eq (h : Canonical m e) (hm : 2 ^ 52 ≤ m) : m.log2 = 52 :=
  (Nat.log2_eq_iff h.pos.ne').2 ⟨hm, h.lt⟩

/-- A canonical form has the exponent that its size calls for. -/
theorem targetExponent_eq (h : Canonical m e) :
    Format.binary64.targetExponent (totalExponent m e) = e := by
  have hle := h.least_le
  rw [Format.targetExponent, totalExponent, mantissaBits_eq, minExponent_eq]
  rcases h.full with hm | he
  · rw [h.log2_eq hm]
    omega
  · have hlog := (Nat.log2_lt h.pos.ne').2 h.lt
    omega

end Canonical

/-! ## Packing -/

@[simp] theorem ofBitVec_toBitVec (s : Sign) : Sign.ofBitVec s.toBitVec = s := by
  cases s <;> rfl

@[simp] theorem toBitVec_ofBitVec (b : BitVec 1) : (Sign.ofBitVec b).toBitVec = b := by
  rcases BitVec.eq_zero_or_eq_one b with rfl | rfl <;> rfl

/-- The sign is found in the word it was put in. -/
@[simp] theorem unpackSign_packComponents {spec : Format} {s : Sign}
    {e : BitVec spec.exponentBits} {m : BitVec spec.mantissaBitsWithoutImplicit} :
    unpackSign (packComponents spec s e m) = s.toBitVec := by
  ext i hi
  obtain rfl : i = 0 := by omega
  simp [unpackSign, packComponents, BitVec.getLsbD_append, BitVec.getElem_append]

/-- A word is put together from its parts. -/
theorem packComponents_unpack (b : BitVec Format.binary64.numBits) :
    packComponents .binary64 (Sign.ofBitVec (unpackSign b)) (unpackExponent b)
      (unpackMantissa b) = b := by
  rw [packComponents, toBitVec_ofBitVec]
  ext i hi
  simp [unpackSign, unpackExponent, unpackMantissa]
  grind

/-- The mantissa with the bit that is not stored. -/
theorem toNat_one_append (m : BitVec 52) : (1#1 ++ m).toNat = 2 ^ 52 + m.toNat := by
  rw [BitVec.toNat_append, ← Nat.shiftLeft_add_eq_or_of_lt m.isLt]
  rfl

/-- The form of a word whose exponent field is empty. -/
theorem Canonical.of_fraction {m : BitVec 52} (h : m ≠ 0#52) : Canonical m.toNat (-1074) where
  pos := by simpa [BitVec.toNat_pos, BitVec.pos_iff_ne_zero] using h
  lt := by omega
  least_le := by omega
  le_greatest := by omega
  full := .inr rfl

/-- The form of a word whose exponent field is neither empty nor full. -/
theorem Canonical.of_field {f : Nat} (hpos : 0 < f) (hlt : f < 2047) (m : BitVec 52) :
    Canonical (1#1 ++ m).toNat (f - 1075) := by
  have htotal := toNat_one_append m
  refine ⟨?_, ?_, ?_, ?_, .inl ?_⟩ <;> omega

/-- What a sign, an exponent field and a fraction stand for. -/
inductive Reads (s : Sign) : BitVec 11 → BitVec 52 → UnpackedFloat → Prop
  | infinity : Reads s 2047#11 0#52 (.infinity s)
  | notANumber {m : BitVec 52} (h : m ≠ 0#52) : Reads s 2047#11 m .notANumber
  | zero : Reads s 0#11 0#52 (.zero s)
  | low {m : BitVec 52} (h : m ≠ 0#52) :
    Reads s 0#11 m (.finite s m.toNat (-1074) (Canonical.of_fraction h).pos)
  | high {f : BitVec 11} (m : BitVec 52) (hpos : 0 < f.toNat) (hlt : f.toNat < 2047) :
    Reads s f m (.finite s (1#1 ++ m).toNat (f.toNat - 1075) (Canonical.of_field hpos hlt m).pos)

/-- What a word stands for, by its parts. -/
theorem reads_unpack (s : Sign) (f : BitVec 11) (m : BitVec 52) :
    Reads s f m (UnpackedFloat.unpack .binary64 (packComponents .binary64 s f m)) := by
  rw [UnpackedFloat.unpack, exponentBias_eq]
  simp only [unpackMantissa_packComponents, unpackExponent_packComponents,
    unpackSign_packComponents, ofBitVec_toBitVec]
  have hfield : f.toNat < 2048 := f.isLt
  split
  · next hfull =>
    obtain rfl : f = 2047#11 := hfull
    split
    · next hm =>
      subst hm
      exact .infinity
    · next hm => exact .notANumber hm
  · next hfull =>
    split
    · next hempty =>
      subst hempty
      split
      · next hm =>
        subst hm
        exact .zero
      · next hm => exact .low hm
    · next hempty =>
      simp [BitVec.toNat_eq] at hfull hempty
      exact .high m (by omega) (by omega)

/-- What parts of a word stand for fits. -/
theorem Reads.fits {s : Sign} {f : BitVec 11} {m : BitVec 52} {u : UnpackedFloat}
    (h : Reads s f m u) : Fits u := by
  cases h with
  | infinity => exact .infinity _
  | notANumber => exact .notANumber
  | zero => exact .zero _
  | low h => exact .finite _ (.of_fraction h)
  | high m hpos hlt => exact .finite _ (.of_field hpos hlt m)

/-- What a word stands for fits. -/
theorem fits_unpack (b : BitVec Format.binary64.numBits) :
    Fits (UnpackedFloat.unpack .binary64 b) := by
  rw [← packComponents_unpack b]
  exact (reads_unpack _ _ _).fits

/-- The exponent field of a canonical form. -/
def field (m : Nat) (e : Int) : Nat :=
  if 2 ^ 52 ≤ m then (e + 1075).toNat else 0

namespace Canonical
variable {m : Nat} {e : Int}

/-- Neither of the two fields that are kept for other things. -/
theorem field_lt (h : Canonical m e) : field m e < 2047 := by
  have := h.le_greatest
  rw [field]
  split <;> omega

/-- How a canonical form is packed. -/
theorem pack_eq (h : Canonical m e) (s : Sign) :
    UnpackedFloat.pack .binary64 (.finite s m e h.pos)
      = packComponents .binary64 s (.ofNat 11 (field m e)) (.ofNat 52 m) := by
  have hleast := h.least_le
  have hgreatest := h.le_greatest
  have hbias : (e + (1023 : Nat) + (52 : Nat)).toNat = (e + 1075).toNat := by omega
  rw [UnpackedFloat.pack, exponentBias_eq, mantissaBits_eq]
  simp only [hbias]
  rw [if_neg (by omega), field]
  split
  · next hlog =>
    rw [if_pos]
    by_contra hm
    have := (Nat.log2_lt h.pos.ne').2 (Nat.lt_of_not_le hm)
    omega
  · next hlog =>
    rw [if_neg]
    intro hm
    exact hlog (by rw [h.log2_eq hm])

/-- How a canonical form is found again. -/
theorem unpack_eq (h : Canonical m e) (s : Sign) :
    UnpackedFloat.unpack .binary64
      (packComponents .binary64 s (.ofNat 11 (field m e)) (.ofNat 52 m))
        = .finite s m e h.pos := by
  have hlt := h.lt
  have hpos := h.pos
  have hfield := h.field_lt
  have hleast := h.least_le
  rw [UnpackedFloat.unpack, exponentBias_eq]
  simp only [unpackMantissa_packComponents, unpackExponent_packComponents,
    unpackSign_packComponents, ofBitVec_toBitVec]
  have htoNat : (BitVec.ofNat 11 (field m e)).toNat = field m e := by
    rw [BitVec.toNat_ofNat]
    omega
  rw [if_neg (by rw [← BitVec.toNat_inj, htoNat]; simp; omega)]
  by_cases hm : 2 ^ 52 ≤ m
  · have hvalue : field m e = (e + 1075).toNat := if_pos hm
    rw [if_neg (by rw [← BitVec.toNat_inj, htoNat]; simp; omega)]
    have hmantissa : (1#1 ++ BitVec.ofNat 52 m).toNat = m := by
      rw [toNat_one_append, BitVec.toNat_ofNat]
      omega
    congr 1
    rw [htoNat]
    omega
  · have hvalue : field m e = 0 := if_neg hm
    have he := h.full.resolve_left hm
    have hmantissa : (BitVec.ofNat 52 m).toNat = m := by
      rw [BitVec.toNat_ofNat]
      omega
    rw [if_pos (by rw [hvalue]), dif_neg (by rw [← BitVec.toNat_inj, hmantissa]; simp; omega)]
    congr 1
    rw [htoNat]
    omega

end Canonical

/-- A canonical form is found in the word it was packed into. -/
theorem unpack_pack {u : UnpackedFloat} (h : Fits u) :
    UnpackedFloat.unpack .binary64 (UnpackedFloat.pack .binary64 u) = u := by
  cases h with
  | notANumber => rfl
  | infinity s => cases s <;> rfl
  | zero s => cases s <;> rfl
  | finite s h => rw [h.pack_eq, h.unpack_eq]

/-- What stands for something is packed into the same parts, if only one word stands for what is no
number. -/
theorem Reads.pack_eq {s : Sign} {f : BitVec 11} {m : BitVec 52} {u : UnpackedFloat}
    (h : Reads s f m u) (hvalid : Format.binary64.Valid (packComponents .binary64 s f m)) :
    UnpackedFloat.pack .binary64 u = packComponents .binary64 s f m := by
  cases h with
  | infinity => rfl
  | notANumber h =>
    exact (hvalid.eq_packedNaN (by simp) (by simpa using h)).symm
  | zero => rfl
  | low h =>
    have hfield : field m.toNat (-1074) = 0 := if_neg (by omega)
    rw [(Canonical.of_fraction h).pack_eq, hfield, BitVec.ofNat_toNat, BitVec.setWidth_eq]
  | high m hpos hlt =>
    have htotal := toNat_one_append m
    have hfield : field (1#1 ++ m).toNat (f.toNat - 1075) = f.toNat := by
      rw [field, if_pos (by omega)]
      omega
    have hfraction : BitVec.ofNat 52 (1#1 ++ m).toNat = m := by
      rw [← BitVec.toNat_inj, BitVec.toNat_ofNat, htotal]
      omega
    rw [(Canonical.of_field hpos hlt m).pack_eq, hfield, hfraction, BitVec.ofNat_toNat,
      BitVec.setWidth_eq]

/-- A word is packed from what it stands for, if only one word stands for what is no number. -/
theorem pack_unpack {b : BitVec Format.binary64.numBits} (h : Format.binary64.Valid b) :
    UnpackedFloat.pack .binary64 (UnpackedFloat.unpack .binary64 b) = b := by
  rw [← packComponents_unpack b] at h ⊢
  exact (reads_unpack _ _ _).pack_eq h

/-! ## Rounding what fits -/

/-- Bits that are empty are shifted out and leave nothing behind. -/
theorem shiftRight_mul_pow (m n : Nat) :
    (⟨m * 2 ^ n, false, false⟩ : ExtendedMantissa) >>> n = ⟨m, false, false⟩ := by
  have hrepeat (m n : Nat) : n.repeat ExtendedMantissa.shiftRightOne ⟨m * 2 ^ n, false, false⟩
      = ⟨m, false, false⟩ := by
    induction n generalizing m with
    | zero => simp [Nat.repeat]
    | succ n ih =>
      have hpow : m * 2 ^ (n + 1) = m * 2 * 2 ^ n := by ring
      rw [hpow, Nat.repeat, ih]
      simp [ExtendedMantissa.shiftRightOne]
  exact hrepeat m n

/-- A factor of a power of two is counted by the logarithm. -/
theorem log2_mul_two_pow {m : Nat} (h : m ≠ 0) (n : Nat) : (m * 2 ^ n).log2 = m.log2 + n := by
  induction n with
  | zero => simp
  | succ n ih =>
    have hpow : m * 2 ^ (n + 1) = 2 * (m * 2 ^ n) := by ring
    rw [hpow, Nat.log2_two_mul (Nat.mul_ne_zero h (by positivity)), ih]
    rfl

/-- Powers of two are brought to the sides of an equation where they are natural numbers. -/
theorem scale {a b : Nat} {e : Int} (hvalue : (a : ℚ) = b * 2 ^ e) {j k : Nat} (h : e + j = k) :
    a * 2 ^ j = b * 2 ^ k := by
  have hcast : (a : ℚ) * 2 ^ j = b * 2 ^ k := by
    rw [hvalue, mul_assoc, ← zpow_natCast 2 j, ← zpow_natCast 2 k, ← zpow_add₀ two_ne_zero, h]
  exact_mod_cast hcast

section
variable {m : Nat} {e : Int} (h : Canonical m e)
include h

/-- Zeros at its end do not change the exponent that a number calls for. -/
theorem totalExponent_mul_pow (n : Nat) :
    totalExponent (m * 2 ^ n) (e - n) = totalExponent m e := by
  rw [totalExponent, totalExponent, log2_mul_two_pow h.pos.ne']
  push_cast
  ring

/-- Zeros at its end are shifted out of a mantissa, and the rest is all there. -/
theorem shiftToTargetExponent_exact (n : Nat) :
    shiftToTargetExponent .binary64 (m * 2 ^ n) (e - n) .exact = (⟨m, false, false⟩, e) := by
  have hamount : (e - (e - n)).toNat = n := by omega
  rw [shiftToTargetExponent, totalExponent_mul_pow h, h.targetExponent_eq, shiftToExponent]
  simp only [hamount, ExtendedMantissa.ofMantissaAndAccuracy, shiftRight_mul_pow]
  simp

/-- A number that fits is rounded to itself. -/
theorem roundWithAccuracy_exact (s : Sign) (n : Nat) :
    roundWithAccuracy .binary64 s (m * 2 ^ n) (e - n) .exact = .finite s m e h.pos := by
  have hagain := shiftToTargetExponent_exact h 0
  simp only [pow_zero, mul_one, Nat.cast_zero, sub_zero] at hagain
  rw [roundWithAccuracy, shiftToTargetExponent_exact h n]
  simp only [ExtendedMantissa.roundedMantissa, ExtendedMantissa.accuracy,
    Accuracy.roundToNearestEven, hagain]
  rw [dif_neg h.pos.ne']

/-- A natural number that fits is not small. -/
theorem Canonical.neg_lt_of_nat {n : Nat} (hvalue : (n : ℚ) = m * 2 ^ e) : -53 < e := by
  by_contra hlt
  have hscale : n * 2 ^ (-e).toNat = m * 2 ^ 0 := scale hvalue (by omega)
  have hpow : 2 ^ 53 ≤ 2 ^ (-e).toNat := Nat.pow_le_pow_right (by decide) (by omega)
  have hm := h.lt
  have hpos := h.pos
  rcases Nat.eq_zero_or_pos n with rfl | hn
  · omega
  · nlinarith

/-- A natural number that fits is rounded to itself, with 53 more bits at its end as a product is
held before it is rounded. -/
theorem mul_exact {n : Nat} (hvalue : (n : ℚ) = m * 2 ^ e) :
    roundWithAccuracy .binary64 .positive (n * 2 ^ 53) (-53) .exact
      = .finite .positive m e h.pos := by
  have hlow := h.neg_lt_of_nat hvalue
  have hexp : (-53 : Int) = e - (e + 53).toNat := by omega
  rw [scale hvalue (j := 53) (k := (e + 53).toNat) (by omega)]
  conv_lhs => rw [hexp]
  exact roundWithAccuracy_exact h _ _

/-- A quotient that fits comes out exactly. -/
theorem div_exact {c d : Nat} (hc : 0 < c) (hd : 0 < d) (hvalue : (c : ℚ) = d * m * 2 ^ e) :
    UnpackedFloat.div .binary64 (.finite .positive c 0 hc) (.finite .positive d 0 hd)
      = .finite .positive m e h.pos := by
  have hleast := h.least_le
  have hmin := minExponent_eq
  have hbits := mantissaBits_eq
  have hvalue : (c : ℚ) = (d * m : Nat) * 2 ^ e := by rw [hvalue]; push_cast; rfl
  obtain ⟨t, ht⟩ : ∃ t, t = min (0 - 0) (Format.binary64.targetExponent
      (totalExponent c 0 - totalExponent d 0)) := ⟨_, rfl⟩
  have hle : t ≤ e := by
    rw [ht, Format.targetExponent, totalExponent, totalExponent, hbits, hmin]
    by_cases he : 0 ≤ e
    · omega
    · have hnat : c * 2 ^ (-e).toNat = d * m * 2 ^ 0 := scale hvalue (by omega)
      have hlog : c.log2 + (-e).toNat < d.log2 + 1 + 53 := by
        rw [← log2_mul_two_pow hc.ne', hnat, pow_zero, mul_one]
        refine (Nat.log2_lt (Nat.mul_ne_zero hd.ne' h.pos.ne')).2 ?_
        rw [pow_add]
        exact Nat.mul_lt_mul'' Nat.lt_log2_self h.lt
      omega
  obtain ⟨n, rfl⟩ : ∃ n : Nat, t = e - n := ⟨(e - t).toNat, by omega⟩
  have hshift : c <<< (0 - 0 - (e - n)).toNat = d * (m * 2 ^ n) := by
    rw [Nat.shiftLeft_eq, ← Nat.mul_assoc]
    exact scale hvalue (by omega)
  rw [UnpackedFloat.div, divCore, ← ht]
  simp only [hshift, Nat.mul_div_cancel_left _ hd, Nat.mul_mod_right, accuracyOfFraction, if_true]
  exact roundWithAccuracy_exact h _ n

/-- A number that fits has no great power of ten. -/
theorem upper {c : Nat} {k : Int} (hc : 0 < c) (hvalue : (c : ℚ) * 10 ^ k = m * 2 ^ e) :
    k ≤ 2048 := by
  by_contra hk
  have hle := h.le_greatest
  have hlarge : (c : ℚ) * 10 ^ k < c * 10 ^ k := by
    calc (c : ℚ) * 10 ^ k = m * 2 ^ e := hvalue
      _ < 2 ^ (53 : Int) * 2 ^ e := by
        gcongr
        exact_mod_cast h.lt
      _ = 2 ^ (53 + e) := (zpow_add₀ two_ne_zero _ _).symm
      _ ≤ 2 ^ k := zpow_le_zpow_right₀ (by norm_num) (by omega)
      _ ≤ 10 ^ k := zpow_le_zpow_left₀ (by omega) (by norm_num) (by norm_num)
      _ ≤ c * 10 ^ k := le_mul_of_one_le_left (by positivity) (by exact_mod_cast hc)
  exact lt_irrefl _ hlarge

/-- A number that fits has no small power of ten, unless its coefficient is long. -/
theorem lower {c : Nat} {k : Int} (hvalue : (c : ℚ) * 10 ^ k = m * 2 ^ e) :
    -(2048 + c.log2) ≤ k := by
  by_contra hk
  have hle := h.least_le
  have hpos := h.pos
  have hsmall : (m : ℚ) * 2 ^ e < m * 2 ^ e := by
    calc (m : ℚ) * 2 ^ e = c * 10 ^ k := hvalue.symm
      _ ≤ 2 ^ ((c.log2 + 1 : Nat) : Int) * 10 ^ k := by
        gcongr
        exact_mod_cast Nat.lt_log2_self.le
      _ ≤ 2 ^ ((c.log2 + 1 : Nat) : Int) * 2 ^ k := by
        gcongr
        obtain ⟨j, rfl⟩ : ∃ j : Nat, k = -j := ⟨(-k).toNat, by omega⟩
        rw [zpow_neg, zpow_neg, zpow_natCast, zpow_natCast]
        exact inv_anti₀ (by positivity) (pow_le_pow_left₀ (by norm_num) (by norm_num) j)
      _ = 2 ^ (((c.log2 + 1 : Nat) : Int) + k) := (zpow_add₀ two_ne_zero _ _).symm
      _ < 2 ^ e := zpow_lt_zpow_right₀ (by norm_num) (by omega)
      _ ≤ m * 2 ^ e := le_mul_of_one_le_left (by positivity) (by exact_mod_cast hpos)
  exact lt_irrefl _ hsmall

/-- A decimal that fits is the float of its number. -/
theorem ofScientific_exact {c : Nat} {k : Int} (hvalue : (c : ℚ) * 10 ^ k = m * 2 ^ e) :
    UnpackedFloat.ofScientific .binary64 c k = .finite .positive m e h.pos := by
  have hc : 0 < c := by
    rcases Nat.eq_zero_or_pos c with rfl | hc
    · have hpos := h.pos
      have : (0 : ℚ) < m * 2 ^ e := by positivity
      simp at hvalue
      rcases hvalue with h1 | h1 <;> simp_all
    · exact hc
  have hupper := upper h hc hvalue
  have hlower := lower h hvalue
  have hlimit : (2 ^ Format.binary64.exponentBits : Int) = 2048 := by norm_num
  rw [UnpackedFloat.ofScientific, dif_neg hc.ne', hlimit, if_neg (by omega), if_neg (by omega)]
  split
  · next hk =>
    have hnat : ((c * 10 ^ k.toNat : Nat) : ℚ) = m * 2 ^ e := by
      rw [← hvalue, Nat.cast_mul, Nat.cast_pow, ← zpow_natCast, Int.toNat_of_nonneg hk]
      rfl
    have hshift : c <<< 53 * 10 ^ k.toNat = c * 10 ^ k.toNat * 2 ^ 53 := by
      rw [Nat.shiftLeft_eq]
      ring
    simp only [mantissaBits_eq, UnpackedFloat.mul, hshift]
    exact mul_exact h hnat
  · next hk =>
    refine div_exact h _ _ ?_
    rw [mul_assoc, ← hvalue, Nat.cast_pow, ← zpow_natCast, Int.toNat_of_nonneg (by omega),
      mul_left_comm, Nat.cast_ofNat, ← zpow_add₀ (by norm_num)]
    simp

end

/-! ## Floats by their parts -/

/-- What a float stands for. -/
def parts (x : Float) : UnpackedFloat :=
  x.toModel.unpack

/-- The float that stands for something. -/
def ofParts (u : UnpackedFloat) : Float :=
  .ofModel (.pack u)

/-- A float holds what fits. -/
theorem fits_parts (x : Float) : Fits (parts x) :=
  fits_unpack _

@[simp] theorem ofParts_parts (x : Float) : ofParts (parts x) = x := by
  obtain ⟨⟨bits, hvalid⟩⟩ := x
  simp only [ofParts, parts, Float.Model.unpack, Float.Model.pack, pack_unpack hvalid]

/-- What fits is found in its float. -/
theorem parts_ofParts {u : UnpackedFloat} (h : Fits u) : parts (ofParts u) = u :=
  unpack_pack h

/-- A float is its word. -/
theorem toBits_inj {x y : Float} (h : x.toBits = y.toBits) : x = y := by
  obtain ⟨⟨b, hb⟩⟩ := x
  obtain ⟨⟨b', hb'⟩⟩ := y
  obtain rfl : b = b' := h
  rfl

/-- Negation turns the sign of what a float stands for. -/
theorem neg_eq (x : Float) : -x = ofParts (parts x).neg := rfl

/-- The absolute value drops the sign of what a float stands for. -/
theorem abs_eq (x : Float) : x.abs = ofParts (parts x).abs := rfl

theorem nan_eq : (0 / 0 : Float) = ofParts .notANumber := by
  decide +kernel

theorem inf_eq : (1 / 0 : Float) = ofParts (.infinity .positive) := by
  decide +kernel

theorem ninf_eq : -(1 / 0 : Float) = ofParts (.infinity .negative) := by
  decide +kernel

/-! ## The parts as the program takes them -/

/-- The sign of a float. -/
def signOf (x : Float) : Sign :=
  .ofBitVec (@unpackSign .binary64 x.toBits.toBitVec)

/-- The exponent field of a float. -/
def exponentField (x : Float) : BitVec 11 :=
  @unpackExponent .binary64 x.toBits.toBitVec

/-- The stored part of the mantissa of a float. -/
def fraction (x : Float) : BitVec 52 :=
  @unpackMantissa .binary64 x.toBits.toBitVec

/-- The parts of a float, read from its word. -/
theorem reads_parts (x : Float) : Reads (signOf x) (exponentField x) (fraction x) (parts x) := by
  have hreads := reads_unpack (signOf x) (exponentField x) (fraction x)
  rwa [signOf, exponentField, fraction, packComponents_unpack] at hreads

/-- The exponent field is what the program masks out of the word. -/
theorem toNat_exponentField (x : Float) :
    (x.toBits >>> 52 &&& 0x7ff).toNat = (exponentField x).toNat := by
  have hmask : (0x7ff : UInt64).toNat = 2 ^ 11 - 1 := rfl
  rw [UInt64.toNat_and, UInt64.toNat_shiftRight, hmask, Nat.and_two_pow_sub_one_eq_mod]
  rfl

/-- The fraction is what the program masks out of the word. -/
theorem toNat_fraction (x : Float) :
    (x.toBits &&& 0xfffffffffffff).toNat = (fraction x).toNat := by
  have hmask : (0xfffffffffffff : UInt64).toNat = 2 ^ 52 - 1 := rfl
  rw [UInt64.toNat_and, hmask, Nat.and_two_pow_sub_one_eq_mod]
  rfl

/-- The program looks at the sign. -/
theorem isNegative_iff (x : Float) : Decimal.isNegative x = true ↔ signOf x = .negative := by
  have hbound := x.toBits.toNat_lt
  have htop : (@unpackSign .binary64 x.toBits.toBitVec).toNat = (x.toBits >>> 63).toNat := by
    rw [UInt64.toNat_shiftRight]
    simp [unpackSign, Nat.shiftRight_eq_div_pow]
    omega
  rw [Decimal.isNegative, beq_iff_eq, ← UInt64.toNat_inj, ← htop, signOf, Sign.ofBitVec]
  rcases BitVec.eq_zero_or_eq_one (@unpackSign .binary64 x.toBits.toBitVec) with h | h <;>
    simp [h]

/-- The mantissa and the exponent that the program finds, by the parts of the word. -/
theorem mantissaAndExponent_eq (x : Float) : Decimal.mantissaAndExponent x =
    if exponentField x = 0#11 then ((fraction x).toNat, (-1074 : Int))
    else ((1#1 ++ fraction x).toNat, ((exponentField x).toNat : Int) - 1075) := by
  simp only [Decimal.mantissaAndExponent, toNat_exponentField, toNat_fraction, toNat_one_append,
    ← BitVec.toNat_inj, BitVec.toNat_ofNat]
  simp [Nat.add_comm]

/-- A finite float is zero or has a canonical form, which is the one that the program finds. -/
theorem finite_cases {x : Float} (h : x.isFinite) :
    Decimal.mantissaAndExponent x = (0, -1074) ∧ parts x = .zero (signOf x)
      ∨ ∃ (m : Nat) (e : Int) (hform : Canonical m e), Decimal.mantissaAndExponent x = (m, e)
        ∧ parts x = .finite (signOf x) m e hform.pos := by
  have hreads := reads_parts x
  have hfinite : (parts x).isFinite := h
  rw [mantissaAndExponent_eq]
  generalize exponentField x = f, fraction x = m, parts x = u at hreads hfinite ⊢
  cases hreads with
  | infinity => cases hfinite
  | notANumber => cases hfinite
  | zero => exact .inl ⟨rfl, rfl⟩
  | low h => exact .inr ⟨_, _, .of_fraction h, rfl, rfl⟩
  | high m hpos hlt =>
    rw [if_neg (by rintro rfl; simp at hpos)]
    exact .inr ⟨_, _, .of_field hpos hlt m, rfl, rfl⟩

/-- What fits does so without its sign. -/
theorem Fits.abs {u : UnpackedFloat} (h : Fits u) : Fits u.abs := by
  cases h with
  | notANumber => exact .notANumber
  | infinity => exact .infinity _
  | zero => exact .zero _
  | finite s h => exact .finite _ h

/-- A float that is not finite is one of three. -/
theorem eq_of_not_isFinite {x : Float} (h : ¬ x.isFinite) :
    x = if x.isNaN then 0 / 0 else if Decimal.isNegative x then -(1 / 0) else 1 / 0 := by
  have hreads := reads_parts x
  have hsign := isNegative_iff x
  have hfinite : ¬ (parts x).isFinite := h
  have hnan : x.isNaN = (parts x).isNaN := rfl
  rw [hnan, nan_eq, ninf_eq, inf_eq]
  conv_lhs => rw [← ofParts_parts x]
  generalize signOf x = s, exponentField x = f, fraction x = m, parts x = u at *
  cases hreads with
  | notANumber => rfl
  | infinity =>
    rw [if_neg (show ¬ (infinity s).isNaN = true from Bool.false_ne_true)]
    cases s with
    | negative => rw [if_pos (hsign.2 rfl)]
    | positive => rw [if_neg fun h => nomatch hsign.1 h]
  | zero => exact absurd rfl hfinite
  | low => exact absurd rfl hfinite
  | high => exact absurd rfl hfinite

/-- A float is put together from its sign and the rest. -/
theorem signed_abs (x : Float) : (if Decimal.isNegative x then -x.abs else x.abs) = x := by
  have hreads := reads_parts x
  have hsign := isNegative_iff x
  rw [neg_eq, abs_eq, parts_ofParts (fits_parts x).abs]
  conv_rhs => rw [← ofParts_parts x]
  generalize signOf x = s, exponentField x = f, fraction x = m, parts x = u at hreads hsign ⊢
  cases s with
  | negative =>
    rw [if_pos (hsign.2 rfl)]
    cases hreads <;> rfl
  | positive =>
    rw [if_neg fun h => nomatch hsign.1 h]
    cases hreads <;> rfl

/-! ## Order -/

/-- The place of what a float stands for among the others: canonical forms are ordered by their
exponents, and by their mantissas where these agree. -/
def rank : UnpackedFloat → Int
  | .finite .positive m e _ => (e + 1075) * 2 ^ 53 + m
  | .finite .negative m e _ => -((e + 1075) * 2 ^ 53 + m)
  | _ => 0

/-- Comparing exponents and then mantissas is comparing places. -/
theorem compare_then {m m' : Nat} {e e' : Int} (h : Canonical m e) (h' : Canonical m' e') :
    (compare e e').then (compare m m')
      = compare ((e + 1075) * 2 ^ 53 + (m : Int)) ((e' + 1075) * 2 ^ 53 + m') := by
  have hm := h.lt
  have hm' := h'.lt
  rcases lt_trichotomy e e' with he | rfl | he
  · rw [compare_lt_iff_lt.2 he, eq_comm]
    exact compare_lt_iff_lt.2 (by omega)
  · rw [compare_eq_iff_eq.2 (rfl : e = e), Ordering.eq_then]
    rcases lt_trichotomy m m' with hlt | rfl | hgt
    · rw [compare_lt_iff_lt.2 hlt, eq_comm]
      exact compare_lt_iff_lt.2 (by omega)
    · simp
    · rw [compare_gt_iff_gt.2 hgt, eq_comm]
      exact compare_gt_iff_gt.2 (by omega)
  · rw [compare_gt_iff_gt.2 he, eq_comm]
    exact compare_gt_iff_gt.2 (by omega)

/-- Numbers compare the other way round when their signs change. -/
theorem swap_compare (a b : Int) : (compare a b).swap = compare (-a) (-b) := by
  rcases lt_trichotomy a b with h | rfl | h
  · rw [compare_lt_iff_lt.2 h, eq_comm]
    exact compare_gt_iff_gt.2 (by omega)
  · simp
  · rw [compare_gt_iff_gt.2 h, eq_comm]
    exact compare_lt_iff_lt.2 (by omega)

/-- Finite numbers compare as their places do. -/
theorem compare_eq_rank {u v : UnpackedFloat} (hu : Fits u) (hv : Fits v) (hfu : u.isFinite)
    (hfv : v.isFinite) : u.compare v = some (compare (rank u) (rank v)) := by
  cases hu with
  | notANumber => cases hfu
  | infinity s => cases hfu
  | zero s =>
    cases hv with
    | notANumber => cases hfv
    | infinity s => cases hfv
    | zero s => rfl
    | finite s h =>
      have := h.least_le
      have := h.pos
      cases s
      · exact congrArg some (compare_gt_iff_gt.2 (by simp only [rank]; omega)).symm
      · exact congrArg some (compare_lt_iff_lt.2 (by simp only [rank]; omega)).symm
  | finite s h =>
    have := h.least_le
    have := h.pos
    cases hv with
    | notANumber => cases hfv
    | infinity s => cases hfv
    | zero s' =>
      cases s
      · exact congrArg some (compare_lt_iff_lt.2 (by simp only [rank]; omega)).symm
      · exact congrArg some (compare_gt_iff_gt.2 (by simp only [rank]; omega)).symm
    | finite s' h' =>
      have := h'.least_le
      have := h'.pos
      cases s <;> cases s'
      · rw [UnpackedFloat.compare, compare_then h h', swap_compare]
        rfl
      · exact congrArg some (compare_lt_iff_lt.2 (by simp only [rank]; omega)).symm
      · exact congrArg some (compare_gt_iff_gt.2 (by simp only [rank]; omega)).symm
      · rw [UnpackedFloat.compare, compare_then h h']
        rfl

/-- A finite float is below another if its place is. -/
theorem lt_iff_rank {x y : Float} (hx : x.isFinite) (hy : y.isFinite) :
    x < y ↔ rank (parts x) < rank (parts y) := by
  have hcompare := compare_eq_rank (fits_parts x) (fits_parts y) hx hy
  have hlt : x < y ↔ (parts x).compare (parts y) = some .lt :=
    decide_eq_true_iff.trans beq_iff_eq
  rw [hlt, hcompare, Option.some.injEq, compare_lt_iff_lt]

/-- Finite floats are equal numbers if their places are one. -/
theorem beq_iff_rank {x y : Float} (hx : x.isFinite) (hy : y.isFinite) :
    (x == y) = true ↔ rank (parts x) = rank (parts y) := by
  have hcompare := compare_eq_rank (fits_parts x) (fits_parts y) hx hy
  have heq : (x == y) = true ↔ (parts x).compare (parts y) = some .eq := by
    change ((parts x).compare (parts y) == some .eq) = true ↔ _
    exact beq_iff_eq
  rw [heq, hcompare, Option.some.injEq, compare_eq_iff_eq]

end Sabotage.Binary64
