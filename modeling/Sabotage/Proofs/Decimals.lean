import Sabotage.Proofs.Binary64

/-!
# Decimals and floats

The float of a decimal depends on the number that the decimal stands for alone (`toFloat_congr`),
and the shortest decimal of a finite float reads back as that float without its sign
(`toFloat_shortest`): either the search has tried it, or all digits are written out, and these are
exact.
-/

namespace Sabotage

namespace Decimal

/-- The number that a decimal stands for. -/
def value (d : Decimal) : ℚ :=
  d.coefficient * 10 ^ d.exponent

/-- A decimal is zero when its coefficient is. -/
theorem value_eq_zero_iff {d : Decimal} : d.value = 0 ↔ d.coefficient = 0 := by
  simp [value, zpow_ne_zero]

/-- Zeros at the end of the coefficient count in the exponent. -/
theorem value_scale (c k : Nat) (e : Int) : value ⟨c * 10 ^ k, e⟩ = value ⟨c, e + k⟩ := by
  rw [value, value, zpow_add₀ (by norm_num), zpow_natCast]
  push_cast
  ring

/-- Tens are brought to the sides of an equation where they are natural numbers. -/
theorem mul_pow_eq_of_value_eq {d d' : Decimal} (hvalue : d.value = d'.value) {j k : Nat}
    (h : d.exponent + k = d'.exponent + j) :
    d.coefficient * 10 ^ j = d'.coefficient * 10 ^ k := by
  have hten : (10 : ℚ) ≠ 0 := by norm_num
  have hcast : (d.coefficient : ℚ) * 10 ^ j * 10 ^ d.exponent
      = d'.coefficient * 10 ^ k * 10 ^ d.exponent := by
    calc (d.coefficient : ℚ) * 10 ^ j * 10 ^ d.exponent = d.value * 10 ^ (j : Int) := by
          rw [value, zpow_natCast]; ring
      _ = d'.coefficient * (10 ^ d'.exponent * 10 ^ (j : Int)) := by rw [hvalue, value]; ring
      _ = d'.coefficient * (10 ^ d.exponent * 10 ^ (k : Int)) := by
          rw [← zpow_add₀ hten, ← h, zpow_add₀ hten]
      _ = d'.coefficient * 10 ^ k * 10 ^ d.exponent := by rw [zpow_natCast]; ring
  exact_mod_cast mul_right_cancel₀ (zpow_ne_zero _ hten) hcast

/-! ## Reduced forms -/

/-- A number is below the power of ten of its number of digits. -/
theorem lt_pow_digitCount (n : Nat) : n < 10 ^ digitCount n := by
  refine (Nat.length_toDigits_le_iff (by decide) ?_).1 le_rfl
  exact List.length_pos_iff.2 (by simp)

/-- Taking zeros off the end leaves the number what it is. -/
theorem value_dropZeros (fuel : Nat) (d : Decimal) : (dropZeros fuel d).value = d.value := by
  induction fuel generalizing d with
  | zero => rfl
  | succ fuel ih =>
    rw [dropZeros]
    split
    · next h =>
      have hcoefficient : (d.coefficient : ℚ) = (d.coefficient / 10 : Nat) * 10 := by
        exact_mod_cast (Nat.div_mul_cancel (Nat.dvd_of_mod_eq_zero h)).symm
      rw [ih, value, value, hcoefficient, zpow_add_one₀ (by norm_num)]
      ring
    · rfl

/-- The reduced form is the same number. -/
@[simp] theorem value_reduced (d : Decimal) : d.reduced.value = d.value :=
  value_dropZeros _ d

/-- With as many turns as digits, all zeros are taken off the end. -/
theorem dropZeros_mod {fuel : Nat} {d : Decimal} (hpos : 0 < d.coefficient)
    (hlt : d.coefficient < 10 ^ fuel) : (dropZeros fuel d).coefficient % 10 ≠ 0 := by
  induction fuel generalizing d with
  | zero => omega
  | succ fuel ih =>
    rw [pow_succ] at hlt
    rw [dropZeros]
    split
    · next h => exact ih (d := ⟨_, _⟩) (by simp only; omega) (by simp only; omega)
    · next h => exact h

/-- Two decimals that do not end in zeros are equal when they are one number. -/
theorem eq_of_value_eq {d d' : Decimal} (hvalue : d.value = d'.value)
    (hd : d.coefficient % 10 ≠ 0) (hd' : d'.coefficient % 10 ≠ 0) : d = d' := by
  have hscale := mul_pow_eq_of_value_eq hvalue (j := (d.exponent - d'.exponent).toNat)
    (k := (d'.exponent - d.exponent).toNat) (by omega)
  obtain ⟨c, e⟩ := d
  obtain ⟨c', e'⟩ := d'
  simp only at hd hd' hscale
  -- The side with the lower exponent would end in a zero.
  obtain he | rfl | he : e < e' ∨ e = e' ∨ e' < e := by omega
  · obtain ⟨k, hk⟩ : ∃ k, (e' - e).toNat = k + 1 := ⟨(e' - e).toNat - 1, by omega⟩
    have hzero : (e - e').toNat = 0 := by omega
    rw [hk, hzero, pow_zero, mul_one, pow_succ, ← mul_assoc] at hscale
    omega
  · simpa using hscale
  · obtain ⟨k, hk⟩ : ∃ k, (e - e').toNat = k + 1 := ⟨(e - e').toNat - 1, by omega⟩
    have hzero : (e' - e).toNat = 0 := by omega
    rw [hk, hzero, pow_zero, mul_one, pow_succ, ← mul_assoc] at hscale
    omega

/-- Two decimals of one number other than zero have one reduced form. -/
theorem reduced_congr {d d' : Decimal} (hvalue : d.value = d'.value) (hne : d.value ≠ 0) :
    d.reduced = d'.reduced := by
  have hmod {d : Decimal} (hne : d.value ≠ 0) : d.reduced.coefficient % 10 ≠ 0 :=
    dropZeros_mod (Nat.pos_of_ne_zero fun h => hne (value_eq_zero_iff.2 h)) (lt_pow_digitCount _)
  exact eq_of_value_eq (by simpa) (hmod hne) (hmod (hvalue ▸ hne))

/-! ## The nearest float -/

/-- The float of zero. -/
theorem toFloat_of_coefficient {d : Decimal} (h : d.coefficient = 0) :
    d.toFloat = Binary64.ofParts (.zero .positive) := by
  have hreduced : d.reduced.coefficient = 0 := by
    rw [← value_eq_zero_iff, value_reduced, value_eq_zero_iff, h]
  rw [toFloat, nearest, hreduced, Float.Model.ofScientific, Float.Model.UnpackedFloat.ofScientific]
  rfl

/-- The float of a decimal depends on the number alone. -/
theorem toFloat_congr {d d' : Decimal} (h : d.value = d'.value) : d.toFloat = d'.toFloat := by
  by_cases hzero : d.value = 0
  · rw [toFloat_of_coefficient (value_eq_zero_iff.1 hzero),
      toFloat_of_coefficient (value_eq_zero_iff.1 (h ▸ hzero))]
  · rw [toFloat, toFloat, reduced_congr h hzero]

/-- A number that a float holds is the nearest float. -/
theorem toFloat_exact {d : Decimal} {m : Nat} {e : Int} (h : Binary64.Canonical m e)
    (hvalue : d.value = m * 2 ^ e) :
    d.toFloat = Binary64.ofParts (.finite .positive m e h.pos) := by
  rw [toFloat, nearest, Float.Model.ofScientific,
    Binary64.ofScientific_exact h (by rw [← hvalue, ← value_reduced, value])]
  rfl

/-! ## The shortest decimal -/

/-- All digits of a quotient stand for the quotient. -/
theorem value_expansion (num places : Nat) :
    (expansion num (2 ^ places)).value = num / 2 ^ places := by
  have hten : (10 : ℚ) ^ places = 5 ^ places * 2 ^ places := by rw [← mul_pow]; norm_num
  have hfive : (5 : ℚ) ^ places ≠ 0 := pow_ne_zero _ (by norm_num)
  rw [expansion, value, Nat.log2_two_pow]
  simp only [zpow_neg, zpow_natCast, Nat.pow_eq, Nat.cast_mul, Nat.cast_pow, Nat.cast_ofNat, hten]
  rw [mul_inv, mul_assoc, ← mul_assoc _ _ ((2 : ℚ) ^ places)⁻¹, mul_inv_cancel₀ hfive, one_mul,
    div_eq_mul_inv]

/-- The quotient of a float is its mantissa times its power of two. -/
theorem quotientOf_eq {x : Float} {m : Nat} {e : Int} (h : mantissaAndExponent x = (m, e)) :
    ∃ num places : Nat, quotientOf x = (num, 2 ^ places)
      ∧ (num : ℚ) / 2 ^ places = m * 2 ^ e := by
  rw [quotientOf, h]
  simp only [Nat.shiftLeft_eq, one_mul]
  split
  · next he =>
    refine ⟨m, _, rfl, ?_⟩
    rw [← zpow_natCast, Int.toNat_of_nonneg (by omega), zpow_neg, div_inv_eq_mul]
  · next he =>
    refine ⟨_, 0, rfl, ?_⟩
    rw [pow_zero, div_one, Nat.cast_mul, Nat.cast_pow, Nat.cast_ofNat, ← zpow_natCast,
      Int.toNat_of_nonneg (by omega)]

/-- A decimal reads as a float when its float is that one without its sign. -/
theorem readsAs_iff {x : Float} {d : Decimal} : readsAs x d = true ↔ d.toFloat = x.abs :=
  beq_iff_eq.trans ⟨Binary64.toBits_inj, fun h => by rw [h]⟩

/-- What the search finds reads as the float. -/
theorem toFloat_shortestQuotient {x : Float} {num den : Nat}
    (h : (expansion num den).toFloat = x.abs) : (shortestQuotient x num den).toFloat = x.abs := by
  rw [shortestQuotient]
  generalize hfound : List.findSome? _ _ = found
  cases found with
  | none => exact h
  | some d =>
    obtain ⟨i, -, hhead⟩ := List.exists_of_findSome?_eq_some hfound
    have hmem := List.mem_of_head? hhead
    exact readsAs_iff.1 (List.mem_filter.1 hmem).2

/-- The shortest decimal of a finite float reads back. -/
theorem toFloat_shortest {x : Float} (h : x.isFinite) : (shortest x).toFloat = x.abs := by
  rw [shortest]
  obtain ⟨hparts, hzero⟩ | ⟨m, e, hform, hparts, hfinite⟩ := Binary64.finite_cases h
  · obtain ⟨num, places, hquotient, hvalue⟩ := quotientOf_eq hparts
    have hnum : num = 0 := by simpa [zpow_ne_zero] using hvalue
    rw [hquotient]
    simp only [hnum, if_true]
    rw [toFloat_of_coefficient rfl, Binary64.abs_eq, hzero]
    rfl
  · obtain ⟨num, places, hquotient, hvalue⟩ := quotientOf_eq hparts
    have hpos := hform.pos
    have hne : (m : ℚ) * 2 ^ e ≠ 0 := by positivity
    have hnum : num ≠ 0 := by
      rintro rfl
      exact hne (by rw [← hvalue]; simp)
    rw [hquotient]
    simp only [hnum, if_false]
    refine toFloat_shortestQuotient ?_
    rw [toFloat_exact hform (by rw [value_expansion, hvalue]), Binary64.abs_eq, hfinite]
    rfl

end Decimal

end Sabotage
