import Sabotage.Proofs.Decimals

/-!
# Rounding to a float

A number is rounded by way of a mantissa with two residual bits, from which it is known up to less
than one half (`Holds`), so that the rounded mantissa is within one half of a last place of the
number (`Near`). Whether it becomes infinite depends on the number alone: `tooGreat` is the least
one that does. All of this comes down to one lemma on rounding a mantissa
(`rounds_roundWithAccuracy`), of which sums, products and quotients are cases.

For floats it follows which decimals are read as infinity (`toFloat_unsigned`), and that a float
that is one more than itself is a whole number (`isIntegral_of_add_one`).
-/

namespace Sabotage.Binary64

open Float.Model Float.Model.UnpackedFloat

/-! ## Mantissas with residual bits -/

/-- A number that a mantissa with residual bits stands for: the round bit tells whether the fraction
reaches one half, and the sticky bit whether anything is left beyond that. -/
def Holds (em : ExtendedMantissa) (x : ℚ) : Prop :=
  ∃ r : ℚ, x = em.mantissa + (if em.roundBit then 1 / 2 else 0) + r ∧ 0 ≤ r ∧ r < 1 / 2 ∧
    (em.stickyBit = true ↔ 0 < r)

/-- A natural number is held without residual bits. -/
theorem holds_exact (m : Nat) : Holds (.ofMantissaAndAccuracy m .exact) m :=
  ⟨0, by simp [ExtendedMantissa.ofMantissaAndAccuracy]⟩

/-- A quotient is held by its whole part and what the remainder tells. -/
theorem holds_fraction (n : Nat) {d : Nat} (hd : 0 < d) :
    Holds (.ofMantissaAndAccuracy (n / d) (accuracyOfFraction (n % d) d)) (n / d) := by
  have hpos : (0 : ℚ) < d := by exact_mod_cast hd
  have hsplit : (n : ℚ) / d = (n / d : Nat) + (n % d : Nat) / d := by
    rw [div_eq_iff hpos.ne', add_mul, div_mul_cancel₀ _ hpos.ne']
    exact_mod_cast (Nat.div_add_mod' n d).symm
  have hlt : n % d < d := Nat.mod_lt n hd
  generalize n / d = q, n % d = k at hsplit hlt
  rw [hsplit, accuracyOfFraction]
  split
  · next hk => exact ⟨0, by simp [ExtendedMantissa.ofMantissaAndAccuracy, hk]⟩
  · next hk =>
    have hk : (0 : ℚ) < k := by exact_mod_cast Nat.pos_of_ne_zero hk
    rcases lt_trichotomy (2 * k) d with h | h | h
    · rw [compare_lt_iff_lt.2 h]
      have hhalf : (k : ℚ) / d < 1 / 2 := by
        rw [div_lt_div_iff₀ hpos two_pos]
        exact_mod_cast (by omega : k * 2 < 1 * d)
      exact ⟨k / d, by simp [ExtendedMantissa.ofMantissaAndAccuracy], by positivity, hhalf,
        by simpa [ExtendedMantissa.ofMantissaAndAccuracy] using by positivity⟩
    · rw [compare_eq_iff_eq.2 h]
      have hhalf : (k : ℚ) / d = 1 / 2 := by
        rw [div_eq_div_iff hpos.ne' two_ne_zero]
        exact_mod_cast (by omega : k * 2 = 1 * d)
      exact ⟨0, by simp [ExtendedMantissa.ofMantissaAndAccuracy, hhalf]⟩
    · rw [compare_gt_iff_gt.2 h]
      have hhalf : 1 / 2 < (k : ℚ) / d := by
        rw [div_lt_div_iff₀ two_pos hpos]
        exact_mod_cast (by omega : 1 * d < k * 2)
      have hone : (k : ℚ) / d < 1 := (div_lt_one hpos).2 (by exact_mod_cast hlt)
      refine ⟨k / d - 1 / 2, ?_, by linarith, by linarith, ?_⟩
      · simp [ExtendedMantissa.ofMantissaAndAccuracy]
      · simpa [ExtendedMantissa.ofMantissaAndAccuracy] using hhalf

namespace Holds
variable {em : ExtendedMantissa} {x : ℚ}

/-- A place further to the right is half the number. -/
theorem shiftRightOne (h : Holds em x) : Holds em.shiftRightOne (x / 2) := by
  obtain ⟨r, rfl, hr, hhalf, hsticky⟩ := h
  obtain ⟨m, round, sticky⟩ := em
  have hsplit : (m : ℚ) = 2 * (m / 2 : Nat) + (m % 2 : Nat) := by
    exact_mod_cast (Nat.div_add_mod m 2).symm
  simp only [ExtendedMantissa.shiftRightOne] at hsticky ⊢
  refine ⟨(if round then 1 / 4 else 0) + r / 2, ?_, ?_, ?_, ?_⟩
  · rcases Nat.mod_two_eq_zero_or_one m with hm | hm <;> rw [hm] at hsplit <;>
      cases round <;> simp [hm] at hsplit ⊢ <;> linarith
  · split <;> linarith
  · split <;> linarith
  · cases round
    · simpa using hsticky
    · simp only [Bool.true_or, if_true, true_iff]
      linarith

/-- So many places further to the right is that power of two part. -/
theorem shiftRight (h : Holds em x) (n : Nat) : Holds (em >>> n) (x / 2 ^ n) := by
  induction n with
  | zero =>
    rw [pow_zero, div_one]
    exact h
  | succ n ih =>
    rw [pow_succ, ← div_div]
    exact ih.shiftRightOne

/-- The mantissa is the whole part. -/
theorem mantissa_le (h : Holds em x) : em.mantissa ≤ x := by
  obtain ⟨r, rfl, hr, -, -⟩ := h
  split <;> linarith

theorem lt_mantissa_add_one (h : Holds em x) : x < em.mantissa + 1 := by
  obtain ⟨r, rfl, -, hhalf, -⟩ := h
  split <;> linarith

/-- The rounded mantissa by the residual bits. -/
theorem roundedMantissa_cases (em : ExtendedMantissa) :
    em.roundedMantissa =
      if em.roundBit then if em.stickyBit then em.mantissa + 1 else em.mantissa + em.mantissa % 2
      else em.mantissa := by
  obtain ⟨m, _ | _, _ | _⟩ := em <;> rfl

/-- Rounding goes at most one half up. -/
theorem rounded_le (h : Holds em x) : em.roundedMantissa ≤ x + 1 / 2 := by
  obtain ⟨r, rfl, hr, -, -⟩ := h
  have hmod : ((em.mantissa % 2 : Nat) : ℚ) ≤ 1 := by
    exact_mod_cast Nat.le_of_lt_succ (Nat.mod_lt em.mantissa two_pos)
  rw [roundedMantissa_cases]
  split
  · split <;> push_cast <;> linarith
  · linarith

/-- Rounding goes at most one half down. -/
theorem le_rounded (h : Holds em x) : x ≤ em.roundedMantissa + 1 / 2 := by
  obtain ⟨r, rfl, -, hhalf, hsticky⟩ := h
  rw [roundedMantissa_cases]
  split
  · split
    · push_cast
      linarith
    · next hzero =>
      have hr : r ≤ 0 := not_lt.1 (mt hsticky.2 hzero)
      have hmod : (0 : ℚ) ≤ (em.mantissa % 2 : Nat) := Nat.cast_nonneg _
      push_cast at hmod ⊢
      linarith
  · linarith

/-- A mantissa is not rounded below itself. -/
theorem mantissa_le_rounded (em : ExtendedMantissa) : em.mantissa ≤ em.roundedMantissa := by
  rw [roundedMantissa_cases]
  split
  · split <;> omega
  · omega

/-- An even number is reached by rounding from one half below it on, as a tie goes to the even
neighbour. -/
theorem rounded_lt_iff (h : Holds em x) {n : Nat} (hn : n % 2 = 0) :
    em.roundedMantissa < n ↔ x < n - 1 / 2 := by
  constructor
  · intro hlt
    by_contra hge
    rw [not_lt] at hge
    have hmantissa : n ≤ em.mantissa + 1 := by
      have hlt : (n : ℚ) < em.mantissa + 2 := by linarith [h.lt_mantissa_add_one]
      exact Nat.le_of_lt_succ (by exact_mod_cast hlt)
    have hle := mantissa_le_rounded em
    obtain hm : em.mantissa + 1 = n := by omega
    obtain ⟨r, rfl, -, hhalf, hsticky⟩ := h
    have hn' : (n : ℚ) = em.mantissa + 1 := by exact_mod_cast hm.symm
    rw [roundedMantissa_cases] at hlt
    split at hlt
    · split at hlt <;> omega
    · next hround =>
      simp only [hround, Bool.false_eq_true, if_false] at hge
      linarith
  · intro hlt
    have hle := h.rounded_le
    have hlt : (em.roundedMantissa : ℚ) < n := by linarith
    exact_mod_cast hlt

end Holds

/-! ## What rounding gives -/

/-- From here on, one half of a last place beyond the greatest float, a number is too great for a
float. -/
def tooGreat : ℚ :=
  2 ^ 1024 - 2 ^ 970

/-- The limit in places of the greatest exponent. -/
theorem tooGreat_eq : tooGreat = (2 ^ 53 - 1 / 2) * 2 ^ (971 : Int) := by
  have hlimit : (2 : ℚ) ^ 1024 = 2 ^ 53 * (2 ^ 970 * 2) := by rw [← pow_succ, ← pow_add]
  have hplace : (2 : ℚ) ^ (971 : Int) = 2 ^ 970 * 2 := by rw [← pow_succ]; rfl
  rw [tooGreat, hlimit, hplace]
  generalize (2 : ℚ) ^ 970 = unit
  ring

/-- A mantissa and an exponent that a positive number is rounded to, the exponent not bounded yet:
they are within one half of a last place of it, and the exponent is one that no float has exactly
when the number is too great. -/
structure Near (v : ℚ) (m : Nat) (e : Int) : Prop where
  pos : 0 < m
  lt : m < 2 ^ 53
  least_le : -1074 ≤ e
  full : 2 ^ 52 ≤ m ∨ e = -1074
  le : m * 2 ^ e ≤ v + 2 ^ e / 2
  ge : v ≤ m * 2 ^ e + 2 ^ e / 2
  overflow : 972 ≤ e ↔ tooGreat ≤ v

/-- What a number with a sign may be rounded to. -/
inductive Rounds (v : ℚ) (s : Sign) : UnpackedFloat → Prop
  | zero : v < 1 → Rounds v s (.zero s)
  | finite {m : Nat} {e : Int} (h : Near v m e) : Rounds v s (.finite s m e h.pos)

/-- A mantissa of at most 53 bits is not shifted. -/
theorem shiftToTargetExponent_short {m : Nat} {e : Int} (hm : m < 2 ^ 53) (he : -1074 ≤ e) :
    shiftToTargetExponent .binary64 m e .exact = (⟨m, false, false⟩, e) := by
  have hlog : m.log2 ≤ 52 := by
    rcases Nat.eq_zero_or_pos m with rfl | hpos
    · simp
    · have := (Nat.log2_lt hpos.ne').2 hm
      omega
  have hamount : (Format.binary64.targetExponent (totalExponent m e) - e).toNat = 0 := by
    rw [Format.targetExponent, totalExponent, mantissaBits_eq, minExponent_eq]
    omega
  rw [shiftToTargetExponent, shiftToExponent]
  simp only [hamount, ExtendedMantissa.ofMantissaAndAccuracy]
  exact Prod.ext rfl (by simp)

/-- A mantissa that rounding has carried beyond 53 bits loses a zero. -/
theorem shiftToTargetExponent_carried {e : Int} (he : -1074 ≤ e) :
    shiftToTargetExponent .binary64 (2 ^ 53) e .exact = (⟨2 ^ 52, false, false⟩, e + 1) := by
  have hamount : (Format.binary64.targetExponent (totalExponent (2 ^ 53) e) - e).toNat = 1 := by
    rw [Format.targetExponent, totalExponent, mantissaBits_eq, minExponent_eq, Nat.log2_two_pow]
    omega
  rw [shiftToTargetExponent, shiftToExponent]
  simp only [hamount, ExtendedMantissa.ofMantissaAndAccuracy]
  rfl

section
variable {em : ExtendedMantissa} {y : ℚ} {t : Int} (h : Holds em y)
include h

/-- A number is too great when its exponent is, or when rounding carries it there. -/
theorem tooGreat_le_iff (hy : y < 2 ^ 53) (hfull : 2 ^ 52 ≤ em.mantissa ∨ t = -1074) :
    tooGreat ≤ y * 2 ^ t ↔ 972 ≤ t ∨ t = 971 ∧ 2 ^ 53 ≤ em.roundedMantissa := by
  have hnonneg : 0 ≤ y := le_trans (Nat.cast_nonneg _) h.mantissa_le
  have hunit : (0 : ℚ) < 2 ^ (971 : Int) := by positivity
  obtain ht | rfl | ht : t ≤ 970 ∨ t = 971 ∨ 972 ≤ t := by omega
  · refine iff_of_false (not_le.2 ?_) (by omega)
    have hplace : (2 : ℚ) ^ t * 2 ≤ 2 ^ (971 : Int) := by
      rw [← zpow_add_one₀ two_ne_zero]
      exact zpow_le_zpow_right₀ one_le_two (by omega)
    calc y * 2 ^ t ≤ 2 ^ 53 * 2 ^ t := by gcongr
      _ = 2 ^ 52 * (2 ^ t * 2) := by ring
      _ ≤ 2 ^ 52 * 2 ^ (971 : Int) := by gcongr
      _ < tooGreat := by
        rw [tooGreat_eq]
        gcongr
        norm_num
  · have hrounded := h.rounded_lt_iff (n := 2 ^ 53) rfl
    rw [Nat.cast_pow, Nat.cast_ofNat] at hrounded
    rw [tooGreat_eq, mul_le_mul_iff_left₀ hunit, ← not_lt, ← hrounded]
    simp
  · refine iff_of_true ?_ (.inl ht)
    have hmantissa : (2 ^ 52 : ℚ) ≤ y := by
      refine le_trans ?_ h.mantissa_le
      exact_mod_cast hfull.resolve_right (by omega)
    have hplace : (2 : ℚ) ^ (971 : Int) * 2 ≤ 2 ^ t := by
      rw [← zpow_add_one₀ two_ne_zero]
      exact zpow_le_zpow_right₀ one_le_two (by omega)
    calc tooGreat ≤ 2 ^ 53 * 2 ^ (971 : Int) := by
          rw [tooGreat_eq]
          gcongr
          norm_num
      _ = 2 ^ 52 * (2 ^ (971 : Int) * 2) := by ring
      _ ≤ y * 2 ^ t := by gcongr

/-- A mantissa that is rounded without a carry is near the number. -/
theorem near_of_lt (hy : y < 2 ^ 53) (ht : -1074 ≤ t) (hfull : 2 ^ 52 ≤ em.mantissa ∨ t = -1074)
    (hpos : em.roundedMantissa ≠ 0) (hlt : em.roundedMantissa < 2 ^ 53) :
    Near (y * 2 ^ t) em.roundedMantissa t := by
  have hunit : (0 : ℚ) < 2 ^ t := by positivity
  refine ⟨Nat.pos_of_ne_zero hpos, hlt, ht, ?_, ?_, ?_, ?_⟩
  · exact hfull.imp_left fun hm => hm.trans (Holds.mantissa_le_rounded em)
  · nlinarith [h.rounded_le]
  · nlinarith [h.le_rounded]
  · rw [tooGreat_le_iff h hy hfull]
    omega

/-- A mantissa that is rounded with a carry is near the number, with one place less. -/
theorem near_of_carry (hy : y < 2 ^ 53) (ht : -1074 ≤ t)
    (hfull : 2 ^ 52 ≤ em.mantissa ∨ t = -1074) (hcarry : em.roundedMantissa = 2 ^ 53) :
    Near (y * 2 ^ t) (2 ^ 52) (t + 1) := by
  have hunit : (0 : ℚ) < 2 ^ t := by positivity
  have hle := h.rounded_le
  have hge := h.le_rounded
  rw [hcarry] at hle hge
  push_cast at hle hge
  refine ⟨by positivity, by norm_num, by omega, .inl le_rfl, ?_, ?_, ?_⟩
  · rw [zpow_add_one₀ two_ne_zero]
    push_cast
    nlinarith
  · rw [zpow_add_one₀ two_ne_zero]
    push_cast
    nlinarith
  · rw [tooGreat_le_iff h hy hfull]
    omega

/-- A mantissa that is held at the exponent of its last place is rounded, once more when the first
rounding carries. -/
theorem rounds_of_shifted {m : Nat} {e : Int} {a : Accuracy} (s : Sign) (hy : y < 2 ^ 53)
    (ht : -1074 ≤ t) (hfull : 2 ^ 52 ≤ em.mantissa ∨ t = -1074)
    (hshifted : shiftToTargetExponent .binary64 m e a = (em, t)) :
    Rounds (y * 2 ^ t) s (roundWithAccuracy .binary64 s m e a) := by
  rw [roundWithAccuracy, hshifted]
  have hmost : em.roundedMantissa ≤ 2 ^ 53 := by
    have := h.rounded_le
    have hlt : (em.roundedMantissa : ℚ) < (2 ^ 53 + 1 : Nat) := by
      push_cast
      linarith
    exact Nat.le_of_lt_succ (by exact_mod_cast hlt)
  simp only
  rcases Nat.lt_or_ge em.roundedMantissa (2 ^ 53) with hshort | hcarry
  · rw [shiftToTargetExponent_short hshort ht]
    simp only
    split
    · next hzero =>
      -- Only at the least exponent is a mantissa rounded to nothing.
      have hrounded := h.le_rounded
      have hmantissa := Holds.mantissa_le_rounded em
      rw [hzero] at hrounded hmantissa
      have hhalf : y ≤ 1 / 2 := by simpa using hrounded
      have hexponent := hfull.resolve_left (by omega)
      refine .zero ?_
      calc y * 2 ^ t ≤ 1 / 2 * 2 ^ (0 : Int) := by gcongr; norm_num; omega
        _ < 1 := by norm_num
    · next hpos => exact .finite (near_of_lt h hy ht hfull hpos hshort)
  · have hcarry := le_antisymm hmost hcarry
    rw [hcarry, shiftToTargetExponent_carried ht]
    exact .finite (near_of_carry h hy ht hfull hcarry)

end

section
variable {m k : Nat} {e : Int} {a : Accuracy} {x : ℚ}

/-- The mantissa is the one that was given. -/
theorem mantissa_ofMantissaAndAccuracy (m : Nat) (a : Accuracy) :
    (ExtendedMantissa.ofMantissaAndAccuracy m a).mantissa = m := by
  obtain _ | _ | _ | _ := a <;> rfl

/-- Shifted as far as its size calls for, a number has no more bits than a mantissa. -/
theorem lt_of_targetExponent (h : Holds (.ofMantissaAndAccuracy m a) x)
    (hk : Format.binary64.targetExponent (totalExponent m e) = e + k) : x / 2 ^ k < 2 ^ 53 := by
  have hlt := h.lt_mantissa_add_one
  rw [mantissa_ofMantissaAndAccuracy] at hlt
  rw [Format.targetExponent, totalExponent, mantissaBits_eq, minExponent_eq] at hk
  rw [div_lt_iff₀ (by positivity), ← pow_add]
  have hm : m + 1 ≤ 2 ^ (53 + k) :=
    (Nat.lt_log2_self (n := m)).trans_le (Nat.pow_le_pow_right two_pos (by omega))
  calc x < m + 1 := hlt
    _ ≤ 2 ^ (53 + k) := by exact_mod_cast hm

/-- Shifted as far as its size calls for, a mantissa keeps all its bits, or has the least
exponent. -/
theorem full_of_targetExponent (h : Holds (.ofMantissaAndAccuracy m a) x)
    (hk : Format.binary64.targetExponent (totalExponent m e) = e + k) :
    2 ^ 52 ≤ ((ExtendedMantissa.ofMantissaAndAccuracy m a) >>> k).mantissa ∨ e + k = -1074 := by
  have hle := h.mantissa_le
  rw [mantissa_ofMantissaAndAccuracy] at hle
  rw [Format.targetExponent, totalExponent, mantissaBits_eq, minExponent_eq] at hk
  by_cases hleast : e + k = -1074
  · exact .inr hleast
  · refine .inl (Nat.le_of_lt_succ ?_)
    have hm : 2 ^ (52 + k) ≤ m := by
      rcases Nat.eq_zero_or_pos m with rfl | hpos
      · simp at hk
        omega
      · exact (Nat.pow_le_pow_right two_pos (by omega)).trans (Nat.log2_self_le hpos.ne')
    have hge : (2 : ℚ) ^ 52 ≤ x / 2 ^ k := by
      rw [le_div_iff₀ (by positivity), ← pow_add]
      exact le_trans (by exact_mod_cast hm) hle
    exact_mod_cast hge.trans_lt (h.shiftRight k).lt_mantissa_add_one

/-- Rounding a mantissa, with an exponent not above the one that its size calls for, rounds the
number that it is held of. -/
theorem rounds_roundWithAccuracy (s : Sign) (h : Holds (.ofMantissaAndAccuracy m a) x)
    (he : e ≤ Format.binary64.targetExponent (totalExponent m e)) :
    Rounds (x * 2 ^ e) s (roundWithAccuracy .binary64 s m e a) := by
  obtain ⟨k, hk⟩ : ∃ k : Nat, Format.binary64.targetExponent (totalExponent m e) = e + k :=
    ⟨(Format.binary64.targetExponent (totalExponent m e) - e).toNat, by omega⟩
  have hshifted : shiftToTargetExponent .binary64 m e a =
      (ExtendedMantissa.ofMantissaAndAccuracy m a >>> k, e + k) := by
    have hamount : (e + k - e).toNat = k := by omega
    simp only [shiftToTargetExponent, hk, shiftToExponent, hamount]
  have hvalue : x * 2 ^ e = x / 2 ^ k * 2 ^ (e + k) := by
    rw [zpow_add₀ two_ne_zero, zpow_natCast]
    field_simp
  have hleast : -1074 ≤ e + k := by
    rw [Format.targetExponent, mantissaBits_eq, minExponent_eq] at hk
    omega
  rw [hvalue]
  exact rounds_of_shifted (h.shiftRight k) s (lt_of_targetExponent h hk) hleast
    (full_of_targetExponent h hk) hshifted

end

/-! ## Sums, products and quotients -/

/-- A number brought to the exponent that its size calls for is rounded. -/
theorem rounds_round (s : Sign) {m : Nat} (hm : 0 < m) (e : Int) :
    Rounds (m * 2 ^ e) s (UnpackedFloat.round .binary64 s m e) := by
  obtain ⟨n, hn⟩ : ∃ n, n = (e - Format.binary64.targetExponent (totalExponent m e)).toNat :=
    ⟨_, rfl⟩
  have htotal : totalExponent (m * 2 ^ n) (e - n) = totalExponent m e := by
    rw [totalExponent, totalExponent, log2_mul_two_pow hm.ne']
    push_cast
    ring
  have hvalue : (m : ℚ) * 2 ^ e = (m * 2 ^ n : Nat) * 2 ^ (e - n) := by
    rw [zpow_sub₀ two_ne_zero, zpow_natCast]
    push_cast
    field_simp
  rw [UnpackedFloat.round, decreaseExponent]
  simp only [← hn, Nat.shiftLeft_eq]
  rw [hvalue]
  exact rounds_roundWithAccuracy s (holds_exact _) (by rw [htotal]; omega)

/-- The number of a sign, a mantissa and an exponent. -/
def signedValue (s : Sign) (m : Nat) (e : Int) : ℚ :=
  (s.apply m : Int) * 2 ^ e

/-- A sum is rounded, with its sign. -/
theorem rounds_add (s s' : Sign) {m m' : Nat} (e e' : Int) (hm : 0 < m) (hm' : 0 < m') :
    ∃ mantissa : Int, signedValue s m e + signedValue s' m' e' = mantissa * 2 ^ min e e' ∧
      UnpackedFloat.add .binary64 (.finite s m e hm) (.finite s' m' e' hm') =
        UnpackedFloat.normalize .binary64 mantissa (min e e') .positive := by
  have hshift (m : Nat) (s : Sign) {e t : Int} (h : t ≤ e) :
      signedValue s m e = (s.apply (m <<< (e - t).toNat : Nat) : Int) * 2 ^ t := by
    obtain ⟨n, rfl⟩ : ∃ n : Nat, e = t + n := ⟨(e - t).toNat, by omega⟩
    have hamount : (t + n - t).toNat = n := by omega
    rw [signedValue, hamount, Nat.shiftLeft_eq, zpow_add₀ two_ne_zero, zpow_natCast]
    cases s <;> simp only [Sign.apply] <;> push_cast <;> ring
  refine ⟨_, ?_, rfl⟩
  rw [hshift m s (min_le_left e e'), hshift m' s' (min_le_right e e')]
  push_cast
  ring

/-- What a sum with a sign is rounded to. -/
theorem rounds_normalize {mantissa : Int} {e : Int} {v : ℚ} (hv : v = mantissa * 2 ^ e) :
    (0 < v → Rounds v .positive (UnpackedFloat.normalize .binary64 mantissa e .positive)) ∧
      (v < 0 → Rounds (-v) .negative (UnpackedFloat.normalize .binary64 mantissa e .positive)) ∧
      (v = 0 → UnpackedFloat.normalize .binary64 mantissa e .positive = .zero .positive) := by
  have hunit : (0 : ℚ) < 2 ^ e := by positivity
  subst hv
  rw [UnpackedFloat.normalize]
  obtain hlt | rfl | hgt := lt_trichotomy mantissa 0
  · have hneg : (mantissa : ℚ) < 0 := by exact_mod_cast hlt
    have hv := mul_neg_of_neg_of_pos hneg hunit
    rw [compare_lt_iff_lt.2 hlt]
    refine ⟨fun h => absurd h hv.not_gt, fun _ => ?_, fun h => absurd h hv.ne⟩
    obtain ⟨n, rfl⟩ : ∃ n : Nat, mantissa = -n := ⟨(-mantissa).toNat, by omega⟩
    have hn : (- -(n : Int)).toNat = n := by omega
    simp only [hn]
    push_cast
    rw [neg_mul, neg_neg]
    exact rounds_round .negative (by omega) e
  · rw [compare_eq_iff_eq.2 rfl]
    simp
  · have hpos : (0 : ℚ) < mantissa := by exact_mod_cast hgt
    have hv := mul_pos hpos hunit
    rw [compare_gt_iff_gt.2 hgt]
    refine ⟨fun _ => ?_, fun h => absurd h hv.not_gt, fun h => absurd h hv.ne'⟩
    obtain ⟨n, rfl⟩ : ∃ n : Nat, mantissa = n := ⟨mantissa.toNat, by omega⟩
    exact rounds_round .positive (by omega) e

/-- A quotient is rounded. -/
theorem rounds_div {c d : Nat} (hc : 0 < c) (hd : 0 < d) :
    Rounds (c / d) .positive (UnpackedFloat.div .binary64 (.finite .positive c 0 hc)
      (.finite .positive d 0 hd)) := by
  obtain ⟨t, ht⟩ : ∃ t, t = min (0 - 0) (Format.binary64.targetExponent
      (totalExponent c 0 - totalExponent d 0)) := ⟨_, rfl⟩
  obtain ⟨n, rfl⟩ : ∃ n : Nat, t = -n := ⟨(-t).toNat, by omega⟩
  have hamount : (0 - 0 - -(n : Int)).toNat = n := by omega
  have hvalue : (c : ℚ) / d = (c * 2 ^ n : Nat) / d * 2 ^ (-(n : Int)) := by
    rw [zpow_neg, zpow_natCast]
    push_cast
    field_simp
  rw [UnpackedFloat.div, divCore, ← ht]
  simp only [hamount, Nat.shiftLeft_eq]
  rw [hvalue]
  refine rounds_roundWithAccuracy _ (holds_fraction _ hd) ?_
  rw [Format.targetExponent, totalExponent, totalExponent, mantissaBits_eq, minExponent_eq] at ht
  rw [Format.targetExponent, totalExponent, mantissaBits_eq, minExponent_eq]
  by_cases hleast : -(n : Int) = -1074
  · omega
  -- The dividend was given so many zeros that the quotient has all its places.
  have hzeros : d.log2 + 1 + 52 ≤ c.log2 + n := by omega
  have hquotient : 2 ^ 52 ≤ c * 2 ^ n / d := by
    rw [Nat.le_div_iff_mul_le hd]
    calc 2 ^ 52 * d ≤ 2 ^ 52 * 2 ^ (d.log2 + 1) := by gcongr; exact Nat.lt_log2_self.le
      _ = 2 ^ (d.log2 + 1 + 52) := by rw [← pow_add, Nat.add_comm]
      _ ≤ 2 ^ (c.log2 + n) := Nat.pow_le_pow_right two_pos hzeros
      _ = 2 ^ c.log2 * 2 ^ n := pow_add ..
      _ ≤ c * 2 ^ n := by gcongr; exact Nat.log2_self_le hc.ne'
  have hlog : 52 ≤ (c * 2 ^ n / d).log2 := by
    rw [Nat.le_log2 (by omega)]
    exact hquotient
  omega

/-- A product with a power of ten, with 53 more bits as it is held before it is rounded. -/
theorem rounds_mul {c k : Nat} (hc : 0 < c) :
    Rounds (c * 10 ^ k) .positive
      (roundWithAccuracy .binary64 .positive (c * 10 ^ k * 2 ^ 53) (-53) .exact) := by
  have hpos : 0 < c * 10 ^ k := by positivity
  have hvalue : (c : ℚ) * 10 ^ k = (c * 10 ^ k * 2 ^ 53 : Nat) * 2 ^ (-53 : Int) := by
    rw [zpow_neg, zpow_ofNat, Nat.cast_mul _ (2 ^ 53), Nat.cast_pow 2 53, Nat.cast_ofNat,
      mul_inv_cancel_right₀ (by positivity)]
    push_cast
    rfl
  rw [hvalue]
  refine rounds_roundWithAccuracy _ (holds_exact _) ?_
  rw [Format.targetExponent, totalExponent, mantissaBits_eq, minExponent_eq,
    log2_mul_two_pow hpos.ne']
  omega

/-! ## Decimals -/

/-- A great power of ten is too great. -/
theorem tooGreat_le_of_exponent {c : Nat} (hc : 0 < c) {k : Int} (hk : 2048 < k) :
    tooGreat ≤ c * 10 ^ k := by
  calc tooGreat ≤ 2 ^ 53 * 2 ^ (971 : Int) := by
        rw [tooGreat_eq]
        gcongr
        norm_num
    _ = 2 ^ (53 + 971 : Int) := (zpow_add₀ two_ne_zero _ _).symm
    _ ≤ 2 ^ k := zpow_le_zpow_right₀ one_le_two (by omega)
    _ ≤ 10 ^ k := zpow_le_zpow_left₀ (by omega) (by norm_num) (by norm_num)
    _ ≤ c * 10 ^ k := le_mul_of_one_le_left (by positivity) (by exact_mod_cast hc)

/-- A small power of ten, for the size of its coefficient, is below one. -/
theorem lt_one_of_exponent {c : Nat} {k : Int} (hk : k < -(2048 + c.log2)) :
    (c : ℚ) * 10 ^ k < 1 := by
  obtain ⟨j, rfl⟩ : ∃ j : Nat, k = -j := ⟨(-k).toNat, by omega⟩
  rw [zpow_neg, zpow_natCast, ← div_eq_mul_inv, div_lt_one (by positivity)]
  have hlt : c < 10 ^ j :=
    calc c < 2 ^ (c.log2 + 1) := Nat.lt_log2_self
      _ ≤ 2 ^ j := Nat.pow_le_pow_right two_pos (by omega)
      _ ≤ 10 ^ j := Nat.pow_le_pow_left (by omega) j
  exact_mod_cast hlt

/-- A decimal other than zero is rounded, or is too great and taken for infinity at once. -/
theorem ofScientific_rounds {c : Nat} (hc : 0 < c) (k : Int) :
    Rounds (c * 10 ^ k) .positive (UnpackedFloat.ofScientific .binary64 c k) ∨
      tooGreat ≤ c * 10 ^ k ∧
        UnpackedFloat.ofScientific .binary64 c k = .infinity .positive := by
  have hlimit : (2 ^ Format.binary64.exponentBits : Int) = 2048 := by norm_num
  rw [UnpackedFloat.ofScientific, dif_neg hc.ne', hlimit]
  split
  · next hk =>
    exact .inr ⟨tooGreat_le_of_exponent hc hk, rfl⟩
  · split
    · next hk => exact .inl (.zero (lt_one_of_exponent hk))
    · split
      · next hk =>
        obtain ⟨n, rfl⟩ : ∃ n : Nat, k = n := ⟨k.toNat, by omega⟩
        have hshift : c <<< 53 * 10 ^ n = c * 10 ^ n * 2 ^ 53 := by
          rw [Nat.shiftLeft_eq]
          ring
        simp only [mantissaBits_eq, UnpackedFloat.mul, Int.toNat_natCast, hshift, zpow_natCast]
        exact .inl (rounds_mul hc)
      · next hk =>
        obtain ⟨n, rfl⟩ : ∃ n : Nat, k = -n := ⟨(-k).toNat, by omega⟩
        have hn : (- -(n : Int)).toNat = n := by omega
        simp only [hn]
        rw [zpow_neg, zpow_natCast, ← div_eq_mul_inv, ← Nat.cast_ofNat, ← Nat.cast_pow]
        exact .inl (rounds_div hc (by positivity))


/-! ## Floats -/

/-- One is not too great. -/
theorem one_lt_tooGreat : 1 < tooGreat := by
  have hunit : (1 : ℚ) ≤ 2 ^ (971 : Int) := one_le_zpow₀ one_le_two (by decide)
  rw [tooGreat_eq]
  generalize (2 : ℚ) ^ (971 : Int) = unit at hunit
  linarith

/-- A number that is not too great for a float is rounded to one. -/
theorem Near.canonical {v : ℚ} {m : Nat} {e : Int} (h : Near v m e) (hv : v < tooGreat) :
    Canonical m e where
  pos := h.pos
  lt := h.lt
  least_le := h.least_le
  le_greatest := by
    have := mt h.overflow.1 (not_le.2 hv)
    omega
  full := h.full

/-- An exponent that no float has is packed as infinity. -/
theorem pack_overflow (s : Sign) {m : Nat} (hm : 0 < m) {e : Int} (he : 972 ≤ e) :
    UnpackedFloat.pack .binary64 (.finite s m e hm) =
      UnpackedFloat.pack .binary64 (.infinity s) := by
  conv_lhs => rw [UnpackedFloat.pack, exponentBias_eq, mantissaBits_eq]
  simp only
  rw [if_pos (by omega)]
  rfl

/-- What a number with a sign is as a float. -/
theorem Rounds.ofParts_cases {v : ℚ} {s : Sign} {u : UnpackedFloat} (h : Rounds v s u) :
    tooGreat ≤ v ∧ ofParts u = ofParts (.infinity s) ∨
      v < tooGreat ∧ (u = .zero s ∨
        ∃ m e, ∃ hform : Canonical m e, Near v m e ∧ u = .finite s m e hform.pos) := by
  cases h with
  | zero hv => exact .inr ⟨hv.trans one_lt_tooGreat, .inl rfl⟩
  | @finite m e h =>
    rcases le_or_gt tooGreat v with hv | hv
    · have hpack := pack_overflow s h.pos (h.overflow.2 hv)
      refine .inl ⟨hv, ?_⟩
      simp only [ofParts, Float.Model.pack, hpack]
    · exact .inr ⟨hv, .inr ⟨m, e, h.canonical hv, h, rfl⟩⟩

/-- A float that stands for a number or infinity, without a minus sign. -/
inductive Unsigned (x : Float) : Prop
  | zero (h : parts x = .zero .positive)
  | finite {m : Nat} {e : Int} (hform : Canonical m e)
    (h : parts x = .finite .positive m e hform.pos)
  | infinity (h : parts x = .infinity .positive)

/-- What has no minus sign is not negative. -/
theorem Unsigned.isNegative_eq {x : Float} (h : Unsigned x) : Decimal.isNegative x = false := by
  have hreads := reads_parts x
  rw [← Bool.not_eq_true, isNegative_iff]
  generalize signOf x = s, exponentField x = f, fraction x = m at hreads
  cases h with
  | zero h =>
    rw [h] at hreads
    cases hreads
    nofun
  | finite hform h =>
    rw [h] at hreads
    cases hreads <;> nofun
  | infinity h =>
    rw [h] at hreads
    cases hreads
    nofun

/-- What is finite is a number, and not infinite. -/
theorem isFinite_iff_not {x : Float} :
    x.isFinite = true ↔ x.isNaN = false ∧ x.isInf = false := by
  have hfinite : x.isFinite = (parts x).isFinite := rfl
  have hnan : x.isNaN = (parts x).isNaN := rfl
  have hinf : x.isInf = (parts x).isInf := rfl
  rw [hfinite, hnan, hinf]
  cases parts x with
  | notANumber => decide
  | infinity s => exact iff_of_false nofun fun h => nomatch h.2
  | zero s => exact iff_of_true rfl ⟨rfl, rfl⟩
  | finite s hform => exact iff_of_true rfl ⟨rfl, rfl⟩

/-- What is finite, by what it stands for. -/
theorem isFinite_iff (x : Float) : x.isFinite ↔ (parts x).isFinite := Iff.rfl

/-- What a number without a minus sign is rounded to. -/
theorem Rounds.unsigned {v : ℚ} {u : UnpackedFloat} (h : Rounds v .positive u) :
    Unsigned (ofParts u) ∧ ((ofParts u).isFinite ↔ v < tooGreat) := by
  rw [isFinite_iff]
  obtain ⟨hv, hu⟩ | ⟨hv, rfl | ⟨m, e, hform, -, rfl⟩⟩ := h.ofParts_cases
  · have hparts := parts_ofParts (.infinity .positive)
    rw [hu, hparts]
    exact ⟨.infinity hparts, iff_of_false Bool.false_ne_true hv.not_gt⟩
  · have hparts := parts_ofParts (.zero .positive)
    rw [hparts]
    exact ⟨.zero hparts, iff_of_true rfl hv⟩
  · have hparts := parts_ofParts (.finite .positive hform)
    rw [hparts]
    exact ⟨.finite hform hparts, iff_of_true rfl hv⟩

/-- The float of a decimal, which is infinite when the decimal is too great. -/
theorem toFloat_unsigned (d : Decimal) :
    Unsigned d.toFloat ∧ (d.toFloat.isFinite ↔ d.value < tooGreat) := by
  by_cases hzero : d.coefficient = 0
  · have hparts := parts_ofParts (.zero .positive)
    rw [Decimal.toFloat_of_coefficient hzero, Decimal.value_eq_zero_iff.2 hzero, isFinite_iff,
      hparts]
    exact ⟨.zero hparts, iff_of_true rfl (zero_lt_one.trans one_lt_tooGreat)⟩
  · have hpos : 0 < d.reduced.coefficient := by
      refine Nat.pos_of_ne_zero fun h => hzero ?_
      rw [← Decimal.value_eq_zero_iff, ← Decimal.value_reduced, Decimal.value_eq_zero_iff, h]
    have hfloat : d.toFloat =
        ofParts (UnpackedFloat.ofScientific .binary64 d.reduced.coefficient d.reduced.exponent) :=
      rfl
    rw [hfloat, ← d.value_reduced]
    obtain h | ⟨hv, hinf⟩ := ofScientific_rounds hpos d.reduced.exponent
    · exact h.unsigned
    · have hparts := parts_ofParts (.infinity .positive)
      rw [hinf, isFinite_iff, hparts]
      exact ⟨.infinity hparts, iff_of_false Bool.false_ne_true hv.not_gt⟩

/-! ## One more -/

theorem one_eq : (1 : Float) = ofParts (.finite .positive (2 ^ 52) (-52) (by decide)) := by
  decide +kernel

theorem canonical_one : Canonical (2 ^ 52) (-52) := by
  constructor <;> decide

/-- One more, by what the float stands for. -/
theorem add_one_eq (x : Float) : x + 1 = ofParts
    (.add .binary64 (parts x) (.finite .positive (2 ^ 52) (-52) canonical_one.pos)) := by
  conv_lhs => rw [one_eq]
  rw [← parts_ofParts (.finite .positive canonical_one)]
  rfl

theorem signedValue_one : signedValue .positive (2 ^ 52) (-52) = 1 := by
  norm_num [signedValue, Sign.apply]

/-- One more than a float has is not too great. -/
theorem Canonical.add_one_lt {m : Nat} {e : Int} (h : Canonical m e) :
    signedValue .positive m e + 1 < tooGreat := by
  have hunit : (2 : ℚ) < 2 ^ (971 : Int) := by
    calc (2 : ℚ) = 2 ^ (1 : Int) := by norm_num
      _ < 2 ^ (971 : Int) := zpow_lt_zpow_right₀ one_lt_two (by decide)
  have hm : (m : ℚ) + 1 ≤ 2 ^ 53 := by exact_mod_cast h.lt
  have hle : signedValue .positive m e ≤ m * 2 ^ (971 : Int) := by
    rw [signedValue, Sign.apply, Int.cast_natCast]
    exact mul_le_mul_of_nonneg_left (zpow_le_zpow_right₀ one_le_two h.le_greatest)
      (Nat.cast_nonneg m)
  rw [tooGreat_eq]
  generalize (2 : ℚ) ^ (971 : Int) = unit at hunit hle
  nlinarith

variable {x : Float}

/-- One more without a minus sign. It stays finite, as one more is far from the next float where
floats end. -/
theorem unsigned_add_one (h : Unsigned x) : Unsigned (x + 1) ∧ ((x + 1).isFinite ↔ x.isFinite) := by
  rw [add_one_eq, isFinite_iff x]
  cases h with
  | zero h =>
    have hparts := parts_ofParts (.finite .positive canonical_one)
    rw [h]
    exact ⟨.finite canonical_one hparts, iff_of_true (congrArg UnpackedFloat.isFinite hparts) rfl⟩
  | infinity h =>
    have hparts := parts_ofParts (.infinity .positive)
    rw [h]
    refine ⟨.infinity hparts, ?_⟩
    rw [isFinite_iff]
    exact iff_of_eq (congrArg (fun u => UnpackedFloat.isFinite u = true) hparts)
  | @finite m e hform h =>
    obtain ⟨mantissa, hv, hadd⟩ :=
      rounds_add .positive .positive e (-52) hform.pos canonical_one.pos
    rw [signedValue_one] at hv
    have hpos : 0 < signedValue .positive m e + 1 := by
      rw [signedValue, Sign.apply, Int.cast_natCast]
      positivity
    have hsum := ((rounds_normalize hv).1 hpos).unsigned
    rw [h, hadd, hsum.2]
    exact ⟨hsum.1, iff_of_true hform.add_one_lt rfl⟩

/-- A number that is rounded to a finite float is near it, and has its sign. -/
theorem Rounds.near_of_parts {v : ℚ} {s s' : Sign} {u : UnpackedFloat} (h : Rounds v s u)
    {m : Nat} {e : Int} (hform : Canonical m e)
    (hparts : parts (ofParts u) = .finite s' m e hform.pos) :
    s = s' ∧ Near v m e := by
  obtain ⟨-, hu⟩ | ⟨-, rfl | ⟨m', e', hform', hnear, rfl⟩⟩ := h.ofParts_cases
  · rw [hu, parts_ofParts (.infinity s)] at hparts
    cases hparts
  · rw [parts_ofParts (.zero s)] at hparts
    cases hparts
  · rw [parts_ofParts (.finite s hform')] at hparts
    cases hparts
    exact ⟨rfl, hnear⟩

/-- A finite float that is one more than itself counts at least pairs in its last place. -/
theorem exponent_of_add_one (h : x.isFinite) (hone : x + 1 = x) :
    ∃ (m : Nat) (e : Int), Decimal.mantissaAndExponent x = (m, e) ∧ 0 < e := by
  have hparts : parts (x + 1) = parts x := congrArg parts hone
  rw [add_one_eq] at hparts
  obtain ⟨-, hzero⟩ | ⟨m, e, hform, hpair, hfinite⟩ := finite_cases h
  · rw [hzero] at hparts
    have hsum : parts (ofParts (.add .binary64 (.zero (signOf x))
        (.finite .positive (2 ^ 52) (-52) canonical_one.pos))) = _ :=
      parts_ofParts (.finite .positive canonical_one)
    rw [hsum] at hparts
    cases hparts
  · refine ⟨m, e, hpair, ?_⟩
    obtain ⟨mantissa, hv, hadd⟩ :=
      rounds_add (signOf x) .positive e (-52) hform.pos canonical_one.pos
    obtain ⟨hpos, hneg, hzero⟩ := rounds_normalize hv
    rw [hfinite, hadd] at hparts
    have hplace : (2 : ℚ) ^ (1 : Int) ≤ 2 ^ e := by
      rw [zpow_one]
      rw [signedValue_one] at hpos hneg hzero
      obtain hlt | heq | hgt := lt_trichotomy (signedValue (signOf x) m e + 1) 0
      · obtain ⟨hsign, hnear⟩ := (hneg hlt).near_of_parts hform hparts
        have hle := hnear.le
        rw [← hsign, signedValue, Sign.apply] at hle
        push_cast at hle
        linarith
      · rw [hzero heq, parts_ofParts (.zero .positive)] at hparts
        cases hparts
      · obtain ⟨hsign, hnear⟩ := (hpos hgt).near_of_parts hform hparts
        have hge := hnear.ge
        rw [← hsign, signedValue, Sign.apply] at hge
        push_cast at hge
        linarith
    exact lt_of_lt_of_le one_pos ((zpow_le_zpow_iff_right₀ one_lt_two).1 hplace)

/-- A finite float that is one more than itself is a whole number. -/
theorem isIntegral_of_add_one (h : x.isFinite) (hone : x + 1 = x) :
    Decimal.isIntegral x = true := by
  obtain ⟨m, e, hpair, he⟩ := exponent_of_add_one h hone
  rw [Decimal.isIntegral, h, Decimal.quotientOf, hpair]
  simp [he.not_gt, Nat.mod_one]

end Sabotage.Binary64
