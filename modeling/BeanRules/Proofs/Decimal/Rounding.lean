import BeanRules.Proofs.Decimal.Interval
import Mathlib.Algebra.Order.Field.Basic
import Mathlib.Algebra.Order.Field.Power
import Mathlib.Data.Rat.Lemmas
import Mathlib.Tactic.Ring

/-!
Where rounding to a double ends. From half a last place above the greatest double on a quotient
becomes infinite, and up to half the smallest step it becomes zero. The bits of the result count the
doubles in order, so both ends are comparisons of one number with a fixed one.
-/
namespace BeanRules.Decimal.Binary64

/-- A quotient is rounded to at most `k` exactly if it lies below the half behind `k`, or on it if
`k` is even. -/
theorem roundQuotient_le_iff (num : Nat) {den : Nat} (h : 0 < den) (k : Nat) :
    roundQuotient num den ≤ k ↔
      2 * num < (2 * k + 1) * den ∨ 2 * num = (2 * k + 1) * den ∧ k % 2 = 0 := by
  have hdivision : den * (num / den) + num % den = num := Nat.div_add_mod num den
  have hrest : num % den < den := Nat.mod_lt num h
  have hhalf : (2 * k + 1) * den = 2 * (den * k) + den := by ring
  rw [hhalf]
  unfold roundQuotient
  dsimp only
  generalize num / den = q, num % den = r at hdivision hrest
  rcases Nat.lt_trichotomy q k with hlt | rfl | hgt
  · have hproduct : den * (q + 1) ≤ den * k := Nat.mul_le_mul_left den hlt
    rw [Nat.mul_succ] at hproduct
    split <;> omega
  · split <;> omega
  · have hproduct : den * (k + 1) ≤ den * q := Nat.mul_le_mul_left den hgt
    rw [Nat.mul_succ] at hproduct
    split <;> omega

theorem roundQuotient_le_iff_of_odd (num : Nat) {den : Nat} (h : 0 < den) {k : Nat}
    (odd : k % 2 = 1) :
    roundQuotient num den ≤ k ↔ 2 * num < (2 * k + 1) * den := by
  rw [roundQuotient_le_iff num h]
  constructor
  · rintro (hlt | ⟨-, heven⟩)
    · exact hlt
    · omega
  · exact .inl

section Code

variable (num den : Nat)

/-- How many smallest steps the last place of the rounded quotient counts, as a power of two. -/
def scaleOf : Nat := (num * stepsPerUnit / den).log2 - 52

/-- The place of the rounded quotient among the doubles in order, if there were no greatest. -/
def code : Nat :=
  scaleOf num den * 2 ^ 52 + roundQuotient (num * stepsPerUnit) (den * 2 ^ scaleOf num den)

theorem toNat_bits_ofRatio : (ofRatio num den).bits.toNat = min (code num den) (2047 * 2 ^ 52) := by
  have hbits : (ofRatio num den).bits = .ofNat (min (code num den) infinityBits) := by
    unfold ofRatio code scaleOf
    simp only [Nat.shiftLeft_eq]
  have hinfinity : infinityBits = 2047 * 2 ^ 52 := rfl
  rw [hbits, hinfinity, UInt64.toNat_ofNat_of_lt']
  exact Nat.lt_of_le_of_lt (Nat.min_le_right _ _) (by decide)

variable (h : 0 < den)

include h

theorem steps_lt : num * stepsPerUnit < den * 2 ^ scaleOf num den * 2 ^ 53 := by
  rw [Nat.mul_assoc, ← Nat.pow_add, Nat.mul_comm den, ← Nat.div_lt_iff_lt_mul h]
  apply Nat.lt_of_lt_of_le Nat.lt_log2_self
  apply Nat.pow_le_pow_right (by decide)
  unfold scaleOf
  omega

theorem le_steps (hscale : 0 < scaleOf num den) :
    den * 2 ^ scaleOf num den * 2 ^ 52 ≤ num * stepsPerUnit := by
  rw [Nat.mul_assoc, ← Nat.pow_add, Nat.mul_comm den, ← Nat.le_div_iff_mul_le h]
  unfold scaleOf at hscale ⊢
  have hlog : (num * stepsPerUnit / den).log2 - 52 + 52 = (num * stepsPerUnit / den).log2 := by
    omega
  rw [hlog]
  apply Nat.log2_self_le
  intro hzero
  rw [hzero] at hscale
  exact absurd hscale (by decide)

theorem roundQuotient_scaleOf_le :
    roundQuotient (num * stepsPerUnit) (den * 2 ^ scaleOf num den) ≤ 2 ^ 53 := by
  rw [roundQuotient_le_iff _ (Nat.mul_pos h (Nat.two_pow_pos _))]
  have hlt := steps_lt num den h
  left
  omega

theorem le_roundQuotient_scaleOf (hscale : 0 < scaleOf num den) :
    2 ^ 52 ≤ roundQuotient (num * stepsPerUnit) (den * 2 ^ scaleOf num den) := by
  have hpos : 0 < den * 2 ^ scaleOf num den := Nat.mul_pos h (Nat.two_pow_pos _)
  have hiff := roundQuotient_le_iff_of_odd (num * stepsPerUnit) hpos
    (by decide : 0xfffffffffffff % 2 = 1)
  have hsteps := le_steps num den h hscale
  omega

/-- What rounds to less than the first double of a binade lies below the half in front of it. The
binades below and above are clear of that border. -/
theorem code_lt_iff (s : Nat) :
    code num den < (s + 2) * 2 ^ 52 ↔
      2 * (num * stepsPerUnit) < (2 ^ 54 - 1) * (den * 2 ^ s) := by
  have hround := roundQuotient_scaleOf_le num den h
  unfold code
  rcases Nat.lt_trichotomy (scaleOf num den) s with hlt | heq | hgt
  · have hpow : 2 * 2 ^ scaleOf num den ≤ 2 ^ s := by
      rw [← Nat.pow_succ']
      exact Nat.pow_le_pow_right (by decide) hlt
    have hproduct := Nat.mul_le_mul_left den hpow
    rw [Nat.mul_left_comm] at hproduct
    have hsteps := steps_lt num den h
    constructor <;> intro <;> omega
  · rw [heq]
    have hiff := roundQuotient_le_iff_of_odd (num * stepsPerUnit)
      (Nat.mul_pos h (Nat.two_pow_pos s)) (by decide : 0x1fffffffffffff % 2 = 1)
    omega
  · have hpow : 2 * 2 ^ s ≤ 2 ^ scaleOf num den := by
      rw [← Nat.pow_succ']
      exact Nat.pow_le_pow_right (by decide) hgt
    have hproduct := Nat.mul_le_mul_left den hpow
    rw [Nat.mul_left_comm] at hproduct
    have hscale : 0 < scaleOf num den := Nat.zero_lt_of_lt hgt
    have hround' := le_roundQuotient_scaleOf num den h hscale
    have hsteps := le_steps num den h hscale
    have hpos : 0 < den * 2 ^ s := Nat.mul_pos h (Nat.two_pow_pos _)
    constructor <;> intro <;> omega

theorem code_eq_zero_iff : code num den = 0 ↔ 2 * (num * stepsPerUnit) ≤ den := by
  unfold code
  by_cases hscale : scaleOf num den = 0
  · have hiff := roundQuotient_le_iff (num * stepsPerUnit) h 0
    rw [hscale, Nat.pow_zero, Nat.mul_one]
    omega
  · have hpos := Nat.pos_of_ne_zero hscale
    have hround := le_roundQuotient_scaleOf num den h hpos
    have hsteps := le_steps num den h hpos
    have hproduct := Nat.mul_le_mul_left den (Nat.one_le_two_pow (n := scaleOf num den))
    omega

end Code

theorem one_shiftLeft_eq (n : Nat) : 1 <<< n = 2 ^ n := Nat.one_shiftLeft n

theorem stepsPerUnit_eq : stepsPerUnit = 2 ^ 1074 := one_shiftLeft_eq 1074

theorem border_eq : (2 ^ 54 - 1) * 2 ^ 2045 = (2 ^ 1024 - 2 ^ 970) * (2 * stepsPerUnit) := by
  have hgreatest : 1024 = 54 + 970 := rfl
  have hsum : 2045 = 970 + (1 + 1074) := rfl
  rw [stepsPerUnit_eq, hgreatest, hsum, pow_add, pow_add, pow_add, pow_one, ← Nat.sub_one_mul,
    Nat.mul_assoc]

section Ends

variable (num : Nat) {den : Nat} (h : 0 < den)

include h

/-- Half a last place above the greatest double rounding is to infinity. -/
theorem isFinite_ofRatio_iff :
    (ofRatio num den).isFinite = true ↔ num < (2 ^ 1024 - 2 ^ 970) * den := by
  have hfinite : (ofRatio num den).isFinite = true ↔ code num den < (2045 + 2) * 2 ^ 52 := by
    unfold isFinite
    rw [bne_iff_ne, toNat_exponent, toNat_bits_ofRatio]
    omega
  have hpos : 0 < 2 * stepsPerUnit := by
    rw [stepsPerUnit_eq]
    exact Nat.mul_pos (by decide) (pow_pos (by decide) _)
  have hleft : 2 * (num * stepsPerUnit) = num * (2 * stepsPerUnit) := Nat.mul_left_comm _ _ _
  have hright : (2 ^ 54 - 1) * (den * 2 ^ 2045) =
      (2 ^ 1024 - 2 ^ 970) * den * (2 * stepsPerUnit) := by
    rw [Nat.mul_left_comm, border_eq, Nat.mul_right_comm, Nat.mul_comm den]
  rw [hfinite, code_lt_iff num den h, hleft, hright]
  exact Nat.mul_lt_mul_right hpos

theorem isZero_ofRatio_iff : (ofRatio num den).isZero = true ↔ num * (2 * stepsPerUnit) ≤ den := by
  have hzero : (ofRatio num den).isZero = true ↔ code num den = 0 := by
    unfold isZero
    rw [Bool.and_eq_true, beq_iff_eq, beq_iff_eq, toNat_exponent, toNat_fraction,
      toNat_bits_ofRatio]
    omega
  rw [hzero, code_eq_zero_iff num den h, Nat.mul_left_comm]

end Ends

/-- The double nearest to the magnitude of a number. -/
def nearest (q : ℚ) : Binary64 := ofRatio q.num.natAbs q.den

theorem abs_eq_div (q : ℚ) : |q| = (q.num.natAbs : ℚ) / q.den := by
  rw [Nat.cast_natAbs, Int.cast_abs]
  conv => lhs; rw [← Rat.num_div_den q, abs_div, Nat.abs_cast]

theorem isFinite_nearest_iff (q : ℚ) :
    (nearest q).isFinite = true ↔ |q| < 2 ^ 1024 - 2 ^ 970 := by
  have hden : (0 : ℚ) < q.den := by exact_mod_cast q.den_pos
  have hle : 2 ^ 970 ≤ 2 ^ 1024 := pow_le_pow_right₀ (by decide) (by decide)
  unfold nearest
  rw [isFinite_ofRatio_iff _ q.den_pos, abs_eq_div, div_lt_iff₀ hden, ← @Nat.cast_lt ℚ,
    Nat.cast_mul, Nat.cast_sub hle, Nat.cast_pow, Nat.cast_pow, Nat.cast_ofNat]

theorem isFinite_of_isZero {x : Binary64} (h : x.isZero = true) : x.isFinite = true := by
  unfold isZero at h
  unfold isFinite
  rw [Bool.and_eq_true, beq_iff_eq] at h
  rw [h.1]
  rfl

theorem isZero_nearest_iff (q : ℚ) : (nearest q).isZero = true ↔ |q| ≤ (2 ^ 1075)⁻¹ := by
  have hden : (0 : ℚ) < q.den := by exact_mod_cast q.den_pos
  have hpos : (0 : ℚ) < 2 ^ 1075 := pow_pos (by decide) _
  have hpow : (2 : ℚ) ^ 1075 = 2 * 2 ^ 1074 := pow_succ' 2 1074
  unfold nearest
  rw [isZero_ofRatio_iff _ q.den_pos, abs_eq_div, stepsPerUnit_eq, div_le_iff₀ hden,
    le_inv_mul_iff₀ hpos, hpow, mul_comm, ← @Nat.cast_le ℚ, Nat.cast_mul, Nat.cast_mul,
    Nat.cast_pow, Nat.cast_ofNat]

end BeanRules.Decimal.Binary64
