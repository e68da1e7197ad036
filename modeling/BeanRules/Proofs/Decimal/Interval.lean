import BeanRules.Decimal.Shortest
import Mathlib.Algebra.Order.Ring.Rat
import Mathlib.Tactic.Linarith

/-!
The rounding intervals of two doubles have no point in common. Neighbours share a bound, but their
significands differ in parity, so it belongs to one of them at most.
-/
namespace BeanRules.Decimal

namespace Binary64

variable (x : Binary64)

theorem toNat_exponent : x.exponent = x.bits.toNat / 2 ^ 52 % 2 ^ 11 := by
  unfold exponent
  rw [UInt64.toNat_and, UInt64.toNat_shiftRight, Nat.shiftRight_eq_div_pow]
  exact Nat.and_two_pow_sub_one_eq_mod _ 11

theorem toNat_fraction : x.fraction = x.bits.toNat % 2 ^ 52 := by
  unfold fraction
  rw [UInt64.toNat_and]
  exact Nat.and_two_pow_sub_one_eq_mod _ 52

theorem negative_iff : x.negative = true ↔ 2 ^ 63 ≤ x.bits.toNat := by
  unfold negative
  rw [bne_iff_ne, ne_eq, ← UInt64.toNat_inj, UInt64.toNat_shiftRight, Nat.shiftRight_eq_div_pow]
  have hshift : (63 : UInt64).toNat % 64 = 63 := by decide
  rw [hshift, UInt64.toNat_zero]
  omega

theorem fraction_lt : x.fraction < 2 ^ 52 := by
  rw [toNat_fraction]
  exact Nat.mod_lt _ (by decide)

theorem exponent_lt : x.exponent < 2 ^ 11 := by
  rw [toNat_exponent]
  exact Nat.mod_lt _ (by decide)

theorem eq_of_fields {x y : Binary64} (hsign : x.negative = y.negative)
    (hexponent : x.exponent = y.exponent) (hfraction : x.fraction = y.fraction) : x = y := by
  have hx := x.bits.toNat_lt
  have hy := y.bits.toNat_lt
  have hiff : 2 ^ 63 ≤ x.bits.toNat ↔ 2 ^ 63 ≤ y.bits.toNat := by
    rw [← negative_iff, ← negative_iff, hsign]
  rw [toNat_exponent, toNat_exponent] at hexponent
  rw [toNat_fraction, toNat_fraction] at hfraction
  have hbits : x.bits = y.bits := by
    apply UInt64.toNat_inj.mp
    omega
  cases x
  cases y
  cases hbits
  rfl

/-- How far the lower bound lies below the number, in quarters of a last place. -/
def reach : Nat := if x.fraction = 0 ∧ 1 < x.exponent then 1 else 2

theorem low_interval : x.interval.low = (4 * x.significand - x.reach) * 2 ^ x.scale := by
  simp only [interval, steps, reach, Nat.shiftLeft_eq, Nat.sub_mul, Nat.mul_assoc]

theorem middle_interval : x.interval.middle = 4 * x.significand * 2 ^ x.scale := by
  simp only [interval, steps, Nat.shiftLeft_eq, Nat.mul_assoc]

theorem high_interval : x.interval.high = (4 * x.significand + 2) * 2 ^ x.scale := by
  simp only [interval, steps, Nat.shiftLeft_eq, Nat.add_mul, Nat.mul_assoc]

theorem closed_interval : x.interval.closed = true ↔ x.significand % 2 = 0 := by
  simp [interval]

/-- Below in the order of magnitudes. -/
def Below (x y : Binary64) : Prop :=
  x.exponent < y.exponent ∨ x.exponent = y.exponent ∧ x.fraction < y.fraction

/-- Bounds that leave no room between two products make both of them exact. -/
theorem eq_of_squeeze {a b k m p q : Nat} (hp : 0 < p) (hk : 0 < k) (ha : a ≤ k * m) (hb : m ≤ b)
    (hq : k * p ≤ q) (hle : b * q ≤ a * p) : a * p = b * q ∧ a = k * m ∧ b = m := by
  have hap : a * p ≤ k * m * p := Nat.mul_le_mul_right p ha
  have hkp : k * m * p = m * (k * p) := by rw [Nat.mul_comm k m, Nat.mul_assoc]
  have hmq : m * (k * p) ≤ m * q := Nat.mul_le_mul_left m hq
  have hbq : m * q ≤ b * q := Nat.mul_le_mul_right q hb
  have hq0 : 0 < q := Nat.lt_of_lt_of_le (Nat.mul_pos hk hp) hq
  refine ⟨by omega, ?_, ?_⟩
  · apply Nat.eq_of_mul_eq_mul_right hp
    omega
  · apply Nat.eq_of_mul_eq_mul_right hq0
    omega

/-- Intervals that touch are those of neighbours, and one of the two is open. -/
theorem touch_of_below {x y : Binary64} (h : x.Below y) (hle : y.interval.low ≤ x.interval.high) :
    x.interval.high = y.interval.low ∧ ¬(x.interval.closed = true ∧ y.interval.closed = true) := by
  have hfx := x.fraction_lt
  have hfy := y.fraction_lt
  have hpos : 0 < 2 ^ x.scale := Nat.two_pow_pos _
  simp only [closed_interval, low_interval, high_interval] at hle ⊢
  by_cases hexponent : x.exponent = y.exponent
  · -- Within a binade the significand grows by one at least.
    have hfraction : x.fraction < y.fraction := by
      rcases h with hlt | ⟨-, hlt⟩
      · exact absurd hexponent (Nat.ne_of_lt hlt)
      · exact hlt
    have hscale : 1 * 2 ^ x.scale ≤ 2 ^ y.scale := by
      unfold scale
      rw [hexponent, Nat.one_mul]
    have hstep : 4 * x.significand + 2 ≤ 4 * y.significand - y.reach := by
      unfold significand reach
      rw [hexponent, if_neg (by omega : ¬(y.fraction = 0 ∧ 1 < y.exponent))]
      split <;> omega
    have hreach : y.reach = 2 := if_neg (by omega)
    obtain ⟨heq, -, hb⟩ :=
      eq_of_squeeze hpos Nat.one_pos (Nat.le_of_eq (Nat.one_mul _).symm) hstep hscale hle
    exact ⟨heq, by omega⟩
  · have hlt : x.exponent < y.exponent := by
      rcases h with hlt | ⟨heq, -⟩
      · exact hlt
      · exact absurd heq hexponent
    have hy : y.significand = 2 ^ 52 + y.fraction := if_neg (by omega)
    by_cases hone : y.exponent = 1
    · -- The last places of the smallest normal binade are those of the subnormal numbers.
      have hx : x.significand = x.fraction := if_pos (by omega)
      have hreach : y.reach = 2 := if_neg (by omega)
      have hscale : 1 * 2 ^ x.scale ≤ 2 ^ y.scale := by
        unfold scale
        rw [hone, (by omega : x.exponent = 0)]
        decide
      obtain ⟨heq, ha, -⟩ := eq_of_squeeze hpos Nat.one_pos
        (by omega : 4 * x.significand + 2 ≤ 1 * (2 ^ 54 - 2)) (by omega) hscale hle
      exact ⟨heq, by omega⟩
    · -- From one binade to a higher one the last place doubles at least.
      have hx : x.significand < 2 ^ 53 := by
        unfold significand
        split <;> omega
      have hlow : 2 ^ 54 - 1 ≤ 4 * y.significand - y.reach := by
        unfold reach
        split <;> omega
      have hscale : 2 * 2 ^ x.scale ≤ 2 ^ y.scale := by
        rw [Nat.mul_comm, ← Nat.pow_succ]
        apply Nat.pow_le_pow_right (by decide)
        unfold scale
        omega
      obtain ⟨heq, ha, -⟩ := eq_of_squeeze hpos Nat.two_pos
        (by omega : 4 * x.significand + 2 ≤ 2 * (2 ^ 54 - 1)) hlow hscale hle
      exact ⟨heq, by omega⟩

/-- The decimals that read back, counted in quarters of a smallest step. -/
def Interval.Contains (i : Interval) (q : ℚ) : Prop :=
  if i.closed then i.low ≤ q ∧ q ≤ i.high else i.low < q ∧ q < i.high

theorem Interval.Contains.weaken {i : Interval} {q : ℚ} (h : i.Contains q) :
    i.low ≤ q ∧ q ≤ i.high := by
  unfold Contains at h
  split at h
  · exact h
  · exact ⟨h.1.le, h.2.le⟩

theorem Interval.Contains.strict {i : Interval} {q : ℚ} (h : i.Contains q)
    (hopen : ¬i.closed = true) : i.low < q ∧ q < i.high := by
  unfold Contains at h
  rwa [if_neg hopen] at h

theorem not_contains_of_below {x y : Binary64} (h : x.Below y) {q : ℚ}
    (hx : x.interval.Contains q) : ¬y.interval.Contains q := by
  intro hy
  have hle : (y.interval.low : ℚ) ≤ x.interval.high := hy.weaken.1.trans hx.weaken.2
  obtain ⟨heq, hopen⟩ := touch_of_below h (by exact_mod_cast hle)
  have heq : (x.interval.high : ℚ) = y.interval.low := by exact_mod_cast heq
  rcases not_and_or.mp hopen with hopen | hopen
  · have := (hx.strict hopen).2
    have := hy.weaken.1
    linarith
  · have := (hy.strict hopen).1
    have := hx.weaken.2
    linarith

theorem magnitude_eq_of_contains {x y : Binary64} {q : ℚ} (hx : x.interval.Contains q)
    (hy : y.interval.Contains q) : x.exponent = y.exponent ∧ x.fraction = y.fraction := by
  have hxy : ¬x.Below y := fun h => not_contains_of_below h hx hy
  have hyx : ¬y.Below x := fun h => not_contains_of_below h hy hx
  unfold Below at hxy hyx
  omega

end Binary64

end BeanRules.Decimal
