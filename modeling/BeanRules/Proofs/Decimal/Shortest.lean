import BeanRules.Proofs.Decimal.Interval
import Mathlib.Algebra.Order.Field.Power
import Mathlib.Data.Nat.Cast.Order.Field
import Mathlib.Tactic.Ring

/-!
The digits written for a double read back as it: they lie in its rounding interval. Sixteen places
behind the leading digit the grid of decimals is finer than the interval is wide.
-/
namespace BeanRules.Decimal

theorem cast_powerOfTen (n : Nat) : (powerOfTen n : ℚ) = 10 ^ (n : Int) := by
  simp [powerOfTen]

theorem cast_powerOfTen_pos (n : Nat) : (0 : ℚ) < powerOfTen n := by
  exact_mod_cast powerOfTen_pos n

theorem zpow_mul_powerOfTen (k : Int) :
    (10 : ℚ) ^ k * powerOfTen (-k).toNat = powerOfTen k.toNat := by
  rw [cast_powerOfTen, cast_powerOfTen, ← zpow_add₀ (by decide)]
  congr 1
  omega

theorem pow_length_toDigits_le {n : Nat} (h : 0 < n) :
    powerOfTen ((Nat.toDigits 10 n).length - 1) ≤ n := by
  by_cases hone : (Nat.toDigits 10 n).length - 1 = 0
  · rw [hone]
    exact h
  · have := Nat.length_toDigits_le_iff (n := n) (by decide : 1 < 10) (Nat.pos_of_ne_zero hone)
    change 10 ^ _ ≤ n
    omega

theorem length_toDigits_pos (n : Nat) : 0 < (Nat.toDigits 10 n).length :=
  List.length_pos_iff.mpr Nat.toDigits_ne_nil

theorem lt_pow_length_toDigits (n : Nat) : n < powerOfTen (Nat.toDigits 10 n).length :=
  (Nat.length_toDigits_le_iff (by decide) (length_toDigits_pos n)).mp (Nat.le_refl _)

namespace Digits

def value (d : Digits) : ℚ := d.digits * 10 ^ d.exponent

def quarters (d : Digits) : ℚ := d.value * Binary64.quartersPerUnit

theorem value_stripZeros (fuel : Nat) (d : Digits) : (d.stripZeros fuel).value = d.value := by
  induction fuel generalizing d with
  | zero => rfl
  | succ fuel ih =>
    unfold stripZeros
    split
    case isTrue h =>
      have hdigits : d.digits = d.digits / 10 * 10 := by omega
      rw [ih]
      unfold value
      conv => rhs; rw [hdigits]
      rw [zpow_add_one₀ (by decide)]
      push_cast
      ring
    case isFalse => rfl

theorem pow_lead_le_value {d : Digits} (h : 0 < d.digits) : (10 : ℚ) ^ d.lead ≤ d.value := by
  have hdigits : (powerOfTen ((Nat.toDigits 10 d.digits).length - 1) : ℚ) ≤ d.digits := by
    exact_mod_cast pow_length_toDigits_le h
  unfold value lead
  rw [add_comm, zpow_add₀ (by decide), ← cast_powerOfTen]
  exact mul_le_mul_of_nonneg_right hdigits (zpow_nonneg (by decide) _)

theorem value_lt_pow_lead (d : Digits) : d.value < (10 : ℚ) ^ (d.lead + 1) := by
  have hdigits : (d.digits : ℚ) < powerOfTen (Nat.toDigits 10 d.digits).length := by
    exact_mod_cast lt_pow_length_toDigits d.digits
  have hlength := length_toDigits_pos d.digits
  have hlead : d.lead + 1 = (Nat.toDigits 10 d.digits).length + d.exponent := by
    unfold lead
    omega
  rw [hlead, zpow_add₀ (by decide), ← cast_powerOfTen]
  exact mul_lt_mul_of_pos_right hdigits (zpow_pos (by decide) _)

/-- On a grid both sides of a comparison are brought to whole numbers. -/
theorem quarters_mul_powerOfTen (a : Nat) (k : Int) :
    (⟨a, k⟩ : Digits).quarters * powerOfTen (-k).toNat =
      (a * (powerOfTen k.toNat * Binary64.quartersPerUnit) : Nat) := by
  unfold quarters value
  push_cast
  rw [← zpow_mul_powerOfTen k]
  ring

theorem le_quarters_iff (m a : Nat) (k : Int) :
    (m : ℚ) ≤ (⟨a, k⟩ : Digits).quarters ↔
      m * powerOfTen (-k).toNat ≤ a * (powerOfTen k.toNat * Binary64.quartersPerUnit) := by
  rw [← mul_le_mul_iff_of_pos_right (cast_powerOfTen_pos _), quarters_mul_powerOfTen]
  exact_mod_cast Iff.rfl

theorem quarters_le_iff (m a : Nat) (k : Int) :
    (⟨a, k⟩ : Digits).quarters ≤ m ↔
      a * (powerOfTen k.toNat * Binary64.quartersPerUnit) ≤ m * powerOfTen (-k).toNat := by
  rw [← mul_le_mul_iff_of_pos_right (cast_powerOfTen_pos _), quarters_mul_powerOfTen]
  exact_mod_cast Iff.rfl

theorem quarters_mul_pow (k : Int) (n : Nat) :
    (⟨1, k⟩ : Digits).quarters * powerOfTen n = (⟨1, k + n⟩ : Digits).quarters := by
  unfold quarters value
  rw [zpow_add₀ (by decide), cast_powerOfTen]
  ring

theorem quarters_natCast (n : Nat) :
    (⟨1, n⟩ : Digits).quarters = (powerOfTen n * Binary64.quartersPerUnit : Nat) := by
  unfold quarters value
  push_cast
  rw [cast_powerOfTen, one_mul]

end Digits

namespace Binary64

open Digits (le_quarters_iff quarters_le_iff)

theorem quartersPerUnit_pos : 0 < quartersPerUnit := by decide +kernel

/-- Whether a decimal reads back is decided on whole numbers. -/
theorem Interval.contains_quarters_iff (i : Interval) (a : Nat) (k : Int) :
    i.Contains (⟨a, k⟩ : Digits).quarters ↔
      if i.closed then
        i.low * powerOfTen (-k).toNat ≤ a * (powerOfTen k.toNat * quartersPerUnit) ∧
          a * (powerOfTen k.toNat * quartersPerUnit) ≤ i.high * powerOfTen (-k).toNat
      else
        i.low * powerOfTen (-k).toNat < a * (powerOfTen k.toNat * quartersPerUnit) ∧
          a * (powerOfTen k.toNat * quartersPerUnit) < i.high * powerOfTen (-k).toNat := by
  unfold Contains
  split
  · rw [le_quarters_iff, quarters_le_iff]
  · rw [← not_le, ← not_le, le_quarters_iff, quarters_le_iff, Nat.not_le, Nat.not_le]

theorem contains_of_onGrid? {i : Interval} {tie : Tie} {k : Int} {d : Digits}
    (h : onGrid? i tie k = some d) : i.Contains d.quarters := by
  unfold onGrid? at h
  extract_lets quarter place below inside at h
  have hinside : ∀ a, inside a = true → i.Contains (⟨a, k⟩ : Digits).quarters := by
    intro a ha
    rw [Interval.contains_quarters_iff]
    simpa [inside, quarter, place] using ha
  split at h
  case h_1 => cases h
  case h_2 hbelow _ =>
    cases h
    exact hinside below hbelow
  case h_3 _ habove =>
    cases h
    exact hinside (below + 1) habove
  case h_4 hbelow habove =>
    -- Whichever of the two is nearer, both read back.
    cases h
    split
    · exact hinside below hbelow
    · exact hinside (below + 1) habove

theorem isSome_onGrid? {i : Interval} (tie : Tie) {k : Int} (hlow : i.low < i.middle)
    (hhigh : i.middle < i.high) (hfine : (⟨1, k⟩ : Digits).quarters < (i.high - i.low : Nat)) :
    (onGrid? i tie k).isSome = true := by
  rw [← not_le, le_quarters_iff, Nat.not_le, Nat.one_mul, Nat.sub_mul] at hfine
  unfold onGrid?
  extract_lets quarter place below inside
  have hplace : 0 < place := Nat.mul_pos (powerOfTen_pos _) quartersPerUnit_pos
  have hquarter : 0 < quarter := powerOfTen_pos _
  have hbelow : below * place ≤ i.middle * quarter := Nat.div_mul_le_self _ _
  have habove : i.middle * quarter < (below + 1) * place := by
    rw [Nat.mul_comm (below + 1)]
    exact Nat.lt_mul_div_succ _ hplace
  have hlow : i.low * quarter < i.middle * quarter := Nat.mul_lt_mul_of_pos_right hlow hquarter
  have hhigh : i.middle * quarter < i.high * quarter := Nat.mul_lt_mul_of_pos_right hhigh hquarter
  have hfine : place < i.high * quarter - i.low * quarter := hfine
  have hinside : inside below = true ∨ inside (below + 1) = true := by
    simp only [inside, Nat.succ_mul] at habove ⊢
    split <;> simp only [Bool.and_eq_true, decide_eq_true_eq] <;> omega
  split
  case h_1 hout hout' => simp [hout, hout'] at hinside
  all_goals rfl

variable {x : Binary64}

theorem significand_lt (x : Binary64) : x.significand < 2 ^ 53 := by
  have := x.fraction_lt
  unfold significand
  split <;> omega

theorem significand_pos (h : x.isZero = false) : 0 < x.significand := by
  simp only [isZero, Bool.and_eq_false_iff, beq_eq_false_iff_ne] at h
  unfold significand
  split <;> omega

theorem low_lt_middle (h : x.isZero = false) : x.interval.low < x.interval.middle := by
  have := significand_pos h
  rw [low_interval, middle_interval]
  apply Nat.mul_lt_mul_of_pos_right _ (Nat.two_pow_pos _)
  unfold reach
  split <;> omega

theorem middle_lt_high (x : Binary64) : x.interval.middle < x.interval.high := by
  rw [middle_interval, high_interval]
  exact Nat.mul_lt_mul_of_pos_right (by omega) (Nat.two_pow_pos _)

theorem two_le_low (h : x.isZero = false) : 2 ≤ x.interval.low := by
  have := significand_pos h
  have hpos : 1 ≤ 2 ^ x.scale := Nat.two_pow_pos _
  rw [low_interval]
  have hleast : 2 ≤ 4 * x.significand - x.reach := by
    unfold reach
    split <;> omega
  exact Nat.mul_le_mul hleast hpos

/-- Seventeen digits tell all doubles apart. -/
theorem middle_lt_width (h : x.isZero = false) :
    x.interval.middle < (x.interval.high - x.interval.low) * powerOfTen 16 := by
  have hsignificand := x.significand_lt
  have hpos := significand_pos h
  have hwidth : x.interval.high - x.interval.low = (2 + x.reach) * 2 ^ x.scale := by
    rw [high_interval, low_interval, ← Nat.sub_mul]
    congr 1
    unfold reach
    split <;> omega
  rw [hwidth, middle_interval, Nat.mul_right_comm _ (2 ^ x.scale)]
  apply Nat.mul_lt_mul_of_pos_right _ (Nat.two_pow_pos _)
  have hsixteen : powerOfTen 16 = 10 ^ 16 := rfl
  rw [hsixteen]
  unfold reach
  split
  case isTrue hpower =>
    have hleast : x.significand = 2 ^ 52 := by
      unfold significand
      rw [if_neg (by omega), hpower.1]
      rfl
    omega
  case isFalse => omega

theorem four_le_middle (h : x.isZero = false) : 4 ≤ x.interval.middle := by
  have := significand_pos h
  have hpos : 1 ≤ 2 ^ x.scale := Nat.two_pow_pos _
  rw [middle_interval]
  exact Nat.mul_le_mul (by omega : 4 ≤ 4 * x.significand) hpos

theorem quarters_leadingExponent_le (h : x.isZero = false) :
    (⟨1, x.leadingExponent⟩ : Digits).quarters ≤ x.interval.middle := by
  have hshifted : quartersPerUnit ≤ x.interval.middle * powerOfTen 400 := by
    have hunit : quartersPerUnit ≤ 4 * powerOfTen 400 := by decide +kernel
    exact hunit.trans (Nat.mul_le_mul_right _ (four_le_middle h))
  have hpos : 0 < x.interval.middle * powerOfTen 400 / quartersPerUnit :=
    Nat.div_pos hshifted quartersPerUnit_pos
  have hlength := pow_length_toDigits_le hpos
  have hne := length_toDigits_pos (x.interval.middle * powerOfTen 400 / quartersPerUnit)
  rw [Nat.le_div_iff_mul_le quartersPerUnit_pos] at hlength
  have hlead : x.leadingExponent + (400 : Nat) = ((Nat.toDigits 10
      (x.interval.middle * powerOfTen 400 / quartersPerUnit)).length - 1 : Nat) := by
    change ((Nat.toDigits 10 (x.interval.middle * powerOfTen 400 / quartersPerUnit)).length : Int)
      - 401 + _ = _
    omega
  rw [← mul_le_mul_iff_of_pos_right (cast_powerOfTen_pos 400), Digits.quarters_mul_pow, hlead,
    Digits.quarters_natCast]
  exact_mod_cast hlength

/-- The last of the grids that are tried has a neighbour that reads back. -/
theorem isSome_onGrid?_seventeenth (tie : Tie) (h : x.isZero = false) :
    (onGrid? x.interval tie (x.leadingExponent - 16)).isSome = true := by
  apply isSome_onGrid? tie (low_lt_middle h) (middle_lt_high x)
  have hwidth : (x.interval.middle : ℚ) <
      (x.interval.high - x.interval.low : Nat) * powerOfTen 16 := by
    exact_mod_cast middle_lt_width h
  rw [← mul_lt_mul_iff_of_pos_right (cast_powerOfTen_pos 16), Digits.quarters_mul_pow]
  calc (⟨1, x.leadingExponent - 16 + (16 : Nat)⟩ : Digits).quarters
      = (⟨1, x.leadingExponent⟩ : Digits).quarters := by congr 2; omega
    _ ≤ x.interval.middle := quarters_leadingExponent_le h
    _ < _ := hwidth

/-- The shortest digits read back as the number they are written for. -/
theorem contains_shortest (tie : Tie) (h : x.isZero = false) :
    x.interval.Contains (x.shortest tie).quarters := by
  have hsome : ((List.range 17).findSome? fun n : Nat =>
      onGrid? x.interval tie (x.leadingExponent - n)).isSome = true := by
    rw [List.findSome?_isSome_iff]
    exact ⟨16, by decide, isSome_onGrid?_seventeenth tie h⟩
  obtain ⟨d, hfound⟩ := Option.isSome_iff_exists.mp hsome
  obtain ⟨n, -, hgrid⟩ := List.exists_of_findSome?_eq_some hfound
  have hdigits : x.shortest tie = d.stripZeros 17 := by
    simp only [shortest, hfound, Option.getD_some]
  rw [hdigits, Digits.quarters, Digits.value_stripZeros]
  exact contains_of_onGrid? hgrid

theorem digits_shortest_pos (tie : Tie) (h : x.isZero = false) : 0 < (x.shortest tie).digits := by
  apply Nat.pos_of_ne_zero
  intro hzero
  have hlow : (x.interval.low : ℚ) ≤ (x.shortest tie).quarters :=
    (contains_shortest tie h).weaken.1
  have htwo : (2 : ℚ) ≤ x.interval.low := by exact_mod_cast two_le_low h
  simp only [Digits.quarters, Digits.value, hzero, Nat.cast_zero, zero_mul] at hlow
  linarith

theorem high_lt (x : Binary64) : x.interval.high < quartersPerUnit * powerOfTen 400 := by
  have hsignificand := x.significand_lt
  have hexponent := x.exponent_lt
  rw [high_interval]
  calc (4 * x.significand + 2) * 2 ^ x.scale
      ≤ 2 ^ 56 * 2 ^ 2046 := by
        apply Nat.mul_le_mul (by omega)
        apply Nat.pow_le_pow_right (by decide)
        unfold scale
        omega
    _ < quartersPerUnit * powerOfTen 400 := by decide +kernel

theorem natAbs_lead_shortest_le (tie : Tie) (h : x.isZero = false) :
    (x.shortest tie).lead.natAbs ≤ 400 := by
  have hinside := (contains_shortest tie h).weaken
  have hdigits := digits_shortest_pos tie h
  generalize x.shortest tie = d at hinside hdigits ⊢
  unfold Digits.quarters at hinside
  have hunit : (0 : ℚ) < quartersPerUnit := by exact_mod_cast quartersPerUnit_pos
  have hupper : d.lead < (400 : Nat) := by
    rw [← zpow_lt_zpow_iff_right₀ (by decide : (1 : ℚ) < 10), ← cast_powerOfTen,
      ← mul_lt_mul_iff_of_pos_left hunit]
    calc (quartersPerUnit : ℚ) * 10 ^ d.lead
        ≤ quartersPerUnit * d.value :=
          mul_le_mul_of_nonneg_left (Digits.pow_lead_le_value hdigits) hunit.le
      _ ≤ x.interval.high := by linarith
      _ < quartersPerUnit * powerOfTen 400 := by exact_mod_cast high_lt x
  have hlower : -(400 : Nat) < d.lead + 1 := by
    have hunit' : (quartersPerUnit : ℚ) < 2 * powerOfTen 400 := by
      have : quartersPerUnit < 2 * powerOfTen 400 := by decide +kernel
      exact_mod_cast this
    have htwo : (2 : ℚ) ≤ x.interval.low := by exact_mod_cast two_le_low h
    rw [← zpow_lt_zpow_iff_right₀ (by decide : (1 : ℚ) < 10), ← mul_lt_mul_iff_of_pos_right hunit]
    calc (10 : ℚ) ^ (-(400 : Nat) : Int) * quartersPerUnit
        < 10 ^ (-(400 : Nat) : Int) * (2 * powerOfTen 400) :=
          mul_lt_mul_of_pos_left hunit' (zpow_pos (by decide) _)
      _ = 2 := by
          rw [mul_left_comm, cast_powerOfTen, ← zpow_add₀ (by decide), neg_add_cancel, zpow_zero,
            mul_one]
      _ ≤ d.value * quartersPerUnit := htwo.trans hinside.1
      _ < 10 ^ (d.lead + 1) * quartersPerUnit :=
          mul_lt_mul_of_pos_right d.value_lt_pow_lead hunit
  omega

end Binary64

end BeanRules.Decimal
