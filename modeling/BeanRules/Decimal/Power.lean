/-!
Powers of ten, by which a decimal is brought to a whole number.
-/
namespace BeanRules.Decimal

def powerOfTen (n : Nat) : Nat := Nat.pow 10 n

theorem powerOfTen_add (m n : Nat) : powerOfTen (m + n) = powerOfTen m * powerOfTen n :=
  Nat.pow_add 10 m n

theorem powerOfTen_pos (n : Nat) : 0 < powerOfTen n := Nat.pow_pos (by decide)

end BeanRules.Decimal
