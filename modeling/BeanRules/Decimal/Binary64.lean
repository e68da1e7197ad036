/-!
Double-precision numbers are kept as their 64 bits, and every operation on them is exact integer
arithmetic on the fields: a magnitude is a whole number of the smallest positive step, 2^-1074.
-/
namespace BeanRules.Decimal

structure Binary64 where
  bits : UInt64
deriving DecidableEq

namespace Binary64

def negative (x : Binary64) : Bool := x.bits >>> 63 != 0

def exponent (x : Binary64) : Nat := (x.bits >>> 52 &&& 0x7ff).toNat

def fraction (x : Binary64) : Nat := (x.bits &&& 0xfffffffffffff).toNat

def isNaN (x : Binary64) : Bool := x.exponent == 2047 && x.fraction != 0

def isFinite (x : Binary64) : Bool := x.exponent != 2047

def isZero (x : Binary64) : Bool := x.exponent == 0 && x.fraction == 0

/-- The fraction with the leading bit that normal numbers leave unwritten. -/
def significand (x : Binary64) : Nat :=
  if x.exponent = 0 then x.fraction else 0x10000000000000 + x.fraction

/-- The last place of the significand counts `2 ^ scale` smallest steps. -/
def scale (x : Binary64) : Nat := x.exponent - 1

def steps (x : Binary64) : Nat := x.significand <<< x.scale

def stepsPerUnit : Nat := 1 <<< 1074

/-- Comparison of numbers: the two zeros are equal, and a NaN equals nothing. -/
def sameNumber (x y : Binary64) : Bool :=
  !x.isNaN && !y.isNaN && (x.isZero && y.isZero || x.bits == y.bits)

theorem sameNumber_self (x : Binary64) : x.sameNumber x = !x.isNaN := by
  cases h : x.isNaN <;> simp [sameNumber, h]

theorem sameNumber_comm (x y : Binary64) : x.sameNumber y = y.sameNumber x := by
  simp only [sameNumber, Bool.and_comm, Bool.beq_comm]

/-- A quotient to the nearest integer, a half to the even neighbour. -/
def roundQuotient (num den : Nat) : Nat :=
  let q := num / den
  let twice := 2 * (num % den)
  if twice < den ∨ (twice = den ∧ q % 2 = 0) then q else q + 1

def infinityBits : Nat := 0x7ff <<< 52

/-- The number nearest to a quotient, a half to the even neighbour; too large a quotient gives
infinity. A significand that rounds up to 2^53 carries into the exponent field. -/
def ofRatio (num den : Nat) : Binary64 :=
  let steps := num * stepsPerUnit
  let scale := (steps / den).log2 - 52
  let bits := scale <<< 52 + roundQuotient steps (den <<< scale)
  ⟨UInt64.ofNat (min bits infinityBits)⟩

def ofNat (n : Nat) : Binary64 := ofRatio n 1

def mul (x y : Binary64) : Binary64 := ofRatio (x.steps * y.steps) (stepsPerUnit * stepsPerUnit)

def div (x y : Binary64) : Binary64 := ofRatio x.steps y.steps

def neg (x : Binary64) : Binary64 := ⟨x.bits ^^^ 0x8000000000000000⟩

end Binary64

end BeanRules.Decimal
