import BeanRules.Decimal.Binary64
import BeanRules.Decimal.Power

/-!
The shortest decimal that reads back as a given double. On the grid of decimals with `n` digits the
candidates are the two neighbours of the number, so the first grid on which a neighbour reads back
has the fewest digits, and the nearer of the two neighbours is the one to write.
-/
namespace BeanRules.Decimal

/-- The decimal `digits * 10 ^ exponent`. -/
structure Digits where
  digits : Nat
  exponent : Int
deriving DecidableEq

def Digits.lead (d : Digits) : Int := d.exponent + ((Nat.toDigits 10 d.digits).length - 1 : Nat)

/-- Which of two decimals is written when both are equally near. -/
inductive Tie where
  | even
  | up
deriving DecidableEq

def Digits.stripZeros : Nat → Digits → Digits
  | 0, d => d
  | fuel + 1, d =>
    if d.digits ≠ 0 ∧ d.digits % 10 = 0 then stripZeros fuel ⟨d.digits / 10, d.exponent + 1⟩ else d

namespace Binary64

/-- The decimals that read back as a number lie between two halves of a last place. Bounds and
number are counted in quarters of a smallest step; the bounds belong to the interval when the
significand is even. -/
structure Interval where
  low : Nat
  middle : Nat
  high : Nat
  closed : Bool

/-- Below a power of two the neighbour is nearer by half. -/
def interval (x : Binary64) : Interval where
  low := 4 * x.steps - (if x.fraction = 0 ∧ 1 < x.exponent then 1 else 2) <<< x.scale
  middle := 4 * x.steps
  high := 4 * x.steps + 2 <<< x.scale
  closed := x.significand % 2 == 0

def quartersPerUnit : Nat := 4 * stepsPerUnit

/-- The power of ten at or below the number. The shift by 10^400 makes its integer part long. -/
def leadingExponent (x : Binary64) : Int :=
  ((Nat.toDigits 10 (4 * x.steps * powerOfTen 400 / quartersPerUnit)).length : Int) - 401

/-- The neighbours on the grid of multiples of `10 ^ k`, tried against the interval. -/
def onGrid? (i : Interval) (tie : Tie) (k : Int) : Option Digits :=
  let quarter := powerOfTen (-k).toNat
  let place := powerOfTen k.toNat * quartersPerUnit
  let below := i.middle * quarter / place
  let inside (a : Nat) : Bool :=
    if i.closed then i.low * quarter ≤ a * place && a * place ≤ i.high * quarter
    else i.low * quarter < a * place && a * place < i.high * quarter
  match inside below, inside (below + 1) with
  | false, false => none
  | true, false => some ⟨below, k⟩
  | false, true => some ⟨below + 1, k⟩
  | true, true =>
    let down := i.middle * quarter - below * place
    let up := (below + 1) * place - i.middle * quarter
    let takeBelow := down < up || down == up && tie == .even && below % 2 == 0
    some ⟨if takeBelow then below else below + 1, k⟩

/-- The digits of a finite number. Seventeen digits always read back. -/
def shortest (tie : Tie) (x : Binary64) : Digits :=
  let i := x.interval
  let lead := x.leadingExponent
  let found := (List.range 17).findSome? fun (n : Nat) => onGrid? i tie (lead - n)
  (found.getD ⟨0, 0⟩).stripZeros 17

end Binary64

end BeanRules.Decimal
