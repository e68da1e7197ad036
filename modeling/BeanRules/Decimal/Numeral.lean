import BeanRules.Decimal.Power
import BeanRules.Text.Blank

/-!
Decimal numbers written in a text, judged by their exact value: a numeral is finite when the
nearest double is, which is decided on integers and never by rounding.
-/
namespace BeanRules.Decimal

/-- The number `digits * 10 ^ (exponent - places)`, in which `places` of the digits were written
after the point. -/
structure Numeral where
  negative : Bool
  digits : Nat
  places : Nat
  exponent : Int
deriving DecidableEq

def digitValue (c : Char) : Nat := c.toNat - '0'.toNat

def natOfDigits (ds : List Char) : Nat := ds.foldl (fun n c => 10 * n + digitValue c) 0

/-- Written exponents stop growing once they have reached 65536. -/
def exponentOfDigits (ds : List Char) : Nat :=
  ds.foldl (fun n c => if n < 65536 then 10 * n + digitValue c else n) 0

/-- A sign is optional, and a plus says nothing. -/
def takeSign : List Char → Bool × List Char
  | '-' :: r => (true, r)
  | '+' :: r => (false, r)
  | s => (false, s)

/-- The exponent part is either absent or an `e` with at least one digit, up to the end. -/
def exponentPart? : List Char → Option Int
  | [] => some 0
  | c :: r =>
    let (negative, ds) := takeSign r
    if (c = 'e' ∨ c = 'E') ∧ ds ≠ [] ∧ ds.all Char.isDigit then
      some (if negative then -(exponentOfDigits ds : Int) else exponentOfDigits ds)
    else none

namespace Numeral

/-- Digits, then a point with further digits, then an exponent. Either run of digits may be empty
but not both. -/
def ofChars? (s : List Char) : Option Numeral :=
  let (negative, unsigned) := takeSign s
  let whole := unsigned.takeWhile Char.isDigit
  let afterWhole := unsigned.dropWhile Char.isDigit
  let (places, tail) := match afterWhole with
    | '.' :: r => (r.takeWhile Char.isDigit, r.dropWhile Char.isDigit)
    | r => ([], r)
  if whole = [] ∧ places = [] then none
  else (exponentPart? tail).map fun e => ⟨negative, natOfDigits (whole ++ places), places.length, e⟩

/-- Everything from here on rounds to infinity: half a last place above the largest double. -/
def overflowBound : Nat := 1 <<< 1024 - 1 <<< 970

def isFinite (n : Numeral) : Bool :=
  let e := n.exponent - n.places
  decide (n.digits * powerOfTen e.toNat < overflowBound * powerOfTen (-e).toNat)

end Numeral

def isDecimalText (s : String) : Bool :=
  match Numeral.ofChars? (Text.trim s.toList) with
  | some n => n.isFinite
  | none => false

end BeanRules.Decimal
