import BeanRules.Decimal.Shortest

/-!
How a double is laid out once its digits are known. The outputs of this library differ in where
positional notation ends, whether a whole number keeps a point, and how an exponent is signed; each
output states its choice as one `Layout`.
-/
namespace BeanRules.Decimal

structure Layout where
  /-- The exponents of the first digit for which no exponent is written. -/
  positional : Int → Bool
  /-- Whole numbers in positional notation end in `.0`. -/
  keepsPoint : Bool
  /-- Positive exponents carry a sign. -/
  signsExponent : Bool
  tie : Tie

/-- Digits with the point after the digit of exponent zero, filled up with zeros on either side. -/
def positionalDigits (keepsPoint : Bool) (d : Digits) : List Char :=
  let ds := Nat.toDigits 10 d.digits
  if 0 ≤ d.exponent then
    ds ++ List.replicate d.exponent.toNat '0' ++ (if keepsPoint then ['.', '0'] else [])
  else
    let places := (-d.exponent).toNat
    let padded := List.replicate (places + 1 - ds.length) '0' ++ ds
    padded.take (padded.length - places) ++ '.' :: padded.drop (padded.length - places)

def exponentDigits (signsExponent : Bool) (d : Digits) : List Char :=
  let ds := Nat.toDigits 10 d.digits
  let sign := if d.lead < 0 then ['-'] else if signsExponent then ['+'] else []
  let mantissa := match ds with
    | [] => []
    | [c] => [c]
    | c :: r => c :: '.' :: r
  mantissa ++ 'e' :: sign ++ Nat.toDigits 10 d.lead.natAbs

namespace Layout

def magnitude (l : Layout) (x : Binary64) : List Char :=
  let d := x.shortest l.tie
  if l.positional d.lead then positionalDigits l.keepsPoint d
  else exponentDigits l.signsExponent d

def render (l : Layout) (x : Binary64) : String :=
  if x.isNaN then "NaN"
  else
    let sign := if x.negative then ['-'] else []
    let body :=
      if !x.isFinite then ['i', 'n', 'f']
      else if x.isZero then positionalDigits l.keepsPoint ⟨0, 0⟩
      else l.magnitude x
    String.ofList (sign ++ body)

end Layout

end BeanRules.Decimal
