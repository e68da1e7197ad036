import BeanRules.Kind

/-!
The constraint kinds that every session knows, with the attributes that each declares and the
setters that a builder for it offers. The two are stated apart: a setter says which value it stores
under which name, and whether the kind takes that value is for the declaration to decide.
-/
namespace BeanRules

inductive Builtin where
  | assertFalse
  | assertTrue
  | decimalMax
  | decimalMin
  | digits
  | email
  | future
  | length
  | max
  | min
  | notBlank
  | notEmpty
  | notNull
  | null
  | past
  | pattern
  | range
  | size
deriving DecidableEq

namespace Builtin

def all : List Builtin :=
  [assertFalse, assertTrue, decimalMax, decimalMin, digits, email, future, length, max, min,
    notBlank, notEmpty, notNull, null, past, pattern, range, size]

theorem mem_all (b : Builtin) : b ∈ all := by cases b <;> decide

def name : Builtin → String
  | assertFalse => "AssertFalse"
  | assertTrue => "AssertTrue"
  | decimalMax => "DecimalMax"
  | decimalMin => "DecimalMin"
  | digits => "Digits"
  | email => "Email"
  | future => "Future"
  | length => "Length"
  | max => "Max"
  | min => "Min"
  | notBlank => "NotBlank"
  | notEmpty => "NotEmpty"
  | notNull => "NotNull"
  | null => "Null"
  | past => "Past"
  | pattern => "Pattern"
  | range => "Range"
  | size => "Size"

def ofName? (s : String) : Option Builtin := all.find? (·.name == s)

theorem ofName?_name (b : Builtin) : ofName? b.name = some b := by cases b <;> decide

def bounds (k : Kind) : Kind := (k.optional "min" .int).optional "max" .int

def kind (b : Builtin) : Kind :=
  let k := Kind.bare b.name
  match b with
  | decimalMax | decimalMin => (k.required "value" .decimal).optional "inclusive" .bool
  | digits => (k.required "integer" .int).required "fraction" .int
  | email => k.optional "regexp" .regex
  | length | range | size => bounds k
  | max | min => k.required "value" .int
  | pattern => k.required "regexp" .regex
  | _ => k

theorem kind_name (b : Builtin) : b.kind.name = b.name := by cases b <;> rfl

/-- The setters of a kind, each with its argument. Kinds without attributes have none. -/
inductive Setter : Builtin → Type where
  | minValue (n : Int64) : Setter min
  | maxValue (n : Int64) : Setter max
  | decimalMinValue (text : String) : Setter decimalMin
  | decimalMinInclusive (b : Bool) : Setter decimalMin
  | decimalMaxValue (text : String) : Setter decimalMax
  | decimalMaxInclusive (b : Bool) : Setter decimalMax
  | digitsInteger (n : UInt32) : Setter digits
  | digitsFraction (n : UInt32) : Setter digits
  | sizeMin (n : Int64) : Setter size
  | sizeMax (n : Int64) : Setter size
  | lengthMin (n : Int64) : Setter length
  | lengthMax (n : Int64) : Setter length
  | rangeMin (n : Int64) : Setter range
  | rangeMax (n : Int64) : Setter range
  | patternRegexp (text : String) : Setter pattern
  | emailRegexp (text : String) : Setter email

namespace Setter

/-- A count of digits always fits into a signed integer of twice the width. -/
def count (n : UInt32) : Value := .int (Int64.ofNat n.toNat)

def assignment {b : Builtin} : Setter b → String × Value
  | minValue n => ("value", .int n)
  | maxValue n => ("value", .int n)
  | decimalMinValue text => ("value", .string text)
  | decimalMinInclusive b => ("inclusive", .bool b)
  | decimalMaxValue text => ("value", .string text)
  | decimalMaxInclusive b => ("inclusive", .bool b)
  | digitsInteger n => ("integer", count n)
  | digitsFraction n => ("fraction", count n)
  | sizeMin n => ("min", .int n)
  | sizeMax n => ("max", .int n)
  | lengthMin n => ("min", .int n)
  | lengthMax n => ("max", .int n)
  | rangeMin n => ("min", .int n)
  | rangeMax n => ("max", .int n)
  | patternRegexp text => ("regexp", .string text)
  | emailRegexp text => ("regexp", .string text)

def count? (n : Int64) : Option UInt32 :=
  if 0 ≤ n.toInt ∧ n.toInt < UInt32.size then some (UInt32.ofNat n.toInt.toNat) else none

/-- The setter of a kind that is known by the name of its attribute. -/
def of? (b : Builtin) (attr : String) (v : Value) : Option (Setter b) :=
  match b, attr, v with
  | .min, "value", .int n => some (minValue n)
  | .max, "value", .int n => some (maxValue n)
  | .decimalMin, "value", .string text => some (decimalMinValue text)
  | .decimalMin, "inclusive", .bool b => some (decimalMinInclusive b)
  | .decimalMax, "value", .string text => some (decimalMaxValue text)
  | .decimalMax, "inclusive", .bool b => some (decimalMaxInclusive b)
  | .digits, "integer", .int n => (count? n).map digitsInteger
  | .digits, "fraction", .int n => (count? n).map digitsFraction
  | .size, "min", .int n => some (sizeMin n)
  | .size, "max", .int n => some (sizeMax n)
  | .length, "min", .int n => some (lengthMin n)
  | .length, "max", .int n => some (lengthMax n)
  | .range, "min", .int n => some (rangeMin n)
  | .range, "max", .int n => some (rangeMax n)
  | .pattern, "regexp", .string text => some (patternRegexp text)
  | .email, "regexp", .string text => some (emailRegexp text)
  | _, _, _ => none

end Setter

end Builtin

end BeanRules
