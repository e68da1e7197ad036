import BeanRules.ByName
import BeanRules.Decimal.Numeral
import BeanRules.Value

/-!
Constraint kinds and the attributes they declare.
-/
namespace BeanRules

inductive AttrType where
  | bool
  | int
  /-- An integer or a float. -/
  | number
  | string
  /-- A text that holds a decimal number. -/
  | decimal
  /-- A text that holds a pattern. -/
  | regex
  /-- A list of types. -/
  | types
deriving DecidableEq

namespace AttrType

def name : AttrType → String
  | bool => "Bool"
  | int => "Int"
  | number => "Number"
  | string => "String"
  | decimal => "Decimal"
  | regex => "Regex"
  | types => "Types"

def all : List AttrType := [bool, int, number, string, decimal, regex, types]

def accepts : AttrType → Value → Bool
  | bool, v => v.bool?.isSome
  | int, v => v.int?.isSome
  | number, v => v.int?.isSome || v.float?.isSome
  | string, v => v.string?.isSome
  | regex, v => v.string?.isSome
  | decimal, v => v.string?.any Decimal.isDecimalText
  | types, v => v.list?.any fun items => items.all fun i => i.type?.isSome

end AttrType

structure AttrSpec where
  name : String
  type : AttrType
  required : Bool
deriving DecidableEq

/-- A kind lists its attributes in the order of their declaration. A name may be declared more than
once; the first declaration decides which values it takes. -/
structure Kind where
  name : String
  attributes : List AttrSpec
deriving DecidableEq

namespace Kind

def bare (name : String) : Kind := ⟨name, []⟩

def withSpec (k : Kind) (name : String) (type : AttrType) (required : Bool) : Kind :=
  { k with attributes := k.attributes ++ [⟨name, type, required⟩] }

def optional (k : Kind) (name : String) (type : AttrType) : Kind := k.withSpec name type false

def required (k : Kind) (name : String) (type : AttrType) : Kind := k.withSpec name type true

def spec? (k : Kind) (name : String) : Option AttrSpec := k.attributes.find? (·.name == name)

end Kind

end BeanRules
