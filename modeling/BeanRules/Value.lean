import BeanRules.ByName
import BeanRules.TypeRef

/-!
Attribute values. They are shown in messages, compared, and exported as JSON, where a type is its
full name and a number that is not finite is null.
-/
namespace BeanRules

open Decimal (Binary64 Layout)

inductive Value where
  | null
  | bool (b : Bool)
  | int (n : Int64)
  | float (x : Binary64)
  | string (s : String)
  | type (t : TypeRef)
  | list (items : List Value)
deriving Inhabited

namespace Value

def typeName : Value → String
  | null => "Null"
  | bool _ => "Bool"
  | int _ => "Int"
  | float _ => "Float"
  | string _ => "String"
  | type _ => "Type"
  | list _ => "List"

def isNull : Value → Bool
  | null => true
  | _ => false

def bool? : Value → Option Bool
  | bool b => some b
  | _ => none

def int? : Value → Option Int64
  | int n => some n
  | _ => none

def float? : Value → Option Binary64
  | float x => some x
  | _ => none

def string? : Value → Option String
  | string s => some s
  | _ => none

def type? : Value → Option TypeRef
  | type t => some t
  | _ => none

def list? : Value → Option (List Value)
  | list items => some items
  | _ => none

/-- Shown numbers never have an exponent, and a whole number has no point. -/
def floatLayout : Layout where
  positional _ := true
  keepsPoint := false
  signsExponent := false
  tie := .up

mutual

def display : Value → String
  | null => "null"
  | bool b => if b then "true" else "false"
  | int n => toString n.toInt
  | float x => floatLayout.render x
  | string s => "\"" ++ s ++ "\""
  | type t => t.shortName
  | list items => "[" ++ ", ".intercalate (displays items) ++ "]"

def displays : List Value → List String
  | [] => []
  | v :: r => display v :: displays r

end

instance : ToString Value := ⟨display⟩

mutual

/-- Equality of numbers is numerical, so a NaN makes two values differ wherever it stands. Integers
and floats are never the same. -/
def same : Value → Value → Bool
  | null, null => true
  | bool a, bool b => a == b
  | int a, int b => a == b
  | float a, float b => a.sameNumber b
  | string a, string b => a == b
  | type a, type b => a == b
  | list a, list b => sameList a b
  | _, _ => false

def sameList : List Value → List Value → Bool
  | [], [] => true
  | a :: r, b :: s => same a b && sameList r s
  | _, _ => false

end

mutual

def json : Value → Json
  | null => .null
  | bool b => .bool b
  | int n => .int n.toInt
  | float x => if x.isFinite then .float x else .null
  | string s => .string s
  | type t => t.json
  | list items => .array (jsons items)

def jsons : List Value → List Json
  | [] => []
  | v :: r => json v :: jsons r

end

theorem displays_eq_map (l : List Value) : displays l = l.map display := by
  induction l with
  | nil => rfl
  | cons v r ih => simp [displays, ih]

theorem jsons_eq_map (l : List Value) : jsons l = l.map json := by
  induction l with
  | nil => rfl
  | cons v r ih => simp [jsons, ih]

end Value

abbrev Attributes := ByName (Prod.fst : String × Value → String)

namespace Attributes

def get? (a : Attributes) (name : String) : Option Value := (a.find? name).map (·.2)

def json (a : Attributes) : Json := .object (a.entries.map fun e => (e.1, e.2.json))

def same (a b : Attributes) : Bool :=
  a.names == b.names && Value.sameList (a.entries.map (·.2)) (b.entries.map (·.2))

end Attributes

end BeanRules
