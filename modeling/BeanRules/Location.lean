import BeanRules.Signature

/-!
Where a declaration applies: to a bean as a whole, to a property of it, or to the return value or a
parameter of one of its methods. A cursor is nothing more than the location it stands at.
-/
namespace BeanRules

inductive Access where
  | field
  | accessor
deriving DecidableEq

def Access.word : Access → String
  | .field => "field"
  | .accessor => "accessor"

inductive Target where
  | returnValue
  | parameter (index : Nat)
deriving DecidableEq

def Target.index? : Target → Option Nat
  | .returnValue => none
  | .parameter i => some i

inductive Location where
  | bean (bean : TypeRef)
  | property (bean : TypeRef) (name : String) (access : Access)
  | method (signature : Signature) (target : Target)
deriving DecidableEq

namespace Location

def owner : Location → TypeRef
  | .bean b => b
  | .property b _ _ => b
  | .method s _ => s.bean

def signature? : Location → Option Signature
  | .method s _ => some s
  | _ => none

def target? : Location → Option Target
  | .method _ t => some t
  | _ => none

def isMethod (l : Location) : Bool := l.signature?.isSome

/-- A parameter has to lie within the arity of its method; other locations always do. -/
def inArity : Location → Bool
  | .method s (.parameter i) => decide (i < s.arity)
  | _ => true

def display : Location → String
  | .bean b => b.shortName
  | .property b name access => s!"{b}#{name} ({access.word})"
  | .method s .returnValue => s!"{s} return value"
  | .method s (.parameter i) => s!"{s} parameter {i}"

instance : ToString Location := ⟨display⟩

def json : Location → Json
  | .bean b => .object [("kind", .string "type"), ("bean", b.json)]
  | .property b name access =>
    .object [("kind", .string "property"), ("bean", b.json), ("name", .string name),
      ("access", .string access.word)]
  | .method s .returnValue =>
    .object [("kind", .string "method_return"), ("signature", s.json)]
  | .method s (.parameter i) =>
    .object [("kind", .string "method_parameter"), ("signature", s.json), ("index", .int i)]

end Location

end BeanRules
