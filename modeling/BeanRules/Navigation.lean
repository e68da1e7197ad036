import BeanRules.Event
import BeanRules.Policy

/-!
Moving a cursor. A move never changes the cursor it starts from; it leads to a new location or is
refused.
-/
namespace BeanRules

inductive Move where
  | bean (bean : TypeRef)
  | property (name : String) (access : Access)
  | method (name : String) (parameterTypes : List TypeRef)
  | parameter (index : Nat)
  | returnValue
  /-- A second cursor at the same place. -/
  | stay

namespace Location

def toProperty (l : Location) (name : String) (access : Access) : Except Refusal Location :=
  if Text.isBlankText name then .error (.emptyPropertyName l.owner)
  else .ok (.property l.owner name access)

def toMethod (l : Location) (name : String) (parameterTypes : List TypeRef) :
    Except Refusal Location := do
  let s ← Signature.declare l.owner name parameterTypes
  return .method s .returnValue

def toParameter (p : Policy) (s : Signature) (index : Nat) : Except Refusal Location := do
  match p.indexCheck with
  | .eager => s.checkIndex index
  | .deferred => .ok ()
  return .method s (.parameter index)

/-- Where a move leads. Only a cursor on a method can move to its parameters and return value. -/
def move? (p : Policy) (l : Location) : Move → Option (Except Refusal Location)
  | .bean b => some (.ok (.bean b))
  | .property name access => some (l.toProperty name access)
  | .method name parameterTypes => some (l.toMethod name parameterTypes)
  | .parameter index => l.signature?.map fun s => toParameter p s index
  | .returnValue => l.signature?.map fun s => .ok (.method s .returnValue)
  | .stay => some (.ok l)

end Location

def Move.event? : Move → Location → Option Event
  | .bean _, .bean b => some (.movedToBean b)
  | .property _ _, .property b name access => some (.movedToProperty b name access)
  | .method _ _, .method s _ => some (.movedToMethod s)
  | .parameter _, .method s (.parameter i) => some (.movedToParameter s i)
  | .returnValue, .method s .returnValue => some (.movedToReturnValue s)
  | _, _ => none

end BeanRules
