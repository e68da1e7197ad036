import BeanRules.Location
import BeanRules.Value

/-!
What a mapping consists of: constraints with their attribute values, and cascades, which ask for
the value at their location to be validated in turn.
-/
namespace BeanRules

/-- A constraint of some kind. Absent messages, groups and payloads leave no trace in JSON, but an
empty message does. -/
structure Constraint where
  kind : String
  attributes : Attributes
  message : Option String
  groups : List TypeRef
  payload : List TypeRef

namespace Constraint

def bare (kind : String) : Constraint := ⟨kind, .empty, none, [], []⟩

def withAttr (c : Constraint) (name : String) (v : Value) : Constraint :=
  { c with attributes := c.attributes.insert (name, v) }

def withMessage (c : Constraint) (text : String) : Constraint := { c with message := some text }

def withGroups (c : Constraint) (groups : List TypeRef) : Constraint := { c with groups }

def withPayload (c : Constraint) (payload : List TypeRef) : Constraint := { c with payload }

def json (c : Constraint) : Json :=
  .object ([("kind", .string c.kind), ("attributes", c.attributes.json)]
    ++ c.message.toList.map (fun m => ("message", .string m))
    ++ (if c.groups.isEmpty then [] else [("groups", .types c.groups)])
    ++ if c.payload.isEmpty then [] else [("payload", .types c.payload)])

def same (c d : Constraint) : Bool :=
  c.kind == d.kind && c.attributes.same d.attributes && c.message == d.message
    && c.groups == d.groups && c.payload == d.payload

end Constraint

inductive Declaration where
  | constraint (location : Location) (constraint : Constraint)
  | cascade (location : Location)

namespace Declaration

def location : Declaration → Location
  | constraint l _ => l
  | cascade l => l

def isCascade : Declaration → Bool
  | constraint .. => false
  | cascade _ => true

def constraint? : Declaration → Option Constraint
  | constraint _ c => some c
  | cascade _ => none

/-- The members of a declaration that do not say which sort it is. -/
def body : Declaration → List (String × Json)
  | constraint l c => [("location", l.json), ("descriptor", c.json)]
  | cascade l => [("location", l.json)]

def json (d : Declaration) : Json :=
  .object (("declaration", .string (if d.isCascade then "cascade" else "constraint")) :: d.body)

def bodyJson (d : Declaration) : Json := .object d.body

end Declaration

end BeanRules
