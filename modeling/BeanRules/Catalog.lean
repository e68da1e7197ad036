import BeanRules.Builtin
import BeanRules.Declaration
import BeanRules.Pattern.Reader
import BeanRules.Policy
import BeanRules.Refusal

/-!
The catalog holds the kinds that a session can use, and checks a constraint against its kind before
it is declared. The check looks at the attributes in name order and stops at the first fault; only
then does it look for required attributes that are absent.
-/
namespace BeanRules

abbrev Catalog := ByName Kind.name

namespace Catalog

def builtin : Catalog := .ofList (Builtin.all.map Builtin.kind)

def register (c : Catalog) (k : Kind) : Catalog := c.insert k

def resolve (c : Catalog) (kind : String) : Except Refusal Kind :=
  match c.find? kind with
  | some k => .ok k
  | none => .error (.unsupportedKind kind)

end Catalog

namespace Kind

def checkPattern (pattern : String) : Except Refusal Unit :=
  match Pattern.read pattern with
  | .ok _ => .ok ()
  | .error fault => .error (.invalidPattern pattern fault)

def checkAttribute (k : Kind) (p : Policy) (name : String) (v : Value) : Except Refusal Unit :=
  match k.spec? name with
  | none => if p.strictAttributes then .error (.unknownAttribute k.name name) else .ok ()
  | some spec =>
    if spec.type.accepts v then
      if spec.type = .regex ∧ p.validatePatterns then
        match v.string? with
        | some pattern => checkPattern pattern
        | none => .ok ()
      else .ok ()
    else .error (.invalidAttribute k.name name spec.type v)

def checkAttributes (k : Kind) (p : Policy) : List (String × Value) → Except Refusal Unit
  | [] => .ok ()
  | (name, v) :: r => do
    k.checkAttribute p name v
    k.checkAttributes p r

def checkRequired (k : Kind) (a : Attributes) : Except Refusal Unit :=
  match k.attributes.find? fun spec => spec.required && !a.contains spec.name with
  | some spec => .error (.missingAttribute k.name spec.name)
  | none => .ok ()

end Kind

def Catalog.check (c : Catalog) (p : Policy) (constraint : Constraint) : Except Refusal Unit := do
  let k ← c.resolve constraint.kind
  k.checkAttributes p constraint.attributes.entries
  k.checkRequired constraint.attributes

end BeanRules
