import BeanRules.TypeRef

/-!
A method is identified by the bean that declares it, its name and the types of its parameters. The
declarations on its return value and its parameters belong together when all three agree.
-/
namespace BeanRules

/-- A letter or underscore, then letters, digits and underscores, all of them ASCII. -/
def isIdentifier (s : String) : Bool :=
  match s.toList with
  | [] => false
  | c :: r => (c.isAlpha || c == '_') && r.all fun d => d.isAlphanum || d == '_'

structure Signature where
  bean : TypeRef
  name : String
  parameterTypes : List TypeRef
  named : isIdentifier name = true
deriving DecidableEq

namespace Signature

def arity (s : Signature) : Nat := s.parameterTypes.length

def parameterType? (s : Signature) (index : Nat) : Option TypeRef := s.parameterTypes[index]?

def display (s : Signature) : String :=
  s!"{s.bean}.{s.name}(" ++ ", ".intercalate (s.parameterTypes.map TypeRef.shortName) ++ ")"

instance : ToString Signature := ⟨display⟩

def json (s : Signature) : Json :=
  .object [("bean", s.bean.json), ("name", .string s.name),
    ("parameter_types", .types s.parameterTypes)]

end Signature

end BeanRules
