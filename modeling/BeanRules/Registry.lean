import BeanRules.Catalog
import BeanRules.Event
import BeanRules.Mapping

/-!
The registry gathers the declarations of a session. It only ever grows at the end, and freezing it
is the last chance to refuse a parameter that its method does not have.
-/
namespace BeanRules

structure Registry where
  policy : Policy
  catalog : Catalog
  declarations : List Declaration
  sequences : GroupSequences

namespace Registry

def new (policy : Policy) : Registry := ⟨policy, .builtin, [], []⟩

def registerKind (r : Registry) (k : Kind) : Registry := { r with catalog := r.catalog.register k }

def addConstraint (r : Registry) (location : Location) (c : Constraint) :
    Except Refusal Registry := do
  r.catalog.check r.policy c
  return { r with declarations := r.declarations ++ [.constraint location c] }

def addCascade (r : Registry) (location : Location) : Registry :=
  { r with declarations := r.declarations ++ [.cascade location] }

/-- The group at the smallest position that equals an earlier one; `before` are the earlier ones. -/
def firstRepeated? (before : List TypeRef) : List TypeRef → Option TypeRef
  | [] => none
  | g :: r => if before.contains g then some g else firstRepeated? (g :: before) r

def checkGroups (bean : TypeRef) (groups : List TypeRef) : Except Refusal Unit :=
  if groups.isEmpty then .error (.invalidGroups bean .empty)
  else
    match firstRepeated? [] groups with
    | some g => .error (.invalidGroups bean (.repeated g))
    | none => .ok ()

def setDefaultGroups (r : Registry) (bean : TypeRef) (groups : List TypeRef) :
    Except Refusal Registry := do
  checkGroups bean groups
  return { r with sequences := r.sequences.set bean groups }

def defaultGroups? (r : Registry) (bean : TypeRef) : Option (List TypeRef) :=
  r.sequences.get? bean

def constraintCount (r : Registry) : Nat := r.declarations.countP (!·.isCascade)

def cascadeCount (r : Registry) : Nat := r.declarations.countP (·.isCascade)

/-- The first declaration at a parameter outside the arity of its method is refused. -/
def checkIndices : List Declaration → Except Refusal Unit
  | [] => .ok ()
  | d :: r => do
    match d.location with
    | .method s (.parameter i) => s.checkIndex i
    | _ => .ok ()
    checkIndices r

def freeze (r : Registry) : Except Refusal Mapping := do
  checkIndices r.declarations
  return .ofDeclarations r.declarations r.sequences

def freezeEvent (r : Registry) : Event :=
  match r.freeze with
  | .ok m => .frozen m.declarations.length m.beans.length
  | .error e => .rejected e

end Registry

end BeanRules
