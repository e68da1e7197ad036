import BeanRules.Json.Basic

/-!
A type is known by its full name together with a serial number that tells types of one name apart.
Two references denote the same type exactly when they are equal; names alone decide nothing.
-/
namespace BeanRules

structure TypeRef where
  name : String
  serial : Nat
deriving DecidableEq, Inhabited

namespace TypeRef

/-- What follows the last `::`, or `best` if there is none. -/
def afterLastPath (best : List Char) : List Char → List Char
  | [] => best
  | c :: r =>
    match c, r with
    | ':', ':' :: t => afterLastPath t r
    | _, _ => afterLastPath best r

/-- The name without its module path. A name with parameters is kept whole, since those carry
paths of their own. -/
def shortName (t : TypeRef) : String :=
  if t.name.toList.contains '<' then t.name
  else String.ofList (afterLastPath t.name.toList t.name.toList)

instance : ToString TypeRef := ⟨shortName⟩

def json (t : TypeRef) : Json := .string t.name

end TypeRef

def Json.types (l : List TypeRef) : Json := .array (l.map TypeRef.json)

end BeanRules
