import BeanRules.Kind
import BeanRules.Location
import BeanRules.Pattern.Fault
import BeanRules.Policy.Reader

/-!
Why a call is refused. Every refusal is reported by the call that caused it.
-/
namespace BeanRules

inductive GroupFault where
  | empty
  | repeated (group : TypeRef)
deriving DecidableEq

def GroupFault.message : GroupFault → String
  | empty => "sequence is empty"
  | repeated g => s!"group {g} appears more than once"

inductive Refusal where
  | emptyPropertyName (bean : TypeRef)
  | malformedMethodName (bean : TypeRef) (name : String)
  | indexOutOfRange (signature : Signature) (index : Nat)
  | unsupportedKind (kind : String)
  | unknownAttribute (kind attr : String)
  | missingAttribute (kind attr : String)
  | invalidAttribute (kind attr : String) (expected : AttrType) (actual : Value)
  | invalidPattern (pattern : String) (fault : Pattern.Fault)
  | invalidGroups (bean : TypeRef) (fault : GroupFault)
  | malformedPolicy (fault : Json.Fault)

def Refusal.message : Refusal → String
  | emptyPropertyName bean => s!"Empty property name on bean {bean}"
  | malformedMethodName bean name =>
    s!"Malformed method name {Text.quoted name} on bean {bean}"
  | indexOutOfRange signature index =>
    s!"Parameter index {index} out of range for {signature} (arity {signature.arity})"
  | unsupportedKind kind => s!"Unsupported constraint kind: {Text.quoted kind}"
  | unknownAttribute kind attr => s!"Unknown attribute {attr} for constraint {kind}"
  | missingAttribute kind attr => s!"Missing required attribute {attr} for constraint {kind}"
  | invalidAttribute kind attr expected actual =>
    s!"Invalid attribute type for {kind}.{attr}: expected {expected.name}, got " ++
      actual.typeName
  | invalidPattern pattern fault => s!"Invalid pattern {Text.quoted pattern}: {fault.message}"
  | invalidGroups bean fault => s!"Invalid default group sequence for {bean}: {fault.message}"
  | malformedPolicy fault => s!"Serialization error: {fault.message}"

def Signature.declare (bean : TypeRef) (name : String) (parameterTypes : List TypeRef) :
    Except Refusal Signature :=
  if h : isIdentifier name = true then .ok ⟨bean, name, parameterTypes, h⟩
  else .error (.malformedMethodName bean name)

def Signature.checkIndex (s : Signature) (index : Nat) : Except Refusal Unit :=
  if index < s.arity then .ok () else .error (.indexOutOfRange s index)

theorem Signature.declare_eq_ok_iff {bean : TypeRef} {name : String} {ps : List TypeRef}
    {s : Signature} :
    Signature.declare bean name ps = .ok s ↔
      s.bean = bean ∧ s.name = name ∧ s.parameterTypes = ps := by
  unfold Signature.declare
  split
  next h =>
    constructor
    · rintro ⟨⟩; exact ⟨rfl, rfl, rfl⟩
    · obtain ⟨b, n, p, hn⟩ := s; rintro ⟨rfl, rfl, rfl⟩; rfl
  next h =>
    constructor
    · nofun
    · rintro ⟨-, rfl, -⟩; exact absurd s.named h

theorem Signature.checkIndex_eq_ok_iff {s : Signature} {index : Nat} :
    s.checkIndex index = .ok () ↔ index < s.arity := by
  unfold Signature.checkIndex; split <;> simp_all

def Policy.fromJson (text : String) : Except Refusal Policy :=
  (Policy.ofJson text).mapError .malformedPolicy

end BeanRules
