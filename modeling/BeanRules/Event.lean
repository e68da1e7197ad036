import BeanRules.Refusal

/-!
The log of a session. Navigation is traced, what changes the session is noted for debugging, and
its end is reported.
-/
namespace BeanRules

inductive Level where
  | trace
  | debug
  | info
  | warn
deriving DecidableEq

def Level.word : Level → String
  | .trace => "TRACE"
  | .debug => "DEBUG"
  | .info => "INFO"
  | .warn => "WARN"

inductive Event where
  | kindRegistered (kind : String)
  | constraintDeclared (kind : String) (location : Location)
  | cascadeDeclared (location : Location)
  | groupsSet (bean : TypeRef) (count : Nat)
  | movedToBean (bean : TypeRef)
  | movedToProperty (bean : TypeRef) (name : String) (access : Access)
  | movedToMethod (signature : Signature)
  | movedToParameter (signature : Signature) (index : Nat)
  | movedToReturnValue (signature : Signature)
  | frozen (declarations beans : Nat)
  | rejected (refusal : Refusal)

namespace Event

def level : Event → Level
  | kindRegistered _ => .debug
  | constraintDeclared _ _ => .debug
  | cascadeDeclared _ => .debug
  | groupsSet _ _ => .debug
  | frozen _ _ => .info
  | rejected _ => .warn
  | _ => .trace

def message : Event → String
  | kindRegistered kind => s!"registered constraint kind {kind}"
  | constraintDeclared kind location => s!"constraint {kind} declared at {location}"
  | cascadeDeclared location => s!"cascade declared at {location}"
  | groupsSet bean count => s!"default group sequence of {bean} set to {count} groups"
  | movedToBean bean => s!"navigating to bean {bean}"
  | movedToProperty bean name access =>
    s!"navigating to property {bean}#{name} ({access.word})"
  | movedToMethod signature => s!"navigating to method {signature}"
  | movedToParameter signature index => s!"navigating to {signature} parameter {index}"
  | movedToReturnValue signature => s!"navigating to {signature} return value"
  | frozen declarations beans =>
    s!"froze constraint mapping: {declarations} declarations over {beans} beans"
  | rejected refusal => s!"rejecting mapping: {refusal.message}"

def line (e : Event) : String := s!"{e.level.word} {e.message}"

end Event

end BeanRules
