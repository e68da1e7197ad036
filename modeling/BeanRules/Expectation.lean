import BeanRules.Declaration
import BeanRules.Pattern.Match
import BeanRules.Text.Quoted

/-!
What a step of a scenario is expected to do. An expected error overrides every other expectation;
otherwise the step has to succeed, and the first expectation that its declarations do not meet is
the one reported.
-/
namespace BeanRules

inductive ScenarioFailure where
  | stepFailed (scenario step message : String)
  | expectationUnmet (scenario step message : String)
  | freezeFailed (scenario message : String)
  | invalidErrorPattern (pattern : String) (fault : Pattern.Fault)
deriving DecidableEq

def ScenarioFailure.message : ScenarioFailure → String
  | stepFailed scenario step message => s!"[{scenario}] step '{step}' failed: {message}"
  | expectationUnmet scenario step message =>
    s!"[{scenario}] assertion failed in step '{step}': {message}"
  | freezeFailed scenario message => s!"[{scenario}] freeze failed: {message}"
  | invalidErrorPattern pattern fault =>
    s!"invalid error pattern '{pattern}': {fault.message}"

/-- The declarations that a step added, or the message it was refused with. -/
abbrev StepOutcome := Except String (List Declaration)

structure Expectation where
  declared : Option Nat := none
  constraints : Option Nat := none
  cascades : Option Nat := none
  kinds : Option (List String) := none
  location : Option Location := none
  error : Option String := none
  errorPattern : Option String := none
  custom : Option (List Declaration → Bool) := none

namespace Expectation

def kindsOf (ds : List Declaration) : List String :=
  ds.filterMap fun d => d.constraint?.map (·.kind)

def quotedList (l : List String) : String := "[" ++ ", ".intercalate (l.map Text.quoted) ++ "]"

def unmetCount? (noun : String) (expected : Option Nat) (actual : Nat) : Option String :=
  match expected with
  | some n => if actual = n then none else some s!"expected {n} {noun}, got {actual}"
  | none => none

def unmetKinds? (x : Expectation) (ds : List Declaration) : Option String :=
  match x.kinds with
  | some kinds =>
    if kindsOf ds = kinds then none
    else some s!"expected kinds {quotedList kinds}, got {quotedList (kindsOf ds)}"
  | none => none

def unmetLocation? (x : Expectation) (ds : List Declaration) : Option String :=
  match x.location with
  | some l =>
    (ds.find? (·.location != l)).map fun stray =>
      s!"expected every declaration at {l}, found one at {stray.location}"
  | none => none

def unmetCustom? (x : Expectation) (ds : List Declaration) : Option String :=
  match x.custom with
  | some check => if check ds then none else some "custom check returned false"
  | none => none

def unmet? (x : Expectation) (ds : List Declaration) : Option String :=
  let constraints := ds.countP (!·.isCascade)
  unmetCount? "declarations" x.declared ds.length
    <|> unmetCount? "constraints" x.constraints constraints
    <|> unmetCount? "cascades" x.cascades (ds.length - constraints)
    <|> x.unmetKinds? ds
    <|> x.unmetLocation? ds
    <|> x.unmetCustom? ds

def verifyError (scenario step : String) (expected : String) (met : String → Bool) :
    StepOutcome → Except ScenarioFailure Unit
  | .error message =>
    if met message then .ok ()
    else .error (.expectationUnmet scenario step s!"expected error {expected}, got: {message}")
  | .ok _ =>
    .error (.expectationUnmet scenario step s!"expected error {expected}, but step succeeded")

def verify (x : Expectation) (scenario step : String) (outcome : StepOutcome) :
    Except ScenarioFailure Unit :=
  match x.error, x.errorPattern with
  | some part, _ =>
    verifyError scenario step s!"containing '{part}'" (·.contains part) outcome
  | none, some pattern =>
    match Pattern.read pattern with
    | .error fault => .error (.invalidErrorPattern pattern fault)
    | .ok e => verifyError scenario step s!"matching '{pattern}'" e.occursIn outcome
  | none, none =>
    match outcome with
    | .error message =>
      .error (.expectationUnmet scenario step s!"unexpected error: {message}")
    | .ok ds =>
      match x.unmet? ds with
      | none => .ok ()
      | some message => .error (.expectationUnmet scenario step message)

end Expectation

end BeanRules
