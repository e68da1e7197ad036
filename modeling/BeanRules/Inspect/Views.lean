import BeanRules.Inspect.Form
import BeanRules.Scenario

/-!
How the types of this library are shown to developers.
-/
namespace BeanRules.Inspect

open Form (word text record wrapped list map)

def floatLayout : Decimal.Layout where
  positional e := decide (-4 ≤ e ∧ e ≤ 15)
  keepsPoint := true
  signsExponent := false
  tie := .up

/-- The serial number of a type is never shown. -/
def type (t : TypeRef) : Form :=
  record "TypeToken" [("id", word "TypeId(_)"), ("name", text t.name)] false

def types (l : List TypeRef) : Form := list (l.map type)

def bean (t : TypeRef) : Form := wrapped "BeanType" (type t)

def signature (s : Signature) : Form :=
  record "MethodSignature"
    [("bean", bean s.bean), ("name", text s.name),
      ("parameter_types", types s.parameterTypes)] false

def access : Access → Form
  | .field => word "Field"
  | .accessor => word "Accessor"

def target : Target → Form
  | .returnValue => word "ReturnValue"
  | .parameter i => wrapped "Parameter" (.ofNat i)

def location : Location → Form
  | .bean b => record "Type" [("bean", bean b)] false
  | .property b name a =>
    record "Property" [("bean", bean b), ("name", text name), ("access", access a)] false
  | .method s .returnValue => record "MethodReturn" [("signature", signature s)] false
  | .method s (.parameter i) =>
    record "MethodParameter" [("signature", signature s), ("index", .ofNat i)] false

mutual

def value : Value → Form
  | .null => word "Null"
  | .bool b => wrapped "Bool" (.ofBool b)
  | .int n => wrapped "Int" (word (toString n.toInt))
  | .float x => wrapped "Float" (word (floatLayout.render x))
  | .string s => wrapped "String" (text s)
  | .type t => wrapped "Type" (type t)
  | .list items => wrapped "List" (list (values items))

def values : List Value → List Form
  | [] => []
  | v :: r => value v :: values r

end

def constraint (c : Constraint) : Form :=
  record "ConstraintDescriptor"
    [("kind", text c.kind),
      ("attributes", map (c.attributes.entries.map fun e => (e.1, value e.2))),
      ("message", .ofOption text c.message), ("groups", types c.groups),
      ("payload", types c.payload)] false

def handle : Handle → Form
  | .cursor (.bean b) => record "TypeCursor" [("bean", bean b)] true
  | .cursor (.property b name a) =>
    record "PropertyCursor" [("bean", bean b), ("name", text name), ("access", access a)] true
  | .cursor (.method s t) =>
    record "MethodCursor" [("signature", signature s), ("target", target t)] true
  | .draft d =>
    record "ConstraintDef"
      [("location", location d.location), ("descriptor", constraint d.constraint)] true

def expectation (x : Expectation) : Form :=
  record "Assertion"
    [("declared", .ofOption .ofNat x.declared), ("constraints", .ofOption .ofNat x.constraints),
      ("cascades", .ofOption .ofNat x.cascades),
      ("kinds", .ofOption (fun l => list (l.map text)) x.kinds),
      ("at", .ofOption location x.location), ("error", .ofOption text x.error),
      ("error_pattern", .ofOption text x.errorPattern),
      ("custom", .ofOption (fun _ => text "<fn>") x.custom)] false

def policy (p : Policy) : Form :=
  record "MappingConfig"
    [("index_check", word (match p.indexCheck with | .eager => "Eager" | .deferred => "Deferred")),
      ("strict_attributes", .ofBool p.strictAttributes),
      ("validate_patterns", .ofBool p.validatePatterns)] false

def spec (s : AttrSpec) : Form :=
  record "AttrSpec"
    [("name", text s.name), ("value_type", word s.type.name),
      ("required", .ofBool s.required)] false

def kind (k : Kind) : Form :=
  record "KindDef" [("name", text k.name), ("attributes", list (k.attributes.map spec))] false

def step (s : ScenarioStep) : Form :=
  record "Step" [("name", text s.name), ("assertion", expectation s.expectation)] true

def scenario (s : Scenario) : Form :=
  record "Scenario"
    [("name", text s.name), ("config", policy s.policy), ("kinds", list (s.kinds.map kind)),
      ("steps", list (s.steps.map step))] false

end BeanRules.Inspect
