import BeanRules.Navigation
import BeanRules.Registry

/-!
A session as a script of calls. Cursors and drafts are kept under names; a draft is a constraint
that is not recorded yet, bound to the location it was begun at. A call that is refused leaves the
session as it was, except that completing a draft uses it up whatever comes of it.
-/
namespace BeanRules

/-- The kind of a draft with setters of its own: a built-in one, or one that a caller named. -/
inductive Marker where
  | builtin (b : Builtin)
  | custom (name : String)

def Marker.name : Marker → String
  | .builtin b => b.name
  | .custom name => name

def Marker.builtin? : Marker → Option Builtin
  | .builtin b => some b
  | .custom _ => none

structure Draft where
  location : Location
  constraint : Constraint
  /-- The kind whose setters the draft offers. -/
  setters : Option Builtin

inductive Edit where
  | param (name : String) (value : Value)
  | message (text : String)
  | groups (types : List TypeRef)
  | payload (types : List TypeRef)

def Edit.apply (c : Constraint) : Edit → Constraint
  | .param name value => c.withAttr name value
  | .message text => c.withMessage text
  | .groups types => c.withGroups types
  | .payload types => c.withPayload types

def Draft.edit (d : Draft) (e : Edit) : Draft := { d with constraint := e.apply d.constraint }

def Draft.setter? (d : Draft) (attr : String) (v : Value) : Option Edit := do
  let b ← d.setters
  let setter ← Builtin.Setter.of? b attr v
  let (name, value) := setter.assignment
  return .param name value

inductive Handle where
  | cursor (location : Location)
  | draft (d : Draft)

abbrev Handles := ByName (Prod.fst : String × Handle → String)

inductive Call where
  /-- A cursor on a bean, from nowhere. -/
  | root (bean : TypeRef) (as : String)
  | move (on as : String) (m : Move)
  | constraint (on as : String) (kind : Marker)
  | generic (on as : String) (kind : String)
  | set (on as : String) (attr : String) (value : Value)
  | edit (on as : String) (e : Edit)
  | done (on : String)
  | valid (on : String)
  | groups (on : String) (groups : List TypeRef)
  | addConstraint (location : Location) (c : Constraint)
  | addCascade (location : Location)
  | setGroups (bean : TypeRef) (groups : List TypeRef)

inductive Reply where
  /-- The cursor or draft that the call led to. -/
  | handle (h : Handle)
  /-- The cursor that the call was made on. -/
  | same
  | done

inductive Failure where
  | noHandle
  /-- The handle does not offer the call. -/
  | misuse
  | refused (r : Refusal)

structure Session where
  registry : Registry
  handles : Handles
  log : List Event

namespace Session

def start (r : Registry) : Session := ⟨r, .empty, []⟩

abbrev Step := Session × Except Failure Reply

def fail (s : Session) (f : Failure) : Step := (s, .error f)

def note (s : Session) (e : Event) : Session := { s with log := s.log ++ [e] }

def put (s : Session) (name : String) (h : Handle) : Session :=
  { s with handles := s.handles.insert (name, h) }

def drop (s : Session) (name : String) : Session := { s with handles := s.handles.erase name }

def handle? (s : Session) (name : String) : Option Handle := (s.handles.find? name).map (·.2)

def onCursor (s : Session) (on : String) (k : Location → Step) : Step :=
  match s.handle? on with
  | none => s.fail .noHandle
  | some (.cursor l) => k l
  | some (.draft _) => s.fail .misuse

def onDraft (s : Session) (on : String) (k : Draft → Step) : Step :=
  match s.handle? on with
  | none => s.fail .noHandle
  | some (.draft d) => k d
  | some (.cursor _) => s.fail .misuse

def registerKind (s : Session) (k : Kind) : Session :=
  { s with registry := s.registry.registerKind k }.note (.kindRegistered k.name)

def move (s : Session) (as : String) (l : Location) (m : Move) : Step :=
  match l.move? s.registry.policy m with
  | none => s.fail .misuse
  | some (.error r) => s.fail (.refused r)
  | some (.ok l') =>
    let s := s.put as (.cursor l')
    ((m.event? l').elim s s.note, .ok (.handle (.cursor l')))

def begin (s : Session) (as : String) (l : Location) (kind : String) (setters : Option Builtin) :
    Step :=
  match s.registry.catalog.resolve kind with
  | .error r => s.fail (.refused r)
  | .ok _ =>
    let d : Draft := ⟨l, .bare kind, setters⟩
    (s.put as (.draft d), .ok (.handle (.draft d)))

/-- An edit hands the draft on, under another name if one is given. -/
def edit (s : Session) (on as : String) (d : Draft) (e : Edit) : Step :=
  let d := d.edit e
  ((s.drop on).put as (.draft d), .ok (.handle (.draft d)))

def addConstraint (s : Session) (l : Location) (c : Constraint) : Step :=
  match s.registry.addConstraint l c with
  | .error r => s.fail (.refused r)
  | .ok registry => ({ s with registry }.note (.constraintDeclared c.kind l), .ok .done)

def addCascade (s : Session) (l : Location) : Session :=
  { s with registry := s.registry.addCascade l }.note (.cascadeDeclared l)

def setGroups (s : Session) (bean : TypeRef) (groups : List TypeRef) (reply : Reply) : Step :=
  match s.registry.setDefaultGroups bean groups with
  | .error r => s.fail (.refused r)
  | .ok registry => ({ s with registry }.note (.groupsSet bean groups.length), .ok reply)

def step (s : Session) : Call → Step
  | .root bean as =>
    let h : Handle := .cursor (.bean bean)
    (s.put as h, .ok (.handle h))
  | .move on as m => s.onCursor on fun l => s.move as l m
  | .constraint on as kind => s.onCursor on fun l => s.begin as l kind.name kind.builtin?
  | .generic on as kind => s.onCursor on fun l => s.begin as l kind none
  | .set on as attr value => s.onDraft on fun d =>
    match d.setter? attr value with
    | none => s.fail .misuse
    | some e => s.edit on as d e
  | .edit on as e => s.onDraft on fun d => s.edit on as d e
  | .done on => s.onDraft on fun d => (s.drop on).addConstraint d.location d.constraint
  | .valid on => s.onCursor on fun l =>
    match l with
    | .bean _ => s.fail .misuse
    | l => (s.addCascade l, .ok .same)
  | .groups on groups => s.onCursor on fun l =>
    match l with
    | .bean bean => s.setGroups bean groups .same
    | _ => s.fail .misuse
  | .addConstraint l c => s.addConstraint l c
  | .addCascade l => (s.addCascade l, .ok .done)
  | .setGroups bean groups => s.setGroups bean groups .done

def run (s : Session) (script : List Call) : Session :=
  script.foldl (fun s c => (s.step c).1) s

def freeze (s : Session) : Except Refusal Mapping × List Event :=
  (s.registry.freeze, s.log ++ [s.registry.freezeEvent])

end Session

end BeanRules
