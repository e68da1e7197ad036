import BeanRules.Expectation
import BeanRules.Session

/-!
A scenario is a session in named steps, each with an expectation. A step is any action on the
registry that only appends declarations; each is judged by what it appended itself.
-/
namespace BeanRules

/-- Nothing that was there before has changed, and declarations were only added behind it. -/
structure Registry.ExtendedBy (r s : Registry) : Prop where
  policy : s.policy = r.policy
  catalog : s.catalog = r.catalog
  declarations : r.declarations <+: s.declarations

namespace Registry.ExtendedBy

theorem refl (r : Registry) : r.ExtendedBy r := ⟨rfl, rfl, List.prefix_refl _⟩

theorem trans {r s t : Registry} (h : r.ExtendedBy s) (h' : s.ExtendedBy t) : r.ExtendedBy t :=
  ⟨h'.policy.trans h.policy, h'.catalog.trans h.catalog, h.declarations.trans h'.declarations⟩

end Registry.ExtendedBy

theorem Registry.extendedBy_addConstraint {r s : Registry} {l : Location} {c : Constraint}
    (h : r.addConstraint l c = .ok s) : r.ExtendedBy s := by
  simp only [Registry.addConstraint, bind, Except.bind] at h
  split at h
  · contradiction
  · cases h; exact ⟨rfl, rfl, List.prefix_append _ _⟩

theorem Registry.extendedBy_setDefaultGroups {r s : Registry} {b : TypeRef} {gs : List TypeRef}
    (h : r.setDefaultGroups b gs = .ok s) : r.ExtendedBy s := by
  simp only [Registry.setDefaultGroups, bind, Except.bind] at h
  split at h
  · contradiction
  · cases h; exact ⟨rfl, rfl, List.prefix_refl _⟩

namespace Session

theorem extendedBy_onCursor {s : Session} {on : String} {k : Location → Step}
    (h : ∀ l, s.registry.ExtendedBy (k l).1.registry) :
    s.registry.ExtendedBy (s.onCursor on k).1.registry := by
  unfold onCursor; split
  · exact .refl _
  · exact h _
  · exact .refl _

theorem extendedBy_onDraft {s : Session} {on : String} {k : Draft → Step}
    (h : ∀ d, s.registry.ExtendedBy (k d).1.registry) :
    s.registry.ExtendedBy (s.onDraft on k).1.registry := by
  unfold onDraft; split
  · exact .refl _
  · exact h _
  · exact .refl _

theorem registry_move (s : Session) (as : String) (l : Location) (m : Move) :
    (s.move as l m).1.registry = s.registry := by
  unfold move; split
  · rfl
  · rfl
  · cases m.event? _ <;> rfl

theorem registry_begin (s : Session) (as : String) (l : Location) (kind : String)
    (b : Option Builtin) : (s.begin as l kind b).1.registry = s.registry := by
  unfold begin; split <;> rfl

theorem extendedBy_addConstraint (s : Session) (l : Location) (c : Constraint) :
    s.registry.ExtendedBy (s.addConstraint l c).1.registry := by
  unfold addConstraint; split
  · exact .refl _
  · next h => exact Registry.extendedBy_addConstraint h

theorem extendedBy_setGroups (s : Session) (b : TypeRef) (gs : List TypeRef) (reply : Reply) :
    s.registry.ExtendedBy (s.setGroups b gs reply).1.registry := by
  unfold setGroups; split
  · exact .refl _
  · next h => exact Registry.extendedBy_setDefaultGroups h

theorem extendedBy_step (s : Session) (c : Call) : s.registry.ExtendedBy (s.step c).1.registry := by
  have cascade (l : Location) : s.registry.ExtendedBy (s.addCascade l).registry :=
    ⟨rfl, rfl, List.prefix_append _ _⟩
  cases c with
  | root => exact .refl _
  | move on as m =>
    exact extendedBy_onCursor fun l => (registry_move s as l m).symm ▸ .refl _
  | constraint on as kind =>
    exact extendedBy_onCursor fun l => (registry_begin s as l _ _).symm ▸ .refl _
  | generic on as kind =>
    exact extendedBy_onCursor fun l => (registry_begin s as l _ _).symm ▸ .refl _
  | set on as attr value =>
    refine extendedBy_onDraft fun d => ?_
    split <;> exact .refl _
  | edit on as e => exact extendedBy_onDraft fun d => .refl _
  | done on => exact extendedBy_onDraft fun d => extendedBy_addConstraint (s.drop on) _ _
  | valid on =>
    refine extendedBy_onCursor fun l => ?_
    split
    · exact .refl _
    · exact cascade _
  | groups on groups =>
    refine extendedBy_onCursor fun l => ?_
    split
    · exact extendedBy_setGroups s _ _ _
    · exact .refl _
  | addConstraint l c => exact extendedBy_addConstraint s l c
  | addCascade l => exact cascade l
  | setGroups b gs => exact extendedBy_setGroups s b gs _

/-- Runs a script up to the first call that is refused. Other failures do not end it. -/
def runUntilRefused (s : Session) : List Call → Session × Except Refusal Unit
  | [] => (s, .ok ())
  | c :: r =>
    let (s', reply) := s.step c
    match reply with
    | .error (.refused e) => (s', .error e)
    | _ => s'.runUntilRefused r

theorem extendedBy_runUntilRefused (s : Session) (script : List Call) :
    s.registry.ExtendedBy (s.runUntilRefused script).1.registry := by
  induction script generalizing s with
  | nil => exact .refl _
  | cons c r ih =>
    rw [runUntilRefused]
    have h := extendedBy_step s c
    dsimp only
    split
    · exact h
    · exact h.trans (ih _)

end Session

structure Action where
  run : Registry → Registry × Except Refusal Unit
  appends : ∀ r : Registry, r.ExtendedBy (run r).1

def Action.ofScript (script : List Call) : Action where
  run r :=
    let (s, result) := (Session.start r).runUntilRefused script
    (s.registry, result)
  appends r := Session.extendedBy_runUntilRefused (.start r) script

def Action.refused (r : Refusal) : Action where
  run registry := (registry, .error r)
  appends _ := .refl _

def Action.andThen (a b : Action) : Action where
  run r :=
    match a.run r with
    | (s, .ok ()) => b.run s
    | (s, .error e) => (s, .error e)
  appends r := by
    have h := a.appends r
    split
    · next s heq => rw [heq] at h; exact h.trans (b.appends s)
    · next s e heq => rw [heq] at h; exact h

structure ScenarioStep where
  name : String
  action : Action
  expectation : Expectation

def ScenarioStep.outcome (before : Registry) : Registry × Except Refusal Unit → StepOutcome
  | (after, .ok _) => .ok (after.declarations.drop before.declarations.length)
  | (_, .error e) => .error e.message

structure Scenario where
  name : String
  policy : Policy
  kinds : List Kind
  steps : List ScenarioStep

namespace Scenario

def initial (s : Scenario) : Registry := s.kinds.foldl .registerKind (.new s.policy)

/-- Stops at the first step that does not do what is expected. What a refused step appended before
it was refused stays. -/
def runSteps (name : String) (r : Registry) : List ScenarioStep → Except ScenarioFailure Registry
  | [] => .ok r
  | step :: rest => do
    let result := step.action.run r
    step.expectation.verify name step.name (ScenarioStep.outcome r result)
    runSteps name result.1 rest

def execute (s : Scenario) : Except ScenarioFailure Registry := runSteps s.name s.initial s.steps

def run (s : Scenario) : Except ScenarioFailure Mapping := do
  let r ← s.execute
  match r.freeze with
  | .ok m => return m
  | .error e => .error (.freezeFailed s.name e.message)

/-- Expects the end of the session to be refused with a message that contains a text. -/
def runExpectingFreezeError (s : Scenario) (part : String) : Except ScenarioFailure Refusal := do
  let r ← s.execute
  match r.freeze with
  | .ok _ =>
    .error (.freezeFailed s.name s!"expected error containing '{part}', but freeze succeeded")
  | .error e =>
    if e.message.contains part then return e
    else
      .error (.freezeFailed s.name
        s!"expected error containing '{part}', got: {e.message}")

end Scenario

end BeanRules
