import BeanRules.Scenario
import Mathlib.Data.List.Infix

/-!
Running a scenario. A step is judged by what it appended itself, whatever the steps before it left
behind, and nothing after the first step that is found wanting has a say. Both ways to end a
scenario share its execution and differ in what they want of the freeze.
-/
namespace BeanRules

namespace ScenarioStep

variable (step : ScenarioStep) (r : Registry)

def leaves : Registry := (step.action.run r).1

def appended : List Declaration := (step.leaves r).declarations.drop r.declarations.length

/-- The verdict on what the step appended, or on the message it was refused with. -/
def verdict (scenario : String) : Except ScenarioFailure Unit :=
  step.expectation.verify scenario step.name
    (((step.action.run r).2.map fun _ => step.appended r).mapError Refusal.message)

theorem declarations_leaves : (step.leaves r).declarations = r.declarations ++ step.appended r :=
  List.prefix_iff_eq_append.mp (step.action.appends r).declarations |>.symm

theorem outcome_run : outcome r (step.action.run r) =
    ((step.action.run r).2.map fun _ => step.appended r).mapError Refusal.message := by
  unfold appended leaves
  obtain ⟨left, result⟩ := step.action.run r
  cases result <;> rfl

theorem verdict_of_expected_error {step : ScenarioStep} {r : Registry} {part : String}
    {e : Refusal} (expects : step.expectation.error = some part)
    (refused : (step.action.run r).2 = .error e) (contains : part.toList <:+: e.message.toList)
    (scenario : String) : step.verdict r scenario = .ok () := by
  have hverify : step.expectation.verify scenario step.name (.error e.message) = .ok () := by
    unfold Expectation.verify
    rw [expects]
    exact if_pos (String.contains_string_iff.mpr contains)
  rw [verdict, refused]
  exact hverify

end ScenarioStep

namespace Scenario

def after (r : Registry) (steps : List ScenarioStep) : Registry :=
  steps.foldl (fun r step => step.leaves r) r

/-- What each step appends, on what the steps before it left. -/
def windows (r : Registry) : List ScenarioStep → List (List Declaration)
  | [] => []
  | step :: rest => step.appended r :: windows (step.leaves r) rest

def Passes (name : String) (r : Registry) (steps : List ScenarioStep) : Prop :=
  ∀ before step later, steps = before ++ step :: later → step.verdict (after r before) name = .ok ()

variable {name : String} {r : Registry} {step : ScenarioStep} {steps : List ScenarioStep}

theorem passes_nil : Passes name r [] := by
  intro before step later h
  cases before <;> cases h

theorem passes_cons :
    Passes name r (step :: steps) ↔
      step.verdict r name = .ok () ∧ Passes name (step.leaves r) steps := by
  constructor
  · intro h
    refine ⟨h [] step steps rfl, fun before step' later hsplit => ?_⟩
    exact h (step :: before) step' later (by rw [hsplit]; rfl)
  · rintro ⟨hfirst, hrest⟩ before step' later hsplit
    cases before with
    | nil =>
      cases hsplit
      exact hfirst
    | cons step'' before =>
      cases hsplit
      exact hrest before step' later rfl

theorem declarations_after (r : Registry) (steps : List ScenarioStep) :
    (after r steps).declarations = r.declarations ++ (windows r steps).flatten := by
  induction steps generalizing r with
  | nil => simp [after, windows]
  | cons step rest ih =>
    have hrest : after r (step :: rest) = after (step.leaves r) rest := rfl
    rw [hrest, ih, step.declarations_leaves, windows, List.flatten_cons, List.append_assoc]

theorem runSteps_cons (name : String) (r : Registry) (step : ScenarioStep)
    (rest : List ScenarioStep) :
    runSteps name r (step :: rest) =
      (step.verdict r name).bind fun _ => runSteps name (step.leaves r) rest := by
  rw [runSteps, step.outcome_run]
  rfl

theorem runSteps_append {before : List ScenarioStep} (h : Passes name r before)
    (rest : List ScenarioStep) :
    runSteps name r (before ++ rest) = runSteps name (after r before) rest := by
  induction before generalizing r with
  | nil => rfl
  | cons step before ih =>
    obtain ⟨hfirst, hbefore⟩ := passes_cons.mp h
    rw [List.cons_append, runSteps_cons, hfirst]
    exact ih hbefore

theorem runSteps_eq_error_iff {f : ScenarioFailure} :
    runSteps name r steps = .error f ↔
      ∃ before step later, steps = before ++ step :: later ∧ Passes name r before ∧
        step.verdict (after r before) name = .error f := by
  constructor
  · intro h
    induction steps generalizing r with
    | nil => cases h
    | cons step rest ih =>
      rw [runSteps_cons] at h
      cases hverdict : step.verdict r name with
      | error g =>
        rw [hverdict] at h
        cases h
        exact ⟨[], step, rest, rfl, passes_nil, hverdict⟩
      | ok u =>
        rw [hverdict] at h
        obtain ⟨before, step', later, rfl, hbefore, hfails⟩ := ih h
        exact ⟨step :: before, step', later, rfl, passes_cons.mpr ⟨hverdict, hbefore⟩, hfails⟩
  · rintro ⟨before, step, later, rfl, hbefore, hfails⟩
    rw [runSteps_append hbefore, runSteps_cons, hfails]
    rfl

theorem runSteps_eq_ok_iff {r' : Registry} :
    runSteps name r steps = .ok r' ↔ Passes name r steps ∧ r' = after r steps := by
  induction steps generalizing r with
  | nil => simp [runSteps, passes_nil, after, eq_comm]
  | cons step rest ih =>
    have hafter : after r (step :: rest) = after (step.leaves r) rest := rfl
    rw [runSteps_cons, passes_cons, hafter]
    cases step.verdict r name with
    | error f => simp [Except.bind]
    | ok u => simpa [Except.bind] using ih

section Ends

variable {s : Scenario}

theorem declarations_initial (s : Scenario) : s.initial.declarations = [] := by
  have hkinds (kinds : List Kind) (r : Registry) :
      (kinds.foldl .registerKind r).declarations = r.declarations := by
    induction kinds generalizing r with
    | nil => rfl
    | cons k rest ih => exact ih _
  exact hkinds s.kinds _

theorem run_of_execute_error {f : ScenarioFailure} (h : s.execute = .error f) :
    s.run = .error f := by
  unfold run
  rw [h]
  rfl

theorem runExpectingFreezeError_of_execute_error {f : ScenarioFailure}
    (h : s.execute = .error f) (part : String) : s.runExpectingFreezeError part = .error f := by
  unfold runExpectingFreezeError
  rw [h]
  rfl

theorem run_of_execute_ok (h : s.execute = .ok r) :
    s.run = r.freeze.mapError fun e => .freezeFailed s.name e.message := by
  unfold run
  rw [h]
  cases hfreeze : r.freeze <;> simp [bind, Except.bind, hfreeze, Except.mapError, pure, Except.pure]

theorem runExpectingFreezeError_of_frozen (h : s.execute = .ok r) {m : Mapping}
    (hm : r.freeze = .ok m) (part : String) :
    s.runExpectingFreezeError part = .error (.freezeFailed s.name
      s!"expected error containing '{part}', but freeze succeeded") := by
  unfold runExpectingFreezeError
  rw [h]
  simp [bind, Except.bind, hm]

theorem runExpectingFreezeError_of_refused (h : s.execute = .ok r) {e : Refusal}
    (he : r.freeze = .error e) (part : String) :
    s.runExpectingFreezeError part =
      if e.message.contains part then .ok e
      else .error (.freezeFailed s.name
        s!"expected error containing '{part}', got: {e.message}") := by
  unfold runExpectingFreezeError
  rw [h]
  simp [bind, Except.bind, he, pure, Except.pure]

theorem run_eq_ok_iff (h : s.execute = .ok r) {m : Mapping} :
    s.run = .ok m ↔ r.freeze = .ok m := by
  rw [run_of_execute_ok h]
  cases r.freeze <;> simp [Except.mapError]

theorem runExpectingFreezeError_eq_ok_iff (h : s.execute = .ok r) {part : String} {e : Refusal} :
    s.runExpectingFreezeError part = .ok e ↔
      r.freeze = .error e ∧ part.toList <:+: e.message.toList := by
  cases hfreeze : r.freeze with
  | ok m => simp [runExpectingFreezeError_of_frozen h hfreeze]
  | error e' =>
    rw [runExpectingFreezeError_of_refused h hfreeze, ← String.contains_string_iff]
    by_cases hpart : e'.message.contains part = true
    · rw [if_pos hpart]
      constructor
      · rintro ⟨⟩
        exact ⟨rfl, hpart⟩
      · rintro ⟨⟨⟩, -⟩
        rfl
    · rw [if_neg hpart]
      constructor
      · rintro ⟨⟩
      · rintro ⟨⟨⟩, hcontains⟩
        exact absurd hcontains hpart

theorem exists_freezeFailed (h : s.execute = .ok r) {part : String}
    (unexpected : ∀ e, s.runExpectingFreezeError part ≠ .ok e) :
    ∃ message, s.runExpectingFreezeError part = .error (.freezeFailed s.name message) := by
  cases hfreeze : r.freeze with
  | ok m => exact ⟨_, runExpectingFreezeError_of_frozen h hfreeze part⟩
  | error e =>
    have hrefused := runExpectingFreezeError_of_refused h hfreeze part
    by_cases hpart : e.message.contains part = true
    · rw [if_pos hpart] at hrefused
      exact absurd hrefused (unexpected e)
    · rw [if_neg hpart] at hrefused
      exact ⟨_, hrefused⟩

end Ends

/-- Whatever a step appends comes after all that was there, so nothing is cut off that is not there,
and a step that succeeds is judged by exactly what it appended. The first step that is found wanting
ends the execution, whichever steps would follow. If none is, the registry holds what they all
appended, one after the other and also where a step was refused as expected. An execution that
fails fails in the same way however the scenario is to end. Otherwise it ends well if the registry
can be frozen, or if it cannot for an expected reason, but never both. -/
theorem steps_judged (s : Scenario) :
    (∀ (step : ScenarioStep) r,
        (step.leaves r).declarations = r.declarations ++ step.appended r ∧
        r.declarations.length ≤ (step.leaves r).declarations.length ∧
        (∀ u, (step.action.run r).2 = .ok u →
          step.verdict r s.name = step.expectation.verify s.name step.name
            (.ok (step.appended r))) ∧
        ∀ e, (step.action.run r).2 = .error e →
          step.verdict r s.name = step.expectation.verify s.name step.name (.error e.message)) ∧
      (∀ f, s.execute = .error f ↔
        ∃ before step later, s.steps = before ++ step :: later ∧
          Passes s.name s.initial before ∧
          step.verdict (after s.initial before) s.name = .error f) ∧
      (∀ before step f, Passes s.name s.initial before →
        step.verdict (after s.initial before) s.name = .error f →
          ∀ others, { s with steps := before ++ step :: others }.execute = .error f) ∧
      (∀ r, s.execute = .ok r ↔
        Passes s.name s.initial s.steps ∧ r = after s.initial s.steps) ∧
      (∀ r, s.execute = .ok r → r.declarations = (windows s.initial s.steps).flatten) ∧
      ∀ part : String,
        (∀ f, s.execute = .error f →
          s.run = .error f ∧ s.runExpectingFreezeError part = .error f) ∧
        (∀ r, s.execute = .ok r →
          (∀ m, s.run = .ok m ↔ r.freeze = .ok m) ∧
          (∀ e, r.freeze = .error e → s.run = .error (.freezeFailed s.name e.message)) ∧
          (∀ e, s.runExpectingFreezeError part = .ok e ↔
            r.freeze = .error e ∧ part.toList <:+: e.message.toList) ∧
          ((∀ e, s.runExpectingFreezeError part ≠ .ok e) →
            ∃ message, s.runExpectingFreezeError part = .error (.freezeFailed s.name message))) ∧
        ¬((∃ m, s.run = .ok m) ∧ ∃ e, s.runExpectingFreezeError part = .ok e) := by
  refine ⟨?_, fun f => runSteps_eq_error_iff, ?_, fun r => runSteps_eq_ok_iff, ?_, ?_⟩
  · intro step r
    have hleaves := step.declarations_leaves r
    refine ⟨hleaves, ?_, ?_, ?_⟩
    · rw [hleaves, List.length_append]
      exact Nat.le_add_right _ _
    · intro u hu
      rw [ScenarioStep.verdict, hu]
      rfl
    · intro e he
      rw [ScenarioStep.verdict, he]
      rfl
  · intro before step f hbefore hfails others
    exact runSteps_eq_error_iff.mpr ⟨before, step, others, rfl, hbefore, hfails⟩
  · intro r h
    obtain ⟨-, rfl⟩ := runSteps_eq_ok_iff.mp h
    rw [declarations_after, declarations_initial, List.nil_append]
  · intro part
    refine ⟨?_, ?_, ?_⟩
    · intro f h
      exact ⟨run_of_execute_error h, runExpectingFreezeError_of_execute_error h part⟩
    · intro r h
      refine ⟨fun m => run_eq_ok_iff h, ?_, fun e => runExpectingFreezeError_eq_ok_iff h,
        exists_freezeFailed h⟩
      intro e he
      rw [run_of_execute_ok h, he]
      rfl
    · rintro ⟨⟨m, hm⟩, e, he⟩
      cases h : s.execute with
      | error f =>
        rw [run_of_execute_error h] at hm
        cases hm
      | ok r =>
        have hfrozen := (run_eq_ok_iff h).mp hm
        have hrefused := ((runExpectingFreezeError_eq_ok_iff h).mp he).1
        cases hfrozen.symm.trans hrefused

/-- A step that goes too far for the freeze, one that is refused halfway as expected, and one that
follows it. -/
def faltering : Scenario :=
  let order : TypeRef := ⟨"shop::Order", 0⟩
  { name := "orders"
    policy := .lenient
    kinds := []
    steps := [
      { name := "overreach"
        action := .ofScript [.root order "order", .move "order" "ship" (.method "ship" []),
          .move "ship" "ship" (.parameter 0), .valid "ship"]
        expectation := { declared := some 1 } },
      { name := "unknown"
        action := .ofScript [.root order "order", .move "order" "code" (.property "code" .field),
          .valid "code", .generic "code" "zip" "ZipCode", .valid "code"]
        expectation := { error := some "ZipCode" } },
      { name := "rest"
        action := .ofScript [.root order "order", .move "order" "code" (.property "code" .field),
          .valid "code", .valid "code"]
        expectation := { cascades := some 2 } }] }

def hollow : ScenarioStep :=
  { name := "hollow", action := .ofScript [], expectation := { declared := some 1 } }

theorem passes_faltering : Passes faltering.name faltering.initial faltering.steps := by
  refine passes_cons.mpr ⟨by decide +kernel, passes_cons.mpr ⟨?_, ?_⟩⟩
  · apply ScenarioStep.verdict_of_expected_error rfl rfl
    decide +kernel
  · exact passes_cons.mpr ⟨by decide +kernel, passes_nil⟩

theorem steps_judged_faltering :
    let ship : Signature := ⟨⟨"shop::Order", 0⟩, "ship", [], rfl⟩
    let unmet : ScenarioFailure :=
      .expectationUnmet "orders" "hollow" "expected 1 declarations, got 0"
    (∃ r, faltering.execute = .ok r ∧ r.declarations.length = 4 ∧
      r.freeze = .error (.indexOutOfRange ship 0) ∧ (∀ m, faltering.run ≠ .ok m) ∧
      faltering.runExpectingFreezeError "index 0" = .ok (.indexOutOfRange ship 0)) ∧
    ∀ others, { faltering with steps := hollow :: others }.execute = .error unmet := by
  intro ship unmet
  obtain ⟨-, -, -, hok, hwindows, hends⟩ := steps_judged faltering
  obtain ⟨-, -, hfails, -⟩ := steps_judged { faltering with steps := [hollow] }
  have hexecute := (hok _).mpr ⟨passes_faltering, rfl⟩
  have hfreeze : (after faltering.initial faltering.steps).freeze =
      .error (.indexOutOfRange ship 0) := rfl
  obtain ⟨-, hwithin, -⟩ := hends "index 0"
  obtain ⟨hrun, -, hexpecting, -⟩ := hwithin _ hexecute
  refine ⟨⟨_, hexecute, ?_, hfreeze, ?_, ?_⟩, fun others => ?_⟩
  · rw [hwindows _ hexecute]
    decide +kernel
  · intro m hm
    cases hfreeze.symm.trans ((hrun m).mp hm)
  · exact (hexpecting _).mpr ⟨hfreeze, by decide +kernel⟩
  · exact hfails [] hollow unmet passes_nil (by decide +kernel) others

end Scenario

end BeanRules
