import BeanRules.Expectation

/-!
When an expectation is met, and what is said when it is not. An expected error is looked for in the
message alone. Otherwise the step must not fail, and of the six things that can be expected of its
declarations the first that does not hold is reported, in words that name scenario and step.
-/
namespace BeanRules

namespace Expectation

inductive Aspect where
  | declared
  | constraints
  | cascades
  | kinds
  | location
  | custom

def Aspect.all : List Aspect := [declared, constraints, cascades, kinds, location, custom]

theorem Aspect.mem_all (a : Aspect) : a ∈ all := by cases a <;> simp [all]

def constraintsIn (ds : List Declaration) : List Constraint := ds.filterMap (·.constraint?)

def cascadesIn (ds : List Declaration) : List Declaration := ds.filter (·.isCascade)

/-- An aspect of which nothing is expected is met. -/
def Meets (x : Expectation) (ds : List Declaration) : Aspect → Prop
  | .declared => ∀ n, x.declared = some n → ds.length = n
  | .constraints => ∀ n, x.constraints = some n → (constraintsIn ds).length = n
  | .cascades => ∀ n, x.cascades = some n → (cascadesIn ds).length = n
  | .kinds => ∀ kinds, x.kinds = some kinds → (constraintsIn ds).map (·.kind) = kinds
  | .location => ∀ l, x.location = some l → ∀ d ∈ ds, d.location = l
  | .custom => ∀ check, x.custom = some check → check ds = true

def miscount (noun : String) (expected actual : Nat) : String :=
  s!"expected {expected} {noun}, got {actual}"

inductive Complains (x : Expectation) (ds : List Declaration) : Aspect → String → Prop where
  | declared {n : Nat} (expects : x.declared = some n) (differs : ds.length ≠ n) :
      Complains x ds .declared (miscount "declarations" n ds.length)
  | constraints {n : Nat} (expects : x.constraints = some n)
      (differs : (constraintsIn ds).length ≠ n) :
      Complains x ds .constraints (miscount "constraints" n (constraintsIn ds).length)
  | cascades {n : Nat} (expects : x.cascades = some n) (differs : (cascadesIn ds).length ≠ n) :
      Complains x ds .cascades (miscount "cascades" n (cascadesIn ds).length)
  | kinds {kinds : List String} (expects : x.kinds = some kinds)
      (differs : (constraintsIn ds).map (·.kind) ≠ kinds) :
      Complains x ds .kinds
        s!"expected kinds {quotedList kinds}, got {quotedList ((constraintsIn ds).map (·.kind))}"
  | location {l : Location} {earlier later : List Declaration} {stray : Declaration}
      (expects : x.location = some l) (split : ds = earlier ++ stray :: later)
      (first : ∀ d ∈ earlier, d.location = l) (differs : stray.location ≠ l) :
      Complains x ds .location
        s!"expected every declaration at {l}, found one at {stray.location}"
  | custom {check : List Declaration → Bool} (expects : x.custom = some check)
      (fails : check ds = false) : Complains x ds .custom "custom check returned false"

/-- The errors that are expected, in words and as messages. A text that they contain goes before a
pattern that they match. -/
inductive Wants (x : Expectation) : String → (String → Prop) → Prop where
  | containing {part : String} (expects : x.error = some part) :
      Wants x s!"containing '{part}'" fun message => part.toList <:+: message.toList
  | matching {pattern : String} {e : Pattern.Expr} (silent : x.error = none)
      (expects : x.errorPattern = some pattern) (reads : Pattern.read pattern = .ok e) :
      Wants x s!"matching '{pattern}'" fun message => e.occursIn message = true

inductive Judges (x : Expectation) (scenario step : String) :
    StepOutcome → Except ScenarioFailure Unit → Prop where
  | wanted {phrase message : String} {wanted : String → Prop} (wants : x.Wants phrase wanted)
      (fits : wanted message) : Judges x scenario step (.error message) (.ok ())
  | unwanted {phrase message : String} {wanted : String → Prop} (wants : x.Wants phrase wanted)
      (fits : ¬wanted message) :
      Judges x scenario step (.error message)
        (.error (.expectationUnmet scenario step s!"expected error {phrase}, got: {message}"))
  | succeeded {phrase : String} {wanted : String → Prop} {ds : List Declaration}
      (wants : x.Wants phrase wanted) :
      Judges x scenario step (.ok ds)
        (.error (.expectationUnmet scenario step s!"expected error {phrase}, but step succeeded"))
  | unreadable {pattern : String} {fault : Pattern.Fault} {outcome : StepOutcome}
      (silent : x.error = none) (expects : x.errorPattern = some pattern)
      (fails : Pattern.read pattern = .error fault) :
      Judges x scenario step outcome (.error (.invalidErrorPattern pattern fault))
  | unexpected {message : String} (silent : x.error = none) (plain : x.errorPattern = none) :
      Judges x scenario step (.error message)
        (.error (.expectationUnmet scenario step s!"unexpected error: {message}"))
  | met {ds : List Declaration} (silent : x.error = none) (plain : x.errorPattern = none)
      (meets : ∀ a, x.Meets ds a) : Judges x scenario step (.ok ds) (.ok ())
  | unmet {ds : List Declaration} {earlier later : List Aspect} {a : Aspect} {message : String}
      (silent : x.error = none) (plain : x.errorPattern = none)
      (order : Aspect.all = earlier ++ a :: later) (meets : ∀ b ∈ earlier, x.Meets ds b)
      (complains : x.Complains ds a message) :
      Judges x scenario step (.ok ds) (.error (.expectationUnmet scenario step message))

variable {x : Expectation} {ds : List Declaration} {a : Aspect} {message : String}

theorem countP_not_isCascade (ds : List Declaration) :
    ds.countP (!·.isCascade) = (constraintsIn ds).length := by
  induction ds with
  | nil => rfl
  | cons d rest ih =>
    rw [List.countP_cons, constraintsIn, List.filterMap_cons]
    cases d with
    | constraint l c => exact congrArg (· + 1) ih
    | cascade l => exact ih

theorem length_eq_add (ds : List Declaration) :
    ds.length = (constraintsIn ds).length + (cascadesIn ds).length := by
  rw [List.length_eq_countP_add_countP (·.isCascade), cascadesIn, ← List.countP_eq_length_filter,
    ← countP_not_isCascade, Nat.add_comm]
  simp

theorem kindsOf_eq (ds : List Declaration) : kindsOf ds = (constraintsIn ds).map (·.kind) := by
  unfold kindsOf constraintsIn
  rw [List.map_filterMap]

def complaint? (x : Expectation) (ds : List Declaration) : Aspect → Option String
  | .declared => unmetCount? "declarations" x.declared ds.length
  | .constraints => unmetCount? "constraints" x.constraints (constraintsIn ds).length
  | .cascades => unmetCount? "cascades" x.cascades (cascadesIn ds).length
  | .kinds => x.unmetKinds? ds
  | .location => x.unmetLocation? ds
  | .custom => x.unmetCustom? ds

theorem unmet?_eq_findSome? : x.unmet? ds = Aspect.all.findSome? (x.complaint? ds) := by
  have hcascades : ds.length - (constraintsIn ds).length = (cascadesIn ds).length := by
    rw [length_eq_add]
    omega
  have hcons (a : Aspect) (rest : List Aspect) : (a :: rest).findSome? (x.complaint? ds) =
      (x.complaint? ds a <|> rest.findSome? (x.complaint? ds)) := by
    rw [List.findSome?_cons]
    cases x.complaint? ds a <;> rfl
  unfold unmet?
  dsimp only
  rw [countP_not_isCascade, hcascades]
  simp only [Aspect.all, hcons, List.findSome?_nil, complaint?]
  cases x.unmetCustom? ds <;> rfl

theorem unmetCount?_eq_some_iff {noun : String} {expected : Option Nat} {actual : Nat} :
    unmetCount? noun expected actual = some message ↔
      ∃ n, expected = some n ∧ actual ≠ n ∧ message = miscount noun n actual := by
  unfold unmetCount? miscount
  cases expected <;> simp [eq_comm (a := message)]

theorem unmetCount?_eq_none_iff {noun : String} {expected : Option Nat} {actual : Nat} :
    unmetCount? noun expected actual = none ↔ ∀ n, expected = some n → actual = n := by
  unfold unmetCount?
  cases expected <;> simp

theorem complaint?_eq_none_iff : x.complaint? ds a = none ↔ x.Meets ds a := by
  cases a with
  | declared | constraints | cascades => exact unmetCount?_eq_none_iff
  | kinds =>
    unfold complaint? unmetKinds? Meets
    rw [kindsOf_eq]
    cases x.kinds <;> simp
  | location =>
    unfold complaint? unmetLocation? Meets
    cases x.location <;> simp
  | custom =>
    unfold complaint? unmetCustom? Meets
    cases x.custom <;> simp

theorem complaint?_eq_some_iff : x.complaint? ds a = some message ↔ x.Complains ds a message := by
  cases a with
  | declared =>
    rw [complaint?, unmetCount?_eq_some_iff]
    constructor
    · rintro ⟨n, expects, differs, rfl⟩
      exact .declared expects differs
    · intro h
      cases h with
      | declared expects differs => exact ⟨_, expects, differs, rfl⟩
  | constraints =>
    rw [complaint?, unmetCount?_eq_some_iff]
    constructor
    · rintro ⟨n, expects, differs, rfl⟩
      exact .constraints expects differs
    · intro h
      cases h with
      | constraints expects differs => exact ⟨_, expects, differs, rfl⟩
  | cascades =>
    rw [complaint?, unmetCount?_eq_some_iff]
    constructor
    · rintro ⟨n, expects, differs, rfl⟩
      exact .cascades expects differs
    · intro h
      cases h with
      | cascades expects differs => exact ⟨_, expects, differs, rfl⟩
  | kinds =>
    rw [complaint?, unmetKinds?, kindsOf_eq]
    constructor
    · intro h
      cases expects : x.kinds with
      | none => simp [expects] at h
      | some kinds =>
        rw [expects] at h
        dsimp only at h
        split at h
        · cases h
        · rename_i differs
          cases h
          exact .kinds expects differs
    · intro h
      cases h with
      | kinds expects differs =>
        rw [expects]
        exact if_neg differs
  | location =>
    rw [complaint?, unmetLocation?]
    constructor
    · intro h
      cases expects : x.location with
      | none => simp [expects] at h
      | some l =>
        rw [expects] at h
        obtain ⟨stray, hstray, rfl⟩ := Option.map_eq_some_iff.mp h
        obtain ⟨differs, earlier, later, split, first⟩ := List.find?_eq_some_iff_append.mp hstray
        exact .location expects split (by simpa using first) (by simpa using differs)
    · intro h
      cases h with
      | location expects split first differs =>
        rw [expects]
        refine Option.map_eq_some_iff.mpr ⟨_, List.find?_eq_some_iff_append.mpr ⟨?_, ?_⟩, rfl⟩
        · simpa using differs
        · exact ⟨_, _, split, by simpa using first⟩
  | custom =>
    rw [complaint?, unmetCustom?]
    constructor
    · intro h
      cases expects : x.custom with
      | none => simp [expects] at h
      | some check =>
        rw [expects] at h
        dsimp only at h
        split at h
        · cases h
        · rename_i fails
          cases h
          exact .custom expects (by simpa using fails)
    · intro h
      cases h with
      | custom expects fails =>
        rw [expects]
        dsimp only
        rw [fails]
        rfl

theorem unmet?_eq_some_iff :
    x.unmet? ds = some message ↔
      ∃ earlier a later, Aspect.all = earlier ++ a :: later ∧
        (∀ b ∈ earlier, x.Meets ds b) ∧ x.Complains ds a message := by
  rw [unmet?_eq_findSome?, List.findSome?_eq_some_iff]
  simp only [complaint?_eq_some_iff, complaint?_eq_none_iff]
  constructor
  · rintro ⟨earlier, a, later, order, complains, meets⟩
    exact ⟨earlier, a, later, order, meets, complains⟩
  · rintro ⟨earlier, a, later, order, meets, complains⟩
    exact ⟨earlier, a, later, order, complains, meets⟩

theorem unmet?_eq_none_iff : x.unmet? ds = none ↔ ∀ a, x.Meets ds a := by
  rw [unmet?_eq_findSome?, List.findSome?_eq_none_iff]
  simp only [complaint?_eq_none_iff]
  exact ⟨fun h a => h a a.mem_all, fun h a _ => h a⟩

variable {scenario step phrase : String} {outcome : StepOutcome}
  {result : Except ScenarioFailure Unit}

/-- With an expected error, nothing but the message of the step counts. -/
theorem Wants.verify_eq {wanted : String → Prop} (h : x.Wants phrase wanted)
    (scenario step : String) (outcome : StepOutcome) :
    ∃ met : String → Bool, (∀ message, met message = true ↔ wanted message) ∧
      x.verify scenario step outcome = verifyError scenario step phrase met outcome := by
  unfold verify
  cases h with
  | @containing part expects =>
    refine ⟨(·.contains part), fun message => String.contains_string_iff, ?_⟩
    rw [expects]
  | @matching pattern e silent expects reads =>
    refine ⟨e.occursIn, fun message => Iff.rfl, ?_⟩
    rw [silent, expects]
    dsimp only
    rw [reads]

theorem Wants.judges_verify {wanted : String → Prop} (h : x.Wants phrase wanted) :
    x.Judges scenario step outcome (x.verify scenario step outcome) := by
  obtain ⟨met, hmet, hverify⟩ := h.verify_eq scenario step outcome
  rw [hverify]
  cases outcome with
  | error message =>
    unfold verifyError
    dsimp only
    split
    · rename_i fits
      exact .wanted h ((hmet message).mp fits)
    · rename_i fits
      exact .unwanted h (mt (hmet message).mpr fits)
  | ok ds => exact .succeeded h

theorem judges_verify : x.Judges scenario step outcome (x.verify scenario step outcome) := by
  cases silent : x.error with
  | some part => exact (Wants.containing silent).judges_verify
  | none =>
    cases plain : x.errorPattern with
    | some pattern =>
      cases reads : Pattern.read pattern with
      | ok e => exact (Wants.matching silent plain reads).judges_verify
      | error fault =>
        unfold verify
        rw [silent, plain]
        dsimp only
        rw [reads]
        exact .unreadable silent plain reads
    | none =>
      unfold verify
      rw [silent, plain]
      cases outcome with
      | error message => exact .unexpected silent plain
      | ok ds =>
        dsimp only
        cases hunmet : x.unmet? ds with
        | none => exact .met silent plain (unmet?_eq_none_iff.mp hunmet)
        | some message =>
          obtain ⟨earlier, a, later, order, meets, complains⟩ := unmet?_eq_some_iff.mp hunmet
          exact .unmet silent plain order meets complains

theorem Judges.eq_verify (h : x.Judges scenario step outcome result) :
    x.verify scenario step outcome = result := by
  cases h with
  | @wanted phrase message _ wants fits =>
    obtain ⟨met, hmet, hverify⟩ := wants.verify_eq scenario step _
    rw [hverify]
    exact if_pos ((hmet message).mpr fits)
  | @unwanted phrase message _ wants fits =>
    obtain ⟨met, hmet, hverify⟩ := wants.verify_eq scenario step _
    rw [hverify]
    exact if_neg (mt (hmet message).mp fits)
  | succeeded wants =>
    obtain ⟨met, -, hverify⟩ := wants.verify_eq scenario step _
    rw [hverify]
    rfl
  | unreadable silent expects fails =>
    unfold verify
    rw [silent, expects]
    dsimp only
    rw [fails]
  | unexpected silent plain =>
    unfold verify
    rw [silent, plain]
  | met silent plain meets =>
    unfold verify
    rw [silent, plain]
    dsimp only
    rw [unmet?_eq_none_iff.mpr meets]
  | unmet silent plain order meets complains =>
    unfold verify
    rw [silent, plain]
    dsimp only
    rw [unmet?_eq_some_iff.mpr ⟨_, _, _, order, meets, complains⟩]

theorem verify_eq_iff :
    x.verify scenario step outcome = result ↔ x.Judges scenario step outcome result := by
  constructor
  · rintro rfl
    exact judges_verify
  · exact Judges.eq_verify

/-- Verification judges every outcome in exactly one way. Whatever it finds wanting, it says so with
scenario and step, unless the expected pattern cannot be read; a step that failed passes only if its
error was expected; and what are not constraints among the declarations are cascades. -/
theorem verify_decided (x : Expectation) (scenario step : String) (outcome : StepOutcome) :
    (∀ result, x.verify scenario step outcome = result ↔
        x.Judges scenario step outcome result) ∧
      (∀ failure, x.verify scenario step outcome = .error failure →
        (∃ message, failure = .expectationUnmet scenario step message) ∨
          ∃ pattern fault, x.errorPattern = some pattern ∧ Pattern.read pattern = .error fault ∧
            failure = .invalidErrorPattern pattern fault) ∧
        (∀ message, outcome = .error message → x.verify scenario step outcome = .ok () →
          ∃ phrase wanted, x.Wants phrase wanted ∧ wanted message) ∧
          ∀ ds : List Declaration, (constraintsIn ds).length ≤ ds.length ∧
            ds.length - (constraintsIn ds).length = (cascadesIn ds).length := by
  refine ⟨fun _ => verify_eq_iff, ?_, ?_, ?_⟩
  · intro failure hfailure
    cases verify_eq_iff.mp hfailure with
    | unreadable silent expects fails => exact .inr ⟨_, _, expects, fails, rfl⟩
    | unwanted | succeeded | unexpected | unmet => exact .inl ⟨_, rfl⟩
  · rintro message rfl hok
    cases verify_eq_iff.mp hok with
    | wanted wants fits => exact ⟨_, _, wants, fits⟩
  · intro ds
    have hlength := length_eq_add ds
    omega

def miscounting : Expectation := { declared := some 2, cascades := some 2, kinds := some ["Past"] }

/-- The number of declarations would be wrong, but only the error counts. -/
def foreseeing : Expectation := { error := some "constraint kind", declared := some 2 }

def unknownKind : String := "Unsupported constraint kind: \"ZipCode\""

theorem verify_decided_miscounting :
    let step := [.constraint (.bean ⟨"shop::Order", 0⟩) (.bare "NotNull"),
      .cascade (.bean ⟨"shop::Order", 0⟩)]
    miscounting.verify "orders" "total" (.ok step) =
        .error (.expectationUnmet "orders" "total" "expected 2 cascades, got 1") ∧
      (∃ message, ScenarioFailure.expectationUnmet "orders" "total" "expected 2 cascades, got 1" =
        .expectationUnmet "orders" "total" message) ∧
        foreseeing.verify "orders" "zip" (.error unknownKind) = .ok () ∧
          ∃ phrase wanted, foreseeing.Wants phrase wanted ∧ wanted unknownKind := by
  intro step
  obtain ⟨hjudged, hnamed, -, -⟩ := verify_decided miscounting "orders" "total" (.ok step)
  obtain ⟨hjudged', -, hforeseen, -⟩ :=
    verify_decided foreseeing "orders" "zip" (.error unknownKind)
  have hmeets : ∀ a ∈ [Aspect.declared, .constraints], miscounting.Meets step a := by
    intro a ha
    simp only [List.mem_cons, List.not_mem_nil, or_false] at ha
    rcases ha with rfl | rfl
    · rintro n ⟨⟩
      rfl
    · rintro n ⟨⟩
  have horder : Aspect.all = [.declared, .constraints] ++ .cascades :: [.kinds, .location, .custom] :=
    rfl
  have hcomplains : miscounting.Complains step .cascades (miscount "cascades" 2 1) :=
    .cascades rfl (by decide)
  have htext : miscount "cascades" 2 1 = "expected 2 cascades, got 1" := by decide
  rw [htext] at hcomplains
  have hunmet := (hjudged _).mpr (.unmet rfl rfl horder hmeets hcomplains)
  have hwanted := (hjudged' _).mpr (.wanted (.containing rfl)
    ⟨"Unsupported ".toList, ": \"ZipCode\"".toList, rfl⟩)
  refine ⟨hunmet, ?_, hwanted, hforeseen _ rfl hwanted⟩
  rcases hnamed _ hunmet with h | ⟨pattern, fault, hpattern, -⟩
  · exact h
  · cases hpattern

end Expectation

end BeanRules
