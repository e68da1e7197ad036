import BeanRules.Proofs.Destination
import BeanRules.Registry

/-!
A registry can be frozen exactly when every parameter that it mentions lies within the arity of its
method. The first that does not is reported, in the words in which an eager move to it would have
been refused, and otherwise a mapping holds what the registry held.
-/
namespace BeanRules

namespace Location

def fault? : Location → Option Refusal
  | .method s (.parameter i) => if i < s.arity then none else some (.indexOutOfRange s i)
  | _ => none

theorem fault?_eq_some_iff {l : Location} {e : Refusal} :
    l.fault? = some e ↔
      ∃ s i, l = .method s (.parameter i) ∧ s.arity ≤ i ∧ e = .indexOutOfRange s i := by
  cases l with
  | bean | property => simp [fault?]
  | method s target =>
    cases target with
    | returnValue => simp [fault?]
    | parameter i =>
      simp only [fault?, Option.ite_none_left_eq_some, Option.some.injEq, Nat.not_lt,
        eq_comm (b := e)]
      constructor
      · rintro ⟨hi, rfl⟩
        exact ⟨s, i, rfl, hi, rfl⟩
      · rintro ⟨_, _, ⟨⟩, hi, rfl⟩
        exact ⟨hi, rfl⟩

theorem fault?_eq_none_iff {l : Location} : l.fault? = none ↔ l.inArity = true := by
  cases l with
  | bean | property => simp [fault?, inArity]
  | method s target =>
    cases target with
    | returnValue => simp [fault?, inArity]
    | parameter i => simp [fault?, inArity]

theorem inArity_iff {l : Location} :
    l.inArity = true ↔ ∀ s i, l = .method s (.parameter i) → i < s.arity := by
  cases l with
  | bean | property => simp [inArity]
  | method s target =>
    cases target with
    | returnValue => simp [inArity]
    | parameter i => simp [inArity]

end Location

namespace Registry

theorem checkIndices_eq_findSome? (ds : List Declaration) :
    checkIndices ds =
      match ds.findSome? (·.location.fault?) with
      | some e => .error e
      | none => .ok () := by
  induction ds with
  | nil => rfl
  | cons d rest ih =>
    rw [checkIndices, ih, List.findSome?_cons]
    cases d.location with
    | bean | property => rfl
    | method s target =>
      cases target with
      | returnValue => rfl
      | parameter i =>
        by_cases h : i < s.arity <;>
          simp [Location.fault?, Signature.checkIndex, bind, Except.bind, h]

theorem checkIndices_eq_ok_iff {ds : List Declaration} :
    checkIndices ds = .ok () ↔ ∀ d ∈ ds, d.location.inArity = true := by
  simp only [← Location.fault?_eq_none_iff]
  rw [← List.findSome?_eq_none_iff, checkIndices_eq_findSome?]
  cases ds.findSome? (·.location.fault?) <;> simp

theorem checkIndices_eq_error_iff {ds : List Declaration} {e : Refusal} :
    checkIndices ds = .error e ↔ ds.findSome? (·.location.fault?) = some e := by
  rw [checkIndices_eq_findSome?]
  cases ds.findSome? (·.location.fault?) <;> simp

theorem freeze_eq_ok_iff {r : Registry} {m : Mapping} :
    r.freeze = .ok m ↔
      (∀ d ∈ r.declarations, d.location.inArity = true) ∧
        m = .ofDeclarations r.declarations r.sequences := by
  rw [← checkIndices_eq_ok_iff]
  unfold freeze
  cases checkIndices r.declarations with
  | error e => simp [bind, Except.bind]
  | ok u => simp [bind, Except.bind, pure, Except.pure, eq_comm]

theorem freeze_eq_error_iff {r : Registry} {e : Refusal} :
    r.freeze = .error e ↔ r.declarations.findSome? (·.location.fault?) = some e := by
  rw [← checkIndices_eq_error_iff]
  unfold freeze
  cases checkIndices r.declarations <;> simp [bind, Except.bind, pure, Except.pure]

theorem declarations_of_freeze {r : Registry} {m : Mapping} (h : r.freeze = .ok m) :
    m.declarations = r.declarations := by
  obtain ⟨-, rfl⟩ := freeze_eq_ok_iff.mp h
  rfl

theorem defaultGroups?_of_freeze {r : Registry} {m : Mapping} (h : r.freeze = .ok m)
    (bean : TypeRef) : m.defaultGroups? bean = r.defaultGroups? bean := by
  obtain ⟨-, rfl⟩ := freeze_eq_ok_iff.mp h
  rfl

theorem length_declarations (r : Registry) :
    r.declarations.length = r.constraintCount + r.cascadeCount := by
  unfold constraintCount cascadeCount
  rw [List.length_eq_countP_add_countP (·.isCascade), Nat.add_comm]
  simp

/-- However a registry was filled and whichever policy it has, it can be frozen just if every
parameter in it exists. Otherwise the first declaration at a parameter that does not is named,
by the refusal that an index check of its method gives and so an eager move. A mapping that comes
out of it holds all declarations in their order, and the same default groups. -/
theorem freeze_decided (r : Registry) :
    ((∃ m, r.freeze = .ok m) ↔
        ∀ d ∈ r.declarations, ∀ s i, d.location = .method s (.parameter i) → i < s.arity) ∧
      (∀ e, r.freeze = .error e ↔
        ∃ before d after s i, r.declarations = before ++ d :: after ∧
          (∀ d' ∈ before, ∀ s' i', d'.location = .method s' (.parameter i') → i' < s'.arity) ∧
          d.location = .method s (.parameter i) ∧ s.arity ≤ i ∧ e = .indexOutOfRange s i) ∧
      (∀ s i, s.arity ≤ i →
        s.checkIndex i = .error (.indexOutOfRange s i) ∧
        (∀ p t, p.indexCheck = .eager →
          (Location.method s t).move? p (.parameter i) = some (.error (.indexOutOfRange s i))) ∧
        (Refusal.indexOutOfRange s i).message =
          s!"Parameter index {i} out of range for {s.display} (arity {s.arity})") ∧
      ∀ m, r.freeze = .ok m →
        m.declarations = r.declarations ∧
        m.declarations.length = r.constraintCount + r.cascadeCount ∧
        ∀ bean, m.defaultGroups? bean = r.defaultGroups? bean := by
  refine ⟨?_, ?_, ?_, ?_⟩
  · simp only [← Location.inArity_iff]
    constructor
    · rintro ⟨m, h⟩
      exact (freeze_eq_ok_iff.mp h).1
    · intro h
      exact ⟨_, freeze_eq_ok_iff.mpr ⟨h, rfl⟩⟩
  · intro e
    simp only [← Location.inArity_iff, ← Location.fault?_eq_none_iff]
    rw [freeze_eq_error_iff, List.findSome?_eq_some_iff]
    constructor
    · rintro ⟨before, d, after, hsplit, hfault, hbefore⟩
      obtain ⟨s, i, hlocation, hi, he⟩ := Location.fault?_eq_some_iff.mp hfault
      exact ⟨before, d, after, s, i, hsplit, hbefore, hlocation, hi, he⟩
    · rintro ⟨before, d, after, s, i, hsplit, hbefore, hfault⟩
      exact ⟨before, d, after, hsplit, Location.fault?_eq_some_iff.mpr ⟨s, i, hfault⟩, hbefore⟩
  · intro s i hi
    refine ⟨if_neg (Nat.not_lt.mpr hi), ?_, rfl⟩
    intro p t eager
    have hmove : (Location.method s t).move? p (.parameter i) =
        some (Location.toParameter p s i) := rfl
    rw [hmove, Location.toParameter_eq, if_pos ⟨eager, hi⟩]
  · intro m h
    refine ⟨declarations_of_freeze h, ?_, defaultGroups?_of_freeze h⟩
    rw [declarations_of_freeze h, length_declarations]

def overreaching : Registry :=
  let ship : Signature := ⟨⟨"shop::Order", 0⟩, "ship", [⟨"f64", 0⟩], rfl⟩
  (((Registry.new .lenient).addCascade (.method ship (.parameter 0))).addCascade
    (.method ship (.parameter 2))).addCascade (.method ship (.parameter 1))

theorem freeze_decided_overreaching :
    let ship : Signature := ⟨⟨"shop::Order", 0⟩, "ship", [⟨"f64", 0⟩], rfl⟩
    let r := overreaching
    r.freeze = .error (.indexOutOfRange ship 2) ∧
      ship.checkIndex 2 = .error (.indexOutOfRange ship 2) ∧
      (Location.method ship .returnValue).move? .strict (.parameter 2) =
        some (.error (.indexOutOfRange ship 2)) ∧
      ∃ m, { r with declarations := r.declarations.take 1 }.freeze = .ok m ∧
        m.declarations = r.declarations.take 1 ∧ m.declarations.length = 0 + 1 := by
  intro ship r
  obtain ⟨-, herror, houtside, -⟩ := freeze_decided r
  obtain ⟨hcheck, hmove, -⟩ := houtside ship 2 (by decide)
  obtain ⟨hfreezes, -, -, hkeeps⟩ :=
    freeze_decided { r with declarations := r.declarations.take 1 }
  have hfirst : ∀ d ∈ [Declaration.cascade (.method ship (.parameter 0))],
      ∀ s i, d.location = .method s (.parameter i) → i < s.arity := by
    simp only [List.forall_mem_singleton, ← Location.inArity_iff]
    decide
  obtain ⟨m, hm⟩ := hfreezes.mpr hfirst
  obtain ⟨hdeclarations, hlength, -⟩ := hkeeps m hm
  refine ⟨(herror _).mpr ?_, hcheck, hmove .strict .returnValue rfl, m, hm, hdeclarations, hlength⟩
  exact ⟨[_], _, [_], ship, 2, rfl, hfirst, rfl, by decide, rfl⟩

end Registry

end BeanRules
