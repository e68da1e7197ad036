import BeanRules.Catalog
import BeanRules.Proofs.ByName

/-!
A catalog accepts exactly the constraints that their kinds admit. `Kind.Admits` says what that
means without reference to the order in which the attributes are looked at.
-/
namespace BeanRules

theorem Attributes.get?_eq_some_iff {a : Attributes} {name : String} {v : Value} :
    a.get? name = some v ↔ (name, v) ∈ a.entries := by
  unfold Attributes.get?
  rw [Option.map_eq_some_iff]
  constructor
  · rintro ⟨⟨other, w⟩, h, rfl⟩
    obtain ⟨hmem, rfl⟩ := ByName.find?_eq_some_iff.mp h
    exact hmem
  · intro h
    exact ⟨(name, v), ByName.find?_eq_some_iff.mpr ⟨h, rfl⟩, rfl⟩

theorem Attributes.contains_iff {a : Attributes} {name : String} :
    a.contains name = true ↔ ∃ v, a.get? name = some v := by
  unfold ByName.contains Attributes.get?
  cases a.find? name <;> simp

namespace Kind

/-- A value that the kind takes for an attribute. The first declaration of the attribute says which
values those are; the policy says whether an attribute has to be declared at all, and whether one
that holds a pattern has to hold a readable one. -/
structure Takes (k : Kind) (p : Policy) (name : String) (v : Value) : Prop where
  declared : p.strictAttributes = true → ∃ spec ∈ k.attributes, spec.name = name
  typed : ∀ spec, k.spec? name = some spec → spec.type.accepts v = true
  readable : p.validatePatterns = true → ∀ spec, k.spec? name = some spec → spec.type = .regex →
    ∃ text e, v = .string text ∧ Pattern.read text = .ok e

structure Admits (k : Kind) (p : Policy) (c : Constraint) : Prop where
  takes : ∀ name v, c.attributes.get? name = some v → k.Takes p name v
  required : ∀ spec ∈ k.attributes, spec.required = true →
    ∃ v, c.attributes.get? spec.name = some v

variable {k : Kind} {p : Policy} {name : String} {v : Value}

theorem spec?_eq_none_iff : k.spec? name = none ↔ ∀ spec ∈ k.attributes, spec.name ≠ name := by
  unfold spec?
  rw [List.find?_eq_none]
  simp

theorem spec?_name {spec : AttrSpec} (h : k.spec? name = some spec) :
    spec ∈ k.attributes ∧ spec.name = name :=
  ⟨List.mem_of_find?_eq_some h, by simpa using List.find?_some h⟩

theorem checkPattern_eq_ok_iff {text : String} :
    checkPattern text = .ok () ↔ ∃ e, Pattern.read text = .ok e := by
  unfold checkPattern
  cases Pattern.read text <;> simp

theorem takes_iff_of_spec?_eq_none (h : k.spec? name = none) :
    k.Takes p name v ↔ p.strictAttributes = false := by
  have hnone := spec?_eq_none_iff.mp h
  constructor
  · intro htakes
    apply Bool.eq_false_iff.mpr
    intro hstrict
    obtain ⟨spec, hmem, hname⟩ := htakes.declared hstrict
    exact hnone spec hmem hname
  · intro hlax
    refine ⟨fun hstrict => ?_, fun spec hspec => ?_, fun _ spec hspec => ?_⟩
    · cases hlax.symm.trans hstrict
    · cases h.symm.trans hspec
    · cases h.symm.trans hspec

theorem takes_iff_of_spec?_eq_some {spec : AttrSpec} (h : k.spec? name = some spec) :
    k.Takes p name v ↔ spec.type.accepts v = true ∧
      (spec.type = .regex ∧ p.validatePatterns = true →
        ∃ text e, v = .string text ∧ Pattern.read text = .ok e) := by
  constructor
  · intro htakes
    exact ⟨htakes.typed spec h, fun hreads => htakes.readable hreads.2 spec h hreads.1⟩
  · rintro ⟨haccepts, hreadable⟩
    refine ⟨fun _ => ⟨spec, spec?_name h⟩, fun spec' hspec => ?_, fun hvalidate spec' hspec => ?_⟩
    · cases h.symm.trans hspec
      exact haccepts
    · cases h.symm.trans hspec
      intro hregex
      exact hreadable ⟨hregex, hvalidate⟩

theorem checkAttribute_eq_ok_iff : k.checkAttribute p name v = .ok () ↔ k.Takes p name v := by
  unfold checkAttribute
  cases hspec : k.spec? name with
  | none =>
    rw [takes_iff_of_spec?_eq_none hspec]
    cases p.strictAttributes <;> simp
  | some spec =>
    rw [takes_iff_of_spec?_eq_some hspec]
    by_cases haccepts : spec.type.accepts v = true
    · by_cases hreads : spec.type = .regex ∧ p.validatePatterns = true
      · -- What a pattern attribute accepts is a text, so there is one to read.
        have htext : ∃ text, v = .string text := by
          rw [hreads.1] at haccepts
          cases v with
          | string text => exact ⟨text, rfl⟩
          | _ => cases haccepts
        obtain ⟨text, rfl⟩ := htext
        have hstring : AttrType.regex.accepts (.string text) = true := rfl
        simp only [hreads, hstring, if_true, and_self, true_and, forall_const, Value.string?,
          Value.string.injEq, exists_and_left, exists_eq_left', checkPattern_eq_ok_iff]
      · simp [haccepts, hreads]
    · simp [haccepts]

theorem checkAttributes_eq_ok_iff {l : List (String × Value)} :
    k.checkAttributes p l = .ok () ↔ ∀ e ∈ l, k.Takes p e.1 e.2 := by
  induction l with
  | nil => simp [checkAttributes]
  | cons e rest ih =>
    obtain ⟨name, v⟩ := e
    unfold checkAttributes
    rw [List.forall_mem_cons, ← ih, ← checkAttribute_eq_ok_iff]
    cases k.checkAttribute p name v with
    | error r => simp [bind, Except.bind]
    | ok u => simp [bind, Except.bind]

theorem checkRequired_eq_ok_iff {a : Attributes} :
    k.checkRequired a = .ok () ↔
      ∀ spec ∈ k.attributes, spec.required = true → ∃ v, a.get? spec.name = some v := by
  have hnone : k.checkRequired a = .ok () ↔
      k.attributes.find? (fun spec => spec.required && !a.contains spec.name) = none := by
    unfold checkRequired
    cases k.attributes.find? fun spec => spec.required && !a.contains spec.name <;> simp
  rw [hnone, List.find?_eq_none]
  simp only [← Attributes.contains_iff]
  simp

end Kind

namespace Catalog

theorem resolve_eq_ok_iff {c : Catalog} {k : Kind} {n : String} :
    c.resolve n = .ok k ↔ c.find? n = some k := by
  unfold resolve
  cases c.find? n <;> simp

def Admits (catalog : Catalog) (p : Policy) (c : Constraint) : Prop :=
  ∃ k, catalog.find? c.kind = some k ∧ k.Admits p c

theorem check_eq_ok_iff {catalog : Catalog} {p : Policy} {c : Constraint} :
    catalog.check p c = .ok () ↔ catalog.Admits p c := by
  unfold check Admits resolve
  cases catalog.find? c.kind with
  | none => simp [bind, Except.bind]
  | some k =>
    have hattributes := Kind.checkAttributes_eq_ok_iff (k := k) (p := p)
      (l := c.attributes.entries)
    have hrequired := Kind.checkRequired_eq_ok_iff (k := k) (a := c.attributes)
    have hadmits : k.Admits p c ↔
        k.checkAttributes p c.attributes.entries = .ok () ∧
          k.checkRequired c.attributes = .ok () := by
      rw [hattributes, hrequired]
      constructor
      · intro h
        exact ⟨fun e he => h.takes e.1 e.2 (Attributes.get?_eq_some_iff.mpr he), h.required⟩
      · rintro ⟨htakes, hrequired⟩
        exact ⟨fun name v h => htakes (name, v) (Attributes.get?_eq_some_iff.mp h), hrequired⟩
    simp only [Option.some.injEq, exists_eq_left', hadmits, bind, Except.bind]
    cases k.checkAttributes p c.attributes.entries <;> simp

end Catalog

end BeanRules
