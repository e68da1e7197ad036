import BeanRules.Proofs.ByteOrder
import BeanRules.Proofs.Check

/-!
What a catalog answers about a constraint, said without the order in which anything is looked at.
Of several faulty attributes the one whose name has the smallest bytes is reported, an absent one
only when none is faulty, and nothing but the kind and the attributes has a say.
-/
namespace BeanRules

namespace Kind

def Declares (k : Kind) (name : String) (spec : AttrSpec) : Prop :=
  ∃ earlier later, k.attributes = earlier ++ spec :: later ∧ spec.name = name ∧
    ∀ other ∈ earlier, other.name ≠ name

/-- What is wrong with the value of an attribute. -/
inductive Faulty (k : Kind) (p : Policy) (name : String) (v : Value) : Refusal → Prop where
  | undeclared (strict : p.strictAttributes = true)
      (unknown : ∀ spec ∈ k.attributes, spec.name ≠ name) :
      Faulty k p name v (.unknownAttribute k.name name)
  | mistyped {spec : AttrSpec} (first : k.Declares name spec)
      (rejects : spec.type.accepts v = false) :
      Faulty k p name v (.invalidAttribute k.name name spec.type v)
  | unreadable {spec : AttrSpec} {text : String} {fault : Pattern.Fault}
      (validates : p.validatePatterns = true) (first : k.Declares name spec)
      (regex : spec.type = .regex) (holds : v = .string text)
      (fails : Pattern.read text = .error fault) :
      Faulty k p name v (.invalidPattern text fault)

def Sound (k : Kind) (p : Policy) (a : Attributes) : Prop :=
  ∀ name v r, a.get? name = some v → ¬k.Faulty p name v r

/-- An attribute that has to be there and is not, and before which none is declared that is. -/
def Lacks (k : Kind) (a : Attributes) (spec : AttrSpec) : Prop :=
  ∃ earlier later, k.attributes = earlier ++ spec :: later ∧ spec.required = true ∧
    a.get? spec.name = none ∧
      ∀ other ∈ earlier, other.required = true → ∃ v, a.get? other.name = some v

variable {k : Kind} {p : Policy} {name : String} {v : Value} {r : Refusal} {a : Attributes}

theorem spec?_eq_some_iff {spec : AttrSpec} :
    k.spec? name = some spec ↔ k.Declares name spec := by
  unfold spec? Declares
  rw [List.find?_eq_some_iff_append]
  simp only [beq_iff_eq, ne_eq, Bool.not_eq_true', beq_eq_false_iff_ne]
  constructor
  · rintro ⟨hname, earlier, later, hsplit, hfirst⟩
    exact ⟨earlier, later, hsplit, hname, hfirst⟩
  · rintro ⟨earlier, later, hsplit, hname, hfirst⟩
    exact ⟨hname, earlier, later, hsplit, hfirst⟩

theorem faulty_iff_of_spec?_eq_none (h : k.spec? name = none) :
    k.Faulty p name v r ↔ p.strictAttributes = true ∧ r = .unknownAttribute k.name name := by
  constructor
  · rintro (⟨strict, -⟩ | ⟨first, -⟩ | ⟨-, first, -, -, -⟩)
    · exact ⟨strict, rfl⟩
    · cases h.symm.trans (spec?_eq_some_iff.mpr first)
    · cases h.symm.trans (spec?_eq_some_iff.mpr first)
  · rintro ⟨strict, rfl⟩
    exact .undeclared strict (spec?_eq_none_iff.mp h)

theorem faulty_iff_of_spec?_eq_some {spec : AttrSpec} (h : k.spec? name = some spec) :
    k.Faulty p name v r ↔
      (spec.type.accepts v = false ∧ r = .invalidAttribute k.name name spec.type v) ∨
        (p.validatePatterns = true ∧ spec.type = .regex ∧
          ∃ text fault, v = .string text ∧ Pattern.read text = .error fault ∧
            r = .invalidPattern text fault) := by
  have first := spec?_eq_some_iff.mp h
  constructor
  · rintro (⟨-, unknown⟩ | ⟨first', rejects⟩ | ⟨validates, first', regex, holds, fails⟩)
    · exact absurd (spec?_name h).2 (unknown spec (spec?_name h).1)
    · cases h.symm.trans (spec?_eq_some_iff.mpr first')
      exact .inl ⟨rejects, rfl⟩
    · cases h.symm.trans (spec?_eq_some_iff.mpr first')
      exact .inr ⟨validates, regex, _, _, holds, fails, rfl⟩
  · rintro (⟨rejects, rfl⟩ | ⟨validates, regex, text, fault, holds, fails, rfl⟩)
    · exact .mistyped first rejects
    · exact .unreadable validates first regex holds fails

theorem checkPattern_eq_error_iff {text : String} :
    checkPattern text = .error r ↔
      ∃ fault, Pattern.read text = .error fault ∧ r = .invalidPattern text fault := by
  unfold checkPattern
  cases Pattern.read text <;> simp [eq_comm]

theorem accepts_regex_iff : AttrType.regex.accepts v = true ↔ ∃ text, v = .string text := by
  cases v <;> simp [AttrType.accepts, Value.string?]

theorem checkAttribute_eq_error_iff :
    k.checkAttribute p name v = .error r ↔ k.Faulty p name v r := by
  unfold checkAttribute
  cases hspec : k.spec? name with
  | none =>
    rw [faulty_iff_of_spec?_eq_none hspec]
    cases p.strictAttributes <;> simp [eq_comm]
  | some spec =>
    rw [faulty_iff_of_spec?_eq_some hspec]
    obtain ⟨declared, type, required⟩ := spec
    dsimp only
    by_cases hregex : type = .regex
    · subst hregex
      by_cases htext : ∃ text, v = .string text
      · obtain ⟨text, rfl⟩ := htext
        have haccepts := accepts_regex_iff.mpr ⟨text, rfl⟩
        cases p.validatePatterns <;> simp [haccepts, Value.string?, checkPattern_eq_error_iff]
      · have hrejects := mt accepts_regex_iff.mp htext
        rw [not_exists] at htext
        simp [hrejects, htext, eq_comm (a := r)]
    · cases type.accepts v <;> simp [hregex, eq_comm (a := r)]

theorem takes_iff_not_faulty : k.Takes p name v ↔ ∀ r, ¬k.Faulty p name v r := by
  rw [← checkAttribute_eq_ok_iff]
  simp only [← checkAttribute_eq_error_iff]
  cases k.checkAttribute p name v <;> simp

theorem checkAttributes_eq_error_iff {l : List (String × Value)} :
    k.checkAttributes p l = .error r ↔
      ∃ before name v after, l = before ++ (name, v) :: after ∧
        (∀ e ∈ before, k.Takes p e.1 e.2) ∧ k.Faulty p name v r := by
  induction l with
  | nil => simp [checkAttributes]
  | cons e rest ih =>
    obtain ⟨name, v⟩ := e
    unfold checkAttributes
    cases hfirst : k.checkAttribute p name v with
    | error s =>
      have hfaulty := checkAttribute_eq_error_iff.mp hfirst
      constructor
      · rintro ⟨⟩
        exact ⟨[], name, v, rest, rfl, List.forall_mem_nil _, hfaulty⟩
      · rintro ⟨before, name', v', after, hsplit, htakes, hfaulty'⟩
        cases before with
        | nil =>
          cases hsplit
          rw [← checkAttribute_eq_error_iff, hfirst] at hfaulty'
          exact hfaulty'
        | cons e before =>
          cases hsplit
          exact absurd hfaulty (takes_iff_not_faulty.mp (htakes _ List.mem_cons_self) s)
    | ok u =>
      have htakes := checkAttribute_eq_ok_iff.mp hfirst
      have hrest : (do Except.ok u; k.checkAttributes p rest) = k.checkAttributes p rest := rfl
      rw [hrest, ih]
      constructor
      · rintro ⟨before, name', v', after, rfl, hbefore, hfaulty⟩
        exact ⟨(name, v) :: before, name', v', after, rfl,
          List.forall_mem_cons.mpr ⟨htakes, hbefore⟩, hfaulty⟩
      · rintro ⟨before, name', v', after, hsplit, hbefore, hfaulty⟩
        cases before with
        | nil =>
          cases hsplit
          exact absurd hfaulty (takes_iff_not_faulty.mp htakes r)
        | cons e before =>
          cases hsplit
          exact ⟨before, name', v', after, rfl, (List.forall_mem_cons.mp hbefore).2, hfaulty⟩

/-- The entries are in the order of their names, so the first fault is the one of the least name. -/
theorem checkAttributes_entries_eq_error_iff :
    k.checkAttributes p a.entries = .error r ↔
      ∃ name v, a.get? name = some v ∧ k.Faulty p name v r ∧
        ∀ other w s, a.get? other = some w → k.Faulty p other w s →
          Text.utf8 name ≤ Text.utf8 other := by
  simp only [checkAttributes_eq_error_iff, Attributes.get?_eq_some_iff, Text.utf8_le_iff]
  constructor
  · rintro ⟨before, name, v, after, hsplit, hbefore, hfaulty⟩
    refine ⟨name, v, by simp [hsplit], hfaulty, ?_⟩
    intro other w s hother hfaulty'
    have hascending := a.ascending
    rw [hsplit] at hother hascending
    have hafter := (List.pairwise_cons.mp (List.pairwise_append.mp hascending).2.1).1
    rcases List.mem_append.mp hother with hmem | hmem
    · exact absurd hfaulty' (takes_iff_not_faulty.mp (hbefore _ hmem) s)
    · rcases List.mem_cons.mp hmem with heq | hmem
      · cases heq
        exact String.le_refl name
      · exact Std.le_of_lt (hafter _ hmem)
  · rintro ⟨name, v, hmem, hfaulty, hleast⟩
    obtain ⟨before, after, hsplit⟩ := List.append_of_mem hmem
    refine ⟨before, name, v, after, hsplit, ?_, hfaulty⟩
    intro e he
    rw [takes_iff_not_faulty]
    intro s hfaulty'
    have hascending := a.ascending
    rw [hsplit] at hascending
    have hlt := (List.pairwise_append.mp hascending).2.2 e he _ List.mem_cons_self
    have hle := hleast e.1 e.2 s (by rw [hsplit]; exact List.mem_append_left _ he) hfaulty'
    exact String.not_le.mpr hlt hle

theorem checkAttributes_entries_eq_ok_iff :
    k.checkAttributes p a.entries = .ok () ↔ k.Sound p a := by
  unfold Sound
  rw [checkAttributes_eq_ok_iff]
  constructor
  · intro htakes name v s hget
    exact takes_iff_not_faulty.mp (htakes _ (Attributes.get?_eq_some_iff.mp hget)) s
  · intro hsound e he
    rw [takes_iff_not_faulty]
    intro s
    exact hsound e.1 e.2 s (Attributes.get?_eq_some_iff.mpr he)

theorem find?_required_eq_some_iff {spec : AttrSpec} :
    k.attributes.find? (fun spec => spec.required && !a.contains spec.name) = some spec ↔
      k.Lacks a spec := by
  have habsent (name : String) : a.contains name = false ↔ a.get? name = none := by
    unfold ByName.contains Attributes.get?
    cases a.find? name <;> simp
  have hpresent (other : AttrSpec) :
      (!(other.required && !a.contains other.name)) = true ↔
        (other.required = true → ∃ v, a.get? other.name = some v) := by
    rw [← Attributes.contains_iff]
    cases other.required <;> simp
  rw [List.find?_eq_some_iff_append]
  simp only [hpresent, Bool.and_eq_true, Bool.not_eq_true', habsent]
  constructor
  · rintro ⟨⟨hrequired, hnone⟩, earlier, later, hsplit, hfirst⟩
    exact ⟨earlier, later, hsplit, hrequired, hnone, hfirst⟩
  · rintro ⟨earlier, later, hsplit, hrequired, hnone, hfirst⟩
    exact ⟨⟨hrequired, hnone⟩, earlier, later, hsplit, hfirst⟩

theorem checkRequired_eq_error_iff :
    k.checkRequired a = .error r ↔
      ∃ spec, k.Lacks a spec ∧ r = .missingAttribute k.name spec.name := by
  simp only [← find?_required_eq_some_iff]
  unfold checkRequired
  cases k.attributes.find? fun spec => spec.required && !a.contains spec.name <;>
    simp [eq_comm (a := r)]

end Kind

namespace Catalog

/-- The answer of a catalog about a constraint. -/
inductive Verdict (catalog : Catalog) (p : Policy) (c : Constraint) : Except Refusal Unit → Prop
    where
  | unsupported (unknown : catalog.find? c.kind = none) :
      Verdict catalog p c (.error (.unsupportedKind c.kind))
  | faulty {k : Kind} {name : String} {v : Value} {r : Refusal}
      (known : catalog.find? c.kind = some k) (held : c.attributes.get? name = some v)
      (fault : k.Faulty p name v r)
      (least : ∀ other w s, c.attributes.get? other = some w → k.Faulty p other w s →
        Text.utf8 name ≤ Text.utf8 other) :
      Verdict catalog p c (.error r)
  | missing {k : Kind} {spec : AttrSpec} (known : catalog.find? c.kind = some k)
      (sound : k.Sound p c.attributes) (lacks : k.Lacks c.attributes spec) :
      Verdict catalog p c (.error (.missingAttribute k.name spec.name))
  | valid {k : Kind} (known : catalog.find? c.kind = some k) (sound : k.Sound p c.attributes)
      (complete : ∀ spec ∈ k.attributes, spec.required = true →
        ∃ v, c.attributes.get? spec.name = some v) :
      Verdict catalog p c (.ok ())

variable {catalog : Catalog} {p : Policy} {c : Constraint} {result : Except Refusal Unit}

theorem check_of_find?_eq_some {k : Kind} (h : catalog.find? c.kind = some k) :
    catalog.check p c =
      (k.checkAttributes p c.attributes.entries).bind fun _ => k.checkRequired c.attributes := by
  unfold check resolve
  rw [h]
  rfl

theorem verdict_check : catalog.Verdict p c (catalog.check p c) := by
  cases known : catalog.find? c.kind with
  | none =>
    unfold check resolve
    rw [known]
    exact .unsupported known
  | some k =>
    rw [check_of_find?_eq_some known]
    cases hattributes : k.checkAttributes p c.attributes.entries with
    | error r =>
      obtain ⟨name, v, held, fault, least⟩ :=
        Kind.checkAttributes_entries_eq_error_iff.mp hattributes
      exact .faulty known held fault least
    | ok u =>
      have sound := Kind.checkAttributes_entries_eq_ok_iff.mp hattributes
      cases hrequired : k.checkRequired c.attributes with
      | error r =>
        obtain ⟨spec, lacks, rfl⟩ := Kind.checkRequired_eq_error_iff.mp hrequired
        exact .missing known sound lacks
      | ok u => exact .valid known sound (Kind.checkRequired_eq_ok_iff.mp hrequired)

theorem Verdict.eq_check (h : catalog.Verdict p c result) : catalog.check p c = result := by
  cases h with
  | unsupported unknown =>
    unfold check resolve
    rw [unknown]
    rfl
  | faulty known held fault least =>
    rw [check_of_find?_eq_some known,
      Kind.checkAttributes_entries_eq_error_iff.mpr ⟨_, _, held, fault, least⟩]
    rfl
  | missing known sound lacks =>
    rw [check_of_find?_eq_some known, Kind.checkAttributes_entries_eq_ok_iff.mpr sound]
    exact Kind.checkRequired_eq_error_iff.mpr ⟨_, lacks, rfl⟩
  | valid known sound complete =>
    rw [check_of_find?_eq_some known, Kind.checkAttributes_entries_eq_ok_iff.mpr sound]
    exact Kind.checkRequired_eq_ok_iff.mpr complete

theorem check_eq_iff : catalog.check p c = result ↔ catalog.Verdict p c result := by
  constructor
  · rintro rfl
    exact verdict_check
  · exact Verdict.eq_check

/-- A catalog answers as its verdict says and in no other way, so it accepts exactly what it admits
and reports an absent attribute only if none is faulty. What is set besides the attributes does not
matter to it. -/
theorem check_decided (catalog : Catalog) (p : Policy) (c : Constraint) :
    (∀ result, catalog.check p c = result ↔ catalog.Verdict p c result) ∧
      (catalog.check p c = .ok () ↔ catalog.Admits p c) ∧
        (∀ kind attr, catalog.check p c = .error (.missingAttribute kind attr) →
          ∃ k, catalog.find? c.kind = some k ∧ k.Sound p c.attributes) ∧
          ∀ message groups payload,
            catalog.check p { c with message, groups, payload } = catalog.check p c := by
  refine ⟨fun _ => check_eq_iff, check_eq_ok_iff, ?_, fun _ _ _ => rfl⟩
  intro kind attr hmissing
  -- A faulty attribute is never reported as an absent one.
  have hfault {k : Kind} {name : String} {v : Value} :
      ¬k.Faulty p name v (.missingAttribute kind attr) := by rintro ⟨⟩
  generalize hresult : catalog.check p c = result at hmissing
  cases check_eq_iff.mp hresult with
  | unsupported => cases hmissing
  | faulty known held fault least =>
    cases hmissing
    exact absurd fault hfault
  | missing known sound lacks => exact ⟨_, known, sound⟩
  | valid => cases hmissing

def parcel : Kind :=
  (((Kind.bare "Parcel").required "weight" .number).optional "weight" .string).required
    "sender" .string

def heavy : Constraint :=
  ((Constraint.bare "Parcel").withAttr "zone" .null).withAttr "weight" (.string "heavy")

def anonymous : Constraint := (Constraint.bare "Parcel").withAttr "weight" (.int 3)

theorem check_decided_parcel :
    let catalog := builtin.register parcel
    catalog.Verdict .strict heavy
        (.error (.invalidAttribute "Parcel" "weight" .number (.string "heavy"))) ∧
      ¬catalog.Admits .strict heavy ∧
        catalog.check .strict anonymous = .error (.missingAttribute "Parcel" "sender") ∧
          ∃ k, catalog.find? "Parcel" = some k ∧ k.Sound .strict anonymous.attributes := by
  intro catalog
  obtain ⟨hverdict, hadmits, -, -⟩ := check_decided catalog .strict heavy
  obtain ⟨-, -, hsound, -⟩ := check_decided catalog .strict anonymous
  have hheavy : catalog.check .strict heavy =
      .error (.invalidAttribute "Parcel" "weight" .number (.string "heavy")) := rfl
  have hanonymous : catalog.check .strict anonymous =
      .error (.missingAttribute "Parcel" "sender") := rfl
  refine ⟨(hverdict _).mp hheavy, ?_, hanonymous, hsound _ _ hanonymous⟩
  rw [← hadmits, hheavy]
  rintro ⟨⟩

end Catalog

end BeanRules
