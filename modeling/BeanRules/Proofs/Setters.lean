import BeanRules.Proofs.Draft
import BeanRules.Proofs.Verdict

/-!
The drafts of the built-in kinds. What their setters store agrees with what the kinds declare, so
such a draft is refused only for an attribute that was never set, a number that is none, or a
pattern that cannot be read; and setters record what the same parameters record.
-/
namespace BeanRules

namespace Builtin

namespace Setter

variable {b : Builtin}

theorem toInt_ofNat_toNat (n : UInt32) : (Int64.ofNat n.toNat).toInt = n.toNat := by
  apply Int64.toInt_ofNat_of_lt
  have := n.toNat_lt
  omega

theorem count?_ofNat_toNat (n : UInt32) : count? (Int64.ofNat n.toNat) = some n := by
  unfold count?
  rw [toInt_ofNat_toNat, if_pos]
  · simp
  · exact ⟨by omega, by exact_mod_cast n.toNat_lt_size⟩

/-- A setter is known by what it stores. -/
theorem of?_assignment (s : Setter b) : of? b s.assignment.1 s.assignment.2 = some s := by
  cases s with
  | digitsInteger n => simp [assignment, of?, count, count?_ofNat_toNat]
  | digitsFraction n => simp [assignment, of?, count, count?_ofNat_toNat]
  | _ => rfl

def number? : Setter b → Option Int
  | minValue n => some n.toInt
  | maxValue n => some n.toInt
  | digitsInteger n => some n.toNat
  | digitsFraction n => some n.toNat
  | sizeMin n => some n.toInt
  | sizeMax n => some n.toInt
  | lengthMin n => some n.toInt
  | lengthMax n => some n.toInt
  | rangeMin n => some n.toInt
  | rangeMax n => some n.toInt
  | _ => none

/-- The text that a setter is given for a decimal. -/
def decimal? : Setter b → Option String
  | decimalMinValue text => some text
  | decimalMaxValue text => some text
  | _ => none

def regexp? : Setter b → Option String
  | patternRegexp text => some text
  | emailRegexp text => some text
  | _ => none

theorem exists_int_of_number? {s : Setter b} {n : Int} (h : s.number? = some n) :
    ∃ i : Int64, s.assignment.2 = .int i ∧ i.toInt = n := by
  cases s with
  | decimalMinValue | decimalMinInclusive | decimalMaxValue | decimalMaxInclusive
  | patternRegexp | emailRegexp => cases h
  | digitsInteger k | digitsFraction k =>
    cases h
    exact ⟨_, rfl, toInt_ofNat_toNat k⟩
  | _ =>
    cases h
    exact ⟨_, rfl, rfl⟩

end Setter

/-- What can be set on a draft of a kind. A setter is called by the name that it is known by. -/
inductive Setting (b : Builtin) where
  | own (attr : String) (v : Value) (s : Setter b) (offered : Setter.of? b attr v = some s)
  | message (text : String)
  | groups (types : List TypeRef)
  | payload (types : List TypeRef)

namespace Setting

variable {b : Builtin}

def edit : Setting b → Edit
  | own attr v _ _ => .param attr v
  | message text => .message text
  | groups types => .groups types
  | payload types => .payload types

/-- Attributes are set by their setters. -/
def typedCall (on : String) : Setting b → Call
  | own attr v _ _ => .set on on attr v
  | x => .edit on on x.edit

/-- Attributes are set by their names. -/
def genericCall (on : String) (x : Setting b) : Call := .edit on on x.edit

def attr? : Setting b → Option String
  | own attr _ _ _ => some attr
  | _ => none

def number? : Setting b → Option Int
  | own _ _ s _ => s.number?
  | _ => none

def decimal? : Setting b → Option String
  | own _ _ s _ => s.decimal?
  | _ => none

def regexp? : Setting b → Option String
  | own _ _ s _ => s.regexp?
  | _ => none

theorem exists_own_of_param? {x : Setting b} {attr : String} {v : Value}
    (h : x.edit.param? attr = some v) : ∃ s offered, x = .own attr v s offered := by
  cases x with
  | own other w s offered =>
    simp only [edit, Edit.param?] at h
    split at h
    · rename_i hname
      subst hname
      cases h
      exact ⟨s, offered, rfl⟩
    · cases h
  | _ => cases h

theorem attr?_eq_some_iff {x : Setting b} {attr : String} :
    x.attr? = some attr ↔ ∃ v, x.edit.param? attr = some v := by
  constructor
  · intro h
    cases x with
    | own other v s offered =>
      cases h
      exact ⟨v, if_pos rfl⟩
    | _ => cases h
  · rintro ⟨v, h⟩
    obtain ⟨s, offered, rfl⟩ := exists_own_of_param? h
    rfl

theorem param?_eq_none {x : Setting b} {attr : String} (h : x.attr? ≠ some attr) :
    x.edit.param? attr = none := by
  cases hparam : x.edit.param? attr with
  | none => rfl
  | some v => exact absurd (attr?_eq_some_iff.mpr ⟨v, hparam⟩) h

theorem exists_int_of_number? {x : Setting b} {attr : String} {n : Int}
    (names : x.attr? = some attr) (hn : x.number? = some n) :
    ∃ i : Int64, x.edit.param? attr = some (.int i) ∧ i.toInt = n := by
  cases x with
  | own other v s offered =>
    cases names
    obtain ⟨i, hi, hin⟩ := Setter.exists_int_of_number? hn
    rw [Setter.assignment_of_of? offered] at hi
    cases hi
    exact ⟨i, if_pos rfl, hin⟩
  | _ => cases names

end Setting

section Settings

variable {b : Builtin} {p : Policy} {settings : List (Setting b)} {c : Constraint}

def lastText (get : Setting b → Option String) (settings : List (Setting b)) : Option String :=
  (settings.filterMap get).getLast?

/-- What a draft must have been given: every attribute that the kind requires, and last of all a
decimal where the kind wants one, and a readable pattern where patterns are read. -/
structure Acceptable (p : Policy) (settings : List (Setting b)) : Prop where
  complete : ∀ spec ∈ b.kind.attributes, spec.required = true →
    ∃ x ∈ settings, x.attr? = some spec.name
  decimal : ∀ text, lastText Setting.decimal? settings = some text →
    Decimal.isDecimalText text = true
  readable : p.validatePatterns = true → ∀ text, lastText Setting.regexp? settings = some text →
    ∃ e, Pattern.read text = .ok e

inductive Amiss (p : Policy) (settings : List (Setting b)) : Refusal → Prop where
  | incomplete {spec : AttrSpec} (declared : spec ∈ b.kind.attributes)
      (required : spec.required = true)
      (unset : ∀ x ∈ settings, x.attr? ≠ some spec.name) :
      Amiss p settings (.missingAttribute b.name spec.name)
  | noDecimal {text : String} (bound : b = .decimalMin ∨ b = .decimalMax)
      (last : lastText Setting.decimal? settings = some text)
      (fails : Decimal.isDecimalText text = false) :
      Amiss p settings (.invalidAttribute b.name "value" .decimal (.string text))
  | unreadable {text : String} {fault : Pattern.Fault} (matcher : b = .pattern ∨ b = .email)
      (validates : p.validatePatterns = true)
      (last : lastText Setting.regexp? settings = some text)
      (fails : Pattern.read text = .error fault) :
      Amiss p settings (.invalidPattern text fault)

theorem Amiss.not_acceptable {r : Refusal} (h : Amiss p settings r) : ¬Acceptable p settings := by
  intro acceptable
  cases h with
  | incomplete declared required unset =>
    obtain ⟨x, hmem, hname⟩ := acceptable.complete _ declared required
    exact unset x hmem hname
  | noDecimal bound last fails =>
    cases (acceptable.decimal _ last).symm.trans fails
  | unreadable matcher validates last fails =>
    obtain ⟨e, he⟩ := acceptable.readable validates _ last
    cases he.symm.trans fails

/-- How a setter agrees with the declaration of its attribute. Only the value of a decimal or of a
pattern is looked at any further, and then it is the only text that is set on drafts of the kind. -/
inductive Setter.Fits (s : Setter b) (spec : AttrSpec) : Prop where
  | plain (accepts : spec.type.accepts s.assignment.2 = true) (simple : spec.type ≠ .regex)
      (noDecimal : s.decimal? = none) (noRegexp : s.regexp? = none)
  | decimal {text : String} (bound : b = .decimalMin ∨ b = .decimalMax)
      (type : spec.type = .decimal) (assigns : s.assignment = ("value", .string text))
      (gives : s.decimal? = some text) (noRegexp : s.regexp? = none)
      (only : ∀ x : Setting b, x.edit.param? "value" = x.decimal?.map .string)
  | regexp {text : String} (matcher : b = .pattern ∨ b = .email) (type : spec.type = .regex)
      (assigns : s.assignment = ("regexp", .string text)) (noDecimal : s.decimal? = none)
      (gives : s.regexp? = some text)
      (only : ∀ x : Setting b, x.edit.param? "regexp" = x.regexp?.map .string)

theorem Setter.fits (s : Setter b) :
    ∃ spec, b.kind.spec? s.assignment.1 = some spec ∧ s.Fits spec := by
  cases s with
  | decimalMinValue | decimalMaxValue =>
    refine ⟨_, rfl, .decimal (by decide) rfl rfl rfl rfl ?_⟩
    rintro (⟨attr, v, s, offered⟩ | _ | _ | _)
    · have hassigns := assignment_of_of? offered
      cases s <;> cases hassigns <;> rfl
    all_goals rfl
  | patternRegexp | emailRegexp =>
    refine ⟨_, rfl, .regexp (by decide) rfl rfl rfl rfl ?_⟩
    rintro (⟨attr, v, s, offered⟩ | _ | _ | _)
    · have hassigns := assignment_of_of? offered
      cases s
      cases hassigns
      rfl
    all_goals rfl
  | _ => exact ⟨_, rfl, .plain rfl (by decide) rfl rfl⟩

theorem exists_of?_of_declared : ∀ spec ∈ b.kind.attributes,
    ∃ v ∈ [Value.int 0, .bool true, .string ""], (Setter.of? b spec.name v).isSome = true := by
  cases b <;> decide

/-- The setters of a kind go by the names of the attributes that it declares. -/
theorem exists_of?_iff {attr : String} :
    (∃ v s, Setter.of? b attr v = some s) ↔ ∃ spec ∈ b.kind.attributes, spec.name = attr := by
  constructor
  · rintro ⟨v, s, offered⟩
    obtain ⟨spec, hspec, -⟩ := s.fits
    rw [Setter.assignment_of_of? offered] at hspec
    obtain ⟨hmem, hname⟩ := Kind.spec?_name hspec
    exact ⟨spec, hmem, hname⟩
  · rintro ⟨spec, hmem, rfl⟩
    obtain ⟨v, -, hv⟩ := exists_of?_of_declared spec hmem
    exact ⟨v, Option.isSome_iff_exists.mp hv⟩

/-! ### Drafts and what they were given -/

theorem mem_of_lastText {get : Setting b → Option String} {text : String}
    (h : lastText get settings = some text) : ∃ x ∈ settings, get x = some text :=
  List.mem_filterMap.mp (List.mem_of_getLast? h)

theorem exists_param?_of_lastSet {name : String} {v : Value}
    (h : lastSet (Edit.param? name) (settings.map Setting.edit) = some v) :
    ∃ x ∈ settings, x.edit.param? name = some v := by
  obtain ⟨e, he, hparam⟩ := List.mem_filterMap.mp (List.mem_of_getLast? h)
  obtain ⟨x, hx, rfl⟩ := List.mem_map.mp he
  exact ⟨x, hx, hparam⟩

theorem exists_lastSet_of_attr? {x : Setting b} {name : String} (hx : x ∈ settings)
    (names : x.attr? = some name) :
    ∃ v, lastSet (Edit.param? name) (settings.map Setting.edit) = some v := by
  obtain ⟨v, hv⟩ := Setting.attr?_eq_some_iff.mp names
  apply Option.isSome_iff_exists.mp
  apply List.getLast?_isSome.mpr
  apply List.ne_nil_of_mem (a := v)
  exact List.mem_filterMap.mpr ⟨_, List.mem_map_of_mem hx, hv⟩

/-- Where one sort of text is all that is ever stored in an attribute, the last one is. -/
theorem lastSet_eq_lastText {name : String} {get : Setting b → Option String}
    (only : ∀ x : Setting b, x.edit.param? name = (get x).map .string) :
    lastSet (Edit.param? name) (settings.map Setting.edit) =
      (lastText get settings).map .string := by
  have hcomp : Edit.param? name ∘ Setting.edit = fun x : Setting b => (get x).map Value.string :=
    funext only
  unfold lastSet lastText
  rw [List.filterMap_map, hcomp, ← List.map_filterMap, List.getLast?_map]

section Holds

variable (holds : c.Holds b.name (settings.map Setting.edit))

include holds

theorem get?_eq_lastText {name : String} {get : Setting b → Option String}
    (only : ∀ x : Setting b, x.edit.param? name = (get x).map .string) :
    c.attributes.get? name = (lastText get settings).map .string := by
  rw [holds.attributes, lastSet_eq_lastText only]

theorem exists_fits_of_get? {name : String} {v : Value} (h : c.attributes.get? name = some v) :
    ∃ s : Setter b, s.assignment = (name, v) ∧
      ∃ spec, b.kind.spec? name = some spec ∧ s.Fits spec := by
  rw [holds.attributes] at h
  obtain ⟨x, -, hx⟩ := exists_param?_of_lastSet h
  obtain ⟨s, offered, rfl⟩ := Setting.exists_own_of_param? hx
  have hs := Setter.assignment_of_of? offered
  obtain ⟨spec, hspec, hfits⟩ := s.fits
  rw [hs] at hspec
  exact ⟨s, hs, spec, hspec, hfits⟩

theorem amiss_of_faulty {name : String} {v : Value} {r : Refusal}
    (held : c.attributes.get? name = some v) (fault : b.kind.Faulty p name v r) :
    Amiss p settings r := by
  obtain ⟨s, hs, spec, hspec, hfits⟩ := exists_fits_of_get? holds held
  rw [Kind.faulty_iff_of_spec?_eq_some hspec, kind_name] at fault
  cases hfits with
  | plain accepts simple _ _ =>
    rw [hs] at accepts
    rcases fault with ⟨rejects, -⟩ | ⟨-, regex, -⟩
    · cases accepts.symm.trans rejects
    · exact absurd regex simple
  | decimal bound type assigns gives _ only =>
    cases hs.symm.trans assigns
    rw [get?_eq_lastText holds only] at held
    obtain ⟨text, last, htext⟩ := Option.map_eq_some_iff.mp held
    cases htext
    rcases fault with ⟨rejects, rfl⟩ | ⟨-, regex, -⟩
    · rw [type] at rejects ⊢
      exact .noDecimal bound last rejects
    · cases type.symm.trans regex
  | regexp matcher type assigns _ gives only =>
    cases hs.symm.trans assigns
    rw [get?_eq_lastText holds only] at held
    obtain ⟨text, last, htext⟩ := Option.map_eq_some_iff.mp held
    cases htext
    rcases fault with ⟨rejects, -⟩ | ⟨validates, -, text, fault, heq, fails, rfl⟩
    · rw [type] at rejects
      cases rejects
    · cases heq
      exact .unreadable matcher validates last fails

theorem amiss_of_lacks {spec : AttrSpec} (h : b.kind.Lacks c.attributes spec) :
    Amiss p settings (.missingAttribute b.name spec.name) := by
  obtain ⟨earlier, later, hsplit, hrequired, hnone, -⟩ := h
  refine .incomplete (by simp [hsplit]) hrequired ?_
  intro x hmem hname
  obtain ⟨v, hv⟩ := exists_lastSet_of_attr? hmem hname
  rw [holds.attributes, hv] at hnone
  cases hnone

theorem acceptable_of_admits (admits : b.kind.Admits p c) : Acceptable p settings where
  complete spec hmem hrequired := by
    obtain ⟨v, hv⟩ := admits.required spec hmem hrequired
    rw [holds.attributes] at hv
    obtain ⟨x, hx, hparam⟩ := exists_param?_of_lastSet hv
    exact ⟨x, hx, Setting.attr?_eq_some_iff.mpr ⟨v, hparam⟩⟩
  decimal text last := by
    obtain ⟨x, -, hx⟩ := mem_of_lastText last
    cases x with
    | own _ _ s =>
      obtain ⟨spec, hspec, hfits⟩ := s.fits
      cases hfits with
      | plain _ _ noDecimal _ | regexp _ _ _ noDecimal _ _ => cases noDecimal.symm.trans hx
      | decimal bound type assigns _ _ only =>
        have hget : c.attributes.get? "value" = some (.string text) := by
          rw [get?_eq_lastText holds only, last]
          rfl
        rw [assigns] at hspec
        have haccepts := (admits.takes _ _ hget).typed _ hspec
        rw [type] at haccepts
        exact haccepts
    | _ => cases hx
  readable validates text last := by
    obtain ⟨x, -, hx⟩ := mem_of_lastText last
    cases x with
    | own _ _ s =>
      obtain ⟨spec, hspec, hfits⟩ := s.fits
      cases hfits with
      | plain _ _ _ noRegexp | decimal _ _ _ _ noRegexp _ => cases noRegexp.symm.trans hx
      | regexp matcher type assigns _ _ only =>
        have hget : c.attributes.get? "regexp" = some (.string text) := by
          rw [get?_eq_lastText holds only, last]
          rfl
        rw [assigns] at hspec
        obtain ⟨text', e, htext, he⟩ := (admits.takes _ _ hget).readable validates _ hspec type
        cases htext
        exact ⟨e, he⟩
    | _ => cases hx

/-- Of a draft whose attributes were set by their setters nothing else can be wrong. -/
theorem check_cases {catalog : Catalog} (known : catalog.find? b.name = some b.kind) :
    (catalog.check p c = .ok () ∧ Acceptable p settings) ∨
      ∃ r, catalog.check p c = .error r ∧ Amiss p settings r := by
  have hkind {k : Kind} (h : catalog.find? c.kind = some k) : k = b.kind := by
    rw [holds.kind, known] at h
    exact (Option.some.inj h).symm
  generalize hresult : catalog.check p c = result
  have hverdict := Catalog.check_eq_iff.mp hresult
  cases hverdict with
  | unsupported unknown =>
    rw [holds.kind, known] at unknown
    cases unknown
  | faulty known' held fault _ =>
    cases hkind known'
    exact .inr ⟨_, rfl, amiss_of_faulty holds held fault⟩
  | missing known' _ lacks =>
    cases hkind known'
    rw [kind_name]
    exact .inr ⟨_, rfl, amiss_of_lacks holds lacks⟩
  | valid known' _ _ =>
    obtain ⟨k, hk, hadmits⟩ := Catalog.check_eq_ok_iff.mp hresult
    cases hkind hk
    exact .inl ⟨rfl, acceptable_of_admits holds hadmits⟩

theorem exists_int_of_last {before after : List (Setting b)} {x : Setting b} {attr : String}
    {n : Int} (hsplit : settings = before ++ x :: after) (names : x.attr? = some attr)
    (last : ∀ later ∈ after, later.attr? ≠ some attr) (hn : x.number? = some n) :
    ∃ i : Int64, c.attributes.get? attr = some (.int i) ∧ i.toInt = n := by
  obtain ⟨i, hi, hin⟩ := Setting.exists_int_of_number? names hn
  refine ⟨i, ?_, hin⟩
  have hafter : (after.map Setting.edit).filterMap (Edit.param? attr) = [] := by
    rw [List.filterMap_eq_nil_iff]
    intro e he
    obtain ⟨later, hlater, rfl⟩ := List.mem_map.mp he
    exact Setting.param?_eq_none (last later hlater)
  rw [holds.attributes, hsplit]
  unfold lastSet
  rw [List.map_append, List.map_cons, List.filterMap_append, List.filterMap_cons_some hi, hafter,
    List.getLast?_concat]

end Holds

end Settings

end Builtin

open Builtin

namespace Session

variable {s : Session} {b : Builtin} {on as : String} {l : Location} {d : Draft}

theorem step_typedCall (held : s.handle? on = some (.draft d)) (offers : d.setters = some b)
    (x : Setting b) : s.step (x.typedCall on) = s.edit on on d x.edit := by
  cases x with
  | own attr v setter offered =>
    exact step_set held (Draft.setter?_eq_some_iff.mpr ⟨b, setter, offers, offered, rfl⟩)
  | _ => exact step_edit held _

theorem step_genericCall (held : s.handle? on = some (.draft d)) (x : Setting b) :
    s.step (x.genericCall on) = s.edit on on d x.edit :=
  step_edit held x.edit

/-- The setters of a built-in kind go by the names of its attributes, and each can be called with
every argument. A draft of the kind can be begun wherever there is a cursor, and its setters, the
message, the groups and the payload can always be set. It is then declared exactly if what was given
is acceptable, in the same way as a draft on which the attributes that the setters are named for are
set by name, and what is declared holds under each name what was set last, numbers unchanged. -/
theorem setters_agree (held : s.handle? on = some (.cursor l))
    (known : s.registry.catalog.find? b.name = some b.kind) (as : String)
    (settings : List (Setting b)) :
    let begin := Call.constraint on as (.builtin b)
    let p := s.registry.policy
    let typed := (s.run (begin :: settings.map (Setting.typedCall as))).step (.done as)
    let generic := (s.run (.generic on as b.name :: settings.map (Setting.genericCall as))).step
      (.done as)
    ((∀ attr, (∃ v x, Setter.of? b attr v = some x) ↔
        ∃ spec ∈ b.kind.attributes, spec.name = attr) ∧
      ∀ x : Setter b, ∃ attr v, Setter.of? b attr v = some x) ∧
      (s.step begin).2 = .ok (.handle (.draft ⟨l, .bare b.name, some b⟩)) ∧
      (∀ before x after, settings = before ++ x :: after → ∃ d,
        ((s.run (begin :: before.map (Setting.typedCall as))).step (x.typedCall as)).2 =
          .ok (.handle (.draft d))) ∧
      (typed.2 = .ok .done ↔ Acceptable p settings) ∧
      (¬Acceptable p settings → ∃ r, typed.2 = .error (.refused r) ∧ Amiss p settings r) ∧
      (typed.2 = generic.2 ∧ typed.1.registry = generic.1.registry) ∧
      (typed.2 = .ok .done → ∃ c, typed.1.registry =
          { s.registry with declarations := s.registry.declarations ++ [.constraint l c] } ∧
        c.Holds b.name (settings.map Setting.edit) ∧
        ∀ before x after attr n, settings = before ++ x :: after → x.attr? = some attr →
          (∀ later ∈ after, later.attr? ≠ some attr) → x.number? = some n →
            ∃ i : Int64, c.attributes.get? attr = some (.int i) ∧ i.toInt = n) := by
  intro begin p typed generic
  have hbegin : begin.begins? = some (on, as, b.name, some b) := rfl
  have htyped (xs : List (Setting b)) :=
    run_draft (Setting.typedCall as) Setting.edit hbegin held known step_typedCall xs
  have hbegin' : (Call.generic on as b.name).begins? = some (on, as, b.name, none) := rfl
  have hgeneric := run_draft (Setting.genericCall as) Setting.edit hbegin' held known
    (fun hd _ x => step_genericCall (b := b) hd x) settings
  have hedits (before : List (Setting b)) (x : Setting b) : ∃ d,
      ((s.run (begin :: before.map (Setting.typedCall as))).step (x.typedCall as)).2 =
        .ok (.handle (.draft d)) := by
    rw [step_typedCall (htyped before).1 rfl x]
    exact ⟨_, rfl⟩
  refine ⟨⟨fun _ => exists_of?_iff, fun x => ⟨_, _, x.of?_assignment⟩⟩,
    congrArg Prod.snd (step_begins rfl held known), fun before x _ _ => hedits before x, ?_⟩
  obtain ⟨htyped, htypedRegistry⟩ := htyped settings
  obtain ⟨hgeneric, hgenericRegistry⟩ := hgeneric
  -- Both drafts end up with the same constraint, and what becomes of it is up to the catalog.
  have hsame : typed.2 = generic.2 ∧ typed.1.registry = generic.1.registry :=
    step_done_congr htyped hgeneric rfl rfl (htypedRegistry.trans hgenericRegistry.symm)
  have holds := (Constraint.holds_bare b.name).foldl (settings.map Setting.edit)
  rw [List.nil_append] at holds
  rcases check_cases holds (p := p) known with ⟨passes, acceptable⟩ | ⟨r, fails, amiss⟩
  · have hdone : typed = _ := step_done_of_passes htyped (by rwa [htypedRegistry])
    have hreply : typed.2 = .ok .done := congrArg Prod.snd hdone
    refine ⟨iff_of_true hreply acceptable, fun h => absurd acceptable h, hsame, fun _ =>
      ⟨_, ?_, holds, ?_⟩⟩
    · rw [hdone, registry_record, registry_drop, htypedRegistry]
    · intro before x after attr n hsplit names last hn
      exact exists_int_of_last holds hsplit names last hn
  · have hdone : typed = _ := step_done_of_fails htyped (by rwa [htypedRegistry])
    have hreply : typed.2 = .error (.refused r) := congrArg Prod.snd hdone
    have hfails : typed.2 ≠ .ok .done := by
      rw [hreply]
      rintro ⟨⟩
    exact ⟨iff_of_false hfails amiss.not_acceptable, fun _ => ⟨r, hreply, amiss⟩, hsame,
      fun h => absurd h hfails⟩

def atLedger : Session := ((start (.new .strict)).step (.root ⟨"bank::Ledger", 0⟩ "ledger")).1

/-- One count is given twice, the second time as large as counts can be. -/
def ample : List (Setting .digits) :=
  [.own "fraction" (.int 2) (.digitsFraction 2) rfl, .own "integer" (.int 7) (.digitsInteger 7) rfl,
    .message "too many digits",
    .own "integer" (.int 4294967295) (.digitsInteger 4294967295) rfl]

/-- Two setters of the same type, side by side. -/
def bounded : List (Setting .size) :=
  [.own "max" (.int 3) (.sizeMax 3) rfl, .own "min" (.int (-1)) (.sizeMin (-1)) rfl,
    .own "max" (.int 9) (.sizeMax 9) rfl]

/-- The text that counts is the last one. -/
def spoilt : List (Setting .decimalMin) :=
  [.own "value" (.string " 10.50") (.decimalMinValue " 10.50") rfl,
    .own "inclusive" (.bool true) (.decimalMinInclusive true) rfl,
    .own "value" (.string "ten") (.decimalMinValue "ten") rfl]

theorem setters_agree_ledger :
    Acceptable .strict ample ∧
      (∃ c i, ((atLedger.run (.constraint "ledger" "draft" (.builtin .digits) ::
            ample.map (Setting.typedCall "draft"))).step (.done "draft")).1.registry.declarations =
          [.constraint (.bean ⟨"bank::Ledger", 0⟩) c] ∧
        c.attributes.get? "integer" = some (.int i) ∧ i.toInt = 4294967295) ∧
      (∃ c low high, ((atLedger.run [.constraint "ledger" "draft" (.builtin .size),
            .set "draft" "draft" "max" (.int 3), .set "draft" "draft" "min" (.int (-1)),
            .set "draft" "draft" "max" (.int 9)]).step (.done "draft")).1.registry.declarations =
          [.constraint (.bean ⟨"bank::Ledger", 0⟩) c] ∧
        c.attributes.get? "min" = some (.int low) ∧ low.toInt = -1 ∧
        c.attributes.get? "max" = some (.int high) ∧ high.toInt = 9) ∧
      ¬Acceptable .strict spoilt := by
  have held : atLedger.handle? "ledger" = some (.cursor (.bean ⟨"bank::Ledger", 0⟩)) := rfl
  obtain ⟨-, -, -, haccepts, -, -, hrecords⟩ := setters_agree (b := .digits) held rfl "draft" ample
  obtain ⟨-, -, -, -, -, -, hbounds⟩ := setters_agree (b := .size) held rfl "draft" bounded
  obtain ⟨-, -, -, hrejects, -, -, -⟩ := setters_agree (b := .decimalMin) held rfl "draft" spoilt
  refine ⟨haccepts.mp rfl, ?_, ?_, ?_⟩
  · obtain ⟨c, hregistry, -, hnumbers⟩ := hrecords rfl
    obtain ⟨i, hget, hi⟩ := hnumbers (ample.take 3) _ [] "integer" 4294967295 rfl rfl (by simp) rfl
    exact ⟨c, i, congrArg Registry.declarations hregistry, hget, hi⟩
  · obtain ⟨c, hregistry, -, hnumbers⟩ := hbounds rfl
    obtain ⟨low, hlow, hlow'⟩ := hnumbers (bounded.take 1) _ (bounded.drop 2) "min" (-1) rfl rfl
      (by simp [bounded, Setting.attr?]) rfl
    obtain ⟨high, hhigh, hhigh'⟩ := hnumbers (bounded.take 2) _ [] "max" 9 rfl rfl (by simp) rfl
    exact ⟨c, low, high, congrArg Registry.declarations hregistry, hlow, hlow', hhigh, hhigh'⟩
  · intro acceptable
    cases hrejects.mpr acceptable

end Session

end BeanRules
