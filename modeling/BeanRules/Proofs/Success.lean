import BeanRules.Proofs.Check
import BeanRules.Proofs.Draft
import BeanRules.Proofs.Placement
import BeanRules.Proofs.Sequences

/-!
Which calls succeed. `Succeeds` says it without the program: a move succeeds if it leads to a
well-formed place, a draft can be begun of every known kind and edited whenever it is held, and
completed if its kind admits it. No call fails that is in the relation, and none that is not in it
succeeds.
-/
namespace BeanRules

namespace Location

variable {p : Policy} {l l' : Location} {m : Move}

theorem move?_of_destination? (leads : l.destination? m = some l') (placed : l'.WellFormed p) :
    l.move? p m = some (.ok l') := by
  cases m with
  | bean | stay =>
    cases leads
    rfl
  | property name access =>
    cases leads
    have hname : Text.isBlankText name = false := Text.isBlankText_eq_false_iff.mpr placed
    simp only [move?, toProperty, hname, Bool.false_eq_true, if_false]
  | method name parameterTypes =>
    simp only [destination?] at leads
    split at leads
    · rename_i hname
      cases leads
      simp only [move?, toMethod_eq, hname, dite_true]
    · cases leads
  | parameter index =>
    obtain ⟨s, hs, rfl⟩ := Option.map_eq_some_iff.mp leads
    have hindex : ¬(p.indexCheck = .eager ∧ s.arity ≤ index) :=
      fun h => Nat.not_le_of_lt (placed.2 index rfl h.1) h.2
    simp only [move?, hs, Option.map_some, toParameter_eq, if_neg hindex]
  | returnValue =>
    obtain ⟨s, hs, rfl⟩ := Option.map_eq_some_iff.mp leads
    simp only [move?, hs, Option.map_some]

theorem move?_eq_ok_iff (h : l.WellFormed p) :
    l.move? p m = some (.ok l') ↔ l.destination? m = some l' ∧ l'.WellFormed p :=
  ⟨fun leads => ⟨destination?_of_move? leads, wellFormed_move h leads⟩,
    fun leads => move?_of_destination? leads.1 leads.2⟩

end Location

theorem Call.location?_of_isFluent {c : Call} (h : c.isFluent = true) : c.location? = none := by
  cases c with
  | addConstraint | addCascade => cases h
  | _ => rfl

namespace Session

variable {s : Session} {on as : String} {c : Call} {r : Reply} {d : Draft}

/-- The calls on cursors and drafts that succeed, with their answers. -/
inductive Succeeds (s : Session) : Call → Reply → Prop where
  | root (bean : TypeRef) (as : String) :
      Succeeds s (.root bean as) (.handle (.cursor (.bean bean)))
  | move {on as : String} {m : Move} {l l' : Location} (held : s.handle? on = some (.cursor l))
      (leads : l.destination? m = some l') (placed : l'.WellFormed s.registry.policy) :
      Succeeds s (.move on as m) (.handle (.cursor l'))
  | begin {c : Call} {on as kind : String} {setters : Option Builtin} {l : Location}
      (begins : c.begins? = some (on, as, kind, setters)) (held : s.handle? on = some (.cursor l))
      (known : s.registry.catalog.contains kind = true) :
      Succeeds s c (.handle (.draft ⟨l, .bare kind, setters⟩))
  | set {on as attr : String} {v : Value} {d : Draft} {b : Builtin}
      (held : s.handle? on = some (.draft d)) (offers : d.setters = some b)
      (offered : (Builtin.Setter.of? b attr v).isSome = true) :
      Succeeds s (.set on as attr v) (.handle (.draft (d.edit (.param attr v))))
  | edit {on as : String} {d : Draft} (held : s.handle? on = some (.draft d)) (e : Edit) :
      Succeeds s (.edit on as e) (.handle (.draft (d.edit e)))
  | done {on : String} {d : Draft} (held : s.handle? on = some (.draft d))
      (admits : s.registry.catalog.Admits s.registry.policy d.constraint) :
      Succeeds s (.done on) .done
  | valid {on : String} {l : Location} (held : s.handle? on = some (.cursor l))
      (inside : ∀ bean, l ≠ .bean bean) : Succeeds s (.valid on) .same
  | groups {on : String} {bean : TypeRef} {groups : List TypeRef}
      (held : s.handle? on = some (.cursor (.bean bean))) (present : groups ≠ [])
      (distinct : groups.Nodup) : Succeeds s (.groups on groups) .same

theorem step_valid {l : Location} (held : s.handle? on = some (.cursor l))
    (inside : ∀ bean, l ≠ .bean bean) :
    s.step (.valid on) = (s.record (.cascade l), .ok .same) := by
  simp only [step, onCursor, held]
  cases l with
  | bean b => exact absurd rfl (inside b)
  | property | method => rfl

theorem Succeeds.reply (h : s.Succeeds c r) : (s.step c).2 = .ok r := by
  cases h with
  | root => rfl
  | move held leads placed => rw [reply_move held, Location.move?_of_destination? leads placed]
  | begin begins held known =>
    obtain ⟨k, hk⟩ := ByName.contains_iff.mp known
    rw [step_begins begins held hk]
  | set held offers offered =>
    obtain ⟨x, hx⟩ := Option.isSome_iff_exists.mp offered
    rw [step_set held (Draft.setter?_eq_some_iff.mpr ⟨_, x, offers, hx, rfl⟩)]
    rfl
  | edit held e =>
    rw [step_edit held]
    rfl
  | done held admits => rw [step_done_of_passes held (Catalog.check_eq_ok_iff.mpr admits)]
  | valid held inside => rw [step_valid held inside]
  | groups held present distinct =>
    simp only [step, onCursor, held, setGroups_eq,
      Registry.checkGroups_eq_ok_iff.mpr ⟨present, distinct⟩]

theorem succeeds_of_reply (placed : s.WellPlaced) (fluent : c.isFluent = true)
    (h : (s.step c).2 = .ok r) : s.Succeeds c r := by
  have happens := s.step_outcome c
  rw [h] at happens
  generalize (s.step c).1 = t at happens
  cases happens with
  | rooted bean as => exact .root bean as
  | moved held leads =>
    obtain ⟨hleads, hplaced⟩ := (Location.move?_eq_ok_iff (placed.handles held)).mp leads
    exact .move held hleads hplaced
  | begun begins held known =>
    exact .begin begins held (ByName.contains_iff.mpr ⟨_, Catalog.resolve_eq_ok_iff.mp known⟩)
  | @edited c on as e d edits held =>
    cases c with
    | edit =>
      cases edits
      exact .edit held e
    | set on as attr v =>
      cases edits
      cases hsetter : d.setter? attr v with
      | none => simp [step, onDraft, held, hsetter, fail] at h
      | some e =>
        obtain ⟨b, x, hoffers, hoffered, -⟩ := Draft.setter?_eq_some_iff.mp hsetter
        exact .set held hoffers (Option.isSome_iff_exists.mpr ⟨x, hoffered⟩)
    | _ => cases edits
  | completed held passes => exact .done held (Catalog.check_eq_ok_iff.mp passes)
  | cascaded held inside => exact .valid held inside
  | sequenced held passes =>
    obtain ⟨hsome, hdistinct⟩ := Registry.checkGroups_eq_ok_iff.mp passes
    exact .groups held hsome hdistinct
  | constraintAdded | cascadeAdded | groupsSet => cases fluent

/-- Nothing keeps a call from succeeding but what `Succeeds` says. -/
theorem reply_eq_ok_iff (placed : s.WellPlaced) (fluent : c.isFluent = true) :
    (s.step c).2 = .ok r ↔ s.Succeeds c r :=
  ⟨succeeds_of_reply placed fluent, Succeeds.reply⟩

end Session

end BeanRules
