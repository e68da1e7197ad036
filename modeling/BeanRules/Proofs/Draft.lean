import BeanRules.Proofs.Outcome

/-!
A draft holds what was set on it last. How often and in which order the rest was set leaves no
trace, so the edits of a draft matter only through `lastSet`. What becomes of it in the end is
settled by the constraint that it holds.
-/
namespace BeanRules

namespace Edit

def param? (name : String) : Edit → Option Value
  | param other v => if other = name then some v else none
  | _ => none

def message? : Edit → Option String
  | message text => some text
  | _ => none

def groups? : Edit → Option (List TypeRef)
  | groups types => some types
  | _ => none

def payload? : Edit → Option (List TypeRef)
  | payload types => some types
  | _ => none

end Edit

/-- Of the edits that set one thing, what the last one set it to. -/
def lastSet {α : Type} (get : Edit → Option α) (edits : List Edit) : Option α :=
  (edits.filterMap get).getLast?

@[simp] theorem lastSet_nil {α : Type} (get : Edit → Option α) : lastSet get [] = none := rfl

@[simp] theorem lastSet_append_singleton {α : Type} (get : Edit → Option α) (edits : List Edit)
    (e : Edit) : lastSet get (edits ++ [e]) = (get e).or (lastSet get edits) := by
  unfold lastSet
  rw [List.filterMap_append]
  cases h : get e with
  | none => simp [h]
  | some a => simp [h]

namespace Constraint

/-- The constraint of a kind after some edits: each attribute, the message, the groups and the
payload are what was set last, and absent if never set. -/
structure Holds (c : Constraint) (kind : String) (edits : List Edit) : Prop where
  kind : c.kind = kind
  attributes : ∀ name, c.attributes.get? name = lastSet (Edit.param? name) edits
  message : c.message = lastSet Edit.message? edits
  groups : c.groups = (lastSet Edit.groups? edits).getD []
  payload : c.payload = (lastSet Edit.payload? edits).getD []

theorem holds_bare (kind : String) : (bare kind).Holds kind [] where
  kind := rfl
  attributes _ := rfl
  message := rfl
  groups := rfl
  payload := rfl

theorem get?_attributes_withAttr (c : Constraint) (name other : String) (v : Value) :
    (c.withAttr name v).attributes.get? other =
      if name = other then some v else c.attributes.get? other := by
  unfold withAttr Attributes.get?
  rw [ByName.find?_insert]
  split <;> rfl

section Apply

variable (c : Constraint) (e : Edit)

theorem kind_apply : (e.apply c).kind = c.kind := by cases e <;> rfl

theorem get?_attributes_apply (name : String) :
    (e.apply c).attributes.get? name = (e.param? name).or (c.attributes.get? name) := by
  cases e with
  | param other v =>
    simp only [Edit.apply, Edit.param?, get?_attributes_withAttr]
    split <;> rfl
  | message | groups | payload => rfl

theorem message_apply : (e.apply c).message = e.message?.or c.message := by cases e <;> rfl

theorem groups_apply : (e.apply c).groups = e.groups?.getD c.groups := by cases e <;> rfl

theorem payload_apply : (e.apply c).payload = e.payload?.getD c.payload := by cases e <;> rfl

end Apply

theorem Holds.edit {c : Constraint} {kind : String} {edits : List Edit} (h : c.Holds kind edits)
    (e : Edit) : (e.apply c).Holds kind (edits ++ [e]) where
  kind := by rw [kind_apply, h.kind]
  attributes name := by rw [get?_attributes_apply, lastSet_append_singleton, h.attributes]
  message := by rw [message_apply, lastSet_append_singleton, h.message]
  groups := by
    rw [groups_apply, lastSet_append_singleton, h.groups]
    cases e.groups? <;> rfl
  payload := by
    rw [payload_apply, lastSet_append_singleton, h.payload]
    cases e.payload? <;> rfl

theorem Holds.foldl {c : Constraint} {kind : String} {edits : List Edit} (h : c.Holds kind edits)
    (more : List Edit) : (more.foldl Edit.apply c).Holds kind (edits ++ more) := by
  induction more generalizing c edits with
  | nil => rwa [List.append_nil]
  | cons e rest ih => simpa using ih (h.edit e)

end Constraint

namespace Session

variable {s : Session} {on as : String} {l : Location} {d : Draft}

theorem step_set {attr : String} {v : Value} {e : Edit} (held : s.handle? on = some (.draft d))
    (offered : d.setter? attr v = some e) : s.step (.set on as attr v) = s.edit on as d e := by
  simp only [step, onDraft, held, offered]

theorem step_edit (held : s.handle? on = some (.draft d)) (e : Edit) :
    s.step (.edit on as e) = s.edit on as d e := by
  simp only [step, onDraft, held]

/-- Calls that edit a draft in place change nothing else, and one after the other they all find it
again. -/
theorem run_edits {α : Type} (call : α → Call) (edit : α → Edit)
    (edits : ∀ {t : Session} {d' : Draft}, t.handle? on = some (.draft d') →
      d'.setters = d.setters → ∀ x, t.step (call x) = t.edit on on d' (edit x))
    (held : s.handle? on = some (.draft d)) (xs : List α) :
    (s.run (xs.map call)).handle? on =
        some (.draft { d with constraint := (xs.map edit).foldl Edit.apply d.constraint }) ∧
      (s.run (xs.map call)).registry = s.registry := by
  induction xs generalizing s d with
  | nil => exact ⟨held, rfl⟩
  | cons x rest ih =>
    rw [List.map_cons, run_cons, edits held rfl]
    exact ih (d := d.edit (edit x)) edits (by simp [Session.edit])

theorem step_begins {c : Call} {kind : String} {setters : Option Builtin} {k : Kind}
    (begins : c.begins? = some (on, as, kind, setters)) (held : s.handle? on = some (.cursor l))
    (known : s.registry.catalog.find? kind = some k) :
    s.step c = (s.put as (.draft ⟨l, .bare kind, setters⟩),
      .ok (.handle (.draft ⟨l, .bare kind, setters⟩))) := by
  cases c with
  | constraint | generic =>
    cases begins
    simp only [step, onCursor, held, begin, Catalog.resolve, known]
  | _ => cases begins

theorem step_done (held : s.handle? on = some (.draft d)) :
    s.step (.done on) = (s.drop on).addConstraint d.location d.constraint := by
  simp only [step, onDraft, held]

theorem step_done_of_passes (held : s.handle? on = some (.draft d))
    (passes : s.registry.catalog.check s.registry.policy d.constraint = .ok ()) :
    s.step (.done on) = ((s.drop on).record (.constraint d.location d.constraint), .ok .done) := by
  rw [step_done held, addConstraint_eq, registry_drop, passes]

theorem step_done_of_fails {r : Refusal} (held : s.handle? on = some (.draft d))
    (fails : s.registry.catalog.check s.registry.policy d.constraint = .error r) :
    s.step (.done on) = (s.drop on, .error (.refused r)) := by
  rw [step_done held, addConstraint_eq, registry_drop, fails]
  rfl

theorem reply_done_eq_ok_iff (held : s.handle? on = some (.draft d)) :
    (s.step (.done on)).2 = .ok .done ↔
      s.registry.catalog.check s.registry.policy d.constraint = .ok () := by
  cases hcheck : s.registry.catalog.check s.registry.policy d.constraint with
  | error r => simp [step_done_of_fails held hcheck]
  | ok u => simp [step_done_of_passes held hcheck]

theorem declarations_step_done (held : s.handle? on = some (.draft d))
    (ok : (s.step (.done on)).2 = .ok .done) :
    (s.step (.done on)).1.registry.declarations =
      s.registry.declarations ++ [.constraint d.location d.constraint] := by
  rw [step_done_of_passes held ((reply_done_eq_ok_iff held).mp ok), registry_record, registry_drop]

/-- What becomes of a draft is up to its location and its constraint, and not to the name it is kept
under or the setters it offers. -/
theorem step_done_congr {t : Session} {on' : String} {d' : Draft}
    (held : s.handle? on = some (.draft d)) (held' : t.handle? on' = some (.draft d'))
    (location : d.location = d'.location) (constraint : d.constraint = d'.constraint)
    (registry : s.registry = t.registry) :
    (s.step (.done on)).2 = (t.step (.done on')).2 ∧
      (s.step (.done on)).1.registry = (t.step (.done on')).1.registry := by
  cases hcheck : s.registry.catalog.check s.registry.policy d.constraint with
  | error r =>
    rw [step_done_of_fails held hcheck]
    rw [constraint, registry] at hcheck
    rw [step_done_of_fails held' hcheck]
    exact ⟨rfl, registry⟩
  | ok u =>
    rw [step_done_of_passes held hcheck]
    rw [constraint, registry] at hcheck
    rw [step_done_of_passes held' hcheck]
    simp only [registry_record, registry_drop, registry, location, constraint, and_self]

theorem run_draft {c : Call} {kind : String} {setters : Option Builtin} {k : Kind} {α : Type}
    (call : α → Call) (edit : α → Edit) (begins : c.begins? = some (on, as, kind, setters))
    (held : s.handle? on = some (.cursor l)) (known : s.registry.catalog.find? kind = some k)
    (edits : ∀ {t : Session} {d : Draft}, t.handle? as = some (.draft d) → d.setters = setters →
      ∀ x, t.step (call x) = t.edit as as d (edit x)) (xs : List α) :
    let t := s.run (c :: xs.map call)
    t.handle? as =
        some (.draft ⟨l, (xs.map edit).foldl Edit.apply (.bare kind), setters⟩) ∧
      t.registry = s.registry := by
  rw [run_cons, step_begins begins held known]
  exact run_edits (d := ⟨l, .bare kind, setters⟩) call edit edits (by simp) xs

end Session

end BeanRules
