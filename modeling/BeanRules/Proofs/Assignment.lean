import BeanRules.Proofs.Admission
import BeanRules.Proofs.ByteOrder
import BeanRules.Proofs.Draft
import BeanRules.Proofs.Isolation
import BeanRules.Proofs.Registration

/-!
A draft is what was last assigned to it. Assignments to it commute with calls on everything else, so
two scripts that end in the same assignments end in the same session, and whatever is asked of it
afterwards has the same answer. What a draft cannot lose is its kind.
-/
namespace BeanRules

structure SameLast (es fs : List Edit) : Prop where
  param : ∀ name, lastSet (Edit.param? name) es = lastSet (Edit.param? name) fs
  message : lastSet Edit.message? es = lastSet Edit.message? fs
  groups : lastSet Edit.groups? es = lastSet Edit.groups? fs
  payload : lastSet Edit.payload? es = lastSet Edit.payload? fs

namespace Attributes

theorem eq_of_get? {a b : Attributes} (h : ∀ name, a.get? name = b.get? name) : a = b := by
  have hfind (c : Attributes) (name : String) (e : String × Value) :
      c.find? name = some e ↔ e.1 = name ∧ c.get? name = some e.2 := by
    rw [ByName.find?_eq_some_iff, get?_eq_some_iff]
    constructor
    · rintro ⟨hmem, rfl⟩
      exact ⟨rfl, hmem⟩
    · rintro ⟨rfl, hmem⟩
      exact ⟨hmem, rfl⟩
  apply ByName.eq_of_find?
  intro name
  ext e
  rw [hfind, hfind, h]

end Attributes

namespace Constraint

/-- A constraint after some edits of an earlier one: each thing is what was set last, and what it was
before if never set. -/
structure Reassigned (before : Constraint) (edits : List Edit) (c : Constraint) : Prop where
  kind : c.kind = before.kind
  attributes : ∀ name, c.attributes.get? name =
    (lastSet (Edit.param? name) edits).or (before.attributes.get? name)
  message : c.message = (lastSet Edit.message? edits).or before.message
  groups : c.groups = (lastSet Edit.groups? edits).getD before.groups
  payload : c.payload = (lastSet Edit.payload? edits).getD before.payload

variable {before c c' : Constraint} {es fs : List Edit}

theorem reassigned_nil (c : Constraint) : Reassigned c [] c where
  kind := rfl
  attributes _ := rfl
  message := rfl
  groups := rfl
  payload := rfl

theorem Reassigned.edit (h : Reassigned before es c) (e : Edit) :
    Reassigned before (es ++ [e]) (e.apply c) where
  kind := by rw [kind_apply, h.kind]
  attributes name := by
    rw [get?_attributes_apply, lastSet_append_singleton, h.attributes, Option.or_assoc]
  message := by rw [message_apply, lastSet_append_singleton, h.message, Option.or_assoc]
  groups := by
    rw [groups_apply, lastSet_append_singleton, h.groups]
    cases e.groups? <;> rfl
  payload := by
    rw [payload_apply, lastSet_append_singleton, h.payload]
    cases e.payload? <;> rfl

theorem reassigned_foldl (c : Constraint) (es : List Edit) :
    Reassigned c es (es.foldl Edit.apply c) := by
  induction es using List.reverseRecOn with
  | nil => exact reassigned_nil c
  | append_singleton es e ih =>
    rw [List.foldl_append, List.foldl_cons, List.foldl_nil]
    exact ih.edit e

/-- A constraint is determined by what was last assigned to it. -/
theorem Reassigned.eq (h : Reassigned before es c) (h' : Reassigned before fs c')
    (same : SameLast es fs) : c = c' := by
  have hattributes : c.attributes = c'.attributes := by
    apply Attributes.eq_of_get?
    intro name
    rw [h.attributes, h'.attributes, same.param]
  have hkind := h.kind.trans h'.kind.symm
  have hmessage := h.message
  rw [same.message, ← h'.message] at hmessage
  have hgroups := h.groups
  rw [same.groups, ← h'.groups] at hgroups
  have hpayload := h.payload
  rw [same.payload, ← h'.payload] at hpayload
  cases c
  cases c'
  simp_all

theorem foldl_apply_congr (c : Constraint) (same : SameLast es fs) :
    es.foldl Edit.apply c = fs.foldl Edit.apply c :=
  (reassigned_foldl c es).eq (reassigned_foldl c fs) same

end Constraint

theorem Catalog.check_ne_unsupportedKind {catalog : Catalog} {c : Constraint} {k : Kind}
    (known : catalog.find? c.kind = some k) (p : Policy) (kind : String) :
    catalog.check p c ≠ .error (.unsupportedKind kind) := by
  intro hcheck
  generalize hr : Except.error (Refusal.unsupportedKind kind) = result at hcheck
  cases check_eq_iff.mp hcheck with
  | unsupported unknown =>
    rw [known] at unknown
    cases unknown
  | faulty _ _ fault =>
    cases hr
    cases fault
  | missing | valid => cases hr

namespace Call

/-- What a call sets on the draft under a name, and the name it hands the draft on to. -/
def hands? (d : Draft) (name : String) : Call → Option (String × Edit)
  | set on as attr value => if on = name then (d.setter? attr value).map (as, ·) else none
  | edit on as e => if on = name then some (as, e) else none
  | _ => none

def sets? (d : Draft) (name : String) (c : Call) : Option Edit :=
  (c.hands? d name).bind fun (as, e) => if as = name then some e else none

theorem hands?_eq_of_sets? {d : Draft} {name : String} {c : Call} {e : Edit}
    (h : c.sets? d name = some e) : c.hands? d name = some (name, e) := by
  obtain ⟨⟨as, e'⟩, hhands, he⟩ := Option.bind_eq_some_iff.mp h
  dsimp only at he
  split at he
  next has =>
    cases he
    rw [hhands, has]
  next => cases he

end Call

namespace Session

variable {s t : Session} {name other on as : String} {d : Draft} {x : Handle} {c : Call}

section Put

/-! Something that is kept under a name is not noticed by calls that do not mention the name. -/

theorem put_put (s : Session) (name : String) (x y : Handle) :
    (s.put name x).put name y = s.put name y := by
  have hhandles : (s.handles.insert (name, x)).insert (name, y) = s.handles.insert (name, y) := by
    apply ByName.eq_of_find?
    intro key
    simp only [ByName.find?_insert]
    split <;> rfl
  unfold put
  rw [hhandles]

theorem put_comm (s : Session) (h : name ≠ other) (x y : Handle) :
    (s.put name x).put other y = (s.put other y).put name x := by
  unfold put
  rw [ByName.insert_comm s.handles h]

theorem put_eq_self (h : s.handle? name = some x) : s.put name x = s := by
  obtain ⟨⟨name', x'⟩, hfind, rfl⟩ := Option.map_eq_some_iff.mp h
  cases ByName.name_of_find? hfind
  unfold put
  rw [ByName.insert_eq_self hfind]

theorem drop_put (s : Session) (name : String) (x : Handle) :
    (s.drop name).put name x = s.put name x := by
  unfold drop put
  rw [ByName.insert_erase s.handles (name, x)]

theorem put_drop_of_ne (s : Session) (h : name ≠ other) (x : Handle) :
    (s.put name x).drop other = (s.drop other).put name x := by
  unfold drop put
  rw [ByName.erase_insert_of_ne s.handles h]

def Step.keeping (step : Step) (name : String) (x : Handle) : Step := (step.1.put name x, step.2)

theorem onCursor_put (h : name ≠ on) {k k' : Location → Step}
    (hk : ∀ l, k' l = (k l).keeping name x) :
    (s.put name x).onCursor on k' = (s.onCursor on k).keeping name x := by
  unfold onCursor
  rw [handle?_put, if_neg h]
  split
  · rfl
  · exact hk _
  · rfl

theorem onDraft_put (h : name ≠ on) {k k' : Draft → Step}
    (hk : ∀ d, k' d = (k d).keeping name x) :
    (s.put name x).onDraft on k' = (s.onDraft on k).keeping name x := by
  unfold onDraft
  rw [handle?_put, if_neg h]
  split
  · rfl
  · exact hk _
  · rfl

theorem move_put (h : name ≠ as) (l : Location) (m : Move) :
    (s.put name x).move as l m = (s.move as l m).keeping name x := by
  unfold move
  rw [registry_put]
  split
  · rfl
  · rfl
  · rw [s.put_comm h]
    cases m.event? _ <;> rfl

theorem begin_put (h : name ≠ as) (l : Location) (kind : String) (setters : Option Builtin) :
    (s.put name x).begin as l kind setters = (s.begin as l kind setters).keeping name x := by
  unfold begin
  rw [registry_put]
  split
  · rfl
  · dsimp only
    rw [s.put_comm h]
    rfl

theorem edit_put (hon : name ≠ on) (has : name ≠ as) (d : Draft) (e : Edit) :
    (s.put name x).edit on as d e = (s.edit on as d e).keeping name x := by
  unfold edit
  dsimp only
  rw [s.put_drop_of_ne hon, (s.drop on).put_comm has]
  rfl

theorem addConstraint_put (l : Location) (c : Constraint) :
    (s.put name x).addConstraint l c = (s.addConstraint l c).keeping name x := by
  unfold addConstraint
  rw [registry_put]
  split <;> rfl

theorem setGroups_put (bean : TypeRef) (groups : List TypeRef) (reply : Reply) :
    (s.put name x).setGroups bean groups reply =
      (s.setGroups bean groups reply).keeping name x := by
  unfold setGroups
  rw [registry_put]
  split <;> rfl

theorem step_put (h : name ∉ c.names) (x : Handle) :
    (s.put name x).step c = (s.step c).keeping name x := by
  cases c with
  | root bean as =>
    have has : name ≠ as := List.ne_of_not_mem_cons h
    simp only [step, s.put_comm has]
    rfl
  | move on as m =>
    obtain ⟨hon, has⟩ : name ≠ on ∧ name ≠ as := by simpa [Call.names] using h
    exact onCursor_put hon fun l => move_put has l m
  | constraint on as kind =>
    obtain ⟨hon, has⟩ : name ≠ on ∧ name ≠ as := by simpa [Call.names] using h
    exact onCursor_put hon fun l => begin_put has l kind.name kind.builtin?
  | generic on as kind =>
    obtain ⟨hon, has⟩ : name ≠ on ∧ name ≠ as := by simpa [Call.names] using h
    exact onCursor_put hon fun l => begin_put has l kind none
  | set on as attr value =>
    obtain ⟨hon, has⟩ : name ≠ on ∧ name ≠ as := by simpa [Call.names] using h
    apply onDraft_put hon
    intro d
    cases d.setter? attr value with
    | none => rfl
    | some e => exact edit_put hon has d e
  | edit on as e =>
    obtain ⟨hon, has⟩ : name ≠ on ∧ name ≠ as := by simpa [Call.names] using h
    exact onDraft_put hon fun d => edit_put hon has d e
  | done on =>
    have hon : name ≠ on := List.ne_of_not_mem_cons h
    apply onDraft_put hon
    intro d
    rw [s.put_drop_of_ne hon]
    exact addConstraint_put d.location d.constraint
  | valid on =>
    apply onCursor_put (List.ne_of_not_mem_cons h)
    intro l
    cases l <;> rfl
  | groups on groups =>
    apply onCursor_put (List.ne_of_not_mem_cons h)
    intro l
    cases l with
    | bean bean => exact setGroups_put bean groups .same
    | _ => rfl
  | addConstraint l c => exact addConstraint_put l c
  | addCascade l => rfl
  | setGroups bean groups => exact setGroups_put bean groups .done

end Put

section Tend

def elsewhere (name : String) (script : List Call) : List Call :=
  script.filter fun c => name ∉ c.names

def assigned (d : Draft) (name : String) (script : List Call) : List Edit :=
  script.filterMap (Call.sets? d name)

/-- A script that does nothing with the draft under a name but set something on it. -/
def Tends (d : Draft) (name : String) (script : List Call) : Prop :=
  ∀ c ∈ script, name ∈ c.names → (c.sets? d name).isSome = true

theorem step_of_hands? {e : Edit} (held : s.handle? on = some (.draft d))
    (h : c.hands? d on = some (as, e)) : s.step c = s.edit on as d e := by
  cases c with
  | set on' as' attr value =>
    simp only [Call.hands?] at h
    split at h
    next hon =>
      obtain ⟨e', hsetter, h⟩ := Option.map_eq_some_iff.mp h
      cases h
      subst hon
      exact step_set held hsetter
    next => cases h
  | edit on' as' e' =>
    simp only [Call.hands?] at h
    split at h
    next hon =>
      cases h
      subst hon
      exact step_edit held e
    next => cases h
  | _ => cases h

theorem mem_names_of_hands? {e : Edit} (h : c.hands? d name = some (as, e)) : name ∈ c.names := by
  cases c with
  | set on | edit on =>
    simp only [Call.hands?] at h
    split at h
    next hon => simp [Call.names, hon]
    next => cases h
  | _ => cases h

theorem hands?_congr {d' : Draft} (h : d.setters = d'.setters) (name : String) :
    Call.hands? d name = Call.hands? d' name := by
  funext c
  cases c with
  | set => simp only [Call.hands?, Draft.setter?, h]
  | _ => rfl

theorem sets?_congr {d' : Draft} (h : d.setters = d'.setters) (name : String) :
    Call.sets? d name = Call.sets? d' name := by
  funext c
  simp only [Call.sets?, hands?_congr h]

/-- What is set on a draft could as well be set on it once everything else is done. The induction is
on the script; a call on something else commutes with the draft. -/
theorem run_put_draft {script : List Call} (tends : Tends d name script) :
    (s.put name (.draft d)).run script = (s.run (elsewhere name script)).put name
      (.draft { d with constraint := (assigned d name script).foldl Edit.apply d.constraint }) := by
  induction script generalizing s d with
  | nil => rfl
  | cons c rest ih =>
    have tendsRest := fun c' hc' => tends c' (List.mem_cons_of_mem c hc')
    rw [run_cons]
    by_cases hname : name ∈ c.names
    · obtain ⟨e, he⟩ := Option.isSome_iff_exists.mp (tends c List.mem_cons_self hname)
      have held : (s.put name (.draft d)).handle? name = some (.draft d) := by simp
      have helsewhere : elsewhere name (c :: rest) = elsewhere name rest := by
        simp [elsewhere, hname]
      have hassigned : assigned d name (c :: rest) = e :: assigned d name rest := by
        simp [assigned, he]
      have hsets : Call.sets? (d.edit e) name = Call.sets? d name := sets?_congr rfl name
      have hrest : assigned (d.edit e) name rest = assigned d name rest := by
        simp only [assigned, hsets]
      have htends : Tends (d.edit e) name rest := by
        intro c' hc' hmem
        rw [hsets]
        exact tendsRest c' hc' hmem
      rw [step_of_hands? held (Call.hands?_eq_of_sets? he), helsewhere, hassigned, edit]
      dsimp only
      rw [drop_put, put_put, ih htends, hrest]
      rfl
    · have hnone : c.sets? d name = none := by
        cases he : c.sets? d name with
        | none => rfl
        | some e => exact absurd (mem_names_of_hands? (Call.hands?_eq_of_sets? he)) hname
      have helsewhere : elsewhere name (c :: rest) = c :: elsewhere name rest := by
        simp [elsewhere, hname]
      have hassigned : assigned d name (c :: rest) = assigned d name rest := by
        simp [assigned, hnone]
      rw [step_put hname, helsewhere, hassigned]
      exact ih tendsRest

/-- Calls one after the other that each set something on a draft and hand it on, from a first name to
a last one. -/
inductive Chain (d : Draft) : String → List Call → String → List Edit → Prop where
  | nil (on : String) : Chain d on [] on []
  | cons {on as last : String} {c : Call} {e : Edit} {rest : List Call} {es : List Edit}
      (hands : c.hands? d on = some (as, e)) (more : Chain d as rest last es) :
      Chain d on (c :: rest) last (e :: es)

theorem run_chain {last : String} {script : List Call} {es : List Edit}
    (chain : Chain d on script last es) {before : Draft} (setters : before.setters = d.setters)
    (held : s.handle? on = some (.draft before)) :
    (s.run script).handle? last =
        some (.draft { before with constraint := es.foldl Edit.apply before.constraint }) ∧
      (s.run script).registry = s.registry := by
  induction chain generalizing s before with
  | nil on => exact ⟨held, rfl⟩
  | @cons on as last c e rest es hands more ih =>
    have hhands : c.hands? before on = some (as, e) := by rw [hands?_congr setters, hands]
    rw [run_cons, step_of_hands? held hhands]
    exact ih (show (before.edit e).setters = d.setters from setters) (by simp [edit])

end Tend

section Known

def Resolved (s : Session) : Prop :=
  ∀ name d, s.handle? name = some (.draft d) →
    s.registry.catalog.contains d.constraint.kind = true

namespace Resolved

theorem drop (h : s.Resolved) (name : String) : (s.drop name).Resolved := by
  intro other d held
  rw [handle?_drop] at held
  split at held
  · cases held
  · exact h other d held

theorem put (h : s.Resolved) (name : String)
    (hx : ∀ d, x = .draft d → s.registry.catalog.contains d.constraint.kind = true) :
    (s.put name x).Resolved := by
  intro other d held
  rw [handle?_put] at held
  split at held
  · exact hx d (Option.some.inj held)
  · exact h other d held

theorem putCursor (h : s.Resolved) (name : String) (l : Location) :
    (s.put name (.cursor l)).Resolved := by
  apply h.put
  rintro d ⟨⟩

theorem logged (h : s.Resolved) (e : Option Event) : (s.logged e).Resolved := by
  cases e <;> exact h

theorem step (h : s.Resolved) (c : Call) : (s.step c).1.Resolved := by
  have happens := s.step_outcome c
  generalize (s.step c).1 = t, (s.step c).2 = r at happens
  cases happens with
  | failed => exact h
  | rooted bean as => exact h.putCursor as (.bean bean)
  | moved => exact (h.putCursor _ _).logged _
  | @begun _ on as kind setters l k begins held known =>
    apply h.put
    rintro d ⟨⟩
    exact ByName.contains_iff.mpr ⟨k, Catalog.resolve_eq_ok_iff.mp known⟩
  | @edited _ on as e d edits held =>
    apply (h.drop on).put
    rintro d' ⟨⟩
    have hkind : (d.edit e).constraint.kind = d.constraint.kind := d.constraint.kind_apply e
    rw [registry_drop, hkind]
    exact h on d held
  | completed => exact h.drop _
  | refused => exact h.drop _
  | cascaded | cascadeAdded | constraintAdded | sequenced | groupsSet => exact h

theorem registerKind (h : s.Resolved) (k : Kind) : (s.registerKind k).Resolved := by
  intro name d held
  obtain ⟨k', hk'⟩ := ByName.contains_iff.mp (h name d held)
  apply ByName.contains_iff.mpr
  by_cases hname : k.name = d.constraint.kind
  · exact ⟨k, (ByName.find?_insert _ _ _).trans (if_pos hname)⟩
  · exact ⟨k', (Catalog.find?_register_of_ne _ hname).trans hk'⟩

theorem step_done (h : s.Resolved) (on kind : String) :
    (s.step (.done on)).2 ≠ .error (.refused (.unsupportedKind kind)) := by
  intro hrefused
  cases held : s.handle? on with
  | none => simp [Session.step, onDraft, held, fail] at hrefused
  | some x =>
    cases x with
    | cursor l => simp [Session.step, onDraft, held, fail] at hrefused
    | draft d =>
      cases hcheck : s.registry.catalog.check s.registry.policy d.constraint with
      | ok u => simp [step_done_of_passes held hcheck] at hrefused
      | error r =>
        rw [step_done_of_fails held hcheck] at hrefused
        cases hrefused
        obtain ⟨k, hk⟩ := ByName.contains_iff.mp (h on d held)
        exact Catalog.check_ne_unsupportedKind hk _ _ hcheck

end Resolved

theorem resolved_serveAll (p : Policy) (catalog : Catalog) (requests : List Request) :
    ((start (.empty p catalog)).serveAll requests).Resolved := by
  induction requests using List.reverseRecOn with
  | nil =>
    rintro name d ⟨⟩
  | append_singleton requests q ih =>
    rw [serveAll_append_singleton]
    cases q with
    | register k => exact ih.registerKind k
    | call c => exact ih.step c

end Known

/-- A draft on which some things were set is held under a name, each attribute once and in the order
of the bytes of the names. -/
def Assigned (t : Session) (name : String) (d : Draft) (es : List Edit) : Prop :=
  ∃ c, t.handle? name = some (.draft { d with constraint := c }) ∧
    Constraint.Reassigned d.constraint es c ∧
      (c.attributes.names.map Text.utf8).Pairwise (· < ·)

/-- Completing two drafts comes to the same: the answer, what is declared, and the text that the
mapping is exported as. They are the same draft, which is accepted just if its kind admits it as it
was assigned, and then declared at the place it was begun at. -/
structure DoneAlike (t : Session) (on : String) (u : Session) (on' : String) : Prop where
  reply : (t.step (.done on)).2 = (u.step (.done on')).2
  declarations : (t.step (.done on)).1.registry.declarations =
    (u.step (.done on')).1.registry.declarations
  exports : (t.step (.done on)).1.registry.freeze.map (·.json.pretty) =
    (u.step (.done on')).1.registry.freeze.map (·.json.pretty)
  declares : ∃ d, t.handle? on = some (.draft d) ∧ u.handle? on' = some (.draft d) ∧
    ((t.step (.done on)).2 = .ok .done ↔
      t.registry.catalog.Admits t.registry.policy d.constraint) ∧
    ((t.step (.done on)).2 = .ok .done → (t.step (.done on)).1.registry.declarations =
      t.registry.declarations ++ [.constraint d.location d.constraint])

theorem assigned_of_held {es : List Edit} (held : s.handle? name =
    some (.draft { d with constraint := es.foldl Edit.apply d.constraint })) :
    s.Assigned name d es := by
  refine ⟨_, held, Constraint.reassigned_foldl d.constraint es, ?_⟩
  exact List.pairwise_map.mpr ((ByName.names_ascending _).imp Text.utf8_lt_iff.mpr)

theorem doneAlike_of_held (held : s.handle? on = some (.draft d))
    (held' : t.handle? as = some (.draft d)) (registry : s.registry = t.registry) :
    s.DoneAlike on t as := by
  obtain ⟨hreply, hregistry⟩ := step_done_congr held held' rfl rfl registry
  have haccepts := (reply_done_eq_ok_iff held).trans Catalog.check_eq_ok_iff
  exact ⟨hreply, by rw [hregistry], by rw [hregistry], d, held, held', haccepts,
    declarations_step_done held⟩

/-- A draft is what was set on it last, whatever was set before, in whichever order, under whichever
names it was handed on, and whatever else was called in between. Scripts that set the same things
last and do the same besides end in the same session, so the draft is then completed, declared and
exported alike. However a session came about, a draft is never refused for its kind, since no call
takes a kind out of the catalog. -/
theorem assignments_settled (held : s.handle? name = some (.draft d)) :
    (∀ xs, Tends d name xs → (s.run xs).Assigned name d (assigned d name xs)) ∧
      (∀ xs ys, Tends d name xs → Tends d name ys → elsewhere name xs = elsewhere name ys →
        SameLast (assigned d name xs) (assigned d name ys) →
          s.run xs = s.run ys ∧ (s.run xs).DoneAlike name (s.run ys) name) ∧
      (∀ xs last es, Chain d name xs last es → (s.run xs).Assigned last d es) ∧
      (∀ xs last es ys last' fs, Chain d name xs last es → Chain d name ys last' fs →
        SameLast es fs → (s.run xs).handle? last = (s.run ys).handle? last' ∧
          (s.run xs).DoneAlike last (s.run ys) last') ∧
      ∀ p catalog requests,
        let t := (start (.empty p catalog)).serveAll requests
        (∀ c, (t.step c).1.registry.catalog = t.registry.catalog) ∧
          (∀ on d, t.handle? on = some (.draft d) →
            t.registry.catalog.contains d.constraint.kind = true) ∧
          ∀ on kind, (t.step (.done on)).2 ≠ .error (.refused (.unsupportedKind kind)) := by
  have hrun {xs : List Call} (tends : Tends d name xs) : s.run xs = (s.run (elsewhere name xs)).put
      name (.draft { d with constraint := (assigned d name xs).foldl Edit.apply d.constraint }) := by
    have hput := s.run_put_draft tends
    rwa [put_eq_self held] at hput
  have hheld {xs : List Call} (tends : Tends d name xs) : (s.run xs).handle? name =
      some (.draft { d with constraint := (assigned d name xs).foldl Edit.apply d.constraint }) := by
    rw [hrun tends, handle?_put, if_pos rfl]
  refine ⟨fun xs tends => assigned_of_held (hheld tends), ?_, ?_, ?_, ?_⟩
  · intro xs ys tends tends' others same
    have hsame : s.run xs = s.run ys := by
      rw [hrun tends, hrun tends', others, d.constraint.foldl_apply_congr same]
    refine ⟨hsame, ?_⟩
    rw [← hsame]
    exact doneAlike_of_held (hheld tends) (hheld tends) rfl
  · intro xs last es chain
    exact assigned_of_held (run_chain chain rfl held).1
  · intro xs last es ys last' fs chain chain' same
    obtain ⟨hlast, hregistry⟩ := run_chain chain rfl held
    obtain ⟨hlast', hregistry'⟩ := run_chain chain' rfl held
    rw [← d.constraint.foldl_apply_congr same] at hlast'
    exact ⟨hlast.trans hlast'.symm,
      doneAlike_of_held hlast hlast' (hregistry.trans hregistry'.symm)⟩
  · intro p catalog requests t
    have hresolved : t.Resolved := resolved_serveAll p catalog requests
    exact ⟨catalog_step t, hresolved, hresolved.step_done⟩

def atSize : Session :=
  (start (.empty .strict .builtin)).run
    [.root ⟨"shop::Order", 0⟩ "order", .constraint "order" "size" (.builtin .size)]

def sizeDraft : Draft := ⟨.bean ⟨"shop::Order", 0⟩, .bare "Size", some .size⟩

/-- The greater limit is set twice, and in between a cursor goes elsewhere. -/
def hesitant : List Call :=
  [.set "size" "size" "max" (.int 3), .edit "size" "size" (.message "short"),
    .root ⟨"shop::Line", 0⟩ "line", .set "size" "size" "min" (.int 1),
    .edit "size" "size" (.param "max" (.int 9))]

def decided : List Call :=
  [.set "size" "size" "min" (.int 1), .set "size" "size" "max" (.int 9),
    .root ⟨"shop::Line", 0⟩ "line", .edit "size" "size" (.message "short")]

def handed : List Call :=
  [.edit "size" "limits" (.message "short"), .set "limits" "bounds" "max" (.int 9),
    .set "bounds" "limits" "min" (.int 1)]

theorem sameLast_hesitant_decided :
    SameLast (assigned sizeDraft "size" hesitant) (assigned sizeDraft "size" decided) where
  param attr := by
    change lastSet _ [.param "max" (.int 3), .message "short", .param "min" (.int 1),
      .param "max" (.int 9)] = lastSet _ [.param "min" (.int 1), .param "max" (.int 9),
        .message "short"]
    by_cases hmax : "max" = attr
    · subst hmax
      rfl
    · by_cases hmin : "min" = attr
      · subst hmin
        rfl
      · simp [lastSet, Edit.param?, hmax, hmin]
  message := rfl
  groups := rfl
  payload := rfl

theorem assignments_settled_hesitant :
    atSize.run hesitant = atSize.run decided ∧
      (atSize.run hesitant).Assigned "size" sizeDraft (assigned sizeDraft "size" hesitant) ∧
      (∃ es, (atSize.run handed).Assigned "limits" sizeDraft es ∧
        (atSize.run handed).handle? "limits" = (atSize.run hesitant).handle? "size") ∧
      ((atSize.run hesitant).step (.done "size")).2 = .ok .done ∧
      ∃ d, (atSize.run decided).handle? "size" = some (.draft d) ∧
        d.constraint.attributes.get? "max" = some (.int 9) ∧
        ((atSize.run hesitant).step (.done "size")).1.registry.declarations =
          [.constraint (.bean ⟨"shop::Order", 0⟩) d.constraint] := by
  have held : atSize.handle? "size" = some (.draft sizeDraft) := rfl
  obtain ⟨hassigned, hsettled, hchain, -, -⟩ := assignments_settled held
  have htends : Tends sizeDraft "size" hesitant := by unfold Tends; decide
  have htends' : Tends sizeDraft "size" decided := by unfold Tends; decide
  have hhanded : Chain sizeDraft "size" handed "limits" _ :=
    .cons rfl (.cons rfl (.cons rfl (.nil _)))
  obtain ⟨hsame, halike⟩ :=
    hsettled hesitant decided htends htends' rfl sameLast_hesitant_decided
  refine ⟨hsame, hassigned _ htends, ⟨_, hchain _ _ _ hhanded, rfl⟩, rfl, ?_⟩
  obtain ⟨d, hheld, hheld', -, hdeclares⟩ := halike.declares
  cases hheld
  exact ⟨_, hheld', rfl, hdeclares rfl⟩

end Session

end BeanRules
