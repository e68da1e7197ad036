import BeanRules.Scenario

/-!
What one call can come to. Every property of whole scripts is an induction whose step is a case
analysis of `Outcome`, so nothing else has to open `Session.step`.
-/
namespace BeanRules

def Registry.empty (p : Policy) (catalog : Catalog) : Registry := ⟨p, catalog, [], []⟩

def Declaration.event : Declaration → Event
  | constraint l c => .constraintDeclared c.kind l
  | cascade l => .cascadeDeclared l

namespace Call

/-- The calls that go through a cursor or a draft, and not directly to the registry. -/
def isFluent : Call → Bool
  | addConstraint .. | addCascade _ | setGroups .. => false
  | _ => true

def declares : Call → Bool
  | done _ | valid _ | addConstraint .. | addCascade _ => true
  | _ => false

/-- The cursor that a draft is begun on, the name it is stored under, its kind and its setters. -/
def begins? : Call → Option (String × String × String × Option Builtin)
  | constraint on as kind => some (on, as, kind.name, kind.builtin?)
  | generic on as kind => some (on, as, kind, none)
  | _ => none

/-- The draft that is edited, the name it is stored under, and what is set on it. A setter of a kind
sets the attribute that it is known by. -/
def edits? : Call → Option (String × String × Edit)
  | set on as attr value => some (on, as, .param attr value)
  | edit on as e => some (on, as, e)
  | _ => none

def names : Call → List String
  | root _ as => [as]
  | move on as _ => [on, as]
  | constraint on as _ => [on, as]
  | generic on as _ => [on, as]
  | set on as _ _ => [on, as]
  | edit on as _ => [on, as]
  | done on => [on]
  | valid on => [on]
  | groups on _ => [on]
  | addConstraint .. => []
  | addCascade _ => []
  | setGroups .. => []

def as? : Call → Option String
  | root _ as => some as
  | move _ as _ => some as
  | constraint _ as _ => some as
  | generic _ as _ => some as
  | set _ as _ _ => some as
  | edit _ as _ => some as
  | _ => none

theorem declares_of_begins {c : Call} {on as kind : String} {setters : Option Builtin}
    (h : c.begins? = some (on, as, kind, setters)) : c.declares = false := by
  cases c with
  | constraint | generic => rfl
  | _ => cases h

theorem declares_of_edits {c : Call} {on as : String} {e : Edit}
    (h : c.edits? = some (on, as, e)) : c.declares = false := by
  cases c with
  | set | edit => rfl
  | _ => cases h

theorem names_of_begins {c : Call} {on as kind : String} {setters : Option Builtin}
    (h : c.begins? = some (on, as, kind, setters)) : c.names = [on, as] := by
  cases c with
  | constraint | generic =>
    cases h
    rfl
  | _ => cases h

theorem names_of_edits {c : Call} {on as : String} {e : Edit}
    (h : c.edits? = some (on, as, e)) : c.names = [on, as] := by
  cases c with
  | set | edit =>
    cases h
    rfl
  | _ => cases h

theorem as?_of_begins {c : Call} {on as kind : String} {setters : Option Builtin}
    (h : c.begins? = some (on, as, kind, setters)) : c.as? = some as := by
  cases c with
  | constraint | generic =>
    cases h
    rfl
  | _ => cases h

theorem as?_of_edits {c : Call} {on as : String} {e : Edit}
    (h : c.edits? = some (on, as, e)) : c.as? = some as := by
  cases c with
  | set | edit =>
    cases h
    rfl
  | _ => cases h

end Call

theorem Builtin.Setter.count_of_count? {n : Int64} {k : UInt32} (h : count? n = some k) :
    count k = .int n := by
  unfold count? at h
  split at h
  · rename_i hn
    cases h
    unfold count
    congr 1
    apply Int64.toInt_inj.mp
    have hsize : n.toInt.toNat < UInt32.size := by omega
    rw [UInt32.toNat_ofNat_of_lt' hsize]
    have hlt : n.toInt.toNat < 2 ^ 63 := by
      have : UInt32.size = 4294967296 := rfl
      omega
    rw [Int64.toInt_ofNat_of_lt hlt]
    omega
  · contradiction

theorem Builtin.Setter.assignment_of_of? {b : Builtin} {attr : String} {v : Value} {s : Setter b}
    (h : Setter.of? b attr v = some s) : s.assignment = (attr, v) := by
  unfold Setter.of? at h
  split at h
  case h_7 | h_8 =>
    obtain ⟨k, hk, rfl⟩ := Option.map_eq_some_iff.mp h
    simp [assignment, count_of_count? hk]
  case h_17 => contradiction
  all_goals
    cases h
    rfl

/-- A draft offers the setters of its kind, and each sets the attribute that it is known by. -/
theorem Draft.setter?_eq_some_iff {d : Draft} {attr : String} {v : Value} {e : Edit} :
    d.setter? attr v = some e ↔ ∃ b s, d.setters = some b ∧
      Builtin.Setter.of? b attr v = some s ∧ e = .param attr v := by
  unfold Draft.setter?
  constructor
  · intro h
    obtain ⟨b, hoffers, h⟩ := Option.bind_eq_some_iff.mp h
    obtain ⟨s, hoffered, h⟩ := Option.bind_eq_some_iff.mp h
    rw [Builtin.Setter.assignment_of_of? hoffered] at h
    exact ⟨b, s, hoffers, hoffered, (Option.some.inj h).symm⟩
  · rintro ⟨b, s, hoffers, hoffered, rfl⟩
    simp [hoffers, hoffered, Builtin.Setter.assignment_of_of? hoffered]

namespace Session

def logged (s : Session) (e : Option Event) : Session := e.elim s s.note

def record (s : Session) (d : Declaration) : Session :=
  { s with
    registry := { s.registry with declarations := s.registry.declarations ++ [d] }
    log := s.log ++ [d.event] }

def withGroups (s : Session) (bean : TypeRef) (groups : List TypeRef) : Session :=
  { s with
    registry := { s.registry with sequences := s.registry.sequences.set bean groups }
    log := s.log ++ [.groupsSet bean groups.length] }

section Views

variable (s : Session) (name other : String) (h : Handle) (d : Declaration) (e : Option Event)
  (bean : TypeRef) (groups : List TypeRef)

@[simp] theorem registry_put : (s.put name h).registry = s.registry := rfl
@[simp] theorem registry_drop : (s.drop name).registry = s.registry := rfl
@[simp] theorem registry_logged : (s.logged e).registry = s.registry := by cases e <;> rfl

@[simp] theorem registry_record : (s.record d).registry =
    { s.registry with declarations := s.registry.declarations ++ [d] } := rfl

@[simp] theorem registry_withGroups : (s.withGroups bean groups).registry =
    { s.registry with sequences := s.registry.sequences.set bean groups } := rfl

@[simp] theorem handle?_logged : (s.logged e).handle? other = s.handle? other := by
  cases e <;> rfl

@[simp] theorem handle?_record : (s.record d).handle? other = s.handle? other := rfl

@[simp] theorem handle?_withGroups :
    (s.withGroups bean groups).handle? other = s.handle? other := rfl

@[simp] theorem handle?_put :
    (s.put name h).handle? other = if name = other then some h else s.handle? other := by
  unfold handle? put
  rw [ByName.find?_insert]
  split <;> rfl

@[simp] theorem handle?_drop :
    (s.drop name).handle? other = if name = other then none else s.handle? other := by
  unfold handle? drop
  rw [ByName.find?_erase]
  split <;> rfl

end Views

/-- What a call does to a session, and its answer. -/
inductive Outcome (s : Session) : Call → Session → Except Failure Reply → Prop where
  | failed (c : Call) (f : Failure) : Outcome s c s (.error f)
  | rooted (bean : TypeRef) (as : String) :
      Outcome s (.root bean as) (s.put as (.cursor (.bean bean)))
        (.ok (.handle (.cursor (.bean bean))))
  | moved {on as : String} {m : Move} {l l' : Location}
      (held : s.handle? on = some (.cursor l))
      (leads : l.move? s.registry.policy m = some (.ok l')) :
      Outcome s (.move on as m) ((s.put as (.cursor l')).logged (m.event? l'))
        (.ok (.handle (.cursor l')))
  | begun {c : Call} {on as kind : String} {setters : Option Builtin} {l : Location} {k : Kind}
      (begins : c.begins? = some (on, as, kind, setters))
      (held : s.handle? on = some (.cursor l))
      (known : s.registry.catalog.resolve kind = .ok k) :
      Outcome s c (s.put as (.draft ⟨l, .bare kind, setters⟩))
        (.ok (.handle (.draft ⟨l, .bare kind, setters⟩)))
  | edited {c : Call} {on as : String} {e : Edit} {d : Draft}
      (edits : c.edits? = some (on, as, e))
      (held : s.handle? on = some (.draft d)) :
      Outcome s c ((s.drop on).put as (.draft (d.edit e))) (.ok (.handle (.draft (d.edit e))))
  | completed {on : String} {d : Draft}
      (held : s.handle? on = some (.draft d))
      (passes : s.registry.catalog.check s.registry.policy d.constraint = .ok ()) :
      Outcome s (.done on) ((s.drop on).record (.constraint d.location d.constraint)) (.ok .done)
  /-- A draft is used up even if its constraint is refused. -/
  | refused {on : String} {d : Draft} {r : Refusal}
      (held : s.handle? on = some (.draft d))
      (fails : s.registry.catalog.check s.registry.policy d.constraint = .error r) :
      Outcome s (.done on) (s.drop on) (.error (.refused r))
  | cascaded {on : String} {l : Location}
      (held : s.handle? on = some (.cursor l)) (inside : ∀ bean, l ≠ .bean bean) :
      Outcome s (.valid on) (s.record (.cascade l)) (.ok .same)
  | sequenced {on : String} {bean : TypeRef} {groups : List TypeRef}
      (held : s.handle? on = some (.cursor (.bean bean)))
      (passes : Registry.checkGroups bean groups = .ok ()) :
      Outcome s (.groups on groups) (s.withGroups bean groups) (.ok .same)
  | constraintAdded {l : Location} {c : Constraint}
      (passes : s.registry.catalog.check s.registry.policy c = .ok ()) :
      Outcome s (.addConstraint l c) (s.record (.constraint l c)) (.ok .done)
  | cascadeAdded (l : Location) : Outcome s (.addCascade l) (s.record (.cascade l)) (.ok .done)
  | groupsSet {bean : TypeRef} {groups : List TypeRef}
      (passes : Registry.checkGroups bean groups = .ok ()) :
      Outcome s (.setGroups bean groups) (s.withGroups bean groups) (.ok .done)

theorem onCursor_induct {s : Session} {on : String} {k : Location → Step} {P : Step → Prop}
    (fails : ∀ f, P (s.fail f)) (holds : ∀ l, s.handle? on = some (.cursor l) → P (k l)) :
    P (s.onCursor on k) := by
  unfold onCursor
  split
  · exact fails _
  · rename_i l h
    exact holds l h
  · exact fails _

theorem onDraft_induct {s : Session} {on : String} {k : Draft → Step} {P : Step → Prop}
    (fails : ∀ f, P (s.fail f)) (holds : ∀ d, s.handle? on = some (.draft d) → P (k d)) :
    P (s.onDraft on k) := by
  unfold onDraft
  split
  · exact fails _
  · rename_i d h
    exact holds d h
  · exact fails _

theorem move_eq (s : Session) (as : String) (l : Location) (m : Move) :
    s.move as l m =
      match l.move? s.registry.policy m with
      | none => s.fail .misuse
      | some (.error r) => s.fail (.refused r)
      | some (.ok l') =>
        ((s.put as (.cursor l')).logged (m.event? l'), .ok (.handle (.cursor l'))) := by
  unfold move
  cases l.move? s.registry.policy m with
  | none => rfl
  | some result =>
    cases result with
    | error r => rfl
    | ok l' => rfl

theorem addConstraint_eq (s : Session) (l : Location) (c : Constraint) :
    s.addConstraint l c =
      match s.registry.catalog.check s.registry.policy c with
      | .error r => s.fail (.refused r)
      | .ok () => (s.record (.constraint l c), .ok .done) := by
  unfold addConstraint Registry.addConstraint
  cases s.registry.catalog.check s.registry.policy c <;> rfl

theorem setGroups_eq (s : Session) (bean : TypeRef) (groups : List TypeRef) (reply : Reply) :
    s.setGroups bean groups reply =
      match Registry.checkGroups bean groups with
      | .error r => s.fail (.refused r)
      | .ok () => (s.withGroups bean groups, .ok reply) := by
  unfold setGroups Registry.setDefaultGroups
  cases Registry.checkGroups bean groups <;> rfl

theorem outcome_begin {s : Session} {c : Call} {on as kind : String} {setters : Option Builtin}
    {l : Location} (begins : c.begins? = some (on, as, kind, setters))
    (held : s.handle? on = some (.cursor l)) :
    Outcome s c (s.begin as l kind setters).1 (s.begin as l kind setters).2 := by
  unfold begin
  split
  · exact .failed c _
  · rename_i known
    exact .begun begins held known

theorem outcome_edit {s : Session} {c : Call} {on as : String} {e : Edit} {d : Draft}
    (edits : c.edits? = some (on, as, e)) (held : s.handle? on = some (.draft d)) :
    Outcome s c (s.edit on as d e).1 (s.edit on as d e).2 :=
  .edited edits held

theorem step_outcome (s : Session) (c : Call) : Outcome s c (s.step c).1 (s.step c).2 := by
  cases c with
  | root bean as => exact .rooted bean as
  | move on as m =>
    apply onCursor_induct (P := fun x => Outcome s _ x.1 x.2) (fun f => .failed _ f)
    intro l held
    rw [move_eq]
    split
    · exact .failed _ _
    · exact .failed _ _
    · rename_i leads
      exact .moved held leads
  | constraint on as kind =>
    apply onCursor_induct (P := fun x => Outcome s _ x.1 x.2) (fun f => .failed _ f)
    intro l held
    exact outcome_begin rfl held
  | generic on as kind =>
    apply onCursor_induct (P := fun x => Outcome s _ x.1 x.2) (fun f => .failed _ f)
    intro l held
    exact outcome_begin rfl held
  | set on as attr value =>
    apply onDraft_induct (P := fun x => Outcome s _ x.1 x.2) (fun f => .failed _ f)
    intro d held
    split
    · exact .failed _ _
    · rename_i e h
      obtain ⟨_, _, _, _, rfl⟩ := Draft.setter?_eq_some_iff.mp h
      exact outcome_edit rfl held
  | edit on as e =>
    apply onDraft_induct (P := fun x => Outcome s _ x.1 x.2) (fun f => .failed _ f)
    intro d held
    exact outcome_edit rfl held
  | done on =>
    apply onDraft_induct (P := fun x => Outcome s _ x.1 x.2) (fun f => .failed _ f)
    intro d held
    rw [addConstraint_eq]
    split
    · rename_i fails
      exact .refused held fails
    · rename_i passes
      exact .completed held passes
  | valid on =>
    apply onCursor_induct (P := fun x => Outcome s _ x.1 x.2) (fun f => .failed _ f)
    intro l held
    split
    · exact .failed _ _
    · rename_i inside
      exact .cascaded held inside
  | groups on groups =>
    apply onCursor_induct (P := fun x => Outcome s _ x.1 x.2) (fun f => .failed _ f)
    intro l held
    split
    · rw [setGroups_eq]
      split
      · exact .failed _ _
      · rename_i passes
        exact .sequenced held passes
    · exact .failed _ _
  | addConstraint l c =>
    have h : s.step (.addConstraint l c) = s.addConstraint l c := rfl
    rw [h, addConstraint_eq]
    split
    · exact .failed _ _
    · rename_i passes
      exact .constraintAdded passes
  | addCascade l => exact .cascadeAdded l
  | setGroups bean groups =>
    have h : s.step (.setGroups bean groups) = s.setGroups bean groups .done := rfl
    rw [h, setGroups_eq]
    split
    · exact .failed _ _
    · rename_i passes
      exact .groupsSet passes

/-- A call appends at most one declaration, and no constraint that the catalog does not accept. -/
theorem declarations_step (s : Session) (c : Call) :
    if c.declares && (s.step c).2.isOk then
      ∃ d, (s.step c).1.registry.declarations = s.registry.declarations ++ [d] ∧
        ∀ l x, d = .constraint l x → s.registry.catalog.check s.registry.policy x = .ok ()
    else (s.step c).1.registry.declarations = s.registry.declarations := by
  have happens := s.step_outcome c
  generalize (s.step c).1 = t, (s.step c).2 = r at happens
  cases happens with
  | failed | refused => simp [Except.isOk, Except.toBool]
  | rooted | sequenced | groupsSet => rfl
  | moved => simp [Call.declares]
  | begun begins => simp [Call.declares_of_begins begins]
  | edited edits => simp [Call.declares_of_edits edits]
  | completed held passes =>
    refine ⟨_, rfl, ?_⟩
    rintro l x ⟨⟩
    exact passes
  | constraintAdded passes =>
    refine ⟨_, rfl, ?_⟩
    rintro l x ⟨⟩
    exact passes
  | cascaded => exact ⟨_, rfl, fun _ _ => nofun⟩
  | cascadeAdded => exact ⟨_, rfl, fun _ _ => nofun⟩

theorem registry_step_of_failed {s : Session} {c : Call} {f : Failure}
    (h : (s.step c).2 = .error f) : (s.step c).1.registry = s.registry := by
  have happens := s.step_outcome c
  rw [h] at happens
  generalize (s.step c).1 = t at happens
  cases happens with
  | failed => rfl
  | refused => rfl

theorem handle?_step_of_failed {s : Session} {c : Call} {f : Failure} {name : String}
    (h : (s.step c).2 = .error f) (hname : c ≠ .done name) :
    (s.step c).1.handle? name = s.handle? name := by
  have happens := s.step_outcome c
  rw [h] at happens
  generalize (s.step c).1 = t at happens
  cases happens with
  | failed => rfl
  | @refused on =>
    have hne : on ≠ name := fun heq => hname (congrArg Call.done heq)
    rw [handle?_drop, if_neg hne]

theorem handle?_step_of_not_mem {s : Session} {c : Call} {name : String} (h : name ∉ c.names) :
    (s.step c).1.handle? name = s.handle? name := by
  have happens := s.step_outcome c
  generalize (s.step c).1 = t, (s.step c).2 = r at happens
  cases happens with
  | rooted | moved => simp_all [Call.names, eq_comm]
  | begun begins => simp_all [Call.names_of_begins begins, eq_comm]
  | edited edits => simp_all [Call.names_of_edits edits, eq_comm]
  | completed | refused => simp_all [Call.names, eq_comm]
  | _ => rfl

theorem handle?_step_of_handed {s : Session} {c : Call} {x : Handle}
    (h : (s.step c).2 = .ok (.handle x)) :
    ∃ as, c.as? = some as ∧ (s.step c).1.handle? as = some x := by
  have happens := s.step_outcome c
  rw [h] at happens
  generalize (s.step c).1 = t at happens
  cases happens with
  | rooted bean as => exact ⟨as, rfl, by simp⟩
  | moved => exact ⟨_, rfl, by simp⟩
  | begun begins => exact ⟨_, Call.as?_of_begins begins, by simp⟩
  | edited edits => exact ⟨_, Call.as?_of_edits edits, by simp⟩

theorem policy_step (s : Session) (c : Call) : (s.step c).1.registry.policy = s.registry.policy :=
  (s.extendedBy_step c).policy

theorem catalog_step (s : Session) (c : Call) :
    (s.step c).1.registry.catalog = s.registry.catalog :=
  (s.extendedBy_step c).catalog

@[simp] theorem run_nil (s : Session) : s.run [] = s := rfl

@[simp] theorem run_cons (s : Session) (c : Call) (script : List Call) :
    s.run (c :: script) = (s.step c).1.run script := rfl

theorem run_append (s : Session) (first second : List Call) :
    s.run (first ++ second) = (s.run first).run second := List.foldl_append

theorem run_induct {P : Session → Prop} {s : Session} {script : List Call} (start : P s)
    (preserved : ∀ t c, c ∈ script → P t → P (t.step c).1) : P (s.run script) := by
  induction script generalizing s with
  | nil => exact start
  | cons c rest ih =>
    rw [run_cons]
    apply ih
    · exact preserved s c List.mem_cons_self start
    · intro t c' hc'
      exact preserved t c' (List.mem_cons_of_mem c hc')

theorem policy_run (s : Session) (script : List Call) :
    (s.run script).registry.policy = s.registry.policy := by
  apply run_induct (P := fun t => t.registry.policy = s.registry.policy) rfl
  intro t c _ ht
  rw [policy_step, ht]

end Session

end BeanRules
