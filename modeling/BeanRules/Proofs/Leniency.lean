import BeanRules.Proofs.Placement

/-!
A session under a laxer policy follows the same session under a stricter one, up to the first call
that the stricter one refuses for what the laxer one does not look at. The two runs are compared
as one run and its copy under the other policy: `withPolicy` of each state is what they must reach.
-/
namespace BeanRules

/-- The refusals that a laxer policy may not give. -/
def Refusal.dependsOnPolicy : Refusal → Bool
  | unknownAttribute .. | invalidPattern .. | indexOutOfRange .. => true
  | _ => false

def Failure.dependsOnPolicy : Failure → Bool
  | refused r => r.dependsOnPolicy
  | _ => false

/-- The second result is the first, unless the first is one of certain refusals. -/
def AgreeUnless {α : Type} (lapse : Refusal → Prop) (x y : Except Refusal α) : Prop :=
  y = x ∨ ∃ r, x = .error r ∧ lapse r

/-- What the attribute checks of `p` refuse and those of `q` let pass. -/
structure Policy.Lapses (q p : Policy) (lapse : Refusal → Prop) : Prop where
  attributes : q.strictAttributes = p.strictAttributes ∨
    q.strictAttributes = false ∧ ∀ kind attr, lapse (.unknownAttribute kind attr)
  patterns : q.validatePatterns = p.validatePatterns ∨
    q.validatePatterns = false ∧ ∀ text fault, lapse (.invalidPattern text fault)

theorem Policy.Relaxes.lapses {q p : Policy} (h : q.Relaxes p) :
    q.Lapses p fun r => r.dependsOnPolicy = true := by
  obtain ⟨hattributes, hpatterns, -⟩ := h
  constructor
  · cases hq : q.strictAttributes with
    | false => exact .inr ⟨rfl, fun _ _ => rfl⟩
    | true => exact .inl (hattributes hq).symm
  · cases hq : q.validatePatterns with
    | false => exact .inr ⟨rfl, fun _ _ => rfl⟩
    | true => exact .inl (hpatterns hq).symm

namespace AgreeUnless

variable {α β : Type} {lapse : Refusal → Prop} {p q : Policy}

theorem refl (x : Except Refusal α) : AgreeUnless lapse x x := .inl rfl

theorem bind {x y : Except Refusal α} {f g : α → Except Refusal β} (h : AgreeUnless lapse x y)
    (hf : ∀ a, AgreeUnless lapse (f a) (g a)) : AgreeUnless lapse (x >>= f) (y >>= g) := by
  rcases h with rfl | ⟨r, rfl, hr⟩
  · cases y with
    | error r => exact .refl _
    | ok a => exact hf a
  · exact .inr ⟨r, rfl, hr⟩

theorem checkAttribute (h : q.Lapses p lapse) (k : Kind) (name : String) (v : Value) :
    AgreeUnless lapse (k.checkAttribute p name v) (k.checkAttribute q name v) := by
  unfold Kind.checkAttribute
  cases k.spec? name with
  | none =>
    rcases h.attributes with hq | ⟨hq, hlapse⟩
    · rw [hq]
      exact .refl _
    · simp only [hq, Bool.false_eq_true, if_false]
      split
      · exact .inr ⟨_, rfl, hlapse _ _⟩
      · exact .refl _
  | some spec =>
    dsimp only
    split
    · rcases h.patterns with hq | ⟨hq, hlapse⟩
      · rw [hq]
        exact .refl _
      · simp only [hq, Bool.false_eq_true, and_false, if_false]
        split
        · split
          · unfold Kind.checkPattern
            split
            · exact .refl _
            · exact .inr ⟨_, rfl, hlapse _ _⟩
          · exact .refl _
        · exact .refl _
    · exact .refl _

theorem checkAttributes (h : q.Lapses p lapse) (k : Kind) (l : List (String × Value)) :
    AgreeUnless lapse (k.checkAttributes p l) (k.checkAttributes q l) := by
  induction l with
  | nil => exact .refl _
  | cons e rest ih =>
    unfold Kind.checkAttributes
    exact (checkAttribute h k e.1 e.2).bind fun _ => ih

theorem check (h : q.Lapses p lapse) (catalog : Catalog) (c : Constraint) :
    AgreeUnless lapse (catalog.check p c) (catalog.check q c) := by
  unfold Catalog.check
  apply (AgreeUnless.refl (catalog.resolve c.kind)).bind
  intro k
  exact (checkAttributes h k _).bind fun _ => .refl _

end AgreeUnless

namespace Location

variable {p q : Policy} {l : Location}

theorem move?_relaxes (h : q.Relaxes p) (m : Move) :
    l.move? q m = l.move? p m ∨
      ∃ r, l.move? p m = some (.error r) ∧ r.dependsOnPolicy = true := by
  cases m with
  | bean | property | method | returnValue | stay => exact .inl rfl
  | parameter index =>
    cases l with
    | bean | property => exact .inl rfl
    | method s target =>
      simp only [move?, signature?, Option.map_some, toParameter_eq]
      by_cases hp : p.indexCheck = .eager ∧ s.arity ≤ index
      · rw [if_pos hp]
        exact .inr ⟨_, rfl, rfl⟩
      · have hq : ¬(q.indexCheck = .eager ∧ s.arity ≤ index) :=
          fun hq => hp ⟨h.2.2 hq.1, hq.2⟩
        rw [if_neg hp, if_neg hq]
        exact .inl rfl

theorem move?_of_lt {m : Move}
    (h : ∀ s target i, l = .method s target → m = .parameter i → i < s.arity) :
    l.move? q m = l.move? p m := by
  cases m with
  | bean | property | method | returnValue | stay => rfl
  | parameter index =>
    cases l with
    | bean | property => rfl
    | method s target =>
      have hindex : ¬s.arity ≤ index := Nat.not_le_of_lt (h s target index rfl rfl)
      simp only [move?, signature?, Option.map_some, toParameter_eq, hindex, and_false, if_false]

end Location

namespace Session

def withPolicy (s : Session) (q : Policy) : Session :=
  { s with registry := { s.registry with policy := q } }

/-- The second step is the first under another policy, unless the first is one of certain
refusals. -/
def Mirrors (lapse : Refusal → Prop) (q : Policy) (x y : Step) : Prop :=
  y = (x.1.withPolicy q, x.2) ∨ ∃ r, x.2 = .error (.refused r) ∧ lapse r

namespace Mirrors

variable {lapse : Refusal → Prop} {q : Policy} {s : Session}

theorem onCursor {on : String} {k k' : Location → Step}
    (h : ∀ l, s.handle? on = some (.cursor l) → Mirrors lapse q (k l) (k' l)) :
    Mirrors lapse q (s.onCursor on k) ((s.withPolicy q).onCursor on k') := by
  have hhandle : (s.withPolicy q).handle? on = s.handle? on := rfl
  unfold Session.onCursor
  rw [hhandle]
  split
  · exact .inl rfl
  · rename_i l held
    exact h l held
  · exact .inl rfl

theorem onDraft {on : String} {k k' : Draft → Step}
    (h : ∀ d, s.handle? on = some (.draft d) → Mirrors lapse q (k d) (k' d)) :
    Mirrors lapse q (s.onDraft on k) ((s.withPolicy q).onDraft on k') := by
  have hhandle : (s.withPolicy q).handle? on = s.handle? on := rfl
  unfold Session.onDraft
  rw [hhandle]
  split
  · exact .inl rfl
  · rename_i d held
    exact h d held
  · exact .inl rfl

theorem move {as : String} {l : Location} {m : Move}
    (h : l.move? q m = l.move? s.registry.policy m ∨
      ∃ r, l.move? s.registry.policy m = some (.error r) ∧ lapse r) :
    Mirrors lapse q (s.move as l m) ((s.withPolicy q).move as l m) := by
  rw [move_eq, move_eq]
  have hpolicy : (s.withPolicy q).registry.policy = q := rfl
  rw [hpolicy]
  rcases h with h | ⟨r, h, hr⟩
  · rw [h]
    split
    · exact .inl rfl
    · exact .inl rfl
    · left
      unfold logged
      cases m.event? _ <;> rfl
  · rw [h]
    exact .inr ⟨r, rfl, hr⟩

theorem begin {as kind : String} {l : Location} {setters : Option Builtin} :
    Mirrors lapse q (s.begin as l kind setters) ((s.withPolicy q).begin as l kind setters) := by
  have hcatalog : (s.withPolicy q).registry.catalog = s.registry.catalog := rfl
  unfold Session.begin
  rw [hcatalog]
  split <;> exact .inl rfl

theorem addConstraint (h : q.Lapses s.registry.policy lapse) (l : Location) (c : Constraint) :
    Mirrors lapse q (s.addConstraint l c) ((s.withPolicy q).addConstraint l c) := by
  rw [addConstraint_eq, addConstraint_eq]
  have hregistry : (s.withPolicy q).registry.catalog.check (s.withPolicy q).registry.policy c =
      s.registry.catalog.check q c := rfl
  rw [hregistry]
  rcases AgreeUnless.check h s.registry.catalog c with heq | ⟨r, heq, hr⟩
  · rw [heq]
    split <;> exact .inl rfl
  · rw [heq]
    exact .inr ⟨r, rfl, hr⟩

theorem setGroups {bean : TypeRef} {groups : List TypeRef} {reply : Reply} :
    Mirrors lapse q (s.setGroups bean groups reply)
      ((s.withPolicy q).setGroups bean groups reply) := by
  rw [setGroups_eq, setGroups_eq]
  split <;> exact .inl rfl

/-- Policies matter to a call only through the checks of a constraint and through moves. -/
theorem step {c : Call} (h : q.Lapses s.registry.policy lapse)
    (moves : ∀ on as m l, c = .move on as m → s.handle? on = some (.cursor l) →
      l.move? q m = l.move? s.registry.policy m ∨
        ∃ r, l.move? s.registry.policy m = some (.error r) ∧ lapse r) :
    Mirrors lapse q (s.step c) ((s.withPolicy q).step c) := by
  cases c with
  | root bean as => exact .inl rfl
  | move on as m => exact onCursor fun l held => move (moves on as m l rfl held)
  | constraint on as kind => exact onCursor fun _ _ => begin
  | generic on as kind => exact onCursor fun _ _ => begin
  | set on as attr value =>
    apply onDraft
    intro d _
    split <;> exact .inl rfl
  | edit on as e => exact onDraft fun _ _ => .inl rfl
  | done on => exact onDraft fun d _ => addConstraint (s := s.drop on) h d.location d.constraint
  | valid on =>
    apply onCursor
    intro l _
    split <;> exact .inl rfl
  | groups on groups =>
    apply onCursor
    intro l _
    split
    · exact setGroups
    · exact .inl rfl
  | addConstraint l c => exact addConstraint h l c
  | addCascade l => exact .inl rfl
  | setGroups bean groups => exact setGroups

end Mirrors

def replies (s : Session) : List Call → List (Except Failure Reply)
  | [] => []
  | c :: rest => (s.step c).2 :: (s.step c).1.replies rest

theorem replies_append (s : Session) (first second : List Call) :
    s.replies (first ++ second) = s.replies first ++ (s.run first).replies second := by
  induction first generalizing s with
  | nil => rfl
  | cons c rest ih =>
    have hrest := ih (s.step c).1
    simp only [List.cons_append, replies, hrest, run_cons]

theorem mem_replies (s : Session) (before : List Call) (c : Call) (after : List Call) :
    ((s.run before).step c).2 ∈ s.replies (before ++ c :: after) := by
  rw [replies_append]
  exact List.mem_append_right _ List.mem_cons_self

theorem mirror_run {s : Session} {q : Policy} {script : List Call}
    (steps : ∀ before c after, script = before ++ c :: after →
      let t := s.run before
      (t.withPolicy q).step c = ((t.step c).1.withPolicy q, (t.step c).2)) :
    (s.withPolicy q).run script = (s.run script).withPolicy q ∧
      (s.withPolicy q).replies script = s.replies script := by
  induction script generalizing s with
  | nil => exact ⟨rfl, rfl⟩
  | cons c rest ih =>
    have hstep := steps [] c rest rfl
    -- The rest starts from the state that the first step leaves in both runs.
    obtain ⟨hrun, hreplies⟩ := ih (s := (s.step c).1) fun before c' after h =>
      steps (c :: before) c' after (by rw [h]; rfl)
    simp only [run_nil] at hstep
    constructor
    · rw [run_cons, hstep, hrun, run_cons]
    · simp only [replies, hstep, hreplies]

/-- False of a call that asks for a parameter that the method of its cursor does not have. -/
def inRange (s : Session) : Call → Bool
  | .move on _ (.parameter i) =>
    match s.handle? on with
    | some (.cursor (.method signature _)) => decide (i < signature.arity)
    | _ => true
  | _ => true

def asksInRange (s : Session) : List Call → Bool
  | [] => true
  | c :: rest => s.inRange c && (s.step c).1.asksInRange rest

theorem inRange_of_asksInRange {s : Session} {before : List Call} {c : Call} {after : List Call}
    (h : s.asksInRange (before ++ c :: after) = true) : (s.run before).inRange c = true := by
  induction before generalizing s with
  | nil => exact (Bool.and_eq_true_iff.mp h).1
  | cons c' rest ih => exact ih (Bool.and_eq_true_iff.mp h).2

theorem step_withPolicy {s : Session} {q : Policy} {c : Call} (h : q.Relaxes s.registry.policy)
    (independent : ∀ f, (s.step c).2 = .error f → f.dependsOnPolicy = false) :
    (s.withPolicy q).step c = ((s.step c).1.withPolicy q, (s.step c).2) := by
  rcases Mirrors.step (c := c) h.lapses fun _ _ m _ _ _ => Location.move?_relaxes h m with
    hstep | ⟨r, hr, hlapse⟩
  · exact hstep
  · -- A refusal that the laxer policy would not give is excluded by assumption.
    have hnot : r.dependsOnPolicy = false := independent _ hr
    rw [hlapse] at hnot
    cases hnot

theorem run_withPolicy {s : Session} {q : Policy} {script : List Call}
    (h : q.Relaxes s.registry.policy) (succeeds : ∀ x ∈ s.replies script, x.isOk = true) :
    (s.withPolicy q).run script = (s.run script).withPolicy q ∧
      (s.withPolicy q).replies script = s.replies script := by
  apply mirror_run
  rintro before c after rfl
  apply step_withPolicy
  · rw [policy_run]
    exact h
  · intro f hf
    have hok := succeeds _ (mem_replies s before c after)
    rw [hf] at hok
    cases hok

theorem run_of_asksInRange {s : Session} {b : IndexCheck} {script : List Call}
    (h : s.asksInRange script = true) :
    let q := { s.registry.policy with indexCheck := b }
    (s.withPolicy q).run script = (s.run script).withPolicy q ∧
      (s.withPolicy q).replies script = s.replies script := by
  intro q
  apply mirror_run
  rintro before c after rfl t
  have hpolicy : t.registry.policy = s.registry.policy := policy_run s before
  have lapses : q.Lapses t.registry.policy fun _ => False := by
    rw [hpolicy]
    exact ⟨.inl rfl, .inl rfl⟩
  have moves : ∀ on as m l, c = .move on as m → t.handle? on = some (.cursor l) →
      l.move? q m = l.move? t.registry.policy m := by
    rintro on as m l rfl held
    apply Location.move?_of_lt
    rintro signature target i rfl rfl
    have hrange : t.inRange (.move on as (.parameter i)) = true := inRange_of_asksInRange h
    simp only [inRange, held] at hrange
    exact of_decide_eq_true hrange
  rcases Mirrors.step lapses fun on as m l hc held => .inl (moves on as m l hc held) with
    hstep | ⟨r, -, hr⟩
  · exact hstep
  · exact hr.elim

/-- Relaxing a policy changes nothing up to the first call that fails, nor that call unless it
fails for what the policies differ in, nor the end of a session without failures. When indices are
checked makes no difference to a script that asks only for parameters that exist. -/
theorem relaxed_agrees (p q : Policy) (relaxes : q.Relaxes p) (catalog : Catalog)
    (script : List Call) :
    let s := start (.empty p catalog)
    let t := start (.empty q catalog)
    (∀ before after, script = before ++ after → (∀ x ∈ s.replies before, x.isOk = true) →
      t.replies before = s.replies before ∧
      (t.run before).registry.declarations = (s.run before).registry.declarations ∧
      (t.run before).registry.sequences = (s.run before).registry.sequences ∧
      ∀ c rest f, after = c :: rest → ((s.run before).step c).2 = .error f →
        f.dependsOnPolicy = false → ((t.run before).step c).2 = .error f) ∧
      ((∀ x ∈ s.replies script, x.isOk = true) →
        (t.run script).registry.freeze = (s.run script).registry.freeze ∧
        ((∀ c ∈ script, c.location? = none) → p.indexCheck = .eager →
          ∃ m, (s.run script).registry.freeze = .ok m)) ∧
      ∀ a b : IndexCheck,
        let s := start (.empty { p with indexCheck := a } catalog)
        let t := start (.empty { p with indexCheck := b } catalog)
        s.asksInRange script = true →
          t.replies script = s.replies script ∧
          (t.run script).registry.declarations = (s.run script).registry.declarations ∧
          (t.run script).registry.sequences = (s.run script).registry.sequences ∧
          (t.run script).registry.freeze = (s.run script).registry.freeze := by
  intro s t
  have ht : t = s.withPolicy q := rfl
  refine ⟨?_, ?_, ?_⟩
  · intro before after _ succeeds
    obtain ⟨hrun, hreplies⟩ := run_withPolicy relaxes succeeds
    rw [ht, hrun]
    refine ⟨hreplies, rfl, rfl, ?_⟩
    intro c rest f _ hf independent
    have hrelaxes : q.Relaxes (s.run before).registry.policy := by
      rw [policy_run]
      exact relaxes
    rw [step_withPolicy hrelaxes ?_]
    · exact hf
    · intro f' hf'
      cases hf.symm.trans hf'
      exact independent
  · intro succeeds
    obtain ⟨hrun, -⟩ := run_withPolicy relaxes succeeds
    rw [ht, hrun]
    refine ⟨rfl, fun indirect eager => ?_⟩
    apply ((wellPlaced_start p catalog).run indirect).freeze
    rw [policy_run]
    exact eager
  · intro a b s t asks
    obtain ⟨hrun, hreplies⟩ := run_of_asksInRange (b := b) asks
    have ht : t = s.withPolicy { s.registry.policy with indexCheck := b } := rfl
    rw [ht, hrun]
    exact ⟨hreplies, rfl, rfl, rfl⟩

def orderly : List Call :=
  let order : TypeRef := ⟨"shop::Order", 0⟩
  [.root order "order", .move "order" "ship" (.method "ship" [⟨"f64", 0⟩]),
    .move "ship" "weight" (.parameter 0), .constraint "weight" "size" (.builtin .size),
    .set "size" "size" "min" (.int 1), .done "size", .valid "weight"]

def lacking : List Call :=
  [.root ⟨"shop::Order", 0⟩ "order", .constraint "order" "digits" (.builtin .digits),
    .set "digits" "digits" "integer" (.int 3)]

theorem relaxed_agrees_orderly :
    Policy.lenient.Relaxes .strict ∧
      let s := start (.empty .strict .builtin)
      let t := start (.empty .lenient .builtin)
      let u := start (.empty { Policy.strict with indexCheck := .deferred } .builtin)
      let lapse := Failure.refused (.missingAttribute "Digits" "fraction")
      (∀ x ∈ s.replies orderly, x.isOk = true) ∧ s.asksInRange orderly = true ∧
        t.replies orderly = s.replies orderly ∧
        (t.run orderly).registry.declarations = (s.run orderly).registry.declarations ∧
        u.replies orderly = s.replies orderly ∧
        (t.run orderly).registry.freeze = (s.run orderly).registry.freeze ∧
        (∃ m, (s.run orderly).registry.freeze = .ok m) ∧
        ((s.run lacking).step (.done "digits")).2 = .error lapse ∧
        ((t.run lacking).step (.done "digits")).2 = .error lapse := by
  have relaxes : Policy.lenient.Relaxes .strict := Policy.lenient_relaxes _
  have succeeds : ∀ x ∈ (start (.empty .strict .builtin)).replies orderly, x.isOk = true := by
    decide +kernel
  have asks : (start (.empty .strict .builtin)).asksInRange orderly = true := by decide +kernel
  obtain ⟨hsteps, hend, hindices⟩ := relaxed_agrees .strict .lenient relaxes .builtin orderly
  obtain ⟨hreplies, hdeclarations, -, -⟩ :=
    hsteps orderly [] (List.append_nil _).symm succeeds
  obtain ⟨hfreeze, hok⟩ := hend succeeds
  obtain ⟨hdeferred, -⟩ := hindices .eager .deferred asks
  -- The refusal is the first failure, and no policy would let the draft pass.
  obtain ⟨hfails, -⟩ := relaxed_agrees .strict .lenient relaxes .builtin
    (lacking ++ [.done "digits"])
  obtain ⟨-, -, -, hfirst⟩ := hfails lacking [.done "digits"] rfl (by decide +kernel)
  exact ⟨relaxes, succeeds, asks, hreplies, hdeclarations, hdeferred, hfreeze, hok (by decide) rfl,
    rfl, hfirst _ _ _ rfl rfl rfl⟩

end Session

end BeanRules
