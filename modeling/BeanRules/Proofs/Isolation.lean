import BeanRules.Proofs.Lookup
import BeanRules.Proofs.Placement
import Mathlib.Data.List.Induction
import Mathlib.Data.List.Infix

/-!
Parties that share a session but no cursors, drafts or beans do not notice each other. `Alike` is
what one party can tell of two sessions. A call of its own keeps them alike and has the same answer
in both; a call of another party keeps a session alike to what it was before.
-/
namespace BeanRules

namespace Session

/-- Two sessions that agree on what some names stand for and on what is stored for some beans. -/
structure Alike (names : String → Prop) (beans : TypeRef → Prop) (s t : Session) : Prop where
  policy : s.registry.policy = t.registry.policy
  catalog : s.registry.catalog = t.registry.catalog
  handles : ∀ name, names name → s.handle? name = t.handle? name
  declarations : ∀ bean, beans bean →
    s.registry.declarations.filter (·.location.owner == bean) =
      t.registry.declarations.filter (·.location.owner == bean)
  sequences : ∀ bean, beans bean → s.registry.defaultGroups? bean = t.registry.defaultGroups? bean

namespace Alike

variable {names : String → Prop} {beans : TypeRef → Prop} {s t : Session}

theorem refl (s : Session) : Alike names beans s s :=
  ⟨rfl, rfl, fun _ _ => rfl, fun _ _ => rfl, fun _ _ => rfl⟩

theorem trans {u : Session} (h : Alike names beans s t) (h' : Alike names beans t u) :
    Alike names beans s u where
  policy := h.policy.trans h'.policy
  catalog := h.catalog.trans h'.catalog
  handles name hname := (h.handles name hname).trans (h'.handles name hname)
  declarations bean hbean := (h.declarations bean hbean).trans (h'.declarations bean hbean)
  sequences bean hbean := (h.sequences bean hbean).trans (h'.sequences bean hbean)

section Both

/-! The same change to both sessions. -/

theorem put (h : Alike names beans s t) (name : String) (x : Handle) :
    Alike names beans (s.put name x) (t.put name x) where
  policy := h.policy
  catalog := h.catalog
  handles other hother := by rw [handle?_put, handle?_put, h.handles other hother]
  declarations := h.declarations
  sequences := h.sequences

theorem drop (h : Alike names beans s t) (name : String) :
    Alike names beans (s.drop name) (t.drop name) where
  policy := h.policy
  catalog := h.catalog
  handles other hother := by rw [handle?_drop, handle?_drop, h.handles other hother]
  declarations := h.declarations
  sequences := h.sequences

theorem logged (h : Alike names beans s t) (e : Option Event) :
    Alike names beans (s.logged e) (t.logged e) := by
  cases e with
  | none => exact h
  | some e => exact ⟨h.policy, h.catalog, h.handles, h.declarations, h.sequences⟩

theorem record (h : Alike names beans s t) (d : Declaration) :
    Alike names beans (s.record d) (t.record d) where
  policy := h.policy
  catalog := h.catalog
  handles := h.handles
  declarations bean hbean := by
    simp only [registry_record, List.filter_append, h.declarations bean hbean]
  sequences := h.sequences

theorem withGroups (h : Alike names beans s t) (bean : TypeRef) (groups : List TypeRef) :
    Alike names beans (s.withGroups bean groups) (t.withGroups bean groups) where
  policy := h.policy
  catalog := h.catalog
  handles := h.handles
  declarations := h.declarations
  sequences other hother := by
    have hsequences := h.sequences other hother
    unfold Registry.defaultGroups? at hsequences ⊢
    rw [registry_withGroups, registry_withGroups, GroupSequences.get?_set,
      GroupSequences.get?_set, hsequences]

end Both

section Elsewhere

/-! A change to other names and other beans. -/

theorem put_elsewhere (s : Session) {name : String} (hname : ¬names name) (x : Handle) :
    Alike names beans (s.put name x) s where
  policy := rfl
  catalog := rfl
  handles other hother := by
    have hne : name ≠ other := fun heq => hname (heq ▸ hother)
    rw [handle?_put, if_neg hne]
  declarations _ _ := rfl
  sequences _ _ := rfl

theorem drop_elsewhere (s : Session) {name : String} (hname : ¬names name) :
    Alike names beans (s.drop name) s where
  policy := rfl
  catalog := rfl
  handles other hother := by
    have hne : name ≠ other := fun heq => hname (heq ▸ hother)
    rw [handle?_drop, if_neg hne]
  declarations _ _ := rfl
  sequences _ _ := rfl

theorem logged_elsewhere (s : Session) (e : Option Event) : Alike names beans (s.logged e) s := by
  cases e with
  | none => exact .refl s
  | some e => exact ⟨rfl, rfl, fun _ _ => rfl, fun _ _ => rfl, fun _ _ => rfl⟩

theorem record_elsewhere (s : Session) {d : Declaration} (hd : ¬beans d.location.owner) :
    Alike names beans (s.record d) s where
  policy := rfl
  catalog := rfl
  handles _ _ := rfl
  declarations bean hbean := by
    have hne : d.location.owner ≠ bean := fun heq => hd (heq ▸ hbean)
    simp [List.filter_append, hne]
  sequences _ _ := rfl

theorem withGroups_elsewhere (s : Session) {bean : TypeRef} (hbean : ¬beans bean)
    (groups : List TypeRef) : Alike names beans (s.withGroups bean groups) s where
  policy := rfl
  catalog := rfl
  handles _ _ := rfl
  declarations _ _ := rfl
  sequences other hother := by
    have hne : bean ≠ other := fun heq => hbean (heq ▸ hother)
    unfold Registry.defaultGroups?
    rw [registry_withGroups, GroupSequences.get?_set, if_neg hne]

end Elsewhere

theorem step_elsewhere {c : Call} (fluent : c.isFluent = true)
    (others : ∀ name ∈ c.names, ¬names name)
    (places : ∀ name x, s.handle? name = some x → name ∈ c.names → ¬beans x.location.owner) :
    Alike names beans (s.step c).1 s := by
  have happens := s.step_outcome c
  generalize (s.step c).1 = t, (s.step c).2 = r at happens
  cases happens with
  | failed => exact .refl s
  | rooted bean as =>
    have has : ¬names as := others as (by simp [Call.names])
    exact put_elsewhere s has _
  | @moved on as m l l' held leads =>
    have has : ¬names as := others as (by simp [Call.names])
    exact (logged_elsewhere _ _).trans (put_elsewhere s has _)
  | @begun _ on as kind setters l k begins held known =>
    have has : ¬names as := others as (by simp [Call.names_of_begins begins])
    exact put_elsewhere s has _
  | @edited _ on as e d edits held =>
    have hon : ¬names on := others on (by simp [Call.names_of_edits edits])
    have has : ¬names as := others as (by simp [Call.names_of_edits edits])
    exact (put_elsewhere _ has _).trans (drop_elsewhere s hon)
  | @completed on d held passes =>
    have hon : ¬names on := others on (by simp [Call.names])
    have hd : ¬beans (Declaration.constraint d.location d.constraint).location.owner :=
      places on _ held (by simp [Call.names])
    exact (record_elsewhere _ hd).trans (drop_elsewhere s hon)
  | @refused on d r held fails =>
    have hon : ¬names on := others on (by simp [Call.names])
    exact drop_elsewhere s hon
  | @cascaded on l held inside =>
    have hl : ¬beans (Declaration.cascade l).location.owner :=
      places on _ held (by simp [Call.names])
    exact record_elsewhere s hl
  | @sequenced on bean groups held passes =>
    have hbean : ¬beans bean := places on _ held (by simp [Call.names])
    exact withGroups_elsewhere s hbean groups
  | constraintAdded | cascadeAdded | groupsSet => cases fluent

section Mappings

variable {m m' : Mapping}

theorem declarationsFor (h : Alike names beans s t) (hm : s.registry.freeze = .ok m)
    (hm' : t.registry.freeze = .ok m') {bean : TypeRef} (hbean : beans bean) :
    m.declarationsFor bean = m'.declarationsFor bean := by
  obtain ⟨-, rfl⟩ := Registry.freeze_eq_ok_iff.mp hm
  obtain ⟨-, rfl⟩ := Registry.freeze_eq_ok_iff.mp hm'
  rw [Mapping.declarationsFor_ofDeclarations, Mapping.declarationsFor_ofDeclarations]
  exact h.declarations bean hbean

theorem defaultGroups? (h : Alike names beans s t) (hm : s.registry.freeze = .ok m)
    (hm' : t.registry.freeze = .ok m') {bean : TypeRef} (hbean : beans bean) :
    m.defaultGroups? bean = m'.defaultGroups? bean := by
  rw [Registry.defaultGroups?_of_freeze hm, Registry.defaultGroups?_of_freeze hm']
  exact h.sequences bean hbean

end Mappings

end Alike

def AlikeSteps (names : String → Prop) (beans : TypeRef → Prop) (x y : Step) : Prop :=
  x.2 = y.2 ∧ Alike names beans x.1 y.1

namespace AlikeSteps

variable {names : String → Prop} {beans : TypeRef → Prop} {s t : Session}

theorem fail (h : Alike names beans s t) (f : Failure) :
    AlikeSteps names beans (s.fail f) (t.fail f) := ⟨rfl, h⟩

theorem onCursor (h : Alike names beans s t) {on : String} (hon : names on)
    {k k' : Location → Step} (hk : ∀ l, AlikeSteps names beans (k l) (k' l)) :
    AlikeSteps names beans (s.onCursor on k) (t.onCursor on k') := by
  unfold Session.onCursor
  rw [h.handles on hon]
  split
  · exact fail h _
  · exact hk _
  · exact fail h _

theorem onDraft (h : Alike names beans s t) {on : String} (hon : names on)
    {k k' : Draft → Step} (hk : ∀ d, AlikeSteps names beans (k d) (k' d)) :
    AlikeSteps names beans (s.onDraft on k) (t.onDraft on k') := by
  unfold Session.onDraft
  rw [h.handles on hon]
  split
  · exact fail h _
  · exact hk _
  · exact fail h _

theorem move (h : Alike names beans s t) (as : String) (l : Location) (m : Move) :
    AlikeSteps names beans (s.move as l m) (t.move as l m) := by
  rw [move_eq, move_eq, h.policy]
  split
  · exact fail h _
  · exact fail h _
  · exact ⟨rfl, (h.put as _).logged _⟩

theorem begin (h : Alike names beans s t) (as : String) (l : Location) (kind : String)
    (setters : Option Builtin) :
    AlikeSteps names beans (s.begin as l kind setters) (t.begin as l kind setters) := by
  unfold Session.begin
  rw [h.catalog]
  split
  · exact fail h _
  · exact ⟨rfl, h.put as _⟩

theorem edit (h : Alike names beans s t) (on as : String) (d : Draft) (e : Edit) :
    AlikeSteps names beans (s.edit on as d e) (t.edit on as d e) :=
  ⟨rfl, (h.drop on).put as _⟩

theorem addConstraint (h : Alike names beans s t) (l : Location) (c : Constraint) :
    AlikeSteps names beans (s.addConstraint l c) (t.addConstraint l c) := by
  rw [addConstraint_eq, addConstraint_eq, h.policy, h.catalog]
  split
  · exact fail h _
  · exact ⟨rfl, h.record _⟩

theorem setGroups (h : Alike names beans s t) (bean : TypeRef) (groups : List TypeRef)
    (reply : Reply) :
    AlikeSteps names beans (s.setGroups bean groups reply) (t.setGroups bean groups reply) := by
  rw [setGroups_eq, setGroups_eq]
  split
  · exact fail h _
  · exact ⟨rfl, h.withGroups bean groups⟩

/-- Of a session, a call sees the policy, the catalog and what it is made on. -/
theorem step (h : Alike names beans s t) {c : Call} (uses : ∀ name ∈ c.names, names name) :
    AlikeSteps names beans (s.step c) (t.step c) := by
  cases c with
  | root bean as => exact ⟨rfl, h.put as _⟩
  | move on as m => exact onCursor h (uses on (by simp [Call.names])) fun l => move h as l m
  | constraint on as kind =>
    exact onCursor h (uses on (by simp [Call.names])) fun l => begin h as l _ _
  | generic on as kind =>
    exact onCursor h (uses on (by simp [Call.names])) fun l => begin h as l _ _
  | set on as attr value =>
    refine onDraft h (uses on (by simp [Call.names])) fun d => ?_
    split
    · exact fail h _
    · exact edit h on as d _
  | edit on as e => exact onDraft h (uses on (by simp [Call.names])) fun d => edit h on as d e
  | done on =>
    exact onDraft h (uses on (by simp [Call.names])) fun d => addConstraint (h.drop on) _ _
  | valid on =>
    refine onCursor h (uses on (by simp [Call.names])) fun l => ?_
    split
    · exact fail h _
    · exact ⟨rfl, h.record _⟩
  | groups on groups =>
    refine onCursor h (uses on (by simp [Call.names])) fun l => ?_
    split
    · exact setGroups h _ _ _
    · exact fail h _
  | addConstraint l c => exact addConstraint h l c
  | addCascade l => exact ⟨rfl, h.record _⟩
  | setGroups bean groups => exact setGroups h bean groups _

end AlikeSteps

section Parties

variable {ι : Type}

/-- A session in which each party finds what it would find alone, and nothing is nobody's. -/
structure Separate (names : ι → String → Prop) (beans : ι → TypeRef → Prop) (s : Session)
    (alone : ι → Session) : Prop where
  alike : ∀ i, Alike (names i) (beans i) s (alone i)
  within : ∀ i, (alone i).Everywhere fun l => beans i l.owner
  covered : s.Everywhere fun l => ∃ i, beans i l.owner

theorem Separate.step {names : ι → String → Prop} {beans : ι → TypeRef → Prop} {s : Session}
    {alone after : ι → Session} (h : Separate names beans s alone)
    (apart : ∀ i j, i ≠ j → ∀ bean, beans i bean → ¬beans j bean) {i : ι} {c : Call}
    (fluent : c.isFluent = true) (uses : ∀ name ∈ c.names, names i name)
    (others : ∀ j, i ≠ j → ∀ name ∈ c.names, ¬names j name)
    (arrives : ∀ l, ((alone i).step c).2 = .ok (.handle (.cursor l)) → beans i l.owner)
    (steps : after i = ((alone i).step c).1) (waits : ∀ j, i ≠ j → after j = alone j) :
    Separate names beans (s.step c).1 after := by
  obtain ⟨hreply, halike⟩ := AlikeSteps.step (h.alike i) uses
  have indirect : ∀ l, c.location? ≠ some l := by
    rintro l hl
    cases c with
    | addConstraint | addCascade => cases fluent
    | _ => cases hl
  refine ⟨?_, ?_, ?_⟩
  · intro j
    by_cases hij : i = j
    · subst hij
      rw [steps]
      exact halike
    · rw [waits j hij]
      refine (Alike.step_elsewhere fluent (others j hij) ?_).trans (h.alike j)
      intro name x hx hname
      rw [(h.alike i).handles name (uses name hname)] at hx
      exact apart i j hij _ ((h.within i).handles hx)
  · intro j
    by_cases hij : i = j
    · subst hij
      rw [steps]
      exact (h.within i).outcome ((alone i).step_outcome c) arrives
        fun l hl => absurd hl (indirect l)
    · rw [waits j hij]
      exact h.within j
  · refine h.covered.outcome (s.step_outcome c) ?_ fun l hl => absurd hl (indirect l)
    intro l hl
    exact ⟨i, arrives l (hreply ▸ hl)⟩

theorem Separate.mem_declarations_iff {names : ι → String → Prop} {beans : ι → TypeRef → Prop}
    {s : Session} {alone : ι → Session} (h : Separate names beans s alone) {d : Declaration} :
    d ∈ s.registry.declarations ↔ ∃ i, d ∈ (alone i).registry.declarations := by
  have hfilter (i : ι) (hi : beans i d.location.owner) :
      d ∈ s.registry.declarations ↔ d ∈ (alone i).registry.declarations := by
    have hd := congrArg (d ∈ ·) ((h.alike i).declarations _ hi)
    simpa using hd
  constructor
  · intro hd
    obtain ⟨i, hi⟩ := h.covered.declarations d hd
    exact ⟨i, (hfilter i hi).mp hd⟩
  · rintro ⟨i, hd⟩
    exact (hfilter i ((h.within i).declarations d hd)).mpr hd

variable [DecidableEq ι]

def together (script : List (ι × Call)) : List Call := script.map (·.2)

def own (i : ι) (script : List (ι × Call)) : List Call := (script.filter (·.1 = i)).map (·.2)

/-- Parties that use cursors and drafts of their own, each of which has its cursors on beans of its
own whenever it runs its calls alone. -/
structure Apart (p : Policy) (catalog : Catalog) (script : List (ι × Call))
    (beans : ι → TypeRef → Prop) : Prop where
  fluent : ∀ e ∈ script, e.2.isFluent = true
  handles : ∀ e ∈ script, ∀ e' ∈ script, e.1 ≠ e'.1 → ∀ name ∈ e.2.names, name ∉ e'.2.names
  owners : ∀ i j, i ≠ j → ∀ bean, beans i bean → ¬beans j bean
  stands : ∀ i before after, own i script = before ++ after → ∀ name l,
    ((start (.empty p catalog)).run before).handle? name = some (.cursor l) → beans i l.owner

theorem own_append (i : ι) (first second : List (ι × Call)) :
    own i (first ++ second) = own i first ++ own i second := by
  simp [own]

variable {p : Policy} {catalog : Catalog} {script : List (ι × Call)} {beans : ι → TypeRef → Prop}

/-- The induction is on what has been called so far, in the whole session and of each party. -/
theorem Apart.separate (h : Apart p catalog script beans) {before after : List (ι × Call)}
    (hsplit : script = before ++ after) :
    let s := start (.empty p catalog)
    Separate (fun i name => ∃ c, (i, c) ∈ script ∧ name ∈ c.names) beans
      (s.run (together before)) fun i => s.run (own i before) := by
  intro s
  induction before using List.reverseRecOn generalizing after with
  | nil => exact ⟨fun _ => .refl s, fun _ => everywhere_start _ _ _, everywhere_start _ _ _⟩
  | append_singleton before e ih =>
    obtain ⟨i, c⟩ := e
    have hmem : (i, c) ∈ script := by simp [hsplit]
    have hbefore := @ih ((i, c) :: after) (by simp [hsplit])
    have htogether : s.run (together (before ++ [(i, c)])) =
        ((s.run (together before)).step c).1 := by
      simp [together, run_append]
    have hown : s.run (own i (before ++ [(i, c)])) = ((s.run (own i before)).step c).1 := by
      simp [own, run_append]
    rw [htogether]
    refine hbefore.step h.owners (h.fluent _ hmem) ?_ ?_ ?_ hown ?_
    · intro name hname
      exact ⟨c, hmem, hname⟩
    · rintro j hij name hname ⟨c', hmem', hname'⟩
      exact h.handles _ hmem _ hmem' hij name hname hname'
    · intro l hl
      obtain ⟨name, -, hheld⟩ := handle?_step_of_handed hl
      rw [← hown] at hheld
      exact h.stands i _ (own i after) (by rw [hsplit, own_append]) name l hheld
    · intro j hij
      simp [own, hij]

theorem Apart.freezes_iff (h : Apart p catalog script beans) :
    let s := start (.empty p catalog)
    (∃ m, (s.run (together script)).registry.freeze = .ok m) ↔
      ∀ i, ∃ m, (s.run (own i script)).registry.freeze = .ok m := by
  intro s
  have hseparate := h.separate (List.append_nil script).symm
  have hmem (d : Declaration) := hseparate.mem_declarations_iff (d := d)
  have hfreezes (t : Session) : (∃ m, t.registry.freeze = .ok m) ↔
      ∀ d ∈ t.registry.declarations, d.location.inArity = true := by
    simp [Registry.freeze_eq_ok_iff]
  simp only [hfreezes]
  constructor
  · intro hall i d hd
    exact hall d ((hmem d).mpr ⟨i, hd⟩)
  · intro hall d hd
    obtain ⟨i, hd⟩ := (hmem d).mp hd
    exact hall i d hd

/-- Parties that share a session but no cursors, drafts or beans do not notice each other, however
their calls interleave. Each call has the answer that it has when its party is alone, the session
can be frozen if each party could freeze its own, and about its own beans each party then finds
what it would have found in a mapping of its own. -/
theorem parties_isolated (h : Apart p catalog script beans) :
    let s := start (.empty p catalog)
    (∀ before i c after, script = before ++ (i, c) :: after →
        ((s.run (together before)).step c).2 = ((s.run (own i before)).step c).2) ∧
      ((∃ m, (s.run (together script)).registry.freeze = .ok m) ↔
        ∀ i, ∃ m, (s.run (own i script)).registry.freeze = .ok m) ∧
      ∀ m, (s.run (together script)).registry.freeze = .ok m →
        ∀ i m', (s.run (own i script)).registry.freeze = .ok m' →
          (∀ bean, beans i bean → m.declarationsFor bean = m'.declarationsFor bean ∧
            m.defaultGroups? bean = m'.defaultGroups? bean) ∧
          (∀ l, beans i l.owner → m.constraintsAt l = m'.constraintsAt l ∧
            m.isCascaded l = m'.isCascaded l) ∧
          ∀ signature, beans i signature.bean →
            m.methodDeclarations signature = m'.methodDeclarations signature := by
  intro s
  refine ⟨?_, h.freezes_iff, ?_⟩
  · intro before i c after hsplit
    have hmem : (i, c) ∈ script := by simp [hsplit]
    exact (AlikeSteps.step ((h.separate hsplit).alike i) fun name hname => ⟨c, hmem, hname⟩).1
  · intro m hm i m' hm'
    have halike := (h.separate (List.append_nil script).symm).alike i
    have hfor {bean : TypeRef} (hbean : beans i bean) :
        m.declarationsFor bean = m'.declarationsFor bean := halike.declarationsFor hm hm' hbean
    refine ⟨?_, ?_, ?_⟩
    · intro bean hbean
      exact ⟨hfor hbean, halike.defaultGroups? hm hm' hbean⟩
    · intro l hl
      unfold Mapping.constraintsAt Mapping.isCascaded Mapping.cascadesFor
      rw [hfor hl]
      exact ⟨rfl, rfl⟩
    · intro signature hsignature
      unfold Mapping.methodDeclarations
      rw [hfor hsignature]

def takingTurns : List (Bool × Call) :=
  let order : TypeRef := ⟨"shop::Order", 0⟩
  let line : TypeRef := ⟨"shop::Line", 0⟩
  [(true, .root order "order"), (false, .root line "line"),
    (true, .move "order" "code" (.property "code" .field)),
    (false, .move "line" "sell" (.method "sell" [order])),
    (true, .constraint "code" "size" (.builtin .size)),
    (false, .move "sell" "buyer" (.parameter 1)), (false, .move "sell" "buyer" (.parameter 0)),
    (true, .set "size" "size" "min" (.int 1)), (false, .valid "buyer"),
    (false, .groups "line" [line]), (true, .done "size"), (true, .groups "order" [line, order]),
    (false, .constraint "buyer" "present" (.builtin .notNull)), (false, .done "present")]

theorem parties_isolated_takingTurns :
    let order : TypeRef := ⟨"shop::Order", 0⟩
    let line : TypeRef := ⟨"shop::Line", 0⟩
    let beans (i : Bool) (bean : TypeRef) : Prop := bean = if i then order else line
    let s := start (.empty .strict .builtin)
    Apart .strict .builtin takingTurns beans ∧
      ((s.run (together (takingTurns.take 10))).step (.done "size")).2 =
        ((s.run (own true (takingTurns.take 10))).step (.done "size")).2 ∧
      ∃ m, (s.run (together takingTurns)).registry.freeze = .ok m ∧
        ∃ m', (s.run (own true takingTurns)).registry.freeze = .ok m' ∧
          m.declarationsFor order = m'.declarationsFor order ∧
          m.defaultGroups? order = m'.defaultGroups? order := by
  intro order line beans s
  have hstands (i : Bool) : ((own i takingTurns).inits.all fun before =>
      (s.run before).handles.entries.all fun e => decide (beans i e.2.location.owner)) = true := by
    cases i <;> decide +kernel
  have apart : Apart .strict .builtin takingTurns beans :=
    { fluent := by decide
      handles := by decide
      owners := by
        have hne : ∀ i j : Bool, i ≠ j →
            (if i then order else line) ≠ if j then order else line := by decide
        rintro i j hij bean rfl heq
        exact hne i j hij heq
      stands := by
        intro i before after hsplit name l held
        have hbefore := List.all_eq_true.mp (hstands i) before
          ((List.mem_inits before _).mpr ⟨after, hsplit.symm⟩)
        obtain ⟨e, he, hl⟩ := Option.map_eq_some_iff.mp held
        have howner := List.all_eq_true.mp hbefore e (List.mem_of_find?_eq_some he)
        rw [hl] at howner
        exact of_decide_eq_true howner }
  obtain ⟨hreplies, hfreezes, hlookups⟩ := parties_isolated apart
  have hplaces : ((s.run (together takingTurns)).registry.declarations.all
      (·.location.inArity)) = true := by decide +kernel
  obtain ⟨m, hm⟩ : ∃ m, (s.run (together takingTurns)).registry.freeze = .ok m :=
    ⟨_, Registry.freeze_eq_ok_iff.mpr ⟨List.all_eq_true.mp hplaces, rfl⟩⟩
  obtain ⟨m', hm'⟩ := hfreezes.mp ⟨m, hm⟩ true
  obtain ⟨hbean, -⟩ := hlookups m hm true m' hm'
  refine ⟨apart, hreplies _ true _ (takingTurns.drop 11) rfl, m, hm, m', hm', ?_⟩
  exact hbean order rfl

end Parties

end Session

end BeanRules
