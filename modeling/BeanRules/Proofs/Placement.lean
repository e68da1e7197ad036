import BeanRules.Proofs.Destination
import BeanRules.Proofs.Freeze
import BeanRules.Proofs.Naming
import BeanRules.Proofs.Outcome

/-!
Cursors only ever stand at well-formed locations, so whatever is declared through them is declared
at one. With eager checks that includes the arity of every method, and there is nothing left for
the end of a session to refuse.
-/
namespace BeanRules

namespace Location

/-- What the names of a location look like, and under eager checks its parameter as well. -/
def WellFormed (p : Policy) : Location → Prop
  | .bean _ => True
  | .property _ name _ => ∃ c ∈ name.toList, ¬Text.WhiteSpace c
  | .method s target =>
    IsIdentifier s.name ∧ ∀ i, target = .parameter i → p.indexCheck = .eager → i < s.arity

variable {p : Policy} {l l' : Location}

theorem inArity_of_wellFormed (h : l.WellFormed p) (eager : p.indexCheck = .eager) :
    l.inArity = true := by
  cases l with
  | bean | property => rfl
  | method s target =>
    cases target with
    | returnValue => rfl
    | parameter i => exact decide_eq_true (h.2 i rfl eager)

theorem wellFormed_move {m : Move} (h : l.WellFormed p) (leads : l.move? p m = some (.ok l')) :
    l'.WellFormed p := by
  cases m with
  | bean b =>
    cases leads
    trivial
  | stay =>
    cases leads
    exact h
  | property name access =>
    simp only [move?, toProperty] at leads
    split at leads
    · cases leads
    · rename_i hname
      cases leads
      exact Text.isBlankText_eq_false_iff.mp (Bool.not_eq_true _ ▸ hname)
  | method name parameterTypes =>
    simp only [move?, toMethod_eq] at leads
    split at leads
    · rename_i hname
      cases leads
      refine ⟨isIdentifier_iff.mp hname, ?_⟩
      rintro i ⟨⟩
    · cases leads
  | parameter index =>
    obtain ⟨s, -, leads⟩ := Option.map_eq_some_iff.mp leads
    rw [toParameter_eq] at leads
    split at leads
    · cases leads
    · rename_i hindex
      cases leads
      refine ⟨isIdentifier_iff.mp s.named, ?_⟩
      rintro i ⟨⟩ eager
      exact Nat.lt_of_not_le fun hi => hindex ⟨eager, hi⟩
  | returnValue =>
    obtain ⟨s, -, leads⟩ := Option.map_eq_some_iff.mp leads
    cases leads
    refine ⟨isIdentifier_iff.mp s.named, ?_⟩
    rintro i ⟨⟩

end Location

def Handle.location : Handle → Location
  | cursor l => l
  | draft d => d.location

/-- The location that a direct call to the registry names itself. -/
def Call.location? : Call → Option Location
  | addConstraint l _ => some l
  | addCascade l => some l
  | _ => none

namespace Session

structure Everywhere (P : Location → Prop) (s : Session) : Prop where
  handles : ∀ {name h}, s.handle? name = some h → P h.location
  declarations : ∀ d ∈ s.registry.declarations, P d.location

theorem everywhere_start (P : Location → Prop) (p : Policy) (catalog : Catalog) :
    (start (.empty p catalog)).Everywhere P where
  handles h := by cases h
  declarations d hd := by cases hd

namespace Everywhere

variable {P : Location → Prop} {s t : Session}

theorem drop (h : s.Everywhere P) (name : String) : (s.drop name).Everywhere P where
  handles hname := by
    rw [handle?_drop] at hname
    split at hname
    · cases hname
    · exact h.handles hname
  declarations := h.declarations

theorem put (h : s.Everywhere P) (name : String) {x : Handle} (hx : P x.location) :
    (s.put name x).Everywhere P where
  handles hname := by
    rw [handle?_put] at hname
    split at hname
    · cases hname
      exact hx
    · exact h.handles hname
  declarations := h.declarations

theorem logged (h : s.Everywhere P) (e : Option Event) : (s.logged e).Everywhere P where
  handles hname := by
    rw [handle?_logged] at hname
    exact h.handles hname
  declarations := by
    rw [registry_logged]
    exact h.declarations

theorem record (h : s.Everywhere P) {d : Declaration} (hd : P d.location) :
    (s.record d).Everywhere P where
  handles := h.handles
  declarations := by
    intro d' hd'
    rcases List.mem_append.mp hd' with hmem | hmem
    · exact h.declarations d' hmem
    · cases List.mem_singleton.mp hmem
      exact hd

theorem withGroups (h : s.Everywhere P) (bean : TypeRef) (groups : List TypeRef) :
    (s.withGroups bean groups).Everywhere P where
  handles := h.handles
  declarations := h.declarations

/-- Locations enter a session by the cursors that calls lead to and by direct calls that name
them; drafts and declarations take over the locations of what they are made on. -/
theorem outcome (h : s.Everywhere P) {c : Call} {r : Except Failure Reply}
    (happens : Outcome s c t r) (arrives : ∀ l, r = .ok (.handle (.cursor l)) → P l)
    (named : ∀ l, c.location? = some l → P l) : t.Everywhere P := by
  cases happens with
  | failed => exact h
  | rooted bean as => exact h.put as (arrives _ rfl)
  | moved held leads => exact (h.put _ (arrives _ rfl)).logged _
  | begun begins held known =>
    have hl := h.handles held
    exact h.put _ hl
  | edited edits held =>
    have hd := h.handles held
    exact (h.drop _).put _ hd
  | completed held passes =>
    have hd := h.handles held
    exact (h.drop _).record hd
  | refused held fails => exact h.drop _
  | cascaded held inside =>
    have hl := h.handles held
    exact h.record hl
  | sequenced held passes => exact h.withGroups _ _
  | constraintAdded passes => exact h.record (named _ rfl)
  | cascadeAdded l => exact h.record (named l rfl)
  | groupsSet passes => exact h.withGroups _ _

end Everywhere

structure WellPlaced (s : Session) : Prop where
  handles : ∀ {name h}, s.handle? name = some h → h.location.WellFormed s.registry.policy
  declarations : ∀ d ∈ s.registry.declarations, d.location.WellFormed s.registry.policy

theorem wellPlaced_iff {s : Session} :
    s.WellPlaced ↔ s.Everywhere (·.WellFormed s.registry.policy) :=
  ⟨fun h => ⟨h.handles, h.declarations⟩, fun h => ⟨h.handles, h.declarations⟩⟩

theorem wellPlaced_start (p : Policy) (catalog : Catalog) :
    (start (.empty p catalog)).WellPlaced :=
  wellPlaced_iff.mpr (everywhere_start _ p catalog)

namespace WellPlaced

variable {s : Session}

theorem step (h : s.WellPlaced) {c : Call}
    (named : ∀ l, c.location? = some l → l.WellFormed s.registry.policy) :
    (s.step c).1.WellPlaced := by
  rw [wellPlaced_iff, policy_step]
  refine (wellPlaced_iff.mp h).outcome (s.step_outcome c) ?_ named
  intro l hl
  have happens := s.step_outcome c
  rw [hl] at happens
  generalize (s.step c).1 = t at happens
  cases happens with
  | rooted => trivial
  | moved held leads => exact Location.wellFormed_move (h.handles held) leads

theorem run {script : List Call} (h : s.WellPlaced)
    (indirect : ∀ c ∈ script, c.location? = none) : (s.run script).WellPlaced := by
  apply run_induct h
  intro t c hc ht
  apply ht.step
  intro l hl
  cases (indirect c hc).symm.trans hl

theorem freeze (h : s.WellPlaced) (eager : s.registry.policy.indexCheck = .eager) :
    ∃ m, s.registry.freeze = .ok m := by
  refine ⟨_, Registry.freeze_eq_ok_iff.mpr ⟨?_, rfl⟩⟩
  intro d hd
  exact Location.inArity_of_wellFormed (h.declarations d hd) eager

end WellPlaced

variable {s : Session} {on as : String} {l : Location}

theorem reply_move (held : s.handle? on = some (.cursor l)) (m : Move) :
    (s.step (.move on as m)).2 =
      match l.move? s.registry.policy m with
      | none => .error .misuse
      | some (.error r) => .error (.refused r)
      | some (.ok l') => .ok (.handle (.cursor l')) := by
  simp only [step, onCursor, held, move_eq]
  cases l.move? s.registry.policy m with
  | none => rfl
  | some result => cases result <;> rfl

theorem reply_property (held : s.handle? on = some (.cursor l)) (name : String)
    (access : Access) :
    (s.step (.move on as (.property name access))).2 =
      if Text.isBlankText name then .error (.refused (.emptyPropertyName l.owner))
      else .ok (.handle (.cursor (.property l.owner name access))) := by
  rw [reply_move held]
  simp only [Location.move?, Location.toProperty]
  cases Text.isBlankText name <;> rfl

theorem reply_method (held : s.handle? on = some (.cursor l)) (name : String)
    (parameterTypes : List TypeRef) :
    (s.step (.move on as (.method name parameterTypes))).2 =
      if h : isIdentifier name = true then
        .ok (.handle (.cursor (.method ⟨l.owner, name, parameterTypes, h⟩ .returnValue)))
      else .error (.refused (.malformedMethodName l.owner name)) := by
  rw [reply_move held]
  simp only [Location.move?, Location.toMethod_eq]
  by_cases hname : isIdentifier name = true
  · simp only [dif_pos hname]
  · simp only [dif_neg hname]

/-- Whatever a script does without naming locations itself, every cursor and draft that it leads to
and every declaration that it leaves is at a well-formed location. A cursor moves on to a property
or a method just if the name is one, and under eager checks the session can be frozen. -/
theorem placement_wellFormed (p : Policy) (catalog : Catalog) (script : List Call)
    (indirect : ∀ c ∈ script, c.location? = none) :
    let s := (start (.empty p catalog)).run script
    (∀ name h, s.handle? name = some h → h.location.WellFormed p) ∧
      (∀ d ∈ s.registry.declarations, d.location.WellFormed p) ∧
      (∀ on as l name access, s.handle? on = some (.cursor l) →
        let reply := (s.step (.move on as (.property name access))).2
        ((∃ c ∈ name.toList, ¬Text.WhiteSpace c) →
          reply = .ok (.handle (.cursor (.property l.owner name access)))) ∧
        ((∀ c ∈ name.toList, Text.WhiteSpace c) →
          reply = .error (.refused (.emptyPropertyName l.owner)))) ∧
      (∀ on as l name parameterTypes, s.handle? on = some (.cursor l) →
        let reply := (s.step (.move on as (.method name parameterTypes))).2
        (IsIdentifier name → ∃ signature : Signature, signature.bean = l.owner ∧
          signature.name = name ∧ signature.parameterTypes = parameterTypes ∧
          reply = .ok (.handle (.cursor (.method signature .returnValue)))) ∧
        (¬IsIdentifier name → reply = .error (.refused (.malformedMethodName l.owner name)))) ∧
      (p.indexCheck = .eager → ∃ m, s.registry.freeze = .ok m) := by
  intro s
  have hs : s.WellPlaced := (wellPlaced_start p catalog).run indirect
  have hp : s.registry.policy = p := policy_run _ script
  refine ⟨?_, ?_, ?_, ?_, ?_⟩
  · intro name h hname
    exact hp ▸ hs.handles hname
  · exact hp ▸ hs.declarations
  · intro on as l name access held
    dsimp only
    rw [reply_property held]
    constructor
    · intro hname
      rw [if_neg (Bool.eq_false_iff.mp (Text.isBlankText_eq_false_iff.mpr hname))]
    · intro hname
      rw [if_pos (Text.isBlankText_iff.mpr hname)]
  · intro on as l name parameterTypes held
    dsimp only
    rw [reply_method held]
    constructor
    · intro hname
      rw [dif_pos (isIdentifier_iff.mpr hname)]
      exact ⟨_, rfl, rfl, rfl, rfl⟩
    · intro hname
      rw [dif_neg fun h => hname (isIdentifier_iff.mp h)]
  · intro eager
    exact hs.freeze (hp ▸ eager)

def astray : List Call :=
  let order : TypeRef := ⟨"shop::Order", 0⟩
  [.root order "order", .move "order" "blank" (.property " \t" .field),
    .move "order" "ship" (.method "ship" [⟨"f64", 0⟩]), .move "ship" "second" (.parameter 1),
    .move "ship" "first" (.parameter 0), .constraint "first" "present" (.builtin .notNull),
    .move "first" "other" (.method "9lives" []), .done "present", .valid "ship"]

theorem placement_wellFormed_astray :
    (∀ c ∈ astray, c.location? = none) ∧
      let s := (start (.empty .strict .builtin)).run astray
      s.registry.declarations.length = 2 ∧
      (∀ d ∈ s.registry.declarations, d.location.WellFormed .strict) ∧
      ∃ m, s.registry.freeze = .ok m := by
  have indirect : ∀ c ∈ astray, c.location? = none := by decide
  obtain ⟨-, hdeclarations, -, -, hfreeze⟩ :=
    placement_wellFormed .strict .builtin astray indirect
  exact ⟨indirect, by decide +kernel, hdeclarations, hfreeze rfl⟩

end Session

end BeanRules
