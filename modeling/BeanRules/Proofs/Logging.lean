import BeanRules.Proofs.Destination
import BeanRules.Proofs.Sequences

/-!
The log mirrors the session. Whatever is requested, the debug messages about declarations tell the
declarations one by one, those about group sequences tell the accepted ones, and every navigation
is traced once. What fails is not logged, except for a freeze.
-/
namespace BeanRules

def Declaration.notice : Declaration → String
  | constraint l c => s!"constraint {c.kind} declared at {l}"
  | cascade l => s!"cascade declared at {l}"

def GroupSequences.notice (bean : TypeRef) (groups : List TypeRef) : String :=
  s!"default group sequence of {bean} set to {groups.length} groups"

def Refusal.notice (r : Refusal) : String := s!"rejecting mapping: {r.message}"

def Mapping.notice (m : Mapping) : String :=
  s!"froze constraint mapping: {m.declarations.length} declarations over {m.beans.length} beans"

theorem Declaration.message_event (d : Declaration) : d.event.message = d.notice := by
  cases d <;> rfl

def Move.navigates : Move → Bool
  | .stay => false
  | _ => true

def Call.navigates : Call → Bool
  | .move _ _ m => m.navigates
  | _ => false

namespace Event

/-- A debug event whose message begins with a text. What stands in it further on is not looked at,
so this holds of every message of the form that the text begins. -/
def debugs (start : String) (e : Event) : Bool :=
  e.level == .debug && start.toList.isPrefixOf e.message.toList

def tellsDeclaration (e : Event) : Bool :=
  e.debugs "constraint " || e.debugs "cascade declared at "

def tellsSequence (e : Event) : Bool := e.debugs "default group sequence of "

def isDeclaration : Event → Bool
  | constraintDeclared .. => true
  | cascadeDeclared _ => true
  | _ => false

def isSequence : Event → Bool
  | groupsSet .. => true
  | _ => false

-- The text in front of what is filled in tells the debug messages apart.
theorem tellsDeclaration_eq (e : Event) : e.tellsDeclaration = e.isDeclaration := by
  cases e with
  | kindRegistered | constraintDeclared | cascadeDeclared | groupsSet =>
    unfold tellsDeclaration debugs message
    simp only [String.toList_append]
    rfl
  | _ => rfl

theorem tellsSequence_eq (e : Event) : e.tellsSequence = e.isSequence := by
  cases e with
  | kindRegistered | constraintDeclared | cascadeDeclared | groupsSet =>
    unfold tellsSequence debugs message
    simp only [String.toList_append]
    rfl
  | _ => rfl

end Event

theorem Move.level_of_event? {l : Location} {m : Move} {e : Event} (h : m.event? l = some e) :
    e.level = .trace := by
  unfold event? at h
  split at h
  case h_6 => cases h
  all_goals
    cases h
    rfl

theorem Move.isSome_event? {l l' : Location} {m : Move} (h : l.destination? m = some l') :
    (m.event? l').isSome = m.navigates := by
  cases m with
  | bean | property =>
    cases h
    rfl
  | method name parameterTypes =>
    simp only [Location.destination?] at h
    split at h
    · cases h
      rfl
    · cases h
  | parameter | returnValue =>
    obtain ⟨s, -, rfl⟩ := Option.map_eq_some_iff.mp h
    rfl
  | stay => cases l' <;> rfl

/-- What a part of the log tells: declarations, sequences, and a number of navigations. -/
structure Tells (events : List Event) (declared : List Declaration)
    (accepted : List (TypeRef × List TypeRef)) (navigations : Nat) : Prop where
  declarations : events.filter (·.isDeclaration) = declared.map Declaration.event
  sequences : events.filter (·.isSequence) = accepted.map fun e => .groupsSet e.1 e.2.length
  traces : events.countP (·.level = .trace) = navigations
  session : ∀ e ∈ events, e.level = .trace ∨ e.level = .debug

namespace Tells

theorem nil : Tells [] [] [] 0 := ⟨rfl, rfl, rfl, nofun⟩

theorem append {events events' : List Event} {declared declared' : List Declaration}
    {accepted accepted' : List (TypeRef × List TypeRef)} {n n' : Nat}
    (h : Tells events declared accepted n) (h' : Tells events' declared' accepted' n') :
    Tells (events ++ events') (declared ++ declared') (accepted ++ accepted') (n + n') where
  declarations := by rw [List.filter_append, List.map_append, h.declarations, h'.declarations]
  sequences := by rw [List.filter_append, List.map_append, h.sequences, h'.sequences]
  traces := by rw [List.countP_append, h.traces, h'.traces]
  session e he := (List.mem_append.mp he).elim (h.session e) (h'.session e)

theorem declared (d : Declaration) : Tells [d.event] [d] [] 0 := by
  cases d with
  | constraint | cascade => exact ⟨rfl, rfl, rfl, fun e he => .inr (List.mem_singleton.mp he ▸ rfl)⟩

theorem groupsSet (bean : TypeRef) (groups : List TypeRef) :
    Tells [.groupsSet bean groups.length] [] [(bean, groups)] 0 :=
  ⟨rfl, rfl, rfl, fun _ he => .inr (List.mem_singleton.mp he ▸ rfl)⟩

theorem registered (kind : String) : Tells [.kindRegistered kind] [] [] 0 :=
  ⟨rfl, rfl, rfl, fun _ he => .inr (List.mem_singleton.mp he ▸ rfl)⟩

theorem traced {e : Event} (h : e.level = .trace) : Tells [e] [] [] 1 := by
  cases e with
  | kindRegistered | constraintDeclared | cascadeDeclared | groupsSet | frozen | rejected => cases h
  | _ => exact ⟨rfl, rfl, rfl, fun _ he => .inl (List.mem_singleton.mp he ▸ rfl)⟩

theorem moved {l l' : Location} {m : Move} (h : l.destination? m = some l') :
    Tells (m.event? l').toList [] [] m.navigates.toNat := by
  rw [← Move.isSome_event? h]
  cases hevent : m.event? l' with
  | none => exact .nil
  | some e => exact .traced (Move.level_of_event? hevent)

end Tells

namespace Session

def navigated (s : Session) : Request → Bool
  | .register _ => false
  | .call c => c.navigates && (s.step c).2.isOk

def navigations (s : Session) : List Request → Nat
  | [] => 0
  | q :: rest => (s.navigated q).toNat + (s.serve q).navigations rest

theorem asked?_navigates_of_begins (s : Session) {c : Call} {on as kind : String}
    {setters : Option Builtin} (h : c.begins? = some (on, as, kind, setters)) :
    s.asked? c = none ∧ c.navigates = false := by
  cases c with
  | constraint | generic => exact ⟨rfl, rfl⟩
  | _ => cases h

theorem asked?_navigates_of_edits (s : Session) {c : Call} {on as : String} {e : Edit}
    (h : c.edits? = some (on, as, e)) : s.asked? c = none ∧ c.navigates = false := by
  cases c with
  | set | edit => exact ⟨rfl, rfl⟩
  | _ => cases h

theorem log_logged (s : Session) (e : Option Event) : (s.logged e).log = s.log ++ e.toList := by
  cases e with
  | none => exact (List.append_nil s.log).symm
  | some e => rfl

theorem log_step_of_navigates {s : Session} {on as : String} {m : Move} {reply : Reply}
    (hm : m.navigates = true) (h : (s.step (.move on as m)).2 = .ok reply) :
    ∃ e, (s.step (.move on as m)).1.log = s.log ++ [e] ∧ e.level = .trace := by
  have happens := s.step_outcome (.move on as m)
  rw [h] at happens
  generalize (s.step (.move on as m)).1 = t at happens ⊢
  cases happens with
  | moved held leads =>
    rw [← Move.isSome_event? (Location.destination?_of_move? leads)] at hm
    obtain ⟨e, he⟩ := Option.isSome_iff_exists.mp hm
    refine ⟨e, ?_, Move.level_of_event? he⟩
    rw [log_logged, he]
    rfl
  | begun begins => cases begins
  | edited edits => cases edits

theorem log_step_of_failed {s : Session} {c : Call} {f : Failure}
    (h : (s.step c).2 = .error f) : (s.step c).1.log = s.log := by
  have happens := s.step_outcome c
  rw [h] at happens
  generalize (s.step c).1 = t at happens
  cases happens with
  | failed => rfl
  | refused => rfl

theorem tells_serve (s : Session) (q : Request) :
    ∃ events declared, (s.serve q).log = s.log ++ events ∧
      (s.serve q).registry.declarations = s.registry.declarations ++ declared ∧
      Tells events declared (s.accepted? q).toList (s.navigated q).toNat := by
  cases q with
  | register k => exact ⟨_, [], rfl, (List.append_nil _).symm, .registered k.name⟩
  | call c =>
    have happens := s.step_outcome c
    simp only [serve, accepted?, navigated]
    generalize (s.step c).1 = t, (s.step c).2 = r at happens ⊢
    cases happens with
    | failed | refused =>
      refine ⟨[], [], by simp [drop], by simp, ?_⟩
      simp [Except.isOk, Except.toBool, Tells.nil]
    | rooted bean as => exact ⟨[], [], by simp [put], by simp, .nil⟩
    | @moved on as m l l' held leads =>
      refine ⟨(m.event? l').toList, [], log_logged _ _, by simp, ?_⟩
      simpa [asked?, Except.isOk, Except.toBool, Call.navigates] using
        Tells.moved (Location.destination?_of_move? leads)
    | begun begins =>
      obtain ⟨hasked, hmove⟩ := s.asked?_navigates_of_begins begins
      refine ⟨[], [], by simp [put], by simp, ?_⟩
      simp [hasked, hmove, Tells.nil]
    | edited edits =>
      obtain ⟨hasked, hmove⟩ := s.asked?_navigates_of_edits edits
      refine ⟨[], [], by simp [put, drop], by simp, ?_⟩
      simp [hasked, hmove, Tells.nil]
    | completed | cascaded | constraintAdded | cascadeAdded =>
      exact ⟨_, _, rfl, rfl, .declared _⟩
    | @sequenced on bean groups held passes =>
      -- The call names no bean, so what is accepted has to be read off the cursor.
      have hasked : s.asked? (.groups on groups) = some (bean, groups) := by simp [asked?, held]
      refine ⟨_, [], rfl, (List.append_nil _).symm, ?_⟩
      rw [hasked]
      exact .groupsSet bean groups
    | groupsSet passes => exact ⟨_, [], rfl, (List.append_nil _).symm, .groupsSet _ _⟩

theorem tells_serveAll (s : Session) (requests : List Request) :
    ∃ events declared, (s.serveAll requests).log = s.log ++ events ∧
      (s.serveAll requests).registry.declarations = s.registry.declarations ++ declared ∧
      Tells events declared (s.accepted requests) (s.navigations requests) := by
  induction requests generalizing s with
  | nil => exact ⟨[], [], (List.append_nil _).symm, (List.append_nil _).symm, .nil⟩
  | cons q rest ih =>
    have hserve : s.serveAll (q :: rest) = (s.serve q).serveAll rest := rfl
    obtain ⟨events, declared, hlog, hdeclarations, htells⟩ := s.tells_serve q
    obtain ⟨events', declared', hlog', hdeclarations', htells'⟩ := ih (s.serve q)
    refine ⟨events ++ events', declared ++ declared', ?_, ?_, htells.append htells'⟩
    · rw [hserve, hlog', hlog, List.append_assoc]
    · rw [hserve, hdeclarations', hdeclarations, List.append_assoc]

/-- Whatever is requested, in whichever order: the debug messages about declarations are those of
the declarations, in their order; there is one about a sequence for each that is accepted; each
navigation that succeeds is traced once, and nothing else is traced. A call that fails is not
logged. The session ends with one line, and only there with one that is not a trace or a debug
line: it reports why the mapping is refused, or how much is in it. -/
theorem log_mirrors (p : Policy) (catalog : Catalog) (requests : List Request) :
    let s := start (.empty p catalog)
    let t := s.serveAll requests
    (t.log.filter (·.tellsDeclaration)).map Event.message =
        t.registry.declarations.map Declaration.notice ∧
      (t.log.filter (·.tellsSequence)).map Event.message =
        (s.accepted requests).map (fun e => GroupSequences.notice e.1 e.2) ∧
      t.log.countP (·.level = .trace) = s.navigations requests ∧
      (∀ on as m reply, m.navigates = true → (t.step (.move on as m)).2 = .ok reply →
        ∃ e, (t.step (.move on as m)).1.log = t.log ++ [e] ∧ e.level = .trace) ∧
      (∀ bean as, (t.step (.root bean as)).1.log = t.log) ∧
      (∀ c f, (t.step c).2 = .error f → (t.step c).1.log = t.log) ∧
      (∀ e ∈ t.log, e.level = .trace ∨ e.level = .debug) ∧
      (∀ r, t.freeze.1 = .error r → ∃ e, t.freeze.2 = t.log ++ [e] ∧
        e.level = .warn ∧ e.message = r.notice) ∧
      ∀ m, t.freeze.1 = .ok m → ∃ e, t.freeze.2 = t.log ++ [e] ∧ e.level = .info ∧
        e.message = m.notice := by
  intro s t
  obtain ⟨events, declared, hlog, hdeclarations, htells⟩ := s.tells_serveAll requests
  have hevents : t.log = events := hlog
  have hdeclared : t.registry.declarations = declared := hdeclarations
  refine ⟨?_, ?_, ?_, ?_, ?_, ?_, ?_, ?_, ?_⟩
  · simp only [Event.tellsDeclaration_eq]
    rw [hevents, hdeclared, htells.declarations, List.map_map]
    exact List.map_congr_left fun d _ => d.message_event
  · simp only [Event.tellsSequence_eq]
    rw [hevents, htells.sequences, List.map_map]
    rfl
  · rw [hevents]
    exact htells.traces
  · intro on as m reply
    exact log_step_of_navigates
  · intro bean as
    rfl
  · intro c f
    exact log_step_of_failed
  · rw [hevents]
    exact htells.session
  · intro r hr
    refine ⟨_, rfl, ?_⟩
    rw [Registry.freezeEvent, show t.registry.freeze = .error r from hr]
    exact ⟨rfl, rfl⟩
  · intro m hm
    refine ⟨_, rfl, ?_⟩
    rw [Registry.freezeEvent, show t.registry.freeze = .ok m from hm]
    exact ⟨rfl, rfl⟩

/-- Moves, one of them refused and one of them to a parameter that is not there, a copy of a
cursor, a constraint, and two sequences of which one is refused. -/
def telling : List Request :=
  let order : TypeRef := ⟨"shop::Order", 0⟩
  [.call (.root order "order"), .call (.move "order" "ship" (.method "ship" [])),
    .call (.move "ship" "again" .stay), .call (.move "order" "none" (.method "1" [])),
    .call (.constraint "again" "present" (.builtin .notNull)), .call (.done "present"),
    .register (.bare "Even"), .call (.groups "order" [order]), .call (.groups "order" []),
    .call (.move "ship" "far" (.parameter 0))]

theorem log_mirrors_telling :
    let order : TypeRef := ⟨"shop::Order", 0⟩
    let t := (start (.empty .lenient .builtin)).serveAll telling
    let u := (start (.empty .lenient .builtin)).serveAll (telling ++ [.call (.valid "far")])
    (t.log.filter (·.tellsDeclaration)).map Event.message =
        ["constraint NotNull declared at Order.ship() return value"] ∧
      (t.log.filter (·.tellsSequence)).map Event.message =
        ["default group sequence of Order set to 1 groups"] ∧
      t.log.countP (·.level = .trace) = 2 ∧
      (∃ e, (t.step (.move "far" "home" (.bean order))).1.log = t.log ++ [e] ∧
        e.level = .trace) ∧
      (t.step (.groups "order" [order, order])).1.log = t.log ∧
      (∃ e, t.freeze.2 = t.log ++ [e] ∧ e.level = .info ∧
        e.message = "froze constraint mapping: 1 declarations over 1 beans") ∧
      ∃ e, u.freeze.2 = u.log ++ [e] ∧ e.level = .warn ∧ e.message =
        "rejecting mapping: Parameter index 0 out of range for Order.ship() (arity 0)" := by
  intro order t u
  obtain ⟨hdeclared, hsequences, htraces, hmove, -, hfails, -, -, hfrozen⟩ :=
    log_mirrors .lenient .builtin telling
  obtain ⟨-, -, -, -, -, -, -, hrejected, -⟩ :=
    log_mirrors .lenient .builtin (telling ++ [.call (.valid "far")])
  refine ⟨?_, ?_, ?_, hmove _ _ _ _ rfl rfl, hfails _ _ rfl, ?_, ?_⟩
  · rw [hdeclared]
    decide +kernel
  · rw [hsequences]
    decide +kernel
  · rw [htraces]
    decide +kernel
  · obtain ⟨e, hlog, hlevel, hmessage⟩ := hfrozen _ rfl
    refine ⟨e, hlog, hlevel, ?_⟩
    rw [hmessage]
    decide +kernel
  · obtain ⟨e, hlog, hlevel, hmessage⟩ := hrejected _ rfl
    refine ⟨e, hlog, hlevel, ?_⟩
    rw [hmessage]
    decide +kernel

end Session

end BeanRules
