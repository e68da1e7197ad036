import BeanRules.Proofs.Admission
import BeanRules.Proofs.FirstSeen
import BeanRules.Proofs.Freeze

/-!
Default group sequences after any number of requests. Each request that sets one is accepted or
refused on its own groups alone, and what is stored is a function of the accepted ones: beans in
the order of their first, groups as in their last.
-/
namespace BeanRules

namespace GroupSequences

variable (s : GroupSequences) (bean : TypeRef) (groups : List TypeRef)

theorem beans_set : (s.set bean groups).map (·.1) = addNew (s.map (·.1)) bean := by
  induction s with
  | nil => rfl
  | cons e rest ih =>
    obtain ⟨b, old⟩ := e
    rw [set]
    by_cases hb : b = bean
    · simp [addNew, hb]
    · rw [if_neg hb, List.map_cons, ih, List.map_cons, addNew_cons_of_ne (Ne.symm hb)]

theorem mem_set {e : TypeRef × List TypeRef} (h : e ∈ s.set bean groups) :
    e = (bean, groups) ∨ e ∈ s := by
  induction s with
  | nil => exact .inl (List.mem_singleton.mp h)
  | cons d rest ih =>
    obtain ⟨b, old⟩ := d
    rw [set] at h
    grind

def ofEntries (entries : List (TypeRef × List TypeRef)) : GroupSequences :=
  entries.foldl (fun s e => s.set e.1 e.2) []

variable (entries : List (TypeRef × List TypeRef))

theorem ofEntries_append_singleton (e : TypeRef × List TypeRef) :
    ofEntries (entries ++ [e]) = (ofEntries entries).set e.1 e.2 := by
  unfold ofEntries
  rw [List.foldl_append]
  rfl

theorem beans_ofEntries : (ofEntries entries).map (·.1) = (entries.map (·.1)).eraseDups := by
  rw [← foldl_addNew_nil]
  induction entries using List.reverseRecOn with
  | nil => rfl
  | append_singleton entries e ih =>
    rw [ofEntries_append_singleton, beans_set, ih, List.map_append, List.foldl_append]
    rfl

theorem nodup_beans_ofEntries : ((ofEntries entries).map (·.1)).Nodup := by
  rw [beans_ofEntries]
  exact nodup_eraseDups _

theorem mem_of_mem_ofEntries {e : TypeRef × List TypeRef} (h : e ∈ ofEntries entries) :
    e ∈ entries := by
  induction entries using List.reverseRecOn with
  | nil => cases h
  | append_singleton entries d ih =>
    rw [ofEntries_append_singleton] at h
    rcases mem_set _ _ _ h with rfl | h
    · exact List.mem_append_right _ (List.mem_singleton_self _)
    · exact List.mem_append_left _ (ih h)

def last? (entries : List (TypeRef × List TypeRef)) (bean : TypeRef) : Option (List TypeRef) :=
  (entries.filter (·.1 = bean)).getLast?.map (·.2)

theorem get?_ofEntries : (ofEntries entries).get? bean = last? entries bean := by
  induction entries using List.reverseRecOn with
  | nil => rfl
  | append_singleton entries e ih =>
    rw [ofEntries_append_singleton, get?_set, ih]
    by_cases h : e.1 = bean <;> simp [last?, h]

theorem mem_iff_get? {s : GroupSequences} (h : (s.map (·.1)).Nodup) {bean : TypeRef}
    {groups : List TypeRef} : (bean, groups) ∈ s ↔ s.get? bean = some groups := by
  induction s with
  | nil => simp [get?]
  | cons e rest ih =>
    obtain ⟨b, old⟩ := e
    obtain ⟨hnew, hrest⟩ := List.nodup_cons.mp h
    have ih := ih hrest
    by_cases hb : b = bean
    · subst hb
      have hnot : (b, groups) ∉ rest := fun hmem =>
        hnew (List.mem_map.mpr ⟨_, hmem, rfl⟩)
      simp [get?, hnot, eq_comm]
    · simp only [get?] at ih
      simp [get?, hb, Ne.symm hb, ih]

end GroupSequences

namespace Registry

/-- The groups read so far are `before`, and there was no repetition among them. -/
theorem firstRepeated?_eq_some_iff {before groups : List TypeRef} {g : TypeRef} :
    firstRepeated? before groups = some g ↔
      ∃ earlier later, groups = earlier ++ g :: later ∧ earlier.Nodup ∧
        (∀ x ∈ earlier, x ∉ before) ∧ (g ∈ before ∨ g ∈ earlier) := by
  induction groups generalizing before with
  | nil => simp [firstRepeated?]
  | cons x rest ih =>
    rw [firstRepeated?]
    by_cases hx : x ∈ before
    · rw [if_pos (List.contains_iff_mem.mpr hx), Option.some.injEq]
      constructor
      · rintro rfl
        exact ⟨[], rest, rfl, .nil, nofun, .inl hx⟩
      · rintro ⟨earlier, later, hsplit, -, hnew, -⟩
        cases earlier with
        | nil => exact (List.cons.inj hsplit).1
        | cons y earlier =>
          obtain ⟨rfl, -⟩ := List.cons.inj hsplit
          exact absurd hx (hnew x List.mem_cons_self)
    · rw [if_neg (mt List.contains_iff_mem.mp hx), ih]
      constructor
      · rintro ⟨earlier, later, rfl, hnodup, hnew, hg⟩
        refine ⟨x :: earlier, later, rfl, ?_, ?_, ?_⟩ <;> grind
      · rintro ⟨earlier, later, hsplit, hnodup, hnew, hg⟩
        cases earlier with
        | nil => grind
        | cons y earlier =>
          obtain ⟨rfl, rfl⟩ := List.cons.inj hsplit
          refine ⟨earlier, later, rfl, ?_, ?_, ?_⟩ <;> grind

theorem firstRepeated?_eq_none_iff {before groups : List TypeRef} :
    firstRepeated? before groups = none ↔ groups.Nodup ∧ ∀ g ∈ groups, g ∉ before := by
  induction groups generalizing before with
  | nil => simp [firstRepeated?]
  | cons x rest ih =>
    rw [firstRepeated?]
    by_cases hx : x ∈ before
    · simp [hx]
    · rw [if_neg (mt List.contains_iff_mem.mp hx), ih]
      grind

theorem checkGroups_eq_ok_iff {bean : TypeRef} {groups : List TypeRef} :
    checkGroups bean groups = .ok () ↔ groups ≠ [] ∧ groups.Nodup := by
  have hnone := @firstRepeated?_eq_none_iff [] groups
  unfold checkGroups
  cases groups with
  | nil => simp
  | cons g rest =>
    cases h : firstRepeated? [] (g :: rest) <;> simp_all

theorem checkGroups_eq_error_iff {bean : TypeRef} {groups : List TypeRef} {r : Refusal} :
    checkGroups bean groups = .error r ↔
      (groups = [] ∧ r = .invalidGroups bean .empty) ∨
        ∃ earlier g later, groups = earlier ++ g :: later ∧ earlier.Nodup ∧ g ∈ earlier ∧
          r = .invalidGroups bean (.repeated g) := by
  have hsome (g : TypeRef) := @firstRepeated?_eq_some_iff [] groups g
  simp only [List.not_mem_nil, not_false_eq_true, implies_true, true_and, false_or] at hsome
  unfold checkGroups
  cases groups with
  | nil => simp [eq_comm]
  | cons g rest =>
    simp only [List.isEmpty_cons, Bool.false_eq_true, if_false, reduceCtorEq, false_and, false_or]
    constructor
    · intro h
      split at h
      · rename_i g' hg'
        obtain ⟨earlier, later, hsplit, hnodup, hmem⟩ := (hsome g').mp hg'
        cases h
        exact ⟨earlier, g', later, hsplit, hnodup, hmem, rfl⟩
      · cases h
    · rintro ⟨earlier, g', later, hsplit, hnodup, hmem, rfl⟩
      rw [(hsome g').mpr ⟨earlier, later, hsplit, hnodup, hmem⟩]

end Registry

namespace Session

/-- The bean and the groups that a call gives to set, if it is such a call. A cursor sets those of
the bean that it stands at. -/
def asked? (s : Session) : Call → Option (TypeRef × List TypeRef)
  | .groups on groups =>
    match s.handle? on with
    | some (.cursor (.bean bean)) => some (bean, groups)
    | _ => none
  | .setGroups bean groups => some (bean, groups)
  | _ => none

/-- What a request is asked to set, unless it is refused. -/
def accepted? (s : Session) : Request → Option (TypeRef × List TypeRef)
  | .register _ => none
  | .call c => if (s.step c).2.isOk then s.asked? c else none

def accepted (s : Session) : List Request → List (TypeRef × List TypeRef)
  | [] => []
  | q :: rest => (s.accepted? q).toList ++ (s.serve q).accepted rest

theorem step_of_asked {s : Session} {c : Call} {bean : TypeRef} {groups : List TypeRef}
    (h : s.asked? c = some (bean, groups)) :
    ∃ reply, s.step c =
      match Registry.checkGroups bean groups with
      | .error r => s.fail (.refused r)
      | .ok () => (s.withGroups bean groups, .ok reply) := by
  cases c with
  | groups on groups =>
    simp only [asked?] at h
    split at h
    · rename_i held
      cases h
      refine ⟨.same, ?_⟩
      simp only [step, onCursor, held]
      exact setGroups_eq s _ _ _
    · cases h
  | setGroups bean groups =>
    cases h
    exact ⟨.done, setGroups_eq s _ _ _⟩
  | _ => cases h

theorem sequences_step_of_asked_eq_none {s : Session} {c : Call} (h : s.asked? c = none) :
    (s.step c).1.registry.sequences = s.registry.sequences := by
  have happens := s.step_outcome c
  generalize (s.step c).1 = t, (s.step c).2 = r at happens
  cases happens with
  | sequenced held =>
    simp only [asked?, held] at h
    cases h
  | groupsSet => cases h
  | moved => rw [registry_logged, registry_put]
  | _ => rfl

theorem reply_of_asked {s : Session} {c : Call} {bean : TypeRef} {groups : List TypeRef}
    (h : s.asked? c = some (bean, groups)) (f : Failure) :
    (s.step c).2 = .error f ↔
      ∃ r, Registry.checkGroups bean groups = .error r ∧ f = .refused r := by
  obtain ⟨reply, hstep⟩ := step_of_asked h
  rw [hstep]
  cases Registry.checkGroups bean groups with
  | error r => simp [fail, eq_comm]
  | ok => simp

theorem checkGroups_of_accepted {s : Session} {q : Request} {e : TypeRef × List TypeRef}
    (h : s.accepted? q = some e) : Registry.checkGroups e.1 e.2 = .ok () := by
  cases q with
  | register k => cases h
  | call c =>
    obtain ⟨hok, hasked⟩ := Option.ite_none_right_eq_some.mp h
    cases hcheck : Registry.checkGroups e.1 e.2 with
    | ok => rfl
    | error r =>
      rw [(reply_of_asked hasked _).mpr ⟨r, hcheck, rfl⟩] at hok
      cases hok

theorem sequences_serve (s : Session) (q : Request) :
    (s.serve q).registry.sequences =
      (s.accepted? q).toList.foldl (fun s e => s.set e.1 e.2) s.registry.sequences := by
  cases q with
  | register k => rfl
  | call c =>
    simp only [serve, accepted?]
    cases hasked : s.asked? c with
    | none =>
      rw [sequences_step_of_asked_eq_none hasked]
      simp
    | some e =>
      obtain ⟨reply, hstep⟩ := step_of_asked hasked
      rw [hstep]
      cases Registry.checkGroups e.1 e.2 <;> rfl

theorem sequences_serveAll (s : Session) (requests : List Request) :
    (s.serveAll requests).registry.sequences =
      (s.accepted requests).foldl (fun s e => s.set e.1 e.2) s.registry.sequences := by
  induction requests generalizing s with
  | nil => rfl
  | cons q rest ih =>
    have hserve : s.serveAll (q :: rest) = (s.serve q).serveAll rest := rfl
    rw [hserve, ih, sequences_serve, accepted, List.foldl_append]

theorem checkGroups_of_mem_accepted {s : Session} {requests : List Request}
    {e : TypeRef × List TypeRef} (h : e ∈ s.accepted requests) :
    Registry.checkGroups e.1 e.2 = .ok () := by
  induction requests generalizing s with
  | nil => cases h
  | cons q rest ih =>
    rcases List.mem_append.mp h with h | h
    · exact checkGroups_of_accepted (Option.mem_toList.mp h)
    · exact ih h

/-- Whatever is requested, in whichever order, one sequence is stored for each bean that had one
accepted: in the order of the first ones, with the groups of the last one, and none of them is
empty or repetitive. A request is refused for nothing but its own groups and then changes
nothing. Registry and mapping both answer with what was accepted last. -/
theorem sequences_settled (p : Policy) (catalog : Catalog) (requests : List Request) :
    let s := start (.empty p catalog)
    let t := s.serveAll requests
    let accepted := s.accepted requests
    (t.registry.sequences.map (·.1)).Nodup ∧
      t.registry.sequences.map (·.1) = (accepted.map (·.1)).eraseDups ∧
      (∀ bean groups, (bean, groups) ∈ t.registry.sequences ↔
        GroupSequences.last? accepted bean = some groups) ∧
      (∀ e ∈ t.registry.sequences, e.2 ≠ [] ∧ e.2.Nodup) ∧
      (∀ bean, t.registry.defaultGroups? bean = GroupSequences.last? accepted bean) ∧
      (∀ m, t.registry.freeze = .ok m →
        ∀ bean, m.defaultGroups? bean = GroupSequences.last? accepted bean) ∧
      ∀ c bean groups, t.asked? c = some (bean, groups) →
        ((∃ f, (t.step c).2 = .error f) ↔ groups = [] ∨ ¬groups.Nodup) ∧
        (∀ f, (t.step c).2 = .error f ↔
          (groups = [] ∧ f = .refused (.invalidGroups bean .empty)) ∨
            ∃ earlier g later, groups = earlier ++ g :: later ∧ earlier.Nodup ∧ g ∈ earlier ∧
              f = .refused (.invalidGroups bean (.repeated g))) ∧
        ∀ f, (t.step c).2 = .error f →
          (t.step c).1.registry.sequences = t.registry.sequences := by
  intro s t accepted
  have hsequences : t.registry.sequences = GroupSequences.ofEntries accepted :=
    sequences_serveAll s requests
  have hnodup : (t.registry.sequences.map (·.1)).Nodup := by
    rw [hsequences]
    exact GroupSequences.nodup_beans_ofEntries accepted
  have hget (bean : TypeRef) :
      t.registry.defaultGroups? bean = GroupSequences.last? accepted bean := by
    unfold Registry.defaultGroups?
    rw [hsequences, GroupSequences.get?_ofEntries]
  refine ⟨hnodup, ?_, ?_, ?_, hget, ?_, ?_⟩
  · rw [hsequences, GroupSequences.beans_ofEntries]
  · intro bean groups
    rw [GroupSequences.mem_iff_get? hnodup, ← hget]
    rfl
  · intro e he
    rw [hsequences] at he
    have hmem := GroupSequences.mem_of_mem_ofEntries _ he
    exact Registry.checkGroups_eq_ok_iff.mp (checkGroups_of_mem_accepted hmem)
  · intro m hm bean
    rw [Registry.defaultGroups?_of_freeze hm, hget]
  · intro c bean groups hasked
    refine ⟨?_, ?_, ?_⟩
    · simp only [reply_of_asked hasked]
      have hok := @Registry.checkGroups_eq_ok_iff bean groups
      cases hcheck : Registry.checkGroups bean groups with
      | ok =>
        have hgroups := hok.mp hcheck
        simp [hgroups]
      | error r =>
        rw [hcheck] at hok
        simp only [reduceCtorEq, false_iff, not_and_or, not_not] at hok
        simp [hok]
    · intro f
      simp only [reply_of_asked hasked, Registry.checkGroups_eq_error_iff]
      grind
    · intro f hf
      rw [registry_step_of_failed hf]

/-- Sequences for two beans, set through a cursor and directly. The first bean is given a second
sequence and then two that are refused. -/
def resequencing : List Request :=
  let order : TypeRef := ⟨"shop::Order", 0⟩
  let line : TypeRef := ⟨"shop::Line", 0⟩
  let basic : TypeRef := ⟨"shop::Basic", 0⟩
  [.call (.root order "order"), .call (.groups "order" [basic]),
    .call (.setGroups line [basic, line]), .call (.groups "order" [order, basic]),
    .call (.groups "order" []), .call (.setGroups order [basic, order, order, basic])]

theorem sequences_settled_resequencing :
    let order : TypeRef := ⟨"shop::Order", 0⟩
    let line : TypeRef := ⟨"shop::Line", 0⟩
    let basic : TypeRef := ⟨"shop::Basic", 0⟩
    let t := (start (.empty .strict .builtin)).serveAll resequencing
    t.registry.sequences.map (·.1) = [order, line] ∧
      t.registry.defaultGroups? order = some [order, basic] ∧
      (∃ m, t.registry.freeze = .ok m ∧ m.defaultGroups? order = some [order, basic] ∧
        m.defaultGroups? basic = none) ∧
      (t.step (.groups "order" [basic, line, order, line, basic])).2 =
        .error (.refused (.invalidGroups order (.repeated line))) := by
  intro order line basic t
  obtain ⟨-, hbeans, -, -, hregistry, hmapping, hreply⟩ :=
    sequences_settled .strict .builtin resequencing
  have hfreeze : t.registry.freeze =
      .ok (.ofDeclarations t.registry.declarations t.registry.sequences) := rfl
  have hlast : GroupSequences.last? ((start (.empty .strict .builtin)).accepted resequencing)
      order = some [order, basic] := by decide +kernel
  have hnone : GroupSequences.last? ((start (.empty .strict .builtin)).accepted resequencing)
      basic = none := by decide +kernel
  have hasked : t.asked? (.groups "order" [basic, line, order, line, basic]) =
      some (order, [basic, line, order, line, basic]) := by decide +kernel
  refine ⟨?_, ?_, ⟨_, hfreeze, ?_, ?_⟩, ?_⟩
  · rw [hbeans]
    decide +kernel
  · rw [hregistry, hlast]
  · rw [hmapping _ hfreeze, hlast]
  · rw [hmapping _ hfreeze, hnone]
  · refine ((hreply _ _ _ hasked).2.1 _).mpr (.inr ?_)
    exact ⟨[basic, line, order], line, [basic], rfl, by decide, by decide, rfl⟩

end Session

end BeanRules
